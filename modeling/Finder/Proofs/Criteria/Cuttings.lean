import Finder.Proofs.Criteria.Resolution

namespace Finder

open Text

-- Each of the pieces in front ends at an underscore, which is lost. Behind the last underscore a
-- part is cut before capitals.
structure CutBetween (part : List Char) (front behind : List (List Char)) : Prop where
  joined : part = (front.flatMap fun piece => piece ++ ['_']) ++ behind.flatten
  plain : ∀ piece ∈ front ++ behind, '_' ∉ piece
  piece_ne : ∀ piece ∈ front ++ behind, piece ≠ []
  behind_ne : behind ≠ []
  capital : ∀ piece ∈ behind.tail, ∃ c ∈ piece.head?, isUpper c

def Cuts (part : List Char) (pieces : List (List Char)) : Prop :=
  ∃ front behind, pieces = front ++ behind ∧ CutBetween part front behind

def lengths (pieces : List (List Char)) : List Nat :=
  pieces.map List.length

theorem lengths_cons_lt (head : List Char) (pieces other : List (List Char))
    (h : lengths other < lengths pieces) : lengths (head :: other) < lengths (head :: pieces) :=
  List.cons_lt_cons_self.mpr h

theorem lengths_lt_of_head (head next : List Char) (pieces other : List (List Char))
    (h : next.length < head.length) : lengths (next :: other) < lengths (head :: pieces) :=
  List.cons_lt_cons_iff.mpr (.inl h)

theorem cutAtUnderscore_append (head tail : List Char) (h : '_' ∉ head) :
    cutAtUnderscore (head ++ '_' :: tail) = some (head, tail) := by
  induction head with
  | nil => simp [cutAtUnderscore]
  | cons c head ih =>
      rw [List.mem_cons, not_or] at h
      rw [List.cons_append, cutAtUnderscore, if_neg (Ne.symm h.1), ih h.2]
      rfl

-- Heads are held last letter first, so that the passed characters stand before `before` in reverse.
theorem mem_capitalCuts_iff (before part : List Char) (cut : List Char × List Char) :
    cut ∈ capitalCuts before part ↔ cut.1 ≠ [] ∧ (∃ c ∈ cut.2.head?, isUpper c) ∧
      ∃ passed, cut.1 = passed.reverse ++ before ∧ part = passed ++ cut.2 := by
  induction part generalizing before with
  | nil =>
      simp only [capitalCuts, List.not_mem_nil, false_iff]
      intro hcut
      obtain ⟨_, ⟨c, hc, _⟩, passed, _, he⟩ := hcut
      have hnil : cut.2 = [] := (List.append_eq_nil_iff.mp he.symm).2
      simp [hnil] at hc
  | cons c rest ih =>
      -- The cut is made here, or further on.
      have hmem : cut ∈ capitalCuts before (c :: rest) ↔
          (before ≠ [] ∧ isUpper c) ∧ cut = (before, c :: rest) ∨
            cut ∈ capitalCuts (c :: before) rest := by
        rw [capitalCuts]
        by_cases hhere : before ≠ [] ∧ isUpper c
        · rw [if_pos hhere, List.mem_cons, and_iff_right hhere]
        · rw [if_neg hhere, or_iff_right fun h => hhere h.1]
      rw [hmem, ih]
      constructor
      · intro h
        rcases h with ⟨⟨hne, hupper⟩, rfl⟩ | ⟨hne, hupper, passed, hhead, rfl⟩
        · exact ⟨hne, ⟨c, rfl, hupper⟩, [], rfl, rfl⟩
        · exact ⟨hne, hupper, c :: passed, by simp [hhead], rfl⟩
      · intro hcut
        obtain ⟨hne, hupper, passed, hhead, he⟩ := hcut
        cases passed with
        | nil =>
            obtain rfl : cut = (before, c :: rest) := Prod.ext hhead he.symm
            obtain ⟨d, hd, hupper⟩ := hupper
            obtain rfl : c = d := Option.some.inj hd
            exact .inl ⟨⟨hne, hupper⟩, rfl⟩
        | cons d passed =>
            obtain ⟨rfl, rfl⟩ := List.cons.inj he
            exact .inr ⟨hne, hupper, passed, by simp [hhead], rfl⟩

theorem capitalCuts_ascending (before part : List Char) :
    (capitalCuts before part).Pairwise fun cut next => cut.1.length < next.1.length := by
  induction part generalizing before with
  | nil => exact .nil
  | cons c rest ih =>
      rw [capitalCuts]
      by_cases hhere : before ≠ [] ∧ isUpper c
      · rw [if_pos hhere, List.pairwise_cons]
        refine ⟨?_, ih (c :: before)⟩
        intro next hnext
        obtain ⟨_, _, passed, hhead, _⟩ := (mem_capitalCuts_iff _ _ _).mp hnext
        have hlength : next.1.length = passed.length + (before.length + 1) := by simp [hhead]
        show before.length < next.1.length
        omega
      · rw [if_neg hhere]
        exact ih (c :: before)

-- A head leaves at least a capital behind.
theorem capitalCuts_head_shorter (part : List Char) (cut : List Char × List Char)
    (h : cut ∈ capitalCuts [] part) : cut.1.length < part.length := by
  obtain ⟨_, ⟨c, hc, _⟩, _⟩ := (mem_capitalCuts_iff [] part cut).mp h
  have hlength := (capitalCuts_length h).1
  have htail : 0 < cut.2.length := List.length_pos_of_mem (List.mem_of_mem_head? hc)
  rw [List.length_nil] at hlength
  omega

theorem Cuts.ne_nil {part : List Char} {pieces : List (List Char)} (h : Cuts part pieces) :
    pieces ≠ [] := by
  obtain ⟨front, behind, rfl, hcut⟩ := h
  exact List.append_ne_nil_of_right_ne_nil front hcut.behind_ne

theorem not_cuts_nil (pieces : List (List Char)) : ¬Cuts [] pieces := by
  intro hcuts
  obtain ⟨front, behind, _, hcut⟩ := hcuts
  have hjoined := hcut.joined.symm
  rw [List.append_eq_nil_iff] at hjoined
  obtain ⟨piece, rest, rfl⟩ := List.exists_cons_of_ne_nil hcut.behind_ne
  rw [List.flatten_cons, List.append_eq_nil_iff] at hjoined
  exact hcut.piece_ne piece (by simp) hjoined.2.1

-- The first underscore ends the first piece.
theorem cuts_append_iff (head tail : List Char) (h : '_' ∉ head) (pieces : List (List Char)) :
    Cuts (head ++ '_' :: tail) pieces ↔
      head ≠ [] ∧ ∃ later, pieces = head :: later ∧ Cuts tail later := by
  constructor
  · intro hcuts
    obtain ⟨front, behind, hpieces, hcut⟩ := hcuts
    cases front with
    | nil =>
        have hmem : '_' ∈ behind.flatten := by
          have hj := hcut.joined
          rw [List.flatMap_nil, List.nil_append] at hj
          simp [← hj]
        obtain ⟨piece, hp, hu⟩ := List.mem_flatten.mp hmem
        exact absurd hu (hcut.plain piece hp)
    | cons piece front =>
        have hplain : '_' ∉ piece := hcut.plain piece (by simp)
        have hj := hcut.joined
        rw [List.flatMap_cons, List.append_assoc, List.append_assoc, List.singleton_append] at hj
        have hfirst := cutAtUnderscore_append head tail h
        rw [hj, cutAtUnderscore_append piece _ hplain] at hfirst
        obtain ⟨rfl, rfl⟩ := Prod.mk.inj (Option.some.inj hfirst)
        refine ⟨hcut.piece_ne piece (by simp), front ++ behind, hpieces, front, behind, rfl, ?_⟩
        exact {
          joined := rfl
          plain := fun other ho => hcut.plain other (List.mem_cons_of_mem _ ho)
          piece_ne := fun other ho => hcut.piece_ne other (List.mem_cons_of_mem _ ho)
          behind_ne := hcut.behind_ne
          capital := hcut.capital }
  · intro hrest
    obtain ⟨hne, later, hpieces, front, behind, hlater, hcut⟩ := hrest
    refine ⟨head :: front, behind, by rw [hpieces, hlater]; rfl, ?_⟩
    exact {
      joined := by simp [hcut.joined]
      plain := by
        rw [List.cons_append, List.forall_mem_cons]
        exact ⟨h, hcut.plain⟩
      piece_ne := by
        rw [List.cons_append, List.forall_mem_cons]
        exact ⟨hne, hcut.piece_ne⟩
      behind_ne := hcut.behind_ne
      capital := hcut.capital }

theorem cuts_iff_of_plain (part : List Char) (h : '_' ∉ part) (pieces : List (List Char)) :
    Cuts part pieces ↔ CutBetween part [] pieces := by
  constructor
  · intro hcuts
    obtain ⟨front, behind, hpieces, hcut⟩ := hcuts
    cases front with
    | nil => exact hpieces ▸ hcut
    | cons piece front =>
        refine absurd ?_ h
        rw [hcut.joined]
        simp
  · exact fun hcut => ⟨[], pieces, rfl, hcut⟩

-- A part without an underscore is left whole, or first cut before one of its capitals.
theorem cuts_plain_iff (part : List Char) (h : '_' ∉ part) (pieces : List (List Char)) :
    Cuts part pieces ↔ part ≠ [] ∧ pieces = [part] ∨
      ∃ cut ∈ (capitalCuts [] part).reverse, ∃ later,
        pieces = cut.1.reverse :: later ∧ Cuts cut.2 later := by
  simp only [List.mem_reverse, mem_capitalCuts_iff, List.append_nil]
  constructor
  · intro hcuts
    have hcut := (cuts_iff_of_plain part h pieces).mp hcuts
    obtain ⟨piece, later, rfl⟩ := List.exists_cons_of_ne_nil hcut.behind_ne
    have hne : piece ≠ [] := hcut.piece_ne piece (by simp)
    have hj : part = piece ++ later.flatten := by simpa using hcut.joined
    by_cases hlater : later = []
    · left
      rw [hlater, List.flatten_nil, List.append_nil] at hj
      exact ⟨hj ▸ hne, by rw [hlater, hj]⟩
    · right
      obtain ⟨next, rest, rfl⟩ := List.exists_cons_of_ne_nil hlater
      obtain ⟨c, hc, hupper⟩ := hcut.capital next (by simp)
      refine ⟨(piece.reverse, (next :: rest).flatten), ⟨by simpa using hne, ⟨c, ?_, hupper⟩, piece,
        rfl, hj⟩, next :: rest, by simp, [], next :: rest, rfl, ?_⟩
      · rw [List.flatten_cons, List.head?_append, Option.mem_def.mp hc]
        rfl
      · exact {
          joined := by simp
          plain := fun other ho => hcut.plain other (List.mem_cons_of_mem _ ho)
          piece_ne := fun other ho => hcut.piece_ne other (List.mem_cons_of_mem _ ho)
          behind_ne := hlater
          capital := fun other ho => hcut.capital other (List.mem_of_mem_tail ho) }
  · intro hcases
    rw [cuts_iff_of_plain part h]
    rcases hcases with ⟨hne, rfl⟩ | ⟨⟨head, tail⟩, ⟨hhead, hupper, _, rfl, hj⟩, later, rfl, hlater⟩
    · exact {
        joined := by simp
        plain := by simpa using h
        piece_ne := by simpa using hne
        behind_ne := by simp
        capital := by simp }
    · rw [hj, List.mem_append, not_or] at h
      have hcut := (cuts_iff_of_plain tail h.2 later).mp hlater
      have htail : tail = later.flatten := by simpa using hcut.joined
      rw [List.reverse_reverse]
      exact {
        joined := by simp [hj, htail]
        plain := by
          rw [List.nil_append, List.forall_mem_cons]
          exact ⟨h.1, hcut.plain⟩
        piece_ne := by
          rw [List.nil_append, List.forall_mem_cons]
          exact ⟨by simpa using hhead, hcut.piece_ne⟩
        behind_ne := by simp
        capital := by
          obtain ⟨next, rest, rfl⟩ := List.exists_cons_of_ne_nil hcut.behind_ne
          rw [List.tail_cons, List.forall_mem_cons]
          refine ⟨?_, hcut.capital⟩
          have hnext : next ≠ [] := hcut.piece_ne next (by simp)
          rw [htail, List.flatten_cons, List.head?_append_of_ne_nil _ hnext] at hupper
          exact hupper }

end Finder
