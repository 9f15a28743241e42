import Finder.Text.CodeSet
import Mathlib.Data.List.Chain
import Mathlib.Data.List.TakeWhile

namespace Finder.Text

namespace CodeRun

-- A run that ends before the next one begins.
def Precedes (run next : CodeRun) : Prop :=
  run.first ≤ run.last ∧ run.last < next.first

instance : DecidableRel Precedes :=
  fun run next => inferInstanceAs (Decidable (run.first ≤ run.last ∧ run.last < next.first))

instance : Trans Precedes Precedes Precedes where
  trans := fun h h' => ⟨h.1, h.2.trans (h'.1.trans_lt h'.2)⟩

-- Every code point of the inner run lies in the other one.
def covers (outer inner : CodeRun) : Bool :=
  outer.step == 1 && outer.first ≤ inner.first && inner.last ≤ outer.last

-- Each run of `inner` is covered. Where both lists ascend, a covered run need not be seen again.
def coverAll (inner : List CodeRun) : List CodeRun → Bool
  | [] => inner.isEmpty
  | outer :: rest => coverAll (inner.dropWhile outer.covers) rest

-- All code points of such a run are even, or all are odd.
def keepsParity (run : CodeRun) : Bool :=
  run.step % 2 == 0 || run.first == run.last

-- The runs stand apart, or they alternate.
def apart (first second : CodeRun) : Bool :=
  first.last < second.first || second.last < first.first ||
    (first.keepsParity && second.keepsParity && (first.first + second.first) % 2 == 1)

-- No run of `others` shares a code point with one of the list. Runs left behind are not looked at
-- again, and the look ahead ends where the run ends.
def apartAll (others : List CodeRun) : List CodeRun → Bool
  | [] => true
  | run :: rest =>
      let near := others.dropWhile fun other => other.last < run.first
      (near.takeWhile fun other => other.first ≤ run.last).all run.apart && apartAll near rest

theorem has_iff (run : CodeRun) (code : Nat) :
    run.has code ↔ run.first ≤ code ∧ code ≤ run.last ∧ (code - run.first) % run.step = 0 := by
  simp [has, and_assoc]

theorem mem_of_anyHas (runs : List CodeRun) (code : Nat) (h : anyHas runs code) :
    ∃ run ∈ runs, run.has code := by
  induction runs with
  | nil => simp [anyHas] at h
  | cons run rest ih =>
      simp only [anyHas] at h
      split at h
      · cases h
      · split at h
        · exact ⟨run, List.mem_cons_self, h⟩
        · obtain ⟨other, hm, hh⟩ := ih h
          exact ⟨other, List.mem_cons_of_mem _ hm, hh⟩

-- The search ends early, so it finds a run for sure only where the runs ascend.
theorem anyHas_of_mem (runs : List CodeRun) (code : Nat) (h : runs.Pairwise Precedes)
    (run : CodeRun) (hm : run ∈ runs) (hh : run.has code) : anyHas runs code := by
  induction runs with
  | nil => cases hm
  | cons first rest ih =>
      obtain ⟨hfirst, hlast, _⟩ := (has_iff run code).mp hh
      obtain ⟨hp, hr⟩ := List.pairwise_cons.mp h
      simp only [anyHas]
      rcases List.mem_cons.mp hm with rfl | hm
      · rw [if_neg (by omega), if_pos hlast]
        exact hh
      · have hlt := hp run hm
        unfold Precedes at hlt
        rw [if_neg (by omega), if_neg (by omega)]
        exact ih hr hm

theorem has_of_covers (outer inner : CodeRun) (code : Nat) (h : outer.covers inner)
    (hh : inner.has code) : outer.has code := by
  simp only [covers, Bool.and_eq_true, beq_iff_eq, decide_eq_true_eq] at h
  obtain ⟨hf, hl, _⟩ := (has_iff inner code).mp hh
  exact (has_iff outer code).mpr ⟨by omega, by omega, by rw [h.1.1, Nat.mod_one]⟩

theorem mem_of_coverAll (inner outer : List CodeRun) (h : coverAll inner outer) :
    ∀ run ∈ inner, ∃ other ∈ outer, other.covers run := by
  induction outer generalizing inner with
  | nil =>
      simp only [coverAll, List.isEmpty_iff] at h
      simp [h]
  | cons first rest ih =>
      intro run hm
      rw [← List.takeWhile_append_dropWhile (p := first.covers) (l := inner)] at hm
      rcases List.mem_append.mp hm with hm | hm
      · exact ⟨first, List.mem_cons_self, List.mem_takeWhile_imp hm⟩
      · obtain ⟨other, ho, hc⟩ := ih _ h run hm
        exact ⟨other, List.mem_cons_of_mem _ ho, hc⟩

theorem mod_two_of_keepsParity (run : CodeRun) (code : Nat) (h : run.keepsParity)
    (hh : run.has code) : code % 2 = run.first % 2 := by
  obtain ⟨hf, hl, hs⟩ := (has_iff run code).mp hh
  simp only [keepsParity, Bool.or_eq_true, beq_iff_eq] at h
  rcases h with h | h
  · have hd : 2 ∣ code - run.first :=
      Nat.dvd_trans (Nat.dvd_of_mod_eq_zero h) (Nat.dvd_of_mod_eq_zero hs)
    omega
  · omega

theorem not_has_of_apart (first second : CodeRun) (code : Nat) (h : first.apart second)
    (hh : first.has code) : ¬ second.has code := by
  intro hs
  obtain ⟨hf, hl, _⟩ := (has_iff first code).mp hh
  obtain ⟨hf', hl', _⟩ := (has_iff second code).mp hs
  simp only [apart, Bool.or_eq_true, Bool.and_eq_true, decide_eq_true_eq, beq_iff_eq] at h
  rcases h with (h | h) | ⟨⟨hp, hp'⟩, h⟩
  · omega
  · omega
  · have := mod_two_of_keepsParity first code hp hh
    have := mod_two_of_keepsParity second code hp' hs
    omega

-- The runs from the first one on that begins beyond a bound all do.
theorem lt_first_of_mem_dropWhile (runs : List CodeRun) (bound : Nat) (h : runs.Pairwise Precedes) :
    ∀ run ∈ runs.dropWhile fun run => run.first ≤ bound, bound < run.first := by
  induction runs with
  | nil => simp
  | cons first rest ih =>
      obtain ⟨hp, hr⟩ := List.pairwise_cons.mp h
      rw [List.dropWhile_cons]
      split
      · exact ih hr
      · next hb =>
        have hlt : bound < first.first := by simpa using hb
        intro run hm
        rcases List.mem_cons.mp hm with rfl | hm
        · exact hlt
        · have hnext := hp run hm
          unfold Precedes at hnext
          omega

theorem not_has_of_apartAll (others runs : List CodeRun) (ho : others.Pairwise Precedes)
    (hr : runs.Pairwise Precedes) (h : apartAll others runs) (code : Nat) :
    ∀ run ∈ runs, run.has code → ∀ other ∈ others, ¬ other.has code := by
  induction runs generalizing others with
  | nil => simp
  | cons first rest ih =>
      obtain ⟨hp, hrest⟩ := List.pairwise_cons.mp hr
      simp only [apartAll, Bool.and_eq_true, List.all_eq_true] at h
      intro run hm hh other hother hhas
      obtain ⟨hf, hl, _⟩ := (has_iff run code).mp hh
      obtain ⟨hf', hl', _⟩ := (has_iff other code).mp hhas
      have hfirst : first.first ≤ run.first := by
        rcases List.mem_cons.mp hm with rfl | hm
        · exact le_rfl
        · have hnext := hp run hm
          unfold Precedes at hnext
          omega
      -- A run left behind ends before the first one begins, and so before every later one.
      have hnear : other ∈ others.dropWhile fun other => other.last < first.first := by
        rw [← List.takeWhile_append_dropWhile (p := fun other => other.last < first.first)
          (l := others)] at hother
        rcases List.mem_append.mp hother with hm' | hm'
        · have hlt := List.mem_takeWhile_imp hm'
          simp only [decide_eq_true_eq] at hlt
          omega
        · exact hm'
      have hsub := ho.sublist (List.dropWhile_sublist fun other => other.last < first.first)
      rcases List.mem_cons.mp hm with rfl | hm
      · rw [← List.takeWhile_append_dropWhile (p := fun other => other.first ≤ run.last)
          (l := others.dropWhile _)] at hnear
        rcases List.mem_append.mp hnear with hm' | hm'
        · exact not_has_of_apart run other code (h.1 other hm') hh hhas
        · have hlt := lt_first_of_mem_dropWhile _ run.last hsub other hm'
          omega
      · exact ih _ hsub hrest h.2 run hm hh other hnear hhas

end CodeRun

namespace CodeSet

def Ascending (codes : CodeSet) : Prop :=
  codes.runs.IsChain CodeRun.Precedes

instance (codes : CodeSet) : Decidable codes.Ascending :=
  inferInstanceAs (Decidable (codes.runs.IsChain CodeRun.Precedes))

theorem has_iff (codes : CodeSet) (h : codes.Ascending) (c : Char) :
    codes.has c ↔ ∃ run ∈ codes.runs, run.has c.toNat := by
  constructor
  · exact CodeRun.mem_of_anyHas _ _
  · rintro ⟨run, hm, hhas⟩
    exact CodeRun.anyHas_of_mem _ _ h.pairwise run hm hhas

theorem has_of_coverAll (inner outer : CodeSet) (ho : outer.Ascending)
    (h : CodeRun.coverAll inner.runs outer.runs) (c : Char) (hc : inner.has c) : outer.has c := by
  obtain ⟨run, hm, hh⟩ := CodeRun.mem_of_anyHas _ _ hc
  obtain ⟨other, hm', hcover⟩ := CodeRun.mem_of_coverAll _ _ h run hm
  exact CodeRun.anyHas_of_mem _ _ ho.pairwise other hm' (CodeRun.has_of_covers _ _ _ hcover hh)

theorem not_has_of_apartAll (first second : CodeSet) (hf : first.Ascending)
    (hs : second.Ascending) (h : CodeRun.apartAll second.runs first.runs) (c : Char)
    (hc : first.has c) : second.has c = false := by
  rw [Bool.eq_false_iff]
  intro hc'
  obtain ⟨run, hm, hh⟩ := CodeRun.mem_of_anyHas _ _ hc
  obtain ⟨other, hm', hh'⟩ := CodeRun.mem_of_anyHas _ _ hc'
  exact CodeRun.not_has_of_apartAll _ _ hs.pairwise hf.pairwise h _ run hm hh other hm' hh'

end CodeSet

end Finder.Text
