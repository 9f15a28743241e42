import Finder.Log.Event
import Finder.Proofs.Text.OneLine
import Mathlib.Data.List.Forall2

namespace Finder.Text

-- A text, and the same text with a space in place of each line break.
def Flattens (text flat : String) : Prop :=
  List.Forall₂ (fun c d => if c = '\n' ∨ c = '\r' then d = ' ' else d = c) text.toList flat.toList

-- A text that has at most `limit` characters stays as it is. Otherwise the first ones are kept, and
-- an ellipsis is written behind them, which does not count.
inductive Caps (limit : Nat) : String → String → Prop
  | whole (text : String) (h : text.length ≤ limit) : Caps limit text text
  | cut (front back : String) (hfront : front.length = limit) (hback : back ≠ "") :
      Caps limit (front ++ back) (front ++ "...")

theorem flattens_iff (text flat : String) :
    Flattens text flat ↔ String.ofList (text.toList.map flattenChar) = flat := by
  have hchar : ∀ c d, (if c = '\n' ∨ c = '\r' then d = ' ' else d = c) ↔ flattenChar c = d := by
    intro c d
    unfold flattenChar
    split
    · exact eq_comm
    · exact eq_comm
  rw [Flattens, ← String.toList_inj, String.toList_ofList, ← List.forall₂_eq_eq_eq,
    List.forall₂_map_left_iff]
  simp only [hchar]

-- Flat texts are the ones without a line break.
theorem Flattens.oneLine {text flat : String} (h : Flattens text flat) : OneLine flat := by
  obtain rfl := (flattens_iff text flat).mp h
  intro d hd
  rw [String.toList_ofList] at hd
  obtain ⟨c, _, rfl⟩ := List.mem_map.mp hd
  unfold flattenChar
  split
  · decide
  · next hplain => exact not_or.mp hplain

theorem flattens_self (text : String) (h : OneLine text) : Flattens text text := by
  refine List.forall₂_same.mpr fun c hc => ?_
  obtain ⟨hfeed, hreturn⟩ := h c hc
  rw [if_neg (not_or.mpr ⟨hfeed, hreturn⟩)]

theorem caps_ofList_iff (limit : Nat) (chars : List Char) (line : String) :
    Caps limit (String.ofList chars) line ↔
      (if chars.length ≤ limit then String.ofList chars
      else String.ofList (chars.take limit ++ ['.', '.', '.'])) = line := by
  constructor
  · intro h
    generalize htext : String.ofList chars = text at h
    cases h with
    | whole _ hshort =>
        rw [← htext, String.length_ofList] at hshort
        rw [if_pos hshort]
    | cut front back hfront hback =>
        obtain rfl : chars = front.toList ++ back.toList := by
          rw [← String.toList_append, ← htext, String.toList_ofList]
        -- What is cut off is not empty, so that the whole exceeds the limit.
        have hmore : 0 < back.toList.length := by
          rw [List.length_pos_iff, Ne, String.toList_eq_nil_iff]
          exact hback
        rw [← String.length_toList] at hfront
        have hlong : ¬(front.toList ++ back.toList).length ≤ limit := by
          rw [List.length_append]
          omega
        rw [if_neg hlong, ← hfront, List.take_left, String.ofList_append, String.ofList_toList]
  · rintro rfl
    split
    · next hshort => exact .whole _ (by rwa [String.length_ofList])
    · next hlong =>
      have hfront : (String.ofList (chars.take limit)).length = limit := by
        rw [String.length_ofList, List.length_take]
        omega
      have hback : String.ofList (chars.drop limit) ≠ "" := by
        rw [Ne, ← String.toList_eq_nil_iff, String.toList_ofList, List.drop_eq_nil_iff]
        exact hlong
      have hcut := Caps.cut _ _ hfront hback
      rw [← String.ofList_append, List.take_append_drop] at hcut
      rw [String.ofList_append]
      exact hcut

namespace Caps

variable {limit : Nat} {text line : String}

theorem oneLine (h : Caps limit text line) (htext : OneLine text) : OneLine line := by
  cases h with
  | whole _ _ => exact htext
  | cut front back _ _ =>
      rw [oneLine_append] at htext ⊢
      exact ⟨htext.1, oneLine_ofList _ (by decide)⟩

theorem length_le (h : Caps limit text line) : line.length ≤ limit + 3 := by
  cases h with
  | whole _ h => exact Nat.le_add_right_of_le h
  | cut front back hfront _ =>
      rw [String.length_append, hfront]
      exact Nat.le_refl _

-- An ellipsis is cut off and written again.
theorem again (h : Caps limit text line) : Caps limit line line := by
  cases h with
  | whole _ h => exact .whole _ h
  | cut front back hfront _ => exact .cut front "..." hfront (by decide)

end Caps

-- The two steps leave no choice.
theorem singleLine_eq_iff (text : String) (limit : Nat) (line : String) :
    singleLine text limit = line ↔ ∃ flat, Flattens text flat ∧ Caps limit flat line := by
  simp only [flattens_iff, exists_eq_left', caps_ofList_iff]
  rfl

theorem exists_flat (text : String) (limit : Nat) :
    ∃ flat, Flattens text flat ∧ Caps limit flat (singleLine text limit) :=
  (singleLine_eq_iff text limit _).mp rfl

theorem oneLine_singleLine (text : String) (limit : Nat) : OneLine (singleLine text limit) := by
  obtain ⟨flat, hflat, hcaps⟩ := exists_flat text limit
  exact hcaps.oneLine hflat.oneLine

theorem length_singleLine_le (text : String) (limit : Nat) :
    (singleLine text limit).length ≤ limit + 3 := by
  obtain ⟨flat, _, hcaps⟩ := exists_flat text limit
  exact hcaps.length_le

theorem singleLine_singleLine (text : String) (limit : Nat) :
    singleLine (singleLine text limit) limit = singleLine text limit := by
  obtain ⟨flat, _, hcaps⟩ := exists_flat text limit
  have hflat := flattens_self _ (oneLine_singleLine text limit)
  exact (singleLine_eq_iff _ _ _).mpr ⟨_, hflat, hcaps.again⟩

example : singleLine "a\nb\rc-long-tail" 5 = "a b c..." := by
  decide

end Finder.Text
