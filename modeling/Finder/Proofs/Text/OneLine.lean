import Finder.Proofs.Text.LetterClasses

namespace Finder.Text

def OneLine (text : String) : Prop :=
  ∀ c ∈ text.toList, c ≠ '\n' ∧ c ≠ '\r'

def breakless (chars : List Char) : Bool :=
  chars.all fun c => c != '\n' && c != '\r'

theorem oneLine_iff_breakless (text : String) : OneLine text ↔ breakless text.toList := by
  simp [OneLine, breakless]

instance : DecidablePred OneLine :=
  fun text => decidable_of_iff _ (oneLine_iff_breakless text).symm

theorem oneLine_append (first second : String) :
    OneLine (first ++ second) ↔ OneLine first ∧ OneLine second := by
  simp only [OneLine, String.toList_append, List.forall_mem_append]

-- For a text that is written out, its characters are looked at.
theorem oneLine_ofList (text : List Char) (h : breakless text) : OneLine (String.ofList text) := by
  rwa [oneLine_iff_breakless, String.toList_ofList]

-- What is written between two texts cannot break them where it has no break itself.
theorem oneLine_between (before text after : String) (hbefore : OneLine before)
    (hafter : OneLine after) : OneLine (before ++ text ++ after) ↔ OneLine text := by
  rw [oneLine_append, oneLine_append, and_iff_left hafter, and_iff_right hbefore]

theorem oneLine_quoted (before after : List Char) (text : String) (hbefore : breakless before)
    (hafter : breakless after) :
    OneLine (String.ofList before ++ text ++ String.ofList after) ↔ OneLine text :=
  oneLine_between _ _ _ (oneLine_ofList before hbefore) (oneLine_ofList after hafter)

-- Line breaks are not among the characters that the text is made of.
theorem oneLine_of_chars (p : Char → Bool) (hfeed : p '\n' = false) (hreturn : p '\r' = false)
    {text : String} (h : ∀ c ∈ text.toList, p c) : OneLine text := by
  intro c hc
  constructor
  · rintro rfl
    simp [h _ hc] at hfeed
  · rintro rfl
    simp [h _ hc] at hreturn

theorem oneLine_of_isPlain {text : String} (h : ∀ c ∈ text.toList, isPlain c) : OneLine text :=
  oneLine_of_chars isPlain (by decide) (by decide) h

theorem oneLine_toString (n : Nat) : OneLine (toString n) := by
  refine oneLine_of_isPlain fun c hc => ?_
  have hdigits : (toString n).toList = Nat.toDigits 10 n := by
    show (Nat.repr n).toList = _
    rw [Nat.repr_eq_ofList_toDigits, String.toList_ofList]
  rw [hdigits] at hc
  have hdigit := Nat.isDigit_of_mem_toDigits (by decide) (by decide) hc
  simp [isPlain, Char.isAlphanum, hdigit]

theorem oneLine_intercalate (separator : String) (texts : List String)
    (hseparator : OneLine separator) (h : ∀ text ∈ texts, OneLine text) :
    OneLine (separator.intercalate texts) := by
  induction texts with
  | nil => simp [OneLine]
  | cons first rest ih =>
      rw [List.forall_mem_cons] at h
      cases rest with
      | nil => simpa using h.1
      | cons second rest =>
          rw [String.intercalate_cons_cons, oneLine_append, oneLine_append]
          exact ⟨⟨h.1, hseparator⟩, ih h.2⟩

end Finder.Text
