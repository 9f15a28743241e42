import Finder.Log.Session
import Finder.Proofs.Text.Blank

namespace Finder

namespace Level

def words : Level → List String
  | .warn => ["warn", "warning"]
  | level => [level.name]

-- Only the ASCII letters have two sizes here.
def AskedBy (level : Level) (written : String) : Prop :=
  ∃ before word after, written.toList = before ++ word ++ after ∧
    (∀ c ∈ before ++ after, Text.isBlankChar c) ∧
    String.ofList (word.map Char.toLower) ∈ level.words

theorem isLower_of_mem_word (level : Level) (word : String) (hword : word ∈ level.words) :
    word.toList ≠ [] ∧ ∀ c ∈ word.toList, c.isLower := by
  have hall : level.words.all (fun word => word ≠ "" && word.toList.all Char.isLower) := by
    cases level <;> decide
  have hthis := List.all_eq_true.mp hall word hword
  simpa using hthis

theorem ofText?_eq_some_iff_mem (written : String) (level : Level) :
    ofText? written = some level ↔ normalized written ∈ level.words := by
  unfold ofText?
  split <;> cases level <;> simp_all [words, name]

-- Some texts ask for a level, and each of them for one only.
theorem ofText?_eq_some_iff (written : String) (level : Level) :
    ofText? written = some level ↔ level.AskedBy written := by
  rw [ofText?_eq_some_iff_mem]
  constructor
  · intro hword
    obtain ⟨before, after, hwritten, hblanks⟩ := Text.exists_trimmed written.toList
    exact ⟨before, _, after, hwritten, hblanks, hword⟩
  · rintro ⟨before, word, after, hwritten, hblanks, hword⟩
    obtain ⟨hne, hlower⟩ := level.isLower_of_mem_word _ hword
    rw [String.toList_ofList] at hne hlower
    have hsolid : ∀ c ∈ word, Text.isBlankChar c = false := by
      intro c hc
      exact Text.isBlankChar_of_isLower_toLower c (hlower _ (List.mem_map_of_mem hc))
    have htrimmed := Text.trimBlanks_eq before word after hblanks hsolid (by simpa using hne)
    rw [normalized, hwritten, htrimmed]
    exact hword

end Level

end Finder
