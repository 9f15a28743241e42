import Finder.Log.Session
import Finder.Proofs.Text.SingleLine

namespace Finder

open Text

theorem Level.admits_error (active : Level) : active.admits .error := by
  cases active <;> decide

-- Every line feed ends a line; a carriage return in front of it goes with it.
theorem length_cutLines (line text : List Char) :
    (cutLines line text).length = text.count '\n' + 1 := by
  fun_induction cutLines line text with
  | case1 line => rfl
  | case2 line rest ih => rw [List.length_cons, ih, List.count_cons_self]
  | case3 line c rest hplain ih => rw [ih, List.count_cons_of_ne hplain]

theorem count_lineFeed (text : String) (h : OneLine text) : text.toList.count '\n' = 0 := by
  rw [List.count_eq_zero]
  exact fun hfeed => (h _ hfeed).1 rfl

theorem Record.length_lines (record : Record) :
    record.lines.length = record.text.toList.count '\n' + 1 := by
  have hlabel : OneLine (record.level.label ++ " ") := by
    cases record.level <;> decide
  rw [lines, length_cutLines, String.toList_append, List.count_append, count_lineFeed _ hlabel,
    Nat.zero_add]

-- A record of a failure. `line` is what it shows of the payload, after the place of the failure.
structure Captured (location payload line : String) (record : Record) : Prop where
  level_eq : record.level = .error
  text_eq : record.text =
    "event=panic_captured module=core status=error location=" ++ location ++ " payload=" ++ line
  oneLine : OneLine line
  length_le : line.length ≤ 163
  shown : ∃ flat, Flattens payload flat ∧ Caps 160 flat line
  -- The lines of the record are those of the place.
  length_lines : record.lines.length = location.toList.count '\n' + 1

theorem captured_text (duration location : String) (payload : Option String) :
    Captured location (payload.getD "non-string panic payload") (Event.payloadText payload)
      ⟨.error, (Event.failureCaught location payload).text duration⟩ := by
  have hline : OneLine (Event.payloadText payload) := oneLine_singleLine _ _
  constructor
  case level_eq => rfl
  case text_eq => rfl
  case oneLine => exact hline
  case length_le => exact length_singleLine_le _ _
  case shown => exact exists_flat _ _
  case length_lines =>
    have hstart : OneLine "event=panic_captured module=core status=error location=" :=
      oneLine_ofList _ (by decide)
    have hpayload : OneLine " payload=" := oneLine_ofList _ (by decide)
    rw [Record.length_lines]
    show ("event=panic_captured module=core status=error location=" ++ location ++ " payload=" ++
      Event.payloadText payload).toList.count '\n' + 1 = _
    simp only [String.toList_append, List.count_append, count_lineFeed _ hstart,
      count_lineFeed _ hpayload, count_lineFeed _ hline, Nat.zero_add, Nat.add_zero]

-- A log of any level that is set up holds a failure as one more record. Nothing changes in a text
-- that has been put on one line when this is done once more.
theorem LogSession.failure_captured (session : LogSession) (duration location : String)
    (payload : Option String) :
    ∃ record, session.record duration (.failureCaught location payload) =
        ⟨session.active.map fun active =>
          { active with records := active.records ++ [record] }⟩ ∧
      Captured location (payload.getD "non-string panic payload") (Event.payloadText payload)
        record ∧
      ∀ text limit, singleLine (singleLine text limit) limit = singleLine text limit := by
  refine ⟨_, ?_, captured_text duration location payload, singleLine_singleLine⟩
  unfold record
  congr 2
  funext active
  exact if_pos active.level.admits_error

end Finder
