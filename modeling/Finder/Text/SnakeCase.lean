import Finder.Text.Grapheme
import Finder.Text.Lowercase

namespace Finder.Text

inductive Shape where
  | upper
  | lower
  | digit
  | separator
  | other
  deriving DecidableEq, Repr

-- A grapheme has a case only if its two forms differ and it is one of them.
def Shape.of (grapheme : List Char) : Shape :=
  match grapheme with
  | ['_'] | ['-'] | [' '] => .separator
  | _ =>
      let rises := grapheme.any changesInUpper
      let falls := grapheme.any changesInLower
      if grapheme.all fun c => '0' ≤ c && c ≤ '9' then .digit
      else if falls && !rises then .upper
      else if rises && !falls then .lower
      else .other

-- Two capitals before a small letter are the end of an acronym and the start of a word.
def wordEndsAt (grapheme : List Char) : List (List Char) → Bool
  | [] => false
  | next :: later =>
      match Shape.of grapheme, Shape.of next with
      | .lower, .upper | .lower, .digit | .upper, .digit => true
      | .digit, .lower | .digit, .upper => true
      | .upper, .upper => later.head?.any fun third => Shape.of third == .lower
      | _, _ => false

def splitWords : List (List Char) → List (List Char)
  | [] => [[]]
  | grapheme :: rest =>
      if Shape.of grapheme = .separator then [] :: splitWords rest
      else if wordEndsAt grapheme rest then grapheme :: splitWords rest
      else match splitWords rest with
        | [] => [grapheme]
        | word :: words => (grapheme ++ word) :: words

def snakeCase (name : String) : String :=
  String.ofList (['_'].intercalate ((splitWords (graphemes name.toList)).map lower))

end Finder.Text
