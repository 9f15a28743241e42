import Finder.Text.Grapheme.Class

namespace Finder.Text

-- What stands at the end of the open grapheme, as far as a later character can ask for it.
structure GraphemeEnd where
  last : GraphemeClass
  -- A pictograph with its marks stands at the end, and then perhaps a joiner.
  pictograph : Bool
  joined : Bool
  -- A consonant with its marks stands at the end, with a linker among them.
  conjunct : Bool
  linked : Bool
  -- The flags at the end pair up.
  oddRegional : Bool

def GraphemeClass.extends : GraphemeClass → Bool
  | .extend | .linker | .joiner | .nonJoiner => true
  | _ => false

def GraphemeEnd.start (kind : GraphemeClass) : GraphemeEnd where
  last := kind
  pictograph := kind == .pictographic
  joined := false
  conjunct := kind == .consonant
  linked := false
  oddRegional := kind == .regional

def GraphemeEnd.push (before : GraphemeEnd) (kind : GraphemeClass) : GraphemeEnd :=
  match kind with
  | .extend => { before with last := kind, joined := false, oddRegional := false
                             pictograph := before.pictograph && !before.joined }
  | .linker => { before with last := kind, joined := false, oddRegional := false
                             pictograph := before.pictograph && !before.joined
                             linked := before.conjunct }
  | .joiner => { before with last := kind, oddRegional := false
                             pictograph := before.pictograph && !before.joined
                             joined := before.pictograph && !before.joined }
  | .nonJoiner => { before with last := kind, joined := false, oddRegional := false
                                pictograph := before.pictograph && !before.joined
                                conjunct := false, linked := false }
  | .regional => { GraphemeEnd.start kind with oddRegional := !before.oddRegional }
  | kind => GraphemeEnd.start kind

def GraphemeClass.isControl : GraphemeClass → Bool
  | .carriageReturn | .lineFeed | .control => true
  | _ => false

-- Whether the next character belongs to the open grapheme.
def GraphemeEnd.joins (before : GraphemeEnd) (next : GraphemeClass) : Bool :=
  if before.last == .carriageReturn && next == .lineFeed then true
  else if before.last.isControl || next.isControl then false
  else if next.extends || next == .spacingMark || before.last == .prepended then true
  else match before.last, next with
    | .leading, .leading | .leading, .vowel => true
    | .leading, .openSyllable | .leading, .closedSyllable => true
    | .openSyllable, .vowel | .openSyllable, .trailing => true
    | .vowel, .vowel | .vowel, .trailing => true
    | .closedSyllable, .trailing | .trailing, .trailing => true
    | _, .consonant => before.linked
    | _, .pictographic => before.joined
    | .regional, .regional => before.oddRegional
    | _, _ => false

-- `piece` is the open grapheme, its last character first.
def graphemesFrom (state : GraphemeEnd) (piece : List Char) : List Char → List (List Char)
  | [] => [piece.reverse]
  | c :: rest =>
      let kind := GraphemeClass.of c
      if state.joins kind then graphemesFrom (state.push kind) (c :: piece) rest
      else piece.reverse :: graphemesFrom (GraphemeEnd.start kind) [c] rest

-- A text is cut between two characters unless the rules of the character standard join them.
def graphemes : List Char → List (List Char)
  | [] => []
  | c :: rest => graphemesFrom (GraphemeEnd.start (GraphemeClass.of c)) [c] rest

end Finder.Text
