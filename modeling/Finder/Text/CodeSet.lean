namespace Finder.Text

-- The code points `first`, `first + step`, and so on, up to `last`.
structure CodeRun where
  first : Nat
  last : Nat
  step : Nat

-- Letters of the two cases alternate in many blocks, which a step of two lists as one run.
def CodeRun.has (run : CodeRun) (code : Nat) : Bool :=
  run.first ≤ code && code ≤ run.last && (code - run.first) % run.step == 0

-- A set of code points. Its runs ascend, and none reaches into the next.
structure CodeSet where
  runs : List CodeRun

-- The runs ascend, so the search ends at the first one that starts beyond the code point.
def CodeRun.anyHas : List CodeRun → Nat → Bool
  | [], _ => false
  | run :: rest, code =>
      if code < run.first then false
      else if code ≤ run.last then run.has code
      else anyHas rest code

def CodeSet.has (codes : CodeSet) (c : Char) : Bool :=
  CodeRun.anyHas codes.runs c.toNat

-- The White_Space property.
def whiteSpace : CodeSet where
  runs := [
    ⟨0x9, 0xD, 1⟩, ⟨0x20, 0x20, 1⟩, ⟨0x85, 0x85, 1⟩, ⟨0xA0, 0xA0, 1⟩, ⟨0x1680, 0x1680, 1⟩,
    ⟨0x2000, 0x200A, 1⟩, ⟨0x2028, 0x2029, 1⟩, ⟨0x202F, 0x202F, 1⟩, ⟨0x205F, 0x205F, 1⟩,
    ⟨0x3000, 0x3000, 1⟩]

def isBlankChar (c : Char) : Bool :=
  whiteSpace.has c

-- A text without any visible character, the empty one included.
def isBlank (text : String) : Bool :=
  text.toList.all isBlankChar

def trimBlanks (text : List Char) : List Char :=
  ((text.dropWhile isBlankChar).reverse.dropWhile isBlankChar).reverse

end Finder.Text
