namespace Finder.Json

inductive Tree where
  | null
  | integer (value : Int)
  | text (value : String)
  | list (items : List Tree)
  | object (members : List (String × Tree))
  deriving Repr

def hexDigits (code : Nat) : List Char :=
  [Nat.digitChar (code / 16), Nat.digitChar (code % 16)]

-- Only what would end a string or is a control character is escaped.
def escaped (c : Char) : List Char :=
  if c = '"' then ['\\', '"']
  else if c = '\\' then ['\\', '\\']
  else if c.toNat = 0x08 then ['\\', 'b']
  else if c.toNat = 0x09 then ['\\', 't']
  else if c.toNat = 0x0A then ['\\', 'n']
  else if c.toNat = 0x0C then ['\\', 'f']
  else if c.toNat = 0x0D then ['\\', 'r']
  else if c.toNat < 0x20 then ['\\', 'u', '0', '0'] ++ hexDigits c.toNat
  else [c]

def quoted (text : String) : List Char :=
  '"' :: text.toList.flatMap escaped ++ ['"']

namespace Tree

mutual

def compact : Tree → List Char
  | .null => ['n', 'u', 'l', 'l']
  | .integer value => (toString value).toList
  | .text value => quoted value
  | .list items => '[' :: compactItems items
  | .object members => '\x7b' :: compactMembers members

-- The items and the end of the list.
def compactItems : List Tree → List Char
  | [] => [']']
  | [item] => item.compact ++ [']']
  | item :: rest => item.compact ++ ',' :: compactItems rest

def compactMembers : List (String × Tree) → List Char
  | [] => ['\x7d']
  | [(key, value)] => quoted key ++ ':' :: value.compact ++ ['\x7d']
  | (key, value) :: rest => quoted key ++ ':' :: value.compact ++ ',' :: compactMembers rest

end

-- The start of a line.
def line (depth : Nat) : List Char :=
  '\n' :: List.replicate (2 * depth) ' '

mutual

-- A tree that starts on a line of this depth.
def indented (depth : Nat) : Tree → List Char
  | .null => ['n', 'u', 'l', 'l']
  | .integer value => (toString value).toList
  | .text value => quoted value
  | .list [] => ['[', ']']
  | .list (item :: rest) => '[' :: indentedItems depth (item :: rest)
  | .object [] => ['\x7b', '\x7d']
  | .object (member :: rest) => '\x7b' :: indentedMembers depth (member :: rest)

def indentedItems (depth : Nat) : List Tree → List Char
  | [] => line depth ++ [']']
  | [item] => line (depth + 1) ++ item.indented (depth + 1) ++ line depth ++ [']']
  | item :: rest =>
      line (depth + 1) ++ item.indented (depth + 1) ++ ',' :: indentedItems depth rest

def indentedMembers (depth : Nat) : List (String × Tree) → List Char
  | [] => line depth ++ ['\x7d']
  | [(key, value)] =>
      line (depth + 1) ++ quoted key ++ ':' :: ' ' :: value.indented (depth + 1) ++ line depth
        ++ ['\x7d']
  | (key, value) :: rest =>
      line (depth + 1) ++ quoted key ++ ':' :: ' ' :: value.indented (depth + 1)
        ++ ',' :: indentedMembers depth rest

end

def compactText (tree : Tree) : String :=
  String.ofList tree.compact

def indentedText (tree : Tree) : String :=
  String.ofList (tree.indented 0)

end Tree

end Finder.Json
