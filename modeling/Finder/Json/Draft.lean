import Finder.Json.Token

namespace Finder.Json

-- Why there is no value where one is due.
inductive Break where
  | cut
  | stray
  | badWord (atEnd : Bool)
  | badNumber (atEnd : Bool)
  | noColon
  | cutBeforeColon
  deriving DecidableEq, Repr

inductive ListEnd where
  | closed
  | cut
  -- A comma, and then the end of the list or of the text.
  | commaClosed
  | commaCut
  | stray
  deriving DecidableEq, Repr

inductive ObjectEnd where
  | closed
  | cut
  -- Something else stands where the first key is due, or where a later one is.
  | noKey (found : Token)
  | commaClosed
  | commaCut
  | commaStray
  | stray
  deriving DecidableEq, Repr

-- What a text says as a document, up to the point where it breaks off. Readers take it in the order
-- of the text, so that of two things that are wrong the first one is reported.
inductive Draft where
  | null
  | bool (value : Bool)
  | number (literal : NumberLiteral)
  | string (literal : StringLiteral)
  | list (items : List Draft) (ending : ListEnd)
  | object (members : List (StringLiteral × Draft)) (ending : ObjectEnd)
  | broken (cause : Break)
  deriving Repr

-- A document, and whether anything follows its value.
structure Document where
  root : Draft
  trailing : Bool
  deriving Repr

-- A container that waits for the value that is being read. What it has is held last first.
inductive Frame where
  | list (before : List Draft)
  | object (before : List (StringLiteral × Draft)) (key : StringLiteral)

inductive BuildState where
  -- A value is due, at the start of the text or for the innermost frame.
  | due (frames : List Frame)
  | listOpened (frames : List Frame)
  | listItem (before : List Draft) (frames : List Frame)
  | listComma (before : List Draft) (frames : List Frame)
  | objectOpened (frames : List Frame)
  | objectKey (before : List (StringLiteral × Draft)) (key : StringLiteral) (frames : List Frame)
  | objectMember (before : List (StringLiteral × Draft)) (frames : List Frame)
  | objectComma (before : List (StringLiteral × Draft)) (frames : List Frame)
  | done (root : Draft)

namespace BuildState

-- Hands a complete value to the innermost frame.
def deliver (value : Draft) : List Frame → BuildState
  | [] => .done value
  | .list before :: frames => .listItem (value :: before) frames
  | .object before key :: frames => .objectMember ((key, value) :: before) frames

-- Ends all frames after a value that is broken.
def collapse (value : Draft) : List Frame → Draft
  | [] => value
  | .list before :: frames => collapse (.list (value :: before).reverse .cut) frames
  | .object before key :: frames =>
      collapse (.object ((key, value) :: before).reverse .cut) frames

-- The first token of a value. `none` stands for a token that begins no value.
def begin (frames : List Frame) : Token → Except Break BuildState
  | .null => .ok (deliver .null frames)
  | .bool value => .ok (deliver (.bool value) frames)
  | .number literal => .ok (deliver (.number literal) frames)
  | .string literal => .ok (deliver (.string literal) frames)
  | .openList => .ok (.listOpened frames)
  | .openObject => .ok (.objectOpened frames)
  | .badWord atEnd => .error (.badWord atEnd)
  | .badNumber atEnd => .error (.badNumber atEnd)
  | .closeList | .closeObject | .comma | .colon | .stray => .error .stray

def beginOr (frames : List Frame) (token : Token) : Except Draft BuildState :=
  match begin frames token with
  | .ok state => .ok state
  | .error cause => .error (collapse (.broken cause) frames)

def closeList (items : List Draft) (ending : ListEnd) : Draft :=
  .list items.reverse ending

def closeObject (members : List (StringLiteral × Draft)) (ending : ObjectEnd) : Draft :=
  .object members.reverse ending

-- One token further, or the draft as it stands when the token breaks it off.
def step (state : BuildState) (token : Token) : Except Draft BuildState :=
  match state, token with
  | .due frames, token => beginOr frames token
  | .listOpened frames, .closeList => .ok (deliver (closeList [] .closed) frames)
  | .listOpened frames, token => beginOr (.list [] :: frames) token
  | .listItem before frames, .closeList => .ok (deliver (closeList before .closed) frames)
  | .listItem before frames, .comma => .ok (.listComma before frames)
  | .listItem before frames, _ => .error (collapse (closeList before .stray) frames)
  | .listComma before frames, .closeList =>
      .error (collapse (closeList before .commaClosed) frames)
  | .listComma before frames, token => beginOr (.list before :: frames) token
  | .objectOpened frames, .closeObject => .ok (deliver (closeObject [] .closed) frames)
  | .objectOpened frames, .string key => .ok (.objectKey [] key frames)
  | .objectOpened frames, token => .error (collapse (closeObject [] (.noKey token)) frames)
  | .objectKey before key frames, .colon => .ok (.due (.object before key :: frames))
  | .objectKey before key frames, _ =>
      .error (collapse (.broken .noColon) (.object before key :: frames))
  | .objectMember before frames, .closeObject =>
      .ok (deliver (closeObject before .closed) frames)
  | .objectMember before frames, .comma => .ok (.objectComma before frames)
  | .objectMember before frames, _ => .error (collapse (closeObject before .stray) frames)
  | .objectComma before frames, .string key => .ok (.objectKey before key frames)
  | .objectComma before frames, .closeObject =>
      .error (collapse (closeObject before .commaClosed) frames)
  | .objectComma before frames, _ => .error (collapse (closeObject before .commaStray) frames)
  | .done root, _ => .error root

-- The draft when the text ends here.
def finish : BuildState → Draft
  | .due frames => collapse (.broken .cut) frames
  | .listOpened frames => collapse (closeList [] .cut) frames
  | .listItem before frames => collapse (closeList before .cut) frames
  | .listComma before frames => collapse (closeList before .commaCut) frames
  | .objectOpened frames => collapse (closeObject [] .cut) frames
  | .objectKey before key frames =>
      collapse (.broken .cutBeforeColon) (.object before key :: frames)
  | .objectMember before frames => collapse (closeObject before .cut) frames
  | .objectComma before frames => collapse (closeObject before .commaCut) frames
  | .done root => root

def run (state : BuildState) : List Token → Document
  | [] => ⟨state.finish, false⟩
  | token :: rest =>
      match state.step token with
      | .ok next => run next rest
      | .error root => ⟨root, true⟩

end BuildState

def Document.ofTokens (tokens : List Token) : Document :=
  BuildState.run (.due []) tokens

def Document.parse (text : String) : Document :=
  Document.ofTokens (lex text.toList)

namespace Break

def reading : Break → Fault
  | .cut => .cutInValue
  | .stray => .expectedValue
  | .badWord atEnd => if atEnd then .cutInValue else .expectedWord
  | .badNumber atEnd => if atEnd then .cutInValue else .invalidNumber
  | .noColon => .expectedColon
  | .cutBeforeColon => .cutInObject

-- A number that is skipped is wrong as soon as it is not complete.
def skipping : Break → Fault
  | .badNumber _ => .invalidNumber
  | cause => cause.reading

end Break

namespace ListEnd

-- The fault when one more item is asked for. A list that is closed has none.
def reading? : ListEnd → Option Fault
  | .closed => none
  | .cut => some .cutInList
  | .commaClosed => some .trailingComma
  | .commaCut => some .cutInValue
  | .stray => some .expectedListEnd

def skipping? : ListEnd → Option Fault
  | .commaClosed => some .expectedValue
  | ending => ending.reading?

-- The fault when the list has to end here.
def finishing? : ListEnd → Option Fault
  | .closed => none
  | .cut => some .cutInList
  | .commaClosed => some .trailingComma
  | .commaCut | .stray => some .trailingCharacters

end ListEnd

namespace ObjectEnd

def reading? : ObjectEnd → Option Fault
  | .closed => none
  | .cut => some .cutInObject
  | .noKey _ | .commaStray => some .keyNotString
  | .commaClosed => some .trailingComma
  | .commaCut => some .cutInValue
  | .stray => some .expectedObjectEnd

def skipping? : ObjectEnd → Option Fault
  | .commaClosed => some .keyNotString
  | .commaCut => some .cutInObject
  | ending => ending.reading?

end ObjectEnd

mutual

-- The first fault of a value that nobody reads.
def Draft.skipFault? : Draft → Option Fault
  | .null | .bool _ | .number _ => none
  | .string literal => literal.skipFault?
  | .list items ending => (skipItems? items).or ending.skipping?
  | .object members ending => (skipMembers? members).or ending.skipping?
  | .broken cause => some cause.skipping

def skipItems? : List Draft → Option Fault
  | [] => none
  | item :: rest => item.skipFault?.or (skipItems? rest)

def skipMembers? : List (StringLiteral × Draft) → Option Fault
  | [] => none
  | (key, value) :: rest => (key.skipFault?.or value.skipFault?).or (skipMembers? rest)

end

def faultOf {α : Type} : Except Fault α → Option Fault
  | .ok _ => none
  | .error fault => some fault

mutual

-- The first fault of a value that is read whole, in which `room` more levels may be opened.
def Draft.readFault? (room : Nat) : Draft → Option Fault
  | .null | .bool _ => none
  | .number literal => faultOf literal.value
  | .string literal => faultOf literal.text
  | .list items ending =>
      match room with
      | 0 => some .tooDeep
      | room + 1 => (readItems? room items).or ending.reading?
  | .object members ending =>
      match room with
      | 0 => some .tooDeep
      | room + 1 => (readMembers? room members).or ending.reading?
  | .broken cause => some cause.reading

def readItems? (room : Nat) : List Draft → Option Fault
  | [] => none
  | item :: rest => (item.readFault? room).or (readItems? room rest)

def readMembers? (room : Nat) : List (StringLiteral × Draft) → Option Fault
  | [] => none
  | (key, value) :: rest =>
      ((faultOf key.text).or (value.readFault? room)).or (readMembers? room rest)

end

end Finder.Json
