import Finder.Log.Session

namespace Finder.CommandLine

structure Options where
  mapping : FilePath
  root : String
  -- The log is off without a directory for it.
  log : Option LogConfig
  json : Bool
  methods : List String
  deriving DecidableEq, Repr

inductive Request where
  | run (options : Options)
  | version
  | help
  | misuse
  deriving DecidableEq, Repr

inductive ValueOption where
  | mapping
  | root
  | logLevel
  | logDirectory
  deriving DecidableEq, Repr

-- One thing that the arguments say, in the order in which they say it.
inductive Item where
  | method (name : String)
  | set (option : ValueOption) (value : String)
  | json
  | version
  | help
  | misuse
  deriving DecidableEq, Repr

-- A single argument by its form.
inductive Form where
  | plain
  | onlyMethods
  | valued (option : ValueOption) (attached : Option String)
  | whole (item : Item)
  deriving DecidableEq, Repr

namespace ValueOption

def ofName? : String → Option ValueOption
  | "mapping" => some .mapping
  | "root" => some .root
  | "log-level" => some .logLevel
  | "log-dir" => some .logDirectory
  | _ => none

-- A path is not empty.
def accepts (option : ValueOption) (value : String) : Bool :=
  match option with
  | .mapping | .logDirectory => value ≠ ""
  | .root | .logLevel => true

end ValueOption

namespace Form

-- The name and the value of a long option, which an equals sign may separate.
def splitEquals : List Char → List Char × Option String
  | [] => ([], none)
  | '=' :: rest => ([], some (String.ofList rest))
  | c :: rest =>
      let (name, value) := splitEquals rest
      (c :: name, value)

def ofLong (name : String) (attached : Option String) : Form :=
  match ValueOption.ofName? name, attached, name with
  | some option, attached, _ => .valued option attached
  | none, none, "json" => .whole .json
  | none, none, "version" => .whole .version
  | none, none, "help" => .whole .help
  | _, _, _ => .whole .misuse

-- A hyphen alone is no option.
def ofArgument (argument : String) : Form :=
  match argument.toList with
  | ['-', '-'] => .onlyMethods
  | '-' :: '-' :: long =>
      let (name, attached) := splitEquals long
      ofLong (String.ofList name) attached
  | '-' :: 'V' :: _ => .whole .version
  | '-' :: 'h' :: _ => .whole .help
  | '-' :: _ :: _ => .whole .misuse
  | _ => .plain

end Form

namespace Item

-- Options may stand among the methods. The value of an option does not look like an option.
def ofArguments : List String → List Item
  | [] => []
  | argument :: rest =>
      match Form.ofArgument argument with
      | .plain => .method argument :: ofArguments rest
      | .onlyMethods => rest.map .method
      | .valued option (some value) => .set option value :: ofArguments rest
      | .valued option none =>
          match rest with
          | [] => [.misuse]
          | value :: rest =>
              if Form.ofArgument value = .plain then .set option value :: ofArguments rest
              else [.misuse]
      | .whole item => item :: ofArguments rest

end Item

-- What was given so far. Methods are held last first.
structure Given where
  values : List (ValueOption × String)
  json : Bool
  methods : List String
  deriving DecidableEq, Repr

namespace Given

def nothing : Given :=
  ⟨[], false, []⟩

-- Each option is given at most once.
def set? (given : Given) (option : ValueOption) (value : String) : Option Given :=
  if option.accepts value ∧ given.values.lookup option = none then
    some { given with values := (option, value) :: given.values }
  else none

def setJson? (given : Given) : Option Given :=
  if given.json then none else some { given with json := true }

-- A level needs a directory.
def log? (given : Given) : Option (Option LogConfig) :=
  match given.values.lookup .logDirectory, given.values.lookup .logLevel with
  | some directory, level =>
      some (some { level := level.getD Level.default.name, directory := ⟨directory⟩ })
  | none, none => some none
  | none, some _ => none

def request (given : Given) : Request :=
  match given.values.lookup .mapping, given.values.lookup .root, given.log? with
  | some mapping, some root, some log =>
      if given.methods = [] then .misuse
      else .run ⟨⟨mapping⟩, root, log, given.json, given.methods.reverse⟩
  | _, _, _ => .misuse

end Given

namespace Request

-- The first misuse, or call for help, or for the version, decides.
def ofItems (given : Given) : List Item → Request
  | [] => given.request
  | .method name :: rest => ofItems { given with methods := name :: given.methods } rest
  | .set option value :: rest =>
      match given.set? option value with
      | some given => ofItems given rest
      | none => .misuse
  | .json :: rest =>
      match given.setJson? with
      | some given => ofItems given rest
      | none => .misuse
  | .version :: _ => .version
  | .help :: _ => .help
  | .misuse :: _ => .misuse

def ofArguments (arguments : List String) : Request :=
  ofItems .nothing (Item.ofArguments arguments)

end Request

end Finder.CommandLine
