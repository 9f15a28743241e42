import Finder.FileTree
import Finder.Log.Event
import Finder.Text.CodeSet

namespace Finder

structure LogConfig where
  level : String
  directory : FilePath
  -- When a file has grown to so many bytes, another one is begun.
  maxFileBytes : Nat := 5 * 1024 * 1024
  -- The number of older files that are kept.
  maxFiles : Nat := 3
  deriving DecidableEq, Repr

-- The errors of what writes the files of a log are left out: where the directory is there, the writer is
-- taken to start.
inductive LogError where
  | unknownLevel (written : String)
  | noDirectory
  | relativeDirectory (path : FilePath)
  | notCreated (path : FilePath) (reason : String)
  | otherDirectory (active requested : FilePath)
  | otherLevel (active requested : Level)
  deriving DecidableEq, Repr

namespace LogError

def refusal (active requested : String) : String :=
  "logging already initialized with " ++ active ++ "; refusing to switch to `" ++ requested ++ "`"

def message : LogError → String
  | .unknownLevel written =>
      "unsupported log level `" ++ written ++ "`; expected trace|debug|info|warn|error"
  | .noDirectory => "log_dir cannot be empty"
  | .relativeDirectory path => "log_dir must be an absolute path, got `" ++ path.text ++ "`"
  | .notCreated path reason =>
      "failed to create log directory `" ++ path.text ++ "`: " ++ reason
  | .otherDirectory active requested =>
      refusal ("directory `" ++ active.text ++ "`") requested.text
  | .otherLevel active requested => refusal ("level `" ++ active.name ++ "`") requested.name

end LogError

-- A level as it is written, without blanks around it and with small ASCII letters.
def Level.normalized (written : String) : String :=
  String.ofList ((Text.trimBlanks written.toList).map Char.toLower)

def Level.ofText? (written : String) : Option Level :=
  match normalized written with
  | "trace" => some .trace
  | "debug" => some .debug
  | "info" => some .info
  | "warn" | "warning" => some .warn
  | "error" => some .error
  | _ => none

def Level.default : Level := .debug

-- What is wrong with a configuration in itself, or the level that it asks for.
def LogConfig.checked (config : LogConfig) : Except LogError Level :=
  match Level.ofText? config.level with
  | none => .error (.unknownLevel (Level.normalized config.level))
  | some level =>
      if config.directory.text = "" then .error .noDirectory
      else if config.directory.isAbsolute then .ok level
      else .error (.relativeDirectory config.directory)

structure Record where
  level : Level
  text : String
  deriving DecidableEq, Repr

-- A line whose characters are held last first. A carriage return at its end belongs to the break.
def endedLine : List Char → String
  | '\r' :: line => String.ofList line.reverse
  | line => String.ofList line.reverse

-- Cuts a text at its line feeds. `line` holds what was seen of the current line, last first.
def cutLines (line : List Char) : List Char → List String
  | [] => [endedLine line]
  | '\n' :: rest => endedLine line :: cutLines [] rest
  | c :: rest => cutLines (c :: line) rest

-- What a record is in a file.
def Record.lines (record : Record) : List String :=
  cutLines [] (record.level.label ++ " " ++ record.text).toList

structure ActiveLog where
  level : Level
  directory : FilePath
  records : List Record
  deriving DecidableEq, Repr

-- Whether two setups agree. Directories are compared first.
def ActiveLog.checkSame (active : ActiveLog) (level : Level) (directory : FilePath) :
    Option LogError :=
  if !active.directory.same directory then some (.otherDirectory active.directory directory)
  else if active.level ≠ level then some (.otherLevel active.level level)
  else none

structure LogSession where
  active : Option ActiveLog
  deriving DecidableEq, Repr

namespace LogSession

-- The file of the log in its directory.
def fileName : String := "derived_query_rCURRENT.log"

def fresh : LogSession :=
  ⟨none⟩

-- Before the log is set up records are lost. `duration` stands for all times in the text.
def record (session : LogSession) (duration : String) (event : Event) : LogSession :=
  ⟨session.active.map fun active =>
    if active.level.admits event.level then
      { active with records := active.records ++ [⟨event.level, event.text duration⟩] }
    else active⟩

def status (session : LogSession) : Option (Level × FilePath) :=
  session.active.map fun active => (active.level, active.directory)

-- Sets the log up, which makes its directory, or compares with the setup that is active.
def start (session : LogSession) (tree : FileTree) (config : LogConfig) :
    LogSession × FileTree × Option LogError :=
  match config.checked with
  | .error error => (session, tree, some error)
  | .ok level =>
      match session.active with
      | some active => (session, tree, active.checkSame level config.directory)
      | none =>
          match tree.createAll config.directory with
          | (changed, some error) =>
              (session, changed, some (.notCreated config.directory error.message))
          | (changed, none) =>
              let begun : LogSession := ⟨some ⟨level, config.directory, []⟩⟩
              (begun.record "" (.loggingStarted level config.directory.text), changed, none)

-- Where the log in a directory is, if its file can be there.
def place? (tree : FileTree) (directory : FilePath) : Option (List String) :=
  if directory.isAbsolute ∧ !(directory.child fileName).isTooLong then
    ((tree.root.follow directory.steps).map FileSpot.names).toOption
  else none

-- The lines of the log in a directory. A file appears with the first record.
def linesAt? (session : LogSession) (tree : FileTree) (directory : FilePath) :
    Option (List String) := do
  let active ← session.active
  let asked ← place? tree directory
  let written ← place? tree active.directory
  if asked = written ∧ active.records ≠ [] then some (active.records.flatMap Record.lines)
  else none

end LogSession

end Finder
