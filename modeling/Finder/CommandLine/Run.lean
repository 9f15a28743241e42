import Finder.CommandLine.Report
import Finder.CommandLine.Request
import Finder.Schema.Document

namespace Finder.CommandLine

-- What a run needs from outside.
structure Surroundings (m : Type → Type) where
  startLog : LogConfig → m (Option LogError)
  record : Event → m Unit
  -- The bytes of a file, or why there are none.
  read : FilePath → m (Except String ByteArray)

def programName : String := "derived_query_cli"

def versionText : String :=
  programName ++ " " ++ version ++ "\n"

def helpText : String :=
  "Compile repository method names into SQL\n\n"
    ++ "Usage: " ++ programName ++ " [OPTIONS] --mapping <MAPPING> --root <ROOT> <METHODS>...\n\n"
    ++ "Arguments:\n"
    ++ "  <METHODS>...  Method names such as `findByFirstNameAndLastName`\n\n"
    ++ "Options:\n"
    ++ "      --mapping <MAPPING>      JSON mapping document (`\x7b \"entities\": [..] \x7d`)\n"
    ++ "      --root <ROOT>            Aggregate root entity the methods belong to\n"
    ++ "      --log-level <LOG_LEVEL>  Log level (trace|debug|info|warn|error); needs `--log-dir`\n"
    ++ "      --log-dir <LOG_DIR>      Absolute directory for rolling log files; "
    ++ "logging is off when omitted\n"
    ++ "      --json                   Print results as a JSON array\n"
    ++ "  -h, --help                   Print help\n"
    ++ "  -V, --version                Print version\n"

-- The exit code of a run that was asked for in a wrong way.
def misuseCode : Nat := 2

def loadSchema (path : FilePath) : Except String ByteArray → Except LoadError Schema
  | .error reason => .error (.unreadable path.text reason)
  | .ok content => Schema.ofFile path.text content

-- What is reported to the log, in this order.
def events (root : String) (reports : List MethodReport) : List Event :=
  (reports.map fun report => Event.ofCompilation root report.method report.result)
    ++ [.commandFinished root reports.length (reports.countP MethodReport.failed)]

variable {m : Type → Type} [Monad m]

def recordAll (surroundings : Surroundings m) : List Event → m Unit
  | [] => return ()
  | event :: rest => do
      surroundings.record event
      recordAll surroundings rest

-- A log that is asked for has to be set up before anything else is done.
def startLog (surroundings : Surroundings m) : Option LogConfig → m (Option LogError)
  | none => return none
  | some config => surroundings.startLog config

def runOptions (surroundings : Surroundings m) (options : Options) : m Exit := do
  match ← startLog surroundings options.log with
  | some error => return .stopped ("Logging error: " ++ error.message)
  | none =>
      match loadSchema options.mapping (← surroundings.read options.mapping) with
      | .error error => return .stopped ("Mapping error: " ++ error.message)
      | .ok schema =>
          let reports := options.methods.map (MethodReport.ofMethod schema options.root)
          recordAll surroundings (events options.root reports)
          return .ofReports options.json reports

def run (surroundings : Surroundings m) (arguments : List String) : m Exit :=
  match Request.ofArguments arguments with
  | .run options => runOptions surroundings options
  | .version => return ⟨0, versionText, ""⟩
  | .help => return ⟨0, helpText, ""⟩
  | .misuse => return ⟨misuseCode, "", "error: the arguments are not understood; see --help\n"⟩

end Finder.CommandLine
