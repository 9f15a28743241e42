import Finder.Query

namespace Finder.Text

def flattenChar (c : Char) : Char :=
  if c = '\n' ∨ c = '\r' then ' ' else c

-- Line breaks become spaces, and what lies beyond `limit` characters becomes an ellipsis.
def singleLine (text : String) (limit : Nat) : String :=
  let flat := text.toList.map flattenChar
  if flat.length ≤ limit then String.ofList flat
  else String.ofList (flat.take limit ++ ['.', '.', '.'])

end Finder.Text

namespace Finder

inductive Level where
  | error
  | warn
  | info
  | debug
  | trace
  deriving DecidableEq, Repr

def Level.name : Level → String
  | .error => "error"
  | .warn => "warn"
  | .info => "info"
  | .debug => "debug"
  | .trace => "trace"

-- How much is written at a level: all levels up to its own, counted from the gravest.
def Level.depth : Level → Nat
  | .error => 1
  | .warn => 2
  | .info => 3
  | .debug => 4
  | .trace => 5

def Level.admits (active level : Level) : Bool :=
  level.depth ≤ active.depth

def Level.label : Level → String
  | .error => "ERROR"
  | .warn => "WARN"
  | .info => "INFO"
  | .debug => "DEBUG"
  | .trace => "TRACE"

-- The number of this version.
def version : String := "0.1.0"

inductive Event where
  | loggingStarted (level : Level) (directory : String)
  -- An uncaught failure of the process, and where it arose. Its payload may not be a text.
  | failureCaught (location : String) (payload : Option String)
  | commandFinished (root : String) (methods failures : Nat)
  | compiled (method root : String) (predicates : Nat)
  | rejected (method root code : String)
  | notRegistered (method reason : String)
  | rowsRead (parameters rows : Nat)
  | rowsCounted (parameters : Nat)
  deriving DecidableEq, Repr

namespace Event

def level : Event → Level
  | .loggingStarted _ _ => .info
  | .failureCaught _ _ => .error
  | .commandFinished _ _ _ => .info
  | .compiled _ _ _ => .info
  | .rejected _ _ _ => .warn
  | .notRegistered _ _ => .error
  | .rowsRead _ _ | .rowsCounted _ => .debug

-- The length at which the payload of a failure is cut.
def payloadLimit : Nat := 160

def payloadText (payload : Option String) : String :=
  Text.singleLine (payload.getD "non-string panic payload") payloadLimit

-- `duration` is the time that compilation took, in microseconds.
def text (duration : String) : Event → String
  | .loggingStarted level directory =>
      "event=logging_init module=core status=ok level=" ++ level.name ++ " log_dir=" ++ directory
        ++ " version=" ++ version
  | .failureCaught location payload =>
      "event=panic_captured module=core status=error location=" ++ location ++ " payload="
        ++ payloadText payload
  | .commandFinished root methods failures =>
      "event=cli_compile module=cli status=" ++ (if failures = 0 then "ok" else "error")
        ++ " root=" ++ root ++ " methods=" ++ toString methods ++ " failures="
        ++ toString failures
  | .compiled method root predicates =>
      "event=query_compile module=query status=ok method=" ++ method ++ " root=" ++ root
        ++ " predicates=" ++ toString predicates ++ " duration_us=" ++ duration
  | .rejected method root code =>
      "event=query_compile module=query status=error method=" ++ method ++ " root=" ++ root
        ++ " error_code=" ++ code ++ " duration_us=" ++ duration
  | .notRegistered method reason =>
      "event=query_register module=query status=error method=" ++ method ++ " error=" ++ reason
  | .rowsRead parameters rows =>
      "event=query_execute module=sql status=ok kind=rows params=" ++ toString parameters
        ++ " rows=" ++ toString rows
  | .rowsCounted parameters =>
      "event=query_execute module=sql status=ok kind=count params=" ++ toString parameters

-- Every compilation is reported once, whether it succeeds or not.
def ofCompilation (root method : String) : Except CompileError Query → Event
  | .ok query => .compiled method root query.criteria.predicates.length
  | .error error => .rejected method root error.violation.code

end Event

end Finder
