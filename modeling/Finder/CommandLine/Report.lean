import Finder.Json.Tree
import Finder.Query

namespace Finder.CommandLine

-- A method of the command line, and what became of it.
structure MethodReport where
  method : String
  result : Except CompileError Query

namespace MethodReport

def ofMethod (schema : Schema) (root method : String) : MethodReport :=
  ⟨method, Query.compile schema root method⟩

def failed (report : MethodReport) : Bool :=
  match report.result with
  | .ok _ => false
  | .error _ => true

-- What is printed where the method succeeded.
def text (report : MethodReport) : String :=
  match report.result with
  | .ok query =>
      report.method ++ " => " ++ query.text ++ "\n  placeholders: ["
        ++ ", ".intercalate query.placeholders ++ "]\n"
  | .error _ => ""

-- What is printed where it failed.
def complaint (report : MethodReport) : String :=
  match report.result with
  | .ok _ => ""
  | .error error =>
      report.method ++ " => error[" ++ error.violation.code ++ "]: " ++ error.message ++ "\n"

-- The keys are in ascending order.
def tree (report : MethodReport) : Json.Tree :=
  match report.result with
  | .ok query => .object [("arity", .integer query.arity), ("method", .text report.method),
      ("placeholders", .list (query.placeholders.map .text)), ("sql", .text query.text)]
  | .error error => .object [("error", .text error.violation.code),
      ("message", .text error.message), ("method", .text report.method)]

end MethodReport

-- What a run of the program leaves behind.
structure Exit where
  code : Nat
  stdout : String
  stderr : String
  deriving DecidableEq, Repr

namespace Exit

def plain (reports : List MethodReport) : Exit where
  code := if reports.any MethodReport.failed then 1 else 0
  stdout := "".intercalate (reports.map MethodReport.text)
  stderr := "".intercalate (reports.map MethodReport.complaint)

def json (reports : List MethodReport) : Exit where
  code := if reports.any MethodReport.failed then 1 else 0
  stdout := (Json.Tree.list (reports.map MethodReport.tree)).indentedText ++ "\n"
  stderr := ""

def ofReports (asJson : Bool) (reports : List MethodReport) : Exit :=
  if asJson then json reports else plain reports

-- The program ends before any method is looked at.
def stopped (reason : String) : Exit :=
  ⟨1, "", reason ++ "\n"⟩

end Exit

end Finder.CommandLine
