import Finder.Text.Alphanumeric
import Finder.Text.Printable
import Finder.Text.SnakeCase
import Finder.Real.Decimal
import Finder.Json.Choice
import Finder.Json.Record
import Finder.Json.Tree
import Finder.Keyword
import Finder.Violation
import Finder.MethodName
import Finder.Schema.Entity
import Finder.Schema.Declarations
import Finder.Schema
import Finder.Schema.Document
import Finder.Schema.Encoding
import Finder.Predicate
import Finder.Criteria
import Finder.Parameters
import Finder.Database
import Finder.Statement
import Finder.Statement.Rows
import Finder.Query
import Finder.Declaration
import Finder.FilePath
import Finder.FileTree
import Finder.Log.Event
import Finder.Log.Session
import Finder.Call
import Finder.Catalog
import Finder.CommandLine.Request
import Finder.CommandLine.Report
import Finder.CommandLine.Run
import Finder.Main
import Finder.Proofs.Text.CodeSet
import Finder.Proofs.Text.LetterClasses
import Finder.Proofs.Text.Blank
import Finder.Proofs.Text.OneLine
import Finder.Proofs.Text.SingleLine
import Finder.Proofs.Text.SnakeCase
import Finder.Proofs.Lists
import Finder.Proofs.Real.Binary64
import Finder.Proofs.MethodName.Parts
import Finder.Proofs.MethodName.Subject
import Finder.Proofs.MethodName.Reading
import Finder.Proofs.MethodName.Spelling
import Finder.Proofs.Json.Marks
import Finder.Proofs.Json.Written
import Finder.Proofs.Json.Reading
import Finder.Proofs.Schema.Soundness
import Finder.Proofs.Schema.Visible
import Finder.Proofs.Schema.Lineage
import Finder.Proofs.Schema.WellFormed
import Finder.Proofs.Schema.Ancestry
import Finder.Proofs.Schema.Listing
import Finder.Proofs.Schema.Completeness
import Finder.Proofs.Schema.Extension
import Finder.Proofs.Schema.Inherited
import Finder.Proofs.Schema.Defects
import Finder.Proofs.Schema.Reordered
import Finder.Proofs.Schema.Documents
import Finder.Proofs.Criteria.Resolution
import Finder.Proofs.Criteria.Rules
import Finder.Proofs.Criteria.Boundary
import Finder.Proofs.Criteria.Cuttings
import Finder.Proofs.Criteria.Search
import Finder.Proofs.Criteria.Paths
import Finder.Proofs.Parameters.Insertion
import Finder.Proofs.Parameters.History
import Finder.Proofs.Statement.Generation
import Finder.Proofs.Statement.Places
import Finder.Proofs.Statement.Combinations
import Finder.Proofs.Statement.Results
import Finder.Proofs.Statement.Described
import Finder.Proofs.Statement.Clauses
import Finder.Proofs.Statement.OutputNames
import Finder.Proofs.Statement.TableNames
import Finder.Proofs.Query.Stages
import Finder.Proofs.Query.Locality
import Finder.Proofs.Query.Language
import Finder.Proofs.Query.Inherited
import Finder.Proofs.Query.Arguments
import Finder.Proofs.Query.Defined
import Finder.Proofs.Query.Failures
import Finder.Proofs.Query.Heads
import Finder.Proofs.Query.Ordinary
import Finder.Proofs.Query.Answers
import Finder.Proofs.Query.Outcomes
import Finder.Proofs.Query.Execution
import Finder.Proofs.Query.Placeholders
import Finder.Proofs.Catalog.Entries
import Finder.Proofs.Catalog.History
import Finder.Proofs.Files.Paths
import Finder.Proofs.Files.Trees
import Finder.Proofs.Files.Directories
import Finder.Proofs.Log.Levels
import Finder.Proofs.Log.History
import Finder.Proofs.Log.Failures
import Finder.Proofs.Catalog.Calls
import Finder.Proofs.Catalog.Trace
import Finder.Proofs.Catalog.Lines
import Finder.Proofs.CommandLine.Reports
