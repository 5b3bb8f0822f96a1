/-
This file counts naming errors in a table: a row for each kind that occurs, in the order of the kinds,
a row for the reports without a kind if there are any, and a row for all of them together.
-/

import NameBinding.Diagnostic
import NameBinding.Report.Grid

namespace NameBinding

/-- A heading and a number. -/
abbrev CountRow := String × Nat

/-- The table of rows with a number each, and no text at all without rows. -/
def countsTable (rows : List CountRow) : String :=
  match rows with
  | [] => ""
  | _ => Grid.draw ["Diagnostic", "Count"] (rows.map fun (label, count) => [label, count.repr])

namespace DiagnosticKind

/-- The heading under which a kind is counted. -/
def label : DiagnosticKind → String
  | nonFunctionVoid => "Non-function void"
  | invalidStructType => "Invalid struct type"
  | multiplyDeclared => "Multiply declared"
  | undeclared => "Undeclared"
  | colonAccessOfNonStruct => "Colon-access of non-struct"
  | invalidStructFieldName => "Invalid struct field"

end DiagnosticKind

namespace Diagnostics

/-- The rows of the table of counts. -/
def countRows (diagnostics : Diagnostics) : List CountRow :=
  diagnostics.countsByKind.map (fun (kind, count) => (kind.label, count)) ++
    (if diagnostics.unclassified.isEmpty then []
      else [("Other", diagnostics.unclassified.length)]) ++
    (if diagnostics.isEmpty then [] else [("Total", diagnostics.size)])

/-- The table of counts. -/
def table (diagnostics : Diagnostics) : String :=
  countsTable diagnostics.countRows

end Diagnostics

end NameBinding
