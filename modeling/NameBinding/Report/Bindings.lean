/-
This file lists what the names of a program are bound to, one row for each occurrence. A row can be
asked for by the kind of its symbol; then occurrences without one are left out.
-/

import NameBinding.Json
import NameBinding.Report.Grid
import NameBinding.Tree.Occurrence

namespace NameBinding

/-- What is said about one occurrence of a name. -/
structure BindingRow where
  position : String
  name : String
  role : String
  kind : String
  descriptor : String
deriving DecidableEq

namespace BindingRow

/-- The row of an occurrence. Without a symbol its kind is a dash. -/
def ofOccurrence (ident : Ident) (role : Role) : BindingRow :=
  { position := ident.pos.text
    name := ident.name
    role := role.text
    kind := match ident.symbol with
      | some symbol => symbol.kind.text
      | none => "-"
    descriptor := match ident.symbol with
      | some symbol => symbol.descriptor
      | none => "" }

/-- The cells of a row. -/
def cells (row : BindingRow) : List String :=
  [row.position, row.name, row.role, row.kind, row.descriptor]

/-- The document of a row. -/
def toJson (row : BindingRow) : Json :=
  .obj [("position", .str row.position), ("name", .str row.name), ("role", .str row.role),
    ("kind", .str row.kind), ("descriptor", .str row.descriptor)]

end BindingRow

/-- The table of rows, and no text at all without rows. -/
def bindingsTable (rows : List BindingRow) : String :=
  match rows with
  | [] => ""
  | _ => Grid.draw ["Position", "Name", "Role", "Kind", "Type"] (rows.map BindingRow.cells)

namespace Program

/-- The rows of a program, or those of the occurrences that are bound to a symbol of one kind. -/
def bindingRows (program : Program) (kind : Option SymbolKind) : List BindingRow :=
  let chosen (ident : Ident) : Bool :=
    match kind with
    | none => true
    | some kind => ident.symbol.any fun symbol => decide (symbol.kind = kind)
  (program.occurrences.filter fun (ident, _) => chosen ident).map fun (ident, role) =>
    BindingRow.ofOccurrence ident role

end Program

end NameBinding
