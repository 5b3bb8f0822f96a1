/-
This file defines a scope of fields in two parts. One part says what each name stands for, and is
asked when a name is looked up; the other one lists the names in the order of their declarations.
Nothing in the parts themselves ties them together, so a declaration has to change both or none.
-/

import Mathlib.Data.List.Defs
import NameBinding.Analysis.Declaration

namespace NameBinding

/-- Fields in two parts: what each name stands for, and the names in the order of their
declarations. A look-up asks the first part only, and a listing the second. -/
structure IndexedFields where
  held : Std.HashMap String Symbol := ∅
  order : List String := []

namespace IndexedFields

/-- Adds a declaration to both parts, unless the name is taken. -/
def declare (fields : IndexedFields) (name : String) (symbol : Symbol) :
    Except TableError IndexedFields :=
  match fields.held[name]? with
  | some _ => .error (.duplicateName name)
  | none => .ok ⟨fields.held.insert name symbol, fields.order ++ [name]⟩

instance : Declarable IndexedFields where
  findLocal fields name := .ok fields.held[name]?
  declare := declare

end IndexedFields

end NameBinding
