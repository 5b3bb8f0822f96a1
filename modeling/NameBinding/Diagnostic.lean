/-
This file defines the naming errors of a program and what receives them. A receiver has to take a
text with a position; one that can tell the kinds of errors apart takes the kind instead, and for
every other one the kind is turned into its wording. The collector keeps both sorts of reports in two
lists, and counts what it was told.
-/

import NameBinding.Position

namespace NameBinding

/-- The kinds of naming errors. -/
inductive DiagnosticKind
  | nonFunctionVoid
  | invalidStructType
  | multiplyDeclared
  | undeclared
  | colonAccessOfNonStruct
  | invalidStructFieldName
deriving DecidableEq

namespace DiagnosticKind

/-- The kinds in the order in which they are counted and listed. -/
def all : List DiagnosticKind :=
  [nonFunctionVoid, invalidStructType, multiplyDeclared, undeclared, colonAccessOfNonStruct,
    invalidStructFieldName]

/-- The place of a kind in that order. -/
def rank : DiagnosticKind → Nat
  | nonFunctionVoid => 0
  | invalidStructType => 1
  | multiplyDeclared => 2
  | undeclared => 3
  | colonAccessOfNonStruct => 4
  | invalidStructFieldName => 5

/-- The name of a kind in documents. -/
def text : DiagnosticKind → String
  | nonFunctionVoid => "non_function_void"
  | invalidStructType => "invalid_struct_type"
  | multiplyDeclared => "multiply_declared"
  | undeclared => "undeclared"
  | colonAccessOfNonStruct => "colon_access_of_non_struct"
  | invalidStructFieldName => "invalid_struct_field_name"

/-- The kind with a name. -/
def ofText? (name : String) : Option DiagnosticKind :=
  all.find? fun kind => kind.text == name

/-- The wording of an error of this kind. -/
def message : DiagnosticKind → String
  | nonFunctionVoid => "Non-function declared void"
  | invalidStructType => "Name of struct type invalid"
  | multiplyDeclared => "Identifier multiply-declared"
  | undeclared => "Identifier undeclared"
  | colonAccessOfNonStruct => "Colon-access of non-struct type"
  | invalidStructFieldName => "Name of struct field invalid"

end DiagnosticKind

/-- One naming error. -/
structure Diagnostic where
  kind : DiagnosticKind
  pos : Position
deriving DecidableEq

namespace Diagnostic

/-- The wording of the error. -/
def message (diagnostic : Diagnostic) : String :=
  diagnostic.kind.message

/-- The line in which an error is shown. -/
def line (diagnostic : Diagnostic) : String :=
  diagnostic.pos.text ++ " ***ERROR*** " ++ diagnostic.message

end Diagnostic

/-- What receives the errors that an analysis finds. -/
class Sink (σ : Type) where
  /-- Takes an error as a text. -/
  reportText : σ → Position → String → σ
  /-- Takes an error by its kind. Without a way of its own, a receiver gets the wording. -/
  report : σ → Diagnostic → σ := fun sink diagnostic =>
    reportText sink diagnostic.pos diagnostic.message

/-! ### The collector -/

/-- Everything that was reported, the errors with a kind apart from those without. -/
structure Diagnostics where
  entries : List Diagnostic := []
  unclassified : List (Position × String) := []

instance : Sink Diagnostics where
  reportText diagnostics pos message :=
    { diagnostics with unclassified := diagnostics.unclassified ++ [(pos, message)] }
  report diagnostics diagnostic :=
    { diagnostics with entries := diagnostics.entries ++ [diagnostic] }

namespace Diagnostics

/-- The number of reports. -/
def size (diagnostics : Diagnostics) : Nat :=
  diagnostics.entries.length + diagnostics.unclassified.length

/-- Whether nothing was reported. -/
def isEmpty (diagnostics : Diagnostics) : Bool :=
  diagnostics.size == 0

/-- Whether anything was reported. -/
def hasErrors (diagnostics : Diagnostics) : Bool :=
  !diagnostics.isEmpty

/-- How many errors are of this kind. -/
def count (diagnostics : Diagnostics) (kind : DiagnosticKind) : Nat :=
  (diagnostics.entries.filter fun entry => entry.kind = kind).length

/-- The kind of each error, in the order of the reports. -/
def kinds (diagnostics : Diagnostics) : List DiagnosticKind :=
  diagnostics.entries.map Diagnostic.kind

end Diagnostics

/-- Numbers of errors by kind, for the kinds that occur, in the order of the kinds. -/
abbrev Tally := List (DiagnosticKind × Nat)

namespace Tally

/-- Counts one more error. -/
def add (kind : DiagnosticKind) : Tally → Tally
  | [] => [(kind, 1)]
  | (other, count) :: rest =>
    if kind = other then (other, count + 1) :: rest
    else if kind.rank < other.rank then (kind, 1) :: (other, count) :: rest
    else (other, count) :: add kind rest

end Tally

namespace Diagnostics

/-- The errors counted by kind, in one pass over the entries. -/
def countsByKind (diagnostics : Diagnostics) : Tally :=
  diagnostics.entries.foldl (fun tally entry => tally.add entry.kind) []

end Diagnostics

/-! ### A receiver of texts -/

/-- The reports of a receiver that knows texts only. -/
structure TextSink where
  lines : List (Position × String) := []

instance : Sink TextSink where
  reportText sink pos message := ⟨sink.lines ++ [(pos, message)]⟩

end NameBinding
