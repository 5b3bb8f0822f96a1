/-
This file defines what a name can stand for: a plain value, a function, a value of a struct type, or
a struct type itself with the scope of its fields. Every symbol has a descriptor, the short text that
is shown behind a bound name. A function symbol is made in two steps, since its parameter types are
known only after its name: the list of parameters is attached once and then stays.
-/

import NameBinding.Scope

namespace NameBinding

/-- The return type of a function and, once they are attached, the types of its parameters. -/
structure Signature where
  returns : String
  params : Option (List String) := none
deriving DecidableEq

namespace Signature

/-- The parameter types, none as long as no list is attached. -/
def paramTypes (signature : Signature) : List String :=
  signature.params.getD []

/-- Whether a list of parameter types is attached. -/
def isAttached (signature : Signature) : Bool :=
  signature.params.isSome

/-- Attaches the parameter types. There is no result if a list is attached already. -/
def attach? (signature : Signature) (types : List String) : Option Signature :=
  match signature.params with
  | none => some { signature with params := some types }
  | some _ => none

/-- The parameter types with commas between them, an arrow, and the return type. -/
def descriptor (signature : Signature) : String :=
  String.intercalate "," signature.paramTypes ++ "->" ++ signature.returns

end Signature

/-- What a declared name stands for. -/
inductive Symbol
  /-- A value of the scalar type with this descriptor. -/
  | plain (type : String)
  /-- A function. -/
  | function (signature : Signature)
  /-- A value of the struct type with this name. -/
  | structInstance (structName : String)
  /-- A struct type, with its fields. -/
  | structDefinition (fields : Scope Symbol)

/-- The fields of a struct, or the fields found so far while its body is read. -/
abbrev FieldTable := Scope Symbol

/-- The four sorts of symbols. -/
inductive SymbolKind
  | plain
  | function
  | structInstance
  | structDefinition
deriving DecidableEq

namespace SymbolKind

/-- The kinds in the order in which they are listed. -/
def all : List SymbolKind :=
  [plain, function, structInstance, structDefinition]

/-- The name under which a kind is shown. -/
def text : SymbolKind → String
  | plain => "plain"
  | function => "function"
  | structInstance => "struct_instance"
  | structDefinition => "struct_definition"

/-- The names under which a kind can be asked for, in small letters. -/
def aliases : SymbolKind → List String
  | plain => ["plain", "value", "var", "variable"]
  | function => ["function", "func", "fn"]
  | structInstance => ["struct_instance", "instance"]
  | structDefinition => ["struct_definition", "struct", "definition"]

/-- Reads the name of a kind. The size of ASCII letters does not matter. No other letter becomes one
of the letters of an alias when it is made small, so making those small is not needed. -/
def ofText? (text : String) : Option SymbolKind :=
  let small := String.ofList (text.toList.map Char.toLower)
  all.find? fun kind => kind.aliases.contains small

/-- The place of a kind in the list of all kinds. -/
def index : SymbolKind → Nat
  | plain => 0
  | function => 1
  | structInstance => 2
  | structDefinition => 3

end SymbolKind

namespace Symbol

/-- The sort of a symbol. -/
def kind : Symbol → SymbolKind
  | plain _ => .plain
  | function _ => .function
  | structInstance _ => .structInstance
  | structDefinition _ => .structDefinition

/-- The name of the struct type that a symbol is a value of. -/
def structName? : Symbol → Option String
  | structInstance structName => some structName
  | _ => none

/-- The fields of a struct type. -/
def fields? : Symbol → Option FieldTable
  | structDefinition fields => some fields
  | _ => none

/-- The text shown behind a name that is bound to the symbol. A struct type has none of its own. -/
def descriptor : Symbol → String
  | plain type => type
  | function signature => signature.descriptor
  | structInstance structName => structName
  | structDefinition _ => ""

end Symbol

end NameBinding
