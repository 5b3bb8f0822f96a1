/-
This file defines what a name stands for at a place of a program by where the place is in the text,
without a table. Around a place there are scopes, innermost first. Each has all its declarations in
the order of the text, of which those before the place are in force. In a scope a name stands for
the first declaration of it that is no void variable, and it does so only where that declaration is
in force. The table in which an analysis arrives at the place is read off the declarations in
force, and answers a look-up in the same way.
-/

import NameBinding.Analysis.Program
import NameBinding.Proofs.FirstDeclared

namespace NameBinding

/-! ### What a declaration introduces -/

/-- A declaration as far as the scope is concerned in which it stands. -/
inductive Introduction
  /-- A variable, a formal or a field. -/
  | typed (type : TypeName) (name : Ident)
  | function (ret : TypeName) (name : Ident) (formals : List Formal)
  | struct (name : Ident) (fields : List VarDecl)

/-- The fields of a struct by name. Void ones are left out, and so is all but the first of a name.
-/
def fieldTable (fields : List VarDecl) : FieldTable :=
  Scope.ofBindings ((fields.filter fun field => !field.type.isVoid).map fun field =>
    (field.name.name, field.type.symbol))

namespace Introduction

/-- The declared name. -/
def name : Introduction → Ident
  | typed _ name => name
  | function _ name _ => name
  | struct name _ => name

/-- Whether this is a variable, a formal or a field of the type that has no values. -/
def isVoid : Introduction → Bool
  | typed type _ => type.isVoid
  | function _ _ _ => false
  | struct _ _ => false

/-- What the declared name stands for. -/
def symbol : Introduction → Symbol
  | typed type _ => type.symbol
  | function ret _ formals => .function (signatureOf ret formals)
  | struct _ fields => .structDefinition (fieldTable fields)

/-- Whether a name is introduced. A void variable introduces nothing. -/
def introduces (name : String) (introduction : Introduction) : Bool :=
  !introduction.isVoid && introduction.name.name == name

end Introduction

/-- A variable or a field introduces its name with its type. -/
def VarDecl.introduction (decl : VarDecl) : Introduction := .typed decl.type decl.name

/-- A formal introduces its name with its type. -/
def Formal.introduction (formal : Formal) : Introduction := .typed formal.type formal.name

/-- What a declaration introduces. -/
def Decl.introduction : Decl → Introduction
  | .var decl => decl.introduction
  | .func decl => .function decl.ret decl.name decl.formals
  | .struct decl => .struct decl.name decl.fields

/-- The names that declarations introduce, with what each of them stands for. -/
def bindingsOf (introductions : List Introduction) : List (String × Symbol) :=
  (introductions.filter fun introduction => !introduction.isVoid).map fun introduction =>
    (introduction.name.name, introduction.symbol)

@[simp] theorem bindingsOf_append (first second : List Introduction) :
    bindingsOf (first ++ second) = bindingsOf first ++ bindingsOf second := by
  rw [bindingsOf, List.filter_append, List.map_append]
  rfl

theorem bindingsOf_cons_void (introduction : Introduction) (rest : List Introduction)
    (void : introduction.isVoid = true) : bindingsOf (introduction :: rest) = bindingsOf rest := by
  rw [bindingsOf, List.filter_cons_of_neg (by simp [void])]
  rfl

theorem bindingsOf_cons (introduction : Introduction) (rest : List Introduction)
    (solid : introduction.isVoid = false) :
    bindingsOf (introduction :: rest) =
      (introduction.name.name, introduction.symbol) :: bindingsOf rest := by
  rw [bindingsOf, List.filter_cons_of_pos (by simp [solid]), List.map_cons]
  rfl

theorem bindingsOf_cons_eq (introduction : Introduction) (rest : List Introduction) :
    bindingsOf (introduction :: rest) = bindingsOf [introduction] ++ bindingsOf rest :=
  bindingsOf_append [introduction] rest

theorem fieldTable_eq (fields : List VarDecl) :
    fieldTable fields = Scope.ofBindings (bindingsOf (fields.map VarDecl.introduction)) := by
  rw [fieldTable, bindingsOf, List.filter_map, List.map_map]
  rfl

/-- Looking a name up among declarations finds what the first one that introduces it stands for. -/
theorem lookup_bindingsOf (introductions : List Introduction) (name : String) :
    (bindingsOf introductions).lookup name =
      (introductions.find? (Introduction.introduces name)).map Introduction.symbol := by
  induction introductions with
  | nil => rfl
  | cons introduction rest inductionHypothesis =>
    by_cases void : introduction.isVoid = true
    · rw [bindingsOf_cons_void introduction rest void, inductionHypothesis,
        List.find?_cons_of_neg (by simp [Introduction.introduces, void])]
    · rw [Bool.not_eq_true] at void
      rw [bindingsOf_cons introduction rest void, List.lookup_cons, inductionHypothesis]
      by_cases found : introduction.name.name = name
      · rw [List.find?_cons_of_pos (by simp [Introduction.introduces, void, found])]
        simp [found]
      · have passed : (name == introduction.name.name) = false := by
          simpa using fun same => found same.symm
        rw [List.find?_cons_of_neg (by simp [Introduction.introduces, found]), passed]

/-! ### The scopes around a place -/

/-- A scope around a place, with its declarations in the order of the text. -/
structure Enclosure where
  /-- The declarations that are in force at the place. -/
  inForce : List Introduction
  /-- The other declarations of the scope. They all come after those in force. -/
  later : List Introduction

namespace Enclosure

/-- All declarations of the scope. -/
def declarations (scope : Enclosure) : List Introduction :=
  scope.inForce ++ scope.later

/-- The declaration that a name is accepted for in the scope: the first one that introduces it. -/
def accepted? (scope : Enclosure) (name : String) : Option Introduction :=
  scope.declarations.find? (Introduction.introduces name)

/-- Whether the accepted declaration of a name is in force. -/
def isInForce (scope : Enclosure) (name : String) : Bool :=
  scope.declarations.findIdx (Introduction.introduces name) < scope.inForce.length

/-- What a name stands for by the declarations of the scope that are in force. -/
def visible? (scope : Enclosure) (name : String) : Option Introduction :=
  if scope.isInForce name then scope.accepted? name else none

/-- A name is visible by the first of the declarations in force that introduces it. -/
theorem visible?_eq (scope : Enclosure) (name : String) :
    scope.visible? name = scope.inForce.find? (Introduction.introduces name) := by
  rw [visible?, isInForce, accepted?, declarations, List.findIdx_append, List.find?_append]
  cases found : scope.inForce.find? (Introduction.introduces name) with
  | none =>
    have absent :
        ¬ scope.inForce.findIdx (Introduction.introduces name) < scope.inForce.length := by
      rw [List.findIdx_lt_length]
      rintro ⟨introduction, member, introduced⟩
      exact (List.find?_eq_none.mp found introduction member) introduced
    have beyond : ¬ scope.later.findIdx (Introduction.introduces name) + scope.inForce.length <
        scope.inForce.length := by omega
    simp [absent, beyond]
  | some introduction =>
    have present : scope.inForce.findIdx (Introduction.introduces name) < scope.inForce.length :=
      List.findIdx_lt_length.mpr
        ⟨introduction, List.mem_of_find?_eq_some found, List.find?_some found⟩
    simp [present]

/-- What the scope holds at the place. -/
def scope (enclosure : Enclosure) : Scope Symbol :=
  Scope.ofBindings (bindingsOf enclosure.inForce)

theorem find?_scope (enclosure : Enclosure) (name : String) :
    enclosure.scope.find? name = (enclosure.visible? name).map Introduction.symbol := by
  rw [scope, Scope.find?_ofBindings, lookup_bindingsOf, visible?_eq]

end Enclosure

/-- The scopes around a place, innermost first. -/
abbrev Surroundings := List Enclosure

namespace Surroundings

/-- The declaration that a name stands for: the accepted one of the innermost scope that has one in
force. -/
def visible? (around : Surroundings) (name : String) : Option Introduction :=
  around.findSome? fun scope => scope.visible? name

/-- What a name stands for. -/
def meaning? (around : Surroundings) (name : String) : Option Symbol :=
  (around.visible? name).map Introduction.symbol

/-- The table in which an analysis arrives at the place. -/
def table (around : Surroundings) : SymbolTable :=
  ⟨around.map Enclosure.scope⟩

/-- The table answers a look-up by the declarations in force around the place. -/
theorem visible?_table (around : Surroundings) : around.table.visible? = around.meaning? := by
  funext name
  unfold SymbolTable.visible? meaning? visible? table
  induction around with
  | nil => rfl
  | cons innermost outer inductionHypothesis =>
    rw [List.map_cons, List.findSome?_cons, List.findSome?_cons, inductionHypothesis,
      Enclosure.find?_scope]
    cases innermost.visible? name with
    | none => rfl
    | some introduction => rfl

end Surroundings

end NameBinding
