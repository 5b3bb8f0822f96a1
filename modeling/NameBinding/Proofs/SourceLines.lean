/-
This file takes the source text of declarations apart into its lines. A line is a text together with
the bodies of functions, structs and branches around it, and the lines follow from the tree alone.
How many blanks one level takes, and at which level the text begins, only says how many blanks stand
before a line: those of the level where the text begins, and those of one level more for each body
around the line. The line that opens a body and the one that closes it are around the body and not
in it, and so is the line between two branches. An empty line has no blanks.
-/

import NameBinding.Proofs.Tokens
import NameBinding.Tree.Source

namespace NameBinding

/-! ### Lines -/

/-- A part of a tree whose lines are indented by one level more than what is around it. -/
inductive Body
  | function (decl : Function)
  | struct (decl : StructDecl)
  /-- What is done in one case of a condition, or again and again. -/
  | branch (block : Block)

/-- A line of a text, without its blanks. -/
structure SourceLine where
  /-- The bodies that the line stands in, outermost first. -/
  around : List Body
  text : String

namespace SourceLine

/-- How many bodies a line stands in. -/
def depth (line : SourceLine) : Nat :=
  line.around.length

/-- A line that stands in no body. -/
def bare (text : String) : SourceLine := ⟨[], text⟩

/-- A line of a body, seen from around the body. -/
def inside (body : Body) (line : SourceLine) : SourceLine :=
  ⟨body :: line.around, line.text⟩

/-- A line with its blanks, if the text begins at this level and one level takes so many blanks. -/
def shown (unit level : Nat) (line : SourceLine) : String :=
  if line.text = "" then "" else indentation unit (level + line.depth) ++ line.text

/-- The text of lines, with a line break behind each of them. -/
def joined (unit level : Nat) (lines : List SourceLine) : String :=
  String.join (lines.map fun line => line.shown unit level ++ "\n")

end SourceLine

namespace VarDecl

/-- The line of a variable. -/
def line (decl : VarDecl) : SourceLine :=
  .bare (decl.type.source ++ " " ++ decl.name.source ++ ".")

end VarDecl

namespace StructDecl

/-- The lines of a struct, and the empty line after it. -/
def lines (decl : StructDecl) : List SourceLine :=
  .bare ("struct " ++ decl.name.source ++ " [") ::
    (decl.fields.map VarDecl.line).map (.inside (.struct decl)) ++ [.bare "]", .bare ""]

end StructDecl

mutual

/-- The lines of a block. -/
def Block.lines : Block → List SourceLine
  | ⟨decls, stmts⟩ => Decl.linesOfList decls ++ Stmt.linesOfList stmts

/-- The lines of a statement. -/
def Stmt.lines : Stmt → List SourceLine
  | .assign lhs rhs => [.bare (lhs.source ++ " = " ++ rhs.source ++ ".")]
  | .postInc target => [.bare (target.source ++ "++.")]
  | .postDec target => [.bare (target.source ++ "--.")]
  | .ifThen cond body =>
    .bare ("if (" ++ cond.source ++ ") \x7b") :: body.lines.map (.inside (.branch body)) ++
      [.bare "\x7d"]
  | .ifElse cond thenBranch elseBranch =>
    .bare ("if (" ++ cond.source ++ ") \x7b") ::
      thenBranch.lines.map (.inside (.branch thenBranch)) ++ [.bare "\x7d", .bare "else \x7b"] ++
      elseBranch.lines.map (.inside (.branch elseBranch)) ++ [.bare "\x7d"]
  | .whileDo cond body =>
    .bare ("while (" ++ cond.source ++ ") \x7b") :: body.lines.map (.inside (.branch body)) ++
      [.bare "\x7d"]
  | .read target => [.bare ("input -> " ++ target.source ++ ".")]
  | .write value => [.bare ("disp <- (" ++ value.source ++ ").")]
  | .call callee args => [.bare (callee.source ++ "(" ++ Expr.sourceOfArgs args ++ ").")]
  | .ret none => [.bare "return."]
  | .ret (some value) => [.bare ("return " ++ value.source ++ ".")]

/-- The lines of statements, one after the other. -/
def Stmt.linesOfList : List Stmt → List SourceLine
  | [] => []
  | stmt :: rest => stmt.lines ++ Stmt.linesOfList rest

/-- The lines of a function, and the empty line after it. -/
def Function.lines : Function → List SourceLine
  | ⟨ret, name, formals, body⟩ =>
    .bare (ret.source ++ " " ++ name.source ++ "[" ++
        String.intercalate ", " (formals.map Formal.source) ++ "] [") ::
      body.lines.map (.inside (.function ⟨ret, name, formals, body⟩)) ++ [.bare "]", .bare ""]

/-- The lines of a declaration. -/
def Decl.lines : Decl → List SourceLine
  | .var decl => [decl.line]
  | .func decl => decl.lines
  | .struct decl => decl.lines

/-- The lines of declarations, one after the other. -/
def Decl.linesOfList : List Decl → List SourceLine
  | [] => []
  | decl :: rest => decl.lines ++ Decl.linesOfList rest

end

namespace Body

/-- The lines that stand in a body. -/
def lines : Body → List SourceLine
  | function decl => decl.body.lines
  | struct decl => decl.fields.map VarDecl.line
  | branch block => block.lines

end Body

/-! ### The text of lines -/

namespace SourceLine

theorem joined_nil (unit level : Nat) : joined unit level [] = "" := rfl

theorem joined_append (unit level : Nat) (first second : List SourceLine) :
    joined unit level (first ++ second) = joined unit level first ++ joined unit level second := by
  rw [joined, List.map_append, String.join_append]
  rfl

/-- A line ends in a text that is not empty, and so it has its blanks. -/
theorem joined_ending (unit level : Nat) (text ending : String) (rest : List SourceLine)
    (solid : ending ≠ "") : joined unit level (.bare (text ++ ending) :: rest) =
      indentation unit level ++ (text ++ (ending ++ ("\n" ++ joined unit level rest))) := by
  have whole : text ++ ending ≠ "" := fun empty => solid (String.append_eq_empty_iff.mp empty).2
  rw [joined, List.map_cons, String.join_cons, shown, bare, if_neg whole]
  simp only [String.append_assoc]
  rfl

theorem joined_solid (unit level : Nat) (text : String) (rest : List SourceLine)
    (solid : text ≠ "") : joined unit level (.bare text :: rest) =
      indentation unit level ++ (text ++ ("\n" ++ joined unit level rest)) := by
  have ending := joined_ending unit level "" text rest solid
  rwa [String.empty_append, String.empty_append] at ending

theorem joined_empty (unit level : Nat) (rest : List SourceLine) :
    joined unit level (.bare "" :: rest) = "\n" ++ joined unit level rest := by
  rw [joined, List.map_cons, String.join_cons]
  rfl

/-- What stands in a body begins one level further in. -/
theorem joined_inside (unit level : Nat) (body : Body) (lines : List SourceLine) :
    joined unit level (lines.map (inside body)) = joined unit (level + 1) lines := by
  have deeper : ∀ line : SourceLine,
      (inside body line).shown unit level = line.shown unit (level + 1) := fun line => by
    have levels : level + (inside body line).depth = level + 1 + line.depth := by
      rw [depth, depth, inside, List.length_cons]
      omega
    rw [shown, shown, levels]
    rfl
  rw [joined, joined, List.map_map]
  exact congrArg String.join (List.map_congr_left fun line _ => by rw [Function.comp, deeper line])

end SourceLine

open SourceLine

/-! ### The source text is the text of the lines -/

section

variable (unit level : Nat)

theorem VarDecl.joined_lines (decls : List VarDecl) :
    joined unit level (decls.map line) = String.join (decls.map (source unit level)) := by
  induction decls with
  | nil => rfl
  | cons decl rest inductionHypothesis =>
    rw [List.map_cons, List.map_cons, String.join_cons, line,
      joined_ending _ _ _ "." _ (by decide), inductionHypothesis, source]
    simp only [String.append_assoc]
    rfl

theorem StructDecl.joined_lines (decl : StructDecl) :
    joined unit level decl.lines = decl.source unit level := by
  rw [lines, List.cons_append, joined_ending _ _ _ " [" _ (by decide), joined_append,
    joined_inside, VarDecl.joined_lines, joined_solid _ _ "]" _ (by decide), joined_empty,
    joined_nil, source]
  simp only [String.append_assoc]
  rfl

end

mutual

theorem Block.joined_lines (unit level : Nat) : ∀ block : Block,
    joined unit level block.lines = block.source unit level
  | ⟨decls, stmts⟩ => by
    rw [Block.lines, joined_append, Decl.joined_lines, Stmt.joined_linesOfList]
    rfl

theorem Stmt.joined_lines (unit level : Nat) : ∀ stmt : Stmt,
    joined unit level stmt.lines = stmt.source unit level
  | .ifThen cond body | .whileDo cond body => by
    rw [Stmt.lines, List.cons_append, joined_ending _ _ _ ") \x7b" _ (by decide), joined_append,
      joined_inside, Block.joined_lines, joined_solid _ _ "\x7d" _ (by decide), Stmt.source]
    simp only [String.append_assoc]
    rfl
  | .ifElse cond thenBranch elseBranch => by
    rw [Stmt.lines, List.append_assoc, List.append_assoc, List.cons_append, List.cons_append,
      joined_ending _ _ _ ") \x7b" _ (by decide), joined_append, joined_inside,
      Block.joined_lines, List.cons_append, joined_solid _ _ "\x7d" _ (by decide),
      joined_solid _ _ "else \x7b" _ (by decide), List.nil_append,
      joined_append, joined_inside, Block.joined_lines, joined_solid _ _ "\x7d" _ (by decide),
      Stmt.source]
    simp only [String.append_assoc]
    rfl
  | .ret none => by
    rw [Stmt.lines, joined_solid _ _ "return." _ (by decide)]
    rfl
  -- The other statements are single lines that end in their point.
  | .assign _ _ | .postInc _ | .postDec _ | .read _ | .write _ | .call _ _ | .ret (some _) => by
    rw [Stmt.lines, joined_ending _ _ _ _ _ (by decide), Stmt.source]
    simp only [String.append_assoc]
    rfl

theorem Stmt.joined_linesOfList (unit level : Nat) : ∀ stmts : List Stmt,
    joined unit level (Stmt.linesOfList stmts) = Stmt.sourceOfList unit level stmts
  | [] => rfl
  | stmt :: rest => by
    rw [Stmt.linesOfList, joined_append, Stmt.joined_lines, Stmt.joined_linesOfList]
    rfl

theorem Function.joined_lines (unit level : Nat) : ∀ decl : Function,
    joined unit level decl.lines = decl.source unit level
  | ⟨ret, name, formals, body⟩ => by
    rw [Function.lines, List.cons_append, joined_ending _ _ _ "] [" _ (by decide), joined_append,
      joined_inside, Block.joined_lines, joined_solid _ _ "]" _ (by decide), joined_empty,
      Function.source]
    simp only [String.append_assoc]
    rfl

theorem Decl.joined_linesOfDecl (unit level : Nat) : ∀ decl : Decl,
    joined unit level decl.lines = decl.source unit level
  | .var decl => by
    have single := VarDecl.joined_lines unit level [decl]
    rwa [List.map_singleton, List.map_singleton, String.join_cons, String.join_nil,
      String.append_empty] at single
  | .func decl => Function.joined_lines unit level decl
  | .struct decl => decl.joined_lines unit level

/-- The source text of declarations is the text of their lines, wherever it begins. -/
theorem Decl.joined_lines (unit level : Nat) : ∀ decls : List Decl,
    joined unit level (Decl.linesOfList decls) = Decl.sourceOfList unit level decls
  | [] => rfl
  | decl :: rest => by
    rw [Decl.linesOfList, joined_append, Decl.joined_linesOfDecl, Decl.joined_lines]
    rfl

end

/-! ### Texts without line breaks -/

/-- Whether a text has no line break in it. -/
def IsUnbroken (text : String) : Prop :=
  '\n' ∉ text.toList

instance (text : String) : Decidable (IsUnbroken text) :=
  inferInstanceAs (Decidable ('\n' ∉ text.toList))

@[simp]
theorem isUnbroken_append {first second : String} :
    IsUnbroken (first ++ second) ↔ IsUnbroken first ∧ IsUnbroken second := by
  rw [IsUnbroken, String.toList_append, List.mem_append, not_or]
  rfl

/-- Whether none of the texts has a line break in it. -/
def AllUnbroken (texts : List String) : Prop :=
  ∀ text ∈ texts, IsUnbroken text

instance (texts : List String) : Decidable (AllUnbroken texts) :=
  inferInstanceAs (Decidable (∀ text ∈ texts, IsUnbroken text))

@[simp]
theorem allUnbroken_nil : AllUnbroken [] ↔ True :=
  iff_true_intro fun _ member => nomatch member

@[simp]
theorem allUnbroken_cons {text : String} {texts : List String} :
    AllUnbroken (text :: texts) ↔ IsUnbroken text ∧ AllUnbroken texts :=
  List.forall_mem_cons

@[simp]
theorem allUnbroken_append {first second : List String} :
    AllUnbroken (first ++ second) ↔ AllUnbroken first ∧ AllUnbroken second :=
  List.forall_mem_append

@[simp]
theorem isUnbroken_repr (value : Int) : IsUnbroken value.repr := by
  have digits : ∀ n : Nat, IsUnbroken n.repr := fun n member => by
    rw [Nat.repr, String.toList_ofList] at member
    exact absurd (Reader.isDigit_toDigits n _ member) (by decide)
  cases value with
  | ofNat n => exact digits n
  | negSucc n => exact isUnbroken_append.mpr ⟨by decide, digits (n + 1)⟩

namespace UnaryOp

@[simp]
theorem isUnbroken_sign (op : UnaryOp) : IsUnbroken op.sign := by cases op <;> decide

end UnaryOp

namespace BinaryOp

@[simp]
theorem isUnbroken_sign (op : BinaryOp) : IsUnbroken op.sign := by cases op <;> decide

end BinaryOp

/-! ### The texts in a tree -/

namespace Ident

/-- The name, and the descriptor if the occurrence is bound. -/
def texts (ident : Ident) : List String :=
  ident.name :: (ident.symbol.map Symbol.descriptor).toList

@[simp]
theorem isUnbroken_source (ident : Ident) : IsUnbroken ident.source ↔ AllUnbroken ident.texts := by
  rw [source, texts, allUnbroken_cons]
  cases ident.symbol with
  | none => exact (and_iff_left (allUnbroken_nil.mpr trivial)).symm
  | some symbol =>
    have single : AllUnbroken [symbol.descriptor] ↔ IsUnbroken symbol.descriptor :=
      List.forall_mem_singleton
    have braces : IsUnbroken "\x7b" ∧ IsUnbroken "\x7d" := by decide
    rw [isUnbroken_append, isUnbroken_append, isUnbroken_append, Option.map_some,
      Option.toList_some, single, and_iff_left braces.1, and_iff_left braces.2]

end Ident

namespace TypeName

/-- The texts in a type. -/
def texts : TypeName → List String
  | struct name => name.texts
  | _ => []

@[simp]
theorem isUnbroken_source (type : TypeName) : IsUnbroken type.source ↔ AllUnbroken type.texts := by
  cases type with
  | struct name =>
    exact isUnbroken_append.trans ((and_iff_right (by decide)).trans name.isUnbroken_source)
  | _ => exact iff_of_true (by decide) (allUnbroken_nil.mpr trivial)

end TypeName

mutual

/-- The texts in an expression: its names, the descriptors behind them, and its literals. -/
def Expr.texts : Expr → List String
  | .truth _ _ => []
  | .id ident => ident.texts
  | .intLit _ _ => []
  | .strLit value _ => [value]
  | .access base field _ => base.texts ++ field.texts
  | .assign lhs rhs => lhs.texts ++ rhs.texts
  | .call callee args => callee.texts ++ Expr.textsOfArgs args
  | .unary _ operand => operand.texts
  | .binary _ lhs rhs => lhs.texts ++ rhs.texts

/-- The texts in arguments, one after the other. -/
def Expr.textsOfArgs : List Expr → List String
  | [] => []
  | expr :: rest => expr.texts ++ Expr.textsOfArgs rest

end

mutual

theorem Expr.isUnbroken_source : ∀ expr : Expr, IsUnbroken expr.source ↔ AllUnbroken expr.texts
  | .truth true _ => iff_of_true (show IsUnbroken "TRUE" by decide) (allUnbroken_nil.mpr trivial)
  | .truth false _ => iff_of_true (show IsUnbroken "FALSE" by decide) (allUnbroken_nil.mpr trivial)
  | .id ident => ident.isUnbroken_source
  | .intLit value _ => iff_of_true (isUnbroken_repr _) (allUnbroken_nil.mpr trivial)
  | .strLit value _ => List.forall_mem_singleton.symm
  | .access base field _ => by
    simp +decide [Expr.source, Expr.texts, Expr.isUnbroken_source]
  | .assign lhs rhs => by
    simp +decide [Expr.source, Expr.texts, Expr.isUnbroken_source]
  | .call callee args => by
    simp +decide [Expr.source, Expr.texts, Expr.isUnbroken_sourceOfArgs]
  | .unary op operand => by
    simp +decide [Expr.source, Expr.texts, Expr.isUnbroken_source]
  | .binary op lhs rhs => by
    simp +decide [Expr.source, Expr.texts, Expr.isUnbroken_source]

theorem Expr.isUnbroken_sourceOfArgs : ∀ args : List Expr,
    IsUnbroken (Expr.sourceOfArgs args) ↔ AllUnbroken (Expr.textsOfArgs args)
  | [] => iff_of_true (show IsUnbroken "" by decide) (allUnbroken_nil.mpr trivial)
  | [expr] => by
    rw [Expr.textsOfArgs, Expr.textsOfArgs, List.append_nil]
    exact expr.isUnbroken_source
  | expr :: next :: rest => by
    have comma : IsUnbroken ", " := by decide
    rw [Expr.sourceOfArgs, Expr.textsOfArgs, allUnbroken_append, isUnbroken_append,
      isUnbroken_append, Expr.isUnbroken_source, Expr.isUnbroken_sourceOfArgs, and_iff_left comma]

end

namespace VarDecl

/-- The texts in the declaration of a variable. -/
def texts (decl : VarDecl) : List String :=
  decl.type.texts ++ decl.name.texts

theorem isUnbroken_line (decl : VarDecl) :
    IsUnbroken decl.line.text ↔ AllUnbroken decl.texts := by
  simp +decide [line, bare, texts]

theorem allUnbroken_lines (decls : List VarDecl) :
    AllUnbroken ((decls.map line).map SourceLine.text) ↔ AllUnbroken (decls.flatMap texts) := by
  induction decls with
  | nil => rfl
  | cons decl rest inductionHypothesis =>
    rw [List.map_cons, List.map_cons, List.flatMap_cons, allUnbroken_cons, allUnbroken_append,
      isUnbroken_line, inductionHypothesis]

end VarDecl

namespace Formal

/-- The texts in one parameter. -/
def texts (formal : Formal) : List String :=
  formal.type.texts ++ formal.name.texts

theorem isUnbroken_sources (formals : List Formal) :
    IsUnbroken (String.intercalate ", " (formals.map source)) ↔
      AllUnbroken (formals.flatMap texts) := by
  have single : ∀ formal : Formal, IsUnbroken formal.source ↔ AllUnbroken formal.texts :=
    fun formal => by simp +decide [source, texts]
  induction formals with
  | nil => exact iff_of_true (show IsUnbroken "" by decide) (allUnbroken_nil.mpr trivial)
  | cons formal more inductionHypothesis =>
    cases more with
    | nil =>
      rw [List.flatMap_cons, List.flatMap_nil, List.append_nil]
      exact single formal
    | cons next rest =>
      have comma : IsUnbroken ", " := by decide
      rw [List.map_cons, List.map_cons, String.intercalate_cons_cons, ← @List.map_cons _ _ source,
        isUnbroken_append, isUnbroken_append, single, and_iff_left comma, List.flatMap_cons,
        allUnbroken_append]
      exact and_congr_right fun _ => inductionHypothesis

end Formal

namespace StructDecl

/-- The texts in the declaration of a struct. -/
def texts (decl : StructDecl) : List String :=
  decl.name.texts ++ decl.fields.flatMap VarDecl.texts

end StructDecl

mutual

/-- The texts in a block. -/
def Block.texts : Block → List String
  | ⟨decls, stmts⟩ => Decl.textsOfList decls ++ Stmt.textsOfList stmts

/-- The texts in a statement. -/
def Stmt.texts : Stmt → List String
  | .assign lhs rhs => lhs.texts ++ rhs.texts
  | .postInc target => target.texts
  | .postDec target => target.texts
  | .ifThen cond body => cond.texts ++ body.texts
  | .ifElse cond thenBranch elseBranch => cond.texts ++ thenBranch.texts ++ elseBranch.texts
  | .whileDo cond body => cond.texts ++ body.texts
  | .read target => target.texts
  | .write value => value.texts
  | .call callee args => callee.texts ++ Expr.textsOfArgs args
  | .ret none => []
  | .ret (some value) => value.texts

/-- The texts in statements, one after the other. -/
def Stmt.textsOfList : List Stmt → List String
  | [] => []
  | stmt :: rest => stmt.texts ++ Stmt.textsOfList rest

/-- The texts in a function. -/
def Function.texts : Function → List String
  | ⟨ret, name, formals, body⟩ =>
    ret.texts ++ name.texts ++ formals.flatMap Formal.texts ++ body.texts

/-- The texts in a declaration. -/
def Decl.texts : Decl → List String
  | .var decl => decl.texts
  | .func decl => decl.texts
  | .struct decl => decl.texts

/-- The texts in declarations, one after the other. -/
def Decl.textsOfList : List Decl → List String
  | [] => []
  | decl :: rest => decl.texts ++ Decl.textsOfList rest

end

/-! ### No line has a line break in it -/

@[simp]
theorem SourceLine.text_comp_inside (body : Body) :
    SourceLine.text ∘ inside body = SourceLine.text := rfl

@[simp]
theorem SourceLine.text_bare (text : String) : (bare text).text = text := rfl

theorem StructDecl.allUnbroken_lines (decl : StructDecl) :
    AllUnbroken (decl.lines.map SourceLine.text) ↔ AllUnbroken decl.texts := by
  rw [lines, texts, List.map_append, List.map_cons, List.map_map, text_comp_inside,
    allUnbroken_append, allUnbroken_cons, VarDecl.allUnbroken_lines]
  simp +decide

mutual

theorem Block.allUnbroken_lines : ∀ block : Block,
    AllUnbroken (block.lines.map SourceLine.text) ↔ AllUnbroken block.texts
  | ⟨decls, stmts⟩ => by
    rw [Block.lines, Block.texts, List.map_append, allUnbroken_append, allUnbroken_append,
      Decl.allUnbroken_lines, Stmt.allUnbroken_linesOfList]

theorem Stmt.allUnbroken_lines : ∀ stmt : Stmt,
    AllUnbroken (stmt.lines.map SourceLine.text) ↔ AllUnbroken stmt.texts
  | .ifThen cond body | .whileDo cond body => by
    simp +decide [Stmt.lines, Stmt.texts, Expr.isUnbroken_source, Block.allUnbroken_lines]
  | .ifElse cond thenBranch elseBranch => by
    simp +decide [Stmt.lines, Stmt.texts, Expr.isUnbroken_source, Block.allUnbroken_lines]
  | .assign _ _ | .postInc _ | .postDec _ | .read _ | .write _ | .call _ _ | .ret none
  | .ret (some _) => by
    simp +decide [Stmt.lines, Stmt.texts, Expr.isUnbroken_source, Expr.isUnbroken_sourceOfArgs]

theorem Stmt.allUnbroken_linesOfList : ∀ stmts : List Stmt,
    AllUnbroken ((Stmt.linesOfList stmts).map SourceLine.text) ↔
      AllUnbroken (Stmt.textsOfList stmts)
  | [] => .rfl
  | stmt :: rest => by
    rw [Stmt.linesOfList, Stmt.textsOfList, List.map_append, allUnbroken_append,
      allUnbroken_append, Stmt.allUnbroken_lines, Stmt.allUnbroken_linesOfList]

theorem Function.allUnbroken_lines : ∀ decl : Function,
    AllUnbroken (decl.lines.map SourceLine.text) ↔ AllUnbroken decl.texts
  | ⟨ret, name, formals, body⟩ => by
    simp +decide [Function.lines, Function.texts, Formal.isUnbroken_sources,
      Block.allUnbroken_lines, and_assoc]

theorem Decl.allUnbroken_linesOfDecl : ∀ decl : Decl,
    AllUnbroken (decl.lines.map SourceLine.text) ↔ AllUnbroken decl.texts
  | .var decl => (VarDecl.allUnbroken_lines [decl]).trans (by rw [List.flatMap_singleton]; rfl)
  | .func decl => Function.allUnbroken_lines decl
  | .struct decl => decl.allUnbroken_lines

/-- The lines of declarations have a line break in them just if one of the texts of the tree has. -/
theorem Decl.allUnbroken_lines : ∀ decls : List Decl,
    AllUnbroken ((Decl.linesOfList decls).map SourceLine.text) ↔
      AllUnbroken (Decl.textsOfList decls)
  | [] => .rfl
  | decl :: rest => by
    rw [Decl.linesOfList, Decl.textsOfList, List.map_append, allUnbroken_append,
      allUnbroken_append, Decl.allUnbroken_linesOfDecl, Decl.allUnbroken_lines]

end

/-! ### The bodies around a line -/

/-- Whether each of the bodies around a line has the line in it, with the bodies further inside
around it. -/
def SourceLine.IsEnclosed (line : SourceLine) : Prop :=
  ∀ outer body inner, line.around = outer ++ body :: inner → ⟨inner, line.text⟩ ∈ body.lines

theorem SourceLine.isEnclosed_bare (text : String) : (bare text).IsEnclosed := by
  intro outer body inner around
  exact absurd around.symm (List.append_ne_nil_of_right_ne_nil outer (List.cons_ne_nil body inner))

theorem SourceLine.isEnclosed_inside (body : Body)
    (enclosed : ∀ line ∈ body.lines, line.IsEnclosed) :
    ∀ line ∈ body.lines.map (inside body), line.IsEnclosed := by
  intro line member
  obtain ⟨part, found, rfl⟩ := List.mem_map.mp member
  rintro (_ | ⟨first, outer⟩) other inner around
  · obtain ⟨rfl, rfl⟩ := List.cons.inj around
    exact found
  · exact enclosed part found outer other inner (List.cons.inj around).2

theorem VarDecl.isEnclosed_lines (decls : List VarDecl) :
    ∀ line ∈ decls.map VarDecl.line, line.IsEnclosed :=
  List.forall_mem_map.mpr fun _ _ => isEnclosed_bare _

theorem StructDecl.isEnclosed_lines (decl : StructDecl) : ∀ line ∈ decl.lines, line.IsEnclosed := by
  have fields := isEnclosed_inside (.struct decl) (VarDecl.isEnclosed_lines decl.fields)
  rw [lines, List.forall_mem_append, List.forall_mem_cons]
  exact ⟨⟨isEnclosed_bare _, fields⟩, by simp [isEnclosed_bare]⟩

mutual

theorem Block.isEnclosed_lines : ∀ block : Block, ∀ line ∈ block.lines, line.IsEnclosed
  | ⟨decls, stmts⟩ => by
    rw [Block.lines, List.forall_mem_append]
    exact ⟨Decl.isEnclosed_lines decls, Stmt.isEnclosed_linesOfList stmts⟩

theorem Stmt.isEnclosed_lines : ∀ stmt : Stmt, ∀ line ∈ stmt.lines, line.IsEnclosed
  | .ifThen cond body | .whileDo cond body => by
    have branch := isEnclosed_inside (.branch body) (Block.isEnclosed_lines body)
    rw [Stmt.lines, List.forall_mem_append, List.forall_mem_cons, List.forall_mem_singleton]
    exact ⟨⟨isEnclosed_bare _, branch⟩, isEnclosed_bare _⟩
  | .ifElse cond thenBranch elseBranch => by
    have first := isEnclosed_inside (.branch thenBranch) (Block.isEnclosed_lines thenBranch)
    have second := isEnclosed_inside (.branch elseBranch) (Block.isEnclosed_lines elseBranch)
    rw [Stmt.lines, List.forall_mem_append, List.forall_mem_append, List.forall_mem_append,
      List.forall_mem_cons, List.forall_mem_singleton]
    exact ⟨⟨⟨⟨isEnclosed_bare _, first⟩, by simp [isEnclosed_bare]⟩, second⟩, isEnclosed_bare _⟩
  | .assign _ _ | .postInc _ | .postDec _ | .read _ | .write _ | .call _ _ | .ret none
  | .ret (some _) => by
    rw [Stmt.lines, List.forall_mem_singleton]
    exact isEnclosed_bare _

theorem Stmt.isEnclosed_linesOfList : ∀ stmts : List Stmt,
    ∀ line ∈ Stmt.linesOfList stmts, line.IsEnclosed
  | [] => fun _ member => nomatch member
  | stmt :: rest => by
    rw [Stmt.linesOfList, List.forall_mem_append]
    exact ⟨Stmt.isEnclosed_lines stmt, Stmt.isEnclosed_linesOfList rest⟩

theorem Function.isEnclosed_lines : ∀ decl : Function, ∀ line ∈ decl.lines, line.IsEnclosed
  | ⟨ret, name, formals, body⟩ => by
    have inner := isEnclosed_inside (.function ⟨ret, name, formals, body⟩)
      (Block.isEnclosed_lines body)
    rw [Function.lines, List.forall_mem_append, List.forall_mem_cons]
    exact ⟨⟨isEnclosed_bare _, inner⟩, by simp [isEnclosed_bare]⟩

theorem Decl.isEnclosed_linesOfDecl : ∀ decl : Decl, ∀ line ∈ decl.lines, line.IsEnclosed
  | .var decl => VarDecl.isEnclosed_lines [decl]
  | .func decl => Function.isEnclosed_lines decl
  | .struct decl => decl.isEnclosed_lines

theorem Decl.isEnclosed_lines : ∀ decls : List Decl,
    ∀ line ∈ Decl.linesOfList decls, line.IsEnclosed
  | [] => fun _ member => nomatch member
  | decl :: rest => by
    rw [Decl.linesOfList, List.forall_mem_append]
    exact ⟨Decl.isEnclosed_linesOfDecl decl, Decl.isEnclosed_lines rest⟩

end

/-! ### The text splits into the lines -/

namespace SourceLine

theorem isUnbroken_shown (unit level : Nat) {line : SourceLine} (unbroken : IsUnbroken line.text) :
    IsUnbroken (line.shown unit level) := by
  rw [shown]
  split
  · decide
  · have blanks : IsUnbroken (indentation unit (level + line.depth)) := fun member => by
      rw [indentation, String.toList_ofList] at member
      exact absurd (List.eq_of_mem_replicate member) (by decide)
    exact isUnbroken_append.mpr ⟨blanks, unbroken⟩

theorem splitOn_joined (unit level : Nat) (lines : List SourceLine)
    (unbroken : AllUnbroken (lines.map text)) :
    (joined unit level lines).toList.splitOn '\n' =
      (lines.map fun line => (line.shown unit level).toList) ++ [[]] := by
  induction lines with
  | nil => rfl
  | cons line rest inductionHypothesis =>
    rw [List.map_cons, allUnbroken_cons] at unbroken
    have whole : (joined unit level (line :: rest)).toList =
        (line.shown unit level).toList ++ '\n' :: (joined unit level rest).toList := by
      rw [joined, List.map_cons, String.join_cons, String.toList_append, String.toList_append,
        List.append_assoc]
      rfl
    have first := List.splitOn_eq_singleton (isUnbroken_shown unit level unbroken.1)
    have later := inductionHypothesis unbroken.2
    rw [List.splitOn_eq_splitOnP] at first later ⊢
    rw [whole, List.splitOnP_append_cons _ _ rfl, first, later]
    rfl

end SourceLine

/-- If no text in declarations has a line break in it, the lines of their source text are given by
the tree alone, up to the blanks before them: those of the level at which the text begins and of one
level more for each body of a function, a struct or a branch that the line stands in, and none
before an empty line. A line break is behind each of the lines. -/
theorem source_lines (decls : List Decl) (unbroken : AllUnbroken (Decl.textsOfList decls)) :
    (∀ unit level : Nat, (Decl.sourceOfList unit level decls).toList.splitOn '\n' =
      ((Decl.linesOfList decls).map fun line =>
        if line.text = "" then [] else
          List.replicate ((level + line.around.length) * unit) ' ' ++ line.text.toList) ++ [[]]) ∧
    ∀ line ∈ Decl.linesOfList decls, line.IsEnclosed := by
  refine ⟨fun unit level => ?_, Decl.isEnclosed_lines decls⟩
  rw [← Decl.joined_lines, splitOn_joined _ _ _ ((Decl.allUnbroken_lines decls).mpr unbroken)]
  refine congrArg (· ++ [[]]) (List.map_congr_left fun line _ => ?_)
  rw [shown]
  split
  · rfl
  · rw [String.toList_append, indentation, String.toList_ofList]
    rfl

/-- A struct, and a function that has two branches in it, from the second level on. -/
theorem source_lines_branches :
    let name (text : String) : Ident := ⟨text, ⟨1, 1⟩, none⟩
    let bound : Expr := .id ⟨"b", ⟨1, 1⟩, some (.plain "boolean")⟩
    let choice : Stmt := .ifElse bound ⟨[], [.ret none]⟩ ⟨[], [.write (.strLit "no" ⟨1, 1⟩)]⟩
    let decls : List Decl := [.struct ⟨name "P", [⟨.integer, name "x", none⟩]⟩,
      .func ⟨.void, name "f", [⟨.boolean, name "b"⟩], ⟨[], [choice]⟩⟩]
    AllUnbroken (Decl.textsOfList decls) ∧
      (Decl.sourceOfList 2 1 decls).toList.splitOn '\n' = List.map String.toList
        ["  struct P [", "    integer x.", "  ]", "",
          "  void f[boolean b] [", "    if (b\x7bboolean\x7d) \x7b", "      return.", "    \x7d",
          "    else \x7b", "      disp <- (no).", "    \x7d", "  ]", "", ""] := by
  intro name bound choice decls
  have unbroken : AllUnbroken (Decl.textsOfList decls) := by decide
  exact ⟨unbroken, ((source_lines decls unbroken).1 2 1).trans (by decide)⟩

end NameBinding
