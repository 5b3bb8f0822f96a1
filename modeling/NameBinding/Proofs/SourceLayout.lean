/-
This file relates the source text of a program to the list of its occurrences. What the text of a
program has around its names is its layout: fixed texts, and gaps for the names. A layout is a
function of the tree that looks at no name and at no symbol. Every part of a program is shown by its
own layout with the occurrences of the part in the gaps, each occurrence once and in the order of
the list. The same layout with the bare names gives the text of the part without its symbols, so
symbols add to a text nothing but their descriptors behind the names.
-/

import NameBinding.Proofs.Relabeled
import NameBinding.Proofs.WithoutSymbols
import NameBinding.Report.Bindings
import NameBinding.Tree.Source

namespace NameBinding

/-- A part of a text that is fixed, or a gap for a name. -/
inductive Segment
  | text (content : String)
  | gap

/-- Texts with a gap between each and the next one: the first text, and those behind the gaps. -/
structure Pieces where
  first : String
  behind : List String

namespace Pieces

/-- The text with a word in each gap. -/
def woven (pieces : Pieces) (words : List String) : String :=
  pieces.first ++ String.join (List.zipWith (· ++ ·) words pieces.behind)

example : woven ⟨"(", [" = ", ")"]⟩ ["a", "b"] = "(a = b)" := by decide

/-- The pieces of a layout. Texts with no gap between them are one piece. -/
def ofSegments : List Segment → Pieces
  | [] => ⟨"", []⟩
  | .text content :: rest => ⟨content ++ (ofSegments rest).first, (ofSegments rest).behind⟩
  | .gap :: rest => ⟨"", (ofSegments rest).first :: (ofSegments rest).behind⟩

theorem woven_text (content : String) (rest : List Segment) (words : List String) :
    (ofSegments (.text content :: rest)).woven words =
      content ++ (ofSegments rest).woven words :=
  String.append_assoc

theorem woven_gap (rest : List Segment) (word : String) (words : List String) :
    (ofSegments (.gap :: rest)).woven (word :: words) =
      word ++ (ofSegments rest).woven words := by
  rw [ofSegments, woven, List.zipWith_cons_cons, String.join_cons, String.empty_append,
    String.append_assoc]
  rfl

end Pieces

/-! ### Layouts -/

namespace TypeName

/-- The layout of a type. -/
def layout : TypeName → List Segment
  | boolean => [.text "boolean"]
  | integer => [.text "integer"]
  | void => [.text "void"]
  | struct _ => [.text "struct ", .gap]

end TypeName

mutual

/-- The layout of an expression. -/
def Expr.layout : Expr → List Segment
  | .truth true _ => [.text "TRUE"]
  | .truth false _ => [.text "FALSE"]
  | .id _ => [.gap]
  | .intLit value _ => [.text value.toInt.repr]
  | .strLit value _ => [.text value]
  | .access base _ _ => base.layout ++ [.text ":"] ++ [.gap]
  | .assign lhs rhs => .text "(" :: lhs.layout ++ [.text " = "] ++ rhs.layout ++ [.text ")"]
  | .call _ args => [.gap, .text "("] ++ Expr.layoutOfArgs args ++ [.text ")"]
  | .unary op operand => [.text "(", .text op.sign] ++ operand.layout ++ [.text ")"]
  | .binary op lhs rhs =>
    .text "(" :: lhs.layout ++ [.text " "] ++ [.text op.sign] ++ [.text " "] ++ rhs.layout ++
      [.text ")"]

/-- The layout of arguments, with commas between them. -/
def Expr.layoutOfArgs : List Expr → List Segment
  | [] => []
  | [expr] => expr.layout
  | expr :: next :: rest => expr.layout ++ [.text ", "] ++ Expr.layoutOfArgs (next :: rest)

end

namespace VarDecl

/-- The layout of the line of a variable. -/
def layout (unit level : Nat) (decl : VarDecl) : List Segment :=
  .text (indentation unit level) :: decl.type.layout ++ [.text " "] ++ [.gap] ++ [.text ".\n"]

end VarDecl

namespace Formal

/-- The layout of one parameter. -/
def layout (formal : Formal) : List Segment :=
  formal.type.layout ++ [.text " "] ++ [.gap]

/-- The layout of parameters, with commas between them. -/
def layoutOfList : List Formal → List Segment
  | [] => []
  | [formal] => formal.layout
  | formal :: next :: rest => formal.layout ++ [.text ", "] ++ layoutOfList (next :: rest)

end Formal

namespace StructDecl

/-- The layout of the lines of a struct. -/
def layout (unit level : Nat) (decl : StructDecl) : List Segment :=
  [.text (indentation unit level), .text "struct ", .gap, .text " [\n"] ++
    decl.fields.flatMap (VarDecl.layout unit (level + 1)) ++
    [.text (indentation unit level)] ++ [.text "]\n\n"]

end StructDecl

mutual

/-- The layout of the lines of a block. -/
def Block.layout (unit level : Nat) : Block → List Segment
  | ⟨decls, stmts⟩ => Decl.layoutOfList unit level decls ++ Stmt.layoutOfList unit level stmts

/-- The layout of the lines of a statement. -/
def Stmt.layout (unit level : Nat) : Stmt → List Segment
  | .assign lhs rhs =>
    .text (indentation unit level) :: lhs.layout ++ [.text " = "] ++ rhs.layout ++ [.text ".\n"]
  | .postInc target => .text (indentation unit level) :: target.layout ++ [.text "++.\n"]
  | .postDec target => .text (indentation unit level) :: target.layout ++ [.text "--.\n"]
  | .ifThen cond body =>
    [.text (indentation unit level), .text "if ("] ++ cond.layout ++ [.text ") \x7b\n"] ++
      body.layout unit (level + 1) ++ [.text (indentation unit level)] ++ [.text "\x7d\n"]
  | .ifElse cond thenBranch elseBranch =>
    [.text (indentation unit level), .text "if ("] ++ cond.layout ++ [.text ") \x7b\n"] ++
      thenBranch.layout unit (level + 1) ++ [.text (indentation unit level)] ++ [.text "\x7d\n"] ++
      [.text (indentation unit level)] ++ [.text "else \x7b\n"] ++
      elseBranch.layout unit (level + 1) ++ [.text (indentation unit level)] ++ [.text "\x7d\n"]
  | .whileDo cond body =>
    [.text (indentation unit level), .text "while ("] ++ cond.layout ++ [.text ") \x7b\n"] ++
      body.layout unit (level + 1) ++ [.text (indentation unit level)] ++ [.text "\x7d\n"]
  | .read target =>
    [.text (indentation unit level), .text "input -> "] ++ target.layout ++ [.text ".\n"]
  | .write value =>
    [.text (indentation unit level), .text "disp <- ("] ++ value.layout ++ [.text ").\n"]
  | .call _ args =>
    [.text (indentation unit level), .gap, .text "("] ++ Expr.layoutOfArgs args ++ [.text ").\n"]
  | .ret none => [.text (indentation unit level), .text "return.\n"]
  | .ret (some value) =>
    [.text (indentation unit level), .text "return "] ++ value.layout ++ [.text ".\n"]

/-- The layout of statements, one after the other. -/
def Stmt.layoutOfList (unit level : Nat) : List Stmt → List Segment
  | [] => []
  | stmt :: rest => stmt.layout unit level ++ Stmt.layoutOfList unit level rest

/-- The layout of the lines of a function. -/
def Function.layout (unit level : Nat) : Function → List Segment
  | ⟨ret, _, formals, body⟩ =>
    .text (indentation unit level) :: ret.layout ++ [.text " "] ++ [.gap] ++ [.text "["] ++
      Formal.layoutOfList formals ++ [.text "] [\n"] ++ body.layout unit (level + 1) ++
      [.text (indentation unit level)] ++ [.text "]\n\n"]

/-- The layout of the lines of a declaration. -/
def Decl.layout (unit level : Nat) : Decl → List Segment
  | .var decl => decl.layout unit level
  | .func decl => decl.layout unit level
  | .struct decl => decl.layout unit level

/-- The layout of declarations, one after the other. -/
def Decl.layoutOfList (unit level : Nat) : List Decl → List Segment
  | [] => []
  | decl :: rest => decl.layout unit level ++ Decl.layoutOfList unit level rest

end

namespace Program

/-- What the source text of a program has before, between and behind the names. -/
def pieces (unit : Nat) (program : Program) : Pieces :=
  .ofSegments (Decl.layoutOfList unit 0 program.decls)

end Program

/-! ### A text along a layout -/

/-- A text, and the same text without symbols, that have the names met on the way in the gaps of
one layout. -/
inductive Shows : List Segment → List Visit → String → String → Prop
  | nil : Shows [] [] "" ""
  | text (content : String) {layout : List Segment} {visits : List Visit} {shown bare : String} :
      Shows layout visits shown bare →
      Shows (.text content :: layout) visits (content ++ shown) (content ++ bare)
  | name (ident : Ident) (role : Role) {layout : List Segment} {visits : List Visit}
      {shown bare : String} : Shows layout visits shown bare →
      Shows (.gap :: layout) (.ident ident role :: visits) (ident.source ++ shown)
        (ident.name ++ bare)
  /-- An access is met after its base and its field, and no text stands for it. -/
  | access (base : Expr) (field : Ident) (exposed : Option Symbol) {layout : List Segment}
      {visits : List Visit} {shown bare : String} : Shows layout visits shown bare →
      Shows layout (.access base field exposed :: visits) shown bare

namespace Shows

variable {layout layout' : List Segment} {visits visits' : List Visit}
  {shown shown' bare bare' : String}

/-- A text that has no name in it. -/
theorem constant (content : String) : Shows [.text content] [] content content := by
  have shows := text content nil
  rwa [String.append_empty] at shows

/-- The text of one occurrence. -/
theorem occurrence (ident : Ident) (role : Role) :
    Shows [.gap] [.ident ident role] ident.source ident.name := by
  have shows := name ident role nil
  rwa [String.append_empty, String.append_empty] at shows

theorem append (first : Shows layout visits shown bare)
    (second : Shows layout' visits' shown' bare') :
    Shows (layout ++ layout') (visits ++ visits') (shown ++ shown') (bare ++ bare') := by
  induction first with
  | nil =>
    rw [String.empty_append, String.empty_append]
    exact second
  | text content _ inductionHypothesis =>
    rw [String.append_assoc, String.append_assoc]
    exact text content inductionHypothesis
  | name ident role _ inductionHypothesis =>
    rw [String.append_assoc, String.append_assoc]
    exact name ident role inductionHypothesis
  | access base field exposed _ inductionHypothesis =>
    exact access base field exposed inductionHypothesis

/-- One more text behind, with no name in it. -/
theorem behind (shows : Shows layout visits shown bare) (content : String) :
    Shows (layout ++ [.text content]) visits (shown ++ content) (bare ++ content) := by
  have longer := shows.append (constant content)
  rwa [List.append_nil] at longer

/-- There are as many gaps as occurrences. -/
theorem length_behind (shows : Shows layout visits shown bare) :
    (Pieces.ofSegments layout).behind.length = (visits.filterMap Visit.occurrence?).length := by
  induction shows with
  | nil => rfl
  | text content _ inductionHypothesis => exact inductionHypothesis
  | name ident role _ inductionHypothesis => exact congrArg (· + 1) inductionHypothesis
  | access base field exposed _ inductionHypothesis => exact inductionHypothesis

/-- The words in the gaps are the occurrences, with their symbols and without. -/
theorem woven (shows : Shows layout visits shown bare) :
    (Pieces.ofSegments layout).woven
        ((visits.filterMap Visit.occurrence?).map fun occurrence => occurrence.1.source) = shown ∧
      (Pieces.ofSegments layout).woven
        ((visits.filterMap Visit.occurrence?).map fun occurrence => occurrence.1.name) = bare := by
  induction shows with
  | nil => exact ⟨rfl, rfl⟩
  | text content _ inductionHypothesis =>
    rw [Pieces.woven_text, Pieces.woven_text, inductionHypothesis.1, inductionHypothesis.2]
    exact ⟨rfl, rfl⟩
  | @name ident role _ visits _ _ _ inductionHypothesis =>
    have met : (Visit.ident ident role :: visits).filterMap Visit.occurrence? =
        (ident, role) :: visits.filterMap Visit.occurrence? := rfl
    rw [met, List.map_cons, List.map_cons, Pieces.woven_gap, Pieces.woven_gap,
      inductionHypothesis.1, inductionHypothesis.2]
    exact ⟨rfl, rfl⟩
  | access base field exposed _ inductionHypothesis => exact inductionHypothesis

end Shows

/-! ### Trees without names -/

/-- Every name is taken away, and every position stays. -/
def Relabeling.nameless : Relabeling where
  name _ := ""
  pos pos := pos

/-- A program without its names and without its symbols. -/
def Program.nameless (program : Program) : Program :=
  program.withoutSymbols.relabeled .nameless

/-! ### Every part along its layout -/

theorem TypeName.shows (type : TypeName) :
    Shows (type.withoutSymbols.relabeled .nameless).layout type.visits type.source
      type.withoutSymbols.source := by
  cases type with
  | struct name => exact .text "struct " (.occurrence name .typeName)
  | boolean => exact .constant "boolean"
  | integer => exact .constant "integer"
  | void => exact .constant "void"

theorem VarDecl.shows (unit level : Nat) (decl : VarDecl) :
    Shows ((decl.withoutSymbols.relabeled .nameless).layout unit level) decl.visits
      (decl.source unit level) (decl.withoutSymbols.source unit level) :=
  Shows.text (indentation unit level) decl.type.shows
    |>.behind " " |>.append (.occurrence decl.name .declaration) |>.behind ".\n"

theorem Formal.shows (formal : Formal) :
    Shows (formal.withoutSymbols.relabeled .nameless).layout formal.visits formal.source
      formal.withoutSymbols.source :=
  formal.type.shows |>.behind " " |>.append (.occurrence formal.name .declaration)

theorem VarDecl.showsAll (unit level : Nat) (decls : List VarDecl) :
    Shows
      (((decls.map VarDecl.withoutSymbols).map (VarDecl.relabeled .nameless)).flatMap
        (VarDecl.layout unit level))
      (decls.flatMap VarDecl.visits) (String.join (decls.map (VarDecl.source unit level)))
      (String.join ((decls.map VarDecl.withoutSymbols).map (VarDecl.source unit level))) := by
  induction decls with
  | nil => exact .nil
  | cons decl rest inductionHypothesis =>
    rw [List.map_cons, List.map_cons, List.map_cons, List.map_cons, List.flatMap_cons,
      List.flatMap_cons, String.join_cons, String.join_cons]
    exact (decl.shows unit level).append inductionHypothesis

theorem Formal.showsAll (formals : List Formal) :
    Shows
      (layoutOfList ((formals.map Formal.withoutSymbols).map (Formal.relabeled .nameless)))
      (formals.flatMap Formal.visits) (String.intercalate ", " (formals.map Formal.source))
      (String.intercalate ", " ((formals.map Formal.withoutSymbols).map Formal.source)) := by
  induction formals with
  | nil => exact .nil
  | cons formal more inductionHypothesis =>
    cases more with
    | nil =>
      rw [List.flatMap_cons, List.flatMap_nil, List.append_nil]
      exact formal.shows
    | cons next rest =>
      simp only [List.map_cons, String.intercalate_cons_cons] at inductionHypothesis ⊢
      exact formal.shows |>.behind ", " |>.append inductionHypothesis

theorem StructDecl.shows (unit level : Nat) (decl : StructDecl) :
    Shows ((decl.withoutSymbols.relabeled .nameless).layout unit level) decl.visits
      (decl.source unit level) (decl.withoutSymbols.source unit level) :=
  Shows.constant (indentation unit level)
    |>.behind "struct " |>.append (.occurrence decl.name .declaration) |>.behind " [\n"
    |>.append (VarDecl.showsAll unit (level + 1) decl.fields)
    |>.behind (indentation unit level) |>.behind "]\n\n"

mutual

theorem Expr.shows : ∀ expr : Expr,
    Shows (expr.withoutSymbols.relabeled .nameless).layout expr.visits expr.source
      expr.withoutSymbols.source
  | .truth true _ => .constant "TRUE"
  | .truth false _ => .constant "FALSE"
  | .id ident => .occurrence ident .reference
  | .intLit value _ => .constant value.toInt.repr
  | .strLit value _ => .constant value
  | .access base field exposed => by
    have selected := Shows.name field .field (.access base field exposed .nil)
    rw [String.append_empty, String.append_empty] at selected
    exact base.shows |>.behind ":" |>.append selected
  | .assign lhs rhs =>
    Shows.text "(" lhs.shows |>.behind " = " |>.append rhs.shows |>.behind ")"
  | .call callee args =>
    Shows.occurrence callee .reference
      |>.behind "(" |>.append (Expr.showsArgs args) |>.behind ")"
  | .unary op operand =>
    Shows.constant "(" |>.behind op.sign |>.append operand.shows |>.behind ")"
  | .binary op lhs rhs =>
    Shows.text "(" lhs.shows
      |>.behind " " |>.behind op.sign |>.behind " " |>.append rhs.shows |>.behind ")"

theorem Expr.showsArgs : ∀ args : List Expr,
    Shows (Expr.layoutOfArgs (Expr.relabeledList .nameless (Expr.withoutSymbolsList args)))
      (Expr.visitsOfList args) (Expr.sourceOfArgs args)
      (Expr.sourceOfArgs (Expr.withoutSymbolsList args))
  | [] => .nil
  | [expr] => by
    rw [Expr.visitsOfList, Expr.visitsOfList, List.append_nil]
    exact expr.shows
  | expr :: next :: rest =>
    expr.shows |>.behind ", " |>.append (Expr.showsArgs (next :: rest))

end

mutual

theorem Block.shows (unit level : Nat) : ∀ block : Block,
    Shows ((block.withoutSymbols.relabeled .nameless).layout unit level) block.visits
      (block.source unit level) (block.withoutSymbols.source unit level)
  | ⟨decls, stmts⟩ => (Decl.showsAll unit level decls).append (Stmt.showsAll unit level stmts)

theorem Stmt.shows (unit level : Nat) : ∀ stmt : Stmt,
    Shows ((stmt.withoutSymbols.relabeled .nameless).layout unit level) stmt.visits
      (stmt.source unit level) (stmt.withoutSymbols.source unit level)
  | .assign lhs rhs =>
    Shows.text (indentation unit level) lhs.shows
      |>.behind " = " |>.append rhs.shows |>.behind ".\n"
  | .postInc target => Shows.text (indentation unit level) target.shows |>.behind "++.\n"
  | .postDec target => Shows.text (indentation unit level) target.shows |>.behind "--.\n"
  | .ifThen cond body =>
    Shows.constant (indentation unit level)
      |>.behind "if (" |>.append cond.shows |>.behind ") \x7b\n"
      |>.append (body.shows unit (level + 1))
      |>.behind (indentation unit level) |>.behind "\x7d\n"
  | .ifElse cond thenBranch elseBranch =>
    Shows.constant (indentation unit level)
      |>.behind "if (" |>.append cond.shows |>.behind ") \x7b\n"
      |>.append (thenBranch.shows unit (level + 1))
      |>.behind (indentation unit level) |>.behind "\x7d\n"
      |>.behind (indentation unit level) |>.behind "else \x7b\n"
      |>.append (elseBranch.shows unit (level + 1))
      |>.behind (indentation unit level) |>.behind "\x7d\n"
  | .whileDo cond body =>
    Shows.constant (indentation unit level)
      |>.behind "while (" |>.append cond.shows |>.behind ") \x7b\n"
      |>.append (body.shows unit (level + 1))
      |>.behind (indentation unit level) |>.behind "\x7d\n"
  | .read target =>
    Shows.constant (indentation unit level)
      |>.behind "input -> " |>.append target.shows |>.behind ".\n"
  | .write value =>
    Shows.constant (indentation unit level)
      |>.behind "disp <- (" |>.append value.shows |>.behind ").\n"
  | .call callee args =>
    Shows.constant (indentation unit level)
      |>.append (.occurrence callee .reference) |>.behind "(" |>.append (Expr.showsArgs args)
      |>.behind ").\n"
  | .ret none => Shows.constant (indentation unit level) |>.behind "return.\n"
  | .ret (some value) =>
    Shows.constant (indentation unit level)
      |>.behind "return " |>.append value.shows |>.behind ".\n"

theorem Stmt.showsAll (unit level : Nat) : ∀ stmts : List Stmt,
    Shows
      (Stmt.layoutOfList unit level (Stmt.relabeledList .nameless (Stmt.withoutSymbolsList stmts)))
      (Stmt.visitsOfList stmts) (Stmt.sourceOfList unit level stmts)
      (Stmt.sourceOfList unit level (Stmt.withoutSymbolsList stmts))
  | [] => .nil
  | stmt :: rest => (stmt.shows unit level).append (Stmt.showsAll unit level rest)

theorem Function.shows (unit level : Nat) : ∀ decl : Function,
    Shows ((decl.withoutSymbols.relabeled .nameless).layout unit level) decl.visits
      (decl.source unit level) (decl.withoutSymbols.source unit level)
  | ⟨ret, name, formals, body⟩ => by
    have shows := Shows.text (indentation unit level) ret.shows
      |>.behind " " |>.append (.occurrence name .declaration)
      |>.behind "[" |>.append (Formal.showsAll formals) |>.behind "] [\n"
      |>.append (body.shows unit (level + 1))
      |>.behind (indentation unit level) |>.behind "]\n\n"
    -- The list of visits has the name of the function in one part with the formals.
    rw [List.append_assoc ret.visits] at shows
    exact shows

theorem Decl.shows (unit level : Nat) : ∀ decl : Decl,
    Shows ((decl.withoutSymbols.relabeled .nameless).layout unit level) decl.visits
      (decl.source unit level) (decl.withoutSymbols.source unit level)
  | .var decl => decl.shows unit level
  | .func decl => Function.shows unit level decl
  | .struct decl => decl.shows unit level

theorem Decl.showsAll (unit level : Nat) : ∀ decls : List Decl,
    Shows
      (Decl.layoutOfList unit level (Decl.relabeledList .nameless (Decl.withoutSymbolsList decls)))
      (Decl.visitsOfList decls) (Decl.sourceOfList unit level decls)
      (Decl.sourceOfList unit level (Decl.withoutSymbolsList decls))
  | [] => .nil
  | decl :: rest => (decl.shows unit level).append (Decl.showsAll unit level rest)

end

/-! ### The text and the listing -/

namespace Ident

/-- What stands in a text behind the name of an occurrence. -/
def suffix (ident : Ident) : String :=
  match ident.symbol with
  | none => ""
  | some symbol => "\x7b" ++ symbol.descriptor ++ "\x7d"

theorem source_eq (ident : Ident) : ident.source = ident.name ++ ident.suffix := by
  rw [source, suffix]
  cases ident.symbol with
  | none => exact String.append_empty.symm
  | some symbol => simp only [String.append_assoc]

/-- Only a bound occurrence has something behind its name. -/
theorem suffix_eq_empty_iff (ident : Ident) : ident.suffix = "" ↔ ident.isBound = false := by
  rw [suffix, isBound]
  cases ident.symbol with
  | none => simp
  | some symbol => simp

end Ident

namespace BindingRow

/-- What a row says to stand in a text behind the name. -/
def suffix (row : BindingRow) : String :=
  if row.kind = "-" then "" else "\x7b" ++ row.descriptor ++ "\x7d"

theorem suffix_ofOccurrence (ident : Ident) (role : Role) :
    (ofOccurrence ident role).suffix = ident.suffix := by
  rw [suffix, ofOccurrence, Ident.suffix]
  cases ident.symbol with
  | none => rfl
  | some symbol =>
    have named : symbol.kind.text ≠ "-" := by cases symbol.kind <;> decide
    exact if_neg named

end BindingRow

namespace Program

/-- The listing of everything has one row for each occurrence, in the same order. -/
theorem bindingRows_none (program : Program) : program.bindingRows none =
    program.occurrences.map fun occurrence =>
      BindingRow.ofOccurrence occurrence.1 occurrence.2 := by
  have all : (program.occurrences.filter fun _ => true) = program.occurrences :=
    List.filter_eq_self.mpr fun _ _ => rfl
  show ((program.occurrences.filter fun _ => true).map fun occurrence =>
    BindingRow.ofOccurrence occurrence.1 occurrence.2) = _
  rw [all]

/-- The source text of a program has each of its occurrences in one gap of a layout that is the same
without names and symbols: the name, and behind it the descriptor in braces just if the occurrence
is bound. With the bare names in the gaps it is the text of the program without its symbols. What is
behind the names are the descriptors of the listing, row by row. -/
theorem source_woven (unit : Nat) (program : Program) :
    (program.nameless.pieces unit).behind.length = program.occurrences.length ∧
    program.source unit = (program.nameless.pieces unit).woven
      (program.occurrences.map fun occurrence => occurrence.1.name ++ occurrence.1.suffix) ∧
    program.withoutSymbols.source unit = (program.nameless.pieces unit).woven
      (program.occurrences.map fun occurrence => occurrence.1.name) ∧
    (∀ occurrence ∈ program.occurrences,
      occurrence.1.suffix = "" ↔ occurrence.1.isBound = false) ∧
    (program.bindingRows none).map BindingRow.suffix =
      program.occurrences.map fun occurrence => occurrence.1.suffix := by
  have shows : Shows (Decl.layoutOfList unit 0 program.nameless.decls) program.visits
      (program.source unit) (program.withoutSymbols.source unit) :=
    Decl.showsAll unit 0 program.decls
  have rows : (program.bindingRows none).map BindingRow.suffix =
      program.occurrences.map fun occurrence => occurrence.1.suffix := by
    rw [bindingRows_none, List.map_map]
    exact List.map_congr_left fun occurrence _ =>
      BindingRow.suffix_ofOccurrence occurrence.1 occurrence.2
  have sources : (program.occurrences.map fun occurrence => occurrence.1.source) =
      program.occurrences.map fun occurrence => occurrence.1.name ++ occurrence.1.suffix :=
    List.map_congr_left fun occurrence _ => occurrence.1.source_eq
  refine ⟨shows.length_behind, ?_, shows.woven.2.symm,
    fun occurrence _ => occurrence.1.suffix_eq_empty_iff, rows⟩
  rw [← sources]
  exact shows.woven.1.symm

end Program

end NameBinding
