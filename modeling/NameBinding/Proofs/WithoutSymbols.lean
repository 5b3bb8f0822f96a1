/-
This file proves that the document of a tree keeps everything but the symbols. A tree without its
symbols is the same tree with every name unbound and every access exposing nothing. Taking a tree
from the document of a tree gives just that, for every part of a program: the members of a record
come back in their places, each alternative under its own name, and each number within the bounds of
its machine word. The other way round, a tree is only taken from its own document, so a document
with anything more, or with anything missing, gives no tree at all.
-/

import NameBinding.Tree.Document

namespace NameBinding

/-! ### Trees without their symbols -/

/-- A name without its symbol. -/
def Ident.unbound (ident : Ident) : Ident :=
  { ident with symbol := none }

/-- A type without the symbol of its name. -/
def TypeName.withoutSymbols : TypeName → TypeName
  | boolean => boolean
  | integer => integer
  | void => void
  | struct name => struct name.unbound

/-- A variable without symbols. -/
def VarDecl.withoutSymbols (decl : VarDecl) : VarDecl :=
  { decl with type := decl.type.withoutSymbols, name := decl.name.unbound }

/-- A formal without symbols. -/
def Formal.withoutSymbols (formal : Formal) : Formal :=
  { type := formal.type.withoutSymbols, name := formal.name.unbound }

/-- A struct without symbols. -/
def StructDecl.withoutSymbols (decl : StructDecl) : StructDecl :=
  { name := decl.name.unbound, fields := decl.fields.map VarDecl.withoutSymbols }

mutual

/-- An expression without symbols. -/
def Expr.withoutSymbols : Expr → Expr
  | .truth value pos => .truth value pos
  | .id ident => .id ident.unbound
  | .intLit value pos => .intLit value pos
  | .strLit value pos => .strLit value pos
  | .access base field _ => .access base.withoutSymbols field.unbound none
  | .assign lhs rhs => .assign lhs.withoutSymbols rhs.withoutSymbols
  | .call callee args => .call callee.unbound (Expr.withoutSymbolsList args)
  | .unary op operand => .unary op operand.withoutSymbols
  | .binary op lhs rhs => .binary op lhs.withoutSymbols rhs.withoutSymbols

/-- Expressions without symbols. -/
def Expr.withoutSymbolsList : List Expr → List Expr
  | [] => []
  | expr :: rest => expr.withoutSymbols :: Expr.withoutSymbolsList rest

end

mutual

/-- A block without symbols. -/
def Block.withoutSymbols : Block → Block
  | ⟨decls, stmts⟩ => ⟨Decl.withoutSymbolsList decls, Stmt.withoutSymbolsList stmts⟩

/-- A statement without symbols. -/
def Stmt.withoutSymbols : Stmt → Stmt
  | .assign lhs rhs => .assign lhs.withoutSymbols rhs.withoutSymbols
  | .postInc target => .postInc target.withoutSymbols
  | .postDec target => .postDec target.withoutSymbols
  | .ifThen cond body => .ifThen cond.withoutSymbols body.withoutSymbols
  | .ifElse cond thenBranch elseBranch =>
    .ifElse cond.withoutSymbols thenBranch.withoutSymbols elseBranch.withoutSymbols
  | .whileDo cond body => .whileDo cond.withoutSymbols body.withoutSymbols
  | .read target => .read target.withoutSymbols
  | .write value => .write value.withoutSymbols
  | .call callee args => .call callee.unbound (Expr.withoutSymbolsList args)
  | .ret none => .ret none
  | .ret (some value) => .ret (some value.withoutSymbols)

/-- Statements without symbols. -/
def Stmt.withoutSymbolsList : List Stmt → List Stmt
  | [] => []
  | stmt :: rest => stmt.withoutSymbols :: Stmt.withoutSymbolsList rest

/-- A function without symbols. -/
def Function.withoutSymbols : Function → Function
  | ⟨ret, name, formals, body⟩ =>
    ⟨ret.withoutSymbols, name.unbound, formals.map Formal.withoutSymbols, body.withoutSymbols⟩

/-- A declaration without symbols. -/
def Decl.withoutSymbols : Decl → Decl
  | .var decl => .var decl.withoutSymbols
  | .func decl => .func decl.withoutSymbols
  | .struct decl => .struct decl.withoutSymbols

/-- Declarations without symbols. -/
def Decl.withoutSymbolsList : List Decl → List Decl
  | [] => []
  | decl :: rest => decl.withoutSymbols :: Decl.withoutSymbolsList rest

end

/-- A program without symbols. -/
def Program.withoutSymbols (program : Program) : Program :=
  ⟨Decl.withoutSymbolsList program.decls⟩

/-! ### Numbers -/

@[simp] theorem word32OfJson?_toNat (n : UInt32) : word32OfJson? (.ofNat n.toNat) = some n := by
  have bounded : n.toNat < Nat.pow 2 32 := n.toNat_lt
  show (if n.toNat < Nat.pow 2 32 then some (UInt32.ofNat n.toNat) else none) = some n
  rw [if_pos bounded, UInt32.ofNat_toNat]

@[simp] theorem signed32OfJson?_toInt (n : Int32) : signed32OfJson? (.int n.toInt) = some n := by
  have low : -Int.pow 2 31 ≤ n.toInt := n.le_toInt
  have high : n.toInt < Int.pow 2 31 := n.toInt_lt
  rw [signed32OfJson?, if_pos ⟨low, high⟩, Int32.ofInt_toInt]

/-! ### Parts without parts of their own kind -/

@[simp] theorem Position.ofJson?_toJson (pos : Position) :
    Position.ofJson? pos.toJson = some pos := by
  simp [toJson, ofJson?]

@[simp] theorem Ident.ofJson?_toJson (ident : Ident) :
    Ident.ofJson? ident.toJson = some ident.unbound := by
  simp [toJson, ofJson?, unbound]

@[simp] theorem TypeName.ofJson?_toJson (type : TypeName) :
    TypeName.ofJson? type.toJson = some type.withoutSymbols := by
  cases type with
  | struct name => simp [toJson, ofJson?, withoutSymbols]
  | _ => rfl

@[simp] theorem VarDecl.ofJson?_toJson (decl : VarDecl) :
    VarDecl.ofJson? decl.toJson = some decl.withoutSymbols := by
  obtain ⟨type, name, size⟩ := decl
  cases size <;> simp [toJson, ofJson?, withoutSymbols]

theorem Formal.ofJson?_toJson (formal : Formal) :
    Formal.ofJson? formal.toJson = some formal.withoutSymbols := by
  simp [toJson, ofJson?, withoutSymbols]

/-- If each document gives a tree, a list of documents gives the list of the trees. -/
theorem ofJsonItems?_map {α : Type} (toJson : α → Json) (ofJson? : Json → Option α)
    (without : α → α) (given : ∀ item, ofJson? (toJson item) = some (without item))
    (items : List α) :
    ofJsonItems? ofJson? (items.map toJson) = some (items.map without) := by
  induction items with
  | nil => rfl
  | cons item rest inductionHypothesis =>
    simp [ofJsonItems?, given, inductionHypothesis]

@[simp] theorem StructDecl.ofJson?_toJson (decl : StructDecl) :
    StructDecl.ofJson? decl.toJson = some decl.withoutSymbols := by
  simp [toJson, ofJson?, ofJsonItems?_map _ _ _ VarDecl.ofJson?_toJson, withoutSymbols]

@[simp] theorem UnaryOp.ofText?_text (op : UnaryOp) : UnaryOp.ofText? op.text = some op := by
  cases op <;> rfl

@[simp] theorem BinaryOp.ofText?_text (op : BinaryOp) : BinaryOp.ofText? op.text = some op := by
  cases op <;> rfl

/-! ### Expressions -/

mutual

@[simp] theorem Expr.ofJson?_toJson : ∀ expr : Expr,
    Expr.ofJson? expr.toJson = some expr.withoutSymbols
  | .truth true pos => by simp [Expr.toJson, Expr.ofJson?, Expr.withoutSymbols]
  | .truth false pos => by simp [Expr.toJson, Expr.ofJson?, Expr.withoutSymbols]
  | .id ident => by simp [Expr.toJson, Expr.ofJson?, Expr.withoutSymbols]
  | .intLit value pos => by simp [Expr.toJson, Expr.ofJson?, Expr.withoutSymbols]
  | .strLit value pos => by simp [Expr.toJson, Expr.ofJson?, Expr.withoutSymbols]
  | .access base field exposed => by
    simp [Expr.toJson, Expr.ofJson?, Expr.ofJson?_toJson base, Expr.withoutSymbols]
  | .assign lhs rhs => by
    simp [Expr.toJson, Expr.ofJson?, Expr.ofJson?_toJson lhs, Expr.ofJson?_toJson rhs,
      Expr.withoutSymbols]
  | .call callee args => by
    simp [Expr.toJson, Expr.ofJson?, Expr.ofJsonList?_toJsonList args, Expr.withoutSymbols]
  | .unary op operand => by
    simp [Expr.toJson, Expr.ofJson?, Expr.ofJson?_toJson operand, Expr.withoutSymbols]
  | .binary op lhs rhs => by
    simp [Expr.toJson, Expr.ofJson?, Expr.ofJson?_toJson lhs, Expr.ofJson?_toJson rhs,
      Expr.withoutSymbols]

@[simp] theorem Expr.ofJsonList?_toJsonList : ∀ exprs : List Expr,
    Expr.ofJsonList? (Expr.toJsonList exprs) = some (Expr.withoutSymbolsList exprs)
  | [] => rfl
  | expr :: rest => by
    simp [Expr.toJsonList, Expr.ofJsonList?, Expr.ofJson?_toJson expr,
      Expr.ofJsonList?_toJsonList rest, Expr.withoutSymbolsList]

end

/-! ### Blocks, statements and declarations -/

/-- An expression is written as an object, so it is never taken for a missing value. -/
theorem Expr.toJson_ne_null (expr : Expr) : expr.toJson ≠ .null := by
  cases expr with
  | truth value pos => cases value <;> (rw [toJson]; exact nofun)
  | _ => rw [toJson]; exact nofun

mutual

theorem Block.ofJson?_toJson : ∀ block : Block,
    Block.ofJson? block.toJson = some block.withoutSymbols
  | ⟨decls, stmts⟩ => by
    simp [Block.toJson, Block.ofJson?, Decl.ofJsonList?_toJsonList decls,
      Stmt.ofJsonList?_toJsonList stmts, Block.withoutSymbols]

theorem Stmt.ofJson?_toJson : ∀ stmt : Stmt,
    Stmt.ofJson? stmt.toJson = some stmt.withoutSymbols
  | .assign lhs rhs => by simp [Stmt.toJson, Stmt.ofJson?, Stmt.withoutSymbols]
  | .postInc target => by simp [Stmt.toJson, Stmt.ofJson?, Stmt.withoutSymbols]
  | .postDec target => by simp [Stmt.toJson, Stmt.ofJson?, Stmt.withoutSymbols]
  | .ifThen cond body => by
    simp [Stmt.toJson, Stmt.ofJson?, Block.ofJson?_toJson body, Stmt.withoutSymbols]
  | .ifElse cond thenBranch elseBranch => by
    simp [Stmt.toJson, Stmt.ofJson?, Block.ofJson?_toJson thenBranch,
      Block.ofJson?_toJson elseBranch, Stmt.withoutSymbols]
  | .whileDo cond body => by
    simp [Stmt.toJson, Stmt.ofJson?, Block.ofJson?_toJson body, Stmt.withoutSymbols]
  | .read target => by simp [Stmt.toJson, Stmt.ofJson?, Stmt.withoutSymbols]
  | .write value => by simp [Stmt.toJson, Stmt.ofJson?, Stmt.withoutSymbols]
  | .call callee args => by simp [Stmt.toJson, Stmt.ofJson?, Stmt.withoutSymbols]
  | .ret none => rfl
  | .ret (some value) => by
    simp [Stmt.toJson, Stmt.ofJson?, value.toJson_ne_null, Stmt.withoutSymbols]

theorem Stmt.ofJsonList?_toJsonList : ∀ stmts : List Stmt,
    Stmt.ofJsonList? (Stmt.toJsonList stmts) = some (Stmt.withoutSymbolsList stmts)
  | [] => rfl
  | stmt :: rest => by
    simp [Stmt.toJsonList, Stmt.ofJsonList?, Stmt.ofJson?_toJson stmt,
      Stmt.ofJsonList?_toJsonList rest, Stmt.withoutSymbolsList]

theorem Function.ofJson?_toJson : ∀ decl : Function,
    Function.ofJson? decl.toJson = some decl.withoutSymbols
  | ⟨ret, name, formals, body⟩ => by
    simp [Function.toJson, Function.ofJson?, ofJsonItems?_map _ _ _ Formal.ofJson?_toJson,
      Block.ofJson?_toJson body, Function.withoutSymbols]

theorem Decl.ofJson?_toJson : ∀ decl : Decl,
    Decl.ofJson? decl.toJson = some decl.withoutSymbols
  | .var decl => by simp [Decl.toJson, Decl.ofJson?, Decl.withoutSymbols]
  | .func decl => by
    simp [Decl.toJson, Decl.ofJson?, Function.ofJson?_toJson decl, Decl.withoutSymbols]
  | .struct decl => by simp [Decl.toJson, Decl.ofJson?, Decl.withoutSymbols]

theorem Decl.ofJsonList?_toJsonList : ∀ decls : List Decl,
    Decl.ofJsonList? (Decl.toJsonList decls) = some (Decl.withoutSymbolsList decls)
  | [] => rfl
  | decl :: rest => by
    simp [Decl.toJsonList, Decl.ofJsonList?, Decl.ofJson?_toJson decl,
      Decl.ofJsonList?_toJsonList rest, Decl.withoutSymbolsList]

end

/-- The program of the document of a program is that program without its symbols. -/
theorem Program.ofJson?_toJson (program : Program) :
    Program.ofJson? program.toJson = some program.withoutSymbols := by
  simp [toJson, ofJson?, Decl.ofJsonList?_toJsonList, withoutSymbols]

/-! ### Trees from documents

A document that a tree is taken from is the document of that tree, so it has no other shape than the
one that trees are written in. -/

theorem toJson_of_word32OfJson? {document : Json} {n : UInt32}
    (given : word32OfJson? document = some n) : .ofNat n.toNat = document := by
  unfold word32OfJson? at given
  split at given
  · split at given
    · rename_i word bounded
      obtain rfl := Option.some.inj given
      have same : (UInt32.ofNat word).toNat = word := UInt32.toNat_ofNat_of_lt' bounded
      rw [same, Json.ofNat]
      rfl
    · exact nomatch given
  · exact nomatch given

theorem toJson_of_signed32OfJson? {document : Json} {n : Int32}
    (given : signed32OfJson? document = some n) : .int n.toInt = document := by
  unfold signed32OfJson? at given
  split at given
  · split at given
    · rename_i value bounds
      obtain rfl := Option.some.inj given
      rw [Int32.toInt_ofInt_of_le bounds.1 bounds.2]
    · exact nomatch given
  · exact nomatch given

theorem Position.toJson_of_ofJson? {document : Json} {pos : Position}
    (given : Position.ofJson? document = some pos) : pos.toJson = document := by
  unfold Position.ofJson? at given
  split at given
  · simp only [bind, Option.bind_eq_some_iff, pure, Option.some.injEq] at given
    obtain ⟨line, lineGiven, column, columnGiven, rfl⟩ := given
    rw [toJson, toJson_of_word32OfJson? lineGiven, toJson_of_word32OfJson? columnGiven]
  · exact nomatch given

theorem Ident.toJson_of_ofJson? {document : Json} {ident : Ident}
    (given : Ident.ofJson? document = some ident) : ident.toJson = document := by
  unfold Ident.ofJson? at given
  split at given
  · simp only [bind, Option.bind_eq_some_iff, pure, Option.some.injEq] at given
    obtain ⟨pos, posGiven, rfl⟩ := given
    rw [toJson, Position.toJson_of_ofJson? posGiven]
  · exact nomatch given

theorem TypeName.toJson_of_ofJson? {document : Json} {type : TypeName}
    (given : TypeName.ofJson? document = some type) : type.toJson = document := by
  unfold TypeName.ofJson? at given
  split at given
  case h_4 =>
    simp only [bind, Option.bind_eq_some_iff, pure, Option.some.injEq] at given
    obtain ⟨name, nameGiven, rfl⟩ := given
    rw [toJson, Ident.toJson_of_ofJson? nameGiven]
  case h_5 => exact nomatch given
  all_goals
    obtain rfl := Option.some.inj given
    rfl

theorem VarDecl.toJson_of_ofJson? {document : Json} {decl : VarDecl}
    (given : VarDecl.ofJson? document = some decl) : decl.toJson = document := by
  unfold VarDecl.ofJson? at given
  split at given
  case h_1 =>
    simp only [bind, Option.bind_eq_some_iff, pure, Option.some.injEq] at given
    obtain ⟨type, typeGiven, name, nameGiven, rfl⟩ := given
    rw [toJson, TypeName.toJson_of_ofJson? typeGiven, Ident.toJson_of_ofJson? nameGiven]
  case h_2 =>
    simp only [bind, Option.bind_eq_some_iff, pure, Option.some.injEq] at given
    obtain ⟨type, typeGiven, name, nameGiven, size, sizeGiven, rfl⟩ := given
    simp only [toJson, TypeName.toJson_of_ofJson? typeGiven, Ident.toJson_of_ofJson? nameGiven,
      toJson_of_word32OfJson? sizeGiven]
  case h_3 => exact nomatch given

theorem Formal.toJson_of_ofJson? {document : Json} {formal : Formal}
    (given : Formal.ofJson? document = some formal) : formal.toJson = document := by
  unfold Formal.ofJson? at given
  split at given
  · simp only [bind, Option.bind_eq_some_iff, pure, Option.some.injEq] at given
    obtain ⟨type, typeGiven, name, nameGiven, rfl⟩ := given
    rw [toJson, TypeName.toJson_of_ofJson? typeGiven, Ident.toJson_of_ofJson? nameGiven]
  · exact nomatch given

/-- If each tree has the document that it is taken from, so has a list of trees. -/
theorem map_of_ofJsonItems? {α : Type} {toJson : α → Json} {ofJson? : Json → Option α}
    (back : ∀ {document item}, ofJson? document = some item → toJson item = document)
    {documents : List Json} {items : List α} (given : ofJsonItems? ofJson? documents = some items) :
    items.map toJson = documents := by
  induction documents generalizing items with
  | nil =>
    obtain rfl := Option.some.inj given
    rfl
  | cons document rest inductionHypothesis =>
    simp only [ofJsonItems?, bind, Option.bind_eq_some_iff, pure, Option.some.injEq] at given
    obtain ⟨item, itemGiven, others, othersGiven, rfl⟩ := given
    rw [List.map_cons, back itemGiven, inductionHypothesis othersGiven]

theorem StructDecl.toJson_of_ofJson? {document : Json} {decl : StructDecl}
    (given : StructDecl.ofJson? document = some decl) : decl.toJson = document := by
  unfold StructDecl.ofJson? at given
  split at given
  · simp only [bind, Option.bind_eq_some_iff, pure, Option.some.injEq] at given
    obtain ⟨name, nameGiven, fields, fieldsGiven, rfl⟩ := given
    rw [toJson, Ident.toJson_of_ofJson? nameGiven,
      map_of_ofJsonItems? VarDecl.toJson_of_ofJson? fieldsGiven]
  · exact nomatch given

theorem UnaryOp.text_of_ofText? {text : String} {op : UnaryOp}
    (given : UnaryOp.ofText? text = some op) : op.text = text := by
  unfold UnaryOp.ofText? at given
  split at given
  case h_3 => exact nomatch given
  all_goals
    obtain rfl := Option.some.inj given
    rfl

theorem BinaryOp.text_of_ofText? {text : String} {op : BinaryOp}
    (given : BinaryOp.ofText? text = some op) : op.text = text := by
  unfold BinaryOp.ofText? at given
  split at given
  case h_13 => exact nomatch given
  all_goals
    obtain rfl := Option.some.inj given
    rfl

/-- The two statements follow each other down the arguments of calls. -/
theorem Expr.toJson_of_ofJson?_both :
    (∀ document expr, Expr.ofJson? document = some expr → expr.toJson = document) ∧
      ∀ documents exprs, Expr.ofJsonList? documents = some exprs →
        Expr.toJsonList exprs = documents := by
  apply Expr.ofJson?.mutual_induct
  case case1 | case2 =>
    intro pos expr given
    simp only [ofJson?, bind, Option.bind_eq_some_iff, pure, Option.some.injEq] at given
    obtain ⟨pos, posGiven, rfl⟩ := given
    rw [toJson, Position.toJson_of_ofJson? posGiven]
  case case3 =>
    intro ident expr given
    simp only [ofJson?, bind, Option.bind_eq_some_iff, pure, Option.some.injEq] at given
    obtain ⟨ident, identGiven, rfl⟩ := given
    rw [toJson, Ident.toJson_of_ofJson? identGiven]
  case case4 =>
    intro value pos expr given
    simp only [ofJson?, bind, Option.bind_eq_some_iff, pure, Option.some.injEq] at given
    obtain ⟨value, valueGiven, pos, posGiven, rfl⟩ := given
    rw [toJson, toJson_of_signed32OfJson? valueGiven, Position.toJson_of_ofJson? posGiven]
  case case5 =>
    intro value pos expr given
    simp only [ofJson?, bind, Option.bind_eq_some_iff, pure, Option.some.injEq] at given
    obtain ⟨pos, posGiven, rfl⟩ := given
    rw [toJson, Position.toJson_of_ofJson? posGiven]
  case case6 =>
    intro base field baseBack expr given
    simp only [ofJson?, bind, Option.bind_eq_some_iff, pure, Option.some.injEq] at given
    obtain ⟨base, baseGiven, field, fieldGiven, rfl⟩ := given
    rw [toJson, baseBack _ baseGiven, Ident.toJson_of_ofJson? fieldGiven]
  case case7 =>
    intro lhs rhs lhsBack rhsBack expr given
    simp only [ofJson?, bind, Option.bind_eq_some_iff, pure, Option.some.injEq] at given
    obtain ⟨lhs, lhsGiven, rhs, rhsGiven, rfl⟩ := given
    rw [toJson, lhsBack _ lhsGiven, rhsBack _ rhsGiven]
  case case8 =>
    intro callee args argsBack expr given
    simp only [ofJson?, bind, Option.bind_eq_some_iff, pure, Option.some.injEq] at given
    obtain ⟨callee, calleeGiven, args, argsGiven, rfl⟩ := given
    rw [toJson, Ident.toJson_of_ofJson? calleeGiven, argsBack _ argsGiven]
  case case9 =>
    intro op operand operandBack expr given
    simp only [ofJson?, bind, Option.bind_eq_some_iff, pure, Option.some.injEq] at given
    obtain ⟨op, opGiven, operand, operandGiven, rfl⟩ := given
    rw [toJson, UnaryOp.text_of_ofText? opGiven, operandBack _ operandGiven]
  case case10 =>
    intro op lhs rhs lhsBack rhsBack expr given
    simp only [ofJson?, bind, Option.bind_eq_some_iff, pure, Option.some.injEq] at given
    obtain ⟨op, opGiven, lhs, lhsGiven, rhs, rhsGiven, rfl⟩ := given
    rw [toJson, BinaryOp.text_of_ofText? opGiven, lhsBack _ lhsGiven, rhsBack _ rhsGiven]
  case case11 =>
    intros
    rename_i given
    rw [ofJson?] at given
    · exact nomatch given
    all_goals assumption
  case case12 =>
    intro exprs given
    obtain rfl := Option.some.inj given
    rfl
  case case13 =>
    intro item rest itemBack restBack exprs given
    simp only [ofJsonList?, bind, Option.bind_eq_some_iff, pure, Option.some.injEq] at given
    obtain ⟨expr, exprGiven, others, othersGiven, rfl⟩ := given
    rw [toJsonList, itemBack _ exprGiven, restBack _ othersGiven]

theorem Expr.toJson_of_ofJson? {document : Json} {expr : Expr}
    (given : Expr.ofJson? document = some expr) : expr.toJson = document :=
  Expr.toJson_of_ofJson?_both.1 document expr given

theorem Expr.toJsonList_of_ofJsonList? {documents : List Json} {exprs : List Expr}
    (given : Expr.ofJsonList? documents = some exprs) : Expr.toJsonList exprs = documents :=
  Expr.toJson_of_ofJson?_both.2 documents exprs given

/-- The statements on blocks, statements and declarations, which stand inside one another. -/
theorem Block.toJson_of_ofJson?_all :
    (∀ document block, Block.ofJson? document = some block → block.toJson = document) ∧
      (∀ documents stmts, Stmt.ofJsonList? documents = some stmts →
        Stmt.toJsonList stmts = documents) ∧
      (∀ document stmt, Stmt.ofJson? document = some stmt → stmt.toJson = document) ∧
      (∀ documents decls, Decl.ofJsonList? documents = some decls →
        Decl.toJsonList decls = documents) ∧
      (∀ document decl, Decl.ofJson? document = some decl → decl.toJson = document) ∧
      ∀ document decl, Function.ofJson? document = some decl → decl.toJson = document := by
  apply Block.ofJson?.mutual_induct
  case case1 =>
    intro decls stmts declsBack stmtsBack block given
    simp only [ofJson?, bind, Option.bind_eq_some_iff, pure, Option.some.injEq] at given
    obtain ⟨decls, declsGiven, stmts, stmtsGiven, rfl⟩ := given
    rw [toJson, declsBack _ declsGiven, stmtsBack _ stmtsGiven]
  case case3 =>
    intro lhs rhs stmt given
    simp only [Stmt.ofJson?, bind, Option.bind_eq_some_iff, pure, Option.some.injEq] at given
    obtain ⟨lhs, lhsGiven, rhs, rhsGiven, rfl⟩ := given
    rw [Stmt.toJson, Expr.toJson_of_ofJson? lhsGiven, Expr.toJson_of_ofJson? rhsGiven]
  case case4 | case5 | case9 | case10 =>
    intro target stmt given
    simp only [Stmt.ofJson?, bind, Option.bind_eq_some_iff, pure, Option.some.injEq] at given
    obtain ⟨target, targetGiven, rfl⟩ := given
    rw [Stmt.toJson, Expr.toJson_of_ofJson? targetGiven]
  case case6 | case8 =>
    intro cond body bodyBack stmt given
    simp only [Stmt.ofJson?, bind, Option.bind_eq_some_iff, pure, Option.some.injEq] at given
    obtain ⟨cond, condGiven, body, bodyGiven, rfl⟩ := given
    rw [Stmt.toJson, Expr.toJson_of_ofJson? condGiven, bodyBack _ bodyGiven]
  case case7 =>
    intro cond thenBranch elseBranch thenBack elseBack stmt given
    simp only [Stmt.ofJson?, bind, Option.bind_eq_some_iff, pure, Option.some.injEq] at given
    obtain ⟨cond, condGiven, thenBranch, thenGiven, elseBranch, elseGiven, rfl⟩ := given
    rw [Stmt.toJson, Expr.toJson_of_ofJson? condGiven, thenBack _ thenGiven, elseBack _ elseGiven]
  case case11 =>
    intro callee args stmt given
    simp only [Stmt.ofJson?, bind, Option.bind_eq_some_iff, pure, Option.some.injEq] at given
    obtain ⟨callee, calleeGiven, args, argsGiven, rfl⟩ := given
    rw [Stmt.toJson, Ident.toJson_of_ofJson? calleeGiven, Expr.toJsonList_of_ofJsonList? argsGiven]
  case case13 =>
    intro value other stmt given
    rw [Stmt.ofJson?] at given
    · simp only [bind, Option.bind_eq_some_iff, pure, Option.some.injEq] at given
      obtain ⟨value, valueGiven, rfl⟩ := given
      rw [Stmt.toJson, Expr.toJson_of_ofJson? valueGiven]
    · exact other
  case case15 =>
    intro decl tree given
    simp only [Decl.ofJson?, bind, Option.bind_eq_some_iff, pure, Option.some.injEq] at given
    obtain ⟨decl, declGiven, rfl⟩ := given
    rw [Decl.toJson, VarDecl.toJson_of_ofJson? declGiven]
  case case16 =>
    intro decl declBack tree given
    simp only [Decl.ofJson?, bind, Option.bind_eq_some_iff, pure, Option.some.injEq] at given
    obtain ⟨decl, declGiven, rfl⟩ := given
    rw [Decl.toJson, declBack _ declGiven]
  case case17 =>
    intro decl tree given
    simp only [Decl.ofJson?, bind, Option.bind_eq_some_iff, pure, Option.some.injEq] at given
    obtain ⟨decl, declGiven, rfl⟩ := given
    rw [Decl.toJson, StructDecl.toJson_of_ofJson? declGiven]
  case case19 =>
    intro ret name formals body bodyBack decl given
    simp only [Function.ofJson?, bind, Option.bind_eq_some_iff, pure, Option.some.injEq] at given
    obtain ⟨ret, retGiven, name, nameGiven, formals, formalsGiven, body, bodyGiven, rfl⟩ := given
    rw [Function.toJson, TypeName.toJson_of_ofJson? retGiven, Ident.toJson_of_ofJson? nameGiven,
      map_of_ofJsonItems? Formal.toJson_of_ofJson? formalsGiven, bodyBack _ bodyGiven]
  case case12 | case21 | case23 =>
    intro tree given
    obtain rfl := Option.some.inj given
    rfl
  case case22 =>
    intro item rest itemBack restBack stmts given
    simp only [Stmt.ofJsonList?, bind, Option.bind_eq_some_iff, pure, Option.some.injEq] at given
    obtain ⟨stmt, stmtGiven, others, othersGiven, rfl⟩ := given
    rw [Stmt.toJsonList, itemBack _ stmtGiven, restBack _ othersGiven]
  case case24 =>
    intro item rest itemBack restBack decls given
    simp only [Decl.ofJsonList?, bind, Option.bind_eq_some_iff, pure, Option.some.injEq] at given
    obtain ⟨decl, declGiven, others, othersGiven, rfl⟩ := given
    rw [Decl.toJsonList, itemBack _ declGiven, restBack _ othersGiven]
  -- In what is left, the document is none that a tree is taken from.
  all_goals
    intros
    rename_i given
    first
      | rw [ofJson?] at given
      | rw [Stmt.ofJson?] at given
      | rw [Decl.ofJson?] at given
      | rw [Function.ofJson?] at given
    · exact nomatch given
    all_goals assumption

/-- A program that is taken from a document has that document. -/
theorem Program.toJson_of_ofJson? {document : Json} {program : Program}
    (given : Program.ofJson? document = some program) : program.toJson = document := by
  unfold Program.ofJson? at given
  split at given
  · rename_i items
    simp only [bind, Option.bind_eq_some_iff, pure, Option.some.injEq] at given
    obtain ⟨decls, declsGiven, rfl⟩ := given
    rw [toJson, Block.toJson_of_ofJson?_all.2.2.2.1 items decls declsGiven]
  · exact nomatch given

end NameBinding
