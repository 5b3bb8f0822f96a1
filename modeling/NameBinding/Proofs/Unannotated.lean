/-
This file proves that a tree for which no symbol was found yet is what is left of it without its
symbols. That no symbol was found is said of the names and accesses that are met on the way through
the tree, and the way through a tree is made of the ways through its parts.
-/

import NameBinding.Proofs.Spots
import NameBinding.Proofs.WithoutSymbols

namespace NameBinding

theorem Ident.unbound_of_fresh (ident : Ident) (role : Role)
    (fresh : (Visit.ident ident role).isFresh = true) : ident.unbound = ident := by
  rw [Ident.unbound, ← ident.symbol_of_fresh fresh]

theorem TypeName.withoutSymbols_of_fresh (type : TypeName)
    (fresh : ∀ visit ∈ type.visits, visit.isFresh = true) : type.withoutSymbols = type := by
  cases type with
  | struct name =>
    have unnamed := fresh (.ident name .typeName) List.mem_cons_self
    exact congrArg TypeName.struct (name.unbound_of_fresh .typeName unnamed)
  | _ => rfl

theorem VarDecl.withoutSymbols_of_fresh (decl : VarDecl)
    (fresh : ∀ visit ∈ decl.visits, visit.isFresh = true) : decl.withoutSymbols = decl := by
  rw [VarDecl.visits, List.forall_mem_append, List.forall_mem_singleton] at fresh
  rw [VarDecl.withoutSymbols, decl.type.withoutSymbols_of_fresh fresh.1,
    decl.name.unbound_of_fresh .declaration fresh.2]

theorem Formal.withoutSymbols_of_fresh (formal : Formal)
    (fresh : ∀ visit ∈ formal.visits, visit.isFresh = true) : formal.withoutSymbols = formal := by
  rw [Formal.visits, List.forall_mem_append, List.forall_mem_singleton] at fresh
  rw [Formal.withoutSymbols, formal.type.withoutSymbols_of_fresh fresh.1,
    formal.name.unbound_of_fresh .declaration fresh.2]

/-- What keeps every part that is met on the way through a list keeps the list. -/
theorem map_of_fresh {α : Type} {visits : α → List Visit} {change : α → α} {items : List α}
    (keeps : ∀ item, (∀ visit ∈ visits item, visit.isFresh = true) → change item = item)
    (fresh : ∀ visit ∈ items.flatMap visits, visit.isFresh = true) : items.map change = items := by
  rw [List.forall_mem_flatMap] at fresh
  exact (List.map_congr_left fun item member => keeps item (fresh item member)).trans
    (List.map_id items)

theorem StructDecl.withoutSymbols_of_fresh (decl : StructDecl)
    (fresh : ∀ visit ∈ decl.visits, visit.isFresh = true) : decl.withoutSymbols = decl := by
  rw [StructDecl.visits, List.forall_mem_cons] at fresh
  rw [StructDecl.withoutSymbols, decl.name.unbound_of_fresh .declaration fresh.1,
    map_of_fresh VarDecl.withoutSymbols_of_fresh fresh.2]

mutual

theorem Expr.withoutSymbols_of_fresh : ∀ expr : Expr,
    (∀ visit ∈ expr.visits, visit.isFresh = true) → expr.withoutSymbols = expr
  | .truth value pos, _ => by rw [Expr.withoutSymbols]
  | .id ident, fresh => by
    rw [Expr.visits, List.forall_mem_singleton] at fresh
    rw [Expr.withoutSymbols, ident.unbound_of_fresh .reference fresh]
  | .intLit value pos, _ => by rw [Expr.withoutSymbols]
  | .strLit value pos, _ => by rw [Expr.withoutSymbols]
  | .access base field exposed, fresh => by
    rw [Expr.visits, List.forall_mem_append, List.forall_mem_cons, List.forall_mem_singleton]
      at fresh
    obtain ⟨before, name, exposing⟩ := fresh
    obtain rfl : exposed = none := Option.isNone_iff_eq_none.mp exposing
    rw [Expr.withoutSymbols, base.withoutSymbols_of_fresh before,
      field.unbound_of_fresh .field name]
  | .assign lhs rhs, fresh => by
    rw [Expr.visits, List.forall_mem_append] at fresh
    rw [Expr.withoutSymbols, lhs.withoutSymbols_of_fresh fresh.1,
      rhs.withoutSymbols_of_fresh fresh.2]
  | .call callee args, fresh => by
    rw [Expr.visits, List.forall_mem_cons] at fresh
    rw [Expr.withoutSymbols, callee.unbound_of_fresh .reference fresh.1,
      Expr.withoutSymbolsList_of_fresh args fresh.2]
  | .unary op operand, fresh => by
    rw [Expr.visits] at fresh
    rw [Expr.withoutSymbols, operand.withoutSymbols_of_fresh fresh]
  | .binary op lhs rhs, fresh => by
    rw [Expr.visits, List.forall_mem_append] at fresh
    rw [Expr.withoutSymbols, lhs.withoutSymbols_of_fresh fresh.1,
      rhs.withoutSymbols_of_fresh fresh.2]

theorem Expr.withoutSymbolsList_of_fresh : ∀ exprs : List Expr,
    (∀ visit ∈ Expr.visitsOfList exprs, visit.isFresh = true) →
      Expr.withoutSymbolsList exprs = exprs
  | [], _ => by rw [Expr.withoutSymbolsList]
  | expr :: rest, fresh => by
    rw [Expr.visitsOfList, List.forall_mem_append] at fresh
    rw [Expr.withoutSymbolsList, expr.withoutSymbols_of_fresh fresh.1,
      Expr.withoutSymbolsList_of_fresh rest fresh.2]

end

mutual

theorem Block.withoutSymbols_of_fresh : ∀ block : Block,
    (∀ visit ∈ block.visits, visit.isFresh = true) → block.withoutSymbols = block
  | ⟨decls, stmts⟩, fresh => by
    rw [Block.visits, List.forall_mem_append] at fresh
    rw [Block.withoutSymbols, Decl.withoutSymbolsList_of_fresh decls fresh.1,
      Stmt.withoutSymbolsList_of_fresh stmts fresh.2]

theorem Stmt.withoutSymbols_of_fresh : ∀ stmt : Stmt,
    (∀ visit ∈ stmt.visits, visit.isFresh = true) → stmt.withoutSymbols = stmt
  | .assign lhs rhs, fresh => by
    rw [Stmt.visits, List.forall_mem_append] at fresh
    rw [Stmt.withoutSymbols, lhs.withoutSymbols_of_fresh fresh.1,
      rhs.withoutSymbols_of_fresh fresh.2]
  | .postInc target, fresh | .postDec target, fresh | .read target, fresh
  | .write target, fresh | .ret (some target), fresh => by
    rw [Stmt.visits] at fresh
    rw [Stmt.withoutSymbols, target.withoutSymbols_of_fresh fresh]
  | .ifThen cond body, fresh | .whileDo cond body, fresh => by
    rw [Stmt.visits, List.forall_mem_append] at fresh
    rw [Stmt.withoutSymbols, cond.withoutSymbols_of_fresh fresh.1,
      body.withoutSymbols_of_fresh fresh.2]
  | .ifElse cond thenBranch elseBranch, fresh => by
    rw [Stmt.visits, List.forall_mem_append, List.forall_mem_append] at fresh
    rw [Stmt.withoutSymbols, cond.withoutSymbols_of_fresh fresh.1.1,
      thenBranch.withoutSymbols_of_fresh fresh.1.2, elseBranch.withoutSymbols_of_fresh fresh.2]
  | .call callee args, fresh => by
    rw [Stmt.visits, List.forall_mem_cons] at fresh
    rw [Stmt.withoutSymbols, callee.unbound_of_fresh .reference fresh.1,
      Expr.withoutSymbolsList_of_fresh args fresh.2]
  | .ret none, _ => by rw [Stmt.withoutSymbols]

theorem Stmt.withoutSymbolsList_of_fresh : ∀ stmts : List Stmt,
    (∀ visit ∈ Stmt.visitsOfList stmts, visit.isFresh = true) →
      Stmt.withoutSymbolsList stmts = stmts
  | [], _ => by rw [Stmt.withoutSymbolsList]
  | stmt :: rest, fresh => by
    rw [Stmt.visitsOfList, List.forall_mem_append] at fresh
    rw [Stmt.withoutSymbolsList, stmt.withoutSymbols_of_fresh fresh.1,
      Stmt.withoutSymbolsList_of_fresh rest fresh.2]

theorem Function.withoutSymbols_of_fresh : ∀ decl : Function,
    (∀ visit ∈ decl.visits, visit.isFresh = true) → decl.withoutSymbols = decl
  | ⟨ret, name, formals, body⟩, fresh => by
    rw [Function.visits, List.forall_mem_append, List.forall_mem_append, List.forall_mem_cons]
      at fresh
    obtain ⟨⟨before, own, parameters⟩, inner⟩ := fresh
    rw [Function.withoutSymbols, ret.withoutSymbols_of_fresh before,
      name.unbound_of_fresh .declaration own,
      map_of_fresh Formal.withoutSymbols_of_fresh parameters, body.withoutSymbols_of_fresh inner]

theorem Decl.withoutSymbols_of_fresh : ∀ decl : Decl,
    (∀ visit ∈ decl.visits, visit.isFresh = true) → decl.withoutSymbols = decl
  | .var decl, fresh | .func decl, fresh | .struct decl, fresh => by
    rw [Decl.visits] at fresh
    rw [Decl.withoutSymbols, decl.withoutSymbols_of_fresh fresh]

theorem Decl.withoutSymbolsList_of_fresh : ∀ decls : List Decl,
    (∀ visit ∈ Decl.visitsOfList decls, visit.isFresh = true) →
      Decl.withoutSymbolsList decls = decls
  | [], _ => by rw [Decl.withoutSymbolsList]
  | decl :: rest, fresh => by
    rw [Decl.visitsOfList, List.forall_mem_append] at fresh
    rw [Decl.withoutSymbolsList, decl.withoutSymbols_of_fresh fresh.1,
      Decl.withoutSymbolsList_of_fresh rest fresh.2]

end

/-- A program without any symbol is left as it is if its symbols are taken away. -/
theorem Program.withoutSymbols_of_fresh (program : Program) (fresh : program.IsFresh) :
    program.withoutSymbols = program := by
  rw [Program.withoutSymbols, Decl.withoutSymbolsList_of_fresh program.decls fresh]

end NameBinding
