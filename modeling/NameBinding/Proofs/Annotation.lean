/-
This file proves that an analysis writes symbols and nothing else. Without their symbols, the tree
that an analysis was given and the tree that it gives are the same, so every name, position and
literal stays, and so does the order of all that is in the tree. This holds in every table and of
every tree, with symbols of an earlier analysis or without.
-/

import Mathlib.Logic.Basic
import NameBinding.Proofs.Attachment
import NameBinding.Proofs.WithoutSymbols

namespace NameBinding

/-! ### Expressions -/

theorem Ident.resolve_unbound (table : SymbolTable) (ident : Ident) :
    (ident.resolve table).value.unbound = ident.unbound := by
  unfold resolve
  split <;> rfl

namespace Expr

theorem select_withoutSymbols (table : SymbolTable) (base : Expr) (field : Ident)
    (exposed : Option Symbol) (fields : FieldTable) :
    (base.select table field exposed fields).value.withoutSymbols =
      (access base field none).withoutSymbols := by
  unfold select
  split <;> rfl

mutual

theorem resolve_withoutSymbols (table : SymbolTable) : ∀ expr : Expr,
    (expr.resolve table).value.withoutSymbols = expr.withoutSymbols
  | truth _ _ => rfl
  | id ident => congrArg id (ident.resolve_unbound table)
  | intLit _ _ => rfl
  | strLit _ _ => rfl
  | access base field exposed => by
    have baseSame := resolve_withoutSymbols table base
    rw [resolve, Traced.value_bind, Traced.value_bind]
    split
    · rw [select_withoutSymbols, withoutSymbols, withoutSymbols, baseSame]
    · rw [Traced.value_pure, withoutSymbols, withoutSymbols, baseSame]
  | assign lhs rhs =>
    congrArg₂ assign (resolve_withoutSymbols table lhs) (resolve_withoutSymbols table rhs)
  | call callee args =>
    congrArg₂ call (callee.resolve_unbound table) (resolveList_withoutSymbols table args)
  | unary op operand => congrArg (unary op) (resolve_withoutSymbols table operand)
  | binary op lhs rhs =>
    congrArg₂ (binary op) (resolve_withoutSymbols table lhs) (resolve_withoutSymbols table rhs)

theorem resolveList_withoutSymbols (table : SymbolTable) : ∀ exprs : List Expr,
    withoutSymbolsList (resolveList table exprs).value = withoutSymbolsList exprs
  | [] => rfl
  | expr :: rest =>
    congrArg₂ List.cons (resolve_withoutSymbols table expr) (resolveList_withoutSymbols table rest)

end

theorem analyze_withoutSymbols (expr : Expr) (table : SymbolTable) :
    (expr.analyze.run table).value.1.withoutSymbols = expr.withoutSymbols :=
  expr.resolve_withoutSymbols table

end Expr

/-! ### Blocks, statements and declarations -/

mutual

theorem Block.analyze_withoutSymbols (table : SymbolTable) : ∀ block : Block,
    (block.analyze.run table).value.1.withoutSymbols = block.withoutSymbols
  | ⟨decls, stmts⟩ => by
    rw [Block.analyze]
    exact congrArg₂ Block.mk (Decl.analyzeList_withoutSymbols table decls)
      (Stmt.analyzeList_withoutSymbols _ stmts)

theorem Stmt.analyze_withoutSymbols (table : SymbolTable) : ∀ stmt : Stmt,
    (stmt.analyze.run table).value.1.withoutSymbols = stmt.withoutSymbols
  | .assign lhs rhs => by
    rw [Stmt.analyze]
    exact congrArg₂ Stmt.assign (lhs.analyze_withoutSymbols table) (rhs.analyze_withoutSymbols _)
  | .postInc target => by
    rw [Stmt.analyze]
    exact congrArg Stmt.postInc (target.analyze_withoutSymbols table)
  | .postDec target => by
    rw [Stmt.analyze]
    exact congrArg Stmt.postDec (target.analyze_withoutSymbols table)
  | .ifThen cond body => by
    rw [Stmt.analyze]
    exact congrArg₂ Stmt.ifThen (cond.analyze_withoutSymbols table)
      (Block.analyze_withoutSymbols _ body)
  | .ifElse cond thenBranch elseBranch => by
    simp only [Stmt.analyze, run_bind_value, StateT.run_pure, Traced.value_pure,
      Stmt.withoutSymbols, cond.analyze_withoutSymbols, Block.analyze_withoutSymbols _ thenBranch,
      Block.analyze_withoutSymbols _ elseBranch]
  | .whileDo cond body => by
    rw [Stmt.analyze]
    exact congrArg₂ Stmt.whileDo (cond.analyze_withoutSymbols table)
      (Block.analyze_withoutSymbols _ body)
  | .read target => by
    rw [Stmt.analyze]
    exact congrArg Stmt.read (target.analyze_withoutSymbols table)
  | .write value => by
    rw [Stmt.analyze]
    exact congrArg Stmt.write (value.analyze_withoutSymbols table)
  | .call callee args => by
    rw [Stmt.analyze]
    exact congrArg₂ Stmt.call (callee.resolve_unbound table)
      (Expr.resolveList_withoutSymbols table args)
  | .ret none => by rw [Stmt.analyze]; rfl
  | .ret (some value) => by
    rw [Stmt.analyze]
    exact congrArg (fun value => Stmt.ret (some value)) (value.analyze_withoutSymbols table)

theorem Stmt.analyzeList_withoutSymbols (table : SymbolTable) : ∀ stmts : List Stmt,
    Stmt.withoutSymbolsList ((Stmt.analyzeList stmts).run table).value.1 =
      Stmt.withoutSymbolsList stmts
  | [] => by rw [Stmt.analyzeList]; rfl
  | stmt :: rest => by
    rw [Stmt.analyzeList]
    exact congrArg₂ List.cons (Stmt.analyze_withoutSymbols table stmt)
      (Stmt.analyzeList_withoutSymbols _ rest)

theorem Function.analyze_withoutSymbols (table : SymbolTable) : ∀ decl : Function,
    (decl.analyze.run table).value.1.withoutSymbols = decl.withoutSymbols
  | ⟨ret, name, formals, body⟩ => by
    rw [Function.analyze_eq]
    exact congrArg (Function.mk _ _ _) (Block.analyze_withoutSymbols _ body)

theorem Decl.analyze_withoutSymbols (table : SymbolTable) : ∀ decl : Decl,
    (decl.analyze.run table).value.1.withoutSymbols = decl.withoutSymbols
  | .var decl => by rw [Decl.analyze]; rfl
  | .func decl => by
    rw [Decl.analyze]
    exact congrArg Decl.func (Function.analyze_withoutSymbols table decl)
  | .struct decl => by rw [Decl.analyze]; rfl

theorem Decl.analyzeList_withoutSymbols (table : SymbolTable) : ∀ decls : List Decl,
    Decl.withoutSymbolsList ((Decl.analyzeList decls).run table).value.1 =
      Decl.withoutSymbolsList decls
  | [] => by rw [Decl.analyzeList]; rfl
  | decl :: rest => by
    rw [Decl.analyzeList]
    exact congrArg₂ List.cons (Decl.analyze_withoutSymbols table decl)
      (Decl.analyzeList_withoutSymbols _ rest)

end

/-- The analysis of a program only writes symbols. -/
theorem Program.check_withoutSymbols (program : Program) :
    program.check.1.withoutSymbols = program.withoutSymbols :=
  congrArg Program.mk (Decl.analyzeList_withoutSymbols .new program.decls)

end NameBinding
