/-
This file proves that a declaration which nothing uses changes nothing. It may be inserted anywhere
among the declarations of a program, of a function or of any other body. Up to that place the
analysis of the longer program is that of the program. At the place it declares the name and reports
nothing, since no scope has the name; and from there on its tables have one name more, which nothing
looks at.
-/

import NameBinding.Proofs.UnusedName

namespace NameBinding

open Declarable (accept isTaken)

/-! ### Inserted declarations -/

mutual

/-- Whether a block is another one with a declaration inserted somewhere. -/
inductive Block.Inserts (decl : Decl) : Block → Block → Prop
  | decls {decls decls' : List Decl} (stmts : List Stmt)
    (inserted : Decl.InsertsAmong decl decls decls') :
    Block.Inserts decl ⟨decls, stmts⟩ ⟨decls', stmts⟩
  | stmts (decls : List Decl) {stmts stmts' : List Stmt}
    (inserted : Stmt.InsertsAmong decl stmts stmts') :
    Block.Inserts decl ⟨decls, stmts⟩ ⟨decls, stmts'⟩

/-- Whether a statement is another one with a declaration inserted in one of its bodies. -/
inductive Stmt.Inserts (decl : Decl) : Stmt → Stmt → Prop
  | ifThen (cond : Expr) {body body' : Block} (inserted : Block.Inserts decl body body') :
    Stmt.Inserts decl (.ifThen cond body) (.ifThen cond body')
  | thenBranch (cond : Expr) {body body' : Block} (elseBranch : Block)
    (inserted : Block.Inserts decl body body') :
    Stmt.Inserts decl (.ifElse cond body elseBranch) (.ifElse cond body' elseBranch)
  | elseBranch (cond : Expr) (thenBranch : Block) {body body' : Block}
    (inserted : Block.Inserts decl body body') :
    Stmt.Inserts decl (.ifElse cond thenBranch body) (.ifElse cond thenBranch body')
  | whileDo (cond : Expr) {body body' : Block} (inserted : Block.Inserts decl body body') :
    Stmt.Inserts decl (.whileDo cond body) (.whileDo cond body')

/-- Whether statements are others with a declaration inserted in one of them. -/
inductive Stmt.InsertsAmong (decl : Decl) : List Stmt → List Stmt → Prop
  | inside {stmt stmt' : Stmt} (inserted : Stmt.Inserts decl stmt stmt') (rest : List Stmt) :
    Stmt.InsertsAmong decl (stmt :: rest) (stmt' :: rest)
  | later (first : Stmt) {rest rest' : List Stmt} (inserted : Stmt.InsertsAmong decl rest rest') :
    Stmt.InsertsAmong decl (first :: rest) (first :: rest')

/-- Whether a function is another one with a declaration inserted in its body. -/
inductive Function.Inserts (decl : Decl) : Function → Function → Prop
  | body (ret : TypeName) (name : Ident) (formals : List Formal) {body body' : Block}
    (inserted : Block.Inserts decl body body') :
    Function.Inserts decl ⟨ret, name, formals, body⟩ ⟨ret, name, formals, body'⟩

/-- Whether declarations are others with one inserted, between them or in one of them. -/
inductive Decl.InsertsAmong (decl : Decl) : List Decl → List Decl → Prop
  | here (rest : List Decl) : Decl.InsertsAmong decl rest (decl :: rest)
  | inside {func func' : Function} (inserted : Function.Inserts decl func func')
    (rest : List Decl) :
    Decl.InsertsAmong decl (.func func :: rest) (.func func' :: rest)
  | later (first : Decl) {rest rest' : List Decl} (inserted : Decl.InsertsAmong decl rest rest') :
    Decl.InsertsAmong decl (first :: rest) (first :: rest')

end

/-- Whether a program is another one with a declaration inserted somewhere. -/
def Program.Inserts (decl : Decl) (program program' : Program) : Prop :=
  Decl.InsertsAmong decl program.decls program'.decls

/-- A declaration can be inserted at every index. -/
theorem Decl.InsertsAmong.between (decl : Decl) (before after : List Decl) :
    Decl.InsertsAmong decl (before ++ after) (before ++ decl :: after) := by
  induction before with
  | nil => exact .here after
  | cons first rest inductionHypothesis => exact .later first inductionHypothesis

/-! ### Before the place -/

/-- What comes before the place is the same in both analyses. A table without the name is left
without it. -/
theorem Weakens.bind_before {α β β' : Type} {name : String} {target : β → β' → Prop}
    {step : Analysis α} {next : α → Analysis β} {next' : α → Analysis β'} {table : SymbolTable}
    (ignores : Ignores name step) (avoids : table.Avoids name) (free : table.without name = table)
    (rest : ∀ value reached, reached.Avoids name → reached.without name = reached →
      Weakens name target ((next value).run reached) ((next' value).run reached)) :
    Weakens name target ((step >>= next).run table) ((step >>= next').run table) := by
  have first := ignores table avoids
  rw [free] at first
  have after := rest (step.run table).value.1 (step.run table).value.2 first.avoids first.table
  refine ⟨after.value, ?_, after.table, after.avoids⟩
  rw [run_bind_trace, run_bind_trace, Trace.diagnostics_append, Trace.diagnostics_append,
    after.reports]

/-! ### At the place -/

/-- The declaration of an integer. -/
def Decl.integer (name : Ident) (size : Option UInt32) : Decl :=
  .var { type := .integer, name, size }

/-- A new name is declared and nothing is reported. -/
theorem Decl.integer_reports (name : Ident) (size : Option UInt32) (table : SymbolTable)
    (free : table.without name.name = table) :
    ((Decl.integer name size).analyze.run table).trace.diagnostics = [] := by
  have untaken : isTaken table name.name = false := by
    rw [← free, table.isTaken_without_self]
  have trace : ((Decl.integer name size).analyze.run table).trace.diagnostics =
      ((declareTyped table .integer name).run table).trace.diagnostics := by
    rw [Decl.integer, Decl.analyze]
    exact congrArg Trace.diagnostics (List.append_nil _)
  rw [trace, declareTyped_taken, untaken]
  rfl

theorem Decl.integer_value (name : Ident) (size : Option UInt32) (table : SymbolTable) :
    ((Decl.integer name size).analyze.run table).value =
      (Decl.integer name size, accept table (name.name, .plain "integer")) := by
  have after := Decl.analyze_after table (Decl.integer name size)
  have first : ((Decl.integer name size).analyze.run table).value.1 = Decl.integer name size := by
    rw [Decl.integer, Decl.analyze]
    rfl
  exact Prod.ext first after

section

variable {name : Ident} {size : Option UInt32}

theorem Decl.analyzeList_inserted (rest : List Decl)
    (apart : ∀ visit ∈ Decl.visitsOfList rest, visit.IsApartFrom name.name) (table : SymbolTable)
    (avoids : table.Avoids name.name) (free : table.without name.name = table) :
    Weakens name.name (Decl.InsertsAmong (.integer name size)) ((Decl.analyzeList rest).run table)
      ((Decl.analyzeList (.integer name size :: rest)).run table) := by
  have ignored := Decl.analyzeList_ignores name.name rest apart
    (accept table (name.name, .plain "integer")) (avoids.accept ⟨nofun, nofun⟩)
  rw [table.accept_without_self, free] at ignored
  have value := Decl.integer_value name size table
  refine ⟨?_, ?_, ?_, ?_⟩
  · rw [Decl.analyzeList, run_bind_value, run_bind_value, value, ignored.value]
    exact .here _
  · rw [Decl.analyzeList, run_bind_trace, run_bind_trace, value, Trace.diagnostics_append,
      Trace.diagnostics_append, Decl.integer_reports name size table free, ignored.reports]
    exact List.append_nil _
  · rw [Decl.analyzeList, run_bind_value, run_bind_value, value]
    exact ignored.table
  · rw [Decl.analyzeList, run_bind_value, run_bind_value, value]
    exact ignored.avoids

end

/-! ### Around the place -/

section

variable (name : Ident) (size : Option UInt32)

mutual

theorem Block.analyze_weakens : ∀ {block block' : Block},
    Block.Inserts (.integer name size) block block' →
    (∀ visit ∈ block.visits, visit.IsApartFrom name.name) →
    ∀ table : SymbolTable, table.Avoids name.name → table.without name.name = table →
      Weakens name.name (Block.Inserts (.integer name size)) (block.analyze.run table)
        (block'.analyze.run table)
  | _, _, .decls stmts inserted, apart, table, avoids, free => by
    rw [Block.visits, List.forall_mem_append] at apart
    rw [Block.analyze, Block.analyze]
    -- The statements are the same in both blocks, and their tables differ in the name.
    exact (Decl.analyzeList_weakens inserted apart.1 table avoids free).bind
      fun _ _ reached inserted avoids =>
        (Stmt.analyzeList_ignores name.name stmts apart.2 reached avoids).bind
          fun _ _ _ same avoids => by
            rw [same]
            exact .pure (.decls _ inserted) avoids
  | _, _, .stmts decls inserted, apart, table, avoids, free => by
    rw [Block.visits, List.forall_mem_append] at apart
    rw [Block.analyze, Block.analyze]
    exact .bind_before (Decl.analyzeList_ignores name.name decls apart.1) avoids free
      fun _ reached avoids free =>
        (Stmt.analyzeList_weakens inserted apart.2 reached avoids free).bind
          fun _ _ _ inserted avoids => .pure (.stmts _ inserted) avoids

theorem Stmt.analyze_weakens : ∀ {stmt stmt' : Stmt},
    Stmt.Inserts (.integer name size) stmt stmt' →
    (∀ visit ∈ stmt.visits, visit.IsApartFrom name.name) →
    ∀ table : SymbolTable, table.Avoids name.name → table.without name.name = table →
      Weakens name.name (Stmt.Inserts (.integer name size)) (stmt.analyze.run table)
        (stmt'.analyze.run table)
  | _, _, .ifThen cond inserted, apart, table, avoids, free => by
    rw [Stmt.visits, List.forall_mem_append] at apart
    rw [Stmt.analyze, Stmt.analyze]
    exact .bind_before (cond.analyze_ignores apart.1) avoids free fun _ _ avoids free =>
      .bind_before enterScope_ignores avoids free fun _ reached avoids free =>
        (Block.analyze_weakens inserted apart.2 reached avoids free).bind
          fun _ _ reached inserted avoids => (leaveScope_ignores reached avoids).bind
            fun _ _ _ _ avoids => .pure (.ifThen _ inserted) avoids
  | _, _, .thenBranch cond elseBranch inserted, apart, table, avoids, free => by
    rw [Stmt.visits, List.forall_mem_append, List.forall_mem_append] at apart
    have second := Block.analyze_ignores name.name elseBranch apart.2
    rw [Stmt.analyze, Stmt.analyze]
    exact .bind_before (cond.analyze_ignores apart.1.1) avoids free fun _ _ avoids free =>
      .bind_before enterScope_ignores avoids free fun _ reached avoids free =>
        (Block.analyze_weakens inserted apart.1.2 reached avoids free).bind
          fun _ _ reached inserted avoids => (leaveScope_ignores reached avoids).bind
            fun _ _ reached _ avoids => (enterScope_ignores reached avoids).bind
              fun _ _ reached _ avoids => (second reached avoids).bind
                fun _ _ reached same avoids => (leaveScope_ignores reached avoids).bind
                  fun _ _ _ _ avoids => by
                    rw [same]
                    exact .pure (.thenBranch _ _ inserted) avoids
  | _, _, .elseBranch cond thenBranch inserted, apart, table, avoids, free => by
    rw [Stmt.visits, List.forall_mem_append, List.forall_mem_append] at apart
    have first := Block.analyze_ignores name.name thenBranch apart.1.2
    rw [Stmt.analyze, Stmt.analyze]
    exact .bind_before (cond.analyze_ignores apart.1.1) avoids free fun _ _ avoids free =>
      .bind_before enterScope_ignores avoids free fun _ _ avoids free =>
        .bind_before first avoids free fun _ _ avoids free =>
          .bind_before leaveScope_ignores avoids free fun _ _ avoids free =>
            .bind_before enterScope_ignores avoids free fun _ reached avoids free =>
              (Block.analyze_weakens inserted apart.2 reached avoids free).bind
                fun _ _ reached inserted avoids => (leaveScope_ignores reached avoids).bind
                  fun _ _ _ _ avoids => .pure (.elseBranch _ _ inserted) avoids
  | _, _, .whileDo cond inserted, apart, table, avoids, free => by
    rw [Stmt.visits, List.forall_mem_append] at apart
    rw [Stmt.analyze, Stmt.analyze]
    exact .bind_before (cond.analyze_ignores apart.1) avoids free fun _ _ avoids free =>
      .bind_before enterScope_ignores avoids free fun _ reached avoids free =>
        (Block.analyze_weakens inserted apart.2 reached avoids free).bind
          fun _ _ reached inserted avoids => (leaveScope_ignores reached avoids).bind
            fun _ _ _ _ avoids => .pure (.whileDo _ inserted) avoids

theorem Stmt.analyzeList_weakens : ∀ {stmts stmts' : List Stmt},
    Stmt.InsertsAmong (.integer name size) stmts stmts' →
    (∀ visit ∈ Stmt.visitsOfList stmts, visit.IsApartFrom name.name) →
    ∀ table : SymbolTable, table.Avoids name.name → table.without name.name = table →
      Weakens name.name (Stmt.InsertsAmong (.integer name size))
        ((Stmt.analyzeList stmts).run table) ((Stmt.analyzeList stmts').run table)
  | _, _, .inside inserted rest, apart, table, avoids, free => by
    rw [Stmt.visitsOfList, List.forall_mem_append] at apart
    have after := Stmt.analyzeList_ignores name.name rest apart.2
    rw [Stmt.analyzeList, Stmt.analyzeList]
    exact (Stmt.analyze_weakens inserted apart.1 table avoids free).bind
      fun _ _ reached inserted avoids => (after reached avoids).bind fun _ _ _ same avoids => by
        rw [same]
        exact .pure (.inside inserted _) avoids
  | _, _, .later first inserted, apart, table, avoids, free => by
    rw [Stmt.visitsOfList, List.forall_mem_append] at apart
    rw [Stmt.analyzeList, Stmt.analyzeList]
    exact .bind_before (Stmt.analyze_ignores name.name first apart.1) avoids free
      fun _ reached avoids free =>
        (Stmt.analyzeList_weakens inserted apart.2 reached avoids free).bind
          fun _ _ _ inserted avoids => .pure (.later _ inserted) avoids

theorem Function.analyze_weakens : ∀ {decl decl' : Function},
    Function.Inserts (.integer name size) decl decl' →
    (∀ visit ∈ decl.visits, visit.IsApartFrom name.name) →
    ∀ table : SymbolTable, table.Avoids name.name → table.without name.name = table →
      Weakens name.name (Function.Inserts (.integer name size)) (decl.analyze.run table)
        (decl'.analyze.run table)
  | _, _, .body ret ident formals inserted, apart, table, avoids, free => by
    rw [Function.visits, List.append_assoc, List.forall_mem_append, List.cons_append,
      List.forall_mem_cons, List.forall_mem_append] at apart
    obtain ⟨_, nameApart, formalsApart, bodyApart⟩ := apart
    have declared := Function.declare_ignores ret ident formals nameApart.2
    have heading := Formal.declareList_ignores formals formalsApart
    rw [Function.analyze_eq, Function.analyze_eq]
    exact .bind_before declared avoids free fun _ _ avoids free =>
      .bind_before enterScope_ignores avoids free fun _ _ avoids free =>
        .bind_before heading avoids free fun _ reached avoids free =>
          (Block.analyze_weakens inserted bodyApart reached avoids free).bind
            fun _ _ reached inserted avoids => (leaveScope_ignores reached avoids).bind
              fun _ _ _ _ avoids => .pure (.body ret ident formals inserted) avoids

theorem Decl.analyzeList_weakens : ∀ {decls decls' : List Decl},
    Decl.InsertsAmong (.integer name size) decls decls' →
    (∀ visit ∈ Decl.visitsOfList decls, visit.IsApartFrom name.name) →
    ∀ table : SymbolTable, table.Avoids name.name → table.without name.name = table →
      Weakens name.name (Decl.InsertsAmong (.integer name size))
        ((Decl.analyzeList decls).run table) ((Decl.analyzeList decls').run table)
  | _, _, .here rest, apart, table, avoids, free =>
    Decl.analyzeList_inserted rest apart table avoids free
  | .func func :: _, .func func' :: _, .inside inserted rest, apart, table, avoids, free => by
    rw [Decl.visitsOfList, List.forall_mem_append, Decl.visits] at apart
    -- The name is gone with the scope of the function, but that is not needed for what follows.
    have after := Decl.analyzeList_ignores name.name rest apart.2
    have whole : Weakens name.name
        (fun decl decl' => ∃ func func', Function.Inserts (.integer name size) func func' ∧
          decl = .func func ∧ decl' = .func func')
        ((Decl.func func).analyze.run table) ((Decl.func func').analyze.run table) := by
      rw [Decl.analyze, Decl.analyze]
      exact (Function.analyze_weakens inserted apart.1 table avoids free).bind
        fun func func' _ inserted avoids => .pure ⟨func, func', inserted, rfl, rfl⟩ avoids
    rw [Decl.analyzeList, Decl.analyzeList]
    refine whole.bind fun _ _ reached related avoids => (after reached avoids).bind
      fun _ _ _ same avoids => ?_
    obtain ⟨func, func', inserted, rfl, rfl⟩ := related
    rw [same]
    exact .pure (.inside inserted _) avoids
  | _, _, .later first inserted, apart, table, avoids, free => by
    rw [Decl.visitsOfList, List.forall_mem_append] at apart
    rw [Decl.analyzeList, Decl.analyzeList]
    exact .bind_before (Decl.analyze_ignores name.name first apart.1) avoids free
      fun _ reached avoids free =>
        (Decl.analyzeList_weakens inserted apart.2 reached avoids free).bind
          fun _ _ _ inserted avoids => .pure (.later _ inserted) avoids

end

end

/-! ### Whole programs -/

namespace Program

/-- What is met in a fresh program is apart from each name that occurs nowhere in it. -/
theorem visits_apart (program : Program) (fresh : program.IsFresh) (name : String)
    (unused : ∀ occurrence ∈ program.occurrences, occurrence.1.name ≠ name) :
    ∀ visit ∈ program.visits, visit.IsApartFrom name := by
  intro visit met
  have unbound := fresh visit met
  cases visit with
  | ident occurrence role =>
    have listed : (occurrence, role) ∈ program.occurrences :=
      List.mem_filterMap.mpr ⟨.ident occurrence role, met, rfl⟩
    exact ⟨occurrence.symbol_of_fresh unbound, unused (occurrence, role) listed⟩
  | access base field exposed => exact Option.isNone_iff_eq_none.mp unbound

/-- A declaration that nothing uses changes nothing. If a name occurs nowhere in a program and the
declaration of an integer of that name is inserted, among the declarations of the program or of a
body at any depth, then the same errors are reported, and the analysed program is the same with the
declaration inserted, so each name and each access has the symbol that it had. The place of the
declaration is the same too, since it alone has the name. -/
theorem check_inserted (program extended : Program) (name : Ident) (size : Option UInt32)
    (fresh : program.IsFresh)
    (unused : ∀ occurrence ∈ program.occurrences, occurrence.1.name ≠ name.name)
    (inserted : program.Inserts (.integer name size) extended) :
    extended.check.2.entries = program.check.2.entries ∧
      program.check.1.Inserts (.integer name size) extended.check.1 := by
  have apart := program.visits_apart fresh name.name unused
  have weakens := Decl.analyzeList_weakens name size inserted apart SymbolTable.new
    SymbolTable.Avoids.new rfl
  refine ⟨?_, weakens.value⟩
  rw [check_entries, check_entries]
  exact weakens.reports

/-- A name with its place behind another declaration. -/
def spare : Ident := ⟨"n", ⟨7, 23⟩, none⟩

/-- A program with these declarations behind another one in the branch of a conditional. The branch
uses a field, the other declaration and a name that is not declared. -/
def branching (decls : List Decl) : Program := ⟨[
  .struct ⟨⟨"s", ⟨1, 8⟩, none⟩, [{ type := .integer, name := ⟨"a", ⟨2, 11⟩, none⟩ }]⟩,
  .func ⟨.void, ⟨"f", ⟨4, 6⟩, none⟩, [],
    ⟨[.var { type := .struct ⟨"s", ⟨5, 10⟩, none⟩, name := ⟨"p", ⟨5, 12⟩, none⟩ }], [
      .ifThen (.truth true ⟨6, 7⟩) ⟨.integer ⟨"k", ⟨7, 13⟩, none⟩ none :: decls, [
        .assign (.access (.id ⟨"p", ⟨8, 5⟩, none⟩) ⟨"a", ⟨8, 7⟩, none⟩ none)
          (.id ⟨"k", ⟨8, 11⟩, none⟩),
        .write (.id ⟨"m", ⟨9, 14⟩, none⟩)]⟩]⟩⟩]⟩

theorem check_inserted_branching :
    (branching []).IsFresh ∧
      (∀ occurrence ∈ (branching []).occurrences, occurrence.1.name ≠ spare.name) ∧
      (branching []).Inserts (.integer spare none) (branching [.integer spare none]) ∧
      (branching [.integer spare none]).check.2.entries = [⟨.undeclared, ⟨9, 14⟩⟩] := by
  have fresh : (branching []).IsFresh := by decide
  have unused : ∀ occurrence ∈ (branching []).occurrences, occurrence.1.name ≠ spare.name := by
    decide
  have inserted :
      (branching []).Inserts (.integer spare none) (branching [.integer spare none]) := by
    refine .later _ (.inside (.body _ _ _ (.stmts _ (.inside (.ifThen _ (.decls _ ?_)) []))) [])
    exact .between (.integer spare none) [.integer ⟨"k", ⟨7, 13⟩, none⟩ none] []
  refine ⟨fresh, unused, inserted, ?_⟩
  rw [((branching []).check_inserted _ spare none fresh unused inserted).1]
  decide

end Program

end NameBinding
