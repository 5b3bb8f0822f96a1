/-
This file proves that a chain of accesses reports the first of its names that cannot be followed,
and no other. A chain is followed from its head as far as each name is a value of a struct type
that has the next name as a field. It can end in five ways before its last name: at a head that
stands for nothing or for no struct value, or at a field that is not there, that is no struct
value, or whose struct type is none. What comes behind that end stays without a symbol and is
passed over in silence, since an access with a base that failed neither selects nor blames. This
carries the whole argument: once a base is silent, so is every access that is built on it.
-/

import NameBinding.Proofs.Accounts
import NameBinding.Proofs.WithoutSymbols

namespace NameBinding

namespace Expr

/-- An expression with accesses to these fields behind it, one after the other. -/
def follow (base : Expr) (fields : List Ident) : Expr :=
  fields.foldl (fun base field => access base field none) base

/-- The names in an expression, in the order of the text. -/
def names (expr : Expr) : List Ident :=
  (expr.visits.filterMap Visit.occurrence?).map Prod.fst

@[simp] theorem names_access (base : Expr) (field : Ident) (exposed : Option Symbol) :
    (access base field exposed).names = base.names ++ [field] := by
  rw [names, visits, List.filterMap_append, List.map_append]
  rfl

end Expr

/-! ### How a chain ends -/

/-- A chain up to some field is followed as far as a struct type with these members, and each of its
names is bound to one of the symbols. -/
inductive Reaches (meaning : String → Option Symbol) (head : Ident) :
    List Ident → FieldTable → List Symbol → Prop
  | start {symbol : Symbol} {members : FieldTable} (visible : meaning head.name = some symbol)
      (known : symbol.members? meaning = some members) : Reaches meaning head [] members [symbol]
  | step {before : List Ident} {members next : FieldTable} {symbols : List Symbol} {field : Ident}
      {symbol : Symbol} (reached : Reaches meaning head before members symbols)
      (selected : members.find? field.name = some symbol)
      (known : symbol.members? meaning = some next) :
      Reaches meaning head (before ++ [field]) next (symbols ++ [symbol])

/-- How a chain with some fields behind its head ends: the symbols that its first names are bound
to, and the error. -/
inductive ChainEnds (meaning : String → Option Symbol) (head : Ident) :
    List Ident → List Symbol → Option Diagnostic → Prop
  /-- The head stands for nothing. -/
  | hidden {fields : List Ident} (absent : meaning head.name = none) :
      ChainEnds meaning head fields [] (some ⟨.undeclared, head.pos⟩)
  /-- The head is no value of a struct type. -/
  | closedHead {fields : List Ident} {symbol : Symbol} (visible : meaning head.name = some symbol)
      (unknown : symbol.members? meaning = none) :
      ChainEnds meaning head fields [symbol] (some ⟨.colonAccessOfNonStruct, head.pos⟩)
  /-- The struct type has no such field. -/
  | missing {before rest : List Ident} {members : FieldTable} {symbols : List Symbol}
      {field : Ident} (reached : Reaches meaning head before members symbols)
      (absent : members.find? field.name = none) :
      ChainEnds meaning head (before ++ field :: rest) symbols (some ⟨.undeclared, field.pos⟩)
  /-- A field that others follow is no value of a struct type, or its type has a name that stands
  for nothing. -/
  | closedField {before rest : List Ident} {members : FieldTable} {symbols : List Symbol}
      {field next : Ident} {symbol : Symbol} (reached : Reaches meaning head before members symbols)
      (selected : members.find? field.name = some symbol)
      (unknown : symbol.structType? meaning = none) :
      ChainEnds meaning head (before ++ field :: next :: rest) (symbols ++ [symbol])
        (some ⟨.invalidStructFieldName, field.pos⟩)
  /-- The type of a field that others follow has a name that stands for no struct type. -/
  | mistyped {before rest : List Ident} {members : FieldTable} {symbols : List Symbol}
      {field next : Ident} {symbol definition : Symbol}
      (reached : Reaches meaning head before members symbols)
      (selected : members.find? field.name = some symbol)
      (known : symbol.structType? meaning = some definition) (closed : definition.fields? = none) :
      ChainEnds meaning head (before ++ field :: next :: rest) (symbols ++ [symbol])
        (some ⟨.colonAccessOfNonStruct, next.pos⟩)
  /-- The last field is there. -/
  | whole {before : List Ident} {members : FieldTable} {symbols : List Symbol} {field : Ident}
      {symbol : Symbol} (reached : Reaches meaning head before members symbols)
      (selected : members.find? field.name = some symbol) :
      ChainEnds meaning head (before ++ [field]) (symbols ++ [symbol]) none

section

variable (meaning : String → Option Symbol) (head : Ident)

/-- From where a chain is followed to, it ends somehow. -/
theorem Reaches.ends {before : List Ident} {members : FieldTable} {symbols : List Symbol}
    (reached : Reaches meaning head before members symbols) (field : Ident) (rest : List Ident) :
    ∃ found report, ChainEnds meaning head (before ++ field :: rest) found report := by
  induction rest generalizing before members symbols field with
  | nil =>
    cases selected : members.find? field.name with
    | none => exact ⟨_, _, .missing reached selected⟩
    | some symbol => exact ⟨_, _, .whole reached selected⟩
  | cons next rest inductionHypothesis =>
    cases selected : members.find? field.name with
    | none => exact ⟨_, _, .missing reached selected⟩
    | some symbol =>
      cases known : symbol.structType? meaning with
      | none => exact ⟨_, _, .closedField reached selected known⟩
      | some definition =>
        cases opened : definition.fields? with
        | none => exact ⟨_, _, .mistyped reached selected known opened⟩
        | some inner =>
          have exposed : symbol.members? meaning = some inner := by
            rw [Symbol.members?, known, Option.bind_some, opened]
          have ends := inductionHypothesis (reached.step selected exposed) next
          rwa [List.append_assoc, List.singleton_append] at ends

/-- Every chain ends somehow. -/
theorem ChainEnds.total (fields : List Ident) (followed : fields ≠ []) :
    ∃ found report, ChainEnds meaning head fields found report := by
  obtain ⟨field, rest, rfl⟩ := List.exists_cons_of_ne_nil followed
  cases visible : meaning head.name with
  | none => exact ⟨_, _, .hidden visible⟩
  | some symbol =>
    cases known : symbol.members? meaning with
    | none => exact ⟨_, _, .closedHead visible known⟩
    | some members => exact (Reaches.start visible known).ends meaning head field rest

theorem Reaches.length {before : List Ident} {members : FieldTable} {symbols : List Symbol}
    (reached : Reaches meaning head before members symbols) :
    symbols.length = before.length + 1 := by
  induction reached with
  | start => rfl
  | step _ _ _ inductionHypothesis =>
    rw [List.length_append, List.length_append, inductionHypothesis]
    rfl

/-- A chain without an error is one with all names bound, and then no name is left over. -/
theorem ChainEnds.length {fields : List Ident} {symbols : List Symbol}
    {report : Option Diagnostic} (followed : fields ≠ [])
    (ends : ChainEnds meaning head fields symbols report) :
    symbols.length ≤ fields.length + 1 ∧ (report = none ↔ symbols.length = fields.length + 1) := by
  have positive := List.length_pos_iff.mpr followed
  cases ends with
  | hidden => simp
  | closedHead =>
    refine ⟨Nat.le_add_left 1 _, iff_of_false (fun absent => nomatch absent) ?_⟩
    rw [List.length_singleton]
    omega
  | missing reached | closedField reached | mistyped reached | whole reached =>
    simp [reached.length]

end

/-! ### What comes behind an end -/

namespace Expr

variable (meaning : String → Option Symbol)

theorem follow_concat (base : Expr) (before : List Ident) (field : Ident) :
    base.follow (before ++ [field]) = access (base.follow before) field none := by
  rw [follow, List.foldl_append]
  rfl

theorem follow_append (base : Expr) (before rest : List Ident) :
    base.follow (before ++ rest) = (base.follow before).follow rest :=
  List.foldl_append

/-- An expression that gives no members to an access and does not let its field be blamed. -/
structure IsSilent (base : Expr) : Prop where
  members : base.members? meaning = none
  blame : ∀ field, Use.baseFault? meaning field base = none

variable {meaning} {base : Expr}

theorem denoted?_access (members : FieldTable) (given : base.members? meaning = some members)
    (field : Ident) (exposed : Option Symbol) :
    (access base field exposed).denoted? meaning = members.find? field.name := by
  show ((base.members? meaning).bind fun members => members.find? field.name) = _
  rw [given, Option.bind_some]

theorem denoted?_access_none (given : base.members? meaning = none) (field : Ident)
    (exposed : Option Symbol) : (access base field exposed).denoted? meaning = none := by
  show ((base.members? meaning).bind fun members => members.find? field.name) = _
  rw [given, Option.bind_none]

/-- An access that denotes nothing is silent. -/
theorem isSilent_access (field : Ident)
    (closed : (access base field none).exposed? meaning = none) :
    (access base field none).IsSilent meaning := by
  refine ⟨?_, fun next => ?_⟩
  · rw [members?_eq, closed, Option.bind_none]
  · rw [Use.baseFault?, closed, Option.map_none]

/-- An access to an expression without members is silent, even if its field is blamed. -/
theorem isSilent_access_of_members (closed : base.members? meaning = none) (field : Ident) :
    (access base field none).IsSilent meaning := by
  refine isSilent_access field ?_
  rw [exposed?, denoted?_access_none closed, Option.bind_none]

/-- An access to a silent expression adds no error. -/
theorem IsSilent.faults_access (silent : base.IsSilent meaning) (field : Ident) (isBase : Bool) :
    ((Expr.access base field none).uses isBase).filterMap (Use.fault? meaning) =
      (base.uses true).filterMap (Use.fault? meaning) := by
  have blameless : (Use.member base field isBase).fault? meaning = none := by
    simp only [Use.fault?, silent.members, silent.blame]
  rw [uses, List.filterMap_append, List.filterMap_cons_none blameless]
  exact List.append_nil _

theorem IsSilent.faults_follow (silent : base.IsSilent meaning) (rest : List Ident) :
    ((base.follow rest).uses false).filterMap (Use.fault? meaning) =
      (base.uses !rest.isEmpty).filterMap (Use.fault? meaning) := by
  induction rest generalizing base with
  | nil => rfl
  | cons field rest inductionHypothesis =>
    exact (inductionHypothesis (isSilent_access_of_members silent.members field)).trans
      (silent.faults_access field _)

/-- The symbols of the names of an expression, in the order of the text. -/
def symbols (expr : Expr) : List (Option Symbol) :=
  expr.names.map Ident.symbol

theorem symbols_access (base : Expr) (field : Ident) :
    ((Expr.access base field none).bound meaning).symbols =
      (base.bound meaning).symbols ++ [(Expr.access base field none).denoted? meaning] := by
  rw [symbols, bound, names_access, List.map_append]
  rfl

theorem IsSilent.symbols_follow (silent : base.IsSilent meaning) (rest : List Ident) :
    ((base.follow rest).bound meaning).symbols =
      (base.bound meaning).symbols ++ List.replicate rest.length none := by
  induction rest generalizing base with
  | nil => exact (List.append_nil _).symm
  | cons field rest inductionHypothesis =>
    have denoted := denoted?_access_none silent.members field none
    refine (inductionHypothesis (isSilent_access_of_members silent.members field)).trans ?_
    rw [symbols_access, denoted, List.append_assoc]
    rfl

/-- Binding the names of accesses changes nothing but their symbols. -/
theorem names_bound_follow (base : Expr) (fields : List Ident) :
    ((base.follow fields).bound meaning).names.map Ident.unbound =
      (base.bound meaning).names.map Ident.unbound ++ fields.map Ident.unbound := by
  induction fields generalizing base with
  | nil => exact (List.append_nil _).symm
  | cons field rest inductionHypothesis =>
    refine (inductionHypothesis (access base field none)).trans ?_
    rw [bound, names_access, List.map_append, List.append_assoc]
    rfl

end Expr

/-! ### The first name that cannot be followed -/

section

variable {meaning : String → Option Symbol} {head : Ident}

namespace Reaches

variable {before : List Ident} {members : FieldTable} {symbols : List Symbol}

theorem given (reached : Reaches meaning head before members symbols) :
    ((Expr.id head).follow before).members? meaning = some members := by
  induction reached with
  | start visible known =>
    show (meaning head.name).bind (Symbol.members? meaning) = _
    rw [visible, Option.bind_some, known]
  | step reached selected known inductionHypothesis =>
    rw [Expr.follow_concat, Expr.members?, Expr.denoted?_access _ inductionHypothesis, selected,
      Option.bind_some, known]

theorem bound (reached : Reaches meaning head before members symbols) :
    (((Expr.id head).follow before).bound meaning).symbols = symbols.map some := by
  induction reached with
  | start visible known => exact congrArg (fun symbol => [symbol]) visible
  | step reached selected known inductionHypothesis =>
    rw [Expr.follow_concat, Expr.symbols_access, inductionHypothesis,
      Expr.denoted?_access _ reached.given, selected, List.map_append]
    rfl

/-- A chain that is followed so far has no error before its last name, and none there if that is
followed as well. -/
theorem blameless (reached : Reaches meaning head before members symbols) :
    (((Expr.id head).follow before).uses true).filterMap (Use.fault? meaning) = [] := by
  induction reached with
  | start visible known => simp [Expr.follow, Expr.uses, Use.fault?, visible, known]
  | @step before members next symbols field symbol reached selected known inductionHypothesis =>
    obtain ⟨definition, exposed, _⟩ := Option.bind_eq_some_iff.mp known
    have faultless :
        (Use.member ((Expr.id head).follow before) field true).fault? meaning = none := by
      simp [Use.fault?, reached.given, selected, exposed]
    rw [Expr.follow_concat, Expr.uses, List.filterMap_append, inductionHypothesis,
      List.filterMap_cons_none faultless]
    rfl

/-- How many names are left over from the next one on. -/
theorem left (reached : Reaches meaning head before members symbols) (field : Ident)
    (rest : List Ident) :
    (before ++ field :: rest).length + 1 - symbols.length = rest.length + 1 := by
  rw [List.length_append, List.length_cons, reached.length]
  omega

/-- How many names are left over behind the next one. -/
theorem left_behind (reached : Reaches meaning head before members symbols) (field : Ident)
    (rest : List Ident) (symbol : Symbol) :
    (before ++ field :: rest).length + 1 - (symbols ++ [symbol]).length = rest.length := by
  rw [List.length_append, List.length_append, List.length_cons, List.length_singleton,
    reached.length]
  omega

/-- The symbols up to the access behind what is followed. -/
theorem symbols_access (reached : Reaches meaning head before members symbols) (field : Ident) :
    ((Expr.access ((Expr.id head).follow before) field none).bound meaning).symbols =
      symbols.map some ++ [members.find? field.name] := by
  rw [Expr.symbols_access, reached.bound, Expr.denoted?_access _ reached.given]

theorem exposed?_access (reached : Reaches meaning head before members symbols) (field : Ident) :
    (Expr.access ((Expr.id head).follow before) field none).exposed? meaning =
      (members.find? field.name).bind (Symbol.structType? meaning) := by
  rw [Expr.exposed?, Expr.denoted?_access _ reached.given]

/-- An access to a field that is not there is silent. -/
theorem silent_missing (reached : Reaches meaning head before members symbols) {field : Ident}
    (absent : members.find? field.name = none) :
    (Expr.access ((Expr.id head).follow before) field none).IsSilent meaning := by
  refine Expr.isSilent_access field ?_
  rw [reached.exposed?_access, absent, Option.bind_none]

/-- An access to a field that is no struct value is silent. -/
theorem silent_closed (reached : Reaches meaning head before members symbols) {field : Ident}
    {symbol : Symbol} (selected : members.find? field.name = some symbol)
    (unknown : symbol.structType? meaning = none) :
    (Expr.access ((Expr.id head).follow before) field none).IsSilent meaning := by
  refine Expr.isSilent_access field ?_
  rw [reached.exposed?_access, selected, Option.bind_some, unknown]

/-- An access to a field whose type is no struct gives no members, but the next field is blamed. -/
theorem members?_mistyped (reached : Reaches meaning head before members symbols) {field : Ident}
    {symbol definition : Symbol} (selected : members.find? field.name = some symbol)
    (known : symbol.structType? meaning = some definition) (closed : definition.fields? = none) :
    (Expr.access ((Expr.id head).follow before) field none).members? meaning = none := by
  rw [Expr.members?_eq, reached.exposed?_access, selected, Option.bind_some, known,
    Option.bind_some, closed]

end Reaches

namespace ChainEnds

theorem silent_hidden (absent : meaning head.name = none) : (Expr.id head).IsSilent meaning where
  members := by rw [Expr.members?, Expr.denoted?, absent, Option.bind_none]
  blame _ := rfl

theorem silent_closedHead {symbol : Symbol} (visible : meaning head.name = some symbol)
    (unknown : symbol.members? meaning = none) : (Expr.id head).IsSilent meaning where
  members := by rw [Expr.members?, Expr.denoted?, visible, Option.bind_some, unknown]
  blame _ := rfl

/-- The names before the end of a chain are bound, and those behind it are not. -/
theorem bound {fields : List Ident} {symbols : List Symbol} {report : Option Diagnostic}
    (ends : ChainEnds meaning head fields symbols report) :
    (((Expr.id head).follow fields).bound meaning).symbols =
      symbols.map some ++ List.replicate (fields.length + 1 - symbols.length) none := by
  cases ends with
  | hidden absent =>
    rw [(silent_hidden absent).symbols_follow]
    exact congrArg (fun symbol => symbol :: List.replicate fields.length none) absent
  | closedHead visible unknown =>
    rw [(silent_closedHead visible unknown).symbols_follow]
    exact congrArg (fun symbol => symbol :: List.replicate fields.length none) visible
  | @missing before rest members symbols field reached absent =>
    rw [Expr.follow_append, reached.left]
    refine ((reached.silent_missing absent).symbols_follow rest).trans ?_
    rw [reached.symbols_access, absent, List.append_assoc]
    rfl
  | @closedField before rest members symbols field next symbol reached selected unknown =>
    rw [Expr.follow_append, reached.left_behind, List.map_append]
    refine ((reached.silent_closed selected unknown).symbols_follow (next :: rest)).trans ?_
    rw [reached.symbols_access, selected]
    rfl
  | @mistyped before rest _ symbols field next symbol definition reached selected known closed =>
    have members := reached.members?_mistyped selected known closed
    have silent := Expr.isSilent_access_of_members members next
    rw [Expr.follow_append, reached.left_behind, List.map_append]
    refine (silent.symbols_follow rest).trans ?_
    rw [Expr.symbols_access, Expr.denoted?_access_none members, reached.symbols_access, selected,
      List.append_assoc]
    rfl
  | @whole before members symbols field symbol reached selected =>
    rw [Expr.follow_concat, reached.symbols_access, selected, reached.left_behind,
      List.map_append]
    exact (List.append_nil _).symm

/-- A chain reports how it ends and nothing else. -/
theorem reported {fields : List Ident} {symbols : List Symbol} {report : Option Diagnostic}
    (followed : fields ≠ []) (ends : ChainEnds meaning head fields symbols report) :
    (((Expr.id head).follow fields).uses false).filterMap (Use.fault? meaning) =
      report.toList := by
  have further : (!fields.isEmpty) = true := by simpa using followed
  cases ends with
  | hidden absent =>
    rw [(silent_hidden absent).faults_follow, further]
    simp [Expr.uses, Use.fault?, absent]
  | closedHead visible unknown =>
    rw [(silent_closedHead visible unknown).faults_follow, further]
    simp [Expr.uses, Use.fault?, visible, unknown]
  | @missing before rest members symbols field reached absent =>
    rw [Expr.follow_append]
    refine ((reached.silent_missing absent).faults_follow rest).trans ?_
    simp [Expr.uses, Use.fault?, reached.given, reached.blameless, absent]
  | @closedField before rest members symbols field next symbol reached selected unknown =>
    rw [Expr.follow_append]
    refine ((reached.silent_closed selected unknown).faults_follow (next :: rest)).trans ?_
    simp [Expr.uses, Use.fault?, reached.given, reached.blameless, selected, unknown]
  | @mistyped before rest _ symbols field next symbol definition reached selected known closed =>
    have members := reached.members?_mistyped selected known closed
    have exposed : (Expr.access ((Expr.id head).follow before) field none).exposed? meaning =
        some definition := by
      rw [reached.exposed?_access, selected, Option.bind_some, known]
    have silent := Expr.isSilent_access_of_members members next
    rw [Expr.follow_append]
    have blamed : ∀ isBase, (Use.member (Expr.access ((Expr.id head).follow before) field none) next
        isBase).fault? meaning = some ⟨.colonAccessOfNonStruct, next.pos⟩ := by
      simp [Use.fault?, members, Use.baseFault?, exposed]
    have passed : (Use.member ((Expr.id head).follow before) field true).fault? meaning = none := by
      simp [Use.fault?, reached.given, selected, known]
    refine (silent.faults_follow rest).trans ?_
    simp [Expr.uses, reached.blameless, List.filterMap_cons, passed, blamed]
  | @whole before members symbols field symbol reached selected =>
    rw [Expr.follow_concat]
    simp [Expr.uses, Use.fault?, reached.given, reached.blameless, selected]

end ChainEnds

end

/-! ### Chains against a table -/

theorem fresh_follow (base : Expr) (fields : List Ident)
    (baseFresh : ∀ visit ∈ base.visits, visit.isFresh = true)
    (fieldsFresh : ∀ field ∈ fields, field.symbol = none) :
    ∀ visit ∈ (base.follow fields).visits, visit.isFresh = true := by
  induction fields generalizing base with
  | nil => exact baseFresh
  | cons field rest inductionHypothesis =>
    rw [List.forall_mem_cons] at fieldsFresh
    refine inductionHypothesis (.access base field none) ?_ fieldsFresh.2
    rw [Expr.visits, List.forall_mem_append, List.forall_mem_cons, List.forall_mem_singleton]
    exact ⟨baseFresh, by rw [Visit.isFresh, Ident.isBound, fieldsFresh.1]; rfl, rfl⟩

theorem fresh_chain (head : Ident) (fields : List Ident)
    (fresh : ∀ name ∈ head :: fields, name.symbol = none) :
    ∀ visit ∈ ((Expr.id head).follow fields).visits, visit.isFresh = true := by
  rw [List.forall_mem_cons] at fresh
  refine fresh_follow (.id head) fields (List.forall_mem_singleton.mpr ?_) fresh.2
  rw [Visit.isFresh, Ident.isBound, fresh.1]
  rfl

/-- All names of an expression are bound if each has a symbol. -/
theorem names_bound_iff (expr : Expr) :
    (∀ name ∈ expr.names, name.isBound = true) ↔ ∀ symbol ∈ expr.symbols, symbol.isSome = true := by
  rw [Expr.symbols, List.forall_mem_map]
  rfl

/-- Symbols with nothing behind them are all there is if nothing is left over. -/
theorem all_isSome_iff (symbols : List Symbol) (left : Nat) :
    (∀ symbol ∈ symbols.map some ++ List.replicate left none, symbol.isSome = true) ↔ left = 0 := by
  constructor
  · intro all
    cases left with
    | zero => rfl
    | succ more => cases all none (List.mem_append_right _ List.mem_cons_self)
  · rintro rfl
    simp

/-- The analysis of a chain against a table. -/
def analyzeChain (table : SymbolTable) (head : Ident) (fields : List Ident) :
    Traced (Expr × SymbolTable) :=
  ((Expr.id head).follow fields).analyze.run table

theorem analyzeChain_value (table : SymbolTable) (hasScope : table.scopes ≠ []) (head : Ident)
    (fields : List Ident) (fresh : ∀ name ∈ head :: fields, name.symbol = none) :
    (analyzeChain table head fields).value.1 =
      ((Expr.id head).follow fields).bound table.visible? :=
  Expr.resolve_value table hasScope _ (fresh_chain head fields fresh)

theorem analyzeChain_reports (table : SymbolTable) (hasScope : table.scopes ≠ []) (head : Ident)
    (fields : List Ident) (fresh : ∀ name ∈ head :: fields, name.symbol = none) :
    (analyzeChain table head fields).trace.diagnostics =
      (((Expr.id head).follow fields).uses false).filterMap (Use.fault? table.visible?) :=
  (congrArg Trace.diagnostics (List.append_nil _)).trans
    (Expr.resolve_reports table hasScope _ (fresh_chain head fields fresh))

/-- A chain of accesses ends in just one way. Its names are bound up to that end and not behind it,
and what is reported is the error of that end, if it has one. -/
theorem chain_reports_first_fault (table : SymbolTable) (hasScope : table.scopes ≠ [])
    (head : Ident) (fields : List Ident) (followed : fields ≠ [])
    (fresh : ∀ name ∈ head :: fields, name.symbol = none) :
    (∃ symbols report, ChainEnds table.visible? head fields symbols report) ∧
      (∀ symbols report, ChainEnds table.visible? head fields symbols report →
        (analyzeChain table head fields).value.1.symbols =
            symbols.map some ++ List.replicate (fields.length + 1 - symbols.length) none ∧
          (analyzeChain table head fields).trace.diagnostics = report.toList) ∧
      (analyzeChain table head fields).value.1.names.map Ident.unbound = head :: fields ∧
      (analyzeChain table head fields).trace.diagnostics.length ≤ 1 ∧
      ((analyzeChain table head fields).trace.diagnostics = [] ↔
        ∀ name ∈ (analyzeChain table head fields).value.1.names, name.isBound = true) := by
  obtain ⟨symbols, report, ends⟩ := ChainEnds.total table.visible? head fields followed
  rw [analyzeChain_value table hasScope head fields fresh,
    analyzeChain_reports table hasScope head fields fresh]
  refine ⟨⟨symbols, report, ends⟩, fun symbols report ends => ⟨ends.bound, ends.reported followed⟩,
    ?_, ?_, ?_⟩
  · have unbound : (head :: fields).map Ident.unbound = (head :: fields).map id :=
      List.map_congr_left fun name member => name.with_symbol_none (fresh name member)
    exact (Expr.names_bound_follow _ fields).trans (unbound.trans (List.map_id _))
  · rw [ends.reported followed]
    exact report.length_toList_le
  · obtain ⟨bounded, complete⟩ := ends.length table.visible? head followed
    rw [ends.reported followed, Option.toList_eq_nil_iff, complete, names_bound_iff, ends.bound,
      all_isSome_iff]
    omega

/-- A chain with a field whose type has the name of a variable, and a further field. -/
theorem chain_reports_first_fault_mistyped :
    (analyzeChain
        ⟨[⟨[("p", .structInstance "P")]⟩,
          ⟨[("P", .structDefinition ⟨[("q", .structInstance "Q")]⟩), ("Q", .plain "integer")]⟩]⟩
        ⟨"p", ⟨1, 1⟩, none⟩
        [⟨"q", ⟨1, 3⟩, none⟩, ⟨"r", ⟨1, 5⟩, none⟩, ⟨"s", ⟨1, 7⟩, none⟩]).trace.diagnostics =
      [⟨.colonAccessOfNonStruct, ⟨1, 5⟩⟩] := by
  have ⟨_, outcome, _⟩ := chain_reports_first_fault
    ⟨[⟨[("p", .structInstance "P")]⟩,
      ⟨[("P", .structDefinition ⟨[("q", .structInstance "Q")]⟩), ("Q", .plain "integer")]⟩]⟩
    (List.cons_ne_nil _ _) ⟨"p", ⟨1, 1⟩, none⟩
    [⟨"q", ⟨1, 3⟩, none⟩, ⟨"r", ⟨1, 5⟩, none⟩, ⟨"s", ⟨1, 7⟩, none⟩] (List.cons_ne_nil _ _)
    (by simp)
  exact (outcome _ _ (.mistyped (.start rfl rfl) rfl rfl rfl)).2

end NameBinding
