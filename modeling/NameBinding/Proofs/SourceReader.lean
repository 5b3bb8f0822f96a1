/-
This file reads trees from tokens. A reader takes what belongs to a tree from the front of the
tokens, and the first token that does not belong to it is enough to end it. The readers for an
expression and for a block take a bound, which is how deep they may go; no tree is deeper than it
has tokens. A tree that was read has no places: every position is the same, and no variable has a
size. Sequences of items are read back from the tokens of the items, for any kind of item that is
itself read back in front of whatever can follow it.
-/

import NameBinding.Proofs.Relabeled
import NameBinding.Proofs.SourceTokens

namespace NameBinding

/-! ### Trees without places -/

/-- All names stay, and all positions become one. -/
def Relabeling.nowhere : Relabeling where
  name := id
  pos := fun _ => ⟨0, 0⟩

/-- An occurrence of a name that was read from a token. -/
def Ident.bare (name : String) : Ident where
  name := name
  pos := ⟨0, 0⟩

/-- A variable without its positions and its size. -/
def VarDecl.placeless (decl : VarDecl) : VarDecl :=
  { decl.relabeled .nowhere with size := none }

/-- A struct without positions and sizes. -/
def StructDecl.placeless (decl : StructDecl) : StructDecl where
  name := decl.name.relabeled .nowhere
  fields := decl.fields.map VarDecl.placeless

mutual

/-- A block without positions and sizes. -/
def Block.placeless : Block → Block
  | ⟨decls, stmts⟩ => ⟨Decl.placelessList decls, Stmt.placelessList stmts⟩

/-- A statement without positions and sizes. -/
def Stmt.placeless : Stmt → Stmt
  | .assign lhs rhs => .assign (lhs.relabeled .nowhere) (rhs.relabeled .nowhere)
  | .postInc target => .postInc (target.relabeled .nowhere)
  | .postDec target => .postDec (target.relabeled .nowhere)
  | .ifThen cond body => .ifThen (cond.relabeled .nowhere) body.placeless
  | .ifElse cond thenBranch elseBranch =>
    .ifElse (cond.relabeled .nowhere) thenBranch.placeless elseBranch.placeless
  | .whileDo cond body => .whileDo (cond.relabeled .nowhere) body.placeless
  | .read target => .read (target.relabeled .nowhere)
  | .write value => .write (value.relabeled .nowhere)
  | .call callee args => .call (callee.relabeled .nowhere) (Expr.relabeledList .nowhere args)
  | .ret none => .ret none
  | .ret (some value) => .ret (some (value.relabeled .nowhere))

/-- Statements without positions and sizes. -/
def Stmt.placelessList : List Stmt → List Stmt
  | [] => []
  | stmt :: rest => stmt.placeless :: Stmt.placelessList rest

/-- A function without positions and sizes. -/
def Function.placeless : Function → Function
  | ⟨ret, name, formals, body⟩ =>
    ⟨ret.relabeled .nowhere, name.relabeled .nowhere,
      formals.map (Formal.relabeled .nowhere), body.placeless⟩

/-- A declaration without positions and sizes. -/
def Decl.placeless : Decl → Decl
  | .var decl => .var decl.placeless
  | .func decl => .func decl.placeless
  | .struct decl => .struct decl.placeless

/-- Declarations without positions and sizes. -/
def Decl.placelessList : List Decl → List Decl
  | [] => []
  | decl :: rest => decl.placeless :: Decl.placelessList rest

end

/-- A program without positions and sizes. -/
def Program.placeless (program : Program) : Program :=
  ⟨Decl.placelessList program.decls⟩

/-! ### What a token opens -/

namespace Token

/-- Whether an expression can begin with a token. -/
def opensExpr : Token → Bool
  | keyword (.truth _) => true
  | keyword _ => false
  | sign c => c == '(' || c == '-'
  | _ => true

/-- Whether a statement can begin with a token. -/
def opensStmt : Token → Bool
  | keyword .ifWord => true
  | keyword .whileWord => true
  | keyword .inputWord => true
  | keyword .dispWord => true
  | keyword .returnWord => true
  | token => token.opensExpr

/-- Whether a type, and so a declaration, can begin with a token. -/
def opensDecl : Token → Bool
  | keyword .boolean => true
  | keyword .integer => true
  | keyword .void => true
  | keyword .struct => true
  | _ => false

end Token

/-! ### Readers -/

/-- Reads something from the front of the tokens and hands on the rest. -/
abbrev TokenReader (α : Type) := List Token → Option (α × List Token)

namespace TokenReader

/-- Leaves out tokens that must stand here. -/
def expect : List Token → List Token → Option (List Token)
  | [], rest => some rest
  | token :: more, found :: rest => if found = token then expect more rest else none
  | _ :: _, [] => none

section

variable {α : Type} (starts : Token → Bool) (read : TokenReader α)

/-- Reads as many items as there are, at most this many. The next token tells whether there is one
more. -/
def several : Nat → TokenReader (List α)
  | 0, tokens => some ([], tokens)
  | bound + 1, tokens =>
    if tokens.head?.any starts then do
      let (item, rest) ← read tokens
      let (more, rest) ← several bound rest
      return (item :: more, rest)
    else some ([], tokens)

/-- Reads an item behind a comma. -/
def another : TokenReader α := fun tokens =>
  expect [.sign ','] tokens >>= read

/-- Reads items with commas between them, up to a closing sign. -/
def separated (bound : Nat) (close : Char) : TokenReader (List α) := fun tokens =>
  match expect [.sign close] tokens with
  | some rest => some ([], rest)
  | none => do
    let (first, rest) ← read tokens
    let (others, rest) ← several (· == .sign ',') (another read) bound rest
    let rest ← expect [.sign close] rest
    return (first :: others, rest)

end

/-- Reads a name. -/
def name : TokenReader Ident
  | .name text :: rest => some (.bare text, rest)
  | _ => none

/-- Reads a type. -/
def type : TokenReader TypeName
  | .keyword .boolean :: rest => some (.boolean, rest)
  | .keyword .integer :: rest => some (.integer, rest)
  | .keyword .void :: rest => some (.void, rest)
  | .keyword .struct :: .name text :: rest => some (.struct (.bare text), rest)
  | _ => none

/-! ### Expressions -/

/-- Reads the operator between two operands. -/
def operator : TokenReader (Expr → Expr → Expr)
  | .sign '=' :: .sign '=' :: rest => some (.binary .eq, rest)
  | .sign '=' :: rest => some (.assign, rest)
  | .sign '^' :: .sign '=' :: rest => some (.binary .notEq, rest)
  | .sign '<' :: .sign '=' :: rest => some (.binary .ltEq, rest)
  | .sign '<' :: rest => some (.binary .lt, rest)
  | .sign '>' :: .sign '=' :: rest => some (.binary .gtEq, rest)
  | .sign '>' :: rest => some (.binary .gt, rest)
  | .sign '+' :: rest => some (.binary .add, rest)
  | .sign '-' :: rest => some (.binary .sub, rest)
  | .sign '*' :: rest => some (.binary .mul, rest)
  | .sign '/' :: rest => some (.binary .div, rest)
  | .sign '&' :: rest => some (.binary .and, rest)
  | .sign '|' :: rest => some (.binary .or, rest)
  | _ => none

/-- Reads the fields behind a value, each behind a colon. -/
def fields : Expr → List Token → Expr × List Token
  | base, .sign ':' :: .name field :: rest => fields (.access base (.bare field) none) rest
  | base, rest => (base, rest)

section

variable (read : TokenReader Expr)

/-- Reads two operands and the operator between them. -/
def pair : TokenReader Expr := fun tokens => do
  let (lhs, rest) ← read tokens
  let (combine, rest) ← operator rest
  let (rhs, rest) ← read rest
  return (combine lhs rhs, rest)

/-- Reads what stands in parentheses. A minus is an operator if there is one operand up to the end
of the parentheses, and is the sign of a number otherwise. -/
def operation : TokenReader Expr
  | .sign '^' :: rest => do
    let (operand, rest) ← read rest
    return (.unary .not operand, rest)
  | .sign '-' :: rest =>
    match read rest with
    | some (operand, .sign ')' :: after) => some (.unary .neg operand, .sign ')' :: after)
    | _ => pair read (.sign '-' :: rest)
  | tokens => pair read tokens

/-- Reads an expression that is no access to a field. -/
def value (bound : Nat) : TokenReader Expr
  | .keyword (.truth value) :: rest => some (.truth value ⟨0, 0⟩, rest)
  | .name name :: .sign '(' :: rest => do
    let (args, rest) ← separated read bound ')' rest
    return (.call (.bare name) args, rest)
  | .name name :: rest => some (.id (.bare name), rest)
  | .number value :: rest => some (.intLit (.ofInt value) ⟨0, 0⟩, rest)
  | .sign '-' :: .number value :: rest => some (.intLit (.ofInt (-value)) ⟨0, 0⟩, rest)
  | .literal text :: rest => some (.strLit text ⟨0, 0⟩, rest)
  | .sign '(' :: rest => do
    let (expr, rest) ← operation read rest
    let rest ← expect [.sign ')'] rest
    return (expr, rest)
  | _ => none

end

/-- Reads an expression. -/
def expression : Nat → TokenReader Expr
  | 0, _ => none
  | bound + 1, tokens => do
    let (base, rest) ← value (expression bound) bound tokens
    return fields base rest

/-! ### Declarations and statements -/

/-- Reads a variable or a field. -/
def varDecl : TokenReader VarDecl := fun tokens => do
  let (type, rest) ← type tokens
  let (name, rest) ← name rest
  let rest ← expect [.sign '.'] rest
  return ({ type, name }, rest)

/-- Reads a parameter. -/
def formal : TokenReader Formal := fun tokens => do
  let (type, rest) ← type tokens
  let (name, rest) ← name rest
  return ({ type, name }, rest)

section

variable (expr : TokenReader Expr) (block : TokenReader Block)

/-- Reads a statement that begins with an expression: an assignment, a step up or down or a call. -/
def simple : TokenReader Stmt := fun tokens => do
  let (target, rest) ← expr tokens
  match target, rest with
  | target, .sign '=' :: rest => do
    let (value, rest) ← expr rest
    let rest ← expect [.sign '.'] rest
    return (.assign target value, rest)
  | target, .sign '+' :: rest => do
    let rest ← expect [.sign '+', .sign '.'] rest
    return (.postInc target, rest)
  | target, .sign '-' :: rest => do
    let rest ← expect [.sign '-', .sign '.'] rest
    return (.postDec target, rest)
  | .call callee args, rest => do
    let rest ← expect [.sign '.'] rest
    return (.call callee args, rest)
  | _, _ => none

/-- Reads a condition in parentheses and the block in braces behind it. -/
def guarded : TokenReader (Expr × Block) := fun tokens => do
  let rest ← expect [.sign '('] tokens
  let (cond, rest) ← expr rest
  let rest ← expect [.sign ')', .sign '\x7b'] rest
  let (body, rest) ← block rest
  let rest ← expect [.sign '\x7d'] rest
  return ((cond, body), rest)

/-- Reads a statement. -/
def stmt : TokenReader Stmt
  | .keyword .ifWord :: rest => do
    let ((cond, body), rest) ← guarded expr block rest
    match rest with
    | .keyword .elseWord :: rest => do
      let rest ← expect [.sign '\x7b'] rest
      let (other, rest) ← block rest
      let rest ← expect [.sign '\x7d'] rest
      return (.ifElse cond body other, rest)
    | rest => return (.ifThen cond body, rest)
  | .keyword .whileWord :: rest => do
    let ((cond, body), rest) ← guarded expr block rest
    return (.whileDo cond body, rest)
  | .keyword .inputWord :: rest => do
    let rest ← expect [.sign '-', .sign '>'] rest
    let (target, rest) ← expr rest
    let rest ← expect [.sign '.'] rest
    return (.read target, rest)
  | .keyword .dispWord :: rest => do
    let rest ← expect [.sign '<', .sign '-', .sign '('] rest
    let (value, rest) ← expr rest
    let rest ← expect [.sign ')', .sign '.'] rest
    return (.write value, rest)
  | .keyword .returnWord :: .sign '.' :: rest => some (.ret none, rest)
  | .keyword .returnWord :: rest => do
    let (value, rest) ← expr rest
    let rest ← expect [.sign '.'] rest
    return (.ret (some value), rest)
  | tokens => simple expr tokens

/-- Reads a declaration that begins with a type: a variable or a function. -/
def typed (bound : Nat) : TokenReader Decl := fun tokens => do
  let (type, rest) ← type tokens
  let (name, rest) ← name rest
  match rest with
  | .sign '[' :: rest => do
    let (formals, rest) ← separated formal bound ']' rest
    let rest ← expect [.sign '['] rest
    let (body, rest) ← block rest
    let rest ← expect [.sign ']'] rest
    return (.func ⟨type, name, formals, body⟩, rest)
  | rest => do
    let rest ← expect [.sign '.'] rest
    return (.var { type, name }, rest)

/-- Reads a declaration. -/
def decl (bound : Nat) : TokenReader Decl
  | .keyword .struct :: .name text :: .sign '[' :: rest => do
    let (fields, rest) ← several Token.opensDecl varDecl bound rest
    let rest ← expect [.sign ']'] rest
    return (.struct ⟨.bare text, fields⟩, rest)
  | tokens => typed block bound tokens

end

/-- Reads a block. -/
def block : Nat → TokenReader Block
  | 0, _ => none
  | bound + 1, tokens => do
    let (decls, rest) ← several Token.opensDecl (decl (block bound) bound) bound tokens
    let (stmts, rest) ← several Token.opensStmt (stmt (expression bound) (block bound)) bound rest
    return (⟨decls, stmts⟩, rest)

/-- Reads a program. -/
def program (tokens : List Token) : Option Program := do
  let bound := tokens.length
  let (decls, rest) ← several Token.opensDecl (decl (block bound) bound) bound tokens
  if rest.isEmpty then some ⟨decls⟩ else none

end TokenReader

open TokenReader

/-! ### Reading items back -/

@[simp] theorem expect_nil (rest : List Token) : expect [] rest = some rest :=
  rfl

@[simp] theorem expect_cons (token : Token) (more rest : List Token) :
    expect (token :: more) (token :: rest) = expect more rest :=
  if_pos rfl

theorem expect_other {token found : Token} (other : found ≠ token) (more rest : List Token) :
    expect (token :: more) (found :: rest) = none :=
  if_neg other

/-- No item has more tokens than all the items. -/
theorem length_item_le {α : Type} {tokens : α → List Token} {items : List α} {item : α}
    (member : item ∈ items) : (tokens item).length ≤ (items.flatMap tokens).length :=
  (List.sublist_flatten_of_mem (List.mem_map_of_mem member)).length_le

theorem length_le_commas {items : List (List Token)} {item : List Token} (member : item ∈ items) :
    item.length ≤ (commas items).length := by
  cases items with
  | nil => exact nomatch member
  | cons first others =>
    rw [commas, List.length_append]
    rcases List.mem_cons.mp member with rfl | member
    · exact Nat.le_add_right _ _
    · have behind : (Token.sign ',' :: item).length ≤ _ := length_item_le member
      exact Nat.le_add_left_of_le (Nat.le_of_succ_le behind)

/-- Whether an item has tokens and the first of them tells that there is one. -/
def OpensWith (starts : Token → Bool) (tokens : List Token) : Prop :=
  ∃ token more, tokens = token :: more ∧ starts token = true

namespace OpensWith

variable {starts : Token → Bool} {tokens : List Token} (opens : OpensWith starts tokens)

include opens

theorem append (rest : List Token) : OpensWith starts (tokens ++ rest) := by
  obtain ⟨token, more, rfl, start⟩ := opens
  exact ⟨token, more ++ rest, rfl, start⟩

theorem head? : tokens.head?.any starts = true := by
  obtain ⟨token, more, rfl, start⟩ := opens
  exact start

theorem length_pos : 0 < tokens.length := by
  obtain ⟨token, more, rfl, -⟩ := opens
  exact Nat.succ_pos _

theorem imp {others : Token → Bool} (wider : ∀ token, starts token = true → others token = true) :
    OpensWith others tokens := by
  obtain ⟨token, more, head, start⟩ := opens
  exact ⟨token, more, head, wider token start⟩

end OpensWith

/-- Items are read back one after the other, if each of them is read back in front of another one
and in front of what follows the last. -/
theorem several_flatMap {α β : Type} {starts : Token → Bool} {read : TokenReader β}
    {tokens : α → List Token} {place : α → β} {rest : List Token}
    (ends : rest.head?.any starts = false) {items : List α}
    (opens : ∀ item ∈ items, OpensWith starts (tokens item))
    (reads : ∀ item ∈ items, ∀ after : List Token,
      after.head?.any starts = true ∨ after = rest →
        read (tokens item ++ after) = some (place item, after))
    {bound : Nat} (enough : (items.flatMap tokens).length ≤ bound) :
    several starts read bound (items.flatMap tokens ++ rest) = some (items.map place, rest) := by
  induction items generalizing bound with
  | nil =>
    cases bound with
    | zero => rfl
    | succ bound =>
      rw [List.flatMap_nil, List.nil_append, several, ends]
      rfl
  | cons item others inductionHypothesis =>
    rw [List.forall_mem_cons] at opens reads
    rw [List.flatMap_cons, List.length_append] at enough
    have some := opens.1.length_pos
    have after : (others.flatMap tokens ++ rest).head?.any starts = true ∨
        others.flatMap tokens ++ rest = rest := by
      cases others with
      | nil => exact .inr rfl
      | cons next more =>
        rw [List.flatMap_cons]
        exact .inl ((opens.2 next List.mem_cons_self).append _ |>.append _).head?
    cases bound with
    | zero => omega
    | succ bound =>
      rw [List.flatMap_cons, List.append_assoc, several, (opens.1.append _).head?, if_pos rfl,
        reads.1 _ after]
      simp only [Option.bind_eq_bind, Option.bind_some,
        inductionHypothesis opens.2 reads.2 (by omega : (others.flatMap tokens).length ≤ bound)]
      rfl

/-- Items with commas between them are read back, if each of them is read back in front of a comma
and in front of the closing sign. -/
theorem separated_commas {α β : Type} {read : TokenReader β} {tokens : α → List Token}
    {place : α → β} {close : Char} (closing : close ≠ ',') {items : List α}
    (opens : ∀ item ∈ items, OpensWith (· != .sign close) (tokens item))
    (reads : ∀ item ∈ items, ∀ after : List Token,
      after.head? = some (.sign ',') ∨ after.head? = some (.sign close) →
        read (tokens item ++ after) = some (place item, after))
    {bound : Nat} (enough : (commas (items.map tokens)).length ≤ bound) (rest : List Token) :
    separated read bound close (commas (items.map tokens) ++ .sign close :: rest) =
      some (items.map place, rest) := by
  cases items with
  | nil => simp only [separated, commas, List.map_nil, List.nil_append, expect_cons, expect_nil]
  | cons first others =>
    rw [List.forall_mem_cons] at opens reads
    rw [List.map_cons, commas, List.flatMap_map, List.length_append] at enough
    have more : several (· == .sign ',') (another read) bound
        (others.flatMap (fun item => .sign ',' :: tokens item) ++ .sign close :: rest) =
          some (others.map place, .sign close :: rest) := by
      have ends : (Token.sign close :: rest).head?.any (· == .sign ',') = false := by
        simpa using closing
      refine several_flatMap ends (fun item _ => ⟨_, _, rfl, beq_self_eq_true _⟩) ?_
        (Nat.le_trans (Nat.le_add_left _ _) enough)
      intro item member after next
      rw [List.cons_append, another, expect_cons, expect_nil]
      refine reads.2 item member after (next.imp (fun comma => ?_) fun same => ?_)
      · simpa [Option.any_eq_true] using comma
      · rw [same, List.head?_cons]
    have behind : (others.flatMap (fun item => Token.sign ',' :: tokens item) ++
        .sign close :: rest).head? = some (.sign ',') ∨
        (others.flatMap (fun item => Token.sign ',' :: tokens item) ++
          .sign close :: rest).head? = some (.sign close) := by
      cases others with
      | nil => exact .inr rfl
      | cons next more => exact .inl rfl
    have first := reads.1 _ behind
    obtain ⟨token, tail, head, start⟩ := opens.1
    rw [head, List.cons_append] at first
    rw [List.map_cons, commas, List.flatMap_map, head, List.append_assoc, List.cons_append,
      separated, expect_other (by simpa using start)]
    simp only [first, more, Option.bind_eq_bind, Option.bind_some, expect_cons, expect_nil]
    rfl

end NameBinding
