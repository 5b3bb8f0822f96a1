/-
This file proves that an expression is read back from its tokens. What ends it is the token behind
it: a name goes on with a parenthesis, and every value with a colon. Parentheses hold two operands,
or one operand behind an operator, and the first token in them tells which, save for a minus. It is
an operator if the parentheses end behind the operand that follows, and else the sign of a number.
-/

import NameBinding.Proofs.SourceReader

namespace NameBinding

open TokenReader

/-! ### How expressions begin and end -/

theorem opens_tokensOfInt (value : Int) : OpensWith Token.opensExpr (tokensOfInt value) := by
  cases value with
  | ofNat n => exact ⟨_, _, rfl, rfl⟩
  | negSucc n => exact ⟨_, _, rfl, rfl⟩

theorem Expr.opens_tokens : ∀ expr : Expr, OpensWith Token.opensExpr expr.tokens
  | .intLit value _ => by
    rw [Expr.tokens]
    exact opens_tokensOfInt value.toInt
  | .access base _ _ => by
    rw [Expr.tokens]
    exact base.opens_tokens.append _
  | .truth _ _ | .id _ | .strLit _ _ | .assign _ _ | .call _ _ | .unary _ _ | .binary _ _ _ => by
    rw [Expr.tokens]
    exact ⟨_, _, rfl, rfl⟩

/-- Whether an expression in front of these tokens ends there: no call and no access goes on. -/
def endsExpr (rest : List Token) : Bool :=
  rest.head?.all fun token => token != .sign '(' && token != .sign ':'

theorem fields_of_endsExpr (base : Expr) {rest : List Token} (ends : endsExpr rest = true) :
    fields base rest = (base, rest) := by
  fun_cases fields base rest with
  | case1 => exact nomatch ends
  | case2 => rfl

/-- A minus at the beginning of an expression is the sign of a number, and without it a number
begins there. -/
theorem Expr.expression_after_minus : ∀ {expr : Expr} {more : List Token},
    expr.tokens = .sign '-' :: more → ∀ (bound : Nat) (rest : List Token),
      ∃ other, expression (bound + 1) (more ++ rest) = some (fields other rest)
  | .intLit value _, more, tokens, bound, rest => by
    rw [Expr.tokens] at tokens
    cases number : value.toInt with
    | ofNat n =>
      rw [number] at tokens
      exact nomatch tokens
    | negSucc n =>
      rw [number] at tokens
      obtain ⟨-, rfl⟩ := List.cons.inj tokens
      exact ⟨_, rfl⟩
  | .access base field _, more, tokens, bound, rest => by
    obtain ⟨token, tail, head, -⟩ := base.opens_tokens
    rw [Expr.tokens, head, List.cons_append] at tokens
    obtain ⟨rfl, rfl⟩ := List.cons.inj tokens
    obtain ⟨other, read⟩ :=
      Expr.expression_after_minus head bound (.sign ':' :: field.token :: rest)
    refine ⟨.access other (.bare field.name) none, ?_⟩
    rw [List.append_assoc]
    exact read
  | .truth _ _, _, tokens, _, _ | .id _, _, tokens, _, _ | .strLit _ _, _, tokens, _, _
  | .assign _ _, _, tokens, _, _ | .call _ _, _, tokens, _, _ | .unary _ _, _, tokens, _, _
  | .binary _ _ _, _, tokens, _, _ => by
    rw [Expr.tokens] at tokens
    exact nomatch tokens

/-- What stands in parentheses and begins with an operand is two operands and an operator, unless
the parentheses end behind the first one. -/
theorem Expr.operation_tokens (expr : Expr) (bound : Nat) {rest : List Token}
    (ends : endsExpr rest = true) (goesOn : rest.head? ≠ some (.sign ')')) :
    operation (expression (bound + 1)) (expr.tokens ++ rest) =
      pair (expression (bound + 1)) (expr.tokens ++ rest) := by
  obtain ⟨token, more, head, opens⟩ := expr.opens_tokens
  rw [head, List.cons_append, operation.eq_def]
  split
  case h_1 start =>
    obtain ⟨rfl, -⟩ := List.cons.inj start
    exact nomatch opens
  case h_2 start =>
    -- The first operand is a negative number. It is read without its sign, but not up to the end.
    obtain ⟨rfl, rfl⟩ := List.cons.inj start
    obtain ⟨other, read⟩ := expr.expression_after_minus head bound rest
    rw [read, fields_of_endsExpr other ends]
    split
    case h_1 same =>
      cases same
      exact absurd rfl goesOn
    case h_2 => rfl
  case h_3 => rfl

/-- Tokens between two operands: the first operand ends in front of them, and an operator is read
from them in front of the second one. -/
structure IsOperator (sign : List Token) (combine : Expr → Expr → Expr) : Prop where
  ends : ∀ after, endsExpr (sign ++ after) = true
  goesOn : ∀ after, (sign ++ after).head? ≠ some (.sign ')')
  read : ∀ {tokens : List Token}, OpensWith Token.opensExpr tokens →
    operator (sign ++ tokens) = some (combine, tokens)

theorem isOperator_assign : IsOperator [.sign '='] .assign where
  ends _ := rfl
  goesOn _ := nofun
  read := by
    rintro _ ⟨token, more, rfl, start⟩
    rw [List.singleton_append, operator]
    rintro _ ⟨⟩
    exact nomatch start

theorem BinaryOp.isOperator (op : BinaryOp) : IsOperator (signs op.sign) (.binary op) where
  ends _ := by cases op <;> rfl
  goesOn _ := by cases op <;> exact nofun
  read := by
    rintro _ ⟨token, more, rfl, start⟩
    cases op
    -- A sign of equality behind these two would make another operator of them.
    case lt =>
      show operator (.sign '<' :: token :: more) = _
      rw [operator]
      rintro _ ⟨⟩
      exact nomatch start
    case gt =>
      show operator (.sign '>' :: token :: more) = _
      rw [operator]
      rintro _ ⟨⟩
      exact nomatch start
    all_goals rfl

/-! ### Expressions -/

theorem Ident.relabeled_nowhere {ident : Ident} (parsed : ident.isAsParsed = true) :
    ident.relabeled .nowhere = .bare ident.name := by
  rw [Ident.isAsParsed, Bool.and_eq_true, Option.isNone_iff_eq_none] at parsed
  rw [Ident.relabeled, parsed.1]
  rfl

namespace Expr

/-- An expression is read back from its tokens, with the fields behind it. -/
def IsReadable (expr : Expr) : Prop :=
  ∀ bound : Nat, expr.tokens.length ≤ bound → ∀ rest : List Token,
    rest.head? ≠ some (.sign '(') →
      expression bound (expr.tokens ++ rest) = some (fields (expr.relabeled .nowhere) rest)

/-- Where an expression ends, it is read back as it is. -/
theorem IsReadable.read {expr : Expr} (readable : expr.IsReadable) {bound : Nat}
    (enough : expr.tokens.length ≤ bound) {rest : List Token} (ends : endsExpr rest = true) :
    expression bound (expr.tokens ++ rest) = some (expr.relabeled .nowhere, rest) := by
  have noCall : rest.head? ≠ some (.sign '(') := by
    intro head
    rw [endsExpr, head] at ends
    exact nomatch ends
  rw [readable bound enough rest noCall, fields_of_endsExpr _ ends]

/-- It is enough to read a value without the fields behind it. -/
theorem IsReadable.of_value {expr : Expr}
    (read : ∀ bound : Nat, expr.tokens.length ≤ bound + 1 → ∀ rest : List Token,
      rest.head? ≠ some (.sign '(') →
        value (expression bound) bound (expr.tokens ++ rest) =
          some (expr.relabeled .nowhere, rest)) : expr.IsReadable := by
  intro bound enough rest noCall
  cases bound with
  | zero => exact absurd expr.opens_tokens.length_pos (Nat.not_lt.mpr enough)
  | succ bound =>
    rw [expression, read bound enough rest noCall]
    rfl

theorem tokensOfArgs_eq_map (args : List Expr) : tokensOfArgs args = args.map tokens := by
  induction args with
  | nil => rfl
  | cons expr rest inductionHypothesis => rw [tokensOfArgs, List.map_cons, inductionHypothesis]

theorem relabeledList_eq_map (change : Relabeling) (args : List Expr) :
    relabeledList change args = args.map (relabeled change) := by
  induction args with
  | nil => rfl
  | cons expr rest inductionHypothesis => rw [relabeledList, List.map_cons, inductionHypothesis]

end Expr

/-- Arguments are read back in front of the parenthesis that closes them. -/
theorem separated_args {args : List Expr} (readable : ∀ expr ∈ args, expr.IsReadable)
    {bound : Nat} (enough : (commas (Expr.tokensOfArgs args)).length ≤ bound)
    (rest : List Token) :
    separated (expression bound) bound ')' (commas (Expr.tokensOfArgs args) ++ .sign ')' :: rest) =
      some (Expr.relabeledList .nowhere args, rest) := by
  rw [Expr.tokensOfArgs_eq_map] at enough ⊢
  rw [Expr.relabeledList_eq_map]
  refine separated_commas (by decide) (fun expr _ => ?_) (fun expr member after next => ?_)
    enough rest
  · obtain ⟨token, more, head, opens⟩ := expr.opens_tokens
    refine ⟨token, more, head, bne_iff_ne.mpr ?_⟩
    rintro rfl
    exact nomatch opens
  · refine (readable expr member).read ?_ ?_
    · exact Nat.le_trans (length_le_commas (List.mem_map_of_mem member)) enough
    · rcases next with head | head <;> rw [endsExpr, head] <;> rfl

/-- Two operands in parentheses are read back with the operator between them. -/
theorem Expr.value_pair {lhs rhs : Expr} (first : lhs.IsReadable) (second : rhs.IsReadable)
    {sign : List Token} {combine : Expr → Expr → Expr} (between : IsOperator sign combine)
    {bound : Nat} (enough : lhs.tokens.length ≤ bound) (enoughMore : rhs.tokens.length ≤ bound)
    (rest : List Token) :
    value (expression bound) bound
        (.sign '(' :: (lhs.tokens ++ (sign ++ (rhs.tokens ++ .sign ')' :: rest)))) =
      some (combine (lhs.relabeled .nowhere) (rhs.relabeled .nowhere), rest) := by
  cases bound with
  | zero => exact absurd lhs.opens_tokens.length_pos (Nat.not_lt.mpr enough)
  | succ bound =>
    have operands : pair (expression (bound + 1))
        (lhs.tokens ++ (sign ++ (rhs.tokens ++ .sign ')' :: rest))) =
          some (combine (lhs.relabeled .nowhere) (rhs.relabeled .nowhere), .sign ')' :: rest) := by
      rw [pair, first.read enough (between.ends _)]
      simp only [Option.bind_eq_bind, Option.bind_some, between.read (rhs.opens_tokens.append _)]
      rw [second.read enoughMore rfl]
      rfl
    rw [value, lhs.operation_tokens bound (between.ends _) (between.goesOn _), operands]
    simp only [Option.bind_eq_bind, Option.bind_some, expect_cons, expect_nil]
    rfl

/-- An operand in parentheses is read back with the operator before it. -/
theorem Expr.value_unary {operand : Expr} (readable : operand.IsReadable) (op : UnaryOp)
    {bound : Nat} (enough : operand.tokens.length ≤ bound) (rest : List Token) :
    value (expression bound) bound
        (.sign '(' :: (signs op.sign ++ (operand.tokens ++ .sign ')' :: rest))) =
      some (.unary op (operand.relabeled .nowhere), rest) := by
  have inner : operation (expression bound)
      (signs op.sign ++ (operand.tokens ++ .sign ')' :: rest)) =
        some (.unary op (operand.relabeled .nowhere), .sign ')' :: rest) := by
    have read : expression bound (operand.tokens ++ .sign ')' :: rest) = _ :=
      readable.read enough rfl
    cases op with
    | not =>
      show operation (expression bound) (.sign '^' :: (operand.tokens ++ .sign ')' :: rest)) = _
      rw [operation, read]
      rfl
    | neg =>
      show operation (expression bound) (.sign '-' :: (operand.tokens ++ .sign ')' :: rest)) = _
      rw [operation, read]
      rfl
  rw [value, inner]
  simp only [Option.bind_eq_bind, Option.bind_some, expect_cons, expect_nil]
  rfl

/-- A number is read back whatever its sign is, and fits its machine word. -/
theorem Expr.isReadable_intLit (number : Int32) (pos : Position) :
    (Expr.intLit number pos).IsReadable := by
  refine .of_value fun bound _ rest _ => ?_
  have same : Int32.ofInt number.toInt = number := Int32.ofInt_toInt number
  rw [Expr.tokens, Expr.relabeled]
  cases value : number.toInt with
  | ofNat n =>
    rw [value] at same
    rw [← same]
    rfl
  | negSucc n =>
    rw [value] at same
    rw [← same]
    rfl

mutual

/-- Every expression is read back as it was parsed. The base of an access is read with the field
behind it, so the fields of an access come to it one by one. -/
theorem Expr.isReadable : ∀ {expr : Expr}, expr.isAsParsed = true → expr.IsReadable
  | .truth _ _, _ => .of_value fun _ _ _ _ => rfl
  | .id ident, parsed => .of_value fun bound _ rest noCall => by
    rw [Expr.isAsParsed] at parsed
    rw [Expr.tokens, Expr.relabeled, ident.relabeled_nowhere parsed, List.singleton_append,
      Ident.token]
    -- Only a parenthesis behind the name would make it a call.
    rw [TokenReader.value]
    rintro rest rfl
    exact noCall rfl
  | .intLit number pos, _ => Expr.isReadable_intLit number pos
  | .strLit _ _, _ => .of_value fun _ _ _ _ => rfl
  | .access base field _, parsed => by
    simp only [Expr.isAsParsed, Bool.and_eq_true, Option.isNone_iff_eq_none] at parsed
    obtain ⟨⟨inner, own⟩, rfl⟩ := parsed
    intro bound enough rest _
    rw [Expr.tokens, List.length_append] at enough
    rw [Expr.tokens, Expr.relabeled, field.relabeled_nowhere own, List.append_assoc,
      Expr.isReadable inner bound (Nat.le_trans (Nat.le_add_right _ _) enough) _ (by simp)]
    rfl
  | .assign lhs rhs, parsed => .of_value fun bound enough rest _ => by
    rw [Expr.isAsParsed, Bool.and_eq_true] at parsed
    simp only [Expr.tokens, List.length_cons, List.length_append] at enough
    simp only [Expr.tokens, Expr.relabeled, List.cons_append, List.append_assoc, List.nil_append]
    exact Expr.value_pair (Expr.isReadable parsed.1) (Expr.isReadable parsed.2) isOperator_assign
      (by omega) (by omega) rest
  | .call callee args, parsed => .of_value fun bound enough rest _ => by
    rw [Expr.isAsParsed, Bool.and_eq_true] at parsed
    simp only [Expr.tokens, List.length_cons, List.length_append] at enough
    have few : (commas (Expr.tokensOfArgs args)).length ≤ bound := by omega
    have read := separated_args (Expr.areReadable parsed.2) few rest
    simp only [Expr.tokens, Expr.relabeled, callee.relabeled_nowhere parsed.1, Ident.token,
      List.cons_append, List.append_assoc, List.nil_append, value, read]
    rfl
  | .unary op operand, parsed => .of_value fun bound enough rest _ => by
    rw [Expr.isAsParsed] at parsed
    simp only [Expr.tokens, List.length_cons, List.length_append] at enough
    simp only [Expr.tokens, Expr.relabeled, List.cons_append, List.append_assoc, List.nil_append]
    exact Expr.value_unary (Expr.isReadable parsed) op (by omega) rest
  | .binary op lhs rhs, parsed => .of_value fun bound enough rest _ => by
    rw [Expr.isAsParsed, Bool.and_eq_true] at parsed
    simp only [Expr.tokens, List.length_cons, List.length_append] at enough
    simp only [Expr.tokens, Expr.relabeled, List.cons_append, List.append_assoc, List.nil_append]
    exact Expr.value_pair (Expr.isReadable parsed.1) (Expr.isReadable parsed.2) op.isOperator
      (by omega) (by omega) rest

theorem Expr.areReadable : ∀ {args : List Expr}, Expr.areAsParsed args = true →
    ∀ expr ∈ args, expr.IsReadable
  | [], _ => nofun
  | expr :: rest, parsed => by
    rw [Expr.areAsParsed, Bool.and_eq_true] at parsed
    exact List.forall_mem_cons.mpr ⟨Expr.isReadable parsed.1, Expr.areReadable parsed.2⟩

end

end NameBinding
