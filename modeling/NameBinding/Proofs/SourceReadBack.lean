/-
This file proves that source text shows the whole tree but its places. A program that nothing is
bound in is read back from its tokens, and these are the tokens of its source text, so two programs
with the same text are the same apart from their positions and sizes. The proof goes through the
tree: each part is read back in front of whatever can stand behind it. Declarations end where no
type begins and statements where none begins, and a branch is the only one if the word for another
does not follow.
-/

import NameBinding.Proofs.ExpressionReadBack

namespace NameBinding

open TokenReader

/-! ### Declarations -/

theorem TypeName.opens_tokens (type : TypeName) : OpensWith Token.opensDecl type.tokens := by
  cases type <;> exact ⟨_, _, rfl, rfl⟩

theorem TypeName.type_tokens {type : TypeName} (parsed : type.isAsParsed = true)
    (rest : List Token) :
    TokenReader.type (type.tokens ++ rest) = some (type.relabeled .nowhere, rest) := by
  cases type with
  | struct name =>
    rw [TypeName.isAsParsed] at parsed
    rw [TypeName.relabeled, name.relabeled_nowhere parsed]
    rfl
  | _ => rfl

theorem VarDecl.varDecl_tokens {decl : VarDecl} (parsed : decl.isAsParsed = true)
    (rest : List Token) :
    varDecl (decl.tokens ++ rest) = some (decl.placeless, rest) := by
  rw [VarDecl.isAsParsed, Bool.and_eq_true] at parsed
  rw [VarDecl.tokens, VarDecl.placeless, VarDecl.relabeled, List.append_assoc, varDecl,
    decl.type.type_tokens parsed.1, decl.name.relabeled_nowhere parsed.2]
  rfl

theorem Formal.formal_tokens {formal : Formal} (parsed : formal.isAsParsed = true)
    (rest : List Token) :
    TokenReader.formal (formal.tokens ++ rest) = some (formal.relabeled .nowhere, rest) := by
  rw [Formal.isAsParsed, Bool.and_eq_true] at parsed
  rw [Formal.tokens, Formal.relabeled, List.append_assoc, TokenReader.formal,
    formal.type.type_tokens parsed.1, formal.name.relabeled_nowhere parsed.2]
  rfl

/-- Parameters are read back in front of the bracket that closes them. -/
theorem separated_formals {formals : List Formal} (parsed : formals.all Formal.isAsParsed = true)
    {bound : Nat} (enough : (commas (formals.map Formal.tokens)).length ≤ bound)
    (rest : List Token) :
    separated formal bound ']' (commas (formals.map Formal.tokens) ++ .sign ']' :: rest) =
      some (formals.map (Formal.relabeled .nowhere), rest) := by
  rw [List.all_eq_true] at parsed
  refine separated_commas (by decide) (fun formal _ => ?_)
    (fun formal member after _ => formal.formal_tokens (parsed formal member) after) enough rest
  obtain ⟨token, more, head, opens⟩ := formal.type.opens_tokens.append [formal.name.token]
  refine ⟨token, more, head, bne_iff_ne.mpr ?_⟩
  rintro rfl
  exact nomatch opens

/-- The fields of a struct are read back in front of a closing bracket. -/
theorem several_fields {fields : List VarDecl} (parsed : fields.all VarDecl.isAsParsed = true)
    {bound : Nat} (enough : (fields.flatMap VarDecl.tokens).length ≤ bound) (rest : List Token) :
    several Token.opensDecl varDecl bound (fields.flatMap VarDecl.tokens ++ .sign ']' :: rest) =
      some (fields.map VarDecl.placeless, .sign ']' :: rest) := by
  rw [List.all_eq_true] at parsed
  exact several_flatMap rfl (fun decl _ => decl.type.opens_tokens.append _)
    (fun decl member after _ => decl.varDecl_tokens (parsed decl member) after) enough

/-! ### Statements -/

theorem Token.opensStmt_of_opensExpr (token : Token) (opens : token.opensExpr = true) :
    token.opensStmt = true := by
  cases token with
  | keyword word => cases word <;> first | rfl | exact nomatch opens
  | _ => exact opens

theorem Stmt.opens_tokens (stmt : Stmt) : OpensWith Token.opensStmt stmt.tokens := by
  have simple (expr : Expr) (rest : List Token) : OpensWith Token.opensStmt (expr.tokens ++ rest) :=
    (expr.opens_tokens.append rest).imp Token.opensStmt_of_opensExpr
  cases stmt with
  | assign lhs rhs =>
    rw [Stmt.tokens]
    exact simple lhs _
  | postInc target =>
    rw [Stmt.tokens]
    exact simple target _
  | postDec target =>
    rw [Stmt.tokens]
    exact simple target _
  | ret value => cases value <;> exact ⟨_, _, by rw [Stmt.tokens], rfl⟩
  | _ => exact ⟨_, _, by rw [Stmt.tokens], rfl⟩

theorem Decl.opens_tokens (decl : Decl) : OpensWith Token.opensDecl decl.tokens := by
  cases decl with
  | var decl =>
    rw [Decl.tokens]
    exact decl.type.opens_tokens.append _
  | func decl =>
    obtain ⟨ret, name, formals, body⟩ := decl
    rw [Decl.tokens, Function.tokens]
    exact ret.opens_tokens.append _
  | struct decl => exact ⟨_, _, by rw [Decl.tokens, StructDecl.tokens], rfl⟩

/-- A block is read back from its tokens in front of the bracket or the brace that closes it. -/
def Block.IsReadable (block : Block) : Prop :=
  ∀ bound : Nat, block.tokens.length < bound → ∀ sign rest, sign = ']' ∨ sign = '\x7d' →
    TokenReader.block bound (block.tokens ++ .sign sign :: rest) =
      some (block.placeless, .sign sign :: rest)

/-- A statement is read back from its tokens if no other branch follows. -/
def Stmt.IsReadable (stmt : Stmt) : Prop :=
  ∀ bound : Nat, stmt.tokens.length ≤ bound → ∀ rest : List Token,
    rest.head? ≠ some (.keyword .elseWord) →
      TokenReader.stmt (expression bound) (TokenReader.block bound) (stmt.tokens ++ rest) =
        some (stmt.placeless, rest)

/-- A declaration is read back from its tokens. -/
def Decl.IsReadable (decl : Decl) : Prop :=
  ∀ bound : Nat, decl.tokens.length ≤ bound → ∀ rest : List Token,
    TokenReader.decl (TokenReader.block bound) bound (decl.tokens ++ rest) =
      some (decl.placeless, rest)

/-- A condition and its block are read back. -/
theorem guarded_tokens {cond : Expr} {body : Block} (condition : cond.IsReadable)
    (inner : body.IsReadable) {bound : Nat} (enough : cond.tokens.length ≤ bound)
    (enoughMore : body.tokens.length < bound) (rest : List Token) :
    guarded (expression bound) (block bound)
        (.sign '(' :: (cond.tokens ++ .sign ')' :: .sign '\x7b' ::
          (body.tokens ++ .sign '\x7d' :: rest))) =
      some ((cond.relabeled .nowhere, body.placeless), rest) := by
  rw [guarded, expect_cons, expect_nil]
  simp only [Option.bind_eq_bind, Option.bind_some]
  rw [condition.read enough rfl]
  simp only [Option.bind_some, expect_cons, expect_nil]
  rw [inner bound enoughMore '\x7d' rest (.inr rfl)]
  simp only [Option.bind_some, expect_cons, expect_nil]
  rfl

/-- What begins like an expression is an assignment, a step or a call. -/
theorem stmt_of_opensExpr (expr : TokenReader Expr) (block : TokenReader Block)
    {tokens : List Token} (opens : OpensWith Token.opensExpr tokens) :
    stmt expr block tokens = simple expr tokens := by
  obtain ⟨token, more, rfl, start⟩ := opens
  cases token with
  | keyword word => cases word <;> first | rfl | exact nomatch start
  | _ => rfl

/-- What begins with a type and a name is a variable or a function. -/
theorem decl_of_type (block : TokenReader Block) (bound : Nat) (type : TypeName) (name : Ident)
    (rest : List Token) :
    decl block bound (type.tokens ++ name.token :: rest) =
      typed block bound (type.tokens ++ name.token :: rest) := by
  cases type <;> rfl

theorem Token.not_opensDecl_of_opensStmt {token : Token} (opens : token.opensStmt = true) :
    token.opensDecl = false := by
  cases token with
  | keyword word => cases word <;> first | rfl | exact nomatch opens
  | _ => rfl

theorem Decl.tokensOfList_eq_flatMap (decls : List Decl) :
    Decl.tokensOfList decls = decls.flatMap Decl.tokens := by
  induction decls with
  | nil => rw [Decl.tokensOfList, List.flatMap_nil]
  | cons decl rest inductionHypothesis =>
    rw [Decl.tokensOfList, List.flatMap_cons, inductionHypothesis]

theorem Decl.placelessList_eq_map (decls : List Decl) :
    Decl.placelessList decls = decls.map Decl.placeless := by
  induction decls with
  | nil => rw [Decl.placelessList, List.map_nil]
  | cons decl rest inductionHypothesis =>
    rw [Decl.placelessList, List.map_cons, inductionHypothesis]

theorem Stmt.tokensOfList_eq_flatMap (stmts : List Stmt) :
    Stmt.tokensOfList stmts = stmts.flatMap Stmt.tokens := by
  induction stmts with
  | nil => rw [Stmt.tokensOfList, List.flatMap_nil]
  | cons stmt rest inductionHypothesis =>
    rw [Stmt.tokensOfList, List.flatMap_cons, inductionHypothesis]

theorem Stmt.placelessList_eq_map (stmts : List Stmt) :
    Stmt.placelessList stmts = stmts.map Stmt.placeless := by
  induction stmts with
  | nil => rw [Stmt.placelessList, List.map_nil]
  | cons stmt rest inductionHypothesis =>
    rw [Stmt.placelessList, List.map_cons, inductionHypothesis]

/-- Declarations are read back in front of anything that is none. -/
theorem several_decls {decls : List Decl} (readable : ∀ decl ∈ decls, decl.IsReadable)
    {bound : Nat} (enough : (Decl.tokensOfList decls).length ≤ bound) {rest : List Token}
    (ends : rest.head?.any Token.opensDecl = false) :
    several Token.opensDecl (decl (block bound) bound) bound
        (Decl.tokensOfList decls ++ rest) =
      some (Decl.placelessList decls, rest) := by
  rw [Decl.tokensOfList_eq_flatMap] at enough ⊢
  rw [Decl.placelessList_eq_map]
  exact several_flatMap ends (fun decl _ => decl.opens_tokens)
    (fun decl member after _ => readable decl member bound
      (Nat.le_trans (length_item_le member) enough) after) enough

/-- Statements are read back in front of what closes their block. -/
theorem several_stmts {stmts : List Stmt} (readable : ∀ stmt ∈ stmts, stmt.IsReadable)
    {bound : Nat} (enough : (Stmt.tokensOfList stmts).length ≤ bound) {sign : Char}
    (closing : sign = ']' ∨ sign = '\x7d') (rest : List Token) :
    several Token.opensStmt (stmt (expression bound) (block bound)) bound
        (Stmt.tokensOfList stmts ++ .sign sign :: rest) =
      some (Stmt.placelessList stmts, .sign sign :: rest) := by
  rw [Stmt.tokensOfList_eq_flatMap] at enough ⊢
  rw [Stmt.placelessList_eq_map]
  refine several_flatMap ?_ (fun stmt _ => stmt.opens_tokens) (fun stmt member after next =>
    readable stmt member bound (Nat.le_trans (length_item_le member) enough) after ?_) enough
  · rcases closing with rfl | rfl <;> rfl
  · -- Neither another statement nor the end of the block is a second branch.
    rintro branch
    rcases next with next | rfl
    · rw [branch] at next
      exact nomatch next
    · exact nomatch branch

/-- What follows the declarations of a block is none. -/
theorem ends_decls (stmts : List Stmt) (sign : Char) (rest : List Token) :
    (Stmt.tokensOfList stmts ++ .sign sign :: rest).head?.any Token.opensDecl = false := by
  cases stmts with
  | nil =>
    rw [Stmt.tokensOfList, List.nil_append]
    rfl
  | cons stmt more =>
    obtain ⟨token, tail, head, start⟩ := stmt.opens_tokens
    rw [Stmt.tokensOfList, head]
    exact Token.not_opensDecl_of_opensStmt start

mutual

/-- Every block is read back as it was parsed. The bound of what is inside is one less. -/
theorem Block.isReadable : ∀ {block : Block}, block.isAsParsed = true → block.IsReadable
  | ⟨decls, stmts⟩, parsed => by
    rw [Block.isAsParsed, Bool.and_eq_true] at parsed
    intro bound enough sign rest closing
    rw [Block.tokens, List.length_append] at enough
    cases bound with
    | zero => exact absurd enough (Nat.not_lt_zero _)
    | succ bound =>
      rw [Block.tokens, Block.placeless, List.append_assoc, TokenReader.block,
        several_decls (Decl.areReadable parsed.1) (by omega) (ends_decls stmts sign rest)]
      simp only [Option.bind_eq_bind, Option.bind_some]
      rw [several_stmts (Stmt.areReadable parsed.2) (by omega) closing]
      rfl

/-- Every statement is read back as it was parsed. -/
theorem Stmt.isReadable : ∀ {stmt : Stmt}, stmt.isAsParsed = true → stmt.IsReadable
  | .assign lhs rhs, parsed => by
    rw [Stmt.isAsParsed, Bool.and_eq_true] at parsed
    intro bound enough rest _
    simp only [Stmt.tokens, List.length_cons, List.length_append] at enough
    simp only [Stmt.tokens, Stmt.placeless, List.cons_append, List.append_assoc, List.nil_append]
    rw [stmt_of_opensExpr _ _ (lhs.opens_tokens.append _), simple,
      (Expr.isReadable parsed.1).read (by omega) rfl]
    simp only [Option.bind_eq_bind, Option.bind_some]
    rw [(Expr.isReadable parsed.2).read (by omega) rfl]
    simp only [Option.bind_some, expect_cons, expect_nil]
    rfl
  | .postInc target, parsed => by
    rw [Stmt.isAsParsed] at parsed
    intro bound enough rest _
    rw [Stmt.tokens, List.length_append] at enough
    rw [Stmt.tokens, Stmt.placeless, List.append_assoc,
      stmt_of_opensExpr _ _ (target.opens_tokens.append _), simple,
      (Expr.isReadable parsed).read (by omega) rfl]
    rfl
  | .postDec target, parsed => by
    rw [Stmt.isAsParsed] at parsed
    intro bound enough rest _
    rw [Stmt.tokens, List.length_append] at enough
    rw [Stmt.tokens, Stmt.placeless, List.append_assoc,
      stmt_of_opensExpr _ _ (target.opens_tokens.append _), simple,
      (Expr.isReadable parsed).read (by omega) rfl]
    rfl
  | .ifThen cond body, parsed => by
    rw [Stmt.isAsParsed, Bool.and_eq_true] at parsed
    intro bound enough rest noElse
    simp only [Stmt.tokens, List.length_cons, List.length_append] at enough
    simp only [Stmt.tokens, Stmt.placeless, List.cons_append, List.append_assoc, List.nil_append]
    rw [stmt, guarded_tokens (Expr.isReadable parsed.1) (Block.isReadable parsed.2)
      (by omega) (by omega)]
    simp only [Option.bind_eq_bind, Option.bind_some]
    split
    · exact absurd rfl noElse
    · rfl
  | .ifElse cond thenBranch elseBranch, parsed => by
    simp only [Stmt.isAsParsed, Bool.and_eq_true] at parsed
    obtain ⟨⟨condition, first⟩, second⟩ := parsed
    intro bound enough rest _
    simp only [Stmt.tokens, List.length_cons, List.length_append] at enough
    simp only [Stmt.tokens, Stmt.placeless, List.cons_append, List.append_assoc, List.nil_append]
    rw [stmt, guarded_tokens (Expr.isReadable condition) (Block.isReadable first)
      (by omega) (by omega)]
    simp only [Option.bind_eq_bind, Option.bind_some, expect_cons, expect_nil]
    rw [Block.isReadable second bound (by omega) '\x7d' rest (.inr rfl)]
    simp only [Option.bind_some, expect_cons, expect_nil]
    rfl
  | .whileDo cond body, parsed => by
    rw [Stmt.isAsParsed, Bool.and_eq_true] at parsed
    intro bound enough rest _
    simp only [Stmt.tokens, List.length_cons, List.length_append] at enough
    simp only [Stmt.tokens, Stmt.placeless, List.cons_append, List.append_assoc, List.nil_append]
    rw [stmt, guarded_tokens (Expr.isReadable parsed.1) (Block.isReadable parsed.2)
      (by omega) (by omega)]
    rfl
  | .read target, parsed => by
    rw [Stmt.isAsParsed] at parsed
    intro bound enough rest _
    simp only [Stmt.tokens, List.length_cons, List.length_append] at enough
    simp only [Stmt.tokens, Stmt.placeless, List.cons_append, List.append_assoc, List.nil_append]
    rw [stmt, expect_cons, expect_cons, expect_nil]
    simp only [Option.bind_eq_bind, Option.bind_some]
    rw [(Expr.isReadable parsed).read (by omega) rfl]
    simp only [Option.bind_some, expect_cons, expect_nil]
    rfl
  | .write value, parsed => by
    rw [Stmt.isAsParsed] at parsed
    intro bound enough rest _
    simp only [Stmt.tokens, List.length_cons, List.length_append] at enough
    simp only [Stmt.tokens, Stmt.placeless, List.cons_append, List.append_assoc, List.nil_append]
    rw [stmt, expect_cons, expect_cons, expect_cons, expect_nil]
    simp only [Option.bind_eq_bind, Option.bind_some]
    rw [(Expr.isReadable parsed).read (by omega) rfl]
    simp only [Option.bind_some, expect_cons, expect_nil]
    rfl
  | .call callee args, parsed => by
    have inner : (Expr.call callee args).isAsParsed = true := by
      rw [Stmt.isAsParsed] at parsed
      rwa [Expr.isAsParsed]
    intro bound enough rest _
    -- As a statement, a call is the expression with a point behind it.
    have tokens :
        (Stmt.call callee args).tokens = (Expr.call callee args).tokens ++ [.sign '.'] := by
      simp only [Stmt.tokens, Expr.tokens, List.cons_append, List.append_assoc, List.nil_append]
    rw [tokens, List.length_append] at enough
    rw [tokens, Stmt.placeless, List.append_assoc,
      stmt_of_opensExpr _ _ ((Expr.call callee args).opens_tokens.append _), simple,
      (Expr.isReadable inner).read (by omega) rfl, Expr.relabeled]
    rfl
  | .ret none, _ => by
    intro bound _ rest _
    rw [Stmt.tokens, Stmt.placeless]
    rfl
  | .ret (some value), parsed => by
    rw [Stmt.isAsParsed] at parsed
    intro bound enough rest _
    simp only [Stmt.tokens, List.length_cons, List.length_append] at enough
    have read : expression bound (value.tokens ++ .sign '.' :: rest) = _ :=
      (Expr.isReadable parsed).read (by omega) rfl
    -- A value begins with no point, so this is not the statement without one.
    obtain ⟨token, more, head, start⟩ := value.opens_tokens
    simp only [Stmt.tokens, Stmt.placeless, List.cons_append, List.append_assoc, List.nil_append]
    rw [head, List.cons_append] at read ⊢
    rw [stmt, read]
    · rfl
    · rintro _ ⟨⟩
      exact nomatch start

theorem Stmt.areReadable : ∀ {stmts : List Stmt}, Stmt.areAsParsed stmts = true →
    ∀ stmt ∈ stmts, stmt.IsReadable
  | [], _ => nofun
  | stmt :: rest, parsed => by
    rw [Stmt.areAsParsed, Bool.and_eq_true] at parsed
    exact List.forall_mem_cons.mpr ⟨Stmt.isReadable parsed.1, Stmt.areReadable parsed.2⟩

theorem Function.isReadable : ∀ {decl : Function}, decl.isAsParsed = true →
    (Decl.func decl).IsReadable
  | ⟨ret, name, formals, body⟩, parsed => by
    simp only [Function.isAsParsed, Bool.and_eq_true] at parsed
    obtain ⟨⟨⟨result, own⟩, parameters⟩, inner⟩ := parsed
    intro bound enough rest
    simp only [Decl.tokens, Function.tokens, List.length_cons, List.length_append] at enough
    simp only [Decl.tokens, Function.tokens, Decl.placeless, Function.placeless, List.cons_append,
      List.append_assoc, List.nil_append]
    rw [decl_of_type, typed, ret.type_tokens result, name.relabeled_nowhere own, Ident.token]
    simp only [Option.bind_eq_bind, Option.bind_some, TokenReader.name]
    rw [separated_formals parameters (by omega)]
    simp only [Option.bind_some, expect_cons, expect_nil]
    rw [Block.isReadable inner bound (by omega) ']' rest (.inl rfl)]
    simp only [Option.bind_some, expect_cons, expect_nil]
    rfl

/-- Every declaration is read back as it was parsed. -/
theorem Decl.isReadable : ∀ {decl : Decl}, decl.isAsParsed = true → decl.IsReadable
  | .var decl, parsed => by
    rw [Decl.isAsParsed, VarDecl.isAsParsed, Bool.and_eq_true] at parsed
    intro bound _ rest
    simp only [Decl.tokens, VarDecl.tokens, Decl.placeless, VarDecl.placeless, VarDecl.relabeled,
      List.cons_append, List.append_assoc, List.nil_append]
    rw [decl_of_type, typed, decl.type.type_tokens parsed.1, decl.name.relabeled_nowhere parsed.2]
    rfl
  | .func decl, parsed => by
    rw [Decl.isAsParsed] at parsed
    exact Function.isReadable parsed
  | .struct decl, parsed => by
    rw [Decl.isAsParsed, StructDecl.isAsParsed, Bool.and_eq_true] at parsed
    intro bound enough rest
    simp only [Decl.tokens, StructDecl.tokens, List.length_cons, List.length_append] at enough
    simp only [Decl.tokens, StructDecl.tokens, Decl.placeless, StructDecl.placeless, Ident.token,
      decl.name.relabeled_nowhere parsed.1, List.cons_append, List.append_assoc, List.nil_append]
    rw [TokenReader.decl, several_fields parsed.2 (by omega)]
    simp only [Option.bind_eq_bind, Option.bind_some, expect_cons, expect_nil]
    rfl

theorem Decl.areReadable : ∀ {decls : List Decl}, Decl.areAsParsed decls = true →
    ∀ decl ∈ decls, decl.IsReadable
  | [], _ => nofun
  | decl :: rest, parsed => by
    rw [Decl.areAsParsed, Bool.and_eq_true] at parsed
    exact List.forall_mem_cons.mpr ⟨Decl.isReadable parsed.1, Decl.areReadable parsed.2⟩

end

/-! ### Programs -/

namespace Program

theorem program_tokens {program : Program} (parsed : program.isAsParsed = true) :
    TokenReader.program program.tokens = some program.placeless := by
  have read : several Token.opensDecl _ _ (Decl.tokensOfList program.decls ++ []) = _ :=
    several_decls (Decl.areReadable parsed) (Nat.le_refl _) rfl
  rw [List.append_nil] at read
  rw [TokenReader.program, Program.tokens, read]
  rfl

/-- The program that a source text shows. -/
def ofSource (text : String) : Option Program :=
  TokenReader.program (lex text.toList)

/-- A program is read back from its source text, without its places. -/
theorem ofSource_source (unit : Nat) {program : Program} (parsed : program.isAsParsed = true) :
    ofSource (program.source unit) = some program.placeless := by
  rw [ofSource, program.lex_source unit parsed, program_tokens parsed]

/-- Two programs with the same source text are the same apart from positions and sizes. -/
theorem placeless_eq_of_source_eq (unit : Nat) (first second : Program)
    (firstParsed : first.isAsParsed = true) (secondParsed : second.isAsParsed = true)
    (same : first.source unit = second.source unit) : first.placeless = second.placeless := by
  have read : some first.placeless = some second.placeless := by
    rw [← ofSource_source unit firstParsed, same, ofSource_source unit secondParsed]
  exact Option.some.inj read

end Program

/-- A program with a negative number beside a minus, a call without arguments and an empty branch,
all at one position. -/
def minusSigns (pos : Position) (size : Option UInt32) : Program where
  decls := [
    .var { type := .integer, name := { name := "x", pos }, size },
    .func ⟨.void, { name := "main", pos }, [{ type := .boolean, name := { name := "b", pos } }],
      ⟨[.var { type := .integer, name := { name := "y", pos }, size }],
        [.assign (.id { name := "x", pos })
            (.binary .sub (.intLit (-5) pos) (.unary .neg (.intLit 5 pos))),
          .ifThen (.id { name := "b", pos }) .empty,
          .call { name := "main", pos } []]⟩⟩]

theorem minusSigns_moved :
    (minusSigns ⟨1, 1⟩ none).isAsParsed = true ∧ (minusSigns ⟨7, 3⟩ (some 4)).isAsParsed = true ∧
      (minusSigns ⟨1, 1⟩ none).source 2 = (minusSigns ⟨7, 3⟩ (some 4)).source 2 ∧
      (minusSigns ⟨1, 1⟩ none).placeless = (minusSigns ⟨7, 3⟩ (some 4)).placeless :=
  ⟨by decide, by decide, rfl,
    Program.placeless_eq_of_source_eq 2 _ _ (by decide) (by decide) rfl⟩

end NameBinding
