/-
This file says which tokens a tree has, and proves that they are the tokens of its source text,
however far the lines are indented. That holds of trees as the parser hands them over: without
symbols, and with names and literals that are tokens themselves. What the source text puts behind a
name, a keyword or a number never goes on with a letter or a digit, so each of them stays a token of
its own.
-/

import NameBinding.Proofs.Lexing
import NameBinding.Tree.Source

namespace NameBinding

/-! ### The tokens of trees -/

/-- Tokens with commas between them. -/
def commas : List (List Token) → List Token
  | [] => []
  | first :: others => first ++ others.flatMap (Token.sign ',' :: ·)

theorem commas_singleton (item : List Token) : commas [item] = item :=
  List.append_nil item

theorem commas_cons_cons (item next : List Token) (rest : List (List Token)) :
    commas (item :: next :: rest) = item ++ .sign ',' :: commas (next :: rest) :=
  rfl

/-- The tokens of a text that is made of signs. -/
def signs (text : String) : List Token :=
  text.toList.map Token.sign

/-- The token of a name. -/
def Ident.token (ident : Ident) : Token :=
  .name ident.name

/-- The tokens of a type. -/
def TypeName.tokens : TypeName → List Token
  | boolean => [.keyword .boolean]
  | integer => [.keyword .integer]
  | void => [.keyword .void]
  | struct name => [.keyword .struct, name.token]

mutual

/-- The tokens of an expression. -/
def Expr.tokens : Expr → List Token
  | .truth value _ => [.keyword (.truth value)]
  | .id ident => [ident.token]
  | .intLit value _ => tokensOfInt value.toInt
  | .strLit value _ => [.literal value]
  | .access base field _ => base.tokens ++ [.sign ':', field.token]
  | .assign lhs rhs => .sign '(' :: (lhs.tokens ++ .sign '=' :: (rhs.tokens ++ [.sign ')']))
  | .call callee args =>
    callee.token :: .sign '(' :: (commas (Expr.tokensOfArgs args) ++ [.sign ')'])
  | .unary op operand => .sign '(' :: (signs op.sign ++ (operand.tokens ++ [.sign ')']))
  | .binary op lhs rhs =>
    .sign '(' :: (lhs.tokens ++ (signs op.sign ++ (rhs.tokens ++ [.sign ')'])))

/-- The tokens of each argument. -/
def Expr.tokensOfArgs : List Expr → List (List Token)
  | [] => []
  | expr :: rest => expr.tokens :: Expr.tokensOfArgs rest

end

/-- The tokens of a variable. -/
def VarDecl.tokens (decl : VarDecl) : List Token :=
  decl.type.tokens ++ [decl.name.token, .sign '.']

/-- The tokens of a parameter. -/
def Formal.tokens (formal : Formal) : List Token :=
  formal.type.tokens ++ [formal.name.token]

/-- The tokens of a struct. -/
def StructDecl.tokens (decl : StructDecl) : List Token :=
  .keyword .struct :: decl.name.token :: .sign '[' ::
    (decl.fields.flatMap VarDecl.tokens ++ [.sign ']'])

mutual

/-- The tokens of a block. -/
def Block.tokens : Block → List Token
  | ⟨decls, stmts⟩ => Decl.tokensOfList decls ++ Stmt.tokensOfList stmts

/-- The tokens of a statement. -/
def Stmt.tokens : Stmt → List Token
  | .assign lhs rhs => lhs.tokens ++ .sign '=' :: (rhs.tokens ++ [.sign '.'])
  | .postInc target => target.tokens ++ [.sign '+', .sign '+', .sign '.']
  | .postDec target => target.tokens ++ [.sign '-', .sign '-', .sign '.']
  | .ifThen cond body =>
    .keyword .ifWord :: .sign '(' :: (cond.tokens ++ .sign ')' :: .sign '\x7b' ::
      (body.tokens ++ [.sign '\x7d']))
  | .ifElse cond thenBranch elseBranch =>
    .keyword .ifWord :: .sign '(' :: (cond.tokens ++ .sign ')' :: .sign '\x7b' ::
      (thenBranch.tokens ++ .sign '\x7d' :: .keyword .elseWord :: .sign '\x7b' ::
        (elseBranch.tokens ++ [.sign '\x7d'])))
  | .whileDo cond body =>
    .keyword .whileWord :: .sign '(' :: (cond.tokens ++ .sign ')' :: .sign '\x7b' ::
      (body.tokens ++ [.sign '\x7d']))
  | .read target =>
    .keyword .inputWord :: .sign '-' :: .sign '>' :: (target.tokens ++ [.sign '.'])
  | .write value =>
    .keyword .dispWord :: .sign '<' :: .sign '-' :: .sign '(' ::
      (value.tokens ++ [.sign ')', .sign '.'])
  | .call callee args =>
    callee.token :: .sign '(' :: (commas (Expr.tokensOfArgs args) ++ [.sign ')', .sign '.'])
  | .ret none => [.keyword .returnWord, .sign '.']
  | .ret (some value) => .keyword .returnWord :: (value.tokens ++ [.sign '.'])

/-- The tokens of statements. -/
def Stmt.tokensOfList : List Stmt → List Token
  | [] => []
  | stmt :: rest => stmt.tokens ++ Stmt.tokensOfList rest

/-- The tokens of a function. -/
def Function.tokens : Function → List Token
  | ⟨ret, name, formals, body⟩ =>
    ret.tokens ++ name.token :: .sign '[' :: (commas (formals.map Formal.tokens) ++
      .sign ']' :: .sign '[' :: (body.tokens ++ [.sign ']']))

/-- The tokens of a declaration. -/
def Decl.tokens : Decl → List Token
  | .var decl => decl.tokens
  | .func decl => decl.tokens
  | .struct decl => decl.tokens

/-- The tokens of declarations. -/
def Decl.tokensOfList : List Decl → List Token
  | [] => []
  | decl :: rest => decl.tokens ++ Decl.tokensOfList rest

end

/-- The tokens of a program. -/
def Program.tokens (program : Program) : List Token :=
  Decl.tokensOfList program.decls

/-! ### Trees as they are parsed -/

/-- Whether an occurrence has no symbol yet, and a name that is one. -/
def Ident.isAsParsed (ident : Ident) : Bool :=
  ident.symbol.isNone && isName ident.name

/-- Whether the name in a type is as it was parsed. -/
def TypeName.isAsParsed : TypeName → Bool
  | struct name => name.isAsParsed
  | _ => true

mutual

/-- Whether nothing in an expression has a symbol yet, each name is one and each text a literal. -/
def Expr.isAsParsed : Expr → Bool
  | .truth _ _ => true
  | .id ident => ident.isAsParsed
  | .intLit _ _ => true
  | .strLit value _ => isLiteral value
  | .access base field exposed => base.isAsParsed && field.isAsParsed && exposed.isNone
  | .assign lhs rhs => lhs.isAsParsed && rhs.isAsParsed
  | .call callee args => callee.isAsParsed && Expr.areAsParsed args
  | .unary _ operand => operand.isAsParsed
  | .binary _ lhs rhs => lhs.isAsParsed && rhs.isAsParsed

/-- Whether expressions are as they were parsed. -/
def Expr.areAsParsed : List Expr → Bool
  | [] => true
  | expr :: rest => expr.isAsParsed && Expr.areAsParsed rest

end

/-- Whether a variable is as it was parsed. -/
def VarDecl.isAsParsed (decl : VarDecl) : Bool :=
  decl.type.isAsParsed && decl.name.isAsParsed

/-- Whether a parameter is as it was parsed. -/
def Formal.isAsParsed (formal : Formal) : Bool :=
  formal.type.isAsParsed && formal.name.isAsParsed

/-- Whether a struct is as it was parsed. -/
def StructDecl.isAsParsed (decl : StructDecl) : Bool :=
  decl.name.isAsParsed && decl.fields.all VarDecl.isAsParsed

mutual

/-- Whether a block is as it was parsed. -/
def Block.isAsParsed : Block → Bool
  | ⟨decls, stmts⟩ => Decl.areAsParsed decls && Stmt.areAsParsed stmts

/-- Whether a statement is as it was parsed. -/
def Stmt.isAsParsed : Stmt → Bool
  | .assign lhs rhs => lhs.isAsParsed && rhs.isAsParsed
  | .postInc target => target.isAsParsed
  | .postDec target => target.isAsParsed
  | .ifThen cond body => cond.isAsParsed && body.isAsParsed
  | .ifElse cond thenBranch elseBranch =>
    cond.isAsParsed && thenBranch.isAsParsed && elseBranch.isAsParsed
  | .whileDo cond body => cond.isAsParsed && body.isAsParsed
  | .read target => target.isAsParsed
  | .write value => value.isAsParsed
  | .call callee args => callee.isAsParsed && Expr.areAsParsed args
  | .ret none => true
  | .ret (some value) => value.isAsParsed

/-- Whether statements are as they were parsed. -/
def Stmt.areAsParsed : List Stmt → Bool
  | [] => true
  | stmt :: rest => stmt.isAsParsed && Stmt.areAsParsed rest

/-- Whether a function is as it was parsed. -/
def Function.isAsParsed : Function → Bool
  | ⟨ret, name, formals, body⟩ =>
    ret.isAsParsed && name.isAsParsed && formals.all Formal.isAsParsed && body.isAsParsed

/-- Whether a declaration is as it was parsed. -/
def Decl.isAsParsed : Decl → Bool
  | .var decl => decl.isAsParsed
  | .func decl => decl.isAsParsed
  | .struct decl => decl.isAsParsed

/-- Whether declarations are as they were parsed. -/
def Decl.areAsParsed : List Decl → Bool
  | [] => true
  | decl :: rest => decl.isAsParsed && Decl.areAsParsed rest

end

/-- Whether a program is as the parser hands it over: nothing has a symbol yet, every name is a name
and every text a literal. -/
def Program.isAsParsed (program : Program) : Bool :=
  Decl.areAsParsed program.decls

/-! ### The tokens of source texts -/

theorem Ident.lex_source {ident : Ident} (parsed : ident.isAsParsed = true) {rest : List Char}
    (ends : EndsWord rest) : lex (ident.source.toList ++ rest) = ident.token :: lex rest := by
  rw [Ident.isAsParsed, Bool.and_eq_true, Option.isNone_iff_eq_none] at parsed
  rw [Ident.source, parsed.1]
  exact lex_name parsed.2 ends

theorem TypeName.lex_source {type : TypeName} (parsed : type.isAsParsed = true)
    {rest : List Char} (ends : EndsWord rest) :
    lex (type.source.toList ++ rest) = type.tokens ++ lex rest := by
  cases type with
  | boolean => exact lex_keyword "boolean" rfl (by decide) ends
  | integer => exact lex_keyword "integer" rfl (by decide) ends
  | void => exact lex_keyword "void" rfl (by decide) ends
  | struct name =>
    rw [TypeName.source, String.toList_append, List.append_assoc,
      lex_text "struct " [.keyword .struct] rfl, name.lex_source parsed ends]
    rfl

theorem UnaryOp.lex_sign (op : UnaryOp) (rest : List Char) :
    lex (op.sign.toList ++ rest) = signs op.sign ++ lex rest := by
  cases op <;> exact lex_text _ _ rfl rest

theorem BinaryOp.lex_sign (op : BinaryOp) (rest : List Char) :
    lex (op.sign.toList ++ rest) = signs op.sign ++ lex rest := by
  cases op <;> exact lex_text _ _ rfl rest

mutual

/-- The text of an expression has the tokens of the expression, if it ends as a word. -/
theorem Expr.lex_source : ∀ expr : Expr, expr.isAsParsed = true → ∀ {rest : List Char},
    EndsWord rest → lex (expr.source.toList ++ rest) = expr.tokens ++ lex rest
  | .truth true _, _, _, ends => by
    rw [Expr.source, Expr.tokens]
    exact lex_keyword "TRUE" rfl (by decide) ends
  | .truth false _, _, _, ends => by
    rw [Expr.source, Expr.tokens]
    exact lex_keyword "FALSE" rfl (by decide) ends
  | .id ident, parsed, _, ends => by
    rw [Expr.isAsParsed] at parsed
    rw [Expr.source, Expr.tokens]
    exact ident.lex_source parsed ends
  | .intLit value _, _, _, ends => by
    rw [Expr.source, Expr.tokens]
    exact lex_int value.toInt ends
  | .strLit value _, parsed, _, _ => by
    rw [Expr.isAsParsed] at parsed
    rw [Expr.source, Expr.tokens]
    exact lex_literal parsed _
  | .access base field _, parsed, _, ends => by
    simp only [Expr.isAsParsed, Bool.and_eq_true] at parsed
    simp only [Expr.source, Expr.tokens, String.toList_append, List.append_assoc]
    rw [base.lex_source parsed.1.1 (endsWord_text ":" _ rfl), lex_text ":" [.sign ':'] rfl,
      field.lex_source parsed.1.2 ends]
    rfl
  | .assign lhs rhs, parsed, _, _ => by
    rw [Expr.isAsParsed, Bool.and_eq_true] at parsed
    simp only [Expr.source, Expr.tokens, String.toList_append, List.append_assoc]
    rw [lex_text "(" [.sign '('] rfl, lhs.lex_source parsed.1 (endsWord_text " = " _ rfl),
      lex_text " = " [.sign '='] rfl, rhs.lex_source parsed.2 (endsWord_text ")" _ rfl),
      lex_text ")" [.sign ')'] rfl]
    simp only [List.cons_append, List.append_assoc, List.nil_append]
  | .call callee args, parsed, _, _ => by
    rw [Expr.isAsParsed, Bool.and_eq_true] at parsed
    simp only [Expr.source, Expr.tokens, String.toList_append, List.append_assoc]
    rw [callee.lex_source parsed.1 (endsWord_text "(" _ rfl), lex_text "(" [.sign '('] rfl,
      Expr.lex_sourceOfArgs args parsed.2 (endsWord_text ")" _ rfl), lex_text ")" [.sign ')'] rfl]
    simp only [List.cons_append, List.append_assoc, List.nil_append]
  | .unary op operand, parsed, _, _ => by
    rw [Expr.isAsParsed] at parsed
    simp only [Expr.source, Expr.tokens, String.toList_append, List.append_assoc]
    rw [lex_text "(" [.sign '('] rfl, op.lex_sign,
      operand.lex_source parsed (endsWord_text ")" _ rfl), lex_text ")" [.sign ')'] rfl]
    simp only [List.cons_append, List.append_assoc, List.nil_append]
  | .binary op lhs rhs, parsed, _, _ => by
    rw [Expr.isAsParsed, Bool.and_eq_true] at parsed
    simp only [Expr.source, Expr.tokens, String.toList_append, List.append_assoc]
    rw [lex_text "(" [.sign '('] rfl, lhs.lex_source parsed.1 (endsWord_text " " _ rfl),
      lex_text " " [] rfl, op.lex_sign, lex_text " " [] rfl,
      rhs.lex_source parsed.2 (endsWord_text ")" _ rfl), lex_text ")" [.sign ')'] rfl]
    simp only [List.cons_append, List.append_assoc, List.nil_append]

theorem Expr.lex_sourceOfArgs : ∀ args : List Expr, Expr.areAsParsed args = true →
    ∀ {rest : List Char}, EndsWord rest →
      lex ((Expr.sourceOfArgs args).toList ++ rest) = commas (Expr.tokensOfArgs args) ++ lex rest
  | [], _, _, _ => by
    rw [Expr.sourceOfArgs, Expr.tokensOfArgs]
    rfl
  | [expr], parsed, _, ends => by
    simp only [Expr.areAsParsed, Bool.and_true] at parsed
    rw [Expr.sourceOfArgs, Expr.tokensOfArgs, Expr.tokensOfArgs, commas_singleton]
    exact expr.lex_source parsed ends
  | expr :: next :: more, parsed, _, ends => by
    rw [Expr.areAsParsed, Bool.and_eq_true] at parsed
    have others := Expr.lex_sourceOfArgs (next :: more) parsed.2 ends
    rw [Expr.tokensOfArgs] at others
    simp only [Expr.sourceOfArgs, Expr.tokensOfArgs, commas_cons_cons, String.toList_append,
      List.append_assoc, List.cons_append]
    rw [expr.lex_source parsed.1 (endsWord_text ", " _ rfl), lex_text ", " [.sign ','] rfl, others]
    rfl

end

/-- The blanks before a line are no tokens. -/
theorem lex_indentation (unit level : Nat) (rest : List Char) :
    lex ((indentation unit level).toList ++ rest) = lex rest := by
  rw [indentation, String.toList_ofList]
  induction level * unit with
  | zero => rfl
  | succ count inductionHypothesis => exact inductionHypothesis

theorem VarDecl.lex_source (unit level : Nat) {decl : VarDecl} (parsed : decl.isAsParsed = true)
    (rest : List Char) :
    lex ((decl.source unit level).toList ++ rest) = decl.tokens ++ lex rest := by
  rw [VarDecl.isAsParsed, Bool.and_eq_true] at parsed
  simp only [VarDecl.source, VarDecl.tokens, String.toList_append, List.append_assoc]
  rw [lex_indentation, decl.type.lex_source parsed.1 (endsWord_text " " _ rfl), lex_text " " [] rfl,
    decl.name.lex_source parsed.2 (endsWord_text ".\n" _ rfl), lex_text ".\n" [.sign '.'] rfl]
  rfl

theorem Formal.lex_source {formal : Formal} (parsed : formal.isAsParsed = true)
    {rest : List Char} (ends : EndsWord rest) :
    lex (formal.source.toList ++ rest) = formal.tokens ++ lex rest := by
  rw [Formal.isAsParsed, Bool.and_eq_true] at parsed
  simp only [Formal.source, Formal.tokens, String.toList_append, List.append_assoc]
  rw [formal.type.lex_source parsed.1 (endsWord_text " " _ rfl), lex_text " " [] rfl,
    formal.name.lex_source parsed.2 ends]
  rfl

theorem Formal.lex_sources {formals : List Formal} (parsed : formals.all Formal.isAsParsed = true)
    {rest : List Char} (ends : EndsWord rest) :
    lex ((String.intercalate ", " (formals.map Formal.source)).toList ++ rest) =
      commas (formals.map Formal.tokens) ++ lex rest := by
  induction formals with
  | nil =>
    rw [List.map_nil, List.map_nil, String.intercalate_nil, String.toList_empty]
    rfl
  | cons formal more inductionHypothesis =>
    rw [List.all_cons, Bool.and_eq_true] at parsed
    cases more with
    | nil =>
      rw [List.map_singleton, List.map_singleton, String.intercalate_singleton, commas_singleton]
      exact formal.lex_source parsed.1 ends
    | cons next rest =>
      have others := inductionHypothesis parsed.2
      rw [List.map_cons, List.map_cons] at others
      simp only [List.map_cons, String.intercalate_cons_cons, commas_cons_cons,
        String.toList_append, List.append_assoc, List.cons_append]
      rw [formal.lex_source parsed.1 (endsWord_text ", " _ rfl),
        lex_text ", " [.sign ','] rfl, others]
      rfl

theorem VarDecl.lex_sources (unit level : Nat) {fields : List VarDecl}
    (parsed : fields.all VarDecl.isAsParsed = true) (rest : List Char) :
    lex ((String.join (fields.map (VarDecl.source unit level))).toList ++ rest) =
      fields.flatMap VarDecl.tokens ++ lex rest := by
  induction fields with
  | nil => rfl
  | cons decl more inductionHypothesis =>
    rw [List.all_cons, Bool.and_eq_true] at parsed
    rw [List.map_cons, String.join_cons, String.toList_append, List.append_assoc,
      decl.lex_source unit level parsed.1, inductionHypothesis parsed.2, List.flatMap_cons,
      List.append_assoc]

theorem StructDecl.lex_source (unit level : Nat) {decl : StructDecl}
    (parsed : decl.isAsParsed = true) (rest : List Char) :
    lex ((decl.source unit level).toList ++ rest) = decl.tokens ++ lex rest := by
  rw [StructDecl.isAsParsed, Bool.and_eq_true] at parsed
  simp only [StructDecl.source, StructDecl.tokens, String.toList_append, List.append_assoc]
  rw [lex_indentation, lex_text "struct " [.keyword .struct] rfl,
    decl.name.lex_source parsed.1 (endsWord_text " [\n" _ rfl), lex_text " [\n" [.sign '['] rfl,
    VarDecl.lex_sources unit (level + 1) parsed.2, lex_indentation,
    lex_text "]\n\n" [.sign ']'] rfl]
  simp only [List.cons_append, List.append_assoc, List.nil_append]

mutual

theorem Block.lex_source (unit level : Nat) : ∀ block : Block, block.isAsParsed = true →
    ∀ rest : List Char, lex ((block.source unit level).toList ++ rest) = block.tokens ++ lex rest
  | ⟨decls, stmts⟩, parsed, rest => by
    rw [Block.isAsParsed, Bool.and_eq_true] at parsed
    rw [Block.source, Block.tokens, String.toList_append, List.append_assoc,
      Decl.lex_sourceOfList unit level decls parsed.1,
      Stmt.lex_sourceOfList unit level stmts parsed.2, List.append_assoc]

/-- The lines of a statement have the tokens of the statement. -/
theorem Stmt.lex_source (unit level : Nat) : ∀ stmt : Stmt, stmt.isAsParsed = true →
    ∀ rest : List Char, lex ((stmt.source unit level).toList ++ rest) = stmt.tokens ++ lex rest
  | .assign lhs rhs, parsed, rest => by
    rw [Stmt.isAsParsed, Bool.and_eq_true] at parsed
    simp only [Stmt.source, Stmt.tokens, String.toList_append, List.append_assoc]
    rw [lex_indentation, lhs.lex_source parsed.1 (endsWord_text " = " _ rfl),
      lex_text " = " [.sign '='] rfl, rhs.lex_source parsed.2 (endsWord_text ".\n" _ rfl),
      lex_text ".\n" [.sign '.'] rfl]
    simp only [List.cons_append, List.append_assoc, List.nil_append]
  | .postInc target, parsed, rest => by
    rw [Stmt.isAsParsed] at parsed
    simp only [Stmt.source, Stmt.tokens, String.toList_append, List.append_assoc]
    rw [lex_indentation, target.lex_source parsed (endsWord_text "++.\n" _ rfl),
      lex_text "++.\n" [.sign '+', .sign '+', .sign '.'] rfl]
  | .postDec target, parsed, rest => by
    rw [Stmt.isAsParsed] at parsed
    simp only [Stmt.source, Stmt.tokens, String.toList_append, List.append_assoc]
    rw [lex_indentation, target.lex_source parsed (endsWord_text "--.\n" _ rfl),
      lex_text "--.\n" [.sign '-', .sign '-', .sign '.'] rfl]
  | .ifThen cond body, parsed, rest => by
    rw [Stmt.isAsParsed, Bool.and_eq_true] at parsed
    simp only [Stmt.source, Stmt.tokens, String.toList_append, List.append_assoc]
    rw [lex_indentation, lex_text "if (" [.keyword .ifWord, .sign '('] rfl,
      cond.lex_source parsed.1 (endsWord_text ") \x7b\n" _ rfl),
      lex_text ") \x7b\n" [.sign ')', .sign '\x7b'] rfl, body.lex_source unit (level + 1) parsed.2,
      lex_indentation, lex_text "\x7d\n" [.sign '\x7d'] rfl]
    simp only [List.cons_append, List.append_assoc, List.nil_append]
  | .ifElse cond thenBranch elseBranch, parsed, rest => by
    simp only [Stmt.isAsParsed, Bool.and_eq_true] at parsed
    simp only [Stmt.source, Stmt.tokens, String.toList_append, List.append_assoc]
    rw [lex_indentation, lex_text "if (" [.keyword .ifWord, .sign '('] rfl,
      cond.lex_source parsed.1.1 (endsWord_text ") \x7b\n" _ rfl),
      lex_text ") \x7b\n" [.sign ')', .sign '\x7b'] rfl,
      thenBranch.lex_source unit (level + 1) parsed.1.2, lex_indentation,
      lex_text "\x7d\n" [.sign '\x7d'] rfl, lex_indentation,
      lex_text "else \x7b\n" [.keyword .elseWord, .sign '\x7b'] rfl,
      elseBranch.lex_source unit (level + 1) parsed.2, lex_indentation,
      lex_text "\x7d\n" [.sign '\x7d'] rfl]
    simp only [List.cons_append, List.append_assoc, List.nil_append]
  | .whileDo cond body, parsed, rest => by
    rw [Stmt.isAsParsed, Bool.and_eq_true] at parsed
    simp only [Stmt.source, Stmt.tokens, String.toList_append, List.append_assoc]
    rw [lex_indentation, lex_text "while (" [.keyword .whileWord, .sign '('] rfl,
      cond.lex_source parsed.1 (endsWord_text ") \x7b\n" _ rfl),
      lex_text ") \x7b\n" [.sign ')', .sign '\x7b'] rfl, body.lex_source unit (level + 1) parsed.2,
      lex_indentation, lex_text "\x7d\n" [.sign '\x7d'] rfl]
    simp only [List.cons_append, List.append_assoc, List.nil_append]
  | .read target, parsed, rest => by
    rw [Stmt.isAsParsed] at parsed
    simp only [Stmt.source, Stmt.tokens, String.toList_append, List.append_assoc]
    rw [lex_indentation, lex_text "input -> " [.keyword .inputWord, .sign '-', .sign '>'] rfl,
      target.lex_source parsed (endsWord_text ".\n" _ rfl), lex_text ".\n" [.sign '.'] rfl]
    simp only [List.cons_append, List.append_assoc, List.nil_append]
  | .write value, parsed, rest => by
    rw [Stmt.isAsParsed] at parsed
    simp only [Stmt.source, Stmt.tokens, String.toList_append, List.append_assoc]
    rw [lex_indentation,
      lex_text "disp <- (" [.keyword .dispWord, .sign '<', .sign '-', .sign '('] rfl,
      value.lex_source parsed (endsWord_text ").\n" _ rfl),
      lex_text ").\n" [.sign ')', .sign '.'] rfl]
    simp only [List.cons_append, List.append_assoc, List.nil_append]
  | .call callee args, parsed, rest => by
    rw [Stmt.isAsParsed, Bool.and_eq_true] at parsed
    simp only [Stmt.source, Stmt.tokens, String.toList_append, List.append_assoc]
    rw [lex_indentation, callee.lex_source parsed.1 (endsWord_text "(" _ rfl),
      lex_text "(" [.sign '('] rfl,
      Expr.lex_sourceOfArgs args parsed.2 (endsWord_text ").\n" _ rfl),
      lex_text ").\n" [.sign ')', .sign '.'] rfl]
    simp only [List.cons_append, List.append_assoc, List.nil_append]
  | .ret none, _, rest => by
    rw [Stmt.source, Stmt.tokens, String.toList_append, List.append_assoc, lex_indentation,
      lex_text "return.\n" [.keyword .returnWord, .sign '.'] rfl]
  | .ret (some value), parsed, rest => by
    rw [Stmt.isAsParsed] at parsed
    simp only [Stmt.source, Stmt.tokens, String.toList_append, List.append_assoc]
    rw [lex_indentation, lex_text "return " [.keyword .returnWord] rfl,
      value.lex_source parsed (endsWord_text ".\n" _ rfl), lex_text ".\n" [.sign '.'] rfl]
    simp only [List.cons_append, List.append_assoc, List.nil_append]

theorem Stmt.lex_sourceOfList (unit level : Nat) : ∀ stmts : List Stmt,
    Stmt.areAsParsed stmts = true → ∀ rest : List Char,
      lex ((Stmt.sourceOfList unit level stmts).toList ++ rest) =
        Stmt.tokensOfList stmts ++ lex rest
  | [], _, rest => by
    rw [Stmt.sourceOfList, Stmt.tokensOfList]
    rfl
  | stmt :: more, parsed, rest => by
    rw [Stmt.areAsParsed, Bool.and_eq_true] at parsed
    rw [Stmt.sourceOfList, Stmt.tokensOfList, String.toList_append, List.append_assoc,
      stmt.lex_source unit level parsed.1, Stmt.lex_sourceOfList unit level more parsed.2,
      List.append_assoc]

theorem Function.lex_source (unit level : Nat) : ∀ decl : Function, decl.isAsParsed = true →
    ∀ rest : List Char, lex ((decl.source unit level).toList ++ rest) = decl.tokens ++ lex rest
  | ⟨ret, name, formals, body⟩, parsed, rest => by
    simp only [Function.isAsParsed, Bool.and_eq_true] at parsed
    obtain ⟨⟨⟨result, own⟩, parameters⟩, inner⟩ := parsed
    simp only [Function.source, Function.tokens, String.toList_append, List.append_assoc]
    rw [lex_indentation, ret.lex_source result (endsWord_text " " _ rfl), lex_text " " [] rfl,
      name.lex_source own (endsWord_text "[" _ rfl), lex_text "[" [.sign '['] rfl,
      Formal.lex_sources parameters (endsWord_text "] [\n" _ rfl),
      lex_text "] [\n" [.sign ']', .sign '['] rfl, body.lex_source unit (level + 1) inner,
      lex_indentation, lex_text "]\n\n" [.sign ']'] rfl]
    simp only [List.cons_append, List.append_assoc, List.nil_append]

theorem Decl.lex_source (unit level : Nat) : ∀ decl : Decl, decl.isAsParsed = true →
    ∀ rest : List Char, lex ((decl.source unit level).toList ++ rest) = decl.tokens ++ lex rest
  | .var decl, parsed, rest => by
    rw [Decl.isAsParsed] at parsed
    rw [Decl.source, Decl.tokens, decl.lex_source unit level parsed]
  | .func decl, parsed, rest => by
    rw [Decl.isAsParsed] at parsed
    rw [Decl.source, Decl.tokens, decl.lex_source unit level parsed]
  | .struct decl, parsed, rest => by
    rw [Decl.isAsParsed] at parsed
    rw [Decl.source, Decl.tokens, decl.lex_source unit level parsed]

theorem Decl.lex_sourceOfList (unit level : Nat) : ∀ decls : List Decl,
    Decl.areAsParsed decls = true → ∀ rest : List Char,
      lex ((Decl.sourceOfList unit level decls).toList ++ rest) =
        Decl.tokensOfList decls ++ lex rest
  | [], _, rest => by
    rw [Decl.sourceOfList, Decl.tokensOfList]
    rfl
  | decl :: more, parsed, rest => by
    rw [Decl.areAsParsed, Bool.and_eq_true] at parsed
    rw [Decl.sourceOfList, Decl.tokensOfList, String.toList_append, List.append_assoc,
      decl.lex_source unit level parsed.1, Decl.lex_sourceOfList unit level more parsed.2,
      List.append_assoc]

end

/-- The source text of a program has the tokens of the program, whatever its indentation is. -/
theorem Program.lex_source (unit : Nat) (program : Program) (parsed : program.isAsParsed = true) :
    lex (program.source unit).toList = program.tokens := by
  have tokens := Decl.lex_sourceOfList unit 0 program.decls parsed []
  rwa [List.append_nil, show lex [] = [] from rfl, List.append_nil] at tokens

end NameBinding
