/-
This file says which documents have a form and proves that the documents of trees have theirs. A
document of a record has a value for every member, in the order of the members, except that those
that may stay away can be missing. A document of a choice is the name of an alternative that has
nothing to it, or an object with the name and what belongs to it. The keys of a record are
different, so a member is found by its key.
-/

import NameBinding.Tree.Document
import NameBinding.Tree.Form

namespace NameBinding

/-! ### Documents of a form -/

namespace Payload

/-- The form of the value that belongs to the name of an alternative, if there is one. -/
def form? : Payload → Option Form
  | none => .none
  | value form => some form
  | optional form => some form
  | members form => some (.record form)

end Payload

/-- Members in the order of a record. Each has a value that fits it, and some of those that may stay
away are missing. -/
inductive HasMembers (fits : Member → Json → Prop) : List Member → List (String × Json) → Prop
  | nil : HasMembers fits [] []
  | cons {member : Member} {value : Json} {rest : List Member} {others : List (String × Json)}
      (head : fits member value) (tail : HasMembers fits rest others) :
      HasMembers fits (member :: rest) ((member.key, value) :: others)
  | missing {member : Member} {rest : List Member} {others : List (String × Json)}
      (allowed : member.absence = .allowed) (tail : HasMembers fits rest others) :
      HasMembers fits (member :: rest) others

/-- Whether a document has the shape that a form is written in. -/
inductive Conforms : Form → Json → Prop
  | text (value : String) : Conforms .text (.str value)
  | int32 {value : Int} (low : -Int.pow 2 31 ≤ value) (high : value ≤ Int.pow 2 31 - 1) :
      Conforms .int32 (.int value)
  | uint32 {value : Int} (low : 0 ≤ value) (high : value ≤ Int.pow 2 32 - 1) :
      Conforms .uint32 (.int value)
  | list {item : Form} {values : List Json} (all : ∀ value ∈ values, Conforms item value) :
      Conforms (.list item) (.arr values)
  | record {form : RecordForm} {members : List (String × Json)}
      (all : HasMembers (fun member value => Conforms member.form value) form.members members) :
      Conforms (.record form) (.obj members)
  /-- An alternative with nothing to it. -/
  | bare {form : ChoiceForm} {name : String} (known : form.find? name = some ⟨name, .none⟩) :
      Conforms (.choice form) (.str name)
  /-- An alternative with a value. -/
  | tagged {form : ChoiceForm} {name : String} {payload : Payload} {inner : Form} {value : Json}
      (known : form.find? name = some ⟨name, payload⟩) (inside : payload.form? = some inner)
      (given : Conforms inner value) : Conforms (.choice form) (.obj [(name, value)])
  /-- An alternative that may have a value and has none. -/
  | unset {form : ChoiceForm} {name : String} {inner : Form}
      (known : form.find? name = some ⟨name, .optional inner⟩) :
      Conforms (.choice form) (.obj [(name, .null)])

/-! ### The keys of records -/

namespace RecordForm

/-- The keys of a record are different. -/
theorem keys_nodup (form : RecordForm) : (form.members.map Member.key).Nodup := by
  cases form <;> decide

theorem find?_key (form : RecordForm) {member : Member} (known : member ∈ form.members) :
    (form.members.find? fun other => other.key == member.key) = some member := by
  have distinct := form.keys_nodup
  generalize form.members = members at known distinct
  induction members with
  | nil => exact nomatch known
  | cons first rest inductionHypothesis =>
    rw [List.map_cons, List.nodup_cons] at distinct
    rcases List.mem_cons.mp known with rfl | later
    · exact List.find?_cons_of_pos (beq_self_eq_true member.key)
    · have other : first.key ≠ member.key := fun same =>
        distinct.1 (same ▸ List.mem_map_of_mem later)
      rw [List.find?_cons_of_neg (by simpa using other)]
      exact inductionHypothesis later distinct.2

end RecordForm

namespace HasMembers

variable {fits closer : Member → Json → Prop}

theorem keys_sublist {members : List Member} {values : List (String × Json)}
    (given : HasMembers fits members values) :
    (values.map Prod.fst).Sublist (members.map Member.key) := by
  induction given with
  | nil => exact .slnil
  | cons head tail inductionHypothesis => exact inductionHypothesis.cons_cons _
  | missing allowed tail inductionHypothesis => exact inductionHypothesis.cons _

/-- Every value belongs to a member. -/
theorem member_of_mem {members : List Member} {values : List (String × Json)}
    (given : HasMembers fits members values) :
    ∀ pair ∈ values, ∃ member ∈ members, member.key = pair.1 ∧ fits member pair.2 := by
  induction given with
  | nil => exact nofun
  | cons head tail inductionHypothesis =>
    refine List.forall_mem_cons.mpr ⟨⟨_, List.mem_cons_self, rfl, head⟩, fun pair later => ?_⟩
    obtain ⟨member, known, key, fit⟩ := inductionHypothesis pair later
    exact ⟨member, List.mem_cons_of_mem _ known, key, fit⟩
  | missing allowed tail inductionHypothesis =>
    intro pair later
    obtain ⟨member, known, key, fit⟩ := inductionHypothesis pair later
    exact ⟨member, List.mem_cons_of_mem _ known, key, fit⟩

theorem imp {members : List Member} {values : List (String × Json)}
    (given : HasMembers fits members values)
    (follows : ∀ member ∈ members, ∀ value, fits member value → closer member value) :
    HasMembers closer members values := by
  induction given with
  | nil => exact .nil
  | cons head tail inductionHypothesis =>
    rw [List.forall_mem_cons] at follows
    exact .cons (follows.1 _ head) (inductionHypothesis follows.2)
  | missing allowed tail inductionHypothesis =>
    rw [List.forall_mem_cons] at follows
    exact .missing allowed (inductionHypothesis follows.2)

/-- A member that must not be missing has a value. -/
theorem value_of_refused {members : List Member} {values : List (String × Json)} {member : Member}
    (given : HasMembers fits members values) (known : member ∈ members)
    (needed : member.absence = .refused) :
    ∃ value, (member.key, value) ∈ values ∧ fits member value := by
  induction given with
  | nil => exact nomatch known
  | cons head tail inductionHypothesis =>
    rcases List.mem_cons.mp known with rfl | later
    · exact ⟨_, List.mem_cons_self, head⟩
    · obtain ⟨value, among, fit⟩ := inductionHypothesis later
      exact ⟨value, List.mem_cons_of_mem _ among, fit⟩
  | missing allowed tail inductionHypothesis =>
    rcases List.mem_cons.mp known with rfl | later
    · exact nomatch allowed.symm.trans needed
    · exact inductionHypothesis later

end HasMembers

/-- A document of a form is not null. -/
theorem Conforms.ne_null {form : Form} {document : Json} (given : Conforms form document) :
    document ≠ .null := by
  cases given <;> exact nofun

/-! ### The documents of trees -/

namespace Conforms

theorem word (n : UInt32) : Conforms .uint32 (.ofNat n.toNat) :=
  .uint32 (Int.natCast_nonneg _) (Int.le_sub_one_of_lt (Int.ofNat_lt.mpr n.toNat_lt))

theorem signed (n : Int32) : Conforms .int32 (.int n.toInt) :=
  .int32 n.le_toInt (Int.le_sub_one_of_lt n.toInt_lt)

theorem map {α : Type} {item : Form} {toJson : α → Json} {values : List α}
    (all : ∀ value, Conforms item (toJson value)) :
    Conforms (.list item) (.arr (values.map toJson)) :=
  .list (List.forall_mem_map.mpr fun value _ => all value)

end Conforms

theorem Position.toJson_conforms (pos : Position) : Conforms (.record .position) pos.toJson :=
  .record (.cons (.word pos.line) (.cons (.word pos.column) .nil))

theorem Ident.toJson_conforms (ident : Ident) : Conforms (.record .ident) ident.toJson :=
  .record (.cons (.text ident.name) (.cons ident.pos.toJson_conforms .nil))

theorem TypeName.toJson_conforms (type : TypeName) : Conforms (.choice .type) type.toJson := by
  cases type with
  | struct name => exact .tagged rfl rfl name.toJson_conforms
  | _ => exact .bare rfl

theorem VarDecl.toJson_conforms (decl : VarDecl) : Conforms (.record .varDecl) decl.toJson := by
  obtain ⟨type, name, size⟩ := decl
  cases size with
  | none => exact .record (.cons type.toJson_conforms (.cons name.toJson_conforms
      (.missing rfl .nil)))
  | some size => exact .record (.cons type.toJson_conforms (.cons name.toJson_conforms
      (.cons (.word size) .nil)))

theorem Formal.toJson_conforms (formal : Formal) : Conforms (.record .formal) formal.toJson :=
  .record (.cons formal.type.toJson_conforms (.cons formal.name.toJson_conforms .nil))

theorem StructDecl.toJson_conforms (decl : StructDecl) :
    Conforms (.record .structDecl) decl.toJson :=
  .record (.cons decl.name.toJson_conforms (.cons (.map VarDecl.toJson_conforms) .nil))

theorem UnaryOp.text_conforms (op : UnaryOp) : Conforms (.choice .unaryOp) (.str op.text) := by
  cases op <;> exact .bare rfl

theorem BinaryOp.text_conforms (op : BinaryOp) : Conforms (.choice .binaryOp) (.str op.text) := by
  cases op <;> exact .bare rfl

mutual

theorem Expr.toJson_conforms : ∀ expr : Expr, Conforms (.choice .expr) expr.toJson
  | .truth true pos => by
    rw [Expr.toJson]
    exact .tagged rfl rfl pos.toJson_conforms
  | .truth false pos => by
    rw [Expr.toJson]
    exact .tagged rfl rfl pos.toJson_conforms
  | .id ident => by
    rw [Expr.toJson]
    exact .tagged rfl rfl ident.toJson_conforms
  | .intLit value pos => by
    rw [Expr.toJson]
    exact .tagged rfl rfl (.record (.cons (.signed value) (.cons pos.toJson_conforms .nil)))
  | .strLit value pos => by
    rw [Expr.toJson]
    exact .tagged rfl rfl (.record (.cons (.text value) (.cons pos.toJson_conforms .nil)))
  | .access base field _ => by
    rw [Expr.toJson]
    exact .tagged rfl rfl
      (.record (.cons base.toJson_conforms (.cons field.toJson_conforms .nil)))
  | .assign lhs rhs => by
    rw [Expr.toJson]
    exact .tagged rfl rfl (.record (.cons lhs.toJson_conforms (.cons rhs.toJson_conforms .nil)))
  | .call callee args => by
    rw [Expr.toJson]
    exact .tagged rfl rfl (.record (.cons callee.toJson_conforms
      (.cons (.list (Expr.toJsonList_conforms args)) .nil)))
  | .unary op operand => by
    rw [Expr.toJson]
    exact .tagged rfl rfl
      (.record (.cons op.text_conforms (.cons operand.toJson_conforms .nil)))
  | .binary op lhs rhs => by
    rw [Expr.toJson]
    exact .tagged rfl rfl (.record (.cons op.text_conforms
      (.cons lhs.toJson_conforms (.cons rhs.toJson_conforms .nil))))

theorem Expr.toJsonList_conforms : ∀ exprs : List Expr,
    ∀ value ∈ Expr.toJsonList exprs, Conforms (.choice .expr) value
  | [] => nofun
  | expr :: rest => by
    rw [Expr.toJsonList]
    exact List.forall_mem_cons.mpr ⟨expr.toJson_conforms, Expr.toJsonList_conforms rest⟩

end

mutual

theorem Block.toJson_conforms : ∀ block : Block, Conforms (.record .block) block.toJson
  | ⟨decls, stmts⟩ => by
    rw [Block.toJson]
    exact .record (.cons (.list (Decl.toJsonList_conforms decls))
      (.cons (.list (Stmt.toJsonList_conforms stmts)) .nil))

theorem Stmt.toJson_conforms : ∀ stmt : Stmt, Conforms (.choice .stmt) stmt.toJson
  | .assign lhs rhs => by
    rw [Stmt.toJson]
    exact .tagged rfl rfl (.record (.cons lhs.toJson_conforms (.cons rhs.toJson_conforms .nil)))
  | .postInc target => by
    rw [Stmt.toJson]
    exact .tagged rfl rfl target.toJson_conforms
  | .postDec target => by
    rw [Stmt.toJson]
    exact .tagged rfl rfl target.toJson_conforms
  | .ifThen cond body => by
    rw [Stmt.toJson]
    exact .tagged rfl rfl
      (.record (.cons cond.toJson_conforms (.cons body.toJson_conforms .nil)))
  | .ifElse cond thenBranch elseBranch => by
    rw [Stmt.toJson]
    exact .tagged rfl rfl (.record (.cons cond.toJson_conforms
      (.cons thenBranch.toJson_conforms (.cons elseBranch.toJson_conforms .nil))))
  | .whileDo cond body => by
    rw [Stmt.toJson]
    exact .tagged rfl rfl
      (.record (.cons cond.toJson_conforms (.cons body.toJson_conforms .nil)))
  | .read target => by
    rw [Stmt.toJson]
    exact .tagged rfl rfl target.toJson_conforms
  | .write value => by
    rw [Stmt.toJson]
    exact .tagged rfl rfl value.toJson_conforms
  | .call callee args => by
    rw [Stmt.toJson]
    exact .tagged rfl rfl (.record (.cons callee.toJson_conforms
      (.cons (.list (Expr.toJsonList_conforms args)) .nil)))
  | .ret none => by
    rw [Stmt.toJson]
    exact .unset rfl
  | .ret (some value) => by
    rw [Stmt.toJson]
    exact .tagged rfl rfl value.toJson_conforms

theorem Stmt.toJsonList_conforms : ∀ stmts : List Stmt,
    ∀ value ∈ Stmt.toJsonList stmts, Conforms (.choice .stmt) value
  | [] => nofun
  | stmt :: rest => by
    rw [Stmt.toJsonList]
    exact List.forall_mem_cons.mpr ⟨stmt.toJson_conforms, Stmt.toJsonList_conforms rest⟩

theorem Function.toJson_conforms : ∀ decl : Function, Conforms (.record .function) decl.toJson
  | ⟨ret, name, formals, body⟩ => by
    rw [Function.toJson]
    exact .record (.cons ret.toJson_conforms (.cons name.toJson_conforms
      (.cons (.map Formal.toJson_conforms) (.cons body.toJson_conforms .nil))))

theorem Decl.toJson_conforms : ∀ decl : Decl, Conforms (.choice .decl) decl.toJson
  | .var decl => by
    rw [Decl.toJson]
    exact .tagged rfl rfl decl.toJson_conforms
  | .func decl => by
    rw [Decl.toJson]
    exact .tagged rfl rfl decl.toJson_conforms
  | .struct decl => by
    rw [Decl.toJson]
    exact .tagged rfl rfl decl.toJson_conforms

theorem Decl.toJsonList_conforms : ∀ decls : List Decl,
    ∀ value ∈ Decl.toJsonList decls, Conforms (.choice .decl) value
  | [] => nofun
  | decl :: rest => by
    rw [Decl.toJsonList]
    exact List.forall_mem_cons.mpr ⟨decl.toJson_conforms, Decl.toJsonList_conforms rest⟩

end

/-- The document of a program has the form of a program. -/
theorem Program.toJson_conforms (program : Program) :
    Conforms (.record .program) program.toJson :=
  .record (.cons (.list (Decl.toJsonList_conforms program.decls)) .nil)

end NameBinding
