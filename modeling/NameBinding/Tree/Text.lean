/-
This file reads the parts of a tree from text, and writes a program as text. Reading goes over the
document of the part, which has the one shape that a tree is written in, whatever the text looked
like. Such a document always is that of a tree.
-/

import NameBinding.Tree.Document
import NameBinding.Tree.Reader

namespace NameBinding

/-- Reads a text as a document of a form, and the document as a part of a tree. A document of the
form has a tree, so the last case does not arise. -/
def readAs {α : Type} (form : Form) (ofJson? : Json → Option α) (text : String) :
    Except ReadError α := do
  match ofJson? (← Reader.document form text) with
  | some tree => .ok tree
  | none => .error .expectedValue

namespace Program

/-- Reads a program. -/
def ofText (text : String) : Except ReadError Program :=
  readAs (.record .program) Program.ofJson? text

/-- The text of a program. -/
def text (program : Program) : String :=
  program.toJson.text

end Program

namespace Expr

/-- Reads an expression. -/
def ofText (text : String) : Except ReadError Expr :=
  readAs (.choice .expr) Expr.ofJson? text

end Expr

namespace Stmt

/-- Reads a statement. -/
def ofText (text : String) : Except ReadError Stmt :=
  readAs (.choice .stmt) Stmt.ofJson? text

end Stmt

namespace Decl

/-- Reads a list of declarations. -/
def listOfText (text : String) : Except ReadError (List Decl) :=
  readAs (.list (.choice .decl))
    (fun
      | .arr items => Decl.ofJsonList? items
      | _ => none) text

end Decl

namespace Function

/-- Reads the declaration of a function. -/
def ofText (text : String) : Except ReadError Function :=
  readAs (.record .function) Function.ofJson? text

end Function

namespace StructDecl

/-- Reads the declaration of a struct. -/
def ofText (text : String) : Except ReadError StructDecl :=
  readAs (.record .structDecl) StructDecl.ofJson? text

end StructDecl

namespace VarDecl

/-- Reads the declaration of a variable. -/
def ofText (text : String) : Except ReadError VarDecl :=
  readAs (.record .varDecl) VarDecl.ofJson? text

/-- Reads a list of declarations of variables. -/
def listOfText (text : String) : Except ReadError (List VarDecl) :=
  readAs (.list (.record .varDecl))
    (fun
      | .arr items => ofJsonItems? VarDecl.ofJson? items
      | _ => none) text

end VarDecl

end NameBinding
