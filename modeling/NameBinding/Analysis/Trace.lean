/-
This file defines the account that an analysis gives of itself. Everything that happens, in the order
in which it happens, is an event: the naming errors, but also each binding, each declaration and each
scope that is opened or closed. What an error receiver is told and what a log shows are two views of
the same list of events, so neither can influence the analysis.
-/

import NameBinding.Diagnostic
import NameBinding.SymbolTable
import NameBinding.Text.Controls
import NameBinding.Text.Lines

namespace NameBinding

/-- A thing that happens during an analysis. -/
inductive Event
  /-- A naming error. -/
  | reported (diagnostic : Diagnostic)
  /-- A whole program with this many declarations is taken up. -/
  | programEntered (declarations : Nat)
  /-- A variable, a formal or a field was declared. -/
  | declared (name : String) (symbol : Symbol)
  /-- A function was declared. -/
  | declaredFunction (name : String)
  /-- A function had the types of its parameters before they were to be attached. -/
  | attachRefused (name : String)
  /-- The body of a struct was read. -/
  | structRead (name : String) (fields : Nat)
  /-- A reference was bound. -/
  | bound (name : String) (pos : Position) (symbol : Symbol)
  /-- The field of an access was bound. -/
  | boundField (name : String) (pos : Position) (symbol : Symbol)
  /-- A scope was opened, which makes this many. -/
  | scopeEntered (depth : Nat)
  /-- A scope was closed, which leaves this many. -/
  | scopeLeft (depth : Nat)
  /-- A scope was to be closed where there was none. -/
  | leaveRefused
  /-- A function among the fields of a struct was passed over. -/
  | skippedFunction (name : String)
  /-- A struct among the fields of a struct was passed over. -/
  | skippedStruct (name : String)
  /-- A name could not be declared, for a reason that is no naming error. -/
  | undeclarable (name : String) (reason : TableError)
  /-- A name could not be looked up. -/
  | unresolvable (name : String) (reason : TableError)

/-- The events of an analysis, first to last. -/
abbrev Trace := List Event

namespace Trace

/-- The naming errors of a trace. -/
def diagnostics (trace : Trace) : List Diagnostic :=
  trace.filterMap fun
    | .reported diagnostic => some diagnostic
    | _ => none

/-- Hands the naming errors of a trace to a receiver. -/
def deliver {σ : Type} [Sink σ] (trace : Trace) (sink : σ) : σ :=
  trace.diagnostics.foldl Sink.report sink

/-- How many times a scope was to be closed where there was none. -/
def underflows (trace : Trace) : Nat :=
  (trace.filter fun
    | .leaveRefused => true
    | _ => false).length

end Trace

/-! ### Values with a trace -/

/-- A value and the events on the way to it. -/
structure Traced (α : Type) where
  value : α
  trace : Trace

namespace Traced

/-- The events of a first step come before those of the second. -/
instance : Monad Traced where
  pure value := ⟨value, []⟩
  bind first next :=
    let second := next first.value
    ⟨second.value, first.trace ++ second.trace⟩

end Traced

/-- Lets an event happen. -/
def note (event : Event) : Traced Unit :=
  ⟨(), [event]⟩

/-- Reports a naming error. -/
def report (kind : DiagnosticKind) (pos : Position) : Traced Unit :=
  note (.reported ⟨kind, pos⟩)

/-! ### The log -/

/-- How much an entry of the log matters. -/
inductive LogLevel
  | trace
  | debug
  | info
  | warn
deriving DecidableEq

namespace LogLevel

/-- The word that stands before an entry of this level. -/
def text : LogLevel → String
  | trace => "TRACE"
  | debug => "DEBUG"
  | info => "INFO"
  | warn => "WARN"

end LogLevel

/-- An entry of the log. -/
structure LogEntry where
  level : LogLevel
  message : String
deriving DecidableEq

namespace LogEntry

/-- The lines of an entry: its level and its message, with a line break at the end. The line breaks of
the message itself make it longer than one line. -/
def lines (entry : LogEntry) : List String :=
  linesOf (entry.level.text ++ " " ++ harmless entry.message ++ "\n")

end LogEntry

namespace Event

/-- The entry that an event leaves in the log. A naming error leaves one only if it is received by its
kind. -/
def logEntry? (byKind : Bool) : Event → Option LogEntry
  | reported diagnostic =>
    if byKind then some ⟨.trace, diagnostic.message ++ " at " ++ diagnostic.pos.text⟩ else none
  | programEntered declarations =>
    some ⟨.debug, "name analysis: " ++ declarations.repr ++ " top-level declarations"⟩
  | declared name symbol => some ⟨.trace, "declared " ++ name ++ " : " ++ symbol.descriptor⟩
  | declaredFunction name => some ⟨.trace, "declared function " ++ name⟩
  | attachRefused _ => none
  | structRead name fields =>
    some ⟨.debug, "struct " ++ name ++ " with " ++ fields.repr ++ " fields"⟩
  | bound name pos symbol =>
    some ⟨.trace, "bound " ++ name ++ " at " ++ pos.text ++ " to " ++ symbol.descriptor⟩
  | boundField name pos symbol =>
    some ⟨.trace, "bound field " ++ name ++ " at " ++ pos.text ++ " to " ++ symbol.descriptor⟩
  | scopeEntered depth => some ⟨.debug, "push scope (depth " ++ depth.repr ++ ")"⟩
  | scopeLeft depth => some ⟨.debug, "pop scope (depth " ++ depth.repr ++ ")"⟩
  | leaveRefused => some ⟨.warn, "ignoring scope pop: " ++ TableError.scopeUnderflow.message⟩
  | skippedFunction name =>
    some ⟨.warn, "skipping function '" ++ name ++ "' inside a struct body"⟩
  | skippedStruct name => some ⟨.warn, "skipping struct '" ++ name ++ "' inside a struct body"⟩
  | undeclarable name reason =>
    some ⟨.warn, "could not declare '" ++ name ++ "': " ++ reason.message⟩
  | unresolvable name reason =>
    some ⟨.warn, "cannot resolve '" ++ name ++ "': " ++ reason.message⟩

end Event

namespace Trace

/-- The entries that a trace leaves in the log. -/
def log (byKind : Bool) (trace : Trace) : List LogEntry :=
  trace.filterMap (Event.logEntry? byKind)

end Trace

end NameBinding
