/-
This file reads the arguments of the command line. Some options may stand before the name of the
action or after it, and then the later place counts; within one place an option may be given once. An
option with a value takes it from the same argument or from the next one, unless that begins with a
dash. After two dashes everything is the name of a file. Whatever does not fit is a wrong use, which is
noticed from left to right unless a request for the version or for help comes first. A value that
stands in an argument of its own is looked at when the next option or file name comes, and one before
the name of the action after everything else.
-/

import NameBinding.Settings

namespace NameBinding

namespace CommandLine

/-- What the command line is to do. -/
inductive Action
  | check (file : String)
  | unparse (file : String) (annotate : Bool)
  | bindings (file : String) (kind : Option String)
  | init (force : Bool)
deriving DecidableEq

/-- The options of every action. -/
structure Shared where
  verbose : Bool := false
  config : Option String := none
  format : Option OutputFormat := none
deriving DecidableEq

/-- Why there is nothing to run. -/
inductive Stop
  | version
  | help
  | wrongUse
deriving DecidableEq

/-! ### The options of one place -/

/-- An option that can be given. -/
structure Switch where
  long : String
  short : Option Char := none
  /-- Which values the option takes, if it takes one. -/
  accepts : Option (String → Bool) := none

/-- The options of every action. -/
def sharedSwitches : List Switch :=
  [{ long := "verbose", short := some 'v' },
    { long := "config", short := some 'c', accepts := some fun value => value ≠ "" },
    { long := "format", short := some 'f', accepts := some OutputFormat.names.contains }]

/-- The name of a file, which is a value that no word leads to. -/
def fileSwitch : Switch :=
  { long := "file", accepts := some fun value => value ≠ "" }

/-- What was given in one place. -/
structure Given where
  /-- The options with their values. -/
  values : List (String × String) := []
  /-- An option whose value stood in an argument of its own, and has not been looked at yet. -/
  unchecked : Option (Switch × String) := none

namespace Given

/-- Whether an option was given. -/
def has (given : Given) (long : String) : Bool :=
  (given.values.lookup long).isSome

/-- Adds an option with its value. It must be new, and the value one that it takes. -/
def add (given : Given) (switch : Switch) (value : String) : Except Stop Given :=
  if given.has switch.long ∨ switch.accepts.any (fun accepts => accepts value = false) then
    .error .wrongUse
  else .ok { given with values := given.values ++ [(switch.long, value)] }

/-- Looks at the value that has not been looked at. -/
def settle (given : Given) : Except Stop Given :=
  match given.unchecked with
  | none => .ok given
  | some (switch, value) => { given with unchecked := none }.add switch value

end Given

/-- Whether an argument is made of options, so that it is no value. -/
def isDashed (argument : String) : Bool :=
  argument.startsWith "-" && argument ≠ "-"

/-- An option whose value is still to come. -/
structure Pending where
  given : Given
  switch : Option Switch

/-- Reads the letters after a dash. The rest after a letter with a value is that value, with or
without a sign of equality before it. -/
def letters (switches : List Switch) (top : Bool) : Given → List Char → Except Stop Pending
  | given, [] => .ok ⟨given, none⟩
  | given, c :: rest =>
    match switches.find? fun switch => switch.short = some c with
    | none =>
      if c = 'h' then .error .help
      else if c = 'V' ∧ top then .error .version
      else .error .wrongUse
    | some switch =>
      match switch.accepts with
      | none => do
        let given ← given.add switch ""
        letters switches top given rest
      | some _ =>
        match rest with
        | [] => .ok ⟨given, some switch⟩
        | '=' :: value => do
          let given ← given.add switch (String.ofList value)
          .ok ⟨given, none⟩
        | value => do
          let given ← given.add switch (String.ofList value)
          .ok ⟨given, none⟩

/-- Reads a word after two dashes. What stands after a sign of equality is its value. -/
def longWord (switches : List Switch) (top : Bool) (given : Given) (word : List Char) :
    Except Stop Pending :=
  let name := String.ofList (word.takeWhile (· ≠ '='))
  let value : Option String := match word.dropWhile (· ≠ '=') with
    | [] => none
    | _ :: value => some (String.ofList value)
  match switches.find? fun switch => switch.long = name with
  | none =>
    if name = "help" ∧ value.isNone then .error .help
    else if name = "version" ∧ value.isNone ∧ top then .error .version
    else .error .wrongUse
  | some switch =>
    match switch.accepts, value with
    | none, none => do
      let given ← given.add switch ""
      .ok ⟨given, none⟩
    | none, some _ => .error .wrongUse
    | some _, none => .ok ⟨given, some switch⟩
    | some _, some value => do
      let given ← given.add switch value
      .ok ⟨given, none⟩

/-- Reads one argument that is made of options. The value before it is looked at first. -/
def dashed (switches : List Switch) (top : Bool) (given : Given) (argument : String) :
    Except Stop Pending := do
  let given ← given.settle
  match argument.toList with
  | '-' :: '-' :: word => longWord switches top given word
  | '-' :: word => letters switches top given word
  | _ => .error .wrongUse

/-- Reads the arguments before the name of the action. Gives that name and the arguments after it. -/
def beforeAction (given : Given) : Option Switch → List String →
    Except Stop (Given × String × List String)
  | _, [] => .error .wrongUse
  | some switch, value :: rest => do
    if isDashed value then .error .wrongUse
    else beforeAction { given with unchecked := some (switch, value) } none rest
  | none, argument :: rest => do
    if argument = "--" then .error .wrongUse
    else if isDashed argument then
      let pending ← dashed sharedSwitches true given argument
      beforeAction pending.given pending.switch rest
    else .ok (given, argument, rest)

/-- Takes arguments as names of files. One name is allowed at most, where the action takes any. -/
def takeFiles (takesFile : Bool) : Given → List String → Except Stop Given
  | given, [] => .ok given
  | given, name :: rest => do
    let given ← given.settle
    if takesFile = true ∧ given.has fileSwitch.long = false then
      takeFiles takesFile { given with unchecked := some (fileSwitch, name) } rest
    else .error .wrongUse

/-- Reads the arguments after the name of the action. -/
def afterAction (switches : List Switch) (takesFile : Bool) (given : Given) : Option Switch →
    List String → Except Stop Given
  | some _, [] => .error .wrongUse
  | none, [] => given.settle
  | some switch, value :: rest => do
    if isDashed value then .error .wrongUse
    else afterAction switches takesFile { given with unchecked := some (switch, value) } none rest
  | none, argument :: rest => do
    if argument = "--" then
      let given ← takeFiles takesFile given rest
      given.settle
    else if isDashed argument then
      let pending ← dashed switches false given argument
      afterAction switches takesFile pending.given pending.switch rest
    else
      let given ← takeFiles takesFile given [argument]
      afterAction switches takesFile given none rest

/-! ### The whole command line -/

/-- The options that an action has besides those of every action, and whether it takes a file. -/
def actionSwitches : String → Option (List Switch × Bool)
  | "check" => some ([], true)
  | "unparse" => some ([{ long := "annotate", short := some 'a' }], true)
  | "bindings" => some ([{ long := "kind", short := some 'k', accepts := some fun _ => true }], true)
  | "init" => some ([{ long := "force" }], false)
  | _ => none

/-- The file of an action that needs one. -/
def theFile (given : Given) : Except Stop String :=
  match given.values.lookup fileSwitch.long with
  | some file => .ok file
  | none => .error .wrongUse

/-- The action with a name. -/
def actionOf (name : String) (given : Given) : Except Stop Action := do
  match name with
  | "check" => return .check (← theFile given)
  | "unparse" => return .unparse (← theFile given) (given.has "annotate")
  | "bindings" => return .bindings (← theFile given) (given.values.lookup "kind")
  | "init" => return .init (given.has "force")
  | _ => .error .wrongUse

/-- The options of every action, where the place after the name of the action counts first. -/
def sharedOf (before after : Given) : Shared :=
  let value (long : String) : Option String := (after.values.lookup long).or (before.values.lookup long)
  { verbose := before.has "verbose" || after.has "verbose"
    config := value "config"
    format := (value "format").bind OutputFormat.ofText? }

/-- What can be asked for help with: any of the actions, and help itself. -/
def helpTopics : List String := ["check", "unparse", "bindings", "init", "help"]

/-- Whether the arguments after a request for help are right: one topic at most, and nothing else. -/
def isHelpRequest : List String → Bool
  | [] => true
  | [topic] => helpTopics.contains topic
  | _ => false

/-- Reads a command line. -/
def parse (arguments : List String) : Except Stop (Shared × Action) := do
  let (before, name, rest) ← beforeAction {} none arguments
  if name = "help" then .error (if isHelpRequest rest then .help else .wrongUse)
  else
    match actionSwitches name with
    | none => .error .wrongUse
    | some (switches, takesFile) =>
      let after ← afterAction (sharedSwitches ++ switches) takesFile {} none rest
      let before ← before.settle
      let action ← actionOf name after
      return (sharedOf before after, action)

end CommandLine

end NameBinding
