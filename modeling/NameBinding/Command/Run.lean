/-
This file carries out command lines. A run reads settings and a tree from the files that it is given,
and ends with an exit code, what it printed, what it logged and the files as they are then. Nothing is
read or written before the arguments are known to be right.
-/

import NameBinding.Analysis.Program
import NameBinding.Command.Options
import NameBinding.Report.Bindings
import NameBinding.Report.Counts
import NameBinding.Report.Document
import NameBinding.Report.Style
import NameBinding.Tree.Source
import NameBinding.Tree.Text

namespace NameBinding

namespace CommandLine

/-- What a run leaves behind. -/
structure Outcome where
  exit : Nat := 0
  stdout : String := ""
  stderr : String := ""
  log : List LogEntry := []
  files : Files

/-- The name and the version that are printed when they are asked for. -/
def versionLine : String := "bach-resolve 0.0.1"

/-- Whether a value asks for short output. The size of ASCII letters does not matter. -/
def isQuietValue (value : String) : Bool :=
  value = "1" || String.ofList (value.toList.map Char.toLower) = "true"

/-- What a run is given besides its arguments. -/
structure Setup where
  files : Files
  /-- The wish for short output, as it stands in the environment. -/
  quiet : Option String := none
  /-- How messages look. -/
  theme : Theme := .plain

namespace Setup

/-- Whether output is to be short. -/
def isQuiet (setup : Setup) : Bool :=
  setup.quiet.any isQuietValue

end Setup

/-! ### Messages -/

/-- A heading. -/
def header (theme : Theme) (text : String) : String :=
  Icon.search ++ " " ++ theme.header.apply text ++ "\n"

/-- A success. -/
def success (theme : Theme) (text : String) : String :=
  Icon.check ++ " " ++ theme.success.apply text ++ "\n"

/-- A failure. -/
def failure (theme : Theme) (text : String) : String :=
  Icon.cross ++ " " ++ theme.error.apply text ++ "\n"

/-- A warning. -/
def warning (theme : Theme) (text : String) : String :=
  Icon.warn ++ " " ++ theme.warn.apply text ++ "\n"

/-- The heading of a section, after an empty line. -/
def sectionTitle (theme : Theme) (title : String) : String :=
  "\n━" ++ theme.header.apply title ++ "━\n"

/-- A number with its name. -/
def summaryRow (theme : Theme) (label : String) (value : Nat) : String :=
  "  " ++ theme.dim.apply label ++ " " ++ value.repr ++ "\n"

/-- The line of a naming error. -/
def diagnosticLine (theme : Theme) (diagnostic : Diagnostic) : String :=
  theme.position.apply diagnostic.pos.text ++ " " ++ theme.error.apply "***ERROR***" ++ " " ++
    diagnostic.message ++ "\n"

/-- The lines of naming errors. -/
def diagnosticLines (theme : Theme) (diagnostics : Diagnostics) : String :=
  String.join (diagnostics.entries.map (diagnosticLine theme))

/-! ### Actions -/

/-- Why an action cannot be carried out. -/
inductive Failure
  | settings (reason : SettingsError)
  | unknownKind (text : String)
  | file (reason : FileError)
  | tree (reason : ReadError)
deriving DecidableEq

namespace Failure

/-- The wording of a failure. -/
def message : Failure → String
  | settings reason => reason.message
  | unknownKind text => "Unknown symbol kind: " ++ text
  | file reason => "IO error: " ++ reason.message
  | tree reason => "Malformed syntax tree: " ++ reason.message

end Failure

/-- The kind of symbols that is asked for. -/
def kindOf (text : String) : Except Failure SymbolKind :=
  match SymbolKind.ofText? text with
  | some kind => .ok kind
  | none => .error (.unknownKind text)

/-- Reads the program in a file. -/
def readTree (files : Files) (name : String) : Except Failure Program :=
  match files.read name with
  | .error reason => .error (.file reason)
  | .ok text =>
    match Program.ofText text with
    | .ok program => .ok program
    | .error reason => .error (.tree reason)

/-- What an action prints, apart from what it logs. -/
structure Printed where
  stdout : String := ""
  stderr : String := ""
  hasErrors : Bool := false

/-- The settings of a run, with the format of the command line before that of the file. -/
structure Effective where
  format : OutputFormat
  indent : Nat
  annotate : Bool

/-- What a check prints for people. -/
def checkForHumans (setup : Setup) (effective : Effective) (file : String) (program : Program)
    (diagnostics : Diagnostics) : Printed :=
  let theme := setup.theme
  let body :=
    (if setup.isQuiet then "" else header theme ("Name analysis: " ++ file)) ++
      diagnosticLines theme diagnostics ++
      (if effective.annotate then
        sectionTitle theme "Annotated source" ++ program.source effective.indent
      else "")
  let hasErrors := diagnostics.hasErrors
  if setup.isQuiet then { stdout := body, hasErrors }
  else if diagnostics.isEmpty then
    { stdout := body ++ success theme "No naming errors.", hasErrors }
  else
    { stdout := body ++ sectionTitle theme "Summary" ++ diagnostics.table ++ "\n"
      stderr := failure theme (diagnostics.size.repr ++ " error(s) found")
      hasErrors }

/-- The document that a check prints for programs. -/
def checkReport (file : String) (program : Program) (diagnostics : Diagnostics) : Json :=
  .obj [("counts", diagnostics.countsReport), ("diagnostics", diagnostics.entriesReport),
    ("file", .str file), ("unbound", .ofNat program.unbound.length)]

/-- What a check prints. -/
def check (setup : Setup) (effective : Effective) (file : String) (program : Program)
    (diagnostics : Diagnostics) : Printed :=
  match effective.format with
  | .human => checkForHumans setup effective file program diagnostics
  | .json =>
    { stdout := (checkReport file program diagnostics).pretty ++ "\n"
      hasErrors := diagnostics.hasErrors }

/-- What the display of a program prints. -/
def unparse (setup : Setup) (effective : Effective) (program : Program)
    (diagnostics : Diagnostics) : Printed :=
  let source := program.source effective.indent
  let hasErrors := diagnostics.hasErrors
  match effective.format with
  | .human => { stdout := source ++ diagnosticLines setup.theme diagnostics, hasErrors }
  | .json =>
    { stdout := (Json.obj [("diagnostics", diagnostics.toReport), ("source", .str source)]).pretty ++
        "\n"
      hasErrors }

/-- What the list of bindings prints. -/
def bindings (setup : Setup) (effective : Effective) (kind : Option SymbolKind) (program : Program)
    (diagnostics : Diagnostics) : Printed :=
  let rows := program.bindingRows kind
  let hasErrors := diagnostics.hasErrors
  match effective.format with
  | .json => { stdout := (Json.arr (rows.map BindingRow.toJson)).pretty ++ "\n", hasErrors }
  | .human =>
    let summary :=
      if setup.isQuiet then ""
      else summaryRow setup.theme "Identifiers:" rows.length ++
        summaryRow setup.theme "Diagnostics:" diagnostics.size
    if rows.isEmpty then
      { stdout := summary, stderr := warning setup.theme "No matching identifiers.", hasErrors }
    else { stdout := bindingsTable rows ++ "\n" ++ summary, hasErrors }

/-! ### Runs -/

/-- A run so far: what it logged, and its result or the failure that ended it. -/
abbrev Run := ExceptT Failure (StateM (List LogEntry))

/-- Adds entries to the log. -/
def log (entries : List LogEntry) : Run Unit :=
  modify (· ++ entries)

/-- Goes on with a result, or ends the run. -/
def attempt {α : Type} (result : Except Failure α) : Run α :=
  match result with
  | .ok value => pure value
  | .error reason => throw reason

/-- Loads the settings. -/
def loadSettings (setup : Setup) (shared : Shared) : Run Settings := do
  match Settings.load setup.files shared.config with
  | .error reason => throw (.settings reason)
  | .ok none =>
    log [⟨.debug, "no " ++ Settings.defaultName ++ " found, using defaults"⟩]
    return {}
  | .ok (some settings) =>
    log [⟨.debug, "loaded config from " ++ shared.config.getD Settings.defaultName⟩]
    return settings

/-- The settings in effect. -/
def effectiveOf (shared : Shared) (settings : Settings) : Effective :=
  { format := shared.format.getD settings.effectiveFormat
    indent := settings.effectiveIndent
    annotate := settings.effectiveAnnotate }

/-- Reads the program that an action is about. -/
def openTree (setup : Setup) (file : String) : Run Program := do
  log [⟨.info, "Reading syntax tree from " ++ file⟩]
  let program ← attempt (readTree setup.files file)
  log [⟨.debug, program.decls.length.repr ++ " top-level declarations"⟩]
  return program

/-- Analyses a program and logs what happens. -/
def analyzeTree (program : Program) : Run (Program × Diagnostics) := do
  let outcome := program.analyze
  log (outcome.trace.log true)
  return (outcome.value, outcome.trace.deliver {})

/-- Carries out an action on a program. -/
def actOn (setup : Setup) (shared : Shared) : Action → Run (Printed × Files)
  | .check file => do
    let effective := effectiveOf shared (← loadSettings setup shared)
    let (program, diagnostics) ← analyzeTree (← openTree setup file)
    return (check setup effective file program diagnostics, setup.files)
  | .unparse file annotate => do
    let effective := effectiveOf shared (← loadSettings setup shared)
    let program ← openTree setup file
    let (program, diagnostics) ←
      if annotate || effective.annotate then analyzeTree program else pure (program, {})
    return (unparse setup effective program diagnostics, setup.files)
  | .bindings file kind => do
    let effective := effectiveOf shared (← loadSettings setup shared)
    let kind ← attempt (kind.mapM kindOf)
    let (program, diagnostics) ← analyzeTree (← openTree setup file)
    return (bindings setup effective kind program diagnostics, setup.files)
  | .init force => do
    let name := shared.config.getD Settings.defaultName
    match Settings.write setup.files name Settings.starter force with
    | .error reason => throw (.settings reason)
    | .ok files =>
      let stdout := if setup.isQuiet then "" else success setup.theme ("Wrote " ++ name)
      return ({ stdout }, files)

/-- Whether an entry of the log is shown. -/
def isShown (verbose : Bool) (entry : LogEntry) : Bool :=
  match entry.level with
  | .trace => false
  | .debug => verbose
  | .info => true
  | .warn => true

/-- Carries out a command line. -/
def run (setup : Setup) (arguments : List String) : Outcome :=
  match parse arguments with
  | .error .version => { stdout := versionLine ++ "\n", files := setup.files }
  | .error .help => { files := setup.files }
  | .error .wrongUse => { exit := 2, files := setup.files }
  | .ok (shared, action) =>
    let (result, entries) := (actOn setup shared action).run.run []
    let log := entries.filter (isShown shared.verbose)
    match result with
    | .ok (printed, files) =>
      { exit := if printed.hasErrors then 1 else 0, stdout := printed.stdout
        stderr := printed.stderr, log, files }
    | .error reason =>
      { exit := 1, stderr := "Error: " ++ reason.message ++ "\n", log, files := setup.files }

end CommandLine

end NameBinding
