import NameBinding.Analysis.Declaration
import NameBinding.Analysis.Expression
import NameBinding.Analysis.Program
import NameBinding.Analysis.Reporting
import NameBinding.Analysis.Trace
import NameBinding.Command.Options
import NameBinding.Command.Run
import NameBinding.Decimal.Binary64
import NameBinding.Decimal.Shortest
import NameBinding.Diagnostic
import NameBinding.Files
import NameBinding.Json
import NameBinding.Json.Number
import NameBinding.Json.ReadError
import NameBinding.Json.Skip
import NameBinding.Json.Token
import NameBinding.Json.Value
import NameBinding.Main
import NameBinding.Position
import NameBinding.Proofs.Accounts
import NameBinding.Proofs.Annotation
import NameBinding.Proofs.Attachment
import NameBinding.Proofs.Balance
import NameBinding.Proofs.Bindings
import NameBinding.Proofs.Bodies
import NameBinding.Proofs.BoundNames
import NameBinding.Proofs.Chains
import NameBinding.Proofs.Conformance
import NameBinding.Proofs.CutShort
import NameBinding.Proofs.DeclarationErrors
import NameBinding.Proofs.Declared
import NameBinding.Proofs.ExpressionReadBack
import NameBinding.Proofs.FieldTables
import NameBinding.Proofs.FirstDeclared
import NameBinding.Proofs.FunctionSymbols
import NameBinding.Proofs.Layers
import NameBinding.Proofs.Leftovers
import NameBinding.Proofs.Lexing
import NameBinding.Proofs.OpaqueNames
import NameBinding.Proofs.Passing
import NameBinding.Proofs.Presentations
import NameBinding.Proofs.Presented
import NameBinding.Proofs.ReadBack
import NameBinding.Proofs.Reanalysis
import NameBinding.Proofs.Receivers
import NameBinding.Proofs.Relabeled
import NameBinding.Proofs.Relaying
import NameBinding.Proofs.ReportCounts
import NameBinding.Proofs.Reread
import NameBinding.Proofs.ScopeHistory
import NameBinding.Proofs.Scoping
import NameBinding.Proofs.SettingsFiles
import NameBinding.Proofs.SettingsText
import NameBinding.Proofs.SourceLayout
import NameBinding.Proofs.SourceLines
import NameBinding.Proofs.SourceOrder
import NameBinding.Proofs.SourceReadBack
import NameBinding.Proofs.SourceReader
import NameBinding.Proofs.SourceTokens
import NameBinding.Proofs.Spots
import NameBinding.Proofs.StructTypes
import NameBinding.Proofs.Surroundings
import NameBinding.Proofs.TableRows
import NameBinding.Proofs.Tables
import NameBinding.Proofs.Tokens
import NameBinding.Proofs.Traced
import NameBinding.Proofs.Truncation
import NameBinding.Proofs.TypeNames
import NameBinding.Proofs.Unannotated
import NameBinding.Proofs.UnusedName
import NameBinding.Proofs.UseErrors
import NameBinding.Proofs.Uses
import NameBinding.Proofs.Weakening
import NameBinding.Proofs.WithoutName
import NameBinding.Proofs.WithoutSymbols
import NameBinding.Report.Bindings
import NameBinding.Report.Counts
import NameBinding.Report.Document
import NameBinding.Report.Grid
import NameBinding.Report.Style
import NameBinding.Scope
import NameBinding.Scope.Indexed
import NameBinding.Session
import NameBinding.Settings
import NameBinding.Symbol
import NameBinding.SymbolTable
import NameBinding.Text.Controls
import NameBinding.Text.Lines
import NameBinding.Text.Quoted
import NameBinding.Text.Unprintable
import NameBinding.Text.Width
import NameBinding.Toml
import NameBinding.Toml.Reader
import NameBinding.Toml.Scalar
import NameBinding.Tree
import NameBinding.Tree.Document
import NameBinding.Tree.Form
import NameBinding.Tree.Occurrence
import NameBinding.Tree.Reader
import NameBinding.Tree.Source
import NameBinding.Tree.Text
