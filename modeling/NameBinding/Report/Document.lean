/-
This file gives the documents of naming errors, for programs that read the reports.
-/

import NameBinding.Diagnostic
import NameBinding.Json

namespace NameBinding

namespace Position

/-- The document of the position of an error, its members in the order of the alphabet. -/
def toReport (pos : Position) : Json :=
  .obj [("column", .ofNat pos.column.toNat), ("line", .ofNat pos.line.toNat)]

end Position

namespace Diagnostic

/-- The document of an error. -/
def toReport (diagnostic : Diagnostic) : Json :=
  .obj [("kind", .str diagnostic.kind.text), ("message", .str diagnostic.message),
    ("pos", diagnostic.pos.toReport)]

end Diagnostic

namespace Diagnostics

/-- The document of the errors that have a kind. -/
def entriesReport (diagnostics : Diagnostics) : Json :=
  .arr (diagnostics.entries.map Diagnostic.toReport)

/-- The document of everything that was reported. -/
def toReport (diagnostics : Diagnostics) : Json :=
  .obj [("entries", diagnostics.entriesReport),
    ("unclassified", .arr (diagnostics.unclassified.map fun (pos, message) =>
      .arr [pos.toReport, .str message]))]

/-- The document of the counts. Its keys are in the order of the alphabet. -/
def countsReport (diagnostics : Diagnostics) : Json :=
  .obj ((diagnostics.countsByKind.map fun (kind, count) => (kind.text, Json.ofNat count)).mergeSort
    fun a b => a.1 ≤ b.1)

end Diagnostics

end NameBinding
