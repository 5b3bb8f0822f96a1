/-
This file says how messages look on a terminal. In a coloured theme a text has a colour and a weight;
in a plain one it is left as it is.
-/

namespace NameBinding

/-- The look of a text: the codes that are switched on before it. -/
structure Style where
  codes : List String
deriving DecidableEq

namespace Style

/-- The character that begins a control sequence of a terminal. -/
def escape : String := "\x1b["

/-- A text in this style. -/
def apply (style : Style) (text : String) : String :=
  match style.codes with
  | [] => text
  | codes => escape ++ String.intercalate ";" codes ++ "m" ++ text ++ escape ++ "0m"

end Style

/-- The looks of the parts of a report. -/
structure Theme where
  header : Style
  success : Style
  error : Style
  warn : Style
  position : Style
  dim : Style
deriving DecidableEq

namespace Theme

/-- Nothing is added to any text. -/
def plain : Theme :=
  { header := ⟨[]⟩, success := ⟨[]⟩, error := ⟨[]⟩, warn := ⟨[]⟩, position := ⟨[]⟩, dim := ⟨[]⟩ }

/-- Bold colours, bold positions, and a faint white for what matters less. -/
def colored : Theme :=
  { header := ⟨["36", "1"]⟩, success := ⟨["32", "1"]⟩, error := ⟨["31", "1"]⟩
    warn := ⟨["33", "1"]⟩, position := ⟨["1"]⟩, dim := ⟨["37", "2"]⟩ }

end Theme

namespace Icon

/-- The sign before a heading. -/
def search : String := "🔍"

/-- The sign before a success. -/
def check : String := "✅"

/-- The sign before a failure. -/
def cross : String := "❌"

/-- The sign before a warning. -/
def warn : String := "⚠️"

end Icon

end NameBinding
