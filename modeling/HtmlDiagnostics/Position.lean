import HtmlDiagnostics.Json

/-! # Places in the source

* **`Point`** — a place: line and column for readers, an offset for programs.
* **`Span`** — the range between two places.
* **`Point.label`**, **`Span.label`** — how a place and a range are written.
* **`Point.toJson`**, **`Span.toJson`** — the same for programs.

The numbers come from the parser as they are and may be any integers. Those of a label are written
one after the other, so a line or a column with too many digits leaves the label unwritten. -/

namespace HtmlDiagnostics

/-- A place in the source. -/
structure Point where
  /-- The line, counted from one. -/
  line : Int
  /-- The column, counted from one. -/
  column : Int
  /-- The number of code points in front of the place. -/
  offset : Int
  deriving DecidableEq

/-- A range of the source. -/
structure Span where
  /-- The place of the first code point. -/
  start : Point
  /-- The place after the last code point. -/
  stop : Point
  deriving DecidableEq

/-- A place as line and column. -/
def Point.label (p : Point) : Except WriteError Text := do
  let line ← Text.writeInt p.line
  let column ← Text.writeInt p.column
  return line ++ ":" ++ column

/-- A range as its two places. -/
def Span.label (s : Span) : Except WriteError Text := do
  let start ← s.start.label
  let stop ← s.stop.label
  return start ++ "-" ++ stop

/-- A place as a JSON object. -/
def Point.toJson (p : Point) : Json :=
  .object [("line", .integer p.line), ("column", .integer p.column), ("offset", .integer p.offset)]

/-- A range as a JSON object. -/
def Span.toJson (s : Span) : Json :=
  .object [("start", s.start.toJson), ("end", s.stop.toJson)]

end HtmlDiagnostics
