import HtmlDiagnostics.Position
import HtmlDiagnostics.Text.Quoted

/-! # Events of a parser

A parser tells of a parse error while it runs. On the wire an event is a record in which fields
may be missing; an event can be used once all its fields are there.

* **`Event`** — a rule code and a range.
* **`RawEvent`** — an event as it arrives.
* **`RawEvent.read`** — the event, or the first field that is missing. -/

namespace HtmlDiagnostics

/-- A parse error as the parser tells of it. -/
structure Event where
  /-- The code of the rule, in hyphen case. -/
  code : Text
  /-- Where the error is. -/
  span : Span
  deriving DecidableEq

/-- A field of an event on the wire. -/
inductive EventField where
  /-- The code of the rule. -/
  | code
  /-- The line of the first code point. -/
  | startLine
  /-- The column of the first code point. -/
  | startColumn
  /-- The offset of the first code point. -/
  | startOffset
  /-- The line after the last code point. -/
  | endLine
  /-- The column after the last code point. -/
  | endColumn
  /-- The offset after the last code point. -/
  | endOffset
  deriving DecidableEq

/-- The name of a field on the wire. -/
def EventField.wireName : EventField → Text
  | .code => "code"
  | .startLine => "startLine"
  | .startColumn => "startCol"
  | .startOffset => "startOffset"
  | .endLine => "endLine"
  | .endColumn => "endCol"
  | .endOffset => "endOffset"

/-- An event as it arrives: every field may be missing. -/
structure RawEvent where
  /-- The code of the rule. -/
  code : Option Text
  /-- The line of the first code point. -/
  startLine : Option Int
  /-- The column of the first code point. -/
  startColumn : Option Int
  /-- The offset of the first code point. -/
  startOffset : Option Int
  /-- The line after the last code point. -/
  endLine : Option Int
  /-- The column after the last code point. -/
  endColumn : Option Int
  /-- The offset after the last code point. -/
  endOffset : Option Int
  deriving DecidableEq

/-- An event with all its fields, as it travels. -/
def Event.toRaw (e : Event) : RawEvent where
  code := some e.code
  startLine := some e.span.start.line
  startColumn := some e.span.start.column
  startOffset := some e.span.start.offset
  endLine := some e.span.stop.line
  endColumn := some e.span.stop.column
  endOffset := some e.span.stop.offset

/-- A field that has to be there. -/
def EventField.require {α : Type} (field : EventField) : Option α → Except EventField α
  | some value => .ok value
  | none => .error field

/-- The event that has arrived, or its first missing field in the order code, start, end. -/
def RawEvent.read (raw : RawEvent) : Except EventField Event := do
  let code ← EventField.code.require raw.code
  let startLine ← EventField.startLine.require raw.startLine
  let startColumn ← EventField.startColumn.require raw.startColumn
  let startOffset ← EventField.startOffset.require raw.startOffset
  let endLine ← EventField.endLine.require raw.endLine
  let endColumn ← EventField.endColumn.require raw.endColumn
  let endOffset ← EventField.endOffset.require raw.endOffset
  return ⟨code, ⟨⟨startLine, startColumn, startOffset⟩, ⟨endLine, endColumn, endOffset⟩⟩⟩

/-- The message about a missing field: its name between quotes. -/
def EventField.missingMessage (field : EventField) : Text := field.wireName.quoted

/-- Reading an event with all its fields gives the event. -/
@[simp] theorem Event.read_toRaw (e : Event) : e.toRaw.read = .ok e := rfl

end HtmlDiagnostics
