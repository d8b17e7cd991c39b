/-
This file holds spans: the lines of a document that a section, a code block or a
diagnostic is about. Lines are counted from one and both ends belong to the span.
A span may carry the byte offset of its first line.
-/

namespace LlmTxt

/-- A range of lines, both ends included, with the byte offset of the first where it is known. -/
structure Span where
  first : Nat
  last : Nat
  offset : Option Nat
deriving DecidableEq, Repr, Inhabited

namespace Span

/-- The span of one line. -/
def line (number : Nat) : Span :=
  ⟨number, number, none⟩

/-- The span of one line that begins at a known offset. -/
def lineAt (number offset : Nat) : Span :=
  ⟨number, number, some offset⟩

/-- A span from outside is refused unless its lines are counted from one and its offset is not
negative. -/
def ofNumbers? (first last : Int) (offset : Option Int) : Option Span :=
  if first < 1 || last < 1 then none
  else
    match offset with
    | none => some ⟨first.toNat, last.toNat, none⟩
    | some bytes => if bytes < 0 then none else some ⟨first.toNat, last.toNat, some bytes.toNat⟩

/-- A span as text: the line, or the first and the last with a dash between them. -/
def text (span : Span) : String :=
  if span.first = span.last then toString span.first
  else toString span.first ++ "-" ++ toString span.last

end Span

end LlmTxt
