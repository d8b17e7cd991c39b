/-
This file holds a section of a document as reading leaves it: its kind and title,
the lines it spans, the body lines with a mark on those that belong to fenced
code, the headings inside it and its code blocks.
-/

import LlmTxt.Heading
import LlmTxt.Section.Kind
import LlmTxt.Span

namespace LlmTxt

open Text

/-- A body line of a section. Fences count as code, like the lines between them. -/
structure SourceLine where
  number : Nat
  text : String
  inCode : Bool
deriving DecidableEq, Repr

/-- A fenced code block; its span holds both fences. -/
structure CodeBlock where
  language : Option String
  code : String
  span : Span
deriving DecidableEq, Repr

/-- The line on which the code of a block begins. -/
def CodeBlock.firstCodeLine (block : CodeBlock) : Nat :=
  block.span.first + 1

/-- A top-level section of a document. -/
structure Section where
  kind : SectionKind
  title : String
  level : Nat
  moduleName : Option String
  span : Span
  lines : List SourceLine
  headings : List Heading
  codeBlocks : List CodeBlock
deriving DecidableEq, Repr

/-- A body line on which there is nothing but white space. -/
def SourceLine.isBlank (line : SourceLine) : Bool :=
  isAllBlank line.text.toList

namespace Section

/-- The body of a section as one text. -/
def body (part : Section) : String :=
  "\n".intercalate (part.lines.map (·.text))

/-- The body lines outside fenced code. -/
def prose (part : Section) : List SourceLine :=
  part.lines.filter fun line => !line.inCode

/-- Whether the body holds anything but white space. -/
def hasContent (part : Section) : Bool :=
  part.lines.any fun line => !line.isBlank

/-- The span of the heading alone, with the offset of the section. -/
def headingSpan (part : Section) : Span :=
  ⟨part.span.first, part.span.first, part.span.offset⟩

end Section

end LlmTxt
