import ScriptLint.Text.Line
import ScriptLint.Text.Range

/-!
# Documents

A document is a list of lines that is never empty. A text is cut into lines at each line feed, and a
carriage return at the end of a line is dropped, so that a text has the same columns whichever of
the two line endings it was written with. The empty text is one empty line (`SourceDocument` in §3 of
`SPEC_FULL.md`).
-/

namespace ScriptLint

/-- A text, as its lines. -/
structure Document where
  lines : List Line
  nonempty : lines ≠ []
  deriving DecidableEq, Repr

namespace Document

/-- The line without the carriage return that it may end in. -/
def dropReturn (line : Line) : Line :=
  if line.getLast? = some '\r' then line.dropLast else line

/-- The lines of a text. -/
def splitLines (text : List Char) : List Line := (text.splitOn '\n').map dropReturn

theorem splitLines_ne_nil (text : List Char) : splitLines text ≠ [] := by
  simp [splitLines, List.splitOn_ne_nil]

/-- The document of a text. -/
def ofText (text : String) : Document := ⟨splitLines text.toList, splitLines_ne_nil _⟩

/-- The document with the given lines, of which there has to be one. -/
def ofLines (lines : List Line) : Except Fault Document :=
  if h : lines ≠ [] then .ok ⟨lines, h⟩ else .error .noLines

/-- The document of a value, which has to be a text. -/
def ofValue : Value → Except Fault Document
  | .text s => .ok (ofText s)
  | v => .error (.notText v.kind)

/-- How many lines the document has. -/
def lineCount (d : Document) : Nat := d.lines.length

/-- The index of the last line. -/
def lastIndex (d : Document) : Nat := d.lines.length - 1

/-- The fault of an index that the document does not have. It tells the index, if that can be
written: the sign is not one of its digits. -/
def outside (d : Document) (index : Int) : Fault :=
  match Numeral.write index.natAbs with
  | .ok _ => .lineOutside index d.lineCount
  | .error fault => fault

/-- The line at an index, which has to be one of the document's. -/
def line (d : Document) (index : Int) : Except Fault Line :=
  match index with
  | .ofNat i =>
    match d.lines[i]? with
    | some line => .ok line
    | none => .error (d.outside index)
  | .negSucc _ => .error (d.outside index)

/-- The range of all of a line. -/
def wholeLine (d : Document) (index : Int) : Except Fault Range := do
  let line ← d.line index
  Range.ofColumns index (Span.wholeLine line.length).columns

/-- Whether both ends of a range are places in the document: each is on one of its lines and not
past that line's end. -/
def contains (d : Document) (r : Range) : Bool :=
  match d.lines[r.start.line]?, d.lines[r.stop.line]? with
  | some first, some last => r.start.column ≤ first.length && r.stop.column ≤ last.length
  | _, _ => false

end Document

end ScriptLint
