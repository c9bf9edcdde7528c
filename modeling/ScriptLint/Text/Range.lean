import ScriptLint.Text.Position

/-!
# Ranges and spans

A range is half open: it holds its start and every position before its stop. The type carries the
order of the two ends, so an ill-formed range cannot be written down; `Range.between` is the only
place where two positions are checked (`TextRange` in §3 of `SPEC_FULL.md`).

Columns of a line are given in two ways. A `Span` is where something was found, and can always be put
on a line (`Range.onLine`). `Columns` are computed, and may turn out to be negative or in the wrong
order, which `Range.ofColumns` refuses. The columns of a span pass (`Range.ofColumns_columns`).
-/

namespace ScriptLint

/-- A stretch of one line: `length` columns from `column` on. -/
structure Span where
  column : Nat
  length : Nat
  deriving DecidableEq, Repr

namespace Span

/-- The first column after the span. -/
def stop (s : Span) : Nat := s.column + s.length

/-- The span of all columns of a line of the given length. -/
def wholeLine (length : Nat) : Span := ⟨0, length⟩

end Span

/-- The columns from `first` on and before `last`, as they were computed. -/
structure Columns where
  first : Int
  last : Int
  deriving DecidableEq, Repr

/-- The columns of a span. -/
def Span.columns (s : Span) : Columns := ⟨s.column, s.stop⟩

/-- The positions from `start` on and before `stop`. -/
structure Range where
  start : Position
  stop : Position
  ordered : start ≤ stop
  deriving DecidableEq, Repr

/-- Where one range lies from another's point of view. -/
inductive Placement where
  | before
  | overlapping
  | after
  deriving DecidableEq, Repr

/-- The sign that stands for a placement: negative before, positive after. -/
def Placement.sign : Placement → Int
  | .before => -1
  | .overlapping => 0
  | .after => 1

namespace Range

instance : LT Range where
  lt a b := a.start < b.start ∨ (a.start = b.start ∧ a.stop < b.stop)

instance : LE Range where
  le a b := a.start < b.start ∨ (a.start = b.start ∧ a.stop ≤ b.stop)

theorem lt_def {a b : Range} :
    a < b ↔ a.start < b.start ∨ (a.start = b.start ∧ a.stop < b.stop) := Iff.rfl

theorem le_def {a b : Range} :
    a ≤ b ↔ a.start < b.start ∨ (a.start = b.start ∧ a.stop ≤ b.stop) := Iff.rfl

instance (a b : Range) : Decidable (a < b) := decidable_of_iff _ lt_def.symm

instance (a b : Range) : Decidable (a ≤ b) := decidable_of_iff _ le_def.symm

/-- The range between two positions, the first of which may not come after the second. -/
def between (start stop : Position) : Except Fault Range :=
  if h : start ≤ stop then .ok ⟨start, stop, h⟩ else .error .reversedRange

/-- The columns of a line, neither of which may be negative, nor the first after the last. -/
def ofColumns (line : Int) (columns : Columns) : Except Fault Range := do
  let start ← Position.ofInts line columns.first
  let stop ← Position.ofInts line columns.last
  between start stop

/-- The range with the four given numbers: line and column of its start, then of its stop. -/
def ofInts (startLine startColumn stopLine stopColumn : Int) : Except Fault Range := do
  let start ← Position.ofInts startLine startColumn
  let stop ← Position.ofInts stopLine stopColumn
  between start stop

/-- The span, put on a line. -/
def onLine (line : Nat) (span : Span) : Range where
  start := ⟨line, span.column⟩
  stop := ⟨line, span.stop⟩
  ordered := Or.inr ⟨rfl, Nat.le_add_right _ _⟩

/-- The columns of a span are accepted on every line. -/
theorem ofColumns_columns (line : Nat) (span : Span) :
    ofColumns line span.columns = .ok (onLine line span) := by
  have hposition : ∀ column : Nat, Position.ofInts line column = .ok ⟨line, column⟩ := by
    intro column
    rw [Position.ofInts, if_neg (by omega)]
    rfl
  have hordered : (⟨line, span.column⟩ : Position) ≤ ⟨line, span.stop⟩ := (onLine line span).ordered
  simp only [ofColumns, Span.columns, hposition, bind, Except.bind, between, hordered, dite_true,
    onLine]

/-- The range at a position that holds nothing. -/
def empty (p : Position) : Range := ⟨p, p, p.le_refl⟩

/-- Whether the range holds no position. -/
def isEmpty (r : Range) : Bool := r.start == r.stop

/-- Whether the range starts and stops on one line. -/
def isSingleLine (r : Range) : Bool := r.start.line == r.stop.line

/-- Whether the range holds a position. -/
def contains (r : Range) (p : Position) : Bool := r.start ≤ p && p < r.stop

/-- Whether the ends of one range lie within the ends of another. -/
def includes (r s : Range) : Bool := r.start ≤ s.start && s.stop ≤ r.stop

/-- The earlier of two positions is not after the later of two others that follow them. -/
theorem min_start_le_max_stop (a b : Range) : min a.start b.start ≤ max a.stop b.stop := by
  have hmin : min a.start b.start ≤ a.start := by
    show (if a.start ≤ b.start then a.start else b.start) ≤ a.start
    split
    · exact a.start.le_refl
    · exact (Position.le_total _ _).resolve_left (by assumption)
  have hmax : a.stop ≤ max a.stop b.stop := by
    show a.stop ≤ (if a.stop ≤ b.stop then b.stop else a.stop)
    split
    · assumption
    · exact a.stop.le_refl
  exact Position.le_trans hmin (Position.le_trans a.ordered hmax)

/-- The least range that includes both ranges. -/
def cover (a b : Range) : Range where
  start := min a.start b.start
  stop := max a.stop b.stop
  ordered := min_start_le_max_stop a b

/-- Where a range lies from the point of view of another. Ranges that only touch do not overlap. -/
def placement (a b : Range) : Placement :=
  if a.stop ≤ b.start then .before
  else if b.stop ≤ a.start then .after
  else .overlapping

/-- The part of a line that a range on one line covers; a range may reach past the line's end. -/
def slice (r : Range) (line : List Char) : Except Fault (List Char) :=
  if r.isSingleLine then
    .ok ((line.drop r.start.column).take (r.stop.column - r.start.column))
  else .error .sliceAcrossLines

/-- The range as a reader of messages sees it. -/
def display (r : Range) : Except Fault String := do
  let startLine ← Numeral.write r.start.line
  let startColumn ← Numeral.write r.start.column
  let stopLine ← Numeral.write r.stop.line
  let stopColumn ← Numeral.write r.stop.column
  return s!"TextRange({startLine}:{startColumn}, {stopLine}:{stopColumn})"

end Range

end ScriptLint
