import ScriptLint.Text.Numeral

/-!
# Positions in a text

A position is a line and a column, both counted from zero, and columns count code points. Positions
are ordered by line and then by column.
-/

namespace ScriptLint

/-- A place in a text: a line and a column in it, both from zero. -/
structure Position where
  line : Nat
  column : Nat
  deriving DecidableEq, Repr

namespace Position

instance : LT Position where
  lt p q := p.line < q.line ∨ (p.line = q.line ∧ p.column < q.column)

instance : LE Position where
  le p q := p.line < q.line ∨ (p.line = q.line ∧ p.column ≤ q.column)

theorem lt_def {p q : Position} :
    p < q ↔ p.line < q.line ∨ (p.line = q.line ∧ p.column < q.column) := Iff.rfl

theorem le_def {p q : Position} :
    p ≤ q ↔ p.line < q.line ∨ (p.line = q.line ∧ p.column ≤ q.column) := Iff.rfl

instance (p q : Position) : Decidable (p < q) := decidable_of_iff _ lt_def.symm

instance (p q : Position) : Decidable (p ≤ q) := decidable_of_iff _ le_def.symm

instance : Min Position := minOfLe

instance : Max Position := maxOfLe

theorem le_refl (p : Position) : p ≤ p := Or.inr ⟨rfl, Nat.le_refl _⟩

theorem le_trans {p q r : Position} (h : p ≤ q) (h' : q ≤ r) : p ≤ r := by
  rw [le_def] at *
  omega

theorem le_total (p q : Position) : p ≤ q ∨ q ≤ p := by
  rw [le_def, le_def]
  omega

/-- The first column of the first line. -/
def origin : Position := ⟨0, 0⟩

/-- The position at a line and a column given as integers, neither of which may be negative. -/
def ofInts (line column : Int) : Except Fault Position :=
  if line < 0 ∨ column < 0 then .error .negativePosition
  else .ok ⟨line.toNat, column.toNat⟩

/-- The position moved along its line by a number of columns, to the left when it is negative. -/
def shift (p : Position) (columns : Int) : Except Fault Position :=
  ofInts p.line (p.column + columns)

/-- The position as a reader of messages sees it. -/
def display (p : Position) : Except Fault String := do
  let line ← Numeral.write p.line
  let column ← Numeral.write p.column
  return s!"TextPosition({line}, {column})"

end Position

end ScriptLint
