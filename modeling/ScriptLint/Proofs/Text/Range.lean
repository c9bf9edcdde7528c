import Mathlib.Order.Interval.Set.Disjoint
import ScriptLint.Text.Document

/-!
# Ranges as sets of positions

Positions are ordered totally, by line and then by column, and a range holds the positions of the
half-open interval between its ends (`contains_iff`). What is asked of ranges by comparing their ends is
then a question about sets. A range includes another that is not empty exactly when it holds all of its
positions (`includes_iff_forall`), and `cover` is the least range that includes two others, for the order
of inclusion (`includes_cover_iff`). A range is placed before another when all its positions are, and two
ranges overlap when they have a position in common (`sign_placement_eq_neg_one_iff_forall`,
`sign_placement_eq_zero_iff_exists`).

What is said of positions fails of empty ranges, which have ends but no positions. An empty range is before
itself, and this is the only case in which the two points of view on a pair of ranges do not mirror each
other (`eq_empty_of_touching`).
-/

namespace ScriptLint

instance : LinearOrder Position where
  le_refl p := p.le_refl
  le_trans _ _ _ := Position.le_trans
  lt_iff_le_not_ge p q := by
    rw [Position.lt_def, Position.le_def, Position.le_def]
    omega
  le_antisymm p q hpq hqp := by
    rw [Position.le_def] at hpq hqp
    have hline : p.line = q.line := by omega
    have hcolumn : p.column = q.column := by omega
    calc p = ⟨p.line, p.column⟩ := rfl
      _ = ⟨q.line, q.column⟩ := by rw [hline, hcolumn]
      _ = q := rfl
  le_total p q := Position.le_total p q
  toDecidableLE := inferInstance

namespace Range

variable {a b c : Range}

/-- A range is determined by its ends. -/
theorem eq_of_ends (hstart : a.start = b.start) (hstop : a.stop = b.stop) : a = b := by
  obtain ⟨start, stop, ordered⟩ := a
  obtain ⟨start', stop', ordered'⟩ := b
  dsimp only at hstart hstop
  subst hstart hstop
  rfl

/-! ## Positions -/

/-- A range holds the positions from its start on and before its stop. -/
theorem contains_iff {p : Position} : a.contains p = true ↔ p ∈ Set.Ico a.start a.stop := by
  unfold contains
  rw [Bool.and_eq_true, decide_eq_true_eq, decide_eq_true_eq, Set.mem_Ico]

/-- A range that is not empty starts before it stops. -/
theorem isEmpty_eq_false_iff : a.isEmpty = false ↔ a.start < a.stop := by
  unfold isEmpty
  rw [beq_eq_false_iff_ne, lt_iff_le_and_ne]
  exact ⟨fun hne => ⟨a.ordered, hne⟩, fun hlt => hlt.2⟩

/-- A range that is not empty holds its start. -/
theorem contains_start (h : a.isEmpty = false) : a.contains a.start = true :=
  contains_iff.mpr (Set.left_mem_Ico.mpr (isEmpty_eq_false_iff.mp h))

/-! ## Inclusion and cover -/

/-- One range includes another when the ends of the other lie between its own. -/
theorem includes_iff : a.includes b = true ↔ a.start ≤ b.start ∧ b.stop ≤ a.stop := by
  unfold includes
  rw [Bool.and_eq_true, decide_eq_true_eq, decide_eq_true_eq]

/-- Every range includes itself. -/
theorem includes_self (a : Range) : a.includes a = true :=
  includes_iff.mpr ⟨le_refl a.start, le_refl a.stop⟩

/-- A range that is not empty is included exactly where all its positions are held. -/
theorem includes_iff_forall (hb : b.isEmpty = false) :
    a.includes b = true ↔ ∀ p, b.contains p = true → a.contains p = true := by
  have hsubset : Set.Ico b.start b.stop ⊆ Set.Ico a.start a.stop ↔
      a.start ≤ b.start ∧ b.stop ≤ a.stop := Set.Ico_subset_Ico_iff (isEmpty_eq_false_iff.mp hb)
  rw [includes_iff, ← hsubset]
  simp only [contains_iff]
  rfl

/-- The cover of two ranges passes the check of its ends. -/
theorem between_cover (a b : Range) :
    between (min a.start b.start) (max a.stop b.stop) = .ok (a.cover b) :=
  dif_pos (min_start_le_max_stop a b)

/-- What includes the cover of two ranges is what includes both. -/
theorem includes_cover_iff :
    c.includes (a.cover b) = true ↔ c.includes a = true ∧ c.includes b = true := by
  have hstart : c.start ≤ (a.cover b).start ↔ c.start ≤ a.start ∧ c.start ≤ b.start := le_min_iff
  have hstop : (a.cover b).stop ≤ c.stop ↔ a.stop ≤ c.stop ∧ b.stop ≤ c.stop := max_le_iff
  rw [includes_iff, includes_iff, includes_iff, hstart, hstop]
  exact and_and_and_comm

/-- Ranges are covered in either order. -/
theorem cover_comm (a b : Range) : a.cover b = b.cover a :=
  eq_of_ends (min_comm a.start b.start) (max_comm a.stop b.stop)

/-- Three ranges are covered in either grouping. -/
theorem cover_assoc (a b c : Range) : (a.cover b).cover c = a.cover (b.cover c) :=
  eq_of_ends (min_assoc a.start b.start c.start) (max_assoc a.stop b.stop c.stop)

/-- A range covers itself. -/
theorem cover_self (a : Range) : a.cover a = a := eq_of_ends (min_self a.start) (max_self a.stop)

end Range

/-- The position is in the document: on one of its lines, and not past that line's end. -/
def Document.HasPosition (document : Document) (p : Position) : Prop :=
  ∃ line, document.lines[p.line]? = some line ∧ p.column ≤ line.length

/-- A document contains a range when it has both its ends. -/
theorem Document.contains_iff {document : Document} {r : Range} :
    document.contains r = true ↔ document.HasPosition r.start ∧ document.HasPosition r.stop := by
  unfold contains HasPosition
  cases hfirst : document.lines[r.start.line]? with
  | none => simp
  | some first =>
    cases hlast : document.lines[r.stop.line]? with
    | none => simp
    | some last => simp

/-- A document with both ranges has the ends of their cover, since each is an end of one of them. -/
theorem Document.contains_cover {document : Document} {a b : Range}
    (ha : document.contains a = true) (hb : document.contains b = true) :
    document.contains (a.cover b) = true := by
  rw [contains_iff] at ha hb ⊢
  constructor
  · show document.HasPosition (min a.start b.start)
    rcases min_choice a.start b.start with hmin | hmin
    · rw [hmin]
      exact ha.1
    · rw [hmin]
      exact hb.1
  · show document.HasPosition (max a.stop b.stop)
    rcases max_choice a.stop b.stop with hmax | hmax
    · rw [hmax]
      exact ha.2
    · rw [hmax]
      exact hb.2

/-- Inclusion is inclusion of positions, for ranges that have any, and the cover of two ranges is their
least upper bound in this order. It is always a range, no matter in which order or grouping ranges are
covered, and lies in every document that both ranges lie in. -/
theorem Range.cover_least (a b : Range) :
    (b.isEmpty = false →
      (a.includes b = true ↔ ∀ p, b.contains p = true → a.contains p = true)) ∧
    Range.between (min a.start b.start) (max a.stop b.stop) = .ok (a.cover b) ∧
    (a.cover b).includes a = true ∧ (a.cover b).includes b = true ∧
    (∀ c : Range, c.includes a = true → c.includes b = true → c.includes (a.cover b) = true) ∧
    a.cover b = b.cover a ∧
    (∀ c : Range, (a.cover b).cover c = a.cover (b.cover c)) ∧
    a.cover a = a ∧
    ∀ document : Document, document.contains a = true → document.contains b = true →
      document.contains (a.cover b) = true := by
  obtain ⟨hcovera, hcoverb⟩ := includes_cover_iff.mp (includes_self (a.cover b))
  refine ⟨includes_iff_forall, between_cover a b, hcovera, hcoverb, ?_, cover_comm a b,
    cover_assoc a b, cover_self a, ?_⟩
  · intro c ha hb
    exact includes_cover_iff.mpr ⟨ha, hb⟩
  · intro document ha hb
    exact Document.contains_cover ha hb

/-- An empty range and a range over two lines before it, in a document that ends where the empty range
is. -/
theorem Range.cover_least_across_lines :
    let a : Range := ⟨⟨0, 1⟩, ⟨1, 2⟩, by decide⟩
    let b : Range := .empty ⟨2, 0⟩
    let document := Document.ofText "abc\nde\n"
    a.isEmpty = false ∧ (b.includes a = true ↔ ∀ p, a.contains p = true → b.contains p = true) ∧
      document.contains a = true ∧ document.contains b = true ∧
      a.cover b = ⟨⟨0, 1⟩, ⟨2, 0⟩, by decide⟩ ∧ document.contains (b.cover a) = true := by
  intro a b document
  have hne : a.isEmpty = false := by decide
  have ha : document.contains a = true := by decide
  have hb : document.contains b = true := by decide
  obtain ⟨hpositions, -, -, -, -, -, -, -, hdocument⟩ := Range.cover_least b a
  exact ⟨hne, hpositions hne, ha, hb, by decide, hdocument document hb ha⟩

/-! ## Placement -/

namespace Range

variable {a b : Range}

/-- A range is before another exactly when it stops no later than the other starts. -/
theorem sign_placement_eq_neg_one_iff : (a.placement b).sign = -1 ↔ a.stop ≤ b.start := by
  unfold placement
  split_ifs with hab hba
  · simp [Placement.sign, hab]
  · simp [Placement.sign, hab]
  · simp [Placement.sign, hab]

/-- Ranges overlap exactly when each starts before the other stops. -/
theorem sign_placement_eq_zero_iff :
    (a.placement b).sign = 0 ↔ b.start < a.stop ∧ a.start < b.stop := by
  unfold placement
  rw [← not_le, ← not_le]
  split_ifs with hab hba
  · simp [Placement.sign, hab]
  · simp [Placement.sign, hba]
  · simp [Placement.sign, hab, hba]

/-- A range that is not empty is before another such range exactly when each of its positions is before
each of the other's. -/
theorem sign_placement_eq_neg_one_iff_forall (ha : a.isEmpty = false) (hb : b.isEmpty = false) :
    (a.placement b).sign = -1 ↔
      ∀ p q, a.contains p = true → b.contains q = true → p < q := by
  rw [sign_placement_eq_neg_one_iff]
  constructor
  · intro hab p q hp hq
    rw [contains_iff, Set.mem_Ico] at hp hq
    calc p < a.stop := hp.2
      _ ≤ b.start := hab
      _ ≤ q := hq.1
  · intro hall
    by_contra hba
    -- The start of the second range would be a position of the first, and before itself.
    have hstart : a.start < b.start := hall _ _ (contains_start ha) (contains_start hb)
    have hheld : a.contains b.start = true := contains_iff.mpr ⟨hstart.le, not_le.mp hba⟩
    exact lt_irrefl b.start (hall _ _ hheld (contains_start hb))

/-- Ranges that are not empty overlap exactly when they have a position in common. -/
theorem sign_placement_eq_zero_iff_exists (ha : a.isEmpty = false) (hb : b.isEmpty = false) :
    (a.placement b).sign = 0 ↔ ∃ p, a.contains p = true ∧ b.contains p = true := by
  have hcommon : (∃ p, a.contains p = true ∧ b.contains p = true) ↔
      max a.start b.start < min a.stop b.stop := by
    rw [← not_le, ← Set.Ico_disjoint_Ico, Set.not_disjoint_iff]
    simp only [contains_iff]
  rw [isEmpty_eq_false_iff] at ha hb
  rw [sign_placement_eq_zero_iff, hcommon, max_lt_iff, lt_min_iff, lt_min_iff]
  exact ⟨fun ⟨hba, hab⟩ => ⟨⟨ha, hab⟩, hba, hb⟩, fun ⟨⟨_, hab⟩, hba, _⟩ => ⟨hba, hab⟩⟩

/-- Ranges of which each stops no later than the other starts are one range, and it is empty. -/
theorem eq_empty_of_touching (hab : a.stop ≤ b.start) (hba : b.stop ≤ a.start) :
    a = b ∧ a.isEmpty = true := by
  have hstart : a.start = b.start := le_antisymm (a.ordered.trans hab) (b.ordered.trans hba)
  have hstop : a.stop = b.stop := le_antisymm (hab.trans b.ordered) (hba.trans a.ordered)
  have hempty : a.start = a.stop := le_antisymm a.ordered (hab.trans hstart.ge)
  exact ⟨eq_of_ends hstart hstop, beq_iff_eq.mpr hempty⟩

/-- The two points of view on a pair of ranges mirror each other, unless both are one empty range. -/
theorem sign_placement_comm (h : ¬ (a = b ∧ a.isEmpty = true)) :
    (a.placement b).sign = -(b.placement a).sign := by
  unfold placement
  by_cases hab : a.stop ≤ b.start
  · have hba : ¬ b.stop ≤ a.start := fun hba => h (eq_empty_of_touching hab hba)
    rw [if_pos hab, if_neg hba, if_pos hab]
    rfl
  · by_cases hba : b.stop ≤ a.start
    · rw [if_neg hab, if_pos hba, if_pos hba]
      rfl
    · rw [if_neg hab, if_neg hba, if_neg hba, if_neg hab]
      rfl

/-- An empty range is before itself, and no other range is. -/
theorem sign_placement_self_iff : (a.placement a).sign = -1 ↔ a.isEmpty = true := by
  rw [sign_placement_eq_neg_one_iff, ← not_lt, ← isEmpty_eq_false_iff, Bool.not_eq_false]

/-- What is before a range that is before a third is before the third. -/
theorem sign_placement_trans {c : Range} (hab : (a.placement b).sign = -1)
    (hbc : (b.placement c).sign = -1) : (a.placement c).sign = -1 := by
  rw [sign_placement_eq_neg_one_iff] at *
  exact hab.trans (b.ordered.trans hbc)

end Range

/-- Placement means what it says of ranges that are not empty: they overlap when they have a position in
common, and one is before the other when all its positions are, which is a strict order. The sign of a pair
of ranges is the opposite of that of the pair turned round, except for an empty range with itself, which is
before itself from both points of view. -/
theorem Range.placement_order :
    (∀ a b : Range, a.isEmpty = false → b.isEmpty = false →
      ((a.placement b).sign = 0 ↔ ∃ p, a.contains p = true ∧ b.contains p = true) ∧
      ((a.placement b).sign = -1 ↔
        ∀ p q, a.contains p = true → b.contains q = true → p < q)) ∧
    (∀ a b : Range,
      (¬ (a = b ∧ a.isEmpty = true) → (a.placement b).sign = -(b.placement a).sign) ∧
      (a = b ∧ a.isEmpty = true → (a.placement b).sign = -1 ∧ (b.placement a).sign = -1)) ∧
    IsStrictOrder {r : Range // r.isEmpty = false} fun a b => (a.val.placement b.val).sign = -1 := by
  refine ⟨?_, ?_, ?_⟩
  · intro a b ha hb
    exact ⟨sign_placement_eq_zero_iff_exists ha hb, sign_placement_eq_neg_one_iff_forall ha hb⟩
  · intro a b
    refine ⟨sign_placement_comm, ?_⟩
    rintro ⟨rfl, hempty⟩
    exact ⟨sign_placement_self_iff.mpr hempty, sign_placement_self_iff.mpr hempty⟩
  · refine { irrefl := ?_, trans := ?_ }
    · intro a hself
      rw [sign_placement_self_iff, a.property] at hself
      cases hself
    · intro a b c hab hbc
      exact sign_placement_trans hab hbc

/-- A range up to the first column of a line is before the range that starts there, and they have no
position in common. -/
theorem Range.placement_order_touching :
    let a : Range := ⟨⟨0, 2⟩, ⟨1, 0⟩, by decide⟩
    let b : Range := ⟨⟨1, 0⟩, ⟨1, 4⟩, by decide⟩
    a.isEmpty = false ∧ b.isEmpty = false ∧ (a.placement b).sign = -1 ∧
      (∀ p q, a.contains p = true → b.contains q = true → p < q) ∧
      (¬ ∃ p, a.contains p = true ∧ b.contains p = true) ∧
      (b.placement a).sign = 1 := by
  intro a b
  have ha : a.isEmpty = false := by decide
  have hb : b.isEmpty = false := by decide
  have hbefore : (a.placement b).sign = -1 := by decide
  obtain ⟨hmeaning, hmirror, -⟩ := Range.placement_order
  obtain ⟨hoverlap, hall⟩ := hmeaning a b ha hb
  have hne : ¬ (b = a ∧ b.isEmpty = true) := by decide
  refine ⟨ha, hb, hbefore, hall.mp hbefore, ?_, ?_⟩
  · rw [← hoverlap, hbefore]
    decide
  · rw [(hmirror b a).1 hne, hbefore]
    rfl

end ScriptLint
