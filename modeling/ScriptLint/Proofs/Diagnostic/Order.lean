import Mathlib.Data.Prod.Lex
import Mathlib.Data.String.Basic
import ScriptLint.Diagnostic.Report
import ScriptLint.Proofs.Text.Range

/-!
# The order of reports

A report is sorted by a key: the start of the range, its stop, the code and the message, compared
one after the other. Positions are ordered by line and column, so keys are ordered totally, and
`precedes` is their order (`precedes_iff`). The rest of a diagnostic has no part in the key, and
diagnostics that share one stand as they were found. Where the key tells them apart, though, a
sorted list is the only one in order with these members (`sort_eq_of_perm`), and leaving some out
before or after sorting is the same (`filter_sort`).
-/

namespace ScriptLint

namespace Diagnostic

/-- What a report is sorted by. -/
def key (d : Diagnostic) : Position ×ₗ Position ×ₗ String ×ₗ String :=
  toLex (d.range.start, toLex (d.range.stop, toLex (d.code, d.message)))

/-- A diagnostic may stand before another exactly when its key is not greater. -/
theorem precedes_iff {a b : Diagnostic} : a.precedes b = true ↔ a.key ≤ b.key := by
  simp only [key, Prod.Lex.toLex_le_toLex]
  unfold precedes
  split
  · next hstart => simp [hstart]
  · next hstart =>
    rw [not_not] at hstart
    split
    · next hstop => simp [hstart, hstop]
    · next hstop =>
      rw [not_not] at hstop
      split
      · next hcode => simp only [decide_eq_true_eq, hstart, hstop, hcode, lt_irrefl, false_or,
          true_and, false_and, or_false]
      · next hcode =>
        rw [not_not] at hcode
        simp only [decide_eq_true_eq, hstart, hstop, hcode, lt_irrefl, false_or, true_and]

/-- Diagnostics with one key agree in their range, their code and their message. -/
theorem eq_of_key_eq {a b : Diagnostic} (h : a.key = b.key) :
    a.range = b.range ∧ a.code = b.code ∧ a.message = b.message := by
  simp only [key, EmbeddingLike.apply_eq_iff_eq, Prod.mk.injEq] at h
  obtain ⟨hstart, hstop, hcode, hmessage⟩ := h
  exact ⟨Range.eq_of_ends hstart hstop, hcode, hmessage⟩

/-- The report is in the order of the keys. -/
theorem sort_pairwise (ds : List Diagnostic) :
    (sort ds).Pairwise fun a b => a.precedes b = true := by
  apply List.pairwise_mergeSort
  · intro a b c hab hbc
    rw [precedes_iff] at *
    exact le_trans hab hbc
  · intro a b
    rw [Bool.or_eq_true, precedes_iff, precedes_iff]
    exact le_total a.key b.key

/-- The report has the diagnostics it was made of. -/
theorem sort_perm (ds : List Diagnostic) : (sort ds).Perm ds := List.mergeSort_perm ds precedes

/-- No two different diagnostics have one key. -/
def KeysTellApart (ds : List Diagnostic) : Prop := ∀ a ∈ ds, ∀ b ∈ ds, a.key = b.key → a = b

/-- Where keys tell diagnostics apart, a list of them in order is the report. -/
theorem sort_eq_of_perm {ds sorted : List Diagnostic} (hkeys : KeysTellApart ds)
    (hperm : sorted.Perm ds) (hsorted : sorted.Pairwise fun a b => a.precedes b = true) :
    sort ds = sorted := by
  refine List.Perm.eq_of_pairwise ?_ (sort_pairwise ds) hsorted ((sort_perm ds).trans hperm.symm)
  intro a b ha hb hab hba
  rw [precedes_iff] at hab hba
  exact hkeys a ((sort_perm ds).mem_iff.mp ha) b (hperm.mem_iff.mp hb) (le_antisymm hab hba)

/-- Where keys tell diagnostics apart, the order in which they were found does not matter. -/
theorem sort_congr {ds es : List Diagnostic} (hkeys : KeysTellApart ds) (hperm : es.Perm ds) :
    sort ds = sort es :=
  sort_eq_of_perm hkeys ((sort_perm es).trans hperm) (sort_pairwise es)

/-- Where keys tell diagnostics apart, those that precede all others are sorted first. -/
theorem sort_append {ds es : List Diagnostic} (hkeys : KeysTellApart (ds ++ es))
    (h : ∀ a ∈ ds, ∀ b ∈ es, a.precedes b = true) : sort (ds ++ es) = sort ds ++ sort es := by
  refine sort_eq_of_perm hkeys ((sort_perm ds).append (sort_perm es)) ?_
  refine List.pairwise_append.mpr ⟨sort_pairwise ds, sort_pairwise es, ?_⟩
  intro a ha b hb
  exact h a ((sort_perm ds).mem_iff.mp ha) b ((sort_perm es).mem_iff.mp hb)

/-- Where keys tell diagnostics apart, some may be left out before sorting or afterwards. -/
theorem filter_sort {ds : List Diagnostic} (p : Diagnostic → Bool) (hkeys : KeysTellApart ds) :
    (sort ds).filter p = sort (ds.filter p) := by
  refine (sort_eq_of_perm ?_ ((sort_perm ds).filter p) ((sort_pairwise ds).filter p)).symm
  intro a ha b hb
  exact hkeys a (List.mem_of_mem_filter ha) b (List.mem_of_mem_filter hb)

end Diagnostic

end ScriptLint
