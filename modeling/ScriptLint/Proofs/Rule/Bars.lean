import ScriptLint.Proofs.Scan.Report
import ScriptLint.Proofs.Text.Runs

/-!
# Which bars of a line are taken for a mistyped operator

A bar is read together with the character behind it, which may be a bar itself. What is reported of a
run of bars therefore depends on how many there are and on what follows the run: the bars are marked
two by two, and a last one without a partner is marked unless it ends the line or makes the operator
with what follows (`Pipeline.IsMarkedAt`).

`Pipeline.markedColumns` lists the columns for one run. The search goes through a run two bars at a
time and leaves behind exactly these (`findAllFrom_bars`), and so the columns of a line are those of its
runs (`findAll_loneBar`). The rule for bars reports them and is silent exactly when each bar begins
the operator or ends the line (`run_loneBar`).
-/

namespace ScriptLint

namespace Pipeline

/-! ## What is to be marked -/

/-- Whether a character is a bar. -/
def isBar (c : Char) : Bool := c == '|'

/-- A bar is to be marked at a column: it is the first of two in a run of bars, or it is left over at
the end of the run and some character follows that does not make it the operator. -/
def IsMarkedAt (text : Line) (column : Nat) : Prop :=
  ∃ start bars, Line.IsRunAt isBar text start bars ∧
    ((∃ i < bars.length / 2, column = start + 2 * i) ∨
      bars.length % 2 = 1 ∧ column = start + bars.length - 1 ∧
        ∃ c, text[start + bars.length]? = some c ∧ c ≠ '>')

/-- The columns to be marked of `count` bars from the column `start` on, with the character `next?`
behind them. -/
def markedColumns (start count : Nat) (next? : Option Char) : List Nat :=
  (List.range (count / 2)).map (fun i => start + 2 * i) ++
    if count % 2 = 1 ∧ next?.any (· != '>') then [start + count - 1] else []

theorem mem_markedColumns {start count column : Nat} {next? : Option Char} :
    column ∈ markedColumns start count next? ↔
      (∃ i < count / 2, column = start + 2 * i) ∨
        count % 2 = 1 ∧ column = start + count - 1 ∧ ∃ c, next? = some c ∧ c ≠ '>' := by
  have hnext : next?.any (· != '>') = true ↔ ∃ c, next? = some c ∧ c ≠ '>' := by
    simp only [Option.any_eq_true, bne_iff_ne]
  unfold markedColumns
  rw [List.mem_append, List.mem_map, ← hnext]
  refine or_congr ?_ ?_
  · simp only [List.mem_range, eq_comm]
  · split
    · next h =>
      rw [List.mem_singleton]
      exact ⟨fun hcolumn => ⟨h.1, hcolumn, h.2⟩, fun hmarked => hmarked.2.1⟩
    · next h => exact iff_of_false List.not_mem_nil fun hmarked => h ⟨hmarked.1, hmarked.2.2⟩

/-- Of two bars in front of others the first is marked, and then the others are. -/
theorem markedColumns_add_two (start count : Nat) (next? : Option Char) :
    markedColumns start (count + 2) next? = start :: markedColumns (start + 2) count next? := by
  unfold markedColumns
  have hhalf : (count + 2) / 2 = count / 2 + 1 := by omega
  have hodd : (count + 2) % 2 = count % 2 := by omega
  have hlast : start + (count + 2) - 1 = start + 2 + count - 1 := by omega
  rw [hhalf, hodd, hlast, List.range_succ_eq_map, List.map_cons, List.map_map, List.cons_append]
  congr 2
  refine List.map_congr_left fun i _ => ?_
  show start + 2 * (i + 1) = start + 2 + 2 * i
  omega

/-! ## The search along a run -/

variable {before rest after : List Char} {c : Char} {text : Line} {column : Nat}

/-- A character that is no bar is passed over. -/
theorem findAllFrom_pass (hc : isBar c = false) (column : Nat) :
    Line.findAllFrom (fun _ => 2) loneBar 0 column before (c :: rest) =
      Line.findAllFrom (fun _ => 2) loneBar 0 (column + 1) (c :: before) rest := by
  have hread : loneBar before (c :: rest) = none := by
    unfold loneBar
    split
    · next hbar =>
      obtain ⟨rfl, -⟩ := List.cons.inj hbar
      cases hc
    · rfl
  rw [Line.findAllFrom, hread]

/-- A bar is taken with the character behind it, unless they are the operator. -/
theorem findAllFrom_pair (hc : c ≠ '>') (column : Nat) :
    Line.findAllFrom (fun _ => 2) loneBar 0 column before ('|' :: c :: rest) =
      (column, ()) ::
        Line.findAllFrom (fun _ => 2) loneBar 0 (column + 2) (c :: '|' :: before) rest := by
  have hread : loneBar before (['|', c] ++ rest) = some () := if_neg hc
  exact Line.findAllFrom_take hread (List.cons_ne_nil _ _) rfl

/-- The search takes the columns to be marked from a run of bars, and goes on behind it. -/
theorem findAllFrom_bars (count column : Nat) (before : List Char)
    (hafter : ∀ c, after.head? = some c → isBar c = false) :
    Line.findAllFrom (fun _ => 2) loneBar 0 column before (List.replicate count '|' ++ after) =
      (markedColumns column count after.head?).map (fun column => (column, ())) ++
        Line.findAllFrom (fun _ => 2) loneBar 0 (column + count)
          (List.replicate count '|' ++ before) after := by
  -- Two bars at a time, so that none or one is left at the end.
  induction count using Nat.twoStepInduction generalizing column before with
  | zero => simp [markedColumns]
  | one =>
    show Line.findAllFrom (fun _ => 2) loneBar 0 column before ('|' :: after) = _
    cases after with
    | nil => simp [markedColumns, Line.findAllFrom, loneBar]
    | cons c after =>
      have hc := hafter c rfl
      by_cases hoperator : c = '>'
      · subst hoperator
        simp [markedColumns, Line.findAllFrom, loneBar]
      · -- The character behind the bar is taken with it, and would have been passed over.
        rw [findAllFrom_pair hoperator, findAllFrom_pass hc]
        simp [markedColumns, hoperator]
  | more count ih _ =>
    have hbefore : List.replicate count '|' ++ ('|' :: '|' :: before) =
        List.replicate (count + 2) '|' ++ before := by
      rw [← List.replicate_append_replicate, List.append_assoc]
      rfl
    calc Line.findAllFrom (fun _ => 2) loneBar 0 column before
          (List.replicate (count + 2) '|' ++ after)
        = (column, ()) :: Line.findAllFrom (fun _ => 2) loneBar 0 (column + 2)
            ('|' :: '|' :: before) (List.replicate count '|' ++ after) :=
          findAllFrom_pair (by decide) column
      _ = _ := by
        rw [ih, hbefore, markedColumns_add_two, List.map_cons, List.cons_append, Nat.add_assoc,
          Nat.add_comm 2 count]

/-! ## The search along a line -/

/-- The search takes the columns to be marked from each run of bars in a line. -/
theorem findAll_loneBar (text : Line) :
    Line.findAll (fun _ => 2) loneBar text =
      ((Line.runs isBar text).flatMap fun found =>
        markedColumns found.1 found.2.length text[found.1 + found.2.length]?).map
          fun column => (column, ()) := by
  refine Line.run_induction (p := isBar)
    (motive := fun before rest =>
      Line.findAllFrom (fun _ => 2) loneBar 0 before.length before.reverse rest =
        ((Line.findAllFrom List.length (Line.run isBar) 0 before.length before.reverse rest).flatMap
          fun found => markedColumns found.1 found.2.length
            (before ++ rest)[found.1 + found.2.length]?).map fun column => (column, ()))
    ?_ ?_ ?_ text
  · intro before
    rfl
  · intro before c rest hc ih
    rw [List.append_assoc, List.singleton_append] at ih
    rw [findAllFrom_pass hc, Line.findAllFrom_run_pass hc, ← ih, List.length_append,
      List.reverse_append]
    rfl
  · intro before bars after hrun ih
    obtain ⟨count, rfl⟩ : ∃ count, bars = List.replicate count '|' :=
      ⟨_, List.eq_replicate_of_mem fun c hc => beq_iff_eq.mp (hrun.members c hc)⟩
    have hnext : (before ++ (List.replicate count '|' ++ after))[before.length + count]? =
        after.head? := by
      rw [← List.append_assoc, List.getElem?_append_right (by simp), List.head?_eq_getElem?]
      simp
    rw [List.append_assoc, List.length_append, List.reverse_append, List.length_replicate,
      List.reverse_replicate] at ih
    rw [findAllFrom_bars count _ _ hrun.ends, Line.findAllFrom_run hrun, List.flatMap_cons,
      List.map_append, List.length_append, List.reverse_append, List.length_replicate,
      List.reverse_replicate, hnext, ih]

/-- A bar is found at a column exactly when it is to be marked there. -/
theorem mem_findAll_loneBar_iff :
    (column, ()) ∈ Line.findAll (fun _ => 2) loneBar text ↔ IsMarkedAt text column := by
  rw [findAll_loneBar]
  simp only [List.mem_map, List.mem_flatMap, Prod.mk.injEq, and_true, exists_eq_right, Prod.exists,
    Line.mem_runs_iff, mem_markedColumns, IsMarkedAt]

/-! ## Lines without a finding -/

/-- A bar is read at a column exactly when a character follows it that does not make it the
operator. -/
theorem takesAt_loneBar_iff {found : Unit} :
    Reader.TakesAt loneBar text column found ↔
      text[column]? = some '|' ∧ ∃ c, text[column + 1]? = some c ∧ c ≠ '>' := by
  constructor
  · rintro ⟨passed, rest, rfl, rfl, hread⟩
    unfold loneBar at hread
    split at hread
    · next c rest =>
      have hc : c ≠ '>' := by
        rintro rfl
        cases hread
      exact ⟨by simp, c, by simp, hc⟩
    · cases hread
  · rintro ⟨hbar, c, hnext, hc⟩
    obtain ⟨hlt, hbar⟩ := List.getElem?_eq_some_iff.mp hbar
    obtain ⟨hlt', hnext⟩ := List.getElem?_eq_some_iff.mp hnext
    have hrest : text.drop column = '|' :: c :: text.drop (column + 1 + 1) := by
      rw [List.drop_eq_getElem_cons hlt, List.drop_eq_getElem_cons hlt', hbar, hnext]
    refine ⟨text.take column, text.drop column, (List.take_append_drop column text).symm, ?_, ?_⟩
    · rw [List.length_take_of_le (Nat.le_of_lt hlt)]
    · rw [hrest]
      exact if_neg hc

/-- No bar is found in a line exactly when each of them begins the operator or ends the line. -/
theorem findAll_loneBar_eq_nil_iff :
    Line.findAll (fun _ => 2) loneBar text = [] ↔
      ∀ column, text[column]? = some '|' →
        text[column + 1]? = some '>' ∨ column + 1 = text.length := by
  have hfirst : Line.findAll (fun _ => 2) loneBar text = [] ↔
      Line.findFirst? loneBar text = none := Line.findAllFrom_eq_nil_iff
  rw [hfirst, Reader.findFirst?_eq_none_iff_takesAt fun _ => rfl]
  simp only [takesAt_loneBar_iff]
  constructor
  · intro hnone column hbar
    cases hnext : text[column + 1]? with
    | none =>
      have hlt := (List.getElem?_eq_some_iff.mp hbar).1
      have hle := List.getElem?_eq_none_iff.mp hnext
      exact Or.inr (by omega)
    | some c =>
      have hc : c = '>' := by
        by_contra hc
        exact hnone column () ⟨hbar, c, hnext, hc⟩
      exact Or.inl (hc ▸ rfl)
  · rintro hall column - ⟨hbar, c, hnext, hc⟩
    obtain hoperator | hend := hall column hbar
    · rw [hoperator] at hnext
      exact hc (Option.some.inj hnext).symm
    · rw [hend, List.getElem?_length] at hnext
      cases hnext

end Pipeline

/-! ## The rule -/

/-- The rule for bars reports the bars that are to be marked in the runs of a line, all of them and
nothing else, from left to right and each with the character behind it. It is silent exactly when
every bar of the line begins the operator or ends the line. -/
theorem run_loneBar (text : Line) (index : Nat) (document : Document) :
    ∃ columns : List Nat,
      (∀ column, column ∈ columns ↔ Pipeline.IsMarkedAt text column) ∧
      columns.Pairwise (· < ·) ∧
      ∃ ds, LineRule.loneBar.run text index document = .ok ds ∧
        (∀ d ∈ ds, d = Spec.loneBar.at d.range) ∧
        ds.map (fun d => (d.range.start, d.range.stop)) =
          columns.map (fun column => (⟨index, column⟩, ⟨index, column + 2⟩)) ∧
        (ds = [] ↔ ∀ column, text[column]? = some '|' →
          text[column + 1]? = some '>' ∨ column + 1 = text.length) := by
  let found := Line.findAll (fun _ => 2) Pipeline.loneBar text
  have hfindings : LineRule.loneBar.findings text index document =
      LineRule.spans (found.map fun bar => ⟨bar.1, 2⟩) := rfl
  obtain ⟨ds, hrun, hspec, hranges⟩ := LineRule.run_of_spans hfindings
  refine ⟨found.map Prod.fst, ?_, ?_, ds, hrun, hspec, ?_, ?_⟩
  · intro column
    rw [← Pipeline.mem_findAll_loneBar_iff, List.mem_map]
    constructor
    · rintro ⟨⟨column, u⟩, hmem, rfl⟩
      exact hmem
    · intro hmem
      exact ⟨_, hmem, rfl⟩
  · rw [List.pairwise_map]
    exact Line.findAll_pairwise _ _ _
  · rw [hranges, List.map_map, List.map_map]
    rfl
  · -- There are as many diagnostics as bars that are found.
    have hlength := congrArg List.length hranges
    simp only [List.length_map] at hlength
    rw [← Pipeline.findAll_loneBar_eq_nil_iff, ← List.length_eq_zero_iff, hlength,
      List.length_eq_zero_iff]

-- The third bar makes the operator in the first run, and has a space behind it in the second.
example : Pipeline.loneBars "|||> ||| |".toList = [⟨0, 2⟩, ⟨5, 2⟩, ⟨7, 2⟩] := by decide

end ScriptLint
