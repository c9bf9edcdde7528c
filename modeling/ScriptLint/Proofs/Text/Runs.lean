import Mathlib.Data.List.DropRight
import ScriptLint.Proofs.Text.Search

/-!
# Maximal runs

A run of a line is a stretch of characters of one class with none of the class on either side
(`Line.IsRun`). Readers take runs with `takeWhile` and `dropWhile`, and a text that splits behind
characters of the class, at one that is not of it, is split there by both (`takeWhile_append_eq`,
`dropWhile_append_eq`). The runs that are found in a line are all its runs (`mem_runs_iff`), since
no run begins within another. A line can be followed run by run (`run_induction`), and the search for
runs goes along with that (`findAllFrom_run`, `findAllFrom_run_pass`).

The blanks at the two ends of a line are trimmed independently of each other (`trimStart_trimEnd`),
so a line that is read backwards is trimmed as well as one that is read forwards (`trim_reverse`).
Of a line that ends in blanks they are all that is trimmed at its end, if what stands before them
does not end in one (`trimEnd_append`).

Where characters of a class are taken and given back until something else can be read, what is read
stands behind some of them (`takeSome_eq_some`), and if anything can be read, something is
(`takeSome_eq_none_iff`). That the longest stretch is tried first matters only where there is a choice
(`takeSome_of_takeWhile`).
-/

namespace ScriptLint

namespace Line

variable {p : Char → Bool}

/-- `word` is a maximal run of characters of a class between the texts `before` and `after`. -/
structure IsRun (p : Char → Bool) (before word after : List Char) : Prop where
  nonempty : word ≠ []
  /-- The run has characters of the class only. -/
  members : ∀ c ∈ word, p c = true
  /-- The run does not begin earlier. -/
  begins : ∀ c, before.getLast? = some c → p c = false
  /-- The run does not go on. -/
  ends : ∀ c, after.head? = some c → p c = false

/-- `word` is a maximal run of characters of a class at a column of a line. -/
def IsRunAt (p : Char → Bool) (line : Line) (column : Nat) (word : List Char) : Prop :=
  ∃ before after, line = before ++ word ++ after ∧ before.length = column ∧
    IsRun p before word after

/-! ## Taking a run -/

/-- Behind the longest run from the start of a text stands no character of the class. -/
theorem not_of_head?_dropWhile {text : List Char} {c : Char}
    (h : (text.dropWhile p).head? = some c) : p c = false := by
  have hhead := List.head?_dropWhile_not p text
  rwa [h] at hhead

/-- Characters of a class in front of one that is not of it are taken all. -/
theorem takeWhile_append_eq {word after : List Char} (hword : ∀ c ∈ word, p c = true)
    (hafter : ∀ c, after.head? = some c → p c = false) : (word ++ after).takeWhile p = word := by
  have hstop : after.takeWhile p = [] := by
    cases after with
    | nil => rfl
    | cons c after => rw [List.takeWhile_cons_of_neg (by simp [hafter c rfl])]
  rw [List.takeWhile_append_of_pos hword, hstop, List.append_nil]

/-- Characters of a class in front of one that is not of it are dropped all. -/
theorem dropWhile_append_eq {word after : List Char} (hword : ∀ c ∈ word, p c = true)
    (hafter : ∀ c, after.head? = some c → p c = false) : (word ++ after).dropWhile p = after := by
  have hstop : after.dropWhile p = after := by
    cases after with
    | nil => rfl
    | cons c after => rw [List.dropWhile_cons_of_neg (by simp [hafter c rfl])]
  rw [List.dropWhile_append_of_pos hword, hstop]

/-- Behind the longest run of characters of a class stands a certain other character exactly when
the text splits there. -/
theorem head?_dropWhile_eq_some_iff {text : List Char} {c : Char} (hc : p c = false) :
    (text.dropWhile p).head? = some c ↔
      ∃ passed rest, text = passed ++ c :: rest ∧ ∀ d ∈ passed, p d = true := by
  rw [← List.find?_not_eq_head?_dropWhile, List.find?_eq_some_iff_append]
  simp [hc]

/-- A character of a class stands before a column exactly when the text before it ends in one. -/
theorem any_head?_reverse_eq_false_iff {before : List Char} :
    before.reverse.head?.any p = false ↔ ∀ c, before.getLast? = some c → p c = false := by
  rw [List.head?_reverse]
  cases before.getLast? with
  | none => simp
  | some c => simp

/-- What is taken from a text is a run if there is some of it, and none of the class before it. -/
theorem isRun_takeWhile {before text : List Char}
    (hbegins : ∀ c, before.getLast? = some c → p c = false) (hne : text.takeWhile p ≠ []) :
    IsRun p before (text.takeWhile p) (text.dropWhile p) where
  nonempty := hne
  members := List.all_eq_true.mp List.all_takeWhile
  begins := hbegins
  ends := fun _ => not_of_head?_dropWhile

/-- What is taken from the start of a line is a run of it, if there is some of it. -/
theorem isRunAt_takeWhile {line : Line} (hne : line.takeWhile p ≠ []) :
    IsRunAt p line 0 (line.takeWhile p) := by
  refine ⟨[], line.dropWhile p, ?_, rfl, isRun_takeWhile (by simp) hne⟩
  rw [List.nil_append, List.takeWhile_append_dropWhile]

/-- What holds of a line can be shown run by run: from what holds behind a run, and behind a
character that is not of the class, and at the end. -/
theorem run_induction {motive : (before text : List Char) → Prop}
    (stop : ∀ before, motive before [])
    (pass : ∀ before c rest, p c = false → motive (before ++ [c]) rest → motive before (c :: rest))
    (run : ∀ before word after, IsRun p before word after → motive (before ++ word) after →
      motive before (word ++ after))
    (line : Line) : motive [] line := by
  -- The text that is left does not go on with a run that began before it.
  have hfrom : ∀ n before text, text.length = n →
      (∀ c d, before.getLast? = some c → text.head? = some d → p d = true → p c = false) →
      motive before text := by
    intro n
    induction n using Nat.strong_induction_on with
    | _ n ih =>
      intro before text hn hsevered
      cases text with
      | nil => exact stop before
      | cons c rest =>
        rw [List.length_cons] at hn
        by_cases hc : p c = true
        · have hbegins : ∀ d, before.getLast? = some d → p d = false :=
            fun d hd => hsevered d c hd rfl hc
          have hne : (c :: rest).takeWhile p ≠ [] := by
            rw [List.takeWhile_cons_of_pos hc]
            exact List.cons_ne_nil _ _
          have hrun := isRun_takeWhile hbegins hne
          have hsplit := List.takeWhile_append_dropWhile (p := p) (l := c :: rest)
          have hlength := congrArg List.length hsplit
          have hpos := List.length_pos_iff.mpr hne
          rw [List.length_append, List.length_cons] at hlength
          rw [← hsplit]
          refine run _ _ _ hrun (ih _ (by omega) _ _ rfl ?_)
          intro d e _ he hpe
          rw [hrun.ends e he] at hpe
          cases hpe
        · have hc' : p c = false := Bool.eq_false_iff.mpr hc
          refine pass _ _ _ hc' (ih rest.length (by omega) _ _ rfl ?_)
          intro d e hd _ _
          rw [List.getLast?_concat, Option.some.injEq] at hd
          exact hd ▸ hc'
  exact hfrom line.length [] line rfl (by simp)

/-! ## Finding all runs -/

/-- A run is read exactly where it stands. -/
theorem run_eq_some_iff {before text word : List Char} :
    run p before.reverse text = some word ↔
      ∃ after, text = word ++ after ∧ IsRun p before word after := by
  simp only [run, Option.ite_none_left_eq_some, Bool.or_eq_true, not_or, Bool.not_eq_true,
    any_head?_reverse_eq_false_iff, List.isEmpty_eq_false_iff, Option.some.injEq]
  constructor
  · rintro ⟨⟨hbegins, hne⟩, rfl⟩
    exact ⟨text.dropWhile p, List.takeWhile_append_dropWhile.symm, isRun_takeWhile hbegins hne⟩
  · rintro ⟨after, rfl, hrun⟩
    rw [takeWhile_append_eq hrun.members hrun.ends]
    exact ⟨⟨hrun.begins, hrun.nonempty⟩, rfl⟩

/-- No run begins within another. -/
theorem isolated_run (p : Char → Bool) : Reader.Isolated List.length (run p) := by
  intro before passed rest found later hpassed hfound hlater
  -- The character before the later run is not of the class, so the first run ends before it.
  obtain ⟨c, hc⟩ : ∃ c, passed.getLast? = some c :=
    ⟨_, List.getLast?_eq_some_getLast hpassed⟩
  obtain ⟨front, rfl⟩ := List.getLast?_eq_some_iff.mp hc
  have hstop : p c = false := by
    simp only [run, List.reverse_append, List.reverse_singleton, List.cons_append, List.head?_cons,
      Option.any_some, Option.ite_none_left_eq_some, Bool.or_eq_true, not_or,
      Bool.not_eq_true] at hlater
    exact hlater.1.1
  have hlength : ((front ++ [c] ++ rest).takeWhile p).length ≤ front.length := by
    rw [List.append_assoc, List.takeWhile_append]
    split
    · rw [List.singleton_append, List.takeWhile_cons_of_neg (by simp [hstop]), List.append_nil]
    · exact (List.takeWhile_prefix p).length_le
  have hword : (front ++ [c] ++ rest).takeWhile p = found := by
    simp only [run, Option.ite_none_left_eq_some, Option.some.injEq] at hfound
    exact hfound.2
  rw [hword] at hlength
  rw [List.length_append]
  omega

/-- The runs that are found in a line are its maximal runs. -/
theorem mem_runs_iff {line : Line} {column : Nat} {word : List Char} :
    (column, word) ∈ runs p line ↔ IsRunAt p line column word := by
  rw [runs, (isolated_run p).mem_findAll_iff (fun before => by simp [run])]
  constructor
  · rintro ⟨passed, rest, rfl, hcolumn, hread⟩
    obtain ⟨after, rfl, hrun⟩ := run_eq_some_iff.mp hread
    exact ⟨passed, after, (List.append_assoc _ _ _).symm, hcolumn.symm, hrun⟩
  · rintro ⟨before, after, rfl, rfl, hrun⟩
    exact ⟨before, word ++ after, List.append_assoc _ _ _, rfl,
      run_eq_some_iff.mpr ⟨after, rfl, hrun⟩⟩

/-- Where a run begins it is found, and then the runs behind it. -/
theorem findAllFrom_run {before word after : List Char} (h : IsRun p before word after) :
    findAllFrom List.length (run p) 0 before.length before.reverse (word ++ after) =
      (before.length, word) ::
        findAllFrom List.length (run p) 0 (before ++ word).length (before ++ word).reverse after := by
  have hread : run p before.reverse (word ++ after) = some word :=
    run_eq_some_iff.mpr ⟨after, rfl, h⟩
  rw [findAllFrom_take hread h.nonempty rfl, List.length_append, List.reverse_append]

/-- A character that is not of the class is passed over. -/
theorem findAllFrom_run_pass {before rest : List Char} {c : Char} (hc : p c = false) :
    findAllFrom List.length (run p) 0 before.length before.reverse (c :: rest) =
      findAllFrom List.length (run p) 0 (before ++ [c]).length (before ++ [c]).reverse rest := by
  have hread : run p before.reverse (c :: rest) = none := by
    simp [run, hc]
  rw [findAllFrom, hread, List.length_append, List.reverse_append]
  rfl

/-! ## Taking as much as leaves enough -/

section Greedy

variable {α : Type} {next : List Char → Reader α} {taken before text : List Char} {found : α}

/-- What is read is what `next` reads behind some characters of the class. -/
theorem takeMany_eq_some (h : takeMany p next taken before text = some found) :
    ∃ word rest, text = word ++ rest ∧ (∀ c ∈ word, p c = true) ∧
      next (word.reverse ++ taken) (word.reverse ++ before) rest = some found := by
  induction text generalizing taken before with
  | nil => exact ⟨[], [], rfl, by simp, h⟩
  | cons c text ih =>
    rw [takeMany] at h
    split at h
    · next hc =>
      split at h
      · next _ hlonger =>
        rw [h] at hlonger
        obtain ⟨word, rest, rfl, hword, hread⟩ := ih hlonger
        refine ⟨c :: word, rest, rfl, List.forall_mem_cons.mpr ⟨hc, hword⟩, ?_⟩
        simpa using hread
      · exact ⟨[], c :: text, rfl, by simp, h⟩
    · exact ⟨[], c :: text, rfl, by simp, h⟩

/-- Nothing is read exactly when `next` reads nothing behind any characters of the class that the text
begins with. -/
theorem takeMany_eq_none_iff :
    takeMany p next taken before text = none ↔
      ∀ word rest, text = word ++ rest → (∀ c ∈ word, p c = true) →
        next (word.reverse ++ taken) (word.reverse ++ before) rest = none := by
  constructor
  · intro hnone word
    induction word generalizing taken before text with
    | nil =>
      rintro rest rfl -
      -- The shortest word is tried last.
      cases text with
      | nil => exact hnone
      | cons c text =>
        rw [takeMany] at hnone
        split at hnone
        · split at hnone
          · cases hnone
          · exact hnone
        · exact hnone
    | cons c word ih =>
      rintro rest rfl hword
      obtain ⟨hc, hword⟩ := List.forall_mem_cons.mp hword
      rw [List.cons_append, takeMany, if_pos hc] at hnone
      split at hnone
      · cases hnone
      · next hlonger => simpa using ih hlonger rest rfl hword
  · intro hall
    rw [Option.eq_none_iff_forall_ne_some]
    intro found h
    obtain ⟨word, rest, htext, hword, hread⟩ := takeMany_eq_some h
    rw [hall word rest htext hword] at hread
    cases hread

/-- All characters of the class are taken, if `next` can read what is behind them. -/
theorem takeMany_of_takeWhile
    (h : next ((text.takeWhile p).reverse ++ taken) ((text.takeWhile p).reverse ++ before)
      (text.dropWhile p) = some found) : takeMany p next taken before text = some found := by
  induction text generalizing taken before with
  | nil => exact h
  | cons c text ih =>
    rw [takeMany]
    split
    · next hc =>
      rw [List.takeWhile_cons_of_pos hc, List.dropWhile_cons_of_pos hc] at h
      rw [ih (by simpa using h)]
    · next hc =>
      rw [List.takeWhile_cons_of_neg hc, List.dropWhile_cons_of_neg hc] at h
      exact h

/-- What is read behind one character at least is what `next` reads behind some of the class. -/
theorem takeSome_eq_some (h : takeSome p next taken before text = some found) :
    ∃ word rest, text = word ++ rest ∧ word ≠ [] ∧ (∀ c ∈ word, p c = true) ∧
      next (word.reverse ++ taken) (word.reverse ++ before) rest = some found := by
  cases text with
  | nil => cases h
  | cons c text =>
    obtain ⟨hc, hmany⟩ := Option.ite_none_right_eq_some.mp h
    obtain ⟨word, rest, rfl, hword, hread⟩ := takeMany_eq_some hmany
    refine ⟨c :: word, rest, rfl, List.cons_ne_nil _ _, List.forall_mem_cons.mpr ⟨hc, hword⟩, ?_⟩
    simpa using hread

/-- Nothing is read behind one character at least exactly when `next` reads nothing behind any
characters of the class that the text begins with. -/
theorem takeSome_eq_none_iff :
    takeSome p next taken before text = none ↔
      ∀ word rest, text = word ++ rest → word ≠ [] → (∀ c ∈ word, p c = true) →
        next (word.reverse ++ taken) (word.reverse ++ before) rest = none := by
  constructor
  · rintro hnone word rest rfl hne hword
    obtain ⟨c, word, rfl⟩ := List.exists_cons_of_ne_nil hne
    obtain ⟨hc, hword⟩ := List.forall_mem_cons.mp hword
    rw [List.cons_append, takeSome, if_pos hc, takeMany_eq_none_iff] at hnone
    simpa using hnone word rest rfl hword
  · intro hall
    rw [Option.eq_none_iff_forall_ne_some]
    intro found h
    obtain ⟨word, rest, htext, hne, hword, hread⟩ := takeSome_eq_some h
    rw [hall word rest htext hne hword] at hread
    cases hread

/-- All characters of the class are taken, if there is one and `next` can read what is behind them. -/
theorem takeSome_of_takeWhile (hne : text.takeWhile p ≠ [])
    (h : next ((text.takeWhile p).reverse ++ taken) ((text.takeWhile p).reverse ++ before)
      (text.dropWhile p) = some found) : takeSome p next taken before text = some found := by
  cases text with
  | nil => exact absurd rfl hne
  | cons c text =>
    by_cases hc : p c = true
    · rw [List.takeWhile_cons_of_pos hc, List.dropWhile_cons_of_pos hc] at h
      rw [takeSome, if_pos hc]
      exact takeMany_of_takeWhile (by simpa using h)
    · exact absurd (List.takeWhile_cons_of_neg hc) hne

end Greedy

/-! ## Blanks at the ends of a line -/

/-- Trimming the end of a line is trimming the start of it read backwards. -/
theorem dropWhile_isBlank_reverse (line : Line) :
    line.reverse.dropWhile isBlank = (trimEnd line).reverse := by
  rw [trimEnd, List.reverse_reverse]

/-- The two ends of a line can be trimmed in either order. -/
theorem trimStart_trimEnd (line : Line) : trimStart (trimEnd line) = trimEnd (trimStart line) := by
  have hend : ∀ line, trimEnd line = line.rdropWhile isBlank := fun _ => rfl
  simp only [hend, trimStart]
  -- The last character decides what the end is trimmed of.
  induction line using List.reverseRecOn with
  | nil => rfl
  | append_singleton line c ih =>
    rw [List.dropWhile_append]
    by_cases hc : isBlank c = true
    · rw [List.rdropWhile_concat_pos _ _ _ hc, ih]
      split
      · next hnil =>
        rw [List.isEmpty_iff.mp hnil, List.dropWhile_cons_of_pos hc]
        rfl
      · rw [List.rdropWhile_concat_pos _ _ _ hc]
    · rw [List.rdropWhile_concat_neg _ _ _ hc, List.dropWhile_append]
      split
      · rw [List.dropWhile_cons_of_neg hc, List.rdropWhile_singleton, if_neg hc]
      · rw [List.rdropWhile_concat_neg _ _ _ hc]

/-- A line that is read backwards is trimmed of the same blanks. -/
theorem trim_reverse (line : Line) : trim line.reverse = (trim line).reverse := by
  have hstart : trimStart line.reverse = (trimEnd line).reverse := dropWhile_isBlank_reverse line
  calc trim line.reverse = trimEnd (trimEnd line).reverse := by rw [trim, hstart]
    _ = (trimStart (trimEnd line)).reverse := by rw [trimEnd, List.reverse_reverse, trimStart]
    _ = (trim line).reverse := by rw [trimStart_trimEnd, trim]

/-- Of a text and blanks behind it the text is kept, if it does not end in a blank. -/
theorem trimEnd_append {kept blanks : List Char} (hblanks : blanks.all isBlank = true)
    (hkept : ∀ c, kept.getLast? = some c → isBlank c = false) : trimEnd (kept ++ blanks) = kept := by
  have hdrop : (blanks.reverse ++ kept.reverse).dropWhile isBlank = kept.reverse := by
    apply dropWhile_append_eq
    · intro c hc
      exact List.all_eq_true.mp hblanks c (List.mem_reverse.mp hc)
    · intro c hc
      exact hkept c (by rwa [List.head?_reverse] at hc)
  rw [trimEnd, List.reverse_append, hdrop, List.reverse_reverse]

/-- Trimming leaves nothing of a text exactly when it is blank. -/
theorem trim_eq_nil_iff {text : List Char} : trim text = [] ↔ text.all isBlank = true := by
  have hsplit := List.takeWhile_append_dropWhile (p := isBlank) (l := text)
  constructor
  · intro htrim
    -- What trimming the start leaves is blank, and so is what it takes off.
    obtain ⟨blanks, hblanks, hstart⟩ := exists_blanks_trimEnd (trimStart text)
    rw [← trim, htrim, List.nil_append] at hstart
    rw [trimStart] at hstart
    rw [← hsplit, List.all_append, hstart, hblanks, List.all_takeWhile, Bool.and_self]
  · intro hblank
    have hstart : trimStart text = [] := List.dropWhile_eq_nil_iff.mpr (List.all_eq_true.mp hblank)
    rw [trim, hstart]
    rfl

/-- A text ends in a token that begins with no blank exactly when it does so trimmed. -/
theorem suffix_trim_iff {text more : List Char} {c : Char} (hc : isBlank c = false) :
    c :: more <:+ trim text ↔ c :: more <:+ trimEnd text := by
  rw [trim, ← trimStart_trimEnd]
  constructor
  · intro h
    exact h.trans (List.dropWhile_suffix isBlank)
  · rintro ⟨before, hbefore⟩
    rw [← hbefore, trimStart, List.dropWhile_append]
    split
    · exact ⟨[], (List.dropWhile_cons_of_neg (by simp [hc])).symm⟩
    · exact List.suffix_append _ _

end Line

end ScriptLint
