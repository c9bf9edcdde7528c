import ScriptLint.Text.Line
import ScriptLint.Text.Range

/-!
# What searching a line gives

A search answers with a column and with what a reader took there. The line splits at that column,
and the reader takes the thing from the two parts (`findFirst?_eq_some`, `mem_findAll`); where nothing
is found, the reader takes nothing wherever the line splits (`findFirst?_eq_none_iff`,
`findAllFrom_eq_nil_iff`). Of several things that are found, each stands in a later column than the
one before (`findAll_pairwise`). The span of what was found covers a part of the line
(`Span.Covers`), and what the reader says about the text it takes (`Reader.Spells`) is said about
that part (`Spells.findFirst?_covers`, `Spells.findAll_covers`).

The other way round, of the columns at which the reader takes something (`Reader.TakesAt`) the
leftmost is the one that is found (`findFirst?_eq_some_iff_takesAt`). Of all columns, those within
what was taken before are passed over (`findAllFrom_take`); a reader that takes nothing there
(`Reader.Isolated`) is found wherever it takes something (`Isolated.mem_findAll_iff`).

The edges of a line are not searched but trimmed. The line splits there too, into what is kept and
blanks (`exists_blanks_trimEnd`).
-/

namespace ScriptLint

variable {α : Type}

namespace Line

/-- The leftmost thing found from a column on is taken where the text splits, and nothing is taken
at an earlier column. -/
theorem findFirstFrom_eq_some {read : Reader α} {column : Nat} {before text : List Char}
    {found : Nat × α} (h : findFirstFrom read column before text = some found) :
    ∃ passed rest, text = passed ++ rest ∧ found.1 = column + passed.length ∧
      read (passed.reverse ++ before) rest = some found.2 ∧
      ∀ p q, passed = p ++ q → q ≠ [] → read (p.reverse ++ before) (q ++ rest) = none := by
  induction text generalizing column before with
  | nil => simp [findFirstFrom] at h
  | cons c text ih =>
    rw [findFirstFrom] at h
    split at h
    · next a hread =>
      cases h
      refine ⟨[], c :: text, rfl, rfl, hread, ?_⟩
      intro p q hpq hq
      exact absurd (List.append_eq_nil_iff.mp hpq.symm).2 hq
    · next hnone =>
      obtain ⟨passed, rest, rfl, hcolumn, hread, hleft⟩ := ih h
      refine ⟨c :: passed, rest, rfl, ?_, ?_, ?_⟩
      · rw [hcolumn, List.length_cons]
        omega
      · rw [List.reverse_cons, List.append_assoc]
        exact hread
      · intro p q hpq hq
        -- Either the earlier column is the one just looked at, or the search after it passed it.
        cases p with
        | nil =>
          rw [List.nil_append] at hpq
          subst hpq
          exact hnone
        | cons d p =>
          rw [List.cons_append, List.cons.injEq] at hpq
          obtain ⟨rfl, hpq⟩ := hpq
          rw [List.reverse_cons, List.append_assoc]
          exact hleft p q hpq hq

/-- The leftmost thing found in a line is taken where the line splits, and nothing is taken at an
earlier column. -/
theorem findFirst?_eq_some {read : Reader α} {line : Line} {found : Nat × α}
    (h : findFirst? read line = some found) :
    ∃ passed rest, line = passed ++ rest ∧ found.1 = passed.length ∧
      read passed.reverse rest = some found.2 ∧
      ∀ p q, passed = p ++ q → q ≠ [] → read p.reverse (q ++ rest) = none := by
  obtain ⟨passed, rest, hline, hcolumn, hread, hleft⟩ := findFirstFrom_eq_some h
  rw [Nat.zero_add] at hcolumn
  rw [List.append_nil] at hread
  refine ⟨passed, rest, hline, hcolumn, hread, fun p q hpq hq => ?_⟩
  simpa using hleft p q hpq hq

/-- Nothing is found from a column on exactly when nothing is taken wherever the text splits. -/
theorem findFirstFrom_eq_none_iff {read : Reader α} {column : Nat} {before text : List Char} :
    findFirstFrom read column before text = none ↔
      ∀ passed rest, text = passed ++ rest → rest ≠ [] →
        read (passed.reverse ++ before) rest = none := by
  induction text generalizing column before with
  | nil => simp [findFirstFrom]
  | cons c text ih =>
    rw [findFirstFrom]
    constructor
    · intro hnone passed rest hsplit hrest
      split at hnone
      · cases hnone
      · next hread =>
        cases passed with
        | nil =>
          rw [List.nil_append] at hsplit
          subst hsplit
          exact hread
        | cons d passed =>
          rw [List.cons_append, List.cons.injEq] at hsplit
          obtain ⟨rfl, hsplit⟩ := hsplit
          rw [List.reverse_cons, List.append_assoc]
          exact ih.mp hnone passed rest hsplit hrest
    · intro hall
      have hread : read before (c :: text) = none := hall [] (c :: text) rfl (List.cons_ne_nil _ _)
      rw [hread]
      refine ih.mpr fun passed rest hsplit hrest => ?_
      have hlater := hall (c :: passed) rest (by rw [hsplit, List.cons_append]) hrest
      rwa [List.reverse_cons, List.append_assoc] at hlater

/-- Nothing is found in a line exactly when nothing is taken wherever the line splits. -/
theorem findFirst?_eq_none_iff {read : Reader α} {line : Line} :
    findFirst? read line = none ↔
      ∀ passed rest, line = passed ++ rest → rest ≠ [] → read passed.reverse rest = none := by
  simp only [findFirst?, findFirstFrom_eq_none_iff, List.append_nil]

/-- What a reader takes is found if it takes nothing at an earlier column. -/
theorem findFirstFrom_of_read {read : Reader α} {column : Nat} {before passed rest : List Char}
    {found : α} (hrest : rest ≠ []) (hread : read (passed.reverse ++ before) rest = some found)
    (hnone : ∀ p q, passed = p ++ q → q ≠ [] → read (p.reverse ++ before) (q ++ rest) = none) :
    findFirstFrom read column before (passed ++ rest) = some (column + passed.length, found) := by
  induction passed generalizing column before with
  | nil =>
    obtain ⟨c, rest, rfl⟩ := List.exists_cons_of_ne_nil hrest
    rw [List.reverse_nil, List.nil_append] at hread
    rw [List.nil_append, findFirstFrom, hread]
    rfl
  | cons c passed ih =>
    have hfirst : read before (c :: passed ++ rest) = none :=
      hnone [] (c :: passed) rfl (List.cons_ne_nil _ _)
    rw [List.reverse_cons, List.append_assoc] at hread
    have hlater := @ih (column + 1) (c :: before) hread fun p q hpq hq => by
      have hskipped := hnone (c :: p) q (by rw [hpq, List.cons_append]) hq
      rwa [List.reverse_cons, List.append_assoc] at hskipped
    have hcolumn : column + 1 + passed.length = column + (c :: passed).length := by
      rw [List.length_cons]
      omega
    rw [List.cons_append] at hfirst ⊢
    rw [findFirstFrom, hfirst, hlater, hcolumn]

/-- Whatever is found from a column on is taken where the text splits. -/
theorem mem_findAllFrom {width : α → Nat} {read : Reader α} {skip column : Nat}
    {before text : List Char} {found : Nat × α}
    (h : found ∈ findAllFrom width read skip column before text) :
    ∃ passed rest, text = passed ++ rest ∧ found.1 = column + passed.length ∧
      read (passed.reverse ++ before) rest = some found.2 := by
  induction text generalizing skip column before with
  | nil => simp [findAllFrom] at h
  | cons c text ih =>
    -- What is found behind this character, whatever was skipped or taken at it.
    have later : ∀ {skip}, found ∈ findAllFrom width read skip (column + 1) (c :: before) text →
        ∃ passed rest, c :: text = passed ++ rest ∧ found.1 = column + passed.length ∧
          read (passed.reverse ++ before) rest = some found.2 := by
      intro skip hfound
      obtain ⟨passed, rest, rfl, hcolumn, hread⟩ := ih hfound
      refine ⟨c :: passed, rest, rfl, ?_, ?_⟩
      · rw [hcolumn, List.length_cons]
        omega
      · rw [List.reverse_cons, List.append_assoc]
        exact hread
    rw [findAllFrom.eq_def] at h
    dsimp only at h
    split at h
    · exact later h
    · split at h
      · next a hread =>
        rcases List.mem_cons.mp h with rfl | h
        · exact ⟨[], c :: text, rfl, rfl, hread⟩
        · exact later h
      · exact later h

/-- Whatever is found in a line is taken where the line splits. -/
theorem mem_findAll {width : α → Nat} {read : Reader α} {line : Line} {found : Nat × α}
    (h : found ∈ findAll width read line) :
    ∃ passed rest, line = passed ++ rest ∧ found.1 = passed.length ∧
      read passed.reverse rest = some found.2 := by
  obtain ⟨passed, rest, hline, hcolumn, hread⟩ := mem_findAllFrom h
  rw [Nat.zero_add] at hcolumn
  rw [List.append_nil] at hread
  exact ⟨passed, rest, hline, hcolumn, hread⟩

/-- Reading a text to its end finds nothing exactly when there is no first thing to find. -/
theorem findAllFrom_eq_nil_iff {width : α → Nat} {read : Reader α} {column : Nat}
    {before text : List Char} :
    findAllFrom width read 0 column before text = [] ↔
      findFirstFrom read column before text = none := by
  induction text generalizing column before with
  | nil => simp [findAllFrom, findFirstFrom]
  | cons c text ih =>
    rw [findAllFrom, findFirstFrom]
    cases read before (c :: text) with
    | none => exact ih
    | some found => simp

/-- What is found from a column on stands from left to right. -/
theorem findAllFrom_pairwise (width : α → Nat) (read : Reader α) (skip column : Nat)
    (before text : List Char) :
    (findAllFrom width read skip column before text).Pairwise fun a b => a.1 < b.1 := by
  induction text generalizing skip column before with
  | nil => exact List.Pairwise.nil
  | cons c text ih =>
    rw [findAllFrom.eq_def]
    dsimp only
    split
    · exact ih _ _ _
    · split
      · -- What is found behind this character stands in a later column.
        refine List.Pairwise.cons (fun found hfound => ?_) (ih _ _ _)
        obtain ⟨passed, rest, -, hcolumn, -⟩ := mem_findAllFrom hfound
        dsimp only
        omega
      · exact ih _ _ _

/-- What is found in a line stands from left to right, and no two things are found in one column. -/
theorem findAll_pairwise (width : α → Nat) (read : Reader α) (line : Line) :
    (findAll width read line).Pairwise fun a b => a.1 < b.1 :=
  findAllFrom_pairwise width read 0 0 [] line

/-- What is left of the thing that was taken last is passed over. -/
theorem findAllFrom_skip (width : α → Nat) (read : Reader α) (column : Nat)
    (before passed rest : List Char) :
    findAllFrom width read passed.length column before (passed ++ rest) =
      findAllFrom width read 0 (column + passed.length) (passed.reverse ++ before) rest := by
  induction passed generalizing column before with
  | nil => rfl
  | cons c passed ih =>
    have hcolumn : column + 1 + passed.length = column + (c :: passed).length := by
      rw [List.length_cons]
      omega
    rw [List.length_cons, List.cons_append, findAllFrom, ih, hcolumn, List.reverse_cons,
      List.append_assoc, List.singleton_append, List.length_cons]

/-- A text at no column of which the reader takes something is passed over. -/
theorem findAllFrom_pass {width : α → Nat} {read : Reader α} {column : Nat}
    {before passed rest : List Char}
    (hnone : ∀ p q, passed = p ++ q → q ≠ [] → read (p.reverse ++ before) (q ++ rest) = none) :
    findAllFrom width read 0 column before (passed ++ rest) =
      findAllFrom width read 0 (column + passed.length) (passed.reverse ++ before) rest := by
  induction passed generalizing column before with
  | nil => rfl
  | cons c passed ih =>
    have hfirst : read before (c :: (passed ++ rest)) = none :=
      hnone [] (c :: passed) rfl (List.cons_ne_nil _ _)
    have hlater := @ih (column + 1) (c :: before) fun p q hpq hq => by
      have hskipped := hnone (c :: p) q (by rw [hpq, List.cons_append]) hq
      rwa [List.reverse_cons, List.append_assoc] at hskipped
    have hcolumn : column + 1 + passed.length = column + (c :: passed).length := by
      rw [List.length_cons]
      omega
    rw [List.cons_append, findAllFrom, hfirst]
    dsimp only
    rw [hlater, hcolumn, List.reverse_cons, List.append_assoc, List.singleton_append]

/-- A thing that the reader takes is found, and what it is made of is passed over. -/
theorem findAllFrom_take {width : α → Nat} {read : Reader α} {column : Nat}
    {before taken rest : List Char} {found : α} (hread : read before (taken ++ rest) = some found)
    (hne : taken ≠ []) (hwidth : taken.length = width found) :
    findAllFrom width read 0 column before (taken ++ rest) =
      (column, found) ::
        findAllFrom width read 0 (column + taken.length) (taken.reverse ++ before) rest := by
  obtain ⟨c, taken, rfl⟩ := List.exists_cons_of_ne_nil hne
  have hskip : width found - 1 = taken.length := by
    rw [← hwidth, List.length_cons, Nat.add_sub_cancel]
  have hcolumn : column + 1 + taken.length = column + (c :: taken).length := by
    rw [List.length_cons]
    omega
  rw [List.cons_append] at hread ⊢
  rw [findAllFrom, hread]
  dsimp only
  rw [hskip, findAllFrom_skip, hcolumn, List.reverse_cons, List.append_assoc,
    List.singleton_append]

end Line

/-- The span is not empty, and ends in the line or at its end. -/
def Span.Within (span : Span) (line : Line) : Prop := 0 < span.length ∧ span.stop ≤ line.length

/-- The part of a line at a span. -/
def Span.cut (span : Span) (line : Line) : Line := (line.drop span.column).take span.length

/-- The span is where `taken`, which is not empty, stands in the line. -/
def Span.Covers (span : Span) (line taken : Line) : Prop :=
  taken ≠ [] ∧ ∃ passed rest, line = passed ++ taken ++ rest ∧ span = ⟨passed.length, taken.length⟩

namespace Span

variable {span : Span} {line taken : Line}

/-- A span that covers something is a span of the line. -/
theorem Covers.within (h : span.Covers line taken) : span.Within line := by
  obtain ⟨hne, passed, rest, rfl, rfl⟩ := h
  refine ⟨List.length_pos_iff.mpr hne, ?_⟩
  simp only [Span.stop, List.length_append]
  omega

/-- What a span covers is the part of the line at it. -/
theorem Covers.cut_eq (h : span.Covers line taken) : span.cut line = taken := by
  obtain ⟨-, passed, rest, rfl, rfl⟩ := h
  rw [cut, List.append_assoc, List.drop_left, List.take_left]

/-- The part of a line at the span of its length is the line, which may be empty. -/
theorem cut_wholeLine (line : Line) : (wholeLine line.length).cut line = line := by
  rw [cut, wholeLine, List.drop_zero, List.take_length]

/-- All of a line that is not empty is covered by the span of its length. -/
theorem wholeLine_covers (h : line ≠ []) : (wholeLine line.length).Covers line line :=
  ⟨h, [], [], (List.append_nil line).symm, rfl⟩

end Span

namespace Columns

/-- The span that the columns are those of, if they are in order. -/
def span (columns : Columns) : Span := ⟨columns.first.toNat, (columns.last - columns.first).toNat⟩

/-- The columns are those of a span where `taken` stands in the line. -/
def Covers (columns : Columns) (line taken : Line) : Prop :=
  ∃ span : Span, span.columns = columns ∧ span.Covers line taken

@[simp] theorem span_columns (span : Span) : span.columns.span = span := by
  simp only [Columns.span, Span.columns, Span.stop, Int.toNat_natCast]
  congr 1
  omega

variable {columns : Columns} {line taken : Line}

/-- Columns that cover something have a span that covers it. -/
theorem Covers.span (h : columns.Covers line taken) : columns.span.Covers line taken := by
  obtain ⟨span, rfl, hcovers⟩ := h
  rwa [span_columns]

/-- Columns that cover something are those of a span. -/
theorem Covers.columns_span (h : columns.Covers line taken) : columns.span.columns = columns := by
  obtain ⟨span, rfl, -⟩ := h
  rw [span_columns]

/-- Up to the end of a line, the second of two parts is covered. -/
theorem covers_append {passed rest : Line} (h : rest ≠ []) :
    (⟨passed.length, (passed ++ rest).length⟩ : Columns).Covers (passed ++ rest) rest := by
  refine ⟨⟨passed.length, rest.length⟩, ?_, h, passed, [], (List.append_nil _).symm, rfl⟩
  rw [Span.columns, Span.stop, List.length_append]

end Columns

namespace Reader

/-- What the reader takes is as wide as a text that stands there, is not empty and is related to it
by `P`. -/
def Spells (width : α → Nat) (P : α → List Char → Prop) (read : Reader α) : Prop :=
  ∀ before after found, read before after = some found →
    ∃ taken rest, after = taken ++ rest ∧ taken ≠ [] ∧ taken.length = width found ∧ P found taken

/-- A reader that takes something only in front of a word spells that word. -/
theorem spells_of_prefix {read : Reader α} {word : List Char} (hword : word ≠ [])
    (h : ∀ before after found, read before after = some found → word <+: after) :
    Spells (fun _ => word.length) (fun _ taken => taken = word) read := by
  intro before after found hread
  obtain ⟨rest, hrest⟩ := h before after found hread
  exact ⟨word, rest, hrest.symm, hword, rfl, rfl⟩

/-- Within the width of what the reader takes, it takes nothing more. -/
def Isolated (width : α → Nat) (read : Reader α) : Prop :=
  ∀ before passed rest found later, passed ≠ [] → read before (passed ++ rest) = some found →
    read (passed.reverse ++ before) rest = some later → width found ≤ passed.length

/-- The reader takes something at a column of a line. -/
def TakesAt (read : Reader α) (line : Line) (column : Nat) (found : α) : Prop :=
  ∃ passed rest, line = passed ++ rest ∧ column = passed.length ∧
    read passed.reverse rest = some found

section Leftmost

variable {read : Reader α} {line : Line} {column : Nat} {found : α}

/-- Nothing is taken before a column exactly when nothing is taken wherever the text before it
splits. -/
theorem forall_not_takesAt_iff {passed rest : List Char} :
    (∀ earlier < passed.length, ∀ other, ¬ TakesAt read (passed ++ rest) earlier other) ↔
      ∀ p q, passed = p ++ q → q ≠ [] → read p.reverse (q ++ rest) = none := by
  constructor
  · rintro hnone p q rfl hq
    rw [Option.eq_none_iff_forall_ne_some]
    intro other hread
    have hlt : p.length < (p ++ q).length := by
      rw [List.length_append]
      exact Nat.lt_add_of_pos_right (List.length_pos_iff.mpr hq)
    exact hnone p.length hlt other ⟨p, q ++ rest, List.append_assoc _ _ _, rfl, hread⟩
  · rintro hnone earlier hlt other ⟨p, text, hline, rfl, hread⟩
    -- The column is before the end of what is passed, so the line splits there into three.
    obtain ⟨q, rfl, htext⟩ | ⟨q, rfl, -⟩ := List.append_eq_append_iff.mp hline.symm
    · have hq : q ≠ [] := by
        rintro rfl
        rw [List.append_nil] at hlt
        exact Nat.lt_irrefl _ hlt
      rw [htext, hnone p q rfl hq] at hread
      cases hread
    · rw [List.length_append] at hlt
      omega

/-- A reader finds nothing in a line exactly when it takes nothing at any column. -/
theorem findFirst?_eq_none_iff_takesAt (hend : ∀ before, read before [] = none) :
    Line.findFirst? read line = none ↔ ∀ column found, ¬ TakesAt read line column found := by
  rw [Line.findFirst?_eq_none_iff]
  constructor
  · rintro hnone column found ⟨passed, rest, hline, -, hread⟩
    by_cases hrest : rest = []
    · rw [hrest, hend] at hread
      cases hread
    · rw [hnone passed rest hline hrest] at hread
      cases hread
  · intro hnone passed rest hline _
    rw [Option.eq_none_iff_forall_ne_some]
    intro found hread
    exact hnone passed.length found ⟨passed, rest, hline, rfl, hread⟩

/-- What a reader finds in a line is what it takes at the leftmost column. -/
theorem findFirst?_eq_some_iff_takesAt (hend : ∀ before, read before [] = none) :
    Line.findFirst? read line = some (column, found) ↔ TakesAt read line column found ∧
      ∀ earlier < column, ∀ other, ¬ TakesAt read line earlier other := by
  constructor
  · intro h
    obtain ⟨passed, rest, rfl, rfl, hread, hnone⟩ := Line.findFirst?_eq_some h
    exact ⟨⟨passed, rest, rfl, rfl, hread⟩, forall_not_takesAt_iff.mpr hnone⟩
  · rintro ⟨⟨passed, rest, rfl, rfl, hread⟩, hleft⟩
    have hrest : rest ≠ [] := by
      rintro rfl
      rw [hend] at hread
      cases hread
    have hfound := @Line.findFirstFrom_of_read α read 0 [] passed rest found hrest
      (by rwa [List.append_nil]) (by simpa using forall_not_takesAt_iff.mp hleft)
    rwa [Nat.zero_add] at hfound

end Leftmost

variable {width : α → Nat} {P : α → List Char → Prop} {read : Reader α} {line : Line}
  {found : Nat × α}

/-- What an isolated reader takes is found, unless it was to be passed over from the start. -/
theorem Isolated.mem_findAllFrom (hread : Isolated width read) {skip column : Nat}
    {before passed rest : List Char} {taken : α} (hskip : skip ≤ passed.length) (hrest : rest ≠ [])
    (htaken : read (passed.reverse ++ before) rest = some taken) :
    (column + passed.length, taken) ∈
      Line.findAllFrom width read skip column before (passed ++ rest) := by
  induction passed generalizing skip column before with
  | nil =>
    obtain ⟨c, rest, rfl⟩ := List.exists_cons_of_ne_nil hrest
    obtain rfl : skip = 0 := Nat.le_zero.mp hskip
    rw [List.reverse_nil, List.nil_append] at htaken
    rw [List.nil_append, Line.findAllFrom, htaken]
    exact List.mem_cons_self
  | cons c passed ih =>
    have hinner : read (passed.reverse ++ c :: before) rest = some taken := by
      rwa [List.reverse_cons, List.append_assoc] at htaken
    have hcolumn : column + (c :: passed).length = column + 1 + passed.length := by
      rw [List.length_cons]
      omega
    rw [List.length_cons] at hskip
    rw [hcolumn, List.cons_append, Line.findAllFrom.eq_def]
    dsimp only
    split
    · exact ih (by omega) hinner
    · split
      · -- Something else is taken here, and it ends before the thing in question begins.
        next other hother =>
        have hwidth :=
          hread before (c :: passed) rest other taken (List.cons_ne_nil _ _) hother htaken
        rw [List.length_cons] at hwidth
        exact List.mem_cons_of_mem _ (ih (by omega) hinner)
      · exact ih (Nat.zero_le _) hinner

/-- What an isolated reader finds in a line is what it takes at any column. -/
theorem Isolated.mem_findAll_iff (hread : Isolated width read)
    (hend : ∀ before, read before [] = none) :
    found ∈ Line.findAll width read line ↔ TakesAt read line found.1 found.2 := by
  refine ⟨Line.mem_findAll, ?_⟩
  rintro ⟨passed, rest, rfl, hcolumn, htaken⟩
  have hrest : rest ≠ [] := by
    rintro rfl
    rw [hend] at htaken
    cases htaken
  have hmem : (0 + passed.length, found.2) ∈ Line.findAll width read (passed ++ rest) :=
    hread.mem_findAllFrom (Nat.zero_le _) hrest ((List.append_nil passed.reverse).symm ▸ htaken)
  rwa [Nat.zero_add, ← hcolumn] at hmem

/-- The leftmost thing that a reader finds covers what the reader spells. -/
theorem Spells.findFirst?_covers (hread : Spells width P read)
    (h : Line.findFirst? read line = some found) :
    ∃ taken, (Span.mk found.1 (width found.2)).Covers line taken ∧ P found.2 taken := by
  obtain ⟨passed, after, rfl, hcolumn, htaken, -⟩ := Line.findFirst?_eq_some h
  obtain ⟨taken, rest, rfl, hne, hwidth, hP⟩ := hread _ _ _ htaken
  refine ⟨taken, ⟨hne, passed, rest, (List.append_assoc _ _ _).symm, ?_⟩, hP⟩
  rw [hcolumn, hwidth]

/-- Whatever a reader finds covers what the reader spells. -/
theorem Spells.findAll_covers {step : α → Nat} (hread : Spells width P read)
    (h : found ∈ Line.findAll step read line) :
    ∃ taken, (Span.mk found.1 (width found.2)).Covers line taken ∧ P found.2 taken := by
  obtain ⟨passed, after, rfl, hcolumn, htaken⟩ := Line.mem_findAll h
  obtain ⟨taken, rest, rfl, hne, hwidth, hP⟩ := hread _ _ _ htaken
  refine ⟨taken, ⟨hne, passed, rest, (List.append_assoc _ _ _).symm, ?_⟩, hP⟩
  rw [hcolumn, hwidth]

end Reader

namespace Line

/-- A keyword that stands as a whole word spells itself. -/
theorem keyword_spells {word : List Char} (hword : word ≠ []) :
    Reader.Spells (fun _ => word.length) (fun _ taken => taken = word) (keyword word) := by
  apply Reader.spells_of_prefix hword
  intro before after found h
  unfold keyword at h
  split at h
  · next hc =>
    simp only [Bool.and_eq_true] at hc
    exact List.isPrefixOf_iff_prefix.mp hc.1.2
  · cases h

/-- A line is what is left of it when its end is trimmed, and blanks. -/
theorem exists_blanks_trimEnd (line : Line) :
    ∃ blanks, blanks.all isBlank = true ∧ line = trimEnd line ++ blanks := by
  refine ⟨(line.reverse.takeWhile isBlank).reverse, ?_, ?_⟩
  · rw [List.all_reverse]
    exact List.all_takeWhile
  · rw [trimEnd, ← List.reverse_append, List.takeWhile_append_dropWhile, List.reverse_reverse]

end Line

end ScriptLint
