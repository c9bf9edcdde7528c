import ScriptLint.Proofs.Text.Occurrences
import ScriptLint.Proofs.Text.Runs

/-!
# What a line ends in

A token ends a line, with a tail behind it that does not count: white space, or something wider
(`Line.EndsAt`). Whether it does is decided on what is kept of the line without its tail
(`exists_endsAt_iff`), while the column is that of the token in the line itself. It is found from the
right, if the tail cannot begin another token (`EndsAt.isLast`, `lastColumn_eq`), or from the length of
what is kept (`EndsAt.length_keep`). Both are the column at which the token stands, and the columns from
there to the end of the line cover the token and its tail (`EndsAt.covers`).
-/

namespace ScriptLint

namespace Line

/-- A line ends in a token and a tail, and the token stands at a column. -/
def EndsAt (token : List Char) (Tail : List Char → Prop) (line : Line) (column : Nat) : Prop :=
  ∃ before tail, line = before ++ (token ++ tail) ∧ before.length = column ∧ Tail tail

/-- A text of white space only, which may be empty. -/
def IsBlank (text : List Char) : Prop := text.all isBlank = true

variable {token : List Char} {line : Line} {Tail : List Char → Prop} {keep : Line → Line}
  {column : Nat} {c : Char}

/-- There is only white space in a blank text. -/
theorem IsBlank.not_mem {text : List Char} (h : IsBlank text) (hc : isBlank c = false) :
    c ∉ text := by
  intro hmem
  rw [List.all_eq_true.mp h c hmem] at hc
  cases hc

/-- A token in front of a tail stands within the line. -/
theorem EndsAt.le_length (h : EndsAt token Tail line column) : column ≤ line.length := by
  obtain ⟨before, tail, rfl, rfl, -⟩ := h
  rw [List.length_append]
  exact Nat.le_add_right _ _

/-- From the column of a token up to the end of the line, the token and its tail are covered. -/
theorem EndsAt.covers (htoken : token ≠ []) (h : EndsAt token Tail line column) :
    ∃ tail, Tail tail ∧ (⟨column, line.length⟩ : Columns).Covers line (token ++ tail) := by
  obtain ⟨before, tail, rfl, rfl, htail⟩ := h
  exact ⟨tail, htail, Columns.covers_append (List.append_ne_nil_of_left_ne_nil htoken tail)⟩

/-- A token in front of a tail that cannot begin another is the last one of the line. -/
theorem EndsAt.isLast {more : List Char} (h : EndsAt (c :: more) Tail line column)
    (hTail : ∀ tail, Tail tail → c ∉ more ++ tail) :
    StandsAt (c :: more) line column ∧
      ∀ other, StandsAt (c :: more) line other → other ≤ column := by
  obtain ⟨before, tail, rfl, rfl, htail⟩ := h
  exact ⟨⟨before, tail, rfl, rfl⟩, fun other hother => hother.le_length (hTail tail htail)⟩

section Keep

variable (hkeep : ∀ before tail, Tail tail → keep (before ++ (token ++ tail)) = before ++ token)
include hkeep

/-- What is kept of a line ends with the token. -/
theorem EndsAt.length_keep (h : EndsAt token Tail line column) :
    (keep line).length = column + token.length := by
  obtain ⟨before, tail, rfl, rfl, htail⟩ := h
  rw [hkeep before tail htail, List.length_append]

/-- A token ends what is kept of a line exactly when it stands in front of a tail in the line, if a
tail is what is not kept, and is never kept behind the token. -/
theorem exists_endsAt_iff (hsplit : ∀ line, ∃ tail, Tail tail ∧ line = keep line ++ tail) :
    (∃ column, EndsAt token Tail line column) ↔ token <:+ keep line := by
  constructor
  · rintro ⟨column, before, tail, rfl, -, htail⟩
    rw [hkeep before tail htail]
    exact List.suffix_append _ _
  · rintro ⟨before, hbefore⟩
    obtain ⟨tail, htail, hline⟩ := hsplit line
    refine ⟨before.length, before, tail, ?_, rfl, htail⟩
    rw [← List.append_assoc, hbefore]
    exact hline

end Keep

/-- A token that has no white space at its ends, and in which its first character does not come
again. -/
structure IsCompact (c : Char) (more : List Char) : Prop where
  first : isBlank c = false
  last : ∀ d, (c :: more).getLast? = some d → isBlank d = false
  once : c ∉ more

variable {more : List Char}

/-- White space behind such a token is what trimming takes off. -/
theorem IsCompact.trimEnd_append (h : IsCompact c more) (before blanks : List Char)
    (hblanks : IsBlank blanks) :
    trimEnd (before ++ (c :: more ++ blanks)) = before ++ c :: more := by
  rw [← List.append_assoc]
  refine Line.trimEnd_append hblanks fun d hd => h.last d ?_
  rwa [List.getLast?_append_of_ne_nil _ (List.cons_ne_nil _ _)] at hd

/-- A line that ends in such a token, white space apart, has the last one at the column where it
ends. -/
theorem IsCompact.lastColumn_eq (h : IsCompact c more) (hends : EndsAt (c :: more) IsBlank line column) :
    lastColumn (c :: more) line = column := by
  obtain ⟨hstands, hlast⟩ := hends.isLast fun tail htail hmem =>
    (List.mem_append.mp hmem).elim h.once (htail.not_mem h.first)
  exact Line.lastColumn_eq (List.cons_ne_nil _ _) hstands hlast

/-- A search for the last such token of a line that ends in one, trimmed, gives the column where the
line ends in it. -/
theorem IsCompact.ite_lastColumn_eq_some_iff (h : IsCompact c more) {columns : Columns} :
    (if (c :: more).isSuffixOf (trim line) then
        some (⟨lastColumn (c :: more) line, line.length⟩ : Columns) else none) = some columns ↔
      ∃ column : Nat, EndsAt (c :: more) IsBlank line column ∧
        columns = ⟨column, line.length⟩ := by
  rw [Option.ite_none_right_eq_some, List.isSuffixOf_iff_suffix, suffix_trim_iff h.first,
    ← exists_endsAt_iff (fun before => h.trimEnd_append before) exists_blanks_trimEnd]
  constructor
  · rintro ⟨⟨column, hends⟩, hcolumns⟩
    rw [h.lastColumn_eq hends] at hcolumns
    exact ⟨column, hends, (Option.some.inj hcolumns).symm⟩
  · rintro ⟨column, hends, rfl⟩
    exact ⟨⟨column, hends⟩, by rw [h.lastColumn_eq hends]⟩

end Line

end ScriptLint
