import ScriptLint.Proofs.Text.Numeral
import ScriptLint.Proofs.Text.Search
import ScriptLint.Text.Document

/-!
# The lines of a document

A text is cut into parts at a separator that no part has in it (`not_mem_of_mem_splitOn`), and a part ends
in something exactly where this stands in the text before a separator or at the end
(`exists_suffix_splitOn_iff`).

Texts that are joined by a line feed have the lines of the one and then those of the other
(`lines_ofText_append`), since a carriage return belongs to the line it ends and to no other. The length
of a text bounds the number and the length of its lines (`lineCount_ofText_le`,
`length_le_of_mem_ofText`). A line is read back at its index (`line_eq_ok`), at any other index there is
nothing to read (`line_cases`), and a range on a line covers what its span cuts out (`slice_onLine`).
-/

namespace ScriptLint

namespace Document

/-! ## The parts of a text -/

section Parts

variable {separator : Char} {part token text : List Char}

/-- The first character of a text is a separator with an empty part before it, or belongs to the first
part. -/
theorem splitOn_cons_cases (separator c : Char) (text : List Char) :
    (c = separator ∧ (c :: text).splitOn separator = [] :: text.splitOn separator) ∨
      (c ≠ separator ∧ ∃ first rest, text.splitOn separator = first :: rest ∧
        (c :: text).splitOn separator = (c :: first) :: rest) := by
  obtain ⟨first, rest, hparts⟩ := List.exists_cons_of_ne_nil (List.splitOn_ne_nil separator text)
  rw [List.splitOn_cons_eq_if_modifyHead]
  by_cases hc : c = separator
  · exact Or.inl ⟨hc, if_pos (beq_iff_eq.mpr hc)⟩
  · refine Or.inr ⟨hc, first, rest, hparts, ?_⟩
    rw [if_neg (by rwa [beq_iff_eq]), hparts, List.modifyHead_cons]

/-- A text has the characters of its parts, and one separator less than parts. -/
theorem length_flatten_splitOn (separator : Char) (text : List Char) :
    (text.splitOn separator).flatten.length + (text.splitOn separator).length = text.length + 1 := by
  induction text with
  | nil => simp
  | cons c text ih =>
    obtain ⟨-, hsplit⟩ | ⟨-, first, rest, hparts, hsplit⟩ := splitOn_cons_cases separator c text
    · rw [hsplit, List.flatten_cons, List.nil_append, List.length_cons, List.length_cons]
      omega
    · rw [hparts] at ih
      rw [hsplit]
      simp only [List.flatten_cons, List.cons_append, List.length_cons] at ih ⊢
      omega

/-- No part of a text has the separator in it. -/
theorem not_mem_of_mem_splitOn (h : part ∈ text.splitOn separator) : separator ∉ part := by
  induction text generalizing part with
  | nil =>
    rw [List.splitOn_nil, List.mem_singleton] at h
    rw [h]
    exact List.not_mem_nil
  | cons c text ih =>
    obtain ⟨-, hsplit⟩ | ⟨hc, first, rest, hparts, hsplit⟩ := splitOn_cons_cases separator c text
    · rw [hsplit, List.mem_cons] at h
      rcases h with rfl | h
      · exact List.not_mem_nil
      · exact ih h
    · rw [hsplit, List.mem_cons] at h
      rw [hparts] at ih
      rcases h with rfl | h
      · rw [List.mem_cons, not_or]
        exact ⟨hc.symm, ih List.mem_cons_self⟩
      · exact ih (List.mem_cons_of_mem first h)

/-- What a text ends in without a separator, one of its parts ends in. -/
theorem exists_mem_splitOn_of_suffix (hseparator : separator ∉ token) (h : token <:+ text) :
    ∃ part ∈ text.splitOn separator, token <:+ part := by
  obtain ⟨before, rfl⟩ := h
  induction before with
  | nil =>
    rw [List.nil_append, List.splitOn_eq_singleton hseparator]
    exact ⟨token, List.mem_singleton_self token, List.suffix_rfl⟩
  | cons c before ih =>
    obtain ⟨part, hpart, hsuffix⟩ := ih
    rw [List.cons_append]
    obtain ⟨-, hsplit⟩ | ⟨-, first, rest, hparts, hsplit⟩ :=
      splitOn_cons_cases separator c (before ++ token)
    · rw [hsplit]
      exact ⟨part, List.mem_cons_of_mem _ hpart, hsuffix⟩
    · rw [hsplit]
      rw [hparts, List.mem_cons] at hpart
      rcases hpart with rfl | hpart
      · exact ⟨c :: part, List.mem_cons_self, hsuffix.trans (List.suffix_cons c part)⟩
      · exact ⟨part, List.mem_cons_of_mem _ hpart, hsuffix⟩

/-- Of parts that are joined, the last ends the text, and any other has a separator behind it. -/
theorem suffix_or_infix_of_mem (separator : Char) {parts : List (List Char)} (h : part ∈ parts) :
    part <:+ [separator].intercalate parts ∨
      part ++ [separator] <:+: [separator].intercalate parts := by
  induction parts with
  | nil => cases h
  | cons first rest ih =>
    cases rest with
    | nil =>
      rw [List.mem_singleton.mp h, List.intercalate_singleton]
      exact Or.inl List.suffix_rfl
    | cons next rest =>
      rw [List.intercalate_cons_cons]
      rcases List.mem_cons.mp h with rfl | h
      · exact Or.inr (List.prefix_append _ _).isInfix
      · have hbehind := List.suffix_append (first ++ [separator])
          ([separator].intercalate (next :: rest))
        rcases ih h with hlast | hinner
        · exact Or.inl (hlast.trans hbehind)
        · exact Or.inr (hinner.trans hbehind.isInfix)

/-- A part of a text ends in a token without a separator exactly where the token stands in the text
before a separator or at the end. -/
theorem exists_suffix_splitOn_iff (hseparator : separator ∉ token) :
    (∃ part ∈ text.splitOn separator, token <:+ part) ↔
      token ++ [separator] <:+: text ∨ token <:+ text := by
  constructor
  · rintro ⟨part, hpart, before, rfl⟩
    have hjoined := suffix_or_infix_of_mem separator hpart
    rw [List.intercalate_splitOn] at hjoined
    rcases hjoined with hlast | hinner
    · exact Or.inr ((List.suffix_append before token).trans hlast)
    · rw [List.append_assoc] at hinner
      exact Or.inl ((List.suffix_append before (token ++ [separator])).isInfix.trans hinner)
  · rintro (⟨before, after, rfl⟩ | hlast)
    · -- The separator behind the token cuts the text there.
      have htext : before ++ (token ++ [separator]) ++ after = before ++ token ++ separator :: after := by
        simp only [List.append_assoc, List.singleton_append]
      obtain ⟨part, hpart, hsuffix⟩ :=
        exists_mem_splitOn_of_suffix hseparator (List.suffix_append before token)
      rw [htext, List.splitOn_append_cons_self]
      exact ⟨part, List.mem_append_left _ hpart, hsuffix⟩
    · exact exists_mem_splitOn_of_suffix hseparator hlast

end Parts

/-! ## The lines of a text -/

/-- Texts that are joined by a line feed have the lines of both. -/
theorem splitLines_append (a b : List Char) :
    splitLines (a ++ '\n' :: b) = splitLines a ++ splitLines b := by
  unfold splitLines
  rw [List.splitOn_append_cons_self, List.map_append]

/-- The document of two texts that are joined by a line feed has the lines of both. -/
theorem lines_ofText_append (a b : String) :
    (ofText (a ++ "\n" ++ b)).lines = (ofText a).lines ++ (ofText b).lines := by
  have htext : (a ++ "\n" ++ b).toList = a.toList ++ '\n' :: b.toList := by
    simp [String.toList_append]
  show splitLines (a ++ "\n" ++ b).toList = splitLines a.toList ++ splitLines b.toList
  rw [htext, splitLines_append]

/-- A carriage return is dropped, or nothing. -/
theorem length_dropReturn_le (line : Line) : (dropReturn line).length ≤ line.length := by
  unfold dropReturn
  split
  · rw [List.length_dropLast]
    omega
  · exact Nat.le_refl _

/-- A text has no more lines than characters, but for the first. -/
theorem lineCount_ofText_le (s : String) : (ofText s).lineCount ≤ s.length + 1 := by
  have hsum := length_flatten_splitOn '\n' s.toList
  have hcount : (ofText s).lineCount = (s.toList.splitOn '\n').length := List.length_map _
  rw [String.length_toList] at hsum
  omega

/-- No line of a text is longer than the text. -/
theorem length_le_of_mem_ofText {s : String} {line : Line} (h : line ∈ (ofText s).lines) :
    line.length ≤ s.length := by
  obtain ⟨part, hpart, rfl⟩ := List.mem_map.mp h
  have hsum := length_flatten_splitOn '\n' s.toList
  have hpos : 0 < (s.toList.splitOn '\n').length := List.length_pos_of_mem hpart
  have hle := (List.sublist_flatten_of_mem hpart).length_le
  have hdrop := length_dropReturn_le part
  rw [String.length_toList] at hsum
  omega

/-- The line at an index that the document has. -/
theorem line_eq_ok {document : Document} {index : Nat} {line : Line}
    (h : document.lines[index]? = some line) : document.line index = .ok line := by
  show document.line (.ofNat index) = .ok line
  simp only [Document.line, h]

/-- An index is that of a line, or it is negative or past the last line and reading there fails. -/
theorem line_cases (document : Document) (index : Int) :
    (∃ i : Nat, ∃ line, index = i ∧ document.lines[i]? = some line) ∨
      ((index < 0 ∨ document.lineCount ≤ index) ∧
        document.line index = .error (document.outside index)) := by
  cases index with
  | ofNat i =>
    cases hline : document.lines[i]? with
    | some line => exact Or.inl ⟨i, line, rfl, hline⟩
    | none =>
      have hpast : document.lineCount ≤ i := List.getElem?_eq_none_iff.mp hline
      exact Or.inr ⟨Or.inr (Int.ofNat_le.mpr hpast), by simp only [Document.line, hline]⟩
  | negSucc n => exact Or.inr ⟨Or.inl (Int.negSucc_lt_zero n), rfl⟩

/-- An index outside the document is told, unless it has too many digits. -/
theorem outside_eq (document : Document) (index : Int) :
    document.outside index =
      if index.natAbs < 10 ^ Numeral.maxDigits then .lineOutside index document.lineCount
      else .tooManyDigits := by
  rw [outside, Numeral.write_eq]
  by_cases hfew : index.natAbs < 10 ^ Numeral.maxDigits
  · rw [if_pos hfew, if_pos hfew]
  · rw [if_neg hfew, if_neg hfew]

/-- The range of a line that the document has is all of the line. -/
theorem wholeLine_eq_ok {document : Document} {index : Nat} {line : Line}
    (h : document.lines[index]? = some line) :
    document.wholeLine index = .ok (Range.onLine index (.wholeLine line.length)) := by
  unfold wholeLine
  rw [line_eq_ok h]
  exact Range.ofColumns_columns index _

/-- The last line. -/
def lastLine (document : Document) : Line := document.lines.getLast document.nonempty

/-- The last line is at the last index. -/
theorem getElem?_lastIndex (document : Document) :
    document.lines[document.lastIndex]? = some document.lastLine := by
  rw [lastLine, lastIndex, ← List.getLast?_eq_getElem?, List.getLast?_eq_some_getLast]

/-- The range of all of the last line. -/
def wholeLastLine (document : Document) : Range :=
  Range.onLine document.lastIndex (.wholeLine document.lastLine.length)

/-- There is a last line, so its range can be given. -/
theorem wholeLine_lastIndex (document : Document) :
    document.wholeLine document.lastIndex = .ok document.wholeLastLine :=
  wholeLine_eq_ok document.getElem?_lastIndex

end Document

/-- A span on a line covers what it cuts out of it. -/
theorem Range.slice_onLine (index : Nat) (span : Span) (line : Line) :
    (Range.onLine index span).slice line = .ok (span.cut line) := by
  have hlength : span.stop - span.column = span.length := by
    simp only [Span.stop]
    omega
  have hsingle : (Range.onLine index span).isSingleLine = true := beq_self_eq_true index
  rw [slice, if_pos hsingle]
  simp only [onLine, Span.cut, hlength]

end ScriptLint
