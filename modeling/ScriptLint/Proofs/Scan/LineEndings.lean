import ScriptLint.Proofs.Scan.Report
import ScriptLint.Proofs.Text.Document

/-!
# Line endings

A scan sees the lines of a text and nothing of how they are ended. `Document.Written` relates lines to
every text that has them, where each seam is a line feed, with or without a carriage return before it,
and the last line may be followed by a carriage return. Lines that a document can have at all
(`Line.IsBare`) are read back from any such text (`Written.splitLines_eq`), so that all of these texts
have one document and one scan (`scan_eq_of_written`).

One carriage return is dropped at the end of a line, and no more. A line that has two there keeps one and
is not bare, and a text has such a line exactly when it has two carriage returns before a line feed or at
its end (`Document.DoublesReturn`). Only then do its lines, joined by line feeds and read again, make
another document (`ofText_bare_iff`).
-/

namespace ScriptLint

/-- A line as documents have them: no line feed stands in it, and it does not end in a carriage
return. -/
def Line.IsBare (line : Line) : Prop := '\n' ∉ line ∧ line.getLast? ≠ some '\r'

namespace Document

/-- The text has the given lines, with one of the two endings at each seam, and with or without a
carriage return after the last line. -/
inductive Written : List Line → List Char → Prop where
  | last (line : Line) : Written [line] line
  | lastReturn (line : Line) : Written [line] (line ++ ['\r'])
  | lineFeed (line : Line) {rest : List Line} {text : List Char} (h : Written rest text) :
      Written (line :: rest) (line ++ '\n' :: text)
  | returnLineFeed (line : Line) {rest : List Line} {text : List Char} (h : Written rest text) :
      Written (line :: rest) (line ++ '\r' :: '\n' :: text)

/-- The carriage return that a line is followed by is dropped. -/
theorem dropReturn_append_return (line : Line) : dropReturn (line ++ ['\r']) = line := by
  rw [dropReturn, if_pos List.getLast?_concat, List.dropLast_concat]

/-- A line that does not end in a carriage return is kept. -/
theorem dropReturn_of_isBare {line : Line} (h : Line.IsBare line) : dropReturn line = line :=
  if_neg h.2

/-- A text without a line feed is one line. -/
theorem splitLines_eq_singleton {text : List Char} (h : '\n' ∉ text) :
    splitLines text = [dropReturn text] := by
  rw [splitLines, List.splitOn_eq_singleton h]
  rfl

/-- The lines of a text are those that it was written with. -/
theorem Written.splitLines_eq {lines : List Line} {text : List Char} (h : Written lines text)
    (hbare : ∀ line ∈ lines, Line.IsBare line) : splitLines text = lines := by
  -- A line with a carriage return behind it has no line feed in it either.
  have hreturn : ∀ {line : Line}, Line.IsBare line → '\n' ∉ line ++ ['\r'] := by
    intro line hline hmem
    rcases List.mem_append.mp hmem with hmem | hmem
    · exact hline.1 hmem
    · exact absurd (List.mem_singleton.mp hmem) (by decide)
  induction h with
  | last line =>
    have hline := hbare line List.mem_cons_self
    rw [splitLines_eq_singleton hline.1, dropReturn_of_isBare hline]
  | lastReturn line =>
    have hline := hbare line List.mem_cons_self
    rw [splitLines_eq_singleton (hreturn hline), dropReturn_append_return]
  | lineFeed line _ ih =>
    have hline := hbare line List.mem_cons_self
    rw [splitLines_append, splitLines_eq_singleton hline.1, dropReturn_of_isBare hline,
      ih fun other hother => hbare other (List.mem_cons_of_mem line hother)]
    rfl
  | @returnLineFeed line rest text _ ih =>
    have hline := hbare line List.mem_cons_self
    have htext : line ++ '\r' :: '\n' :: text = (line ++ ['\r']) ++ '\n' :: text := by
      rw [List.append_assoc, List.singleton_append]
    rw [htext, splitLines_append, splitLines_eq_singleton (hreturn hline), dropReturn_append_return,
      ih fun other hother => hbare other (List.mem_cons_of_mem line hother)]
    rfl

/-- A document is known by its lines. -/
theorem eq_of_lines {a b : Document} (h : a.lines = b.lines) : a = b := by
  obtain ⟨lines, nonempty⟩ := a
  obtain ⟨lines', nonempty'⟩ := b
  cases h
  rfl

end Document

/-- Texts with the same lines have the same scan. -/
theorem scan_congr {s s' : String} (h : (Document.ofText s).lines = (Document.ofText s').lines) :
    scan (.text s) = scan (.text s') := by
  have hdocument : Document.ofValue (.text s) = Document.ofValue (.text s') :=
    congrArg Except.ok (Document.eq_of_lines h)
  unfold scan
  rw [runLint_eq, runLint_eq, hdocument]

/-- Line endings do not matter. A text that is written with the given lines has exactly these lines, with
any choice of an ending at each seam and after the last line, and so all such texts have the same scan,
be it a report or a fault. -/
theorem scan_eq_of_written {lines : List Line} {s s' : String}
    (hbare : ∀ line ∈ lines, Line.IsBare line) (h : Document.Written lines s.toList)
    (h' : Document.Written lines s'.toList) :
    (Document.ofText s).lines = lines ∧ scan (.text s) = scan (.text s') := by
  have hlines : (Document.ofText s).lines = lines := h.splitLines_eq hbare
  have hlines' : (Document.ofText s').lines = lines := h'.splitLines_eq hbare
  exact ⟨hlines, scan_congr (hlines.trans hlines'.symm)⟩

/-- Three lines, the first with a carriage return in it and the second empty, with other endings at both
seams and after the last line. -/
theorem scan_eq_of_written_mixed :
    let lines : List Line := ["a\rb".toList, [], "|x".toList]
    (∀ line ∈ lines, Line.IsBare line) ∧
      Document.Written lines "a\rb\r\n\n|x".toList ∧
      Document.Written lines "a\rb\n\r\n|x\r".toList ∧
      (Document.ofText "a\rb\r\n\n|x").lines = lines ∧
      scan (.text "a\rb\r\n\n|x") = scan (.text "a\rb\n\r\n|x\r") := by
  intro lines
  have hbare : ∀ line ∈ lines, Line.IsBare line := by
    unfold Line.IsBare
    decide
  have h : Document.Written lines "a\rb\r\n\n|x".toList :=
    .returnLineFeed "a\rb".toList (.lineFeed [] (.last "|x".toList))
  have h' : Document.Written lines "a\rb\n\r\n|x\r".toList :=
    .lineFeed "a\rb".toList (.returnLineFeed [] (.lastReturn "|x".toList))
  exact ⟨hbare, h, h', scan_eq_of_written hbare h h'⟩

/-! ## Lines that are joined again -/

namespace Document

variable {line : Line} {s : String}

/-- The lines of a document as one text, with a line feed between two of them. -/
def rejoined (document : Document) : String := String.ofList (['\n'].intercalate document.lines)

/-- Two carriage returns stand in the text before a line feed, or at its end. -/
def DoublesReturn (text : List Char) : Prop :=
  ['\r', '\r'] ++ ['\n'] <:+: text ∨ ['\r', '\r'] <:+ text

/-- Only a line that ends in a carriage return is changed by dropping one. -/
theorem dropReturn_eq_self_iff : dropReturn line = line ↔ line.getLast? ≠ some '\r' := by
  constructor
  · intro hsame hlast
    obtain ⟨kept, rfl⟩ := List.getLast?_eq_some_iff.mp hlast
    have hlength := congrArg List.length hsame
    rw [dropReturn_append_return, List.length_append, List.length_singleton] at hlength
    omega
  · intro hlast
    rw [dropReturn, if_neg hlast]

/-- A line ends in a carriage return after one was dropped exactly when it ended in two. -/
theorem getLast?_dropReturn_eq_iff :
    (dropReturn line).getLast? = some '\r' ↔ ['\r', '\r'] <:+ line := by
  by_cases hlast : line.getLast? = some '\r'
  · obtain ⟨kept, rfl⟩ := List.getLast?_eq_some_iff.mp hlast
    rw [dropReturn_append_return, List.getLast?_eq_some_iff]
    constructor
    · rintro ⟨before, rfl⟩
      exact ⟨before, by rw [List.append_assoc, List.singleton_append]⟩
    · rintro ⟨before, hkept⟩
      have hline : before ++ ['\r'] ++ ['\r'] = kept ++ ['\r'] := by
        rw [← hkept, List.append_assoc, List.singleton_append]
      exact ⟨before, (List.append_cancel_right hline).symm⟩
  · -- Nothing is dropped, and a line that ended in two carriage returns would end in one.
    rw [dropReturn_eq_self_iff.mpr hlast]
    refine iff_of_false hlast ?_
    rintro ⟨before, rfl⟩
    rw [List.getLast?_append, List.getLast?_cons_cons] at hlast
    exact hlast rfl

/-- No line of a text has a line feed in it. -/
theorem lineFeed_not_mem_of_mem_ofText (h : line ∈ (ofText s).lines) : '\n' ∉ line := by
  obtain ⟨part, hpart, rfl⟩ := List.mem_map.mp h
  have hfeed := not_mem_of_mem_splitOn hpart
  unfold dropReturn
  split
  · exact fun hmem => hfeed (List.dropLast_subset part hmem)
  · exact hfeed

/-- A line of a text ends in a carriage return exactly where the text has two at the end of a line. -/
theorem exists_return_iff :
    (∃ line ∈ (ofText s).lines, line.getLast? = some '\r') ↔ DoublesReturn s.toList := by
  have hparts : (∃ part ∈ s.toList.splitOn '\n', ['\r', '\r'] <:+ part) ↔ DoublesReturn s.toList :=
    exists_suffix_splitOn_iff (by decide)
  rw [← hparts]
  constructor
  · rintro ⟨line, hline, hlast⟩
    obtain ⟨part, hpart, rfl⟩ := List.mem_map.mp hline
    exact ⟨part, hpart, getLast?_dropReturn_eq_iff.mp hlast⟩
  · rintro ⟨part, hpart, htwo⟩
    exact ⟨dropReturn part, List.mem_map_of_mem hpart, getLast?_dropReturn_eq_iff.mpr htwo⟩

/-- Lines without a line feed that are joined and read again have lost a carriage return each. -/
theorem splitLines_intercalate {lines : List Line} (hne : lines ≠ [])
    (hfeed : ∀ line ∈ lines, '\n' ∉ line) :
    splitLines (['\n'].intercalate lines) = lines.map dropReturn := by
  rw [splitLines, List.splitOn_intercalate '\n' hfeed hne]

/-- The lines of a text that are joined and read again have lost another carriage return each. -/
theorem lines_ofText_rejoined : (ofText (ofText s).rejoined).lines = (ofText s).lines.map dropReturn := by
  have hread : ∀ text : List Char, (ofText (String.ofList text)).lines = splitLines text :=
    fun text => congrArg splitLines String.toList_ofList
  rw [rejoined, hread]
  exact splitLines_intercalate (ofText s).nonempty fun line => lineFeed_not_mem_of_mem_ofText

/-- The document of a text is that of its joined lines exactly when no line ends in a carriage return. -/
theorem ofText_rejoined_eq_iff :
    ofText (ofText s).rejoined = ofText s ↔
      ∀ line ∈ (ofText s).lines, line.getLast? ≠ some '\r' := by
  calc ofText (ofText s).rejoined = ofText s
      ↔ (ofText s).lines.map dropReturn = (ofText s).lines.map id := by
        rw [List.map_id, ← lines_ofText_rejoined]
        exact ⟨congrArg Document.lines, eq_of_lines⟩
    _ ↔ ∀ line ∈ (ofText s).lines, dropReturn line = line := List.map_inj_left
    _ ↔ ∀ line ∈ (ofText s).lines, line.getLast? ≠ some '\r' :=
        forall₂_congr fun line _ => dropReturn_eq_self_iff

/-- No line of a text has a line feed in it. A single carriage return is dropped at the end of a line, so
that the lines are bare, and can be joined and read again, exactly when the text has no two carriage
returns before a line feed or at its end. -/
theorem ofText_bare_iff (s : String) :
    (∀ line ∈ (ofText s).lines, '\n' ∉ line) ∧
    ((∀ line ∈ (ofText s).lines, Line.IsBare line) ↔ ¬ DoublesReturn s.toList) ∧
    (ofText (ofText s).rejoined = ofText s ↔ ¬ DoublesReturn s.toList) := by
  have hfeed : ∀ line ∈ (ofText s).lines, '\n' ∉ line := fun line => lineFeed_not_mem_of_mem_ofText
  have hreturn : (∀ line ∈ (ofText s).lines, line.getLast? ≠ some '\r') ↔
      ¬ DoublesReturn s.toList := by
    rw [← exists_return_iff, not_exists]
    exact forall_congr' fun line => not_and.symm
  refine ⟨hfeed, ?_, ofText_rejoined_eq_iff.trans hreturn⟩
  rw [← hreturn]
  exact forall₂_congr fun line hline => and_iff_right (hfeed line hline)

/-- The first line is followed by two carriage returns and keeps one of them, which is lost when the lines
are joined and read again. -/
theorem ofText_two_returns :
    (∃ line ∈ (ofText "a\r\r\nb").lines, line.getLast? = some '\r') ∧
      ofText (ofText "a\r\r\nb").rejoined ≠ ofText "a\r\r\nb" := by
  decide

end Document

end ScriptLint
