import ScriptLint.Proofs.Delimiter
import ScriptLint.Proofs.Scan.Report
import ScriptLint.Proofs.Text.Occurrences

/-!
# The balance of a document is that of its text

The net of a document is added up from its lines, which have lost the line feeds and the carriage
returns before them. A delimiter that has neither of these characters (`Line.IsInline`) stands within
one line, and what is lost is no part of it. The lines of a text therefore have the net of the whole
text (`Delimiters.total_splitLines`), whatever the delimiters are. They may have several characters and
overlap themselves, but no occurrence is cut in two.

The rules for documents report a surplus on the last line (`DocumentRule.reported_eq_surplus`), and what
the usual ones report of a text follows from how often it has each character of the delimiters
(`documentDiagnostics_ofText`).
-/

namespace ScriptLint

/-! ## Delimiters within lines -/

/-- A token that stands within a line: it is not empty, and has neither of the characters that lines
are ended with. -/
structure Line.IsInline (token : List Char) : Prop where
  nonempty : token ≠ []
  lineFeed : '\n' ∉ token
  carriageReturn : '\r' ∉ token

instance (token : List Char) : Decidable (Line.IsInline token) :=
  decidable_of_iff (token ≠ [] ∧ '\n' ∉ token ∧ '\r' ∉ token)
    ⟨fun ⟨hne, hfeed, hreturn⟩ => ⟨hne, hfeed, hreturn⟩,
      fun ⟨hne, hfeed, hreturn⟩ => ⟨hne, hfeed, hreturn⟩⟩

namespace Delimiters

variable {pair : Delimiters}

/-- The net of a text that is cut at a character of neither delimiter is that of the two parts. -/
theorem net_append_cons {c : Char} (hopener : pair.opener ≠ [] ∧ c ∉ pair.opener)
    (hcloser : pair.closer ≠ [] ∧ c ∉ pair.closer) (a b : List Char) :
    pair.net (a ++ c :: b) = pair.net a + pair.net b := by
  unfold net
  rw [Line.occurrences_append_cons hopener.1 hopener.2,
    Line.occurrences_append_cons hcloser.1 hcloser.2]
  push_cast
  omega

/-- There is nothing to count in the empty text. -/
theorem net_nil (hopener : pair.opener ≠ []) (hcloser : pair.closer ≠ []) : pair.net [] = 0 := by
  have hnone : ∀ token : List Char, token ≠ [] → Line.occurrences token [] = 0 := by
    intro token hne
    rw [Line.occurrences, if_neg (by simpa using hne)]
    rfl
  rw [net, hnone _ hopener, hnone _ hcloser]
  rfl

section Inline

variable (hopener : Line.IsInline pair.opener) (hcloser : Line.IsInline pair.closer)
include hopener hcloser

/-- A carriage return that is dropped was no part of a delimiter. -/
theorem net_dropReturn (line : Line) : pair.net (Document.dropReturn line) = pair.net line := by
  unfold Document.dropReturn
  split
  · next hlast =>
    obtain ⟨kept, rfl⟩ := List.getLast?_eq_some_iff.mp hlast
    rw [List.dropLast_concat, net_append_cons ⟨hopener.nonempty, hopener.carriageReturn⟩
      ⟨hcloser.nonempty, hcloser.carriageReturn⟩, net_nil hopener.nonempty hcloser.nonempty,
      Int.add_zero]
  · rfl

/-- Texts have the net together that they have when line feeds are put between them. -/
theorem total_map_dropReturn (parts : List (List Char)) :
    pair.total (parts.map Document.dropReturn) = pair.net (['\n'].intercalate parts) := by
  have hnil := net_nil hopener.nonempty hcloser.nonempty
  induction parts with
  | nil => exact hnil.symm
  | cons part rest ih =>
    rw [List.map_cons, total_cons, net_dropReturn hopener hcloser, ih]
    cases rest with
    | nil => rw [List.intercalate_singleton, List.intercalate_nil, hnil, Int.add_zero]
    | cons next rest =>
      rw [List.intercalate_cons_cons, List.append_assoc, List.singleton_append,
        net_append_cons ⟨hopener.nonempty, hopener.lineFeed⟩ ⟨hcloser.nonempty, hcloser.lineFeed⟩]

/-- The lines of a text have the net of the text. -/
theorem total_splitLines (text : List Char) :
    pair.total (Document.splitLines text) = pair.net text :=
  calc pair.total (Document.splitLines text)
      = pair.net (['\n'].intercalate (text.splitOn '\n')) :=
        total_map_dropReturn hopener hcloser (text.splitOn '\n')
    _ = pair.net text := by rw [List.intercalate_splitOn]

end Inline

end Delimiters

/-! ## Documents that are made from a text -/

/-- Opening characters less closing ones in a text. -/
def charNet (text : List Char) (opener closer : Char) : Int :=
  (text.count opener : Int) - text.count closer

namespace Document

variable {s : String}

/-- The net of a document is the net of the text that it is made from. -/
theorem net_ofText {pair : Delimiters} (hopener : Line.IsInline pair.opener)
    (hcloser : Line.IsInline pair.closer) : (ofText s).net pair = pair.net s.toList := by
  rw [net_eq_total]
  exact Delimiters.total_splitLines hopener hcloser s.toList

/-- Delimiters of one character each are counted in the text as characters. -/
theorem net_ofText_chars {opener closer : Char} (hopener : Line.IsInline [opener])
    (hcloser : Line.IsInline [closer]) :
    (ofText s).net ⟨[opener], [closer]⟩ = charNet s.toList opener closer := by
  rw [net_ofText hopener hcloser, Delimiters.net, charNet]
  simp only [Line.occurrences_singleton]

end Document

/-! ## The rules -/

namespace DocumentRule

/-- A surplus of `count` delimiters, if there is one, is reported on a range. -/
def surplus (range : Range) (spec : Spec) (count : Int) : List Diagnostic :=
  if 0 < count then [spec.at range (some s!"{count} {spec.message}")] else []

/-- What is reported of an imbalance is a surplus. -/
theorem unpaired_toNat (document : Document) (spec : Spec) {count : Int} (hpos : 0 < count) :
    [unpaired document spec count.toNat] = surplus document.wholeLastLine spec count := by
  obtain ⟨n, rfl⟩ := Int.eq_ofNat_of_zero_le (Int.le_of_lt hpos)
  rw [surplus, if_pos hpos]
  rfl

/-- A rule for documents reports a surplus of openers, and of closers if that is reported at all. -/
theorem reported_eq_surplus (rule : DocumentRule) (document : Document) :
    rule.reported document =
      surplus document.wholeLastLine rule.unclosed (document.net rule.pair) ++
        rule.extra?.toList.flatMap fun spec =>
          surplus document.wholeLastLine spec (-document.net rule.pair) := by
  have hnone : ∀ (spec : Spec) {count : Int}, count ≤ 0 →
      surplus document.wholeLastLine spec count = [] := by
    intro spec count hle
    rw [surplus, if_neg (Int.not_lt.mpr hle)]
  unfold reported
  dsimp only
  generalize document.net rule.pair = net
  rcases Int.lt_trichotomy net 0 with hneg | rfl | hpos
  · rw [if_neg (by omega), if_pos hneg, hnone _ (Int.le_of_lt hneg)]
    cases rule.extra? with
    | none => rfl
    | some spec => simp [← unpaired_toNat document spec (show 0 < -net by omega)]
  · cases rule.extra? <;> rfl
  · rw [if_pos hpos, unpaired_toNat document _ hpos]
    cases rule.extra? with
    | none => simp
    | some spec => simp [hnone spec (show -net ≤ 0 by omega)]

end DocumentRule

/-- The net of a document is how often the opener is counted in its text less how often the closer
is, for any delimiters that stand within lines. The usual rules for documents therefore report what
the text has too many of: braces of both kinds, and opening brackets and parentheses, each once, with
their number, on the whole last line. -/
theorem documentDiagnostics_ofText (s : String) :
    (∀ pair : Delimiters, Line.IsInline pair.opener → Line.IsInline pair.closer →
      ∃ opened closed : Nat,
        (∀ n, Line.Counted pair.opener s.toList n ↔ n = opened) ∧
        (∀ n, Line.Counted pair.closer s.toList n ↔ n = closed) ∧
        (Document.ofText s).net pair = (opened : Int) - closed) ∧
    ∃ range : Range,
      range.start = ⟨(Document.ofText s).lineCount - 1, 0⟩ ∧
      range.stop = ⟨(Document.ofText s).lineCount - 1, (Document.ofText s).lastLine.length⟩ ∧
      documentDiagnostics ListedRule.defaultDocument (.ofText s) = .ok
        (DocumentRule.surplus range .unclosedBrace (charNet s.toList '{' '}') ++
          DocumentRule.surplus range .extraBrace (-charNet s.toList '{' '}') ++
          DocumentRule.surplus range .unclosedBracket (charNet s.toList '[' ']') ++
          DocumentRule.surplus range .unclosedParen (charNet s.toList '(' ')')) := by
  constructor
  · intro pair hopener hcloser
    exact ⟨_, _, fun n => Line.counted_iff hopener.nonempty,
      fun n => Line.counted_iff hcloser.nonempty, Document.net_ofText hopener hcloser⟩
  · refine ⟨(Document.ofText s).wholeLastLine, rfl, ?_, ?_⟩
    · show Position.mk _ (0 + (Document.ofText s).lastLine.length) = _
      rw [Nat.zero_add]
      rfl
    · have hbraces : (Document.ofText s).net .braces = charNet s.toList '{' '}' :=
        Document.net_ofText_chars (by decide) (by decide)
      have hbrackets : (Document.ofText s).net .brackets = charNet s.toList '[' ']' :=
        Document.net_ofText_chars (by decide) (by decide)
      have hparens : (Document.ofText s).net .parens = charNet s.toList '(' ')' :=
        Document.net_ofText_chars (by decide) (by decide)
      have hreport := documentDiagnostics_documentWith
        (DocumentRule.all.map fun rule => (rule, rule.metadata)) (.ofText s)
      refine hreport.trans ?_
      simp only [DocumentRule.all, List.map_cons, List.map_nil, documentReport, List.flatMap_cons,
        List.flatMap_nil, DocumentRule.reported_eq_surplus,
        DocumentRule.pair, DocumentRule.unclosed, DocumentRule.extra?, hbraces, hbrackets, hparens,
        Option.toList_some, Option.toList_none, List.append_nil, List.append_assoc]

/-- An opener that overlaps itself is counted once in each of two lines. -/
theorem documentDiagnostics_ofText_overlapping :
    let pair : Delimiters := ⟨['a', 'a'], ['b']⟩
    Line.IsInline pair.opener ∧ Line.IsInline pair.closer ∧
    Line.Counted pair.opener "aaa\r\naaab".toList 2 ∧ Line.Counted pair.closer "aaa\r\naaab".toList 1 ∧
    (Document.ofText "aaa\r\naaab").net pair = 1 := by
  intro pair
  have hopener : Line.IsInline pair.opener := by decide
  have hcloser : Line.IsInline pair.closer := by decide
  have hopened : Line.Counted pair.opener "aaa\r\naaab".toList 2 :=
    (Line.counted_iff hopener.nonempty).mpr rfl
  have hclosed : Line.Counted pair.closer "aaa\r\naaab".toList 1 :=
    (Line.counted_iff hcloser.nonempty).mpr rfl
  obtain ⟨opened, closed, hopened', hclosed', hnet⟩ :=
    (documentDiagnostics_ofText "aaa\r\naaab").1 pair hopener hcloser
  rw [← (hopened' 2).mp hopened, ← (hclosed' 1).mp hclosed] at hnet
  exact ⟨hopener, hcloser, hopened, hclosed, hnet⟩

end ScriptLint
