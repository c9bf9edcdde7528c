import ScriptLint.Batch.Report
import ScriptLint.Proofs.Batch.Utf8
import ScriptLint.Proofs.Scan.LineEndings

/-!
# The scan of one file

A file is read as UTF-8, all line endings in it are made line feeds, and what comes out is scanned like
any other text (`scanFile_eq`). `SourceFile.Lints` and `SourceFile.Fails` say what comes of that without
the reader: the result of the scan, or that the content is not UTF-8 or cannot be scanned.

Two conventions on line endings meet here. For the reader a carriage return ends a line by itself, and
documents drop one carriage return before the end of a line. They agree where every carriage return has
a line feed behind it: the text and what is read of it are then written with the same lines
(`exists_written_lineFeedsFrom`), and the file has the diagnostics of its text (`scanFile_diagnostics`).
-/

namespace ScriptLint

/-! ## Line feeds for all line endings -/

/-- The first line of a text that is written with some lines begins where the text does. -/
theorem Document.Written.cons {line : Line} {rest : List Line} {text : List Char}
    (h : Written (line :: rest) text) (c : Char) : Written ((c :: line) :: rest) (c :: text) := by
  cases h with
  | last => exact .last (c :: line)
  | lastReturn => exact .lastReturn (c :: line)
  | lineFeed _ h => exact .lineFeed (c :: line) h
  | returnLineFeed _ h => exact .returnLineFeed (c :: line) h

/-- The empty line is bare. -/
theorem Line.isBare_nil : IsBare [] := ⟨List.not_mem_nil, by simp⟩

/-- A line stays bare with a character in front that ends no line. -/
theorem Line.IsBare.cons {line : Line} (h : IsBare line) {c : Char} (hfeed : c ≠ '\n')
    (hreturn : c ≠ '\r') : IsBare (c :: line) := by
  refine ⟨?_, ?_⟩
  · rw [List.mem_cons, not_or]
    exact ⟨hfeed.symm, h.1⟩
  · cases line with
    | nil => simpa using hreturn
    | cons d line =>
      rw [List.getLast?_cons_cons]
      exact h.2

namespace Utf8

/-- Every carriage return in the text has a line feed right behind it. -/
def ReturnsEndLines (text : List Char) : Prop :=
  ∀ i < text.length, text[i]? = some '\r' → text[i + 1]? = some '\n'

instance (text : List Char) : Decidable (ReturnsEndLines text) :=
  inferInstanceAs (Decidable (∀ i < text.length, text[i]? = some '\r' → text[i + 1]? = some '\n'))

/-- What holds of the carriage returns of a text holds of those behind its first characters. -/
theorem ReturnsEndLines.of_append (first : List Char) {rest : List Char}
    (h : ReturnsEndLines (first ++ rest)) : ReturnsEndLines rest := by
  intro i hi hreturn
  have hshift : ∀ k, (first ++ rest)[first.length + k]? = rest[k]? := by
    intro k
    rw [List.getElem?_append_right (Nat.le_add_right _ k), Nat.add_sub_cancel_left]
  have hfeed := h (first.length + i) (by rw [List.length_append]; omega)
  rw [Nat.add_assoc, hshift, hshift] at hfeed
  exact hfeed hreturn

/-- A text whose carriage returns all have a line feed behind them, and what is made of it behind the
text that is done, are written with the same lines. -/
theorem exists_written_lineFeedsFrom (done text : List Char) (h : ReturnsEndLines text) :
    ∃ lines feeds, (∀ line ∈ lines, Line.IsBare line) ∧ Document.Written lines text ∧
      lineFeedsFrom done text = done.reverse ++ feeds ∧ Document.Written lines feeds := by
  fun_induction lineFeedsFrom done text with
  | case1 done =>
    refine ⟨[[]], [], ?_, .last [], (List.append_nil _).symm, .last []⟩
    exact List.forall_mem_singleton.mpr Line.isBare_nil
  | case2 done rest ih =>
    obtain ⟨lines, feeds, hbare, htext, hfeeds, hwritten⟩ := ih (h.of_append ['\r', '\n'])
    refine ⟨[] :: lines, '\n' :: feeds, List.forall_mem_cons.mpr ⟨Line.isBare_nil, hbare⟩,
      .returnLineFeed [] htext, ?_, .lineFeed [] hwritten⟩
    rw [hfeeds, List.reverse_cons, List.append_assoc, List.singleton_append]
  | case3 done rest hrest ih =>
    -- A carriage return with anything else behind it is excluded.
    have hfeed := h 0 (Nat.zero_lt_succ _) rfl
    cases rest with
    | nil => cases hfeed
    | cons d rest =>
      cases hfeed
      exact absurd rfl (hrest rest)
  | case4 done c rest _ hreturn ih =>
    obtain ⟨lines, feeds, hbare, htext, hfeeds, hwritten⟩ := ih (h.of_append [c])
    have hbehind : lineFeedsFrom (c :: done) rest = done.reverse ++ c :: feeds := by
      rw [hfeeds, List.reverse_cons, List.append_assoc, List.singleton_append]
    by_cases hfeed : c = '\n'
    · subst hfeed
      exact ⟨[] :: lines, '\n' :: feeds, List.forall_mem_cons.mpr ⟨Line.isBare_nil, hbare⟩,
        .lineFeed [] htext, hbehind, .lineFeed [] hwritten⟩
    · -- Any other character is put in front of the first line.
      cases lines with
      | nil => cases htext
      | cons line lines =>
        obtain ⟨hline, hlines⟩ := List.forall_mem_cons.mp hbare
        exact ⟨(c :: line) :: lines, c :: feeds,
          List.forall_mem_cons.mpr ⟨hline.cons hfeed hreturn, hlines⟩, htext.cons c, hbehind,
          hwritten.cons c⟩

/-- A text whose carriage returns all have a line feed behind them has the lines of what is read of
it. -/
theorem lines_lineFeeds {text : List Char} (h : ReturnsEndLines text) :
    Document.splitLines (lineFeeds text) = Document.splitLines text := by
  obtain ⟨lines, feeds, hbare, htext, hfeeds, hwritten⟩ := exists_written_lineFeedsFrom [] text h
  have hread : lineFeeds text = feeds := hfeeds
  rw [hread, hwritten.splitLines_eq hbare, htext.splitLines_eq hbare]

/-- A file is read as the text that it is the UTF-8 form of, with line feeds for all line endings. -/
theorem readText_eq_ok_iff {bytes : List UInt8} {s : String} :
    readText bytes = .ok s ↔
      ∃ text, bytes = encode text ∧ s = String.ofList (lineFeeds text) := by
  unfold readText
  cases hdecode : decode bytes with
  | error fault =>
    refine iff_of_false (by simp [Except.map]) ?_
    rintro ⟨text, hbytes, -⟩
    rw [decode_eq_ok_iff.mpr hbytes] at hdecode
    cases hdecode
  | ok text =>
    have hbytes := decode_eq_ok_iff.mp hdecode
    constructor
    · intro h
      cases h
      exact ⟨text, hbytes, rfl⟩
    · rintro ⟨text', hbytes', rfl⟩
      rw [decode_eq_ok_iff.mpr hbytes'] at hdecode
      cases hdecode
      rfl

end Utf8

/-! ## The scan -/

namespace Batch

/-- The report on a file, made from the result of the scan of its text. -/
def FileReport.ofResult (file : SourceFile) (result : ScanResult) : FileReport :=
  ⟨file.path, result.diagnostics,
    [.scanned .null none result.document.lineCount result.diagnostics.length]⟩

/-- A file is read, scanned as a text, and reported on. -/
theorem scanFile_eq (file : SourceFile) :
    scanFile file = (do
      let text ← Utf8.readText file.content
      let result ← runLint (.text text) (.options {})
      return FileReport.ofResult file result) := by
  unfold scanFile
  refine bind_congr fun text => ?_
  -- The usual rules are accepted, so the session of a text is always made.
  let session : Session :=
    ⟨.ofText text, {}, ListedRule.defaultLine, ListedRule.defaultDocument, .null, none, none⟩
  have hcreate : Session.create (.text text) (.options {}) ListedRule.defaultLine
      ListedRule.defaultDocument = .ok session := by
    unfold Session.create
    rw [ListedRule.validate_defaultLine, ListedRule.validate_defaultDocument]
    rfl
  unfold runLint
  rw [hcreate, ok_bind, ok_bind]
  unfold Session.run Session.scanNow
  cases allDiagnostics session.lineRules session.documentRules session.document with
  | error fault => rfl
  | ok diagnostics => rfl

/-- A file that is the UTF-8 form of a text is scanned as that text with line feeds for all line
endings. -/
theorem scanFile_of_encode {file : SourceFile} {text : List Char}
    (h : file.content = Utf8.encode text) :
    scanFile file = (do
      let result ← runLint (.text (String.ofList (Utf8.lineFeeds text))) (.options {})
      return FileReport.ofResult file result) := by
  rw [scanFile_eq, Utf8.readText_eq_ok_iff.mpr ⟨text, h, rfl⟩, ok_bind]

end Batch

namespace SourceFile

/-- The scan of what is read of the file gives a result. -/
def Lints (file : SourceFile) (result : ScanResult) : Prop :=
  ∃ text, file.content = Utf8.encode text ∧
    runLint (.text (String.ofList (Utf8.lineFeeds text))) (.options {}) = .ok result

/-- The file cannot be reported on: its content is not UTF-8, or the scan of what is read of it ends in a
fault. -/
inductive Fails (file : SourceFile) : Prop where
  | notUtf8 (h : ∀ text, file.content ≠ Utf8.encode text)
  | fault (text : List Char) (fault : Fault) (hcontent : file.content = Utf8.encode text)
      (hlint : runLint (.text (String.ofList (Utf8.lineFeeds text))) (.options {}) = .error fault)

variable {file : SourceFile}

/-- A file whose scan gives a result is reported on with it. -/
theorem Lints.scanFile_eq {result : ScanResult} (h : file.Lints result) :
    Batch.scanFile file = .ok (.ofResult file result) := by
  obtain ⟨text, hcontent, hlint⟩ := h
  rw [Batch.scanFile_of_encode hcontent, hlint]
  rfl

/-- A file that cannot be reported on ends in a fault. -/
theorem Fails.scanFile_eq (h : file.Fails) : ∃ fault, Batch.scanFile file = .error fault := by
  cases h with
  | notUtf8 h =>
    rw [Batch.scanFile_eq]
    cases hread : Utf8.readText file.content with
    | error fault => exact ⟨fault, rfl⟩
    | ok s =>
      obtain ⟨text, hcontent, -⟩ := Utf8.readText_eq_ok_iff.mp hread
      exact absurd hcontent (h text)
  | fault text fault hcontent hlint =>
    rw [Batch.scanFile_of_encode hcontent, hlint]
    exact ⟨fault, rfl⟩

/-- A file whose scan gives a result can be reported on. -/
theorem Lints.not_fails {result : ScanResult} (h : file.Lints result) : ¬ file.Fails := by
  intro hfails
  obtain ⟨fault, hfault⟩ := hfails.scanFile_eq
  rw [h.scanFile_eq] at hfault
  cases hfault

/-- The scan of a file gives a result, unless it cannot be reported on. -/
theorem exists_lints_of_not_fails (h : ¬ file.Fails) : ∃ result, file.Lints result := by
  by_cases hutf8 : ∃ text, file.content = Utf8.encode text
  · obtain ⟨text, hcontent⟩ := hutf8
    cases hlint : runLint (.text (String.ofList (Utf8.lineFeeds text))) (.options {}) with
    | error fault => exact absurd (.fault text fault hcontent hlint) h
    | ok result => exact ⟨result, text, hcontent, hlint⟩
  · exact absurd (.notUtf8 (not_exists.mp hutf8)) h

end SourceFile

/-- A scan with the usual options is a scan without any. -/
theorem scan_eq_runLint (text : Value) :
    scan text = (do
      let result ← runLint text (.options {})
      return result.diagnostics) := by
  unfold scan
  rw [runLint_eq, runLint_eq, ListedRule.validate_defaultLine, ListedRule.validate_defaultDocument]
  rfl

section Text

variable {file : SourceFile} {text : List Char} {ds : List Diagnostic}

/-- A file that is the UTF-8 form of a text can be reported on if the text with line feeds for all line
endings can be scanned. -/
theorem SourceFile.not_fails_of_scan (hcontent : file.content = Utf8.encode text)
    (hscan : scan (.text (String.ofList (Utf8.lineFeeds text))) = .ok ds) : ¬ file.Fails := by
  rw [scan_eq_runLint] at hscan
  obtain ⟨result, hlint, -⟩ := bind_eq_ok hscan
  exact Lints.not_fails ⟨text, hcontent, hlint⟩

/-- The result of such a file has the diagnostics of that scan. -/
theorem SourceFile.Lints.diagnostics_eq {result : ScanResult} (h : file.Lints result)
    (hcontent : file.content = Utf8.encode text)
    (hscan : scan (.text (String.ofList (Utf8.lineFeeds text))) = .ok ds) :
    result.diagnostics = ds := by
  rw [scan_eq_runLint] at hscan
  obtain ⟨scanned, hlint, hds⟩ := bind_eq_ok hscan
  have hlints : file.Lints scanned := ⟨text, hcontent, hlint⟩
  have hreport := h.scanFile_eq.symm.trans hlints.scanFile_eq
  cases hds
  exact congrArg Batch.FileReport.diagnostics (Except.ok.inj hreport)

end Text

/-- A file that is the UTF-8 form of a text, in which every carriage return has a line feed behind it, has
the diagnostics of that text, or the fault that its scan ends in. -/
theorem Batch.scanFile_diagnostics {file : SourceFile} {text : List Char}
    (hcontent : file.content = Utf8.encode text) (hreturns : Utf8.ReturnsEndLines text) :
    (scanFile file).map (·.diagnostics) = scan (.text (String.ofList text)) := by
  have hlines : (Document.ofText (String.ofList text)).lines =
      (Document.ofText (String.ofList (Utf8.lineFeeds text))).lines := by
    show Document.splitLines (String.ofList text).toList = Document.splitLines (String.ofList _).toList
    rw [String.toList_ofList, String.toList_ofList, Utf8.lines_lineFeeds hreturns]
  rw [scan_congr hlines, scan_eq_runLint, scanFile_of_encode hcontent]
  cases runLint (.text (String.ofList (Utf8.lineFeeds text))) (.options {}) with
  | error fault => rfl
  | ok result => rfl

/-- A file with a letter of two bytes, and with both kinds of line endings. -/
theorem Batch.scanFile_diagnostics_two_endings :
    let text := "é |>\r\n|b\n\r\n".toList
    let file : SourceFile := ⟨.ofString "a.csc",
      [0xc3, 0xa9, 0x20, 0x7c, 0x3e, 0x0d, 0x0a, 0x7c, 0x62, 0x0a, 0x0d, 0x0a]⟩
    file.content = Utf8.encode text ∧ Utf8.ReturnsEndLines text ∧
      (scanFile file).map (·.diagnostics) = scan (.text (String.ofList text)) := by
  intro text file
  have hcontent : file.content = Utf8.encode text := by decide
  have hreturns : Utf8.ReturnsEndLines text := by decide
  exact ⟨hcontent, hreturns, scanFile_diagnostics hcontent hreturns⟩

end ScriptLint
