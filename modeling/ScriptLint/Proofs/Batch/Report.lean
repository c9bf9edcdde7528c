import ScriptLint.Proofs.Batch.File
import ScriptLint.Proofs.Scan.Outcome
import ScriptLint.Proofs.Scan.Selection

/-!
# The report on all files

A batch scan reports on all files or on none. The lines that are printed, the summary and the exit code
are computed apart from each other: by a filter, by tallies that are added up, and from the errors in
the total. `Batch.found` is what all three are about, the diagnostics of all files in order. A file adds
its part of `found` to the lines and to the total, and prints nothing (`collect_of_lints`), so that going
through all files collects the lines of `found`, or of the errors in it, and counts `found` by severity
(`foldlM_collect`). A file that cannot be reported on ends this before anything is printed
(`foldlM_collect_of_fails`). There are errors in `found` exactly when some file has errors
(`filter_isError_found_ne_nil_iff`). `run_all_or_nothing` puts this together for a command and the files
that its path leads to.
-/

namespace ScriptLint

/-! ## Counting by severity -/

/-- The severity is one of those that are counted. -/
def Severity.IsCounted (severity : Severity) : Prop :=
  severity = .error ∨ severity = .warning ∨ severity = .information

namespace Tally

/-- How many of the diagnostics have each severity. -/
def counts (ds : List Diagnostic) : Tally where
  errors := ds.countP fun d => d.severity == .error
  warnings := ds.countP fun d => d.severity == .warning
  information := ds.countP fun d => d.severity == .information

/-- The counts of two lists are added up. -/
theorem counts_append (a b : List Diagnostic) : counts (a ++ b) = (counts a).add (counts b) := by
  simp only [counts, add, List.countP_append]

/-- Tallies can be added up in any grouping. -/
theorem add_assoc (a b c : Tally) : (a.add b).add c = a.add (b.add c) := by
  simp only [add, Nat.add_assoc]

/-- A diagnostic is counted under its severity. -/
theorem count_eq {d : Diagnostic} (h : d.severity.IsCounted) (t : Tally) :
    t.count d.severity = .ok (t.add (counts [d])) := by
  unfold counts
  rcases h with h | h | h
  · rw [h]
    simp [count, add, h]
  · rw [h]
    simp [count, add, h]
  · rw [h]
    simp [count, add, h]

/-- Counting goes on from the tally of what was counted before. -/
theorem foldlM_count {ds : List Diagnostic} (h : ∀ d ∈ ds, d.severity.IsCounted) (t : Tally) :
    ds.foldlM (fun t d => t.count d.severity) t = .ok (t.add (counts ds)) := by
  induction ds generalizing t with
  | nil => rfl
  | cons d ds ih =>
    obtain ⟨hd, hds⟩ := List.forall_mem_cons.mp h
    have hcounts : counts (d :: ds) = (counts [d]).add (counts ds) := counts_append [d] ds
    rw [List.foldlM_cons, count_eq hd, hcounts, ← add_assoc]
    exact ih hds _

/-- Diagnostics with severities that are counted are counted under them. -/
theorem ofDiagnostics_eq {ds : List Diagnostic} (h : ∀ d ∈ ds, d.severity.IsCounted) :
    ofDiagnostics ds = .ok (counts ds) := by
  rw [ofDiagnostics, foldlM_count h]
  simp [add]

/-- Every diagnostic with a severity that is counted is counted once. -/
theorem counts_total {ds : List Diagnostic} (h : ∀ d ∈ ds, d.severity.IsCounted) :
    (counts ds).errors + (counts ds).warnings + (counts ds).information = ds.length := by
  induction ds with
  | nil => rfl
  | cons d ds ih =>
    obtain ⟨hd, hds⟩ := List.forall_mem_cons.mp h
    have hone : (counts [d]).errors + (counts [d]).warnings + (counts [d]).information = 1 := by
      unfold counts
      rcases hd with hd | hd | hd
      · simp [hd]
      · simp [hd]
      · simp [hd]
    have hcounts : counts (d :: ds) = (counts [d]).add (counts ds) := counts_append [d] ds
    have hrest := ih hds
    rw [hcounts, List.length_cons]
    simp only [add]
    omega

end Tally

/-! ## The results of files -/

/-- Every kind of finding has a severity that is counted. -/
theorem Spec.isCounted_of_mem_catalog {spec : Spec} (h : spec ∈ Spec.catalog) :
    spec.severity.IsCounted := by
  have hall : ∀ spec ∈ Spec.catalog, spec.severity = .error ∨ spec.severity = .warning ∨
      spec.severity = .information := by
    decide +kernel
  exact hall spec h

/-- The diagnostics of a scan have severities that are counted. -/
theorem isCounted_of_runLint {text : Value} {options : OptionsArgument} {result : ScanResult}
    (h : runLint text options = .ok result) {d : Diagnostic} (hd : d ∈ result.diagnostics) :
    d.severity.IsCounted := by
  rcases runLint_eq_ok h with hnone | hall
  · rw [hnone] at hd
    cases hd
  · rw [allDiagnostics_eq_ok hall, (Diagnostic.sort_perm _).mem_iff] at hd
    obtain ⟨spec, hspec, range, message, rfl⟩ := exists_spec_of_mem_report hd
    exact Spec.isCounted_of_mem_catalog hspec

/-- A result says that there are errors exactly when there is one among its diagnostics. -/
theorem hasErrors_of_runLint {text : Value} {options : OptionsArgument} {result : ScanResult}
    (h : runLint text options = .ok result) :
    result.hasErrors = Diagnostic.hasErrors result.diagnostics := by
  rw [runLint_eq] at h
  obtain ⟨o, -, h⟩ := bind_eq_ok h
  obtain ⟨-, -, h⟩ := bind_eq_ok h
  obtain ⟨-, -, h⟩ := bind_eq_ok h
  obtain ⟨document, -, h⟩ := bind_eq_ok h
  unfold scanDocument at h
  split at h
  · obtain ⟨diagnostics, -, h⟩ := bind_eq_ok h
    cases h
    rfl
  · cases h
    rfl

/-- The diagnostics of a file have severities that are counted. -/
theorem SourceFile.Lints.isCounted {file : SourceFile} {result : ScanResult}
    (h : file.Lints result) : ∀ d ∈ result.diagnostics, d.severity.IsCounted := by
  obtain ⟨text, -, hlint⟩ := h
  exact fun d hd => isCounted_of_runLint hlint hd

/-- A file has errors exactly when there is one among its diagnostics. -/
theorem SourceFile.Lints.hasErrors_eq {file : SourceFile} {result : ScanResult}
    (h : file.Lints result) : result.hasErrors = Diagnostic.hasErrors result.diagnostics := by
  obtain ⟨text, -, hlint⟩ := h
  exact hasErrors_of_runLint hlint

namespace Batch

/-- The diagnostics of all files in order, each with the path of its file. -/
def found (entries : List (SourceFile × ScanResult)) : List (Path × Diagnostic) :=
  entries.flatMap fun entry => entry.2.diagnostics.map fun d => (entry.1.path, d)

/-- The line that is printed about a diagnostic of a file. -/
def line (finding : Path × Diagnostic) : String :=
  let path := finding.1.display
  let d := finding.2
  s!"{path}:{d.range.start.line + 1}:{d.range.start.column + 1}: " ++
    s!"{d.severity.name} {d.code} {d.message}"

/-- Whether a diagnostic of a file is an error. -/
def isError (finding : Path × Diagnostic) : Bool := finding.2.severity == .error

/-- The lines as they are printed. -/
def printLines (lines : List String) : String := String.join (lines.map (· ++ "\n"))

/-- The first line is printed first, and ended. -/
theorem printLines_cons (line : String) (lines : List String) :
    printLines (line :: lines) = line ++ "\n" ++ printLines lines := by
  rw [printLines, List.map_cons, String.join_cons, printLines]

/-- The line of a diagnostic after the path of its file is the one that is printed. -/
theorem render_eq_line (path : Path) (d : Diagnostic) :
    d.render (some path.display) = line (path, d) := by
  simp only [Diagnostic.render, Diagnostic.renderAt, line, toString, String.append_assoc]

/-- The findings that are printed: all, or the errors among them. -/
def chosen (errorsOnly : Bool) (findings : List (Path × Diagnostic)) : List (Path × Diagnostic) :=
  if errorsOnly then findings.filter isError else findings

/-- What is collected of findings: the lines of those that are printed, and the counts of all. -/
def gathered (errorsOnly : Bool) (findings : List (Path × Diagnostic)) : Collected :=
  ⟨(chosen errorsOnly findings).map line, Tally.counts (findings.map Prod.snd)⟩

/-- What was collected first, and then what was collected behind it. -/
def Collected.append (a b : Collected) : Collected := ⟨a.lines ++ b.lines, a.total.add b.total⟩

/-- What is collected can be put together in any grouping. -/
theorem Collected.append_assoc (a b c : Collected) :
    (a.append b).append c = a.append (b.append c) := by
  simp only [append, List.append_assoc, Tally.add_assoc]

/-- What is collected of the first findings and of the others is collected of all of them. -/
theorem gathered_append (errorsOnly : Bool) (a b : List (Path × Diagnostic)) :
    gathered errorsOnly (a ++ b) = (gathered errorsOnly a).append (gathered errorsOnly b) := by
  have hchosen : chosen errorsOnly (a ++ b) = chosen errorsOnly a ++ chosen errorsOnly b := by
    cases errorsOnly with
    | false => rfl
    | true => exact List.filter_append a b
  rw [gathered, hchosen, List.map_append, List.map_append, Tally.counts_append]
  rfl

variable {entries : List (SourceFile × ScanResult)}

/-- The lines about a file are those of its diagnostics, or of the errors among them. -/
theorem fileLines_ofResult (errorsOnly : Bool) (file : SourceFile) (result : ScanResult) :
    fileLines errorsOnly (.ofResult file result) =
      (chosen errorsOnly (found [(file, result)])).map line := by
  have hchosen : chosen errorsOnly (found [(file, result)]) =
      (result.diagnostics.filter fun d => !errorsOnly || d.severity == .error).map fun d =>
        (file.path, d) := by
    rw [found, List.flatMap_singleton]
    cases errorsOnly with
    | false => simp [chosen]
    | true => exact List.filter_map
  rw [hchosen, List.map_map]
  exact List.map_congr_left fun d _ => render_eq_line file.path d

/-- What was found in one file is found first. -/
theorem found_cons (entry : SourceFile × ScanResult) (entries : List (SourceFile × ScanResult)) :
    found (entry :: entries) = found [entry] ++ found entries := by
  rw [found, List.flatMap_cons, found, List.flatMap_singleton, found]

/-- What was found in one file are its diagnostics. -/
theorem map_snd_found_singleton (file : SourceFile) (result : ScanResult) :
    (found [(file, result)]).map Prod.snd = result.diagnostics := by
  rw [found, List.flatMap_singleton, List.map_map]
  exact List.map_id _

/-- Everything that was found is counted once. -/
theorem counts_found_total (h : ∀ entry ∈ entries, entry.1.Lints entry.2) :
    (Tally.counts ((found entries).map Prod.snd)).errors +
        (Tally.counts ((found entries).map Prod.snd)).warnings +
        (Tally.counts ((found entries).map Prod.snd)).information = (found entries).length := by
  rw [Tally.counts_total, List.length_map]
  intro d hd
  obtain ⟨finding, hfinding, rfl⟩ := List.mem_map.mp hd
  obtain ⟨entry, hentry, hfinding⟩ := List.mem_flatMap.mp hfinding
  obtain ⟨d, hmem, rfl⟩ := List.mem_map.mp hfinding
  exact (h entry hentry).isCounted d hmem

/-- As many errors are counted as lines about errors are printed. -/
theorem errors_counts_found (entries : List (SourceFile × ScanResult)) :
    (Tally.counts ((found entries).map Prod.snd)).errors =
      ((found entries).filter isError).length := by
  show List.countP _ _ = _
  rw [List.countP_map, List.countP_eq_length_filter]
  rfl

/-- There is an error among what was found exactly when some file has errors. -/
theorem filter_isError_found_ne_nil_iff (h : ∀ entry ∈ entries, entry.1.Lints entry.2) :
    (found entries).filter isError ≠ [] ↔ ∃ entry ∈ entries, entry.2.hasErrors = true := by
  constructor
  · intro hne
    obtain ⟨finding, hfinding⟩ := List.exists_mem_of_ne_nil _ hne
    obtain ⟨hfinding, herror⟩ := List.mem_filter.mp hfinding
    obtain ⟨entry, hentry, hfinding⟩ := List.mem_flatMap.mp hfinding
    obtain ⟨d, hd, rfl⟩ := List.mem_map.mp hfinding
    refine ⟨entry, hentry, ?_⟩
    rw [(h entry hentry).hasErrors_eq]
    exact List.any_eq_true.mpr ⟨d, hd, herror⟩
  · rintro ⟨entry, hentry, herrors⟩
    rw [(h entry hentry).hasErrors_eq] at herrors
    obtain ⟨d, hd, herror⟩ := List.any_eq_true.mp herrors
    have hfinding : (entry.1.path, d) ∈ found entries :=
      List.mem_flatMap.mpr ⟨entry, hentry, List.mem_map_of_mem hd⟩
    exact List.ne_nil_of_mem (List.mem_filter.mpr ⟨hfinding, herror⟩)

/-! ## One part of the program after the other -/

namespace Report

variable {α β : Type} {first : Report α} {next : α → Report β}

/-- What comes after a part that ends well is printed and logged behind it. -/
theorem bind_of_ok {a : α} (h : first.outcome = .ok a) :
    first >>= next =
      ⟨(next a).outcome, first.output ++ (next a).output, first.log ++ (next a).log⟩ := by
  simp only [bind, h]

/-- Nothing comes after a part that ends in a fault. -/
theorem bind_of_error {fault : Fault} (h : first.outcome = .error fault) :
    first >>= next = ⟨.error fault, first.output, first.log⟩ := by
  simp only [bind, h]

/-- Lines that are printed one after the other are printed as they are. -/
theorem forM_printLine (lines : List String) :
    lines.forM printLine = ⟨.ok (), printLines lines, []⟩ := by
  induction lines with
  | nil => rfl
  | cons line lines ih =>
    show (printLine line >>= fun _ => lines.forM printLine) = _
    rw [bind_of_ok rfl, ih, printLines_cons]
    rfl

end Report

/-! ## One file after the other -/

/-- A file whose scan gives a result adds what was found in it to what was collected, and prints
nothing. -/
theorem collect_of_lints {file : SourceFile} {result : ScanResult} (h : file.Lints result)
    (errorsOnly : Bool) (collected : Collected) :
    ∃ log, collect errorsOnly collected file =
      ⟨.ok (collected.append (gathered errorsOnly (found [(file, result)]))), "", log⟩ := by
  rw [gathered, ← fileLines_ofResult, map_snd_found_singleton]
  have htally : Tally.ofDiagnostics (FileReport.ofResult file result).diagnostics =
      .ok (Tally.counts result.diagnostics) := Tally.ofDiagnostics_eq h.isCounted
  unfold collect
  rw [h.scanFile_eq, Report.bind_of_ok rfl, Report.bind_of_ok rfl, htally, Report.bind_of_ok rfl]
  exact ⟨_, rfl⟩

/-- A file that cannot be reported on ends in a fault, and prints nothing. -/
theorem collect_of_fails {file : SourceFile} (h : file.Fails) (errorsOnly : Bool)
    (collected : Collected) :
    ∃ fault, collect errorsOnly collected file = ⟨.error fault, "", []⟩ := by
  obtain ⟨fault, hfault⟩ := h.scanFile_eq
  unfold collect
  rw [hfault, Report.bind_of_error rfl]
  exact ⟨fault, rfl⟩

/-- Going through files whose scans all give results collects what was found in them, and prints
nothing. -/
theorem foldlM_collect (h : ∀ entry ∈ entries, entry.1.Lints entry.2) (errorsOnly : Bool)
    (collected : Collected) :
    ∃ log, (entries.map Prod.fst).foldlM (collect errorsOnly) collected =
      ⟨.ok (collected.append (gathered errorsOnly (found entries))), "", log⟩ := by
  induction entries generalizing collected with
  | nil =>
    have hnone : collected.append (gathered errorsOnly (found [])) = collected := by
      cases errorsOnly <;> simp [Collected.append, gathered, chosen, found, Tally.counts, Tally.add]
    rw [hnone]
    exact ⟨[], rfl⟩
  | cons entry entries ih =>
    obtain ⟨hentry, hentries⟩ := List.forall_mem_cons.mp h
    obtain ⟨log, hfirst⟩ := collect_of_lints hentry errorsOnly collected
    obtain ⟨more, hrest⟩ := ih hentries (collected.append (gathered errorsOnly (found [entry])))
    refine ⟨log ++ more, ?_⟩
    rw [List.map_cons, List.foldlM_cons, hfirst, Report.bind_of_ok rfl, hrest,
      found_cons entry entries, gathered_append, Collected.append_assoc]
    rfl

/-- Going through files of which one cannot be reported on ends in a fault, and prints nothing. -/
theorem foldlM_collect_of_fails {files : List SourceFile} (h : ∃ file ∈ files, file.Fails)
    (errorsOnly : Bool) (collected : Collected) :
    ∃ fault log, files.foldlM (collect errorsOnly) collected = ⟨.error fault, "", log⟩ := by
  induction files generalizing collected with
  | nil => exact absurd h (by simp)
  | cons file files ih =>
    rw [List.foldlM_cons]
    by_cases hfails : file.Fails
    · obtain ⟨fault, hfault⟩ := collect_of_fails hfails errorsOnly collected
      rw [hfault, Report.bind_of_error rfl]
      exact ⟨fault, [], rfl⟩
    · -- The file itself is collected from, and the one that fails comes later.
      obtain ⟨result, hlints⟩ := SourceFile.exists_lints_of_not_fails hfails
      obtain ⟨log, hfirst⟩ := collect_of_lints hlints errorsOnly collected
      obtain ⟨other, hother, hotherFails⟩ := h
      have hlater : other ∈ files := by
        rcases List.mem_cons.mp hother with rfl | hother
        · exact absurd hotherFails hfails
        · exact hother
      obtain ⟨fault, more, hrest⟩ := ih ⟨other, hlater, hotherFails⟩
        (collected.append (gathered errorsOnly (found [(file, result)])))
      rw [hfirst, Report.bind_of_ok rfl, hrest]
      exact ⟨fault, log ++ more, rfl⟩

/-! ## The run -/

/-- Files whose scans all give results are reported on with what was found in them. -/
theorem scanFiles_eq (h : ∀ entry ∈ entries, entry.1.Lints entry.2) (errorsOnly : Bool) :
    (scanFiles errorsOnly (entries.map Prod.fst)).outcome =
        .ok (.code (if (found entries).filter isError = [] then 0 else 1)) ∧
      (scanFiles errorsOnly (entries.map Prod.fst)).output =
        printLines ((chosen errorsOnly (found entries)).map line ++
          [summary entries.length (Tally.counts ((found entries).map Prod.snd))]) := by
  obtain ⟨log, hcollected⟩ := foldlM_collect h errorsOnly {}
  have hstart : ∀ collected : Collected, Collected.append {} collected = collected := by
    intro collected
    simp [Collected.append, Tally.add]
  rw [hstart] at hcollected
  unfold scanFiles
  rw [hcollected, Report.bind_of_ok rfl, Report.forM_printLine, Report.bind_of_ok rfl,
    Report.bind_of_ok rfl]
  refine ⟨?_, ?_⟩
  · simp only [pure, gathered, errors_counts_found, List.length_eq_zero_iff]
  · simp [pure, gathered, printLines, Report.printLine]

/-- Files of which one cannot be reported on end in a fault, with nothing printed. -/
theorem scanFiles_of_fails {files : List SourceFile} (h : ∃ file ∈ files, file.Fails)
    (errorsOnly : Bool) :
    ∃ fault, (scanFiles errorsOnly files).outcome = .error fault ∧
      (scanFiles errorsOnly files).output = "" := by
  obtain ⟨fault, log, hfault⟩ := foldlM_collect_of_fails h errorsOnly {}
  unfold scanFiles
  rw [hfault, Report.bind_of_error rfl]
  exact ⟨fault, rfl, rfl⟩

/-- Results can be put beside the files that have them. -/
theorem exists_entries {files : List SourceFile}
    (h : ∀ file ∈ files, ∃ result, file.Lints result) :
    ∃ entries : List (SourceFile × ScanResult), entries.map Prod.fst = files ∧
      ∀ entry ∈ entries, entry.1.Lints entry.2 := by
  induction files with
  | nil => exact ⟨[], rfl, fun entry hentry => absurd hentry List.not_mem_nil⟩
  | cons file files ih =>
    obtain ⟨⟨result, hresult⟩, hrest⟩ := List.forall_mem_cons.mp h
    obtain ⟨entries, hfiles, hentries⟩ := ih hrest
    exact ⟨(file, result) :: entries, by rw [List.map_cons, hfiles],
      List.forall_mem_cons.mpr ⟨hresult, hentries⟩⟩

section Run

variable {arguments : Arguments} {find : Path → Except Fault (Option Tree)} {tree : Tree}
  {files : List SourceFile}

/-- A command scans the files that its path leads to, if there are any. -/
theorem run_scan_eq (hfind : find (Path.ofString arguments.path) = .ok (some tree))
    (hfiles : tree.sourceFiles (Path.ofString arguments.path) = .ok files) (hne : files ≠ []) :
    (run (.scan arguments) find).outcome = (scanFiles arguments.errorsOnly files).outcome ∧
      (run (.scan arguments) find).output = (scanFiles arguments.errorsOnly files).output := by
  obtain ⟨file, rest, rfl⟩ := List.exists_cons_of_ne_nil hne
  unfold run scanPath
  dsimp only
  rw [hfind, Report.bind_of_ok rfl]
  dsimp only
  rw [hfiles, Report.bind_of_ok rfl]
  simp [Report.ofOutcome]

/-- A batch scan reports on all the files that its path leads to or on none. If one of them is not UTF-8
or cannot be scanned, nothing is printed. Otherwise a line is printed for every diagnostic of every
file, in order, and of these only the lines of errors when errors only are asked for; the summary counts
the diagnostics of all files by severity, all the same. The exit code is one exactly when some file has
errors, which is when lines of errors are printed. -/
theorem run_all_or_nothing (hfind : find (Path.ofString arguments.path) = .ok (some tree))
    (hfiles : tree.sourceFiles (Path.ofString arguments.path) = .ok files) (hne : files ≠ []) :
    ((∃ file ∈ files, file.Fails) → ∀ errorsOnly,
      (∃ fault, (run (.scan { arguments with errorsOnly }) find).outcome = .error fault) ∧
        (run (.scan { arguments with errorsOnly }) find).output = "") ∧
    ((∀ file ∈ files, ¬ file.Fails) →
      ∃ (entries : List (SourceFile × ScanResult)) (code : Nat), entries.map Prod.fst = files ∧
        (∀ entry ∈ entries, entry.1.Lints entry.2) ∧
        let total := Tally.counts ((found entries).map Prod.snd)
        total.errors + total.warnings + total.information = (found entries).length ∧
        (∀ errorsOnly,
          (run (.scan { arguments with errorsOnly }) find).outcome = .ok (.code code) ∧
          (run (.scan { arguments with errorsOnly }) find).output = printLines
            ((if errorsOnly then (found entries).filter isError else found entries).map line ++
              [s!"Files: {files.length}  Errors: {total.errors}" ++
                s!"  Warnings: {total.warnings}  Information: {total.information}"])) ∧
        (code = 0 ∨ code = 1) ∧
        (code = 1 ↔ ∃ entry ∈ entries, entry.2.hasErrors = true) ∧
        (code = 1 ↔ (found entries).filter isError ≠ [])) := by
  have hrun : ∀ errorsOnly,
      (run (.scan { arguments with errorsOnly }) find).outcome =
          (scanFiles errorsOnly files).outcome ∧
        (run (.scan { arguments with errorsOnly }) find).output =
          (scanFiles errorsOnly files).output :=
    fun errorsOnly => run_scan_eq hfind hfiles hne
  constructor
  · intro hfails errorsOnly
    obtain ⟨fault, hfault, houtput⟩ := scanFiles_of_fails hfails errorsOnly
    rw [(hrun errorsOnly).1, (hrun errorsOnly).2]
    exact ⟨⟨fault, hfault⟩, houtput⟩
  · intro hnone
    obtain ⟨entries, rfl, hlints⟩ :=
      exists_entries fun file hfile => SourceFile.exists_lints_of_not_fails (hnone file hfile)
    have hcode : (if (found entries).filter isError = [] then 0 else 1) = 1 ↔
        (found entries).filter isError ≠ [] := by
      split
      · next hnil => simp [hnil]
      · next hsome => simp [hsome]
    refine ⟨entries, if (found entries).filter isError = [] then 0 else 1, rfl, hlints,
      counts_found_total hlints, fun errorsOnly => ?_, ?_,
      hcode.trans (filter_isError_found_ne_nil_iff hlints), hcode⟩
    · obtain ⟨houtcome, houtput⟩ := scanFiles_eq hlints errorsOnly
      rw [(hrun errorsOnly).1, (hrun errorsOnly).2, List.length_map]
      refine ⟨houtcome, houtput.trans ?_⟩
      rw [chosen, summary]
      simp only [toString, String.append_assoc]
    · split
      · exact Or.inl rfl
      · exact Or.inr rfl

end Run

/-- A directory with two files. If the second is not UTF-8, nothing is printed about the first either. If
it can be scanned, the lines of both are printed before the totals, and the program ends with code
one. -/
theorem run_all_or_nothing_two_files :
    let find (second : List UInt8) (_ : Path) : Except Fault (Option Tree) :=
      .ok (some (.directory
        [("a.csc", .file [0x7c, 0x61, 0x20, 0x7c, 0x3e]), ("b.csc", .file second)]))
    let report (second : List UInt8) (errorsOnly : Bool) :=
      run (.scan { path := "d", errorsOnly }) (find second)
    let bar := "d/a.csc:1:1: error LINT_PIPELINE_INVALID_OPERATOR " ++
      "Invalid pipeline operator. Use \"|>\" for pipeline operations.\n"
    let pipe := "d/a.csc:1:4: warning LINT_PIPELINE_MISSING_CONTINUATION " ++
      "Pipeline operator at end of line requires a continuation on the next line.\n"
    let brace := "d/b.csc:1:1: error LINT_BALANCE_UNCLOSED_BRACE " ++
      "1 unclosed brace(s). Missing closing brace '\x7d'.\n"
    let totals := "Files: 2  Errors: 2  Warnings: 1  Information: 0\n"
    (∀ errorsOnly, (∃ fault, (report [0x7c, 0xff] errorsOnly).outcome = .error fault) ∧
        (report [0x7c, 0xff] errorsOnly).output = "") ∧
      (∀ errorsOnly, (report [0x7b] errorsOnly).outcome = .ok (.code 1)) ∧
      (report [0x7b] false).output = bar ++ pipe ++ brace ++ totals ∧
      (report [0x7b] true).output = bar ++ brace ++ totals := by
  intro find report bar pipe brace totals
  let first : SourceFile := ⟨.ofString "d/a.csc", [0x7c, 0x61, 0x20, 0x7c, 0x3e]⟩
  let other (second : List UInt8) : SourceFile := ⟨.ofString "d/b.csc", second⟩
  let barFound := Spec.loneBar.at (.onLine 0 ⟨0, 2⟩)
  let pipeFound := Spec.danglingPipe.at (.onLine 0 ⟨3, 2⟩)
  let braceFound := Spec.unclosedBrace.at (.onLine 0 ⟨0, 1⟩)
    (some "1 unclosed brace(s). Missing closing brace '\x7d'.")
  have hfiles : ∀ second, Tree.sourceFiles (.ofString "d") (.directory
      [("a.csc", .file first.content), ("b.csc", .file second)]) = .ok [first, other second] := by
    intro second
    -- The files are found in the order of their paths, so that sorting leaves them as they are.
    have hsources : Tree.sources (.ofString "d") (.directory
      [("a.csc", .file first.content), ("b.csc", .file second)]) = .ok [first, other second] := rfl
    rw [Tree.sourceFiles, hsources]
    exact congrArg Except.ok (List.mergeSort_of_pairwise (List.pairwise_pair.mpr rfl))
  have hall := fun second => @run_all_or_nothing { path := "d" } (find second) _ _ rfl
    (hfiles second) (List.cons_ne_nil _ _)
  have hfails : ∃ file ∈ [first, other [0x7c, 0xff]], file.Fails := by
    refine ⟨other [0x7c, 0xff], by simp, .notUtf8 fun text hcontent => ?_⟩
    cases Utf8.decode_eq_ok_iff.mpr hcontent
  have hfirst : first.content = Utf8.encode "|a |>".toList := by decide
  have hsecond : (other [0x7b]).content = Utf8.encode "\x7b".toList := by decide
  have hfirstScan : scan (.text "|a |>") = .ok [barFound, pipeFound] :=
    scan_eq_ok_iff.mpr ⟨_, rfl, congrArg Except.ok (List.mergeSort_of_pairwise (by decide))⟩
  have hsecondScan : scan (.text "\x7b") = .ok [braceFound] :=
    scan_eq_ok_iff.mpr ⟨_, rfl, congrArg Except.ok (List.mergeSort_singleton _)⟩
  have hgood : ∀ file ∈ [first, other [0x7b]], ¬ file.Fails :=
    List.forall_mem_cons.mpr ⟨SourceFile.not_fails_of_scan hfirst hfirstScan,
      List.forall_mem_singleton.mpr (SourceFile.not_fails_of_scan hsecond hsecondScan)⟩
  obtain ⟨entries, code, hentries, hlints, -, hreports, -, -, hcode⟩ := (hall [0x7b]).2 hgood
  have hfound : found entries =
      [(first.path, barFound), (first.path, pipeFound), ((other [0x7b]).path, braceFound)] := by
    -- There is one result for each file, and it has the diagnostics of the scan of its text.
    obtain ⟨⟨f, a⟩, rest, rfl, (hf : f = first), hrest⟩ := List.map_eq_cons_iff.mp hentries
    obtain ⟨⟨g, b⟩, rest, rfl, (hg : g = other [0x7b]), hnil⟩ := List.map_eq_cons_iff.mp hrest
    obtain rfl := List.map_eq_nil_iff.mp hnil
    subst f g
    have ha : a.diagnostics = [barFound, pipeFound] :=
      SourceFile.Lints.diagnostics_eq (hlints (first, a) (by simp)) hfirst hfirstScan
    have hb : b.diagnostics = [braceFound] :=
      SourceFile.Lints.diagnostics_eq (hlints (other [0x7b], b) (by simp)) hsecond hsecondScan
    simp [found, ha, hb]
  have htotal : Tally.counts ((found entries).map Prod.snd) = ⟨2, 1, 0⟩ := by
    rw [hfound]
    rfl
  have herrors : (found entries).filter isError =
      [(first.path, barFound), ((other [0x7b]).path, braceFound)] := by
    rw [hfound]
    rfl
  have hbar : line (first.path, barFound) ++ "\n" = bar := by decide
  have hpipe : line (first.path, pipeFound) ++ "\n" = pipe := by decide
  have hbrace : line ((other [0x7b]).path, braceFound) ++ "\n" = brace := by decide
  rw [herrors] at hcode
  refine ⟨(hall [0x7c, 0xff]).1 hfails, fun errorsOnly => ?_, ?_, ?_⟩
  · rw [← hcode.mpr (List.cons_ne_nil _ _)]
    exact (hreports errorsOnly).1
  · obtain ⟨-, houtput⟩ := hreports false
    rw [houtput, htotal, hfound, if_neg Bool.false_ne_true]
    simp only [List.map_cons, List.map_nil, List.cons_append, List.nil_append, List.length_cons,
      List.length_nil, Nat.reduceAdd, printLines_cons, hbar, hpipe, hbrace, String.append_assoc]
    rfl
  · obtain ⟨-, houtput⟩ := hreports true
    rw [houtput, htotal, herrors, if_pos rfl]
    simp only [List.map_cons, List.map_nil, List.cons_append, List.nil_append, List.length_cons,
      List.length_nil, Nat.reduceAdd, printLines_cons, hbar, hbrace, String.append_assoc]
    rfl

end Batch

end ScriptLint
