import ScriptLint.Proofs.Rule.Spans
import ScriptLint.Proofs.Scan.Report
import ScriptLint.Proofs.Text.Runs

/-!
# Which blocks of a line lack a getter and a setter

A block of accessors is told from other braces by what is in it, and from a block of something else
by the text before it. `Property.IsDeclaration` says of that text that it declares a property,
reading it forwards, while the search has it backwards and stops at the first colon that it meets
(`declares_reverse_iff`). `Property.IsEmptyBlock` adds what is between the braces, with its words as
maximal runs.

No block stands within another, as a brace is no character of a block, so the search that goes on
behind each block it takes loses none (`isolated_emptyBlock`). The rule for properties reports
exactly the blocks of a line that have neither accessor (`run_emptyProperty`).
-/

namespace ScriptLint

namespace Property

/-! ## What is to be reported -/

/-- The text ends, blanks apart, in a name, a colon and a type. The colon is the last one, the type
is what follows it, and of the name only the last character is looked at. -/
def IsDeclaration (text : List Char) : Prop :=
  ∃ name type, Line.trimEnd text = name ++ ':' :: type ∧ ':' ∉ type ∧
    (Line.trim type ≠ [] ∧
      ∀ c ∈ Line.trim type, isWordChar c = true ∨ c ∈ ['$', '.', '<', '>', '[', ']', '?']) ∧
    ∃ c, (Line.trimEnd name).getLast? = some c ∧ (isAlphanumeric c = true ∨ c = '_' ∨ c = '$')

/-- Behind the text `before`, a block with the inside `body` lacks a getter and a setter. -/
structure IsEmptyBlock (before body : List Char) : Prop where
  /-- The block has words, white space and semicolons only. -/
  members : ∀ c ∈ body, isWordChar c = true ∨ isSpace c = true ∨ c = ';'
  semicolon : ';' ∈ body
  /-- None of the words in the block is an accessor. -/
  noAccessor : ∀ column word, Line.IsRunAt isWordChar body column word →
    word ≠ ['g', 'e', 't'] ∧ word ≠ ['s', 'e', 't']
  declaration : IsDeclaration before

/-- A block that lacks a getter and a setter has its braces at two columns of a line. -/
def IsEmptyBlockAt (line : Line) (first last : Nat) : Prop :=
  ∃ before body after, line = before ++ '{' :: (body ++ '}' :: after) ∧ before.length = first ∧
    before.length + 1 + body.length = last ∧ IsEmptyBlock before body

/-! ## The text before a block -/

/-- A text is searched backwards for a colon, and splits at the last one. -/
theorem reverse_split {text name type : List Char} (htext : text = name ++ ':' :: type)
    (htype : ':' ∉ type) :
    text.reverse.takeWhile (· != ':') = type.reverse ∧
      text.reverse.dropWhile (· != ':') = ':' :: name.reverse := by
  have hreverse : text.reverse = type.reverse ++ ':' :: name.reverse := by
    rw [htext, List.reverse_append, List.reverse_cons, List.append_assoc, List.singleton_append]
  have hmembers : ∀ c ∈ type.reverse, (c != ':') = true := by
    intro c hc
    rw [bne_iff_ne]
    rintro rfl
    exact htype (List.mem_reverse.mp hc)
  have hstop : ∀ c, (':' :: name.reverse).head? = some c → (c != ':') = false := by
    rintro c ⟨⟩
    rfl
  rw [hreverse]
  exact ⟨Line.takeWhile_append_eq hmembers hstop, Line.dropWhile_append_eq hmembers hstop⟩

/-- The name and the type on the two sides of a colon, read backwards, are those of a declaration.
-/
theorem sides_reverse_iff {name type : List Char} :
    (!(Line.trim type.reverse).isEmpty && (Line.trim type.reverse).all isTypeChar &&
      (name.reverse.dropWhile isBlank).head?.any
        fun c => isAlphanumeric c || c == '_' || c == '$') = true ↔
    (Line.trim type ≠ [] ∧
      ∀ c ∈ Line.trim type, isWordChar c = true ∨ c ∈ ['$', '.', '<', '>', '[', ']', '?']) ∧
    ∃ c, (Line.trimEnd name).getLast? = some c ∧ (isAlphanumeric c = true ∨ c = '_' ∨ c = '$') := by
  rw [Line.trim_reverse, Line.dropWhile_isBlank_reverse, List.head?_reverse]
  simp only [Bool.and_eq_true, Bool.not_eq_true', List.isEmpty_eq_false_iff, Ne,
    List.reverse_eq_nil_iff, List.all_reverse, List.all_eq_true, isTypeChar, Bool.or_eq_true,
    List.contains_iff_mem, Option.any_eq_true, beq_iff_eq, or_assoc]

/-- A declaration is told from the text before a block, read backwards. -/
theorem declares_reverse_iff {before : List Char} :
    declares before.reverse = true ↔ IsDeclaration before := by
  rw [declares, Line.dropWhile_isBlank_reverse]
  constructor
  · intro h
    split at h
    · next c name hdrop =>
      -- The search stopped at a colon, and there is none in what it passed.
      obtain rfl : c = ':' := by
        have hstop := @Line.not_of_head?_dropWhile (· != ':') (Line.trimEnd before).reverse c
          (by rw [hdrop]; rfl)
        simpa using hstop
      have hsplit := List.takeWhile_append_dropWhile (p := (· != ':'))
        (l := (Line.trimEnd before).reverse)
      rw [hdrop] at hsplit
      generalize htype : (Line.trimEnd before).reverse.takeWhile (· != ':') = type at h hsplit
      have hcolon : ':' ∉ type := by
        rw [← htype]
        intro hmem
        have hother := List.all_eq_true.mp (List.all_takeWhile (p := (· != ':'))) ':' hmem
        cases hother
      refine ⟨name.reverse, type.reverse, ?_, ?_, ?_⟩
      · rw [← List.reverse_reverse (Line.trimEnd before), ← hsplit]
        simp
      · rwa [List.mem_reverse]
      · rw [← sides_reverse_iff, List.reverse_reverse, List.reverse_reverse]
        exact h
    · cases h
  · rintro ⟨name, type, htext, htype, hsides⟩
    obtain ⟨htake, hdrop⟩ := reverse_split htext htype
    rw [htake, hdrop]
    exact sides_reverse_iff.mpr hsides

/-! ## The blocks of a line -/

/-- The inside of a block has an accessor exactly when one of its words is. -/
theorem hasAccessor_eq_false_iff {body : List Char} :
    hasAccessor body = false ↔ ∀ column word, Line.IsRunAt isWordChar body column word →
      word ≠ ['g', 'e', 't'] ∧ word ≠ ['s', 'e', 't'] := by
  rw [hasAccessor, List.any_eq_false]
  constructor
  · intro h column word hrun
    have hword := h (column, word) (Line.mem_runs_iff.mpr hrun)
    simpa using hword
  · rintro h ⟨column, word⟩ hmem
    have hword := h column word (Line.mem_runs_iff.mp hmem)
    simpa using hword

/-- The characters of a block are those of words, white space and semicolons. -/
theorem isBlockChar_iff {c : Char} :
    isBlockChar c = true ↔ isWordChar c = true ∨ isSpace c = true ∨ c = ';' := by
  simp [isBlockChar, or_assoc]

/-- A block is read exactly where it stands with its braces. -/
theorem emptyBlock_eq_some_iff {before text body : List Char} :
    emptyBlock before.reverse text = some body ↔
      ∃ after, text = '{' :: (body ++ '}' :: after) ∧ IsEmptyBlock before body := by
  constructor
  · intro h
    unfold emptyBlock at h
    split at h
    · next rest =>
      dsimp only at h
      rw [Option.ite_none_right_eq_some, Option.some.injEq] at h
      obtain ⟨htests, rfl⟩ := h
      simp only [Bool.and_eq_true, beq_iff_eq, Bool.not_eq_true', List.contains_iff_mem] at htests
      obtain ⟨⟨⟨hclose, hsemicolon⟩, hdeclares⟩, haccessor⟩ := htests
      obtain ⟨after, hafter⟩ := List.head?_eq_some_iff.mp hclose
      refine ⟨after, ?_, ?_, hsemicolon, hasAccessor_eq_false_iff.mp haccessor,
        declares_reverse_iff.mp hdeclares⟩
      · rw [← hafter, List.takeWhile_append_dropWhile]
      · intro c hc
        exact isBlockChar_iff.mp (List.all_eq_true.mp List.all_takeWhile c hc)
    · cases h
  · rintro ⟨after, rfl, hblock⟩
    have hmembers : ∀ c ∈ body, isBlockChar c = true :=
      fun c hc => isBlockChar_iff.mpr (hblock.members c hc)
    have hstop : ∀ c, ('}' :: after).head? = some c → isBlockChar c = false := by
      rintro c ⟨⟩
      decide
    have haccessor := hasAccessor_eq_false_iff.mpr hblock.noAccessor
    have hdeclares := declares_reverse_iff.mpr hblock.declaration
    simp [emptyBlock, Line.takeWhile_append_eq hmembers hstop,
      Line.dropWhile_append_eq hmembers hstop, hblock.semicolon, haccessor, hdeclares]

/-- No block stands within another. -/
theorem isolated_emptyBlock : Reader.Isolated (fun body => body.length + 2) emptyBlock := by
  intro before passed rest found later hpassed hfound hlater
  obtain ⟨after, htext, hblock⟩ := @emptyBlock_eq_some_iff before.reverse _ _ |>.mp
    (by rwa [List.reverse_reverse])
  obtain ⟨after', rfl, -⟩ := @emptyBlock_eq_some_iff (before.reverse ++ passed) _ _ |>.mp
    (by rwa [List.reverse_append, List.reverse_reverse])
  show found.length + 2 ≤ passed.length
  by_contra hwithin
  -- The opening brace of the second block would be in the inside of the first or at its end.
  obtain ⟨c, passed, rfl⟩ := List.exists_cons_of_ne_nil hpassed
  rw [List.length_cons] at hwithin
  have hlt : passed.length < (found ++ ['}']).length := by
    rw [List.length_append, List.length_singleton]
    omega
  have hbrace : (found ++ ['}'])[passed.length]? = some '{' := by
    have hat : (passed ++ '{' :: (later ++ '}' :: after'))[passed.length]? = some '{' := by simp
    rw [List.cons_append, List.cons.injEq] at htext
    rw [htext.2, ← List.singleton_append, ← List.append_assoc,
      List.getElem?_append_left hlt] at hat
    exact hat
  have hmem := List.mem_of_getElem? hbrace
  rw [List.mem_append, List.mem_singleton] at hmem
  rcases hmem with hmem | hmem
  · have hchar := isBlockChar_iff.mpr (hblock.members '{' hmem)
    exact absurd hchar (by decide)
  · exact absurd hmem (by decide)

/-- The blocks that are found in a line are those that stand in it. -/
theorem mem_findAll_emptyBlock_iff {line : Line} {column : Nat} {body : List Char} :
    (column, body) ∈ Line.findAll (fun body => body.length + 2) emptyBlock line ↔
      ∃ before after, line = before ++ '{' :: (body ++ '}' :: after) ∧ before.length = column ∧
        IsEmptyBlock before body := by
  rw [isolated_emptyBlock.mem_findAll_iff (fun _ => rfl)]
  constructor
  · rintro ⟨passed, rest, rfl, hcolumn, hread⟩
    obtain ⟨after, rfl, hblock⟩ := emptyBlock_eq_some_iff.mp hread
    exact ⟨passed, after, rfl, hcolumn.symm, hblock⟩
  · rintro ⟨before, after, rfl, rfl, hblock⟩
    exact ⟨before, _, rfl, rfl, emptyBlock_eq_some_iff.mpr ⟨after, rfl, hblock⟩⟩

end Property

/-! ## The rule -/

/-- The rule for properties reports the blocks of a line that lack a getter and a setter, all of
them and nothing else, from left to right and from brace to brace. -/
theorem run_emptyProperty (line : Line) (index : Nat) (document : Document) :
    ∃ blocks : List (Nat × Nat),
      (∀ first last, (first, last) ∈ blocks ↔ Property.IsEmptyBlockAt line first last) ∧
      blocks.Pairwise (fun a b => a.1 < b.1) ∧
      ∃ ds, LineRule.emptyProperty.run line index document = .ok ds ∧
        (∀ d ∈ ds, d = Spec.emptyProperty.at d.range) ∧
        ds.map (fun d => (d.range.start, d.range.stop)) =
          blocks.map fun block => (⟨index, block.1⟩, ⟨index, block.2 + 1⟩) := by
  let found := Line.findAll (fun body => body.length + 2) Property.emptyBlock line
  refine ⟨found.map fun block => (block.1, block.1 + 1 + block.2.length), ?_, ?_, ?_⟩
  · intro first last
    simp only [List.mem_map, Prod.exists, Prod.mk.injEq, found,
      Property.mem_findAll_emptyBlock_iff]
    constructor
    · rintro ⟨column, body, ⟨before, after, rfl, rfl, hblock⟩, rfl, rfl⟩
      exact ⟨before, body, after, rfl, rfl, rfl, hblock⟩
    · rintro ⟨before, body, after, rfl, rfl, rfl, hblock⟩
      exact ⟨before.length, body, ⟨before, after, rfl, rfl, hblock⟩, rfl, rfl⟩
  · rw [List.pairwise_map]
    exact Line.findAll_pairwise _ _ _
  · have hfindings : LineRule.emptyProperty.findings line index document =
        LineRule.spans (found.map fun block => ⟨block.1, block.2.length + 2⟩) := rfl
    obtain ⟨ds, hrun, hspec, hranges⟩ := LineRule.run_of_spans hfindings
    refine ⟨ds, hrun, hspec, ?_⟩
    rw [hranges, List.map_map, List.map_map]
    refine List.map_congr_left fun block _ => ?_
    have hstop : block.1 + (block.2.length + 2) = block.1 + 1 + block.2.length + 1 := by omega
    show (Position.mk index block.1, Position.mk index (block.1 + (block.2.length + 2))) = _
    rw [hstop]
    rfl

end ScriptLint
