import ScriptLint.Proofs.Rule.Spans
import ScriptLint.Proofs.Scan.Report
import ScriptLint.Proofs.Text.Runs

/-!
# Which declaration of a line is judged, and how

Four rules look at the names that a line declares. `DeclarationKind` has what is particular to each:
the keyword, the characters of a name, what has to follow it and which names are accepted. A
declaration occurs where the keyword begins a word and white space, a name and what is to follow
stand behind it (`DeclarationKind.Occurs`).

A reader takes the longest white space and then the longest name, and only then looks at what
follows. That loses no occurrence, since a name cannot go on into what follows it
(`not_isPart_of_follows`), nor white space into a name (`isSpace_eq_false_of_isPart`); so a
declaration is read exactly where it occurs (`declaration_eq_some_iff`). The name of an occurrence
is a maximal run of its characters (`Occurs.isRun`), what the search finds is the leftmost
occurrence (`declared?_eq_some_iff`), and the rule reports its name unless it is accepted
(`run_declaration`).
-/

namespace ScriptLint

/-! ## Characters of names and between them -/

/-- White space is no character of a word. -/
theorem isWordChar_eq_false_of_isSpace {c : Char} (h : isSpace c = true) :
    isWordChar c = false := by
  simp only [isSpace, Bool.or_eq_true, beq_iff_eq, Bool.and_eq_true, decide_eq_true_eq] at h
  rcases h with rfl | ⟨-, hle⟩
  · decide
  · -- The characters of words come after the control characters.
    have hsmall : ∀ first : Char, 13 < first.toNat → ¬ first ≤ c := by
      intro first hfirst hlow
      have hlow' : first.toNat ≤ c.toNat := hlow
      omega
    have hunderscore : c ≠ '_' := by
      rintro rfl
      exact absurd hle (by decide)
    simp [isWordChar, isLower, isUpper, isDigit, hsmall 'a' (by decide), hsmall 'A' (by decide),
      hsmall '0' (by decide), hunderscore]

/-- White space is no symbol of an operator. -/
theorem isOperatorSymbol_eq_false_of_isSpace {c : Char} (h : isSpace c = true) :
    Form.isOperatorSymbol c = false := by
  have hnone : (['+', '-', '*', '/', '%', '=', '<', '>', '!', '&', '|', '^', '~'].all
      fun symbol => !isSpace symbol) = true := by decide
  by_contra hsymbol
  rw [Bool.not_eq_false, Form.isOperatorSymbol, List.contains_iff_mem] at hsymbol
  have hspace := List.all_eq_true.mp hnone c hsymbol
  rw [h] at hspace
  cases hspace

/-! ## What is to be judged -/

/-- The declarations whose names are judged. -/
inductive DeclarationKind where
  | query
  | function
  | struct
  | operator
  deriving DecidableEq, Repr

namespace DeclarationKind

/-- The rule that judges the names. -/
def rule : DeclarationKind → LineRule
  | .query => .queryVariable
  | .function => .functionName
  | .struct => .structName
  | .operator => .operatorOverload

/-- The keyword that a declaration begins with. -/
def keyword : DeclarationKind → List Char
  | .query => "from".toList
  | .function => "function".toList
  | .struct => "struct".toList
  | .operator => "operator".toList

/-- A character of a name. -/
def isPart : DeclarationKind → Char → Bool
  | .query | .function | .struct => isWordChar
  | .operator => "+-*/%=<>!&|^~".toList.contains

/-- What stands behind the name of a declaration: in a query, its source; behind the name of a
function or an operator, its parameters; behind that of a struct, anything that ends the name. -/
def Follows : DeclarationKind → List Char → Prop
  | .query, after => ∃ gap c rest, after = gap ++ 'i' :: 'n' :: c :: rest ∧
      (gap ≠ [] ∧ ∀ d ∈ gap, isSpace d = true) ∧ isSpace c = true
  | .function, after | .operator, after => ∃ gap rest, after = gap ++ '(' :: rest ∧
      ∀ d ∈ gap, isSpace d = true
  | .struct, after => ∀ c, after.head? = some c → isWordChar c = false

/-- The name is accepted. -/
def Accepts : DeclarationKind → List Char → Prop
  | .query, name | .function, name => ∀ c, name.head? = some c → isDigit c = false
  | .struct, name => ∃ c, name.head? = some c ∧ isUpper c = true
  | .operator, name => String.ofList name ∈ overloadable

/-- The message about a name that is not accepted, if it is not the usual one. -/
def message? : DeclarationKind → List Char → Option String
  | .query, _ | .function, _ | .struct, _ => none
  | .operator, name => some ("Invalid operator \"" ++ String.ofList name ++
      "\" for overloading. Valid operators: " ++
      "+, -, *, /, %, ==, !=, <, >, <=, >=, &&, ||, &, |, ^, ~, <<, >>, +=, -=, *=, /=, %=")

/-- Between the texts `before` and `after` of a line, the keyword, a gap and a name declare the
name. -/
structure Occurs (kind : DeclarationKind) (before gap name after : List Char) : Prop where
  /-- The keyword is not the end of a longer word. -/
  begins : ∀ c, before.getLast? = some c → isWordChar c = false
  gap_ne_nil : gap ≠ []
  gap_spaces : ∀ c ∈ gap, isSpace c = true
  name_ne_nil : name ≠ []
  name_parts : ∀ c ∈ name, kind.isPart c = true
  follows : kind.Follows after

/-- A declaration occurs at a column of a line, and its name begins at the column `start`. -/
def OccursAt (kind : DeclarationKind) (line : Line) (column start : Nat) (name : List Char) :
    Prop :=
  ∃ before gap after, line = before ++ (kind.keyword ++ (gap ++ (name ++ after))) ∧
    before.length = column ∧ (before ++ (kind.keyword ++ gap)).length = start ∧
    kind.Occurs before gap name after

/-! ## Where a declaration is read -/

/-- The form in which the declarations are read. -/
def form : DeclarationKind → Form
  | .query => .query
  | .function => .function
  | .struct => .struct
  | .operator => .operator

variable {kind : DeclarationKind} {before gap name after text : List Char}

/-- The form has the keyword. -/
theorem form_keyword (kind : DeclarationKind) : kind.form.keyword = kind.keyword := by
  cases kind <;> rfl

/-- The form has the characters of names. -/
theorem form_isNamePart (kind : DeclarationKind) : kind.form.isNamePart = kind.isPart := by
  cases kind <;> rfl

/-- White space is no character of a name. -/
theorem isPart_eq_false_of_isSpace (kind : DeclarationKind) {c : Char} (h : isSpace c = true) :
    kind.isPart c = false := by
  cases kind with
  | query | function | struct => exact isWordChar_eq_false_of_isSpace h
  | operator => exact isOperatorSymbol_eq_false_of_isSpace h

/-- A character of a name is no white space. -/
theorem isSpace_eq_false_of_isPart {c : Char} (h : kind.isPart c = true) : isSpace c = false := by
  by_contra hspace
  rw [kind.isPart_eq_false_of_isSpace (Bool.not_eq_false _ ▸ hspace)] at h
  cases h

/-- Neither white space nor a parenthesis behind it begins with a character of a name. -/
theorem not_isPart_of_gap {c d : Char} {rest : List Char} (hgap : ∀ d ∈ gap, isSpace d = true)
    (hd : kind.isPart d = false) (hc : (gap ++ d :: rest).head? = some c) :
    kind.isPart c = false := by
  cases gap with
  | nil =>
    rw [List.nil_append, List.head?_cons, Option.some.injEq] at hc
    exact hc ▸ hd
  | cons e gap =>
    rw [List.cons_append, List.head?_cons, Option.some.injEq] at hc
    exact hc ▸ kind.isPart_eq_false_of_isSpace (hgap e List.mem_cons_self)

/-- What follows a name does not go on with it. -/
theorem not_isPart_of_follows (h : kind.Follows after) {c : Char} (hc : after.head? = some c) :
    kind.isPart c = false := by
  cases kind with
  | query =>
    obtain ⟨gap, d, rest, rfl, ⟨hne, hgap⟩, -⟩ := h
    -- There is white space, so what follows begins with it.
    obtain ⟨e, gap, rfl⟩ := List.exists_cons_of_ne_nil hne
    rw [List.cons_append, List.head?_cons, Option.some.injEq] at hc
    exact hc ▸ isPart_eq_false_of_isSpace _ (hgap e List.mem_cons_self)
  | function | operator =>
    obtain ⟨gap, rest, rfl, hgap⟩ := h
    exact not_isPart_of_gap hgap (by decide) hc
  | struct => exact h c hc

/-- The source of a query stands behind white space. -/
theorem drawsFromSource_iff : Form.drawsFromSource after = true ↔ query.Follows after := by
  constructor
  · intro h
    unfold Form.drawsFromSource at h
    split at h
    · next c rest hdrop =>
      rw [Bool.and_eq_true, Bool.not_eq_true', List.isEmpty_eq_false_iff] at h
      have hsplit := List.takeWhile_append_dropWhile (p := isSpace) (l := after)
      rw [hdrop] at hsplit
      exact ⟨after.takeWhile isSpace, c, rest, hsplit.symm,
        ⟨h.1, List.all_eq_true.mp List.all_takeWhile⟩, h.2⟩
    · cases h
  · rintro ⟨gap, c, rest, rfl, ⟨hne, hgap⟩, hc⟩
    have hstop : ∀ d, ('i' :: 'n' :: c :: rest).head? = some d → isSpace d = false := by
      rintro d ⟨⟩
      decide
    simp [Form.drawsFromSource, Line.dropWhile_append_eq hgap hstop,
      Line.takeWhile_append_eq hgap hstop, hne, hc]

/-- The parameters of a function or an operator stand behind white space or directly. -/
theorem opensParameters_iff : Form.opensParameters after = true ↔
    ∃ gap rest, after = gap ++ '(' :: rest ∧ ∀ d ∈ gap, isSpace d = true := by
  rw [Form.opensParameters, beq_iff_eq, Line.head?_dropWhile_eq_some_iff (by decide)]

/-- Behind a name that does not go on, the form continues with what has to follow. -/
theorem continues_iff (hend : ∀ c, after.head? = some c → kind.isPart c = false) :
    kind.form.continues after = true ↔ kind.Follows after := by
  cases kind with
  | query => exact drawsFromSource_iff
  | function | operator => exact opensParameters_iff
  | struct => exact ⟨fun _ => hend, fun _ => rfl⟩

/-- A word can begin where no character of a word stands before. -/
theorem startsWord_reverse_iff :
    Line.startsWord before.reverse = true ↔
      ∀ c, before.getLast? = some c → isWordChar c = false := by
  rw [Line.startsWord, Bool.not_eq_true', Line.any_head?_reverse_eq_false_iff]

/-- The reader takes apart what an occurrence is made of. -/
theorem Occurs.declaration_eq (h : kind.Occurs before gap name after) :
    kind.form.declaration before.reverse (kind.keyword ++ (gap ++ (name ++ after))) =
      some ⟨(kind.keyword ++ gap).length, name⟩ := by
  have hkeyword : (Line.startsWord before.reverse &&
      kind.keyword.isPrefixOf (kind.keyword ++ (gap ++ (name ++ after)))) = true := by
    rw [startsWord_reverse_iff.mpr h.begins, Bool.true_and, List.isPrefixOf_iff_prefix]
    exact List.prefix_append _ _
  -- White space ends with the first character of the name, and the name with what follows.
  have hgap : ∀ c, (name ++ after).head? = some c → isSpace c = false := by
    obtain ⟨d, rest, rfl⟩ := List.exists_cons_of_ne_nil h.name_ne_nil
    rintro c ⟨⟩
    exact isSpace_eq_false_of_isPart (h.name_parts d List.mem_cons_self)
  have hname : ∀ c, after.head? = some c → kind.isPart c = false :=
    fun c => not_isPart_of_follows h.follows
  have hcontinues := (continues_iff hname).mpr h.follows
  have hparts : (gap.isEmpty || name.isEmpty || !kind.form.continues after) = false := by
    rw [List.isEmpty_eq_false_iff.mpr h.gap_ne_nil, List.isEmpty_eq_false_iff.mpr h.name_ne_nil,
      hcontinues]
    rfl
  rw [Form.declaration, form_keyword, form_isNamePart, if_pos hkeyword]
  dsimp only
  rw [List.drop_left, Line.takeWhile_append_eq h.gap_spaces hgap,
    Line.dropWhile_append_eq h.gap_spaces hgap, Line.takeWhile_append_eq h.name_parts hname,
    Line.dropWhile_append_eq h.name_parts hname, if_neg (by simp [hparts]), List.length_append]

/-- A declaration is read exactly where it occurs. -/
theorem declaration_eq_some_iff {found : Declared} :
    kind.form.declaration before.reverse text = some found ↔
      ∃ gap after, text = kind.keyword ++ (gap ++ (found.name ++ after)) ∧
        found.offset = (kind.keyword ++ gap).length ∧ kind.Occurs before gap found.name after := by
  constructor
  · intro h
    simp only [Form.declaration, form_keyword, form_isNamePart, Option.ite_none_right_eq_some,
      Option.ite_none_left_eq_some, Bool.and_eq_true, List.isPrefixOf_iff_prefix, Bool.or_eq_true,
      not_or, Bool.not_eq_true, Bool.not_eq_false', Option.some.injEq] at h
    obtain ⟨⟨hbegins, rest, rfl⟩, ⟨⟨hgap, hname⟩, hcontinues⟩, rfl⟩ := h
    rw [List.drop_left] at hgap hname hcontinues ⊢
    have hend : ∀ c, ((rest.dropWhile isSpace).dropWhile kind.isPart).head? = some c →
        kind.isPart c = false := fun c => Line.not_of_head?_dropWhile
    refine ⟨rest.takeWhile isSpace, (rest.dropWhile isSpace).dropWhile kind.isPart, ?_, ?_, ?_⟩
    · rw [List.takeWhile_append_dropWhile, List.takeWhile_append_dropWhile]
    · rw [List.length_append]
    · exact {
        begins := startsWord_reverse_iff.mp hbegins
        gap_ne_nil := List.isEmpty_eq_false_iff.mp hgap
        gap_spaces := List.all_eq_true.mp List.all_takeWhile
        name_ne_nil := List.isEmpty_eq_false_iff.mp hname
        name_parts := List.all_eq_true.mp List.all_takeWhile
        follows := (continues_iff hend).mp hcontinues }
  · rintro ⟨gap, after, rfl, hoffset, hoccurs⟩
    rw [hoccurs.declaration_eq, ← hoffset]

/-- The name of an occurrence is a maximal run of characters of names. -/
theorem Occurs.isRun (h : kind.Occurs before gap name after) :
    Line.IsRun kind.isPart (before ++ (kind.keyword ++ gap)) name after where
  nonempty := h.name_ne_nil
  members := h.name_parts
  begins := by
    intro c hc
    -- The gap is not empty, so the character before the name is white space.
    have hlast : (before ++ (kind.keyword ++ gap)).getLast? = gap.getLast? := by
      obtain ⟨d, hd⟩ : ∃ d, gap.getLast? = some d := ⟨_, List.getLast?_eq_some_getLast h.gap_ne_nil⟩
      rw [List.getLast?_append, List.getLast?_append, hd, Option.some_or, Option.some_or]
    rw [hlast] at hc
    exact kind.isPart_eq_false_of_isSpace (h.gap_spaces c (List.mem_of_getLast? hc))
  ends := fun _ => not_isPart_of_follows h.follows

/-! ## The leftmost declaration -/

variable {line : Line} {column start : Nat}

/-- There is no declaration at the end of a line. -/
theorem declaration_nil (before : List Char) : kind.form.declaration before [] = none := by
  cases kind <;>
    simp [form, Form.declaration, Form.query, Form.function, Form.struct, Form.operator]

/-- A declaration is read at a column exactly when it occurs there. -/
theorem takesAt_declaration_iff {found : Declared} :
    Reader.TakesAt kind.form.declaration line column found ↔
      kind.OccursAt line column (column + found.offset) found.name := by
  constructor
  · rintro ⟨passed, rest, rfl, rfl, hread⟩
    obtain ⟨gap, after, rfl, hoffset, hoccurs⟩ := declaration_eq_some_iff.mp hread
    refine ⟨passed, gap, after, rfl, rfl, ?_, hoccurs⟩
    rw [hoffset, List.length_append]
  · rintro ⟨before, gap, after, rfl, rfl, hstart, hoccurs⟩
    refine ⟨before, _, rfl, rfl, declaration_eq_some_iff.mpr ⟨gap, after, rfl, ?_, hoccurs⟩⟩
    rw [List.length_append] at hstart
    omega

/-- A name begins behind its keyword, so it is at an offset from the column of the declaration. -/
theorem OccursAt.exists_declared (h : kind.OccursAt line column start name) :
    ∃ found : Declared, column + found.offset = start ∧ found.name = name := by
  obtain ⟨before, gap, after, -, rfl, rfl, -⟩ := h
  exact ⟨⟨(kind.keyword ++ gap).length, name⟩, List.length_append.symm, rfl⟩

/-- No declaration is read at a column exactly when none occurs there. -/
theorem forall_not_takesAt_declaration_iff :
    (∀ found, ¬ Reader.TakesAt kind.form.declaration line column found) ↔
      ∀ start name, ¬ kind.OccursAt line column start name := by
  constructor
  · intro hnone start name hoccurs
    obtain ⟨found, rfl, rfl⟩ := hoccurs.exists_declared
    exact hnone found (takesAt_declaration_iff.mpr hoccurs)
  · intro hnone found hread
    exact hnone _ _ (takesAt_declaration_iff.mp hread)

/-- No declaration is found exactly when none occurs. -/
theorem declared?_eq_none_iff : kind.form.declared? line = none ↔
    ∀ column start name, ¬ kind.OccursAt line column start name := by
  rw [Form.declared?, Option.map_eq_none_iff, Reader.findFirst?_eq_none_iff_takesAt declaration_nil]
  exact forall_congr' fun column => forall_not_takesAt_declaration_iff

/-- The declaration that is found is the one that occurs leftmost. -/
theorem declared?_eq_some_iff : kind.form.declared? line = some (⟨start, name.length⟩, name) ↔
    ∃ column, kind.OccursAt line column start name ∧
      ∀ earlier < column, ∀ start name, ¬ kind.OccursAt line earlier start name := by
  have hleft : ∀ column,
      (∀ earlier < column, ∀ found,
        ¬ Reader.TakesAt kind.form.declaration line earlier found) ↔
      ∀ earlier < column, ∀ start name, ¬ kind.OccursAt line earlier start name :=
    fun column => forall₂_congr fun earlier _ => forall_not_takesAt_declaration_iff
  rw [Form.declared?, Option.map_eq_some_iff]
  constructor
  · rintro ⟨⟨column, found⟩, hfound, hspan⟩
    obtain ⟨htakes, hnone⟩ := (Reader.findFirst?_eq_some_iff_takesAt declaration_nil).mp hfound
    simp only [Prod.mk.injEq, Span.mk.injEq] at hspan
    obtain ⟨⟨rfl, -⟩, rfl⟩ := hspan
    exact ⟨column, takesAt_declaration_iff.mp htakes, (hleft column).mp hnone⟩
  · rintro ⟨column, hoccurs, hnone⟩
    obtain ⟨found, rfl, rfl⟩ := hoccurs.exists_declared
    have hfound := (Reader.findFirst?_eq_some_iff_takesAt declaration_nil).mpr
      ⟨takesAt_declaration_iff.mpr hoccurs, (hleft column).mpr hnone⟩
    exact ⟨_, hfound, rfl⟩

/-! ## The rules -/

/-- Whether the rule accepts a name. -/
def accepts : DeclarationKind → List Char → Bool
  | .query | .function => isIdentifier
  | .struct => isPascalCase
  | .operator => fun name => overloadable.contains (String.ofList name)

/-- A name is judged by its first character, or looked up if it is an operator. -/
theorem accepts_iff (hne : name ≠ []) (hparts : ∀ c ∈ name, kind.isPart c = true) :
    kind.accepts name = true ↔ kind.Accepts name := by
  obtain ⟨c, rest, rfl⟩ := List.exists_cons_of_ne_nil hne
  cases kind with
  | query | function =>
    have hword : (c :: rest).all isWordChar = true := List.all_eq_true.mpr hparts
    rw [accepts, LineRule.isIdentifier_cons hword]
    simp [Accepts]
  | struct =>
    have hword : (c :: rest).all isWordChar = true := List.all_eq_true.mpr hparts
    rw [accepts, LineRule.isPascalCase_cons hword]
    simp [Accepts]
  | operator => exact List.contains_iff_mem

/-- What a rule for names finds: the leftmost name, unless it is accepted. -/
def finding? (kind : DeclarationKind) (line : Line) : Option Finding :=
  ((kind.form.declared? line).filter fun found => !kind.accepts found.2).map fun found =>
    ⟨found.1.columns, kind.message? found.2⟩

/-- The name that is found is the leftmost one, unless it is acceptable. -/
theorem badName?_eq_filter (form : Form) (acceptable : List Char → Bool) (line : Line) :
    LineRule.badName? form acceptable line =
      ((form.declared? line).filter fun found => !acceptable found.2).map Prod.fst := by
  rw [LineRule.badName?]
  cases form.declared? line with
  | none => rfl
  | some found =>
    by_cases haccepted : acceptable found.2 = true <;> simp [haccepted, Option.filter]

/-- The four rules find the leftmost name unless it is accepted. -/
theorem findings_eq (kind : DeclarationKind) (line : Line) (index : Int) (document : Document) :
    kind.rule.findings line index document = (kind.finding? line).toList.map .ok := by
  -- Three of the rules have the usual message.
  have hnames : ∀ form acceptable,
      LineRule.spans (LineRule.badName? form acceptable line).toList =
        (((form.declared? line).filter fun found => !acceptable found.2).map fun found =>
          (⟨found.1.columns, none⟩ : Finding)).toList.map .ok := by
    intro form acceptable
    rw [badName?_eq_filter, LineRule.spans, LineRule.certain, ← Option.toList_map,
      ← Option.toList_map, ← Option.toList_map, Option.map_map, Option.map_map, Option.map_map]
    rfl
  cases kind with
  | query => exact hnames .query isIdentifier
  | function => exact hnames .function isIdentifier
  | struct => exact hnames .struct isPascalCase
  | operator =>
    have hoperator : LineRule.badOperator? line = operator.finding? line := by
      rw [LineRule.badOperator?, finding?]
      show _ = ((Form.operator.declared? line).filter _).map _
      cases Form.operator.declared? line with
      | none => rfl
      | some found =>
        by_cases haccepted : String.ofList found.2 ∈ overloadable
        · simp [accepts, haccepted, Option.filter]
        · simp [accepts, message?, haccepted, Option.filter, LineRule.overloadMessage_eq]
    rw [rule, LineRule.findings, hoperator]

end DeclarationKind

/-- The rules for names report nothing on a line without a declaration of their kind. Otherwise the
leftmost declaration is judged: its name is a maximal run of characters of names, and is reported,
and nothing else is, unless it is accepted. -/
theorem run_declaration (kind : DeclarationKind) (line : Line) (index : Nat) (document : Document) :
    ((∀ column start name, ¬ kind.OccursAt line column start name) →
      kind.rule.run line index document = .ok []) ∧
    ∀ column start name, kind.OccursAt line column start name →
      (∀ earlier < column, ∀ start name, ¬ kind.OccursAt line earlier start name) →
      Line.IsRunAt kind.isPart line start name ∧
      (kind.Accepts name → kind.rule.run line index document = .ok []) ∧
      (¬ kind.Accepts name → ∃ d, kind.rule.run line index document = .ok [d] ∧
        d = kind.rule.spec.at d.range (kind.message? name) ∧
        d.range.start = ⟨index, start⟩ ∧ d.range.stop = ⟨index, start + name.length⟩) := by
  have hrun := LineRule.run_of_findings (kind.findings_eq line index document)
  constructor
  · intro hnone
    rw [hrun, DeclarationKind.finding?, DeclarationKind.declared?_eq_none_iff.mpr hnone]
    rfl
  · intro column start name hoccurs hleft
    have hdeclared := DeclarationKind.declared?_eq_some_iff.mpr ⟨column, hoccurs, hleft⟩
    obtain ⟨before, gap, after, hline, -, hstart, hparts⟩ := hoccurs
    have haccepts := DeclarationKind.accepts_iff hparts.name_ne_nil hparts.name_parts
    rw [DeclarationKind.finding?, hdeclared, Option.filter_some] at hrun
    refine ⟨⟨_, after, ?_, hstart, hparts.isRun⟩, fun haccepted => ?_, fun hrejected => ?_⟩
    · rw [hline]
      simp only [List.append_assoc]
    · rw [hrun, haccepts.mpr haccepted]
      rfl
    · have hnot : kind.accepts name = false := by
        rw [← Bool.not_eq_true, haccepts]
        exact hrejected
      refine ⟨kind.rule.spec.at (.onLine index ⟨start, name.length⟩) (kind.message? name), ?_, rfl,
        rfl, rfl⟩
      rw [hrun, hnot, ← Finding.on_columns]
      rfl

/-- Neither a keyword without a name nor the end of a longer word declares a function, so the third
name is the one that is reported. -/
theorem run_declaration_third_keyword :
    let line := "function (x) myfunction 2a() function 9lives (y)".toList
    ∃ column, DeclarationKind.function.OccursAt line column 38 "9lives".toList ∧
      (∀ earlier < column, ∀ start name,
        ¬ DeclarationKind.function.OccursAt line earlier start name) ∧
      ¬ DeclarationKind.function.Accepts "9lives".toList ∧
      ∃ d, LineRule.functionName.run line 0 (.ofText "") = .ok [d] ∧
        d.range.start = ⟨0, 38⟩ ∧ d.range.stop = ⟨0, 44⟩ := by
  intro line
  have hdeclared : DeclarationKind.function.form.declared? line =
      some (⟨38, "9lives".toList.length⟩, "9lives".toList) := rfl
  obtain ⟨column, hoccurs, hleft⟩ := DeclarationKind.declared?_eq_some_iff.mp hdeclared
  have hrejected : ¬ DeclarationKind.function.Accepts "9lives".toList :=
    fun h => absurd (h '9' rfl) (by decide)
  obtain ⟨-, -, hreported⟩ :=
    (run_declaration .function line 0 (.ofText "")).2 column 38 _ hoccurs hleft
  obtain ⟨d, hrun, -, hstart, hstop⟩ := hreported hrejected
  exact ⟨column, hoccurs, hleft, hrejected, d, hrun, hstart, hstop⟩

end ScriptLint
