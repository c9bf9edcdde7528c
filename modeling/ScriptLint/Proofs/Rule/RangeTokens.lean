import Mathlib.Data.List.Basic
import ScriptLint.Proofs.Scan.Report

/-!
# Which ranges a line has, and which of them descend

A line is read from left to right over its runs of digits. `RangeToken.Reading` says what is to be
read: a run begins a range if two dots and a bound follow it, and is passed over if not, and reading
goes on behind the range. As the upper bound of one range may look like the lower bound of another,
what is read depends on what was read before; still every line has exactly one reading
(`existsUnique_reading`), which is what the search with `RangeToken.read` gives (`reading_tokens`,
`tokens_eq_of_reading`).

Of the ranges that are read, the rule reports those whose lower bound is not below the upper one
(`run_backwardRange`). Bounds are compared as numbers, by the places of their digits
(`Numeral.magnitude`).
-/

namespace ScriptLint

namespace RangeToken

/-! ## What is to be read -/

/-- The token stands between the texts `before` and `rest` of a line. Its bounds are runs of
digits, and an open range has an underscore in place of the upper one. -/
inductive Stands (before rest : List Char) : RangeToken → Prop where
  | closed {lower upper : List Char}
      (hlower : Line.IsRun isDigit before lower ('.' :: '.' :: (upper ++ rest)))
      (hupper : Line.IsRun isDigit (before ++ lower ++ ['.', '.']) upper rest) :
      Stands before rest ⟨lower, some upper⟩
  | openEnded {lower : List Char}
      (hlower : Line.IsRun isDigit before lower ('.' :: '.' :: '_' :: rest)) :
      Stands before rest ⟨lower, none⟩

/-- Two dots and a bound follow. -/
def BoundFollows (rest : List Char) : Prop :=
  ∃ c tail, rest = '.' :: '.' :: c :: tail ∧ (isDigit c = true ∨ c = '_')

/-- Reading a text that stands behind `before` from left to right gives the tokens, each with its
column. -/
inductive Reading : (before text : List Char) → List (Nat × RangeToken) → Prop where
  | stop (before : List Char) : Reading before [] []
  | pass {before rest : List Char} {c : Char} {tokens : List (Nat × RangeToken)}
      (hc : isDigit c = false) (hrest : Reading (before ++ [c]) rest tokens) :
      Reading before (c :: rest) tokens
  | token {before rest : List Char} {token : RangeToken} {tokens : List (Nat × RangeToken)}
      (htoken : token.Stands before rest) (hrest : Reading (before ++ token.text) rest tokens) :
      Reading before (token.text ++ rest) ((before.length, token) :: tokens)
  | skip {before digits rest : List Char} {tokens : List (Nat × RangeToken)}
      (hdigits : Line.IsRun isDigit before digits rest) (hplain : ¬ BoundFollows rest)
      (hrest : Reading (before ++ digits) rest tokens) :
      Reading before (digits ++ rest) tokens

/-- The range has an upper bound, and it is not above the lower one. -/
def descends (token : RangeToken) : Bool :=
  token.upper.any fun upper => Numeral.magnitude upper ≤ Numeral.magnitude token.lower

/-! ## One step of the search -/

variable {before rest : List Char} {token : RangeToken} {tokens : List (Nat × RangeToken)}

/-- A token begins with its lower bound, so its text is not empty. -/
theorem Stands.text_ne_nil (h : token.Stands before rest) : token.text ≠ [] := by
  cases h with
  | closed hlower hupper => exact List.append_ne_nil_of_left_ne_nil hlower.nonempty _
  | openEnded hlower => exact List.append_ne_nil_of_left_ne_nil hlower.nonempty _

/-- No upper bound is read where neither a digit nor an underscore stands. -/
theorem readUpper_eq_none {before rest : List Char}
    (hplain : ∀ c, rest.head? = some c → isDigit c = false ∧ c ≠ '_') :
    readUpper before rest = none := by
  have hnumeral : Line.takeSome isDigit (fun taken _ _ => some taken.reverse) [] before rest =
      none := by
    cases rest with
    | nil => rfl
    | cons c rest => rw [Line.takeSome, if_neg (by simp [(hplain c rfl).1])]
  have hopen : rest.head? ≠ some '_' := fun hhead => (hplain '_' hhead).2 rfl
  rw [readUpper, hnumeral]
  exact if_neg hopen

/-- A run of digits is read as an upper bound. -/
theorem readUpper_of_isRun {before front upper rest : List Char}
    (h : Line.IsRun isDigit front upper rest) :
    readUpper before (upper ++ rest) = some (some upper) := by
  have htake := Line.takeWhile_append_eq h.members h.ends
  have hread : Line.takeSome isDigit (fun taken _ _ => some taken.reverse) [] before
      (upper ++ rest) = some upper := by
    refine Line.takeSome_of_takeWhile (by rw [htake]; exact h.nonempty) ?_
    rw [htake, List.append_nil, List.reverse_reverse]
  rw [readUpper, hread]

/-- With two dots and an upper bound behind it, a run of digits is read as a lower bound. -/
theorem read_of_isRun {digits tail : List Char} {upper : Option (List Char)}
    (h : Line.IsRun isDigit before digits ('.' :: '.' :: tail))
    (hupper : ∀ before, readUpper before tail = some upper) :
    read before.reverse (digits ++ '.' :: '.' :: tail) = some ⟨digits, upper⟩ := by
  have htake := Line.takeWhile_append_eq h.members h.ends
  refine Line.takeSome_of_takeWhile (by rw [htake]; exact h.nonempty) ?_
  rw [htake, Line.dropWhile_append_eq h.members h.ends]
  simp [hupper]

/-- A token is read where it stands. -/
theorem Stands.read_eq (h : token.Stands before rest) :
    read before.reverse (token.text ++ rest) = some token := by
  cases h with
  | @closed lower upper hlower hupper =>
    rw [← read_of_isRun hlower fun _ => readUpper_of_isRun hupper, text]
    simp only [Option.getD_some, List.append_assoc, List.cons_append]
  | @openEnded lower hlower =>
    have hopen : ∀ before, readUpper before ('_' :: rest) = some none := fun _ => rfl
    rw [← read_of_isRun hlower hopen, text]
    simp only [Option.getD_none, List.append_assoc, List.cons_append, List.nil_append]

/-- Nothing is read at digits that no bound follows, wherever one begins in them. -/
theorem read_eq_none_of_not_boundFollows {before digits : List Char}
    (hdigits : ∀ c ∈ digits, isDigit c = true) (hends : ∀ c, rest.head? = some c → isDigit c = false)
    (hplain : ¬ BoundFollows rest) : read before (digits ++ rest) = none := by
  rw [read, Line.takeSome_eq_none_iff]
  intro lower tail hsplit hne hlower
  split
  · -- Two dots follow what was taken, which is then all of the digits.
    next tail =>
    have htail : rest = '.' :: '.' :: tail := by
      have hdot : isDigit '.' = false := by decide
      have hdrop := congrArg (List.dropWhile isDigit) hsplit
      rwa [Line.dropWhile_append_eq hdigits hends,
        Line.dropWhile_append_eq hlower (by rintro c ⟨⟩; exact hdot)] at hdrop
    rw [Option.map_eq_none_iff]
    refine readUpper_eq_none fun c hc => ?_
    obtain ⟨more, rfl⟩ := List.head?_eq_some_iff.mp hc
    refine ⟨?_, ?_⟩
    · by_contra hdigit
      exact hplain ⟨c, more, htail, Or.inl (Bool.not_eq_false _ ▸ hdigit)⟩
    · rintro rfl
      exact hplain ⟨'_', more, htail, Or.inr rfl⟩
  · rfl

/-- Nothing is read at a character that is no digit. -/
theorem read_eq_none_of_not_isDigit {c : Char} (hc : isDigit c = false) :
    read before (c :: rest) = none := by
  rw [read, Line.takeSome, if_neg (by simp [hc])]

/-! ## The reading of a line -/

/-- The search finds what is to be read. -/
theorem findAllFrom_of_reading {text : List Char} (h : Reading before text tokens) :
    Line.findAllFrom width read 0 before.length before.reverse text = tokens := by
  induction h with
  | stop before => rfl
  | @pass before rest c tokens hc hrest ih =>
    rw [List.length_append, List.reverse_append] at ih
    rw [Line.findAllFrom, read_eq_none_of_not_isDigit hc]
    exact ih
  | @token before rest token tokens htoken hrest ih =>
    rw [Line.findAllFrom_take htoken.read_eq htoken.text_ne_nil (length_text token),
      ← List.reverse_append, ← List.length_append, ih]
  | @skip before digits rest tokens hdigits hplain hrest ih =>
    -- The run is looked at where it begins, and then from within.
    have hnone : ∀ p q, digits = p ++ q → q ≠ [] →
        read (p.reverse ++ before.reverse) (q ++ rest) = none := by
      rintro p q rfl -
      exact read_eq_none_of_not_boundFollows
        (fun c hc => hdigits.members c (List.mem_append_right _ hc)) hdigits.ends hplain
    rw [Line.findAllFrom_pass hnone, ← List.reverse_append, ← List.length_append, ih]

/-- The tokens of a line are what is to be read in it. -/
theorem tokens_eq_of_reading {line : Line} (h : Reading [] line tokens) :
    RangeToken.tokens line = tokens :=
  findAllFrom_of_reading h

/-- No run of digits goes on from the first text to the second. -/
def Severed (before text : List Char) : Prop :=
  ∀ c, before.getLast? = some c → isDigit c = true → ∀ d, text.head? = some d → isDigit d = false

/-- Where two dots and a bound follow a run of digits, a token stands. -/
theorem exists_stands {digits tail : List Char} (hdigits : Line.IsRun isDigit before digits tail)
    (hbound : BoundFollows tail) :
    ∃ (token : RangeToken) (rest : List Char), digits ++ tail = token.text ++ rest ∧
      token.Stands before rest ∧ Severed (before ++ token.text) rest := by
  obtain ⟨c, tail, rfl, hc | rfl⟩ := hbound
  · -- The upper bound is all the digits that there are.
    have hbegins : ∀ d, (before ++ digits ++ ['.', '.']).getLast? = some d → isDigit d = false := by
      intro d hd
      rw [List.getLast?_append] at hd
      cases hd
      decide
    have hne : (c :: tail).takeWhile isDigit ≠ [] := by
      rw [List.takeWhile_cons_of_pos hc]
      exact List.cons_ne_nil _ _
    have hupper := Line.isRun_takeWhile hbegins hne
    refine ⟨⟨digits, some ((c :: tail).takeWhile isDigit)⟩, (c :: tail).dropWhile isDigit, ?_,
      .closed ?_ hupper, fun _ _ _ => hupper.ends⟩
    · simp only [text, Option.getD_some, List.append_assoc, List.cons_append,
        List.takeWhile_append_dropWhile]
    · rw [List.takeWhile_append_dropWhile]
      exact hdigits
  · refine ⟨⟨digits, none⟩, tail, ?_, .openEnded hdigits, ?_⟩
    · simp only [text, Option.getD_none, List.append_assoc, List.cons_append, List.nil_append]
    · -- The underscore is the last character of the token.
      intro c hlast hc
      simp only [text, Option.getD_none, List.getLast?_append, List.getLast?_cons_cons,
        List.getLast?_singleton, Option.some_or, Option.some.injEq] at hlast
      subst hlast
      exact absurd hc (by decide)

/-- Every text can be read, unless it goes on with a run of digits that began before it. -/
theorem exists_reading {before text : List Char} (hsevered : Severed before text) :
    ∃ tokens, Reading before text tokens := by
  induction hn : text.length using Nat.strong_induction_on generalizing before text with
  | _ n ih =>
    -- What is left behind a part that is not empty can be read.
    have hbehind : ∀ part rest, text = part ++ rest → part ≠ [] → Severed (before ++ part) rest →
        ∃ tokens, Reading (before ++ part) rest tokens := by
      intro part rest htext hne hrest
      have hpos := List.length_pos_iff.mpr hne
      rw [htext, List.length_append] at hn
      exact ih rest.length (by omega) hrest rfl
    cases text with
    | nil => exact ⟨[], .stop before⟩
    | cons c rest =>
      by_cases hc : isDigit c = true
      · have hbegins : ∀ d, before.getLast? = some d → isDigit d = false := by
          intro d hd
          by_contra hdigit
          have hfalse := hsevered d hd (by simpa using hdigit) c rfl
          rw [hc] at hfalse
          cases hfalse
        have hne : (c :: rest).takeWhile isDigit ≠ [] := by
          rw [List.takeWhile_cons_of_pos hc]
          exact List.cons_ne_nil _ _
        have hdigits := Line.isRun_takeWhile hbegins hne
        have hsplit := List.takeWhile_append_dropWhile (p := isDigit) (l := c :: rest)
        by_cases hbound : BoundFollows ((c :: rest).dropWhile isDigit)
        · obtain ⟨token, tail, htext, hstands, hrest⟩ := exists_stands hdigits hbound
          rw [hsplit] at htext
          obtain ⟨tokens, hreading⟩ := hbehind _ tail htext hstands.text_ne_nil hrest
          rw [htext]
          exact ⟨_, .token hstands hreading⟩
        · obtain ⟨tokens, hreading⟩ := hbehind _ _ hsplit.symm hne fun _ _ _ => hdigits.ends
          rw [← hsplit]
          exact ⟨_, .skip hdigits hbound hreading⟩
      · have hrest : Severed (before ++ [c]) rest := by
          intro d hd hdigit
          rw [List.getLast?_concat, Option.some.injEq] at hd
          exact absurd (hd ▸ hdigit) hc
        obtain ⟨tokens, hreading⟩ := hbehind [c] rest rfl (List.cons_ne_nil _ _) hrest
        exact ⟨tokens, .pass (by simpa using hc) hreading⟩

/-- The tokens that are found in a line are a reading of it. -/
theorem reading_tokens (line : Line) : Reading [] line (RangeToken.tokens line) := by
  have hsevered : Severed [] line := by simp [Severed]
  obtain ⟨tokens, hreading⟩ := exists_reading hsevered
  rwa [tokens_eq_of_reading hreading]

/-- Every line has exactly one reading. -/
theorem existsUnique_reading (line : Line) : ∃! tokens, Reading [] line tokens :=
  ⟨RangeToken.tokens line, reading_tokens line, fun _ hother => (tokens_eq_of_reading hother).symm⟩

end RangeToken

/-! ## The rule -/

/-- A range whose bounds can be read is reported exactly when it descends. -/
theorem LineRule.judgeRange_eq {found : Nat × RangeToken}
    (hshort : ∀ upper, found.2.upper = some upper →
      found.2.lower.length ≤ 4300 ∧ upper.length ≤ 4300) :
    LineRule.judgeRange found =
      if found.2.descends then some (.ok ⟨(Span.mk found.1 found.2.width).columns, none⟩)
      else none := by
  obtain ⟨column, lower, upper⟩ := found
  cases upper with
  | none => rfl
  | some upper =>
    obtain ⟨hlower, hupper⟩ := hshort upper rfl
    have hvalue : ∀ digits : List Char, digits.length ≤ 4300 →
        Numeral.value digits = .ok (Numeral.magnitude digits) := by
      intro digits hdigits
      rw [Numeral.value_eq, if_neg (Nat.not_lt.mpr hdigits)]
    have hbackward : RangeToken.isBackward ⟨lower, some upper⟩ =
        .ok (RangeToken.descends ⟨lower, some upper⟩) := by
      simp only [RangeToken.isBackward, hvalue lower hlower, hvalue upper hupper]
      rfl
    rw [LineRule.judgeRange, hbackward]
    cases RangeToken.descends ⟨lower, some upper⟩ <;> rfl

/-- Every line has one reading as ranges. If no bound of a closed range in it has too many digits,
the rule for ranges reports those that descend, from left to right and from the first digit of the
lower bound to the last of the upper. -/
theorem run_backwardRange (line : Line) (index : Nat) (document : Document) :
    (∃! tokens, RangeToken.Reading [] line tokens) ∧
    ∀ tokens, RangeToken.Reading [] line tokens →
      (∀ found ∈ tokens, ∀ upper, found.2.upper = some upper →
        found.2.lower.length ≤ 4300 ∧ upper.length ≤ 4300) →
      tokens.Pairwise (fun a b => a.1 < b.1) ∧
      ∃ ds, LineRule.backwardRange.run line index document = .ok ds ∧
        (∀ d ∈ ds, d = Spec.backwardRange.at d.range) ∧
        ds.map (fun d => (d.range.start, d.range.stop)) =
          (tokens.filter fun found => found.2.descends).map fun found =>
            (⟨index, found.1⟩, ⟨index, found.1 + found.2.text.length⟩) := by
  refine ⟨RangeToken.existsUnique_reading line, fun tokens hreading hshort => ?_⟩
  have htokens := RangeToken.tokens_eq_of_reading hreading
  refine ⟨htokens ▸ Line.findAll_pairwise _ _ _, ?_⟩
  have hfindings : LineRule.backwardRange.findings line index document =
      LineRule.spans ((tokens.filter fun found => found.2.descends).map fun found =>
        ⟨found.1, found.2.width⟩) := by
    rw [LineRule.findings, htokens, LineRule.spans, LineRule.certain, List.map_map, List.map_map,
      ← List.filterMap_eq_map, List.filterMap_filter]
    refine List.filterMap_congr fun found hfound => ?_
    exact LineRule.judgeRange_eq (hshort found hfound)
  obtain ⟨ds, hrun, hspec, hranges⟩ := LineRule.run_of_spans hfindings
  refine ⟨ds, hrun, hspec, ?_⟩
  rw [hranges, List.map_map]
  refine List.map_congr_left fun found _ => ?_
  rw [RangeToken.length_text]
  rfl

/-- The upper bound of an open range is no digit, so a range begins behind it; but the upper bound
of a closed range belongs to that range alone. -/
theorem run_backwardRange_chain :
    let line := "1.._5..3 9..02..1".toList
    let tokens : List (Nat × RangeToken) :=
      [(0, ⟨['1'], none⟩), (4, ⟨['5'], some ['3']⟩), (9, ⟨['9'], some ['0', '2']⟩)]
    RangeToken.Reading [] line tokens ∧
      (∀ found ∈ tokens, ∀ upper, found.2.upper = some upper →
        found.2.lower.length ≤ 4300 ∧ upper.length ≤ 4300) ∧
      ∃ ds, LineRule.backwardRange.run line 7 (.ofText "") = .ok ds ∧
        ds.map (fun d => (d.range.start, d.range.stop)) =
          [(⟨7, 4⟩, ⟨7, 8⟩), (⟨7, 9⟩, ⟨7, 14⟩)] := by
  intro line tokens
  have hreading : RangeToken.Reading [] line tokens := RangeToken.reading_tokens line
  have hshort : ∀ found ∈ tokens, ∀ upper, found.2.upper = some upper →
      found.2.lower.length ≤ 4300 ∧ upper.length ≤ 4300 := by
    simp [tokens]
  obtain ⟨-, ds, hrun, -, hranges⟩ :=
    (run_backwardRange line 7 (.ofText "")).2 tokens hreading hshort
  exact ⟨hreading, hshort, ds, hrun, hranges⟩

end ScriptLint
