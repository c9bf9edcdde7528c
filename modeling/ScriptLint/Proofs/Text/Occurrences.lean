import ScriptLint.Proofs.Text.Search

/-!
# Where a token stands, and how often

`Line.StandsAt` says that a token stands at a column of a text, and `Line.Counted` what it is to count
a token from left to right without overlap: the first one is counted, and then those behind it. A
token may overlap itself, so that not every place where it stands is counted. Still every text has
exactly one count of a token that is not empty, and it is the number of things that the search with
`Line.token` finds (`counted_iff`).

The column that a search from the left gives is the first at which the token stands
(`firstColumn_eq_iff`), and the one that a search from the right gives is the last (`lastColumn_eq`).

A token does not reach over a character that it does not have. A text that is cut at such a character
has the token where one of its two parts has it (`standsAt_append_cons_iff`), so that the first one in
the text is the first one in the first part that has any, and the counts of the two parts add up
(`Counted.append_cons`, `occurrences_append_cons`). For other cuts this is false.
-/

namespace ScriptLint

namespace Line

/-- A token stands at a column of a text. -/
def StandsAt (token text : List Char) (column : Nat) : Prop :=
  ∃ before after, text = before ++ (token ++ after) ∧ before.length = column

/-- A token is counted in a text from left to right and without overlap. -/
inductive Counted (token : List Char) : (text : List Char) → Nat → Prop where
  | none {text : List Char} (h : ∀ column, ¬ StandsAt token text column) : Counted token text 0
  /-- The token stands behind `before` and nowhere further left, and `n` times in the rest. -/
  | next {before rest : List Char} {n : Nat}
      (hfirst : ∀ column < before.length, ¬ StandsAt token (before ++ (token ++ rest)) column)
      (hrest : Counted token rest n) : Counted token (before ++ (token ++ rest)) (n + 1)

variable {expected text a b : List Char} {column n : Nat} {c : Char}

/-! ## Where a token stands -/

/-- A token is read exactly in front of a text that begins with it. -/
theorem token_eq_some_iff {before after : List Char} {found : Unit} :
    token expected before after = some found ↔ expected <+: after := by
  rw [token, Option.ite_none_right_eq_some, List.isPrefixOf_iff_prefix]
  exact and_iff_left rfl

/-- No token is read in front of a text that does not begin with it. -/
theorem token_eq_none_iff {before after : List Char} :
    token expected before after = none ↔ ¬ expected <+: after := by
  rw [Option.eq_none_iff_forall_ne_some]
  constructor
  · intro hnone hbegins
    exact hnone () (token_eq_some_iff.mpr hbegins)
  · intro hbegins found hread
    exact hbegins (token_eq_some_iff.mp hread)

/-- A token is read at a column exactly when it stands there. -/
theorem takesAt_token_iff {found : Unit} :
    Reader.TakesAt (token expected) text column found ↔ StandsAt expected text column := by
  constructor
  · rintro ⟨passed, rest, rfl, rfl, hread⟩
    obtain ⟨after, rfl⟩ := token_eq_some_iff.mp hread
    exact ⟨passed, after, rfl, rfl⟩
  · rintro ⟨before, after, rfl, rfl⟩
    exact ⟨before, expected ++ after, rfl, rfl, token_eq_some_iff.mpr (List.prefix_append _ _)⟩

/-- In a text that is cut at a character that is not in a token, the token stands before the cut or
behind it. -/
theorem standsAt_append_cons_iff (hne : expected ≠ []) (hc : c ∉ expected) :
    StandsAt expected (a ++ c :: b) column ↔
      StandsAt expected a column ∨ ∃ k, column = a.length + 1 + k ∧ StandsAt expected b k := by
  constructor
  · rintro ⟨before, after, htext, rfl⟩
    -- Either all of the first part is before the token, or the token begins within it.
    obtain ⟨rest, rfl, hrest⟩ | ⟨rest, rfl, hrest⟩ := List.append_eq_append_iff.mp htext
    · cases rest with
      | nil =>
        -- The token would begin with the character at the cut.
        obtain ⟨d, more, rfl⟩ := List.exists_cons_of_ne_nil hne
        obtain ⟨rfl, -⟩ := List.cons.inj hrest
        exact absurd List.mem_cons_self hc
      | cons d rest =>
        obtain ⟨rfl, rfl⟩ := List.cons.inj hrest
        refine Or.inr ⟨rest.length, ?_, rest, after, rfl, rfl⟩
        rw [List.length_append, List.length_cons]
        omega
    · obtain ⟨tail, rfl, -⟩ | ⟨tail, rfl, htail⟩ := List.append_eq_append_iff.mp hrest
      · exact Or.inl ⟨before, tail, rfl, rfl⟩
      · cases tail with
        | nil => exact Or.inl ⟨before, [], by rw [List.append_nil, List.append_nil], rfl⟩
        | cons d tail =>
          -- The token would reach over the cut.
          obtain ⟨rfl, -⟩ := List.cons.inj htail
          exact absurd (List.mem_append_right _ List.mem_cons_self) hc
  · rintro (⟨before, after, rfl, rfl⟩ | ⟨k, rfl, before, after, rfl, rfl⟩)
    · refine ⟨before, after ++ c :: b, ?_, rfl⟩
      simp only [List.append_assoc]
    · refine ⟨a ++ c :: before, after, ?_, ?_⟩
      · simp only [List.append_assoc, List.cons_append]
      · rw [List.length_append, List.length_cons]
        omega

/-- A token does not stand behind the last occurrence of its first character. -/
theorem StandsAt.le_length {more before tail : List Char}
    (h : StandsAt (c :: more) (before ++ c :: tail) column) (hc : c ∉ tail) :
    column ≤ before.length := by
  obtain ⟨passed, after, htext, rfl⟩ := h
  obtain ⟨rest, rfl, hrest⟩ | ⟨rest, rfl, -⟩ := List.append_eq_append_iff.mp htext
  · cases rest with
    | nil => exact Nat.le_of_eq (congrArg List.length (List.append_nil before))
    | cons d rest =>
      obtain ⟨rfl, rfl⟩ := List.cons.inj hrest
      exact absurd (List.mem_append_right _ List.mem_cons_self) hc
  · rw [List.length_append]
    exact Nat.le_add_right _ _

/-! ## The first and the last one -/

/-- A token stands at the first column of a text, or in what is behind it. -/
theorem standsAt_cons_iff :
    StandsAt expected (c :: text) column ↔
      (column = 0 ∧ expected <+: c :: text) ∨ ∃ k, column = k + 1 ∧ StandsAt expected text k := by
  constructor
  · rintro ⟨before, after, htext, rfl⟩
    cases before with
    | nil => exact Or.inl ⟨rfl, after, htext.symm⟩
    | cons d before =>
      obtain ⟨-, rfl⟩ := List.cons.inj htext
      exact Or.inr ⟨before.length, rfl, before, after, rfl, rfl⟩
  · rintro (⟨rfl, after, htext⟩ | ⟨k, rfl, before, after, rfl, rfl⟩)
    · exact ⟨[], after, htext.symm, rfl⟩
    · exact ⟨c :: before, after, rfl, rfl⟩

/-- A token that is not empty does not stand in the empty text. -/
theorem not_standsAt_nil (hne : expected ≠ []) : ¬ StandsAt expected [] column := by
  rintro ⟨before, after, htext, -⟩
  obtain ⟨-, htoken⟩ := List.append_eq_nil_iff.mp htext.symm
  exact hne (List.append_eq_nil_iff.mp htoken).1

/-- A search from the right finds nothing exactly when the token stands nowhere. -/
theorem findLastFrom_eq_none_iff (hne : expected ≠ []) {first : Nat} :
    findLastFrom expected first text = none ↔ ∀ column, ¬ StandsAt expected text column := by
  induction text generalizing first with
  | nil => exact iff_of_true rfl fun column => not_standsAt_nil hne
  | cons c text ih =>
    rw [findLastFrom]
    constructor
    · intro hnone column hstands
      split at hnone
      · cases hnone
      · next hlater =>
        have hfirst : ¬ expected <+: c :: text := by
          simpa [List.isPrefixOf_iff_prefix] using hnone
        rcases standsAt_cons_iff.mp hstands with ⟨-, hbegins⟩ | ⟨k, -, hstands⟩
        · exact hfirst hbegins
        · exact ih.mp hlater k hstands
    · intro hnone
      have hlater : findLastFrom expected (first + 1) text = none :=
        ih.mpr fun k hstands => hnone (k + 1) (standsAt_cons_iff.mpr (Or.inr ⟨k, rfl, hstands⟩))
      have hfirst : ¬ expected <+: c :: text :=
        fun hbegins => hnone 0 (standsAt_cons_iff.mpr (Or.inl ⟨rfl, hbegins⟩))
      rw [hlater]
      simpa [List.isPrefixOf_iff_prefix] using hfirst

/-- A search from the right finds a token at the last column at which it stands. -/
theorem findLastFrom_eq_some (hne : expected ≠ []) {first found : Nat}
    (h : findLastFrom expected first text = some found) :
    ∃ k, found = first + k ∧ StandsAt expected text k ∧
      ∀ other, StandsAt expected text other → other ≤ k := by
  induction text generalizing first with
  | nil => cases h
  | cons c text ih =>
    rw [findLastFrom] at h
    split at h
    · next later hlater =>
      cases h
      obtain ⟨k, rfl, hstands, hlast⟩ := ih hlater
      refine ⟨k + 1, by omega, standsAt_cons_iff.mpr (Or.inr ⟨k, rfl, hstands⟩), ?_⟩
      intro other hother
      rcases standsAt_cons_iff.mp hother with ⟨rfl, -⟩ | ⟨m, rfl, hm⟩
      · exact Nat.zero_le _
      · exact Nat.succ_le_succ (hlast m hm)
    · next hlater =>
      obtain ⟨hbegins, hfound⟩ := Option.ite_none_right_eq_some.mp h
      cases hfound
      rw [List.isPrefixOf_iff_prefix] at hbegins
      refine ⟨0, rfl, standsAt_cons_iff.mpr (Or.inl ⟨rfl, hbegins⟩), ?_⟩
      intro other hother
      rcases standsAt_cons_iff.mp hother with ⟨rfl, -⟩ | ⟨m, -, hm⟩
      · exact Nat.le_refl _
      · exact absurd hm ((findLastFrom_eq_none_iff hne).mp hlater m)

/-- The last column of a token that stands somewhere is one at which it stands, and no other such
column is behind it. -/
theorem lastColumn_eq (hne : expected ≠ []) (hstands : StandsAt expected text column)
    (hlast : ∀ other, StandsAt expected text other → other ≤ column) :
    lastColumn expected text = column := by
  rw [lastColumn]
  split
  · next found hfound =>
    obtain ⟨k, rfl, hk, hleast⟩ := findLastFrom_eq_some hne hfound
    have hle := hlast k hk
    have hge := hleast column hstands
    omega
  · next hnone => exact absurd hstands ((findLastFrom_eq_none_iff hne).mp hnone column)

/-- The first column of a token is the one at which it stands and with none before it. -/
theorem firstColumn_eq_iff (hne : expected ≠ []) :
    firstColumn expected text = column ↔
      StandsAt expected text column ∧ ∀ earlier < column, ¬ StandsAt expected text earlier := by
  have hend : ∀ before, token expected before [] = none := by
    intro before
    rw [token_eq_none_iff, List.prefix_nil]
    exact hne
  have hfirst := @Reader.findFirst?_eq_some_iff_takesAt Unit (token expected) text column () hend
  simp only [takesAt_token_iff, forall_const] at hfirst
  rw [← hfirst, firstColumn]
  split
  · next found u hfound =>
    simp only [hfound, Option.some.injEq, Prod.mk.injEq, and_true, Int.ofNat_inj]
  · next hnone => simp [hnone]

/-! ## How often a token is counted -/

/-- What is counted is what the search finds, from any column on. -/
theorem Counted.length_findAllFrom (hne : expected ≠ []) (h : Counted expected text n) :
    ∀ (column : Nat) (before : List Char),
      (findAllFrom (fun _ => expected.length) (token expected) 0 column before text).length = n := by
  induction h with
  | none hnone =>
    intro column before
    rw [List.length_eq_zero_iff, findAllFrom_eq_nil_iff, findFirstFrom_eq_none_iff]
    rintro passed rest rfl -
    rw [token_eq_none_iff]
    rintro ⟨after, rfl⟩
    exact hnone _ ⟨passed, after, rfl, rfl⟩
  | @next passed rest n hfirst _ ih =>
    intro column before
    -- The search passes to the first token, takes it, and goes on behind it.
    have hpass : ∀ p q, passed = p ++ q → q ≠ [] →
        token expected (p.reverse ++ before) (q ++ (expected ++ rest)) = Option.none := by
      rintro p q rfl hq
      rw [token_eq_none_iff]
      rintro ⟨after, hafter⟩
      refine hfirst p.length ?_ ⟨p, after, ?_, rfl⟩
      · rw [List.length_append]
        exact Nat.lt_add_of_pos_right (List.length_pos_iff.mpr hq)
      · rw [hafter, List.append_assoc]
    have htake : token expected (passed.reverse ++ before) (expected ++ rest) = some () :=
      token_eq_some_iff.mpr (List.prefix_append _ _)
    rw [findAllFrom_pass hpass, findAllFrom_take htake hne rfl, List.length_cons, ih]

/-- A token that is not empty can be counted in every text. -/
theorem exists_counted (hne : expected ≠ []) (text : List Char) : ∃ n, Counted expected text n := by
  have hend : ∀ before, token expected before [] = Option.none := by
    intro before
    rw [token_eq_none_iff, List.prefix_nil]
    exact hne
  -- What is left behind a token is shorter, since the token is not empty.
  induction hlength : text.length using Nat.strongRecOn generalizing text with
  | _ length ih =>
    cases hfound : findFirst? (token expected) text with
    | none =>
      have hnone := (Reader.findFirst?_eq_none_iff_takesAt hend).mp hfound
      exact ⟨0, .none fun column hstands => hnone column () (takesAt_token_iff.mpr hstands)⟩
    | some found =>
      obtain ⟨htakes, hleft⟩ := (Reader.findFirst?_eq_some_iff_takesAt hend).mp hfound
      obtain ⟨before, rest, rfl, hcolumn⟩ := takesAt_token_iff.mp htakes
      rw [List.length_append, List.length_append] at hlength
      have hpos := List.length_pos_iff.mpr hne
      obtain ⟨n, hrest⟩ := ih rest.length (by omega) rest rfl
      refine ⟨n + 1, .next (fun column hlt hstands => ?_) hrest⟩
      exact hleft column (hcolumn ▸ hlt) () (takesAt_token_iff.mpr hstands)

/-- The count of a token that is not empty is how often it occurs. -/
theorem counted_iff (hne : expected ≠ []) :
    Counted expected text n ↔ n = occurrences expected text := by
  have hcount : ∀ {n}, Counted expected text n → n = occurrences expected text := by
    intro n h
    rw [occurrences, if_neg (by simpa using hne), findAll, h.length_findAllFrom hne]
  refine ⟨hcount, ?_⟩
  rintro rfl
  obtain ⟨n, h⟩ := exists_counted hne text
  rwa [← hcount h]

/-- The counts of the two parts of a text add up if it is cut at a character that is not in the
token. -/
theorem Counted.append_cons (hne : expected ≠ []) (hc : c ∉ expected) {m : Nat}
    (ha : Counted expected a m) (hb : Counted expected b n) :
    Counted expected (a ++ c :: b) (m + n) := by
  induction ha with
  | @none a hnone =>
    rw [Nat.zero_add]
    cases hb with
    | none hnone' =>
      refine .none fun column hstands => ?_
      obtain hbefore | ⟨k, -, hbehind⟩ := (standsAt_append_cons_iff hne hc).mp hstands
      · exact hnone column hbefore
      · exact hnone' k hbehind
    | @next before rest n hfirst hrest =>
      -- The first token of the second part is the first one of all.
      have htext : a ++ c :: (before ++ (expected ++ rest)) =
          (a ++ c :: before) ++ (expected ++ rest) := by
        simp only [List.append_assoc, List.cons_append]
      rw [htext]
      refine .next (fun column hlt hstands => ?_) hrest
      rw [← htext] at hstands
      rw [List.length_append, List.length_cons] at hlt
      obtain hbefore | ⟨k, rfl, hbehind⟩ := (standsAt_append_cons_iff hne hc).mp hstands
      · exact hnone column hbefore
      · exact hfirst k (by omega) hbehind
  | @next before rest m hfirst _ ih =>
    have htext : before ++ (expected ++ rest) ++ c :: b =
        before ++ (expected ++ (rest ++ c :: b)) := by
      simp only [List.append_assoc]
    rw [htext, Nat.add_right_comm]
    refine .next (fun column hlt hstands => ?_) ih
    rw [← htext] at hstands
    obtain hbefore | ⟨k, rfl, -⟩ := (standsAt_append_cons_iff hne hc).mp hstands
    · exact hfirst column hlt hbefore
    · rw [List.length_append] at hlt
      omega

/-- A text that is cut at a character that is not in a token has the occurrences of its two parts. -/
theorem occurrences_append_cons (hne : expected ≠ []) (hc : c ∉ expected) (a b : List Char) :
    occurrences expected (a ++ c :: b) = occurrences expected a + occurrences expected b := by
  have ha : Counted expected a (occurrences expected a) := (counted_iff hne).mpr rfl
  have hb : Counted expected b (occurrences expected b) := (counted_iff hne).mpr rfl
  exact ((counted_iff hne).mp (ha.append_cons hne hc hb)).symm

end Line

end ScriptLint
