import Mathlib.Computability.Language
import ScriptLint.Proofs.Rule.Spans
import ScriptLint.Proofs.Scan.Report

/-!
# The grammar of literals

A line is read character by character, and what the reader knows is which quote is open. Here the
lines are described by a grammar instead. A line is `closed` when it is made of escape pairs, whole
literals and characters that are neither quotes nor backslashes. It may end in a lone backslash, and
it may end inside a literal, behind its first quote (`EndsOutside`, `EndsWithin`).

Reading a closed text leaves the reader as it was, and so does reading the inside of a literal
(`openAfter_append_closed`, `openAfter_append_body`), so the quote that is open after a line is the
one that the grammar says. As every line has one of the two forms (`endsOutside_or_endsWithin`), and
the reader has one answer, no line has both, and the quote is determined (`run_unclosedString`).
-/

namespace ScriptLint

open scoped Computability

namespace Quote

/-! ## The grammar -/

/-- A piece of the inside of a literal. -/
inductive Piece (quote : Quote) : List Char → Prop where
  | escape (c : Char) : Piece quote ['\\', c]
  | plain (c : Char) (hquote : c ≠ quote.toChar) (hescape : c ≠ '\\') : Piece quote [c]

/-- The texts that can stand inside a literal. -/
def body (quote : Quote) : Language Char := {piece | quote.Piece piece}∗

/-- A piece of a line outside of literals, or a whole literal. -/
inductive Item : List Char → Prop where
  | plain (c : Char) (hescape : c ≠ '\\') (hquote : c ∉ ['"', '\'', '\x60']) : Item [c]
  | escape (c : Char) : Item ['\\', c]
  | literal (quote : Quote) (inside : List Char) (hinside : inside ∈ quote.body) :
      Item (quote.toChar :: (inside ++ [quote.toChar]))

/-- The texts in which every literal that begins also ends. -/
def closed : Language Char := {item | Item item}∗

/-- The line is closed, or closed up to a backslash that nothing follows. -/
def EndsOutside (line : Line) : Prop :=
  ∃ text ∈ closed, line = text ∨ line = text ++ ['\\']

/-- The line is closed up to a literal that does not end, and may end in a backslash that nothing
follows. -/
def EndsWithin (quote : Quote) (line : Line) : Prop :=
  ∃ text ∈ closed, ∃ inside ∈ quote.body,
    line = text ++ quote.toChar :: inside ∨ line = text ++ quote.toChar :: inside ++ ['\\']

/-- A text of a repeated language can be continued in front. -/
theorem append_mem_kstar {l : Language Char} {part text : List Char} (hpart : part ∈ l)
    (htext : text ∈ l∗) : part ++ text ∈ l∗ := by
  obtain ⟨parts, rfl, hparts⟩ := Language.mem_kstar.mp htext
  refine Language.mem_kstar.mpr ⟨part :: parts, rfl, ?_⟩
  intro y hy
  rcases List.mem_cons.mp hy with rfl | hy
  · exact hpart
  · exact hparts y hy

/-- What each part of a text leaves as it was, the whole text does. -/
theorem apply_append_of_mem_kstar {β : Type} {l : Language Char} {f : List Char → β}
    (hl : ∀ part ∈ l, ∀ rest, f (part ++ rest) = f rest) {text : List Char} (htext : text ∈ l∗)
    (rest : List Char) : f (text ++ rest) = f rest := by
  obtain ⟨parts, rfl, hparts⟩ := Language.mem_kstar.mp htext
  clear htext
  induction parts with
  | nil => rfl
  | cons part parts ih =>
    have hfirst : part ∈ l := hparts part List.mem_cons_self
    have hothers : ∀ y ∈ parts, y ∈ l := fun y hy => hparts y (List.mem_cons_of_mem _ hy)
    calc f ((part :: parts).flatten ++ rest)
        = f (part ++ (parts.flatten ++ rest)) := by rw [List.flatten_cons, List.append_assoc]
      _ = f (parts.flatten ++ rest) := hl part hfirst _
      _ = f rest := ih hothers

/-! ## One step of the reader -/

/-- A quote is no backslash. -/
theorem toChar_ne_backslash (quote : Quote) : quote.toChar ≠ '\\' := by
  cases quote <;> decide

/-- The kind of quote is known from its character. -/
theorem ofChar?_toChar (quote : Quote) : ofChar? quote.toChar = some quote := by
  cases quote <;> decide

/-- There are three quotes. -/
theorem exists_eq_toChar_iff {c : Char} :
    (∃ quote : Quote, c = quote.toChar) ↔ c ∈ ['"', '\'', '\x60'] := by
  constructor
  · rintro ⟨quote, rfl⟩
    cases quote <;> decide
  · intro h
    simp only [List.mem_cons, List.not_mem_nil, or_false] at h
    obtain rfl | rfl | rfl := h
    · exact ⟨.double, rfl⟩
    · exact ⟨.single, rfl⟩
    · exact ⟨.backtick, rfl⟩

/-- Any other character is no quote of any kind. -/
theorem ofChar?_eq_none {c : Char} (h : c ∉ ['"', '\'', '\x60']) : ofChar? c = none := by
  rw [Option.eq_none_iff_forall_ne_some]
  intro quote hquote
  exact h (exists_eq_toChar_iff.mp ⟨quote, toChar_of_ofChar? hquote⟩)

/-- An escape pair is passed over. -/
theorem openAfter_escape (opened : Option Quote) (c : Char) (rest : List Char) :
    openAfter opened ('\\' :: c :: rest) = openAfter opened rest := by
  rw [openAfter]

/-- Outside of literals, a quote opens one and any other character is passed over. -/
theorem openAfter_none_cons {c : Char} (hc : c ≠ '\\') (rest : List Char) :
    openAfter none (c :: rest) = openAfter (ofChar? c) rest := by
  rw [openAfter]
  · exact fun h _ => hc h
  · exact fun _ _ h _ => hc h

/-- Inside a literal, its quote ends it and any other character is passed over. -/
theorem openAfter_some_cons {c : Char} (hc : c ≠ '\\') (quote : Quote) (rest : List Char) :
    openAfter (some quote) (c :: rest) =
      openAfter (if c = quote.toChar then none else some quote) rest := by
  rw [openAfter]
  · exact fun h _ => hc h
  · exact fun _ _ h _ => hc h

/-- The first quote of a literal opens it. -/
theorem openAfter_none_toChar (quote : Quote) (rest : List Char) :
    openAfter none (quote.toChar :: rest) = openAfter (some quote) rest := by
  rw [openAfter_none_cons quote.toChar_ne_backslash, ofChar?_toChar]

/-- The next quote of the same kind ends the literal. -/
theorem openAfter_some_toChar (quote : Quote) (rest : List Char) :
    openAfter (some quote) (quote.toChar :: rest) = openAfter none rest := by
  rw [openAfter_some_cons quote.toChar_ne_backslash, if_pos rfl]

/-! ## Texts that leave the reader as it was -/

/-- The inside of a literal leaves it open. -/
theorem openAfter_append_body {quote : Quote} {inside : List Char} (h : inside ∈ quote.body)
    (rest : List Char) : openAfter (some quote) (inside ++ rest) = openAfter (some quote) rest := by
  refine apply_append_of_mem_kstar (fun piece hpiece rest => ?_) h rest
  cases hpiece with
  | escape c => exact openAfter_escape _ c rest
  | plain c hquote hescape =>
    rw [List.singleton_append, openAfter_some_cons hescape, if_neg hquote]

/-- A closed text opens no literal that it does not end. -/
theorem openAfter_append_closed {text : List Char} (h : text ∈ closed) (rest : List Char) :
    openAfter none (text ++ rest) = openAfter none rest := by
  refine apply_append_of_mem_kstar (fun item hitem rest => ?_) h rest
  cases hitem with
  | plain c hescape hquote =>
    rw [List.singleton_append, openAfter_none_cons hescape, ofChar?_eq_none hquote]
  | escape c => exact openAfter_escape _ c rest
  | literal quote inside hinside =>
    calc openAfter none (quote.toChar :: (inside ++ [quote.toChar]) ++ rest)
        = openAfter none (quote.toChar :: (inside ++ quote.toChar :: rest)) := by simp
      _ = openAfter (some quote) (inside ++ quote.toChar :: rest) := openAfter_none_toChar _ _
      _ = openAfter (some quote) (quote.toChar :: rest) := openAfter_append_body hinside _
      _ = openAfter none rest := openAfter_some_toChar _ _

/-- No literal is open after a line that ends outside of them. -/
theorem EndsOutside.unclosed?_eq {line : Line} (h : EndsOutside line) : unclosed? line = none := by
  obtain ⟨text, htext, rfl | rfl⟩ := h
  · have hread := openAfter_append_closed htext []
    rwa [List.append_nil] at hread
  · exact openAfter_append_closed htext ['\\']

/-- The literal that a line ends in is open after it. -/
theorem EndsWithin.unclosed?_eq {quote : Quote} {line : Line} (h : EndsWithin quote line) :
    unclosed? line = some quote := by
  obtain ⟨text, htext, inside, hinside, hline⟩ := h
  have hread : ∀ rest, openAfter none (text ++ quote.toChar :: (inside ++ rest)) =
      openAfter (some quote) rest := by
    intro rest
    rw [openAfter_append_closed htext, openAfter_none_toChar, openAfter_append_body hinside]
  obtain rfl | rfl := hline
  · have hend := hread []
    rwa [List.append_nil] at hend
  · have hend := hread ['\\']
    rwa [← List.cons_append, ← List.append_assoc] at hend

/-! ## Every line has a form -/

/-- A text is the inside of a literal up to a quote that ends it, or else up to its own end or a
backslash there. -/
theorem exists_body (quote : Quote) (text : List Char) :
    ∃ inside ∈ quote.body, text = inside ∨ text = inside ++ ['\\'] ∨
      ∃ rest, text = inside ++ quote.toChar :: rest := by
  -- An escape pair is two characters, so the induction is on the length and not on the list.
  induction hn : text.length using Nat.strong_induction_on generalizing text with
  | _ n ih =>
    -- A piece in front of a text belongs to the inside.
    have hfront : ∀ piece rest, quote.Piece piece → text = piece ++ rest → rest.length < n →
        ∃ inside ∈ quote.body, text = inside ∨ text = inside ++ ['\\'] ∨
          ∃ rest, text = inside ++ quote.toChar :: rest := by
      rintro piece rest hpiece rfl hlt
      obtain ⟨inside, hinside, hform⟩ := ih _ hlt rest rfl
      refine ⟨piece ++ inside, append_mem_kstar hpiece hinside, ?_⟩
      obtain rfl | rfl | ⟨rest, rfl⟩ := hform
      · exact Or.inl rfl
      · exact Or.inr (Or.inl (List.append_assoc _ _ _).symm)
      · exact Or.inr (Or.inr ⟨rest, (List.append_assoc _ _ _).symm⟩)
    have hnil : [] ∈ quote.body := Language.nil_mem_kstar _
    match text with
    | [] => exact ⟨[], hnil, Or.inl rfl⟩
    | c :: rest =>
      rw [List.length_cons] at hn
      by_cases hescape : c = '\\'
      · subst hescape
        match rest with
        | [] => exact ⟨[], hnil, Or.inr (Or.inl rfl)⟩
        | d :: rest =>
          rw [List.length_cons] at hn
          exact hfront ['\\', d] rest (.escape d) rfl (by omega)
      · by_cases hquote : c = quote.toChar
        · exact ⟨[], hnil, Or.inr (Or.inr ⟨rest, by rw [hquote, List.nil_append]⟩)⟩
        · exact hfront [c] rest (.plain c hquote hescape) rfl (by omega)

/-- Something closed in front of a line does not change where it ends. -/
theorem endsOutside_or_endsWithin_append {item rest : List Char} (hitem : Item item)
    (hrest : EndsOutside rest ∨ ∃ quote, EndsWithin quote rest) :
    EndsOutside (item ++ rest) ∨ ∃ quote, EndsWithin quote (item ++ rest) := by
  obtain ⟨text, htext, hline⟩ | ⟨quote, text, htext, inside, hinside, hline⟩ := hrest
  · refine Or.inl ⟨item ++ text, append_mem_kstar hitem htext, ?_⟩
    obtain rfl | rfl := hline
    · exact Or.inl rfl
    · exact Or.inr (List.append_assoc _ _ _).symm
  · refine Or.inr ⟨quote, item ++ text, append_mem_kstar hitem htext, inside, hinside, ?_⟩
    obtain rfl | rfl := hline
    · exact Or.inl (List.append_assoc _ _ _).symm
    · exact Or.inr (by simp only [List.append_assoc])

/-- Every line ends outside of literals or within one. -/
theorem endsOutside_or_endsWithin (line : Line) :
    EndsOutside line ∨ ∃ quote, EndsWithin quote line := by
  induction hn : line.length using Nat.strong_induction_on generalizing line with
  | _ n ih =>
    have hfront : ∀ item rest, Item item → line = item ++ rest → rest.length < n →
        EndsOutside line ∨ ∃ quote, EndsWithin quote line := by
      rintro item rest hitem rfl hlt
      exact endsOutside_or_endsWithin_append hitem (ih _ hlt rest rfl)
    have hnil : [] ∈ closed := Language.nil_mem_kstar _
    match line with
    | [] => exact Or.inl ⟨[], hnil, Or.inl rfl⟩
    | c :: rest =>
      rw [List.length_cons] at hn
      by_cases hescape : c = '\\'
      · subst hescape
        match rest with
        | [] => exact Or.inl ⟨[], hnil, Or.inr rfl⟩
        | d :: rest =>
          rw [List.length_cons] at hn
          exact hfront ['\\', d] rest (.escape d) rfl (by omega)
      · by_cases hquote : c ∈ ['"', '\'', '\x60']
        · -- A literal begins, and either ends in the line or is what the line ends in.
          obtain ⟨quote, rfl⟩ := exists_eq_toChar_iff.mpr hquote
          obtain ⟨inside, hinside, rfl | rfl | ⟨rest, rfl⟩⟩ := exists_body quote rest
          · exact Or.inr ⟨quote, [], hnil, rest, hinside, Or.inl rfl⟩
          · exact Or.inr ⟨quote, [], hnil, inside, hinside, Or.inr rfl⟩
          · have hline : quote.toChar :: (inside ++ quote.toChar :: rest) =
                quote.toChar :: (inside ++ [quote.toChar]) ++ rest := by simp
            rw [List.length_append, List.length_cons] at hn
            exact hfront _ rest (.literal quote inside hinside) hline (by omega)
        · exact hfront [c] rest (.plain c hescape hquote) rfl (by omega)

/-- No literal is open after a line exactly when the line ends outside of them. -/
theorem unclosed?_eq_none_iff {line : Line} : unclosed? line = none ↔ EndsOutside line := by
  refine ⟨fun hnone => ?_, EndsOutside.unclosed?_eq⟩
  obtain houtside | ⟨quote, hwithin⟩ := endsOutside_or_endsWithin line
  · exact houtside
  · rw [hwithin.unclosed?_eq] at hnone
    cases hnone

/-- A quote is open after a line exactly when the line ends in a literal of its kind. -/
theorem unclosed?_eq_some_iff {line : Line} {quote : Quote} :
    unclosed? line = some quote ↔ EndsWithin quote line := by
  refine ⟨fun hsome => ?_, EndsWithin.unclosed?_eq⟩
  obtain houtside | ⟨other, hwithin⟩ := endsOutside_or_endsWithin line
  · rw [houtside.unclosed?_eq] at hsome
    cases hsome
  · rw [hwithin.unclosed?_eq] at hsome
    cases hsome
    exact hwithin

end Quote

/-! ## The rule -/

/-- The rule for literals reports what is found of an open literal, if there is one. -/
theorem run_unclosedString_eq (line : Line) (index : Nat) (document : Document) :
    LineRule.unclosedString.run line index document =
      .ok ((LineRule.unclosedLiteral? line).toList.map fun finding =>
        finding.on .unclosedString index) :=
  LineRule.run_of_findings rfl

/-- The reader of literals tells a line that ends outside of them from one that ends within, and
gives the quote of the latter. The rule for literals reports a line exactly when it does not end
outside of literals, once and as a whole, and speaks of a template literal exactly when the quote is
a backtick. -/
theorem run_unclosedString (line : Line) (index : Nat) (document : Document) :
    (Quote.unclosed? line = none ↔ Quote.EndsOutside line) ∧
    (∀ quote, Quote.unclosed? line = some quote ↔ Quote.EndsWithin quote line) ∧
    ∃ ds, LineRule.unclosedString.run line index document = .ok ds ∧
      (ds = [] ↔ Quote.EndsOutside line) ∧
      ∀ d ∈ ds, ds = [d] ∧ d.code = "LINT_SYNTAX_UNCLOSED_STRING" ∧
        d.range.start = ⟨index, 0⟩ ∧ d.range.stop = ⟨index, line.length⟩ ∧
        (d.message = "Unclosed template literal." ↔ Quote.EndsWithin .backtick line) := by
  refine ⟨Quote.unclosed?_eq_none_iff, fun quote => Quote.unclosed?_eq_some_iff, _,
    run_unclosedString_eq line index document, ?_, ?_⟩
  · rw [← Quote.unclosed?_eq_none_iff, List.map_eq_nil_iff, Option.toList_eq_nil_iff,
      LineRule.unclosedLiteral?, Option.map_eq_none_iff]
  · intro d hd
    obtain ⟨finding, hfinding, rfl⟩ := List.mem_map.mp hd
    have hfound := Option.mem_toList.mp hfinding
    obtain ⟨quote, hquote, rfl⟩ := Option.map_eq_some_iff.mp hfound
    refine ⟨by rw [hfound]; rfl, rfl, ?_⟩
    rw [Finding.on_columns]
    refine ⟨rfl, ?_, ?_⟩
    · show Position.mk index (0 + line.length) = _
      rw [Nat.zero_add]
    · have hmessage : ∀ quote : Quote,
          (if quote = .backtick then some "Unclosed template literal." else none).getD
              Spec.unclosedString.message = "Unclosed template literal." ↔ quote = .backtick := by
        intro quote
        cases quote <;> decide
      rw [← Quote.unclosed?_eq_some_iff, hquote, Option.some.injEq]
      exact hmessage quote

end ScriptLint
