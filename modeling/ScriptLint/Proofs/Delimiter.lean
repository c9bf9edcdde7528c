import Mathlib.Algebra.Ring.Int.Defs
import Mathlib.Order.Bounds.Defs
import ScriptLint.Delimiter
import ScriptLint.Fault.Message
import ScriptLint.Proofs.Text.Document

/-!
# The net of several lines

Two loops add up the nets of lines: one over a whole document, and one that looks for the line at which
the running net is zero. `Delimiters.total` is the sum that both are about. The first loop gives the
total of all lines (`Document.net_eq_total`). The second goes through the totals up to each of the
lines and stops at the first that is zero (`closeFrom_eq_find?`). It finds nothing exactly when none is
(`closeFrom_eq_none_iff`), so that all it sees of a line is its net (`closeFrom_eq_none_congr`), and what
comes later can only make it find more (`closeFrom_eq_none_of_append`).

In a document the block that begins at a line can be closed at any later line up to which the net is
zero (`Document.ClosesAt`), whether the running net comes down to zero or up to it, and is closed at
the first of these (`Document.blockClose_least`).
-/

namespace ScriptLint

/-- A token of one character occurs as often as the character. -/
theorem Line.occurrences_singleton (c : Char) (line : Line) :
    occurrences [c] line = line.count c := by
  -- What is taken is one character wide, so that nothing is ever skipped.
  have hfrom : ∀ column before,
      (findAllFrom (fun _ => 1) (token [c]) 0 column before line).length = line.count c := by
    induction line with
    | nil => exact fun _ _ => rfl
    | cons d rest ih =>
      intro column before
      have htoken : token [c] before (d :: rest) = if c = d then some () else none := by
        simp [token, List.isPrefixOf]
      rw [findAllFrom, htoken, List.count_cons]
      have hrest := ih (column + 1) (d :: before)
      by_cases hd : c = d
      · subst hd
        simp [hrest]
      · simp [hd, Ne.symm hd, hrest]
  exact hfrom 0 []

namespace Delimiters

/-- The net of the braces of a line is the number of opening ones less that of closing ones. -/
theorem net_braces (line : Line) :
    braces.net line = (line.count '{' : Int) - line.count '}' := by
  simp only [net, braces, Line.occurrences_singleton]

/-- Openers less closers in some lines. -/
def total (pair : Delimiters) (lines : List Line) : Int := (lines.map pair.net).sum

@[simp] theorem total_nil (pair : Delimiters) : pair.total [] = 0 := rfl

@[simp] theorem total_cons (pair : Delimiters) (line : Line) (lines : List Line) :
    pair.total (line :: lines) = pair.net line + pair.total lines := by
  simp [total]

@[simp] theorem total_append (pair : Delimiters) (a b : List Line) :
    pair.total (a ++ b) = pair.total a + pair.total b := by
  simp [total]

variable {pair : Delimiters} {depth : Int} {index close : Nat} {lines : List Line}

/-- To follow the running net is to search the totals up to each of the lines for the first that makes
up for the net before them. -/
theorem closeFrom_eq_find? :
    pair.closeFrom depth index lines =
      ((List.range lines.length).find? fun k => depth + pair.total (lines.take (k + 1)) = 0).map
        (index + ·) := by
  induction lines generalizing depth index with
  | nil => rfl
  | cons line rest ih =>
    -- Up to the first line the total is its net, and up to a later one it has the net in it.
    have hfirst : pair.total ((line :: rest).take 1) = pair.net line := by simp
    have hlater : ∀ k, depth + pair.total ((line :: rest).take (k + 1 + 1)) =
        depth + pair.net line + pair.total (rest.take (k + 1)) := by
      intro k
      rw [List.take_succ_cons, total_cons, Int.add_assoc]
    rw [closeFrom, List.length_cons, List.range_succ_eq_map, List.find?_cons, Nat.zero_add, hfirst]
    split
    · next hzero => simp [hzero]
    · next hnet =>
      have hnumber : ∀ k, index + 1 + k = index + (k + 1) := by omega
      simp only [hnet, ih, decide_false, List.find?_map, Option.map_map, Function.comp_def,
        Nat.succ_eq_add_one, hlater, hnumber]

/-- The running net is zero at no line exactly when no total up to a line makes up for the net before
them. -/
theorem closeFrom_eq_none_iff :
    pair.closeFrom depth index lines = none ↔
      ∀ k < lines.length, depth + pair.total (lines.take (k + 1)) ≠ 0 := by
  rw [closeFrom_eq_find?, Option.map_eq_none_iff, List.find?_range_eq_none]
  simp only [Bool.not_eq_true', decide_eq_false_iff_not]

/-- The running net is first zero at the line up to which the total makes up for the net before them
and no total up to an earlier line does. -/
theorem closeFrom_eq_some_iff :
    pair.closeFrom depth index lines = some close ↔
      ∃ k, (depth + pair.total (lines.take (k + 1)) = 0 ∧ k < lines.length ∧
        ∀ m < k, depth + pair.total (lines.take (m + 1)) ≠ 0) ∧ index + k = close := by
  rw [closeFrom_eq_find?, Option.map_eq_some_iff]
  simp only [List.find?_range_eq_some, List.mem_range, decide_eq_true_eq, Bool.not_eq_true',
    decide_eq_false_iff_not]

/-- Where the running net is zero at no line, it is zero at none of the first lines. -/
theorem closeFrom_eq_none_of_append {more : List Line}
    (h : pair.closeFrom depth index (lines ++ more) = none) :
    pair.closeFrom depth index lines = none := by
  rw [closeFrom_eq_none_iff] at h ⊢
  intro k hk
  have htake : (lines ++ more).take (k + 1) = lines.take (k + 1) :=
    List.take_append_of_le_length hk
  rw [← htake]
  exact h k (by rw [List.length_append]; omega)

/-- Of the lines, only the nets matter to whether the running net is zero at one of them. -/
theorem closeFrom_eq_none_congr {lines' : List Line} {index' : Nat}
    (h : lines.map pair.net = lines'.map pair.net) :
    pair.closeFrom depth index lines = none ↔ pair.closeFrom depth index' lines' = none := by
  have hlength : lines.length = lines'.length := by simpa using congrArg List.length h
  have htotal : ∀ k, pair.total (lines.take k) = pair.total (lines'.take k) := by
    intro k
    unfold total
    rw [List.map_take, List.map_take, h]
  simp only [closeFrom_eq_none_iff, hlength, htotal]

end Delimiters

namespace Document

/-- The net of a document is the total of its lines. -/
theorem net_eq_total (document : Document) (pair : Delimiters) :
    document.net pair = pair.total document.lines := by
  unfold Document.net Delimiters.total
  induction document.lines with
  | nil => rfl
  | cons line rest ih => rw [List.foldr_cons, List.map_cons, List.sum_cons, ih]

/-! ## The end of a block -/

/-- Openers less closers in the lines from the one at `first` up to the one at `last`. -/
def netBetween (document : Document) (pair : Delimiters) (first last : Nat) : Int :=
  pair.total ((document.lines.take (last + 1)).drop first)

/-- The line at `last` comes after the one at `first`, and the lines from the one up to the other are
balanced in total. -/
def ClosesAt (document : Document) (pair : Delimiters) (first last : Nat) : Prop :=
  first < last ∧ last < document.lineCount ∧ document.netBetween pair first last = 0

instance (document : Document) (pair : Delimiters) (first last : Nat) :
    Decidable (document.ClosesAt pair first last) :=
  inferInstanceAs (Decidable (_ ∧ _ ∧ _))

variable {document : Document} {pair : Delimiters} {first last close : Nat} {line : Line}

/-- The search for the end of a block begins with the net of all of its first line. -/
theorem blockClose_eq_ok (hline : document.lines[first]? = some line) :
    document.blockClose pair first =
      .ok (pair.closeFrom (pair.net line) (first + 1) (document.lines.drop (first + 1))) := by
  unfold blockClose
  rw [line_eq_ok hline]
  rfl

/-- The search goes through the lines that follow the first line of a block. -/
theorem blockClose_of_append {before after : List Line}
    (hlines : document.lines = before ++ line :: after) :
    document.blockClose pair before.length =
      .ok (pair.closeFrom (pair.net line) (before.length + 1) after) := by
  have hline : document.lines[before.length]? = some line := by simp [hlines]
  have hafter : document.lines.drop (before.length + 1) = after := by
    rw [hlines, List.drop_append, List.drop_eq_nil_of_le (by omega), Nat.add_sub_cancel_left]
    rfl
  rw [blockClose_eq_ok hline, hafter]

/-- The net from a line up to a later one is that of the line and the total of what follows it. -/
theorem netBetween_add (hline : document.lines[first]? = some line) (k : Nat) :
    document.netBetween pair first (first + 1 + k) =
      pair.net line + pair.total ((document.lines.drop (first + 1)).take (k + 1)) := by
  obtain ⟨hlt, rfl⟩ := List.getElem?_eq_some_iff.mp hline
  have hcount : first + 1 + k + 1 - first = k + 1 + 1 := by omega
  rw [netBetween, List.drop_take, hcount, List.drop_eq_getElem_cons hlt, List.take_succ_cons,
    Delimiters.total_cons]

/-- A block can be closed where the total of the lines that follow its first makes up for the net of
the first. -/
theorem closesAt_iff (hline : document.lines[first]? = some line) :
    document.ClosesAt pair first last ↔
      ∃ k, (pair.net line + pair.total ((document.lines.drop (first + 1)).take (k + 1)) = 0 ∧
        k < (document.lines.drop (first + 1)).length) ∧ first + 1 + k = last := by
  rw [ClosesAt, lineCount, List.length_drop]
  constructor
  · rintro ⟨hafter, hcount, hnet⟩
    -- The line is counted from the one behind the first line on, as the search does.
    obtain ⟨k, rfl⟩ := Nat.exists_eq_add_of_le hafter
    rw [netBetween_add hline] at hnet
    exact ⟨k, ⟨hnet, by omega⟩, rfl⟩
  · rintro ⟨k, ⟨hnet, hk⟩, rfl⟩
    rw [netBetween_add hline]
    exact ⟨by omega, by omega, hnet⟩

/-- A block is closed at the first line at which it can be. -/
theorem blockClose_eq_some_iff (hline : document.lines[first]? = some line) :
    document.blockClose pair first = .ok (some close) ↔
      IsLeast {last | document.ClosesAt pair first last} close := by
  rw [blockClose_eq_ok hline, Except.ok.injEq, Delimiters.closeFrom_eq_some_iff]
  constructor
  · rintro ⟨k, ⟨hnet, hk, hearlier⟩, rfl⟩
    refine ⟨(closesAt_iff hline).mpr ⟨k, ⟨hnet, hk⟩, rfl⟩, fun last hlast => ?_⟩
    obtain ⟨m, ⟨hzero, -⟩, rfl⟩ := (closesAt_iff hline).mp hlast
    have hle : k ≤ m := Nat.le_of_not_lt fun hlt => hearlier m hlt hzero
    omega
  · rintro ⟨hcloses, hleast⟩
    obtain ⟨k, ⟨hnet, hk⟩, rfl⟩ := (closesAt_iff hline).mp hcloses
    refine ⟨k, ⟨hnet, hk, fun m hm hzero => ?_⟩, rfl⟩
    have hle : first + 1 + k ≤ first + 1 + m :=
      hleast ((closesAt_iff hline).mpr ⟨m, ⟨hzero, by omega⟩, rfl⟩)
    omega

/-- A block is left open exactly when it can be closed nowhere. -/
theorem blockClose_eq_none_iff (hline : document.lines[first]? = some line) :
    document.blockClose pair first = .ok none ↔ ∀ last, ¬ document.ClosesAt pair first last := by
  rw [blockClose_eq_ok hline, Except.ok.injEq, Delimiters.closeFrom_eq_none_iff]
  constructor
  · intro hnone last hlast
    obtain ⟨k, ⟨hnet, hk⟩, -⟩ := (closesAt_iff hline).mp hlast
    exact hnone k hk hnet
  · intro hnone k hk hnet
    exact hnone _ ((closesAt_iff hline).mpr ⟨k, ⟨hnet, hk⟩, rfl⟩)

/-- Where there is no line to begin with, the search fails. -/
theorem blockClose_eq_error {index : Int}
    (herror : document.line index = .error (document.outside index)) :
    document.blockClose pair index = .error (document.outside index) := by
  unfold blockClose
  rw [herror]
  rfl

/-- The fault for an index outside the document is about the index, if that can be written. -/
theorem family_outside (document : Document) (index : Int) :
    (document.outside index).family = if index.natAbs < 10 ^ 4300 then .index else .value := by
  rw [outside_eq, Numeral.maxDigits]
  split
  · rfl
  · rfl

/-- The search for the end of a block fails for an index that the document does not have, and for no
other. The fault is about the index or, if it has more than 4300 digits, about its value. Otherwise the
search gives the first line after the one at the index up to which the net is zero, and nothing if
there is no such line. -/
theorem blockClose_least (document : Document) (pair : Delimiters) (index : Int) :
    ((∃ fault, document.blockClose pair index = .error fault ∧ fault.family = .index) ↔
        (index < 0 ∨ document.lineCount ≤ index) ∧ index.natAbs < 10 ^ 4300) ∧
      ((∃ fault, document.blockClose pair index = .error fault ∧ fault.family = .value) ↔
        (index < 0 ∨ document.lineCount ≤ index) ∧ 10 ^ 4300 ≤ index.natAbs) ∧
      (∀ close, document.blockClose pair index = .ok (some close) ↔
        ∃ first : Nat, index = first ∧ IsLeast {last | document.ClosesAt pair first last} close) ∧
      (document.blockClose pair index = .ok none ↔
        ∃ first : Nat, index = first ∧ first < document.lineCount ∧
          ∀ last, ¬ document.ClosesAt pair first last) := by
  obtain ⟨first, line, rfl, hline⟩ | ⟨houtside, herror⟩ := document.line_cases index
  · have hlt : first < document.lineCount := (List.getElem?_eq_some_iff.mp hline).1
    have hinside : ¬ ((first : Int) < 0 ∨ (document.lineCount : Int) ≤ first) := by omega
    have hok : ∀ family, ¬ ∃ fault, document.blockClose pair first = .error fault ∧
        fault.family = family := by
      rintro family ⟨fault, hfault, -⟩
      rw [blockClose_eq_ok hline] at hfault
      cases hfault
    refine ⟨iff_of_false (hok _) fun h => hinside h.1, iff_of_false (hok _) fun h => hinside h.1,
      fun close => ?_, ?_⟩
    · simp only [Nat.cast_inj, exists_eq_left', blockClose_eq_some_iff hline]
    · simp only [Nat.cast_inj, exists_eq_left', blockClose_eq_none_iff hline, hlt, true_and]
  · -- There is no line to begin with, and no index of a line that the last two could be about.
    have hfault : ∀ family, (∃ fault, document.blockClose pair index = .error fault ∧
        fault.family = family) ↔ (document.outside index).family = family := by
      intro family
      rw [blockClose_eq_error herror]
      simp only [Except.error.injEq, exists_eq_left']
    rw [hfault, hfault, family_outside, blockClose_eq_error herror]
    refine ⟨?_, ?_, fun close => iff_of_false nofun ?_, iff_of_false nofun ?_⟩
    · rw [and_iff_right houtside]
      split
      · next hfew => exact iff_of_true rfl hfew
      · next hmany => exact iff_of_false nofun hmany
    · rw [and_iff_right houtside, ← Nat.not_lt]
      split
      · next hfew => exact iff_of_false nofun (not_not_intro hfew)
      · next hmany => exact iff_of_true rfl hmany
    · rintro ⟨first, rfl, ⟨hafter, hcount, -⟩, -⟩
      omega
    · rintro ⟨first, rfl, hcount, -⟩
      omega

/-- An index of 4301 digits is past the only line of a text, but the fault is not about the index: it
cannot be written. -/
theorem blockClose_unwritable_index :
    let document := Document.ofText "a"
    (document.lineCount : Int) ≤ 10 ^ 4300 ∧
      ¬ (∃ fault, document.blockClose .braces (10 ^ 4300) = .error fault ∧ fault.family = .index) := by
  intro document
  have hpast : (document.lineCount : Int) ≤ 10 ^ 4300 := Int.pow_pos (by decide)
  refine ⟨hpast, ?_⟩
  rintro ⟨fault, hfault, hfamily⟩
  obtain ⟨first, line, hindex, hline⟩ | ⟨-, herror⟩ := document.line_cases (10 ^ 4300)
  · have hlt : first < document.lineCount := (List.getElem?_eq_some_iff.mp hline).1
    omega
  · rw [blockClose_eq_error herror, Except.error.injEq] at hfault
    have habs : ((10 : Int) ^ 4300).natAbs = 10 ^ 4300 := Int.natAbs_pow 10 4300
    rw [← hfault, family_outside, habs, if_neg (Nat.lt_irrefl _)] at hfamily
    cases hfamily

-- The opener is counted without overlap, so that the running net is 1, then -1, and then zero.
example :
    let document : Document := ⟨["===".toList, ">>".toList, "==".toList], by decide⟩
    let pair : Delimiters := ⟨"==".toList, ">".toList⟩
    document.blockClose pair 0 = .ok (some 2) ∧ ¬ document.ClosesAt pair 0 1 :=
  ⟨by rfl, by decide⟩

end Document

end ScriptLint
