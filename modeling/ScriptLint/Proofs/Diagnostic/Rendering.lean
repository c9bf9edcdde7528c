import ScriptLint.Diagnostic.Report
import ScriptLint.Proofs.Text.Numeral

/-!
# Diagnostics as lines of text

A diagnostic is printed as its place, its severity, its code and its message, with colons and spaces
between them. None of these is quoted, but a numeral has no colon, and neither a severity nor a code that
is one word has a space, so that each part ends where the first separator stands. `render_inj` reads the
parts back: lines that are equal, after the same path, are those of diagnostics with the same place,
severity, code and message.

`write` prints the same line where the numerals do not have too many digits, and there is no line
otherwise (`write_eq`).
-/

namespace ScriptLint

/-- What stands before the first separator and after it is determined. -/
theorem append_cons_inj {separator : Char} {a b rest rest' : List Char} (ha : separator ∉ a)
    (hb : separator ∉ b) (h : a ++ separator :: rest = b ++ separator :: rest') :
    a = b ∧ rest = rest' := by
  have hparts := congrArg (List.splitOn separator) h
  rw [List.splitOn_append_cons_self_of_not_mem ha, List.splitOn_append_cons_self_of_not_mem hb]
    at hparts
  obtain ⟨rfl, -⟩ := List.cons.inj hparts
  exact ⟨rfl, (List.cons.inj (List.append_cancel_left h)).2⟩

namespace Diagnostic

/-- What stands before the place of a diagnostic on its line. -/
def pathPart : Option String → List Char
  | some path => path.toList ++ [':']
  | none => []

/-- The line of a diagnostic, as its parts and the separators between them. -/
theorem toList_render (d : Diagnostic) (path : Option String) :
    (d.render path).toList = pathPart path ++
      (Nat.toDigits 10 (d.range.start.line + 1) ++ ':' ::
        (Nat.toDigits 10 (d.range.start.column + 1) ++ ':' ::
          ' ' :: (d.severity.name.toList ++ ' ' :: (d.code.toList ++ ' ' :: d.message.toList)))) := by
  cases path with
  | none => simp [render, renderAt, pathPart, toString]
  | some path => simp [render, renderAt, pathPart, toString]

/-- The severity and the code of a diagnostic are one word each. -/
structure IsPlain (d : Diagnostic) : Prop where
  severity : ' ' ∉ d.severity.name.toList
  code : ' ' ∉ d.code.toList

/-- The line of a diagnostic whose severity and code are one word each determines its place, its
severity, its code and its message. -/
theorem render_inj {a b : Diagnostic} (ha : a.IsPlain) (hb : b.IsPlain) {path : Option String}
    (h : a.render path = b.render path) :
    a.range.start = b.range.start ∧ a.severity.name = b.severity.name ∧ a.code = b.code ∧
      a.message = b.message := by
  have hlines := congrArg String.toList h
  rw [toList_render, toList_render] at hlines
  have hplace := List.append_cancel_left hlines
  obtain ⟨hline, hrest⟩ := append_cons_inj (Numeral.colon_not_mem_toDigits _)
    (Numeral.colon_not_mem_toDigits _) hplace
  obtain ⟨hcolumn, hrest⟩ := append_cons_inj (Numeral.colon_not_mem_toDigits _)
    (Numeral.colon_not_mem_toDigits _) hrest
  obtain ⟨hseverity, hrest⟩ := append_cons_inj ha.severity hb.severity (List.cons.inj hrest).2
  obtain ⟨hcode, hmessage⟩ := append_cons_inj ha.code hb.code hrest
  have hline := Numeral.toDigits_inj hline
  have hcolumn := Numeral.toDigits_inj hcolumn
  refine ⟨?_, String.toList_inj.mp hseverity, String.toList_inj.mp hcode,
    String.toList_inj.mp hmessage⟩
  calc a.range.start = ⟨a.range.start.line, a.range.start.column⟩ := rfl
    _ = ⟨b.range.start.line, b.range.start.column⟩ := by
      rw [Nat.add_right_cancel hline, Nat.add_right_cancel hcolumn]
    _ = b.range.start := rfl

/-- A diagnostic is written as its line, if the numerals of its place do not have too many digits. -/
theorem write_eq (d : Diagnostic) (path : Option String) :
    d.write path =
      if d.range.start.line + 1 < 10 ^ Numeral.maxDigits ∧
          d.range.start.column + 1 < 10 ^ Numeral.maxDigits then .ok (d.render path)
      else .error .tooManyDigits := by
  unfold write
  rw [Numeral.write_eq, Numeral.write_eq]
  generalize 10 ^ Numeral.maxDigits = limit
  by_cases hline : d.range.start.line + 1 < limit
  · by_cases hcolumn : d.range.start.column + 1 < limit
    · simp only [hline, hcolumn, and_self, if_true]
      rfl
    · simp only [hline, hcolumn, and_false, if_true, if_false]
      rfl
  · simp only [hline, false_and, if_false]
    rfl

end Diagnostic

end ScriptLint
