import ScriptLint.Decimal.Layout
import ScriptLint.Text.Printable
import ScriptLint.Value.Basic

/-!
# Values in messages

A message shows a value as a literal from which it can be told what value it is. Texts and byte
strings are quoted, by single quotes unless there is one inside and no double one, and what cannot
be printed is escaped. Lists and dictionaries show their parts in order.
-/

namespace ScriptLint

namespace Value

/-- Numbers are written positionally from one ten-thousandth up to sixteen digits before the point,
and exponents have two digits at least. -/
def numberLayout : Decimal.Layout := ⟨-3, 16, 2⟩

/-- A code as hexadecimal digits of a fixed width. -/
def hexadecimal (width code : Nat) : List Char :=
  Decimal.Layout.padZeros width (Nat.toDigits 16 code)

/-- The quote for a text of the given characters. -/
def quoteFor (cs : List Char) : Char :=
  if cs.contains '\'' && !cs.contains '"' then '"' else '\''

/-- The escapes that the quoted forms have in common: the quote, the backslash and three control
characters. -/
def escape? (quote c : Char) : Option (List Char) :=
  if c = quote ∨ c = '\\' then some ['\\', c]
  else if c = '\n' then some ['\\', 'n']
  else if c = '\r' then some ['\\', 'r']
  else if c = '\t' then some ['\\', 't']
  else none

/-- A character in a quoted text. -/
def quotedChar (quote c : Char) : List Char :=
  match escape? quote c with
  | some escaped => escaped
  | none =>
    let n := c.toNat
    if isPrintable c then [c]
    else if n < 0x100 then '\\' :: 'x' :: hexadecimal 2 n
    else if n < 0x10000 then '\\' :: 'u' :: hexadecimal 4 n
    else '\\' :: 'U' :: hexadecimal 8 n

/-- A text between quotes. -/
def quoted (s : String) : String :=
  let cs := s.toList
  let quote := quoteFor cs
  String.ofList (quote :: (cs.flatMap (quotedChar quote) ++ [quote]))

/-- A byte in a quoted byte string. -/
def quotedByte (quote : Char) (b : UInt8) : List Char :=
  let c := Char.ofNat b.toNat
  match escape? quote c with
  | some escaped => escaped
  | none => if 0x20 ≤ b && b < 0x7f then [c] else '\\' :: 'x' :: hexadecimal 2 b.toNat

/-- A byte string between quotes. -/
def quotedBytes (bs : List UInt8) : String :=
  let quote := quoteFor (bs.map fun b => Char.ofNat b.toNat)
  String.ofList ('b' :: quote :: (bs.flatMap (quotedByte quote) ++ [quote]))

mutual

/-- A value as a literal. -/
def literal : Value → String
  | .null => "None"
  | .flag true => "True"
  | .flag false => "False"
  | .integer n => toString n
  | .real x => numberLayout.write x
  | .text s => quoted s
  | .bytes bs => quotedBytes bs
  | .list items => "[" ++ ", ".intercalate (literals items) ++ "]"
  | .dictionary entries => "\x7b" ++ ", ".intercalate (entryLiterals entries) ++ "\x7d"

/-- Values as literals. -/
def literals : List Value → List String
  | [] => []
  | v :: rest => literal v :: literals rest

/-- The entries of a dictionary as literals. -/
def entryLiterals : List (Value × Value) → List String
  | [] => []
  | (key, v) :: rest => (literal key ++ ": " ++ literal v) :: entryLiterals rest

end

/-- A value as it stands in running text: a text as it is, and any other value as a literal. -/
def display : Value → String
  | .text s => s
  | v => v.literal

end Value

end ScriptLint
