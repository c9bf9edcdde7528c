import ScriptLint.Fault

/-!
# Reading files as text

The bytes of a file are UTF-8, and nothing else is accepted. The decoder goes through the bytes one
at a time; between two characters nothing is pending, and within one it knows which bytes it has
seen and which it may see next. Line endings of all three kinds are read as line feeds.
-/

namespace ScriptLint.Utf8

/-- What has been seen of a character that is not complete. -/
structure Pending where
  /-- The offset of the first byte. -/
  position : Nat
  /-- The bytes seen so far, the last one first. -/
  seen : List UInt8
  /-- The code point as far as it is known. -/
  code : Nat
  /-- How many bytes are to come. -/
  owed : Nat
  /-- The least value that the next byte may have. -/
  least : Nat
  /-- The greatest such value. -/
  greatest : Nat
  deriving DecidableEq, Repr

/-- What a byte that begins a character of several bytes calls for. The second byte is limited where
a character would otherwise have a shorter form, be a surrogate, or lie beyond the last code
point. -/
def begin? (position : Nat) (byte : UInt8) : Option Pending :=
  let n := byte.toNat
  let start (code owed least greatest : Nat) : Option Pending :=
    some ⟨position, [byte], code, owed, least, greatest⟩
  if 0xc2 ≤ n ∧ n ≤ 0xdf then start (n - 0xc0) 1 0x80 0xbf
  else if n = 0xe0 then start 0 2 0xa0 0xbf
  else if n = 0xed then start 0xd 2 0x80 0x9f
  else if 0xe1 ≤ n ∧ n ≤ 0xef then start (n - 0xe0) 2 0x80 0xbf
  else if n = 0xf0 then start 0 3 0x90 0xbf
  else if 0xf1 ≤ n ∧ n ≤ 0xf3 then start (n - 0xf0) 3 0x80 0xbf
  else if n = 0xf4 then start 4 3 0x80 0x8f
  else none

/-- The fault that the bytes of a character are not followed by what they call for. -/
def Pending.fault (p : Pending) (defect : Utf8Defect) : Fault :=
  .notUtf8 p.position p.seen.reverse defect

/-- Decodes the bytes from an offset on. The characters before them are `done`, the last one first,
and one may be pending. -/
def decodeFrom (position : Nat) (done : List Char) (pending : Option Pending) :
    List UInt8 → Except Fault (List Char)
  | [] =>
    match pending with
    | none => .ok done.reverse
    | some p => .error (p.fault .truncated)
  | byte :: rest =>
    let n := byte.toNat
    match pending with
    | none =>
      if n < 0x80 then decodeFrom (position + 1) (Char.ofNat n :: done) none rest
      else
        match begin? position byte with
        | some p => decodeFrom (position + 1) done (some p) rest
        | none => .error (.notUtf8 position [byte] .invalidStart)
    | some p =>
      if p.least ≤ n ∧ n ≤ p.greatest then
        let code := 64 * p.code + (n - 0x80)
        if p.owed ≤ 1 then decodeFrom (position + 1) (Char.ofNat code :: done) none rest
        else
          decodeFrom (position + 1) done
            (some ⟨p.position, byte :: p.seen, code, p.owed - 1, 0x80, 0xbf⟩) rest
      else .error (p.fault .invalidContinuation)

/-- The characters that bytes stand for. -/
def decode (bytes : List UInt8) : Except Fault (List Char) := decodeFrom 0 [] none bytes

/-- The text after `done`, whose last character stands first, with each carriage return, and each
carriage return with the line feed after it, made a line feed. -/
def lineFeedsFrom (done : List Char) : List Char → List Char
  | [] => done.reverse
  | '\r' :: '\n' :: rest => lineFeedsFrom ('\n' :: done) rest
  | '\r' :: rest => lineFeedsFrom ('\n' :: done) rest
  | c :: rest => lineFeedsFrom (c :: done) rest

/-- The text with line feeds for all line endings. -/
def lineFeeds (text : List Char) : List Char := lineFeedsFrom [] text

/-- The text of a file with the given bytes. -/
def readText (bytes : List UInt8) : Except Fault String :=
  (decode bytes).map fun text => String.ofList (lineFeeds text)

end ScriptLint.Utf8
