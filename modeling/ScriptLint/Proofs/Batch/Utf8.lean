import Mathlib.Tactic.SplitIfs
import ScriptLint.Batch.Utf8

/-!
# The decoder accepts exactly UTF-8

The decoder reads a byte at a time and keeps what it has seen of a character. Here it is held to the
encoding of characters that the standard library gives: bytes are decoded to a text exactly when they
are the UTF-8 form of that text (`decode_eq_ok_iff`), so that bytes that are no such form, and only
those, are refused.

The proof goes from one character outwards. `Form` is the encoding of a character by the size of its
code point. `Pending.Completes` says which bytes a pending character can still be followed by, and what
it is then. A first byte calls for just the bytes that give a form (`completes_begin?`), where the
limits of the second byte keep out what has a shorter form, surrogates, and what is beyond the last
code point. The decoder then takes one form after the other (`decodeFrom_none_eq_ok_iff`).
-/

namespace ScriptLint.Utf8

/-- The UTF-8 form of a text. -/
def encode (text : List Char) : List UInt8 := text.flatMap String.utf8EncodeChar

theorem encode_cons (c : Char) (text : List Char) :
    encode (c :: text) = String.utf8EncodeChar c ++ encode text := List.flatMap_cons

/-! ## The form of a character -/

/-- The bytes are the UTF-8 form of a character, by the size of its code point. -/
inductive Form (c : Char) : List UInt8 → Prop where
  | one {a : UInt8} (hsize : c.toNat < 0x80) (ha : a.toNat = c.toNat) : Form c [a]
  | two {a b : UInt8} (hleast : 0x80 ≤ c.toNat) (hsize : c.toNat < 0x800)
      (ha : a.toNat = 0xc0 + c.toNat / 64) (hb : b.toNat = 0x80 + c.toNat % 64) : Form c [a, b]
  | three {a b d : UInt8} (hleast : 0x800 ≤ c.toNat) (hsize : c.toNat < 0x10000)
      (ha : a.toNat = 0xe0 + c.toNat / 4096) (hb : b.toNat = 0x80 + c.toNat / 64 % 64)
      (hd : d.toNat = 0x80 + c.toNat % 64) : Form c [a, b, d]
  | four {a b d e : UInt8} (hleast : 0x10000 ≤ c.toNat)
      (ha : a.toNat = 0xf0 + c.toNat / 262144) (hb : b.toNat = 0x80 + c.toNat / 4096 % 64)
      (hd : d.toNat = 0x80 + c.toNat / 64 % 64) (he : e.toNat = 0x80 + c.toNat % 64) :
      Form c [a, b, d, e]

/-- The code point of a character is no surrogate and not beyond the last one. -/
theorem toNat_valid (c : Char) : c.toNat < 0xd800 ∨ (0xdfff < c.toNat ∧ c.toNat < 0x110000) := c.valid

/-- A character is known by its code point. -/
theorem char_eq_iff {n : Nat} (h : n < 0xd800 ∨ (0xdfff < n ∧ n < 0x110000)) {c : Char} :
    c = Char.ofNat n ↔ c.toNat = n := by
  have hvalid : n.isValidChar := h
  have hcode : (Char.ofNat n).toNat = n := by
    rw [Char.ofNat, dif_pos hvalid]
    exact Char.toNat_val
  constructor
  · rintro rfl
    exact hcode
  · intro hn
    rw [← Char.toNat_inj, hcode, hn]

/-- A character is encoded in its form. -/
theorem form_utf8EncodeChar (c : Char) : Form c (String.utf8EncodeChar c) := by
  have hvalid := toNat_valid c
  have hbyte : ∀ n < 256, (UInt8.ofNat n).toNat = n := by
    intro n hn
    rw [UInt8.toNat_ofNat', Nat.mod_eq_of_lt hn]
  unfold String.utf8EncodeChar
  rw [Char.toNat_val]
  dsimp only
  split_ifs
  · refine .one (by omega) ?_
    rw [hbyte _ (by omega)]
  · refine .two (by omega) (by omega) ?_ ?_
    · rw [hbyte _ (by omega)]
      omega
    · rw [hbyte _ (by omega)]
      omega
  · refine .three (by omega) (by omega) ?_ ?_ ?_
    · rw [hbyte _ (by omega)]
      omega
    · rw [hbyte _ (by omega)]
      omega
    · rw [hbyte _ (by omega)]
      omega
  · refine .four (by omega) ?_ ?_ ?_ ?_
    · rw [hbyte _ (by omega)]
      omega
    · rw [hbyte _ (by omega)]
      omega
    · rw [hbyte _ (by omega)]
      omega
    · rw [hbyte _ (by omega)]
      omega

/-- A character has one form. -/
theorem Form.unique {c : Char} {bytes bytes' : List UInt8} (h : Form c bytes)
    (h' : Form c bytes') : bytes = bytes' := by
  cases h with
  | one hsize ha =>
    cases h' with
    | one _ ha' =>
      obtain rfl := UInt8.toNat_inj.mp (ha.trans ha'.symm)
      rfl
    | _ => omega
  | two hleast hsize ha hb =>
    cases h' with
    | two _ _ ha' hb' =>
      obtain rfl := UInt8.toNat_inj.mp (ha.trans ha'.symm)
      obtain rfl := UInt8.toNat_inj.mp (hb.trans hb'.symm)
      rfl
    | _ => omega
  | three hleast hsize ha hb hd =>
    cases h' with
    | three _ _ ha' hb' hd' =>
      obtain rfl := UInt8.toNat_inj.mp (ha.trans ha'.symm)
      obtain rfl := UInt8.toNat_inj.mp (hb.trans hb'.symm)
      obtain rfl := UInt8.toNat_inj.mp (hd.trans hd'.symm)
      rfl
    | _ => omega
  | four hleast ha hb hd he =>
    cases h' with
    | four _ ha' hb' hd' he' =>
      obtain rfl := UInt8.toNat_inj.mp (ha.trans ha'.symm)
      obtain rfl := UInt8.toNat_inj.mp (hb.trans hb'.symm)
      obtain rfl := UInt8.toNat_inj.mp (hd.trans hd'.symm)
      obtain rfl := UInt8.toNat_inj.mp (he.trans he'.symm)
      rfl
    | _ => omega

/-- The form of a character is its encoding. -/
theorem form_iff {c : Char} {bytes : List UInt8} :
    Form c bytes ↔ String.utf8EncodeChar c = bytes := by
  constructor
  · exact (form_utf8EncodeChar c).unique
  · rintro rfl
    exact form_utf8EncodeChar c

/-! ## What a pending character is followed by -/

namespace Pending

/-- The byte may be the next one. -/
def Admits (p : Pending) (byte : UInt8) : Prop := p.least ≤ byte.toNat ∧ byte.toNat ≤ p.greatest

/-- The code point as far as it is known with one more byte. -/
def codeWith (p : Pending) (byte : UInt8) : Nat := 64 * p.code + (byte.toNat - 0x80)

/-- The pending character with one more byte, which is not its last. -/
def next (p : Pending) (byte : UInt8) : Pending :=
  ⟨p.position, byte :: p.seen, p.codeWith byte, p.owed - 1, 0x80, 0xbf⟩

/-- The bytes are what is to come of a pending character, which is then `c`. -/
inductive Completes (c : Char) : Pending → List UInt8 → Prop where
  | last {p : Pending} {byte : UInt8} (hadmits : p.Admits byte) (howed : p.owed ≤ 1)
      (hc : c = Char.ofNat (p.codeWith byte)) : Completes c p [byte]
  | more {p : Pending} {byte : UInt8} {rest : List UInt8} (hadmits : p.Admits byte)
      (howed : 1 < p.owed) (hrest : Completes c (p.next byte) rest) : Completes c p (byte :: rest)

variable {c : Char} {p : Pending} {bytes : List UInt8}

/-- Where one byte is owed, that byte is to come. -/
theorem completes_last_iff (howed : p.owed ≤ 1) :
    p.Completes c bytes ↔
      ∃ byte, bytes = [byte] ∧ p.Admits byte ∧ c = Char.ofNat (p.codeWith byte) := by
  constructor
  · intro h
    cases h with
    | last hadmits _ hc => exact ⟨_, rfl, hadmits, hc⟩
    | more _ hmore _ => omega
  · rintro ⟨byte, rfl, hadmits, hc⟩
    exact .last hadmits howed hc

/-- Where several bytes are owed, one is to come and then the others. -/
theorem completes_more_iff (howed : 1 < p.owed) :
    p.Completes c bytes ↔
      ∃ byte rest, bytes = byte :: rest ∧ p.Admits byte ∧ (p.next byte).Completes c rest := by
  constructor
  · intro h
    cases h with
    | last _ hlast _ => omega
    | more hadmits _ hrest => exact ⟨_, _, rfl, hadmits, hrest⟩
  · rintro ⟨byte, rest, rfl, hadmits, hrest⟩
    exact .more hadmits howed hrest

end Pending

section Lead

variable {position code least greatest : Nat} {a : UInt8} {tail : List UInt8} {c : Char}

/-- The first of two bytes calls for what gives a form. -/
theorem completes_two (hlow : 0xc2 ≤ a.toNat) (hhigh : a.toNat ≤ 0xdf) :
    Pending.Completes c ⟨position, [a], a.toNat - 0xc0, 1, 0x80, 0xbf⟩ tail ↔
      Form c (a :: tail) := by
  rw [Pending.completes_last_iff (Nat.le_refl 1)]
  constructor
  · rintro ⟨b, rfl, ⟨hb, hb'⟩, hc⟩
    dsimp only [Pending.codeWith] at hb hb' hc
    rw [char_eq_iff (by omega)] at hc
    exact .two (by omega) (by omega) (by omega) (by omega)
  · intro h
    cases h with
    | @two _ b hleast hsize ha hb =>
      refine ⟨b, rfl, ⟨?_, ?_⟩, ?_⟩
      · dsimp only
        omega
      · dsimp only
        omega
      · dsimp only [Pending.codeWith]
        rw [char_eq_iff (by omega)]
        omega
    | _ => omega

/-- The first of three bytes calls for what gives a form, if the second byte is kept from what has a
shorter form and from surrogates. -/
theorem completes_three (hcode : a.toNat = 0xe0 + code) (hlast : code ≤ 0xf)
    (hsecond : ∀ n, least ≤ n ∧ n ≤ greatest ↔
      (0x80 ≤ n ∧ n ≤ 0xbf) ∧ (code = 0 → 0xa0 ≤ n) ∧ (code = 0xd → n ≤ 0x9f)) :
    Pending.Completes c ⟨position, [a], code, 2, least, greatest⟩ tail ↔ Form c (a :: tail) := by
  have hvalid := toNat_valid c
  rw [Pending.completes_more_iff (by decide : 1 < 2)]
  constructor
  · rintro ⟨b, rest, rfl, hb, hrest⟩
    obtain ⟨d, rfl, ⟨hd, hd'⟩, hc⟩ := (Pending.completes_last_iff (Nat.le_refl 1)).mp hrest
    replace hb := (hsecond _).mp hb
    dsimp only [Pending.next, Pending.codeWith] at hd hd' hc
    rw [char_eq_iff (by omega)] at hc
    exact .three (by omega) (by omega) (by omega) (by omega) (by omega)
  · intro h
    cases h with
    | @three _ b d hleast hsize ha hb hd =>
      refine ⟨b, [d], rfl, (hsecond _).mpr (by omega), .last ⟨?_, ?_⟩ (Nat.le_refl 1) ?_⟩
      · dsimp only [Pending.next]
        omega
      · dsimp only [Pending.next]
        omega
      · dsimp only [Pending.next, Pending.codeWith]
        rw [char_eq_iff (by omega)]
        omega
    | _ => omega

/-- The first of four bytes calls for what gives a form, if the second byte is kept from what has a
shorter form and from what is beyond the last code point. -/
theorem completes_four (hcode : a.toNat = 0xf0 + code) (hlast : code ≤ 4)
    (hsecond : ∀ n, least ≤ n ∧ n ≤ greatest ↔
      (0x80 ≤ n ∧ n ≤ 0xbf) ∧ (code = 0 → 0x90 ≤ n) ∧ (code = 4 → n ≤ 0x8f)) :
    Pending.Completes c ⟨position, [a], code, 3, least, greatest⟩ tail ↔ Form c (a :: tail) := by
  have hvalid := toNat_valid c
  rw [Pending.completes_more_iff (by decide : 1 < 3)]
  constructor
  · rintro ⟨b, rest, rfl, hb, hrest⟩
    obtain ⟨d, rest, rfl, ⟨hd, hd'⟩, hrest⟩ :=
      (Pending.completes_more_iff (by decide : 1 < 2)).mp hrest
    obtain ⟨e, rfl, ⟨he, he'⟩, hc⟩ := (Pending.completes_last_iff (Nat.le_refl 1)).mp hrest
    replace hb := (hsecond _).mp hb
    dsimp only [Pending.next, Pending.codeWith] at hd hd' he he' hc
    rw [char_eq_iff (by omega)] at hc
    exact .four (by omega) (by omega) (by omega) (by omega) (by omega)
  · intro h
    cases h with
    | @four _ b d e hleast ha hb hd he =>
      refine ⟨b, [d, e], rfl, (hsecond _).mpr (by omega),
        .more ⟨?_, ?_⟩ (by decide : 1 < 2) (.last ⟨?_, ?_⟩ (Nat.le_refl 1) ?_)⟩
      · dsimp only [Pending.next]
        omega
      · dsimp only [Pending.next]
        omega
      · dsimp only [Pending.next]
        omega
      · dsimp only [Pending.next]
        omega
      · dsimp only [Pending.next, Pending.codeWith]
        rw [char_eq_iff (by omega)]
        omega
    | _ => omega

/-- What a first byte calls for is what gives a form. -/
theorem completes_begin? {p : Pending} (h : begin? position a = some p) :
    p.Completes c tail ↔ Form c (a :: tail) := by
  simp only [begin?] at h
  split_ifs at h with hn
  · cases h
    exact completes_two hn.1 hn.2
  · cases h
    exact completes_three (by omega) (by omega) (by omega)
  · cases h
    exact completes_three (by omega) (by omega) (by omega)
  · cases h
    exact completes_three (by omega) (by omega) (by omega)
  · cases h
    exact completes_four (by omega) (by omega) (by omega)
  · cases h
    exact completes_four (by omega) (by omega) (by omega)
  · cases h
    exact completes_four (by omega) (by omega) (by omega)

/-- The first byte of a form of several bytes calls for others. -/
theorem exists_begin? (h : Form c (a :: tail)) (ha : 0x80 ≤ a.toNat) (position : Nat) :
    ∃ p, begin? position a = some p := by
  have hvalid := toNat_valid c
  have hlead : 0xc2 ≤ a.toNat ∧ a.toNat ≤ 0xf4 := by
    cases h <;> omega
  cases hbegin : begin? position a with
  | some p => exact ⟨p, rfl⟩
  | none =>
    simp only [begin?] at hbegin
    split_ifs at hbegin
    omega

/-- A byte below the first bytes of longer forms is a form of its own. -/
theorem form_iff_of_lt (ha : a.toNat < 0x80) :
    Form c (a :: tail) ↔ tail = [] ∧ c = Char.ofNat a.toNat := by
  rw [char_eq_iff (by omega)]
  constructor
  · intro h
    cases h with
    | one _ ha => exact ⟨rfl, ha.symm⟩
    | _ => omega
  · rintro ⟨rfl, hc⟩
    exact .one (by omega) hc.symm

end Lead

/-! ## The decoder -/

section

variable {position : Nat} {done text : List Char} {bytes : List UInt8}

/-- With a character pending, the decoder takes the bytes that complete it and goes on after them. -/
theorem decodeFrom_some_eq_ok_iff {p : Pending} :
    decodeFrom position done (some p) bytes = .ok text ↔
      ∃ tail rest c, bytes = tail ++ rest ∧ p.Completes c tail ∧
        decodeFrom (position + tail.length) (c :: done) none rest = .ok text := by
  induction bytes generalizing position p with
  | nil =>
    refine iff_of_false (by simp [decodeFrom]) ?_
    rintro ⟨tail, rest, c, hbytes, hcompletes, -⟩
    obtain ⟨rfl, -⟩ := List.append_eq_nil_iff.mp hbytes.symm
    cases hcompletes
  | cons byte bytes ih =>
    rw [decodeFrom.eq_def]
    dsimp only
    by_cases hadmits : p.least ≤ byte.toNat ∧ byte.toNat ≤ p.greatest
    · rw [if_pos hadmits]
      by_cases howed : p.owed ≤ 1
      · -- The byte is the last one of the character.
        rw [if_pos howed]
        constructor
        · intro h
          exact ⟨[byte], bytes, _, rfl, .last hadmits howed rfl, h⟩
        · rintro ⟨tail, rest, c, hbytes, hcompletes, h⟩
          cases hcompletes with
          | last _ _ hc =>
            cases hbytes
            rwa [hc] at h
          | more _ hmore _ => omega
      · rw [if_neg howed, ih]
        constructor
        · rintro ⟨tail, rest, c, rfl, hcompletes, h⟩
          refine ⟨byte :: tail, rest, c, rfl, .more hadmits (by omega) hcompletes, ?_⟩
          rwa [List.length_cons, Nat.add_comm tail.length, ← Nat.add_assoc]
        · rintro ⟨tail, rest, c, hbytes, hcompletes, h⟩
          cases hcompletes with
          | last _ hlast _ => omega
          | more _ _ hrest =>
            cases hbytes
            refine ⟨_, rest, c, rfl, hrest, ?_⟩
            rwa [List.length_cons, Nat.add_comm _ 1, ← Nat.add_assoc] at h
    · rw [if_neg hadmits]
      refine iff_of_false (by simp) ?_
      rintro ⟨tail, rest, c, hbytes, hcompletes, -⟩
      cases hcompletes with
      | last h _ _ =>
        cases hbytes
        exact hadmits h
      | more h _ _ =>
        cases hbytes
        exact hadmits h

/-- Between two characters, the decoder takes a form and goes on after it. -/
theorem decodeFrom_none_eq_ok_iff {a : UInt8} :
    decodeFrom position done none (a :: bytes) = .ok text ↔
      ∃ tail rest c, bytes = tail ++ rest ∧ Form c (a :: tail) ∧
        decodeFrom (position + 1 + tail.length) (c :: done) none rest = .ok text := by
  rw [decodeFrom.eq_def]
  dsimp only
  by_cases ha : a.toNat < 0x80
  · rw [if_pos ha]
    constructor
    · intro h
      exact ⟨[], bytes, _, rfl, (form_iff_of_lt ha).mpr ⟨rfl, rfl⟩, h⟩
    · rintro ⟨tail, rest, c, rfl, hform, h⟩
      obtain ⟨rfl, rfl⟩ := (form_iff_of_lt ha).mp hform
      exact h
  · rw [if_neg ha]
    cases hbegin : begin? position a with
    | none =>
      refine iff_of_false (by simp) ?_
      rintro ⟨tail, rest, c, -, hform, -⟩
      obtain ⟨p, hp⟩ := exists_begin? hform (by omega) position
      rw [hbegin] at hp
      cases hp
    | some p =>
      dsimp only
      rw [decodeFrom_some_eq_ok_iff]
      simp only [completes_begin? hbegin]

/-- The form of a text is decoded to it, after the characters that are done. -/
theorem decodeFrom_encode (more : List Char) :
    decodeFrom position done none (encode more) = .ok (done.reverse ++ more) := by
  induction more generalizing position done with
  | nil =>
    rw [List.append_nil]
    rfl
  | cons c more ih =>
    obtain ⟨a, tail, hform⟩ := List.exists_cons_of_ne_nil (@String.utf8EncodeChar_ne_nil c)
    have hbytes : encode (c :: more) = a :: (tail ++ encode more) := by
      rw [encode_cons, hform, List.cons_append]
    rw [hbytes, decodeFrom_none_eq_ok_iff]
    refine ⟨tail, encode more, c, rfl, form_iff.mpr hform, ?_⟩
    rw [ih, List.reverse_cons, List.append_assoc]
    rfl

/-- Bytes that are decoded are the form of what they are decoded to. -/
theorem exists_encode_of_decodeFrom (h : decodeFrom position done none bytes = .ok text) :
    ∃ more, bytes = encode more ∧ text = done.reverse ++ more := by
  -- A character takes at least one byte, so the induction is on how many are left.
  induction hlength : bytes.length using Nat.strongRecOn generalizing position done bytes with
  | ind n ih =>
    cases bytes with
    | nil =>
      cases h
      exact ⟨[], rfl, (List.append_nil _).symm⟩
    | cons a bytes =>
      obtain ⟨tail, rest, c, rfl, hform, hrest⟩ := decodeFrom_none_eq_ok_iff.mp h
      have hshorter : rest.length < n := by
        rw [← hlength, List.length_cons, List.length_append]
        omega
      obtain ⟨more, rfl, rfl⟩ := ih _ hshorter hrest rfl
      refine ⟨c :: more, ?_, ?_⟩
      · rw [encode_cons, form_iff.mp hform, List.cons_append]
      · rw [List.reverse_cons, List.append_assoc]
        rfl

/-- Bytes are decoded to a text exactly when they are its UTF-8 form. -/
theorem decode_eq_ok_iff : decode bytes = .ok text ↔ bytes = encode text := by
  constructor
  · intro h
    obtain ⟨more, hbytes, rfl⟩ := exists_encode_of_decodeFrom h
    exact hbytes
  · rintro rfl
    exact decodeFrom_encode text

end

end ScriptLint.Utf8
