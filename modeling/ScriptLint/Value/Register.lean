import ScriptLint.Decimal.Shortest
import ScriptLint.Fault

/-!
# Registers

A register keeps data under identities, in the order in which the identities arrived. Identities are
values, and are told apart by their *keys*: numbers that are equal have the same key, whatever their
kind, and a flag counts as one or zero. What is not a number is not equal to itself, so it has no key
and is new every time; lists and dictionaries are no identities at all. Data that is put under a known
identity takes the place of the old data, and the identity stays as it first arrived.
-/

namespace ScriptLint

/-- What an identity is recognised by. -/
inductive Key where
  | null
  | number (n : Int)
  /-- A floating-point number that is no integer, by its bits. -/
  | fraction (bits : UInt64)
  | text (s : String)
  | bytes (bs : List UInt8)
  deriving DecidableEq, Repr

/-- The integer that a floating-point number is equal to. -/
def integerOf? (x : Float) : Option Int :=
  if x.isNaN || x.isInf then none
  else
    let size := Decimal.Dyadic.ofBits x.toBits
    let (numerator, denominator) := size.quotient
    if numerator % denominator = 0 then
      let n : Int := (numerator / denominator : Nat)
      some (if Decimal.isSigned x.toBits then -n else n)
    else none

/-- A value that data can be kept under, with its key if it can be recognised. -/
structure Identity where
  shown : Value
  key : Option Key

/-- Whether two identities are the same: one that cannot be recognised is not even the same as
itself. -/
def Identity.same (a b : Identity) : Bool := a.key.isSome && a.key = b.key

/-- The identity that a value stands for. -/
def Identity.ofValue (v : Value) : Except Fault Identity :=
  match v with
  | .null => .ok ⟨v, some .null⟩
  | .flag b => .ok ⟨v, some (.number (if b then 1 else 0))⟩
  | .integer n => .ok ⟨v, some (.number n)⟩
  | .real x =>
    if x.isNaN then .ok ⟨v, none⟩
    else
      match integerOf? x with
      | some n => .ok ⟨v, some (.number n)⟩
      | none => .ok ⟨v, some (.fraction x.toBits)⟩
  | .text s => .ok ⟨v, some (.text s)⟩
  | .bytes bs => .ok ⟨v, some (.bytes bs)⟩
  | .list _ => .error (.notAKey .list)
  | .dictionary _ => .error (.notAKey .dictionary)

/-- Data under identities, in order of arrival. -/
structure Register (α : Type) where
  entries : List (Identity × α)

namespace Register

variable {α : Type}

/-- The register without data. -/
def empty : Register α := ⟨[]⟩

instance : Inhabited (Register α) := ⟨empty⟩

/-- The entries with data put under an identity. -/
def insertEntry (id : Identity) (a : α) : List (Identity × α) → List (Identity × α)
  | [] => [(id, a)]
  | (old, b) :: rest =>
    if old.same id then (old, a) :: rest else (old, b) :: insertEntry id a rest

/-- Puts data under an identity. -/
def insert (r : Register α) (id : Identity) (a : α) : Register α := ⟨insertEntry id a r.entries⟩

/-- The data under an identity. -/
def get? (r : Register α) (id : Identity) : Option α :=
  (r.entries.find? fun entry => entry.1.same id).map (·.2)

/-- Whether there is data under an identity. -/
def contains (r : Register α) (id : Identity) : Bool := r.entries.any fun entry => entry.1.same id

/-- Takes out the data under an identity. -/
def erase (r : Register α) (id : Identity) : Register α :=
  ⟨r.entries.filter fun entry => !entry.1.same id⟩

/-- Takes out the data under the identity that a value stands for. There is nothing to look up in a
register without data, so any value will do for it. -/
def eraseValue (r : Register α) (v : Value) : Except Fault (Register α) :=
  if r.entries.isEmpty then .ok r
  else (Identity.ofValue v).map fun id => r.erase id

/-- The identities that data is kept under. -/
def identities (r : Register α) : List Identity := r.entries.map (·.1)

/-- How many identities data is kept under. -/
def size (r : Register α) : Nat := r.entries.length

/-- Puts data under the identity that a value stands for. -/
def insertValue (r : Register α) (v : Value) (a : α) : Except Fault (Register α) :=
  (Identity.ofValue v).map fun id => r.insert id a

end Register

/-- The dictionary of what a register keeps. -/
def Value.ofRegister (r : Register Value) : Value :=
  .dictionary (r.entries.map fun entry => (entry.1.shown, entry.2))

end ScriptLint
