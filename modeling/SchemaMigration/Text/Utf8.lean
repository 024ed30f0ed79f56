/-!
# UTF-8

Reading bytes as characters, where a part that is no character is kept as a gap. A gap is a
longest run of bytes that starts a character and breaks off, or one byte that starts none; read
loosely, each gap is one replacement character.

## Main definitions

* `Utf8.encode` — the bytes of a text.
* `Utf8.read` — the characters and gaps of a list of bytes.
* `Utf8.decode?`, `Utf8.decodeLossy` — the text of bytes without gaps, and of any bytes.
-/

namespace SchemaMigration.Utf8

def encode (cs : List Char) : List UInt8 := cs.flatMap String.utf8EncodeChar

/-- A character whose first bytes are read: how many bytes are owed, the range of the next one and
the bits so far. -/
structure Pending where
  owed : Nat
  low : Nat
  high : Nat
  bits : Nat
deriving DecidableEq, Repr

/-- What a byte between two characters is: a character, the start of one, or a gap. The range of
the second byte keeps out overlong forms, surrogates and code points beyond U+10FFFF. -/
def lead (b : Nat) : List (Option Char) × Option Pending :=
  if b < 0x80 then ([some (Char.ofNat b)], none)
  else if b < 0xC2 then ([none], none)
  else if b < 0xE0 then ([], some ⟨1, 0x80, 0xBF, b - 0xC0⟩)
  else if b < 0xF0 then
    ([], some ⟨2, if b = 0xE0 then 0xA0 else 0x80, if b = 0xED then 0x9F else 0xBF, b - 0xE0⟩)
  else if b < 0xF5 then
    ([], some ⟨3, if b = 0xF0 then 0x90 else 0x80, if b = 0xF4 then 0x8F else 0xBF, b - 0xF0⟩)
  else ([none], none)

/-- Reads one byte: the characters and gaps that it completes, and what is then pending. -/
def step : Option Pending → Nat → List (Option Char) × Option Pending
  | none, b => lead b
  | some p, b =>
    if p.low ≤ b ∧ b ≤ p.high then
      let bits := p.bits * 64 + (b - 0x80)
      if p.owed ≤ 1 then ([some (Char.ofNat bits)], none)
      else ([], some ⟨p.owed - 1, 0x80, 0xBF, bits⟩)
    else
      let (out, pending) := lead b
      (none :: out, pending)

/-- The characters and gaps of a list of bytes, after what is pending. -/
def readFrom : Option Pending → List UInt8 → List (Option Char)
  | none, [] => []
  | some _, [] => [none]
  | pending, b :: bs => (step pending b.toNat).1 ++ readFrom (step pending b.toNat).2 bs

def read (bs : List UInt8) : List (Option Char) := readFrom none bs

/-- The text of bytes that have no gap. -/
def decode? (bs : List UInt8) : Option (List Char) := (read bs).mapM id

/-- The text of any bytes, each gap as U+FFFD. -/
def decodeLossy (bs : List UInt8) : List Char := (read bs).map (·.getD '\ufffd')

/-- Bytes that are a text read loosely as that text. -/
theorem decodeLossy_of_decode? {bs : List UInt8} {cs : List Char} (h : decode? bs = some cs) :
    decodeLossy bs = cs := by
  unfold decode? decodeLossy at *
  generalize read bs = os at *
  induction os generalizing cs with
  | nil => simp_all
  | cons o os ih =>
    cases o with
    | none => simp at h
    | some c =>
      simp only [List.mapM_cons, id, Option.pure_def, Option.bind_eq_bind, Option.bind_some,
        Option.bind_eq_some_iff, Option.some.injEq] at h
      obtain ⟨ds, hd, rfl⟩ := h
      simp [ih hd]

end SchemaMigration.Utf8
