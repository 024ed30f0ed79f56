import SchemaMigration.Text.Utf8

/-!
# Bytes of texts

The bytes of a text are read as the text. The first byte of a character says how many are owed, and
which second bytes there can be; every further byte adds six bits.

The main result is `Utf8.decodeLossy_encode`.
-/

namespace SchemaMigration.Utf8

variable {p : Pending} {bs : List UInt8} {n : Nat}

/-! ## One byte -/

theorem toNat_ofNat_of_lt (h : n < 256) : (UInt8.ofNat n).toNat = n := by
  simp [Nat.mod_eq_of_lt h]

theorem readFrom_first {p : Option Pending} (hn : n < 256) (h : lead n = ([], p)) :
    readFrom none (UInt8.ofNat n :: bs) = readFrom p bs := by
  simp only [readFrom, step, toNat_ofNat_of_lt hn, h, List.nil_append]

/-- A further byte adds its six bits. The character is complete if no more bytes are owed. -/
theorem readFrom_further (hlow : p.low ≤ n % 64 + 128) (hhigh : n % 64 + 128 ≤ p.high) :
    readFrom (some p) (UInt8.ofNat (n % 64 + 128) :: bs) =
      if p.owed ≤ 1 then some (Char.ofNat (p.bits * 64 + n % 64)) :: readFrom none bs
      else readFrom (some ⟨p.owed - 1, 0x80, 0xBF, p.bits * 64 + n % 64⟩) bs := by
  have hbyte : (UInt8.ofNat (n % 64 + 128)).toNat = n % 64 + 128 := toNat_ofNat_of_lt (by omega)
  simp only [readFrom, step, hbyte, hlow, hhigh, and_self, if_true, Nat.add_sub_cancel]
  split <;> rfl

theorem lead_one (h : n ≤ 0x7F) : lead n = ([some (Char.ofNat n)], none) := by
  rw [lead, if_pos (by omega)]

theorem lead_two (hlow : 2 ≤ n) (hhigh : n < 32) :
    lead (n + 0xC0) = ([], some ⟨1, 0x80, 0xBF, n⟩) := by
  rw [lead, if_neg (by omega), if_neg (by omega), if_pos (by omega), Nat.add_sub_cancel]

theorem lead_three (h : n < 16) :
    lead (n + 0xE0) =
      ([], some ⟨2, if n = 0 then 0xA0 else 0x80, if n = 13 then 0x9F else 0xBF, n⟩) := by
  rw [lead, if_neg (by omega), if_neg (by omega), if_neg (by omega), if_pos (by omega),
    Nat.add_sub_cancel]
  simp

theorem lead_four (h : n < 5) :
    lead (n + 0xF0) =
      ([], some ⟨3, if n = 0 then 0x90 else 0x80, if n = 4 then 0x8F else 0xBF, n⟩) := by
  rw [lead, if_neg (by omega), if_neg (by omega), if_neg (by omega), if_neg (by omega),
    if_pos (by omega), Nat.add_sub_cancel]
  simp

/-! ## One character -/

/-- The bytes of a character are read as the character, whatever follows them. -/
theorem readFrom_utf8EncodeChar (c : Char) (bs : List UInt8) :
    readFrom none (String.utf8EncodeChar c ++ bs) = some c :: readFrom none bs := by
  have hvalid : c.val.toNat < 0xD800 ∨ 0xDFFF < c.val.toNat ∧ c.val.toNat < 0x110000 := c.valid
  have hchar : ∀ n, n = c.val.toNat → Char.ofNat n = c := by
    rintro _ rfl
    exact Char.ofNat_toNat c
  unfold String.utf8EncodeChar
  generalize c.val.toNat = v at hvalid hchar
  dsimp only
  split
  · next h =>
    have hbyte : (UInt8.ofNat v).toNat = v := toNat_ofNat_of_lt (by omega)
    simp only [List.cons_append, List.nil_append, readFrom, step, hbyte, lead_one h, hchar v rfl]
  split
  · have hfirst : v / 64 % 32 = v / 64 := by omega
    have hbits : v / 64 * 64 + v % 64 = v := by omega
    simp only [List.cons_append, List.nil_append, hfirst]
    rw [readFrom_first (by omega) (lead_two (by omega) (by omega)),
      readFrom_further (by simp) (by simp only; omega), if_pos (Nat.le_refl 1)]
    simp only [hchar _ hbits]
  split
  · have hfirst : v / 4096 % 16 = v / 4096 := by omega
    have hbits : (v / 4096 * 64 + v / 64 % 64) * 64 + v % 64 = v := by omega
    simp only [List.cons_append, List.nil_append, hfirst]
    rw [readFrom_first (by omega) (lead_three (by omega)),
      -- the second byte keeps out short characters and surrogates
      readFrom_further (by simp only; split <;> omega) (by simp only; split <;> omega),
      if_neg (by simp), readFrom_further (by simp) (by simp only; omega), if_pos (by simp)]
    simp only [hchar _ hbits]
  · have hfirst : v / 262144 % 8 = v / 262144 := by omega
    have hbits : ((v / 262144 * 64 + v / 4096 % 64) * 64 + v / 64 % 64) * 64 + v % 64 = v := by
      omega
    simp only [List.cons_append, List.nil_append, hfirst]
    rw [readFrom_first (by omega) (lead_four (by omega)),
      readFrom_further (by simp only; split <;> omega) (by simp only; split <;> omega),
      if_neg (by simp), readFrom_further (by simp) (by simp only; omega), if_neg (by simp),
      readFrom_further (by simp) (by simp only; omega), if_pos (by simp)]
    simp only [hchar _ hbits]

/-! ## Texts -/

theorem read_encode (cs : List Char) : read (encode cs) = cs.map some := by
  induction cs with
  | nil => rfl
  | cons c cs ih =>
    rw [encode, List.flatMap_cons, read, readFrom_utf8EncodeChar, List.map_cons]
    exact congrArg _ ih

/-- The bytes of a text are read as the text, without a gap. -/
theorem decodeLossy_encode (cs : List Char) : decodeLossy (encode cs) = cs := by
  simp [decodeLossy, read_encode, Function.comp_def]

end SchemaMigration.Utf8
