import Mathlib.Data.List.Basic
import SchemaMigration.FormEncoding
import SchemaMigration.Proofs.Text.Ends
import SchemaMigration.Proofs.Text.ByteText

/-!
# Reading back form encoded pairs

The form encoding of a list of pairs is read as that list. Every byte comes back from a character or
an escape, and the characters that separate names and values stand for nothing else.

## Main definitions

* `FormEncoding.isSafe` — the bytes that are written as they are.
* `FormEncoding.write` — the form encoding of a list of pairs.

## Main results

* `FormEncoding.read_write` — it is read as the list.
* `FormEncoding.trim_write` — it has no white space.
-/

namespace SchemaMigration.FormEncoding

open Chars

variable {bs : List UInt8} {c : Char}

/-! ## Writing -/

/-- The bytes that are written as they are: letters, digits and four marks. -/
def isSafe (b : Nat) : Bool :=
  (65 ≤ b && b ≤ 90) || (97 ≤ b && b ≤ 122) || (48 ≤ b && b ≤ 57) ||
    b == 42 || b == 45 || b == 46 || b == 95

def hexDigit (n : Nat) : Char := Char.ofNat (if n < 10 then 48 + n else 55 + n)

/-- A byte as it is, as a plus sign if it is a space, or as an escape. -/
def escape (b : UInt8) : List Char :=
  if b = 32 then ['+']
  else if isSafe b.toNat then [Char.ofNat b.toNat]
  else ['%', hexDigit (b.toNat / 16), hexDigit (b.toNat % 16)]

def componentText (s : String) : List Char := (Utf8.encode s.toList).flatMap escape

def pairText (p : String × String) : List Char := componentText p.1 ++ '=' :: componentText p.2

def write (pairs : List (String × String)) : String :=
  .ofList (['&'].intercalate (pairs.map pairText))

example : write [("a b", "=&+"), ("é", "")] = "a+b=%3D%26%2B&%C3%A9=" := by decide +kernel

/-! ## Bytes -/

/-- The bytes of a text with spaces for plus signs. -/
def bytes (cs : List Char) : List UInt8 := Utf8.encode (cs.map fun c => if c = '+' then ' ' else c)

theorem component_eq (cs : List Char) : component cs = Utf8.decodeLossy (unescape (bytes cs)) := rfl

theorem bytes_append (cs ds : List Char) : bytes (cs ++ ds) = bytes cs ++ bytes ds := by
  simp [bytes, Utf8.encode]

theorem bytes_cons (c : Char) (cs : List Char) : bytes (c :: cs) = bytes [c] ++ bytes cs :=
  bytes_append [c] cs

theorem unescape_cons {b : UInt8} (h : b ≠ 37) (bs : List UInt8) :
    unescape (b :: bs) = b :: unescape bs := by
  rw [unescape.eq_def]
  split <;> simp_all

theorem unescape_percent {high low x y : UInt8} (hx : hexValue? high = some x)
    (hy : hexValue? low = some y) (bs : List UInt8) :
    unescape (37 :: high :: low :: bs) = (16 * x + y) :: unescape bs := by
  simp [unescape, hx, hy]

theorem bytes_safe : ∀ n < 256, isSafe n = true →
    bytes [Char.ofNat n] = [UInt8.ofNat n] ∧ UInt8.ofNat n ≠ 37 := by
  decide +kernel

theorem bytes_hexDigit : ∀ n < 16, ∃ b, bytes [hexDigit n] = [b] ∧
    hexValue? b = some (UInt8.ofNat n) := by
  have htable : ∀ n < 16, (bytes [hexDigit n]).map hexValue? = [some (UInt8.ofNat n)] := by
    decide +kernel
  intro n hn
  obtain ⟨b, hb⟩ : ∃ b, bytes [hexDigit n] = [b] := by
    simpa [List.length_eq_one_iff] using congrArg List.length (htable n hn)
  exact ⟨b, hb, by simpa [hb] using htable n hn⟩

/-- A byte comes back from what is written for it. -/
theorem unescape_bytes_escape (b : UInt8) (bs : List UInt8) :
    unescape (bytes (escape b) ++ bs) = b :: unescape bs := by
  unfold escape
  split
  · next hspace =>
    subst hspace
    exact unescape_cons (by decide) bs
  split
  · next hsafe =>
    obtain ⟨hbytes, hne⟩ := bytes_safe b.toNat b.toNat_lt hsafe
    rw [UInt8.ofNat_toNat] at hbytes hne
    rw [hbytes]
    exact unescape_cons hne bs
  · obtain ⟨high, hhigh, hx⟩ := bytes_hexDigit (b.toNat / 16) (by have := b.toNat_lt; omega)
    obtain ⟨low, hlow, hy⟩ := bytes_hexDigit (b.toNat % 16) (Nat.mod_lt _ (by decide))
    have hbytes : bytes ['%', hexDigit (b.toNat / 16), hexDigit (b.toNat % 16)] =
        [37, high, low] := by
      rw [bytes_cons '%', bytes_cons (hexDigit (b.toNat / 16)), hhigh, hlow]
      rfl
    have hvalue : 16 * UInt8.ofNat (b.toNat / 16) + UInt8.ofNat (b.toNat % 16) = b := by
      refine UInt8.toNat_inj.1 ?_
      simp only [UInt8.toNat_add, UInt8.toNat_mul, UInt8.toNat_ofNat']
      have hlt := b.toNat_lt
      simp
      omega
    rw [hbytes, List.cons_append, List.cons_append, List.cons_append, List.nil_append,
      unescape_percent hx hy, hvalue]

theorem unescape_bytes_flatMap (bs : List UInt8) : unescape (bytes (bs.flatMap escape)) = bs := by
  induction bs with
  | nil => rfl
  | cons b bs ih => rw [List.flatMap_cons, bytes_append, unescape_bytes_escape, ih]

theorem component_componentText (s : String) : component (componentText s) = s.toList := by
  rw [component_eq, componentText, unescape_bytes_flatMap, Utf8.decodeLossy_encode]

/-! ## Characters -/

/-- The characters of names and values: visible ones of ASCII that separate nothing, and that open
no text, array or object. -/
def Inner (c : Char) : Prop := 32 < c.toNat ∧ c.toNat < 128 ∧ c ∉ ['&', '=', '"', '[', '\x7b']

instance (c : Char) : Decidable (Inner c) := by unfold Inner; infer_instance

theorem inner_safe : ∀ n < 256, isSafe n = true → Inner (Char.ofNat n) := by decide +kernel

theorem inner_hexDigit : ∀ n < 16, Inner (hexDigit n) := by decide +kernel

theorem inner_of_mem_componentText {s : String} (h : c ∈ componentText s) : Inner c := by
  obtain ⟨b, -, hc⟩ := List.mem_flatMap.1 h
  have hb := b.toNat_lt
  unfold escape at hc
  split at hc
  · obtain rfl := List.mem_singleton.1 hc
    decide
  split at hc
  · next hsafe =>
    obtain rfl := List.mem_singleton.1 hc
    exact inner_safe _ hb hsafe
  · simp only [List.mem_cons, List.not_mem_nil, or_false] at hc
    rcases hc with rfl | rfl | rfl
    · decide
    · exact inner_hexDigit _ (by omega)
    · exact inner_hexDigit _ (by omega)

theorem Inner.ne {d : Char} (h : Inner c) (hd : d ∈ ['&', '=', '"', '[', '\x7b']) : c ≠ d := by
  rintro rfl
  exact h.2.2 hd

theorem mem_pairText {p : String × String} (h : c ∈ pairText p) : c = '=' ∨ Inner c := by
  rw [pairText, List.mem_append, List.mem_cons] at h
  rcases h with h | rfl | h
  · exact .inr (inner_of_mem_componentText h)
  · exact .inl rfl
  · exact .inr (inner_of_mem_componentText h)

theorem mem_write {pairs : List (String × String)} (h : c ∈ (write pairs).toList) :
    c = '&' ∨ c = '=' ∨ Inner c := by
  rw [write, String.toList_ofList] at h
  induction pairs with
  | nil => cases h
  | cons p pairs ih =>
    cases pairs with
    | nil =>
      rw [List.map_singleton, List.intercalate_singleton] at h
      exact .inr (mem_pairText h)
    | cons q pairs =>
      rw [List.map_cons, List.map_cons, List.intercalate_cons_cons, List.mem_append,
        List.mem_append, List.mem_singleton] at h
      rcases h with (h | h) | h
      · exact .inr (mem_pairText h)
      · exact .inl h
      · exact ih h

/-! ## Pairs -/

theorem pair_pairText (p : String × String) : pair (pairText p) = p := by
  have hname : '=' ∉ componentText p.1 := fun h =>
    (inner_of_mem_componentText h).ne (by decide) rfl
  rw [pair, pairText, cut?_append_cons hname]
  simp only [component_componentText, String.ofList_toList]

/-- Texts between separators are the pieces, if none of them has the separator. -/
theorem splitOn_intercalate {sep : Char} {pieces : List (List Char)} (hne : pieces ≠ [])
    (h : ∀ piece ∈ pieces, sep ∉ piece) : splitOn sep ([sep].intercalate pieces) = pieces := by
  induction pieces with
  | nil => exact absurd rfl hne
  | cons piece pieces ih =>
    obtain ⟨hpiece, hpieces⟩ := List.forall_mem_cons.1 h
    cases pieces with
    | nil => rw [List.intercalate_singleton, splitOn_of_notMem hpiece]
    | cons next pieces =>
      rw [List.intercalate_cons_cons, List.append_assoc, List.singleton_append,
        splitOn_append_cons hpiece, ih (List.cons_ne_nil _ _) hpieces]

/-- The form encoding of a list of pairs is read as the list. -/
theorem read_write (pairs : List (String × String)) : read (write pairs) = pairs := by
  cases pairs with
  | nil => rfl
  | cons p pairs =>
    have hsep : ∀ piece ∈ (p :: pairs).map pairText, '&' ∉ piece := by
      rintro _ hpiece hmem
      obtain ⟨q, -, rfl⟩ := List.mem_map.1 hpiece
      obtain heq | hinner := mem_pairText hmem
      · cases heq
      · exact hinner.ne (by decide) rfl
    have hfull : ∀ piece ∈ (p :: pairs).map pairText, (!piece.isEmpty) = true := by
      rintro _ hpiece
      obtain ⟨q, -, rfl⟩ := List.mem_map.1 hpiece
      simp [pairText]
    rw [read, write, String.toList_ofList, splitOn_intercalate (by simp) hsep,
      List.filter_eq_self.2 hfull, List.map_map]
    exact (List.map_congr_left fun q _ => pair_pairText q).trans (List.map_id _)

/-- White space is written as plus signs and escapes. -/
theorem isBlank_of_mem_write {pairs : List (String × String)} (h : c ∈ (write pairs).toList) :
    isBlank c = false := by
  obtain rfl | rfl | hinner := mem_write h
  · decide
  · decide
  · exact isBlank_eq_false_of_ascii hinner.1 hinner.2.1

theorem trim_write (pairs : List (String × String)) : Text.trim (write pairs) = write pairs := by
  have htrim : trim (write pairs).toList = (write pairs).toList :=
    trim_eq_self (fun c hc => isBlank_of_mem_write (List.mem_of_mem_head? hc))
      (fun c hc => isBlank_of_mem_write (List.mem_of_mem_getLast? hc))
  rw [Text.trim, htrim, String.ofList_toList]

end SchemaMigration.FormEncoding
