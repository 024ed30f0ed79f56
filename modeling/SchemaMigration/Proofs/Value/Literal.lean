import SchemaMigration.Value.Coercion

/-!
# Literals of values

Which characters the text of a number can have, and which values have no literal at all.

## Main definitions

* `Value.isNumberChar` — the characters of the texts of numbers.
* `Value.isHollow` — the values whose literal is the empty text.
-/

namespace SchemaMigration

/-! ## Numbers -/

namespace Decimal.Layout

/-- Without an exponent there are digits, a point, and what follows a whole number. -/
theorem mem_plain {l : Layout} {d : Digits} {c : Char} (h : c ∈ l.plain d) :
    c.isDigit = true ∨ c = '.' ∨ c ∈ l.wholeEnd.toList := by
  have hdigit : c ∈ Nat.toDigits 10 d.digits → c.isDigit = true := fun hc =>
    Nat.isDigit_of_mem_toDigits (by decide) (by decide) hc
  have hzero : c = '0' → c.isDigit = true := by rintro rfl; decide
  simp only [plain] at h
  split at h
  · grind
  · split at h
    · rcases List.mem_append.1 h with h | h
      · exact .inl (hdigit (List.mem_of_mem_take h))
      · rcases List.mem_cons.1 h with rfl | h
        · exact .inr (.inl rfl)
        · exact .inl (hdigit (List.mem_of_mem_drop h))
    · grind

theorem plain_ne_nil (l : Layout) (d : Digits) : l.plain d ≠ [] := by
  have hdigits : Nat.toDigits 10 d.digits ≠ [] := Nat.toDigits_ne_nil
  simp only [plain]
  split
  · simp [hdigits]
  · split <;> simp

end Decimal.Layout

namespace Value

/-- Digits, the point and the sign, and the letters of `NaN` and `inf`. -/
def isNumberChar (c : Char) : Bool := c.isDigit || "-.NaNinf".toList.contains c

theorem isBlank_of_isNumberChar {c : Char} (h : isNumberChar c = true) :
    Chars.isBlank c = false := by
  have hascii : 32 < c.toNat ∧ c.toNat < 128 := by
    simp only [isNumberChar, Char.isDigit, Bool.or_eq_true, Bool.and_eq_true, decide_eq_true_eq,
      List.contains_iff_mem, ge_iff_le, UInt32.le_iff_toNat_le] at h
    rcases h with ⟨hlow, hhigh⟩ | h
    · exact ⟨Nat.lt_of_lt_of_le (by decide) hlow, Nat.lt_of_le_of_lt hhigh (by decide)⟩
    · have hothers : "-.NaNinf".toList.all (fun c => 32 < c.toNat && c.toNat < 128) = true := by
        decide
      simpa using List.all_eq_true.1 hothers c h
  exact Chars.isBlank_eq_false_of_ascii hascii.1 hascii.2

theorem magnitude_numberLayout (m : Nat) (q : Int) :
    ∃ d, numberLayout.magnitude m q = numberLayout.plain d := by
  refine ⟨if m = 0 then ⟨0, 0⟩ else numberLayout.digits m q, ?_⟩
  simp [Decimal.Layout.magnitude, numberLayout]

theorem isNumberChar_of_mem {x : Float} {c : Char} (h : c ∈ (numberText x).toList) :
    isNumberChar c = true := by
  have hplain : ∀ d, ∀ c ∈ numberLayout.plain d, isNumberChar c = true := by
    intro d c hc
    rcases Decimal.Layout.mem_plain hc with hd | rfl | hw
    · simp [isNumberChar, hd]
    · decide
    · simp [numberLayout] at hw
  have hword : ∀ s ∈ ["NaN", "inf", "-inf"], ∀ c ∈ s.toList, isNumberChar c = true := by
    intro s hs
    have hall : ∀ s ∈ ["NaN", "inf", "-inf"], s.toList.all isNumberChar = true := by decide
    exact List.all_eq_true.1 (hall s hs)
  unfold numberText Decimal.Layout.write at h
  split at h
  · exact hword _ (by decide) c h
  next negative _ => cases negative <;> exact hword _ (by decide) c h
  next negative m q _ =>
    obtain ⟨d, hd⟩ := magnitude_numberLayout m q
    cases negative with
    | false => exact hplain d c (by simpa [hd] using h)
    | true =>
      have hc : c = '-' ∨ c ∈ numberLayout.plain d := by simpa [hd] using h
      rcases hc with rfl | hc
      · decide
      · exact hplain d c hc

theorem numberText_ne_empty (x : Float) : numberText x ≠ "" := by
  intro h
  unfold numberText Decimal.Layout.write at h
  split at h
  · simp [numberLayout] at h
  next negative _ => cases negative <;> simp [numberLayout] at h
  next negative m q _ =>
    obtain ⟨d, hd⟩ := magnitude_numberLayout m q
    have hne := Decimal.Layout.plain_ne_nil numberLayout d
    cases negative <;> simp_all

/-! ## Values without a literal -/

/-- Holds for the empty list, and for a list of nothing but such a list. -/
def isHollow : Value → Bool
  | .list [] => true
  | .list [v] => v.isHollow
  | _ => false

theorem quoteText_ne_empty (s : String) : quoteText s ≠ "" := by simp [quoteText]

theorem literal_eq_empty_iff (v : Value) : v.literal = "" ↔ v.isHollow = true := by
  fun_induction isHollow v with
  | case1 => simp [literal, literals]
  | case2 v ih => simpa [literal, literals] using ih
  | case3 v hnil hone =>
    refine iff_of_false ?_ (by simp)
    cases v with
    | null => simp [literal]
    | bool b => cases b <;> simp [literal]
    | number x => simpa [literal] using numberText_ne_empty x
    | text s => simpa [literal] using quoteText_ne_empty s
    | map fields => simpa [literal] using quoteText_ne_empty _
    | list items =>
      cases items with
      | nil => exact absurd rfl hnil
      | cons v vs =>
        cases vs with
        | nil => exact absurd rfl (hone v)
        | cons w vs => simp [literal, literals]

end Value

end SchemaMigration
