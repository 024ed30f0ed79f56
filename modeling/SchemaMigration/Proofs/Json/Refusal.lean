import Mathlib.Data.List.TakeDrop
import Mathlib.Data.List.TakeWhile
import SchemaMigration.Json.Reader

/-!
# Texts that are no documents

An equals sign belongs to a document only inside the quotes of a text. A reader of any other value
stops before it, so that a text with an equals sign and without quotes and brackets is no document.

The main result is `Json.read_eq_none`.
-/

namespace SchemaMigration.Json

variable {cs rest : List Char} {j : Json} {n : Nat} {e : Int} {negative : Bool}

/-! ## Numbers -/

theorem mem_dropWhile {p : Char → Bool} {c : Char} (hp : p c = false) (h : c ∈ cs) :
    c ∈ cs.dropWhile p := by
  rw [← List.takeWhile_append_dropWhile (p := p) (l := cs), List.mem_append] at h
  rcases h with h | h
  · have hc := List.mem_takeWhile_imp h
    rw [hp] at hc
    cases hc
  · exact h

theorem mem_takeSign (h : '=' ∈ cs) : '=' ∈ (Decimal.takeSign cs).2 := by
  unfold Decimal.takeSign
  split <;> simp_all

theorem mem_takeDigits (h : '=' ∈ cs) : '=' ∈ (takeDigits n cs).2.2 := by
  induction cs generalizing n with
  | nil => cases h
  | cons c cs ih =>
    rw [takeDigits]
    split
    · next hdigit =>
      have hne : '=' ≠ c := by
        rintro rfl
        simp at hdigit
      exact ih ((List.mem_cons.1 h).resolve_left hne)
    · exact h

theorem mem_takeExponent {o : Option Int} (hread : takeExponent? cs = some (o, rest))
    (h : '=' ∈ cs) : '=' ∈ rest := by
  unfold takeExponent? at hread
  split at hread
  · cases hread
  split at hread
  · next c cs hmark =>
    have hcs : '=' ∈ cs := by
      rcases hmark with rfl | rfl <;> simpa using h
    cases hread
    exact mem_dropWhile rfl (mem_takeSign hcs)
  · cases hread

theorem mem_finish (hread : finish negative n e cs = some (j, rest)) (h : '=' ∈ cs) :
    '=' ∈ rest := by
  unfold finish at hread
  split at hread
  · obtain ⟨_, -, heq⟩ := Option.map_eq_some_iff.1 hread
    cases heq
    exact h
  · cases hread
  · next hexponent =>
    obtain ⟨_, -, heq⟩ := Option.map_eq_some_iff.1 hread
    cases heq
    exact mem_takeExponent hexponent h

theorem mem_fraction (hread : fraction negative n e cs = some (j, rest)) (h : '=' ∈ cs) :
    '=' ∈ rest := by
  unfold fraction at hread
  split at hread
  · cases hread
  · exact mem_finish hread (mem_dropWhile rfl (mem_takeDigits h))

theorem mem_unsigned (hread : unsigned negative cs = some (j, rest)) (h : '=' ∈ cs) :
    '=' ∈ rest := by
  have hbehind : '=' ∈ cs.dropWhile Char.isDigit := mem_dropWhile rfl h
  unfold unsigned at hread
  dsimp only at hread
  split at hread
  · cases hread
  split at hread
  · next hpoint =>
    rw [hpoint] at hbehind
    exact mem_fraction hread (by simpa using hbehind)
  split at hread
  · cases hread
    exact hbehind
  · exact mem_finish hread hbehind

theorem mem_number (hread : number cs = some (j, rest)) (h : '=' ∈ cs) : '=' ∈ rest := by
  unfold number at hread
  split at hread
  · exact mem_unsigned hread (by simpa using h)
  · exact mem_unsigned hread h

/-! ## Documents -/

/-- Whatever is read from the head of a text without quotes and brackets, an equals sign is left. -/
theorem mem_readScalar (hread : readScalar cs = some (j, rest)) (hquote : '"' ∉ cs)
    (h : '=' ∈ cs) : '=' ∈ rest := by
  unfold readScalar at hread
  split at hread
  · cases hread
    simpa using h
  · cases hread
    simpa using h
  · cases hread
    simpa using h
  · simp at hquote
  · exact mem_number hread h

theorem mem_readValue (hread : readValue n cs = some (j, rest))
    (hopen : ∀ c ∈ ['"', '[', '\x7b'], c ∉ cs) (h : '=' ∈ cs) : '=' ∈ rest := by
  have hopen : ∀ c ∈ ['"', '[', '\x7b'], c ∉ skipSpace cs := fun c hc hmem =>
    hopen c hc ((List.dropWhile_sublist _).subset hmem)
  have hskip : '=' ∈ skipSpace cs := mem_dropWhile rfl h
  cases n with
  | zero => exact mem_readScalar hread (hopen '"' (by decide)) hskip
  | succ n =>
    rw [readValue] at hread
    split at hread
    · next heq => exact absurd (heq ▸ List.mem_cons_self) (hopen '[' (by decide))
    · next heq => exact absurd (heq ▸ List.mem_cons_self) (hopen '\x7b' (by decide))
    · exact mem_readScalar hread (hopen '"' (by decide)) hskip

/-- A text with an equals sign, and without quotes and brackets, is no document. -/
theorem read_eq_none {s : String} (hopen : ∀ c ∈ ['"', '[', '\x7b'], c ∉ s.toList)
    (h : '=' ∈ s.toList) : read s = none := by
  unfold read
  split
  · next hread =>
    have hrest : '=' ∈ skipSpace _ := mem_dropWhile rfl (mem_readValue hread hopen h)
    rw [if_neg]
    simpa using List.ne_nil_of_mem hrest
  · rfl

end SchemaMigration.Json
