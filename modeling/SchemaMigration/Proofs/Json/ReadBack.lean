import Mathlib.Data.List.Basic
import SchemaMigration.Json.Printer
import SchemaMigration.Json.Reader
import SchemaMigration.Proofs.Value.Dictionary

/-!
# Reading back what was written

The compact text of a document is read as that document, if it holds no numbers and nests no deeper
than the reader follows. Every character of a text comes back, whichever way it is escaped.

## Main definitions

* `Json.Plain` — documents without numbers, down to a depth.

The main result is `Json.read_compact`.
-/

namespace SchemaMigration.Json

/-! ## Texts -/

theorem hexUnit?_hexDigit :
    ∀ n < 32, hexUnit? '0' '0' (hexDigit (n / 16)) (hexDigit (n % 16)) = some n := by
  decide

/-- An escaped character is read as the character. -/
theorem readText_escape (c : Char) (rest : List Char) :
    readText none (escape c ++ rest) = consChar c (readText none rest) := by
  unfold escape
  -- the characters with an escape of one letter
  iterate 7
    split
    · subst_vars
      rfl
  split
  · next hcontrol =>
    have hunit := hexUnit?_hexDigit c.toNat hcontrol
    have hhigh : ¬(0xD800 ≤ c.toNat ∧ c.toNat ≤ 0xDBFF) := by omega
    have hlow : ¬(0xDC00 ≤ c.toNat ∧ c.toNat ≤ 0xDFFF) := by omega
    rw [List.cons_append, readText.eq_def]
    simp [hunit, hhigh, hlow, Char.ofNat_toNat]
  · next hquote hbackslash _ _ _ _ _ hcontrol =>
    rw [List.cons_append, List.nil_append, readText]
    · simp [hbackslash, hcontrol, hquote]
    · simp [hbackslash]
    · simp [hbackslash]

theorem readText_flatMap_escape (cs rest : List Char) :
    readText none (cs.flatMap escape ++ '"' :: rest) = some (cs, rest) := by
  induction cs with
  | nil => rfl
  | cons c cs ih => rw [List.flatMap_cons, List.append_assoc, readText_escape, ih, consChar]

theorem readQuoted_quote (s : String) (rest : List Char) :
    readQuoted (quote s ++ rest) = some (s, rest) := by
  simp [quote, readQuoted, readText_flatMap_escape]

/-! ## Lists -/

theorem intercalate_comma_cons (cs : List Char) (css : List (List Char)) :
    [','].intercalate (cs :: css) = cs ++ css.flatMap (',' :: ·) := by
  induction css generalizing cs with
  | nil => simp
  | cons ds css ih =>
    rw [List.intercalate_cons_cons, ih]
    simp

section Lists

variable {α : Type} {item : Reader α} {write : α → List Char} {stop : Char} {as : List α}

/-- Things after commas are read one by one, if each is read as it was written. -/
theorem further_flatMap (hstop : isSpace stop = false) (hcomma : stop ≠ ',')
    (h : ∀ a ∈ as, ∀ rest, item (write a ++ rest) = some (a, rest)) {fuel : Nat}
    (hfuel : as.length < fuel) (rest : List Char) :
    further item stop fuel ((as.flatMap fun a => ',' :: write a) ++ stop :: rest) =
      some (as, rest) := by
  induction as generalizing fuel with
  | nil =>
    obtain ⟨fuel, rfl⟩ := Nat.exists_eq_add_of_lt hfuel
    simp [further, skipSpace, hstop]
  | cons a as ih =>
    obtain ⟨ha, has⟩ := List.forall_mem_cons.1 h
    cases fuel with
    | zero => simp at hfuel
    | succ fuel =>
      simp [further, skipSpace, isSpace, Ne.symm hcomma, ha, ih has (Nat.lt_of_succ_lt_succ hfuel)]

theorem length_le_length_flatMap (as : List α) :
    as.length ≤ (as.flatMap fun a => ',' :: write a).length := by
  induction as with
  | nil => exact Nat.le_refl _
  | cons a as ih =>
    rw [List.flatMap_cons, List.length_append, List.length_cons, List.length_cons]
    omega

/-- Things between commas are read, if each is read as it was written and starts with neither white
space nor the end of the list. -/
theorem listOf_intercalate (hstop : isSpace stop = false) (hcomma : stop ≠ ',')
    (h : ∀ a ∈ as, ∀ rest, item (write a ++ rest) = some (a, rest))
    (hhead : ∀ a ∈ as, ∃ c cs, write a = c :: cs ∧ isSpace c = false ∧ c ≠ stop)
    (rest : List Char) :
    listOf item stop ([','].intercalate (as.map write) ++ stop :: rest) = some (as, rest) := by
  cases as with
  | nil => simp [listOf, skipSpace, hstop]
  | cons a as =>
    obtain ⟨ha, has⟩ := List.forall_mem_cons.1 h
    obtain ⟨c, cs, hwrite, hspace, hne⟩ := hhead a List.mem_cons_self
    rw [List.map_cons, intercalate_comma_cons, List.flatMap_map, List.append_assoc]
    generalize hbehind : (as.flatMap fun b => ',' :: write b) ++ stop :: rest = behind
    have hfuel : as.length < behind.length + 1 := by
      rw [← hbehind, List.length_append]
      exact Nat.lt_succ_of_le (Nat.le_add_right_of_le (length_le_length_flatMap as))
    have hfirst := ha behind
    have hfurther := further_flatMap hstop hcomma has hfuel rest
    rw [hbehind] at hfurther
    rw [hwrite, List.cons_append] at hfirst ⊢
    simp [listOf, skipSpace, hspace, hne, hfirst, hfurther]

end Lists

/-! ## Documents -/

/-- Documents that hold no numbers and whose arrays and objects nest at most so deep. The members of
an object are in the order of their names. -/
inductive Plain : Nat → Json → Prop
  | null {n} : Plain n .null
  | bool {n} (b : Bool) : Plain n (.bool b)
  | text {n} (s : String) : Plain n (.text s)
  | array {n items} (h : ∀ j ∈ items, Plain n j) : Plain (n + 1) (.array items)
  | object {n members} (hsorted : Dict.Sorted members) (h : ∀ m ∈ members, Plain n m.2) :
      Plain (n + 1) (.object members)

/-- A member of an object as it is written. -/
def memberText (m : String × Json) : List Char := quote m.1 ++ ':' :: chars m.2

theorem chars_array (items : List Json) :
    chars (.array items) = '[' :: ([','].intercalate (items.map chars) ++ [']']) := by
  have hitems (items : List Json) :
      itemChars items = (items.flatMap fun j => ',' :: chars j) ++ [']'] := by
    induction items with
    | nil => rfl
    | cons j items ih => simp [itemChars, ih]
  cases items with
  | nil => rfl
  | cons j items => simp [chars, hitems, intercalate_comma_cons, List.flatMap_map]

theorem chars_object (members : List (String × Json)) :
    chars (.object members) =
      '\x7b' :: ([','].intercalate (members.map memberText) ++ ['\x7d']) := by
  have hmembers (members : List (String × Json)) :
      memberChars members = (members.flatMap fun m => ',' :: memberText m) ++ ['\x7d'] := by
    induction members with
    | nil => rfl
    | cons m members ih => simp [memberChars, memberText, ih]
  cases members with
  | nil => rfl
  | cons m members =>
    simp [chars, hmembers, memberText, intercalate_comma_cons, List.flatMap_map]

/-- The characters that the text of a document without numbers starts with. -/
def openers : List Char := ['n', 't', 'f', '"', '[', '\x7b']

theorem isSpace_of_mem_openers {c : Char} (h : c ∈ openers) : isSpace c = false ∧ c ≠ ']' := by
  simp only [openers, List.mem_cons, List.not_mem_nil, or_false] at h
  rcases h with rfl | rfl | rfl | rfl | rfl | rfl <;> decide

theorem Plain.exists_chars_eq {n : Nat} {j : Json} (h : Plain n j) :
    ∃ c cs, j.chars = c :: cs ∧ c ∈ openers := by
  cases h with
  | null => exact ⟨_, _, rfl, by decide⟩
  | bool b => cases b <;> exact ⟨_, _, rfl, by decide⟩
  | text s => exact ⟨_, _, rfl, by decide⟩
  | array => exact ⟨_, _, chars_array _, by decide⟩
  | object => exact ⟨_, _, chars_object _, by decide⟩

theorem readValue_quote (n : Nat) (s : String) (rest : List Char) :
    readValue n (quote s ++ rest) = some (.text s, rest) := by
  have htext := readText_flatMap_escape s.toList rest
  cases n <;>
    simp [readValue, quote, skipSpace, isSpace, readScalar, htext]

theorem memberOf_memberText {item : Reader Json} {m : String × Json}
    (h : ∀ rest, item (chars m.2 ++ rest) = some (m.2, rest)) (rest : List Char) :
    memberOf item (memberText m ++ rest) = some (m, rest) := by
  have hskip : skipSpace (memberText m ++ rest) = quote m.1 ++ ':' :: (chars m.2 ++ rest) := by
    simp [memberText, quote, skipSpace, isSpace]
  rw [memberOf, hskip, readQuoted_quote]
  simp [skipSpace, isSpace, h]

/-- The text of a document without numbers is read as the document, whatever follows it. -/
theorem readValue_chars {n : Nat} {j : Json} (h : Plain n j) (rest : List Char) :
    readValue n (j.chars ++ rest) = some (j, rest) := by
  induction h generalizing rest with
  | @null n => cases n <;> rfl
  | @bool n b => cases n <;> cases b <;> rfl
  | text s => exact readValue_quote _ s rest
  | @array n items h ih =>
    have hlist : listOf (readValue n) ']'
        ([','].intercalate (items.map chars) ++ ']' :: rest) = some (items, rest) := by
      refine listOf_intercalate (by decide) (by decide) ih (fun j hj => ?_) rest
      obtain ⟨c, cs, hchars, hc⟩ := (h j hj).exists_chars_eq
      exact ⟨c, cs, hchars, isSpace_of_mem_openers hc⟩
    rw [chars_array]
    simp [readValue, skipSpace, isSpace, hlist]
  | @object n members hsorted h ih =>
    have hlist : listOf (memberOf (readValue n)) '\x7d'
        ([','].intercalate (members.map memberText) ++ '\x7d' :: rest) = some (members, rest) :=
      listOf_intercalate (by decide) (by decide) (fun m hm => memberOf_memberText (ih m hm))
        (fun m _ => ⟨'"', _, rfl, by decide, by decide⟩) rest
    have hmembers : Dict.ofList members = members := Dict.ofList_eq_of_perm hsorted (.refl _)
    rw [chars_object]
    simp [readValue, skipSpace, isSpace, hlist, ofMembers, hmembers]

/-- The compact text of a document without numbers is read as the document. -/
theorem read_compact {j : Json} (h : Plain maxDepth j) : read j.compact = some j := by
  have hread := readValue_chars h []
  rw [List.append_nil] at hread
  simp [read, compact, hread, skipSpace]

end SchemaMigration.Json
