import SchemaMigration.Column.Definition
import SchemaMigration.TypeMap

/-!
# Physical types of column definitions

A column is first written with its abstract type and then gets a physical one. The two steps fit:
only the type name and the length are read again, and the clauses behind them, which may hold any
text, stay as they are.

## Main definitions

* `TypeMap.WordKeys` — the names of a map are single words.
* `TypeMap.Resized` — a physical type with the length of a column.
* `Column.sizeClause` — the length in the definition of a type.

The main result is `resolve_definition`.
-/

namespace SchemaMigration

open Chars

/-- White space is no part of a word. -/
theorem Chars.isWord_of_isBlank {c : Char} (h : isBlank c = true) : isWord c = false := by
  have hblank : ∀ n ∈ [9, 10, 11, 12, 13, 0x20, 0x85, 0xa0, 0x1680, 0x2000, 0x2001, 0x2002, 0x2003,
      0x2004, 0x2005, 0x2006, 0x2007, 0x2008, 0x2009, 0x200a, 0x2028, 0x2029, 0x202f, 0x205f,
      0x3000], isWord (Char.ofNat n) = false := by decide +kernel
  rw [← Char.ofNat_toNat c]
  refine hblank _ ?_
  simp only [isBlank, Bool.or_eq_true, Bool.and_eq_true, beq_iff_eq, decide_eq_true_eq,
    Char.le_def, UInt32.le_iff_toNat_le, ← Char.toNat_inj, Char.reduceToNat, Char.reduceVal,
    UInt32.reduceToNat] at h
  simp only [List.mem_cons, List.not_mem_nil, or_false]
  have htoNat : c.toNat = c.val.toNat := rfl
  omega

namespace TypeMap

/-- Every name that has a type is a single word. -/
def WordKeys (m : TypeMap) : Prop := ∀ tag ∈ m.types.names, ∀ c ∈ tag.toList, isWord c = true

instance (m : TypeMap) : Decidable m.WordKeys :=
  decidable_of_iff (m.types.names.all fun tag => tag.toList.all isWord) (by simp [WordKeys])

/-- `Resized length physical sized` says that `sized` is the physical type with that length. Without
a length nothing changes. Otherwise the length replaces the first group in parentheses, or stands at
the end of a type that has no such group. -/
inductive Resized : List Char → List Char → List Char → Prop where
  | unsized (physical : List Char) : Resized [] physical physical
  | replaced {length before inside : List Char} (after : List Char) (hl : length ≠ [])
      (hb : '(' ∉ before) (hi : ')' ∉ inside) :
      Resized length (before ++ '(' :: (inside ++ ')' :: after)) (before ++ length ++ after)
  | appended {length physical : List Char} (hl : length ≠ [])
      (hp : ∀ before inside after, physical ≠ before ++ '(' :: (inside ++ ')' :: after)) :
      Resized length physical (physical ++ length)

/-! ## Resizing -/

/-- Without a closing parenthesis behind the first opening one there is no group. -/
theorem ne_group_of_cut? {physical before rest : List Char}
    (h : cut? '(' physical = some (before, rest)) (hr : ')' ∉ rest) (b i a : List Char) :
    physical ≠ b ++ '(' :: (i ++ ')' :: a) := by
  intro he
  obtain ⟨heq, hn⟩ := eq_append_of_cut? h
  rw [heq] at he
  rcases List.append_eq_append_iff.1 he with ⟨x, rfl, hx⟩ | ⟨x, rfl, hx⟩
  · have hmem : ')' ∈ '(' :: rest := by simp [hx]
    exact hr (by simpa using hmem)
  · cases x with
    | nil =>
      have hrest : i ++ ')' :: a = rest := by simpa using hx
      exact hr (by simp [← hrest])
    | cons d x =>
      have hd : '(' = d := (List.cons.inj hx).1
      exact hn (by simp [← hd])

/-- Resizing by a length that is not empty. -/
theorem resized_resize {length : List Char} (hl : length ≠ []) (physical : List Char) :
    Resized length physical (resize length physical) := by
  unfold resize
  split
  next h =>
    refine .appended hl fun b i a he => ?_
    exact cut?_eq_none_iff.1 h (by simp [he])
  next before rest h =>
    obtain ⟨rfl, hb⟩ := eq_append_of_cut? h
    split
    next hr => exact .appended hl (ne_group_of_cut? h (cut?_eq_none_iff.1 hr))
    next inside after hr =>
      obtain ⟨rfl, hi⟩ := eq_append_of_cut? hr
      exact .replaced after hl hb hi

/-! ## Resolving -/

/-- What is not a single word has no type of its own. -/
theorem chars?_eq_none {m : TypeMap} (hm : m.WordKeys) {cs : List Char} {c : Char} (hc : c ∈ cs)
    (hw : isWord c = false) : m.chars? cs = none := by
  refine Option.map_eq_none_iff.2 (Option.not_isSome_iff_eq_none.1 fun hs => ?_)
  have hmem : String.ofList cs ∈ m.types.names := (m.types.isSome_get?_iff _).1 hs
  have hword := hm _ hmem c (by simpa using hc)
  simp [hw] at hword

variable {m : TypeMap} {word physical : List Char} (hword : ∀ c ∈ word, isWord c = true)

include hword in
theorem takeWhile_word {c : Char} (hc : isWord c = false) (rest : List Char) :
    (word ++ c :: rest).takeWhile isWord = word := by
  rw [List.takeWhile_append_of_pos hword]
  simp [hc]

include hword in
theorem dropWhile_word {c : Char} (hc : isWord c = false) (rest : List Char) :
    (word ++ c :: rest).dropWhile isWord = c :: rest := by
  rw [List.dropWhile_append_of_pos hword]
  simp [hc]

/-- The length ends at the first closing parenthesis, whatever follows it. -/
theorem sized?_group (hword : ∀ c ∈ word, isWord c = true) (hne : word ≠ []) {c : Char}
    {length : List Char} (hl : ')' ∉ length) (rest : List Char) :
    sized? (word ++ '(' :: c :: (length ++ ')' :: rest)) = some (word, c :: length, rest) := by
  have hw : isWord '(' = false := by decide
  simp [sized?, takeWhile_word hword hw, dropWhile_word hword hw, hne, cut?_append_cons hl]

/-- A word before white space has no length. -/
theorem sized?_blank (hword : ∀ c ∈ word, isWord c = true) {c : Char} (hc : isBlank c = true)
    (rest : List Char) : sized? (word ++ c :: rest) = none := by
  have hw := isWord_of_isBlank hc
  have hopen : c ≠ '(' := by
    rintro rfl
    exact absurd hc (by decide)
  simp [sized?, takeWhile_word hword hw, dropWhile_word hword hw, hopen]

theorem spaced?_blank (hword : ∀ c ∈ word, isWord c = true) (hne : word ≠ []) {c : Char}
    (hc : isBlank c = true) (rest : List Char) :
    spaced? (word ++ c :: rest) = some (word, c :: rest) := by
  have hw := isWord_of_isBlank hc
  simp [spaced?, takeWhile_word hword hw, dropWhile_word hword hw, hne, hc]

/-- A name with a length gives the length to its type. -/
theorem resolveChars_group (hm : m.WordKeys) (hp : m.chars? word = some physical)
    (hword : ∀ c ∈ word, isWord c = true) (hne : word ≠ []) {c : Char} {length : List Char}
    (hl : ')' ∉ length) (rest : List Char) :
    m.resolveChars (word ++ '(' :: c :: (length ++ ')' :: rest)) =
      resize ('(' :: (c :: length ++ [')'])) physical ++ rest := by
  have hnone : m.chars? (word ++ '(' :: c :: (length ++ ')' :: rest)) = none :=
    chars?_eq_none hm (c := '(') (by simp) (by decide)
  simp [resolveChars, hnone, sized?_group hword hne hl, hp]

/-- A name before white space is replaced, and what follows it is kept. -/
theorem resolveChars_blank (hm : m.WordKeys) (hp : m.chars? word = some physical)
    (hword : ∀ c ∈ word, isWord c = true) (hne : word ≠ []) {c : Char} (hc : isBlank c = true)
    (rest : List Char) : m.resolveChars (word ++ c :: rest) = physical ++ c :: rest := by
  have hnone : m.chars? (word ++ c :: rest) = none :=
    chars?_eq_none hm (c := c) (by simp) (isWord_of_isBlank hc)
  simp [resolveChars, hnone, sized?_blank hword hc, spaced?_blank hword hne hc, hp]

end TypeMap

/-! ## Clauses -/

namespace ColumnType

theorem isWord_of_mem_tag (t : ColumnType) : ∀ c ∈ t.tag.toList, isWord c = true :=
  List.all_eq_true.1 (by cases t <;> decide)

theorem tag_ne_nil (t : ColumnType) : t.tag.toList ≠ [] := by
  cases t <;> decide

end ColumnType

namespace Column

/-- The length in the definition of a type. A primary key has none. -/
def sizeClause (c : Column) (t : ColumnType) : String := if t.isPk then "" else c.lengthClause

/-- The digits of a number: at least one, and no closing parenthesis. -/
theorem exists_digits (n : Nat) : ∃ d ds, Nat.toDigits 10 n = d :: ds ∧ ')' ∉ d :: ds := by
  obtain ⟨d, ds, hd⟩ := List.exists_cons_of_ne_nil (Nat.toDigits_ne_nil (n := n) (b := 10))
  refine ⟨d, ds, hd, fun h => ?_⟩
  have hdigit := Nat.isDigit_of_mem_toDigits (by decide) (by decide) (hd ▸ h)
  simp at hdigit

/-- A length clause is empty, or a text without a closing parenthesis in parentheses. -/
theorem lengthClause_cases (c : Column) :
    c.lengthClause.toList = [] ∨
      ∃ d ds, ')' ∉ ds ∧ c.lengthClause.toList = '(' :: (d :: ds ++ [')']) := by
  unfold lengthClause
  split
  next => exact .inl rfl
  next n _ =>
    obtain ⟨d, ds, hd, hn⟩ := exists_digits n
    refine .inr ⟨d, ds, fun h => hn (by simp [h]), ?_⟩
    simp [hd]
  next n m _ _ =>
    obtain ⟨d, ds, hd, hn⟩ := exists_digits n
    obtain ⟨e, es, he, hm⟩ := exists_digits m
    refine .inr ⟨d, ds ++ ',' :: e :: es, ?_, ?_⟩
    · simp_all
    · simp [hd, he]

/-! ## What follows the length -/

/-- The clauses behind the type name and the length. -/
def trailer (c : Column) (q : Quoter) (t : ColumnType) : List Char :=
  ((clauseNames t).filter (· ∉ ["type", "length"])).flatMap fun name =>
    (c.clause q t name).toList

/-- A text that is empty or starts with a space. -/
def SpaceLed (cs : List Char) : Prop := ∀ c ∈ cs.head?, c = ' '

theorem spaceLed_flatMap {α : Type} {f : α → List Char} {l : List α}
    (h : ∀ a ∈ l, SpaceLed (f a)) : SpaceLed (l.flatMap f) := by
  induction l with
  | nil => simp [SpaceLed]
  | cons a l ih =>
    obtain ⟨ha, hl⟩ := List.forall_mem_cons.1 h
    cases hf : f a with
    | nil => simpa [hf] using ih hl
    | cons c cs => simpa [SpaceLed, hf] using ha

/-- Every clause but the type name and the length starts with a space or is empty. -/
theorem spaceLed_clause (c : Column) (q : Quoter) (t : ColumnType) {name : String}
    (h : name ∉ ["type", "length"]) : SpaceLed (c.clause q t name).toList := by
  unfold clause
  split
  case h_1 | h_2 => simp at h
  case h_3 => unfold nullClause; split <;> simp [SpaceLed]
  case h_4 => unfold uniqueClause; split <;> simp [SpaceLed]
  case h_5 => unfold defaultClause; repeat' split <;> simp [SpaceLed]
  case h_6 => unfold checkClause; split <;> simp [SpaceLed]
  case h_7 => unfold commentClause; split <;> simp [SpaceLed]
  case h_8 => unfold positionClause; repeat' split <;> simp [SpaceLed]
  case h_9 => unfold appendClause; repeat' split <;> simp [SpaceLed]
  case h_10 => simp [SpaceLed]

theorem spaceLed_trailer (c : Column) (q : Quoter) (t : ColumnType) : SpaceLed (c.trailer q t) :=
  spaceLed_flatMap fun _ h => c.spaceLed_clause q t (by simpa using (List.mem_filter.1 h).2)

/-- A definition is the type name, the length and the other clauses. -/
theorem toList_definition_eq_append {c : Column} {t : ColumnType} (h : c.type? = some t)
    (q : Quoter) :
    (c.definition q).toList = t.tag.toList ++ (c.sizeClause t).toList ++ c.trailer q t := by
  rw [toList_definition h]
  unfold clauseNames sizeClause trailer clauseNames
  split <;> simp [clause]

/-- Columns of one type that differ in one clause have definitions that are the same around it. -/
theorem toList_definition_around {c c' : Column} {t : ColumnType} (h : c'.type? = some t)
    (q : Quoter) {name : String} {before after : List String}
    (hnames : clauseNames t = before ++ name :: after) (hbefore : name ∉ before)
    (hafter : name ∉ after)
    (hsame : ∀ other, other ≠ name → c'.clause q t other = c.clause q t other) :
    (c'.definition q).toList = (before.flatMap fun other => (c.clause q t other).toList) ++
      (c'.clause q t name).toList ++ after.flatMap fun other => (c.clause q t other).toList := by
  have hothers {names : List String} (hname : name ∉ names) :
      (names.flatMap fun other => (c'.clause q t other).toList) =
        names.flatMap fun other => (c.clause q t other).toList := by
    rw [List.flatMap_def, List.flatMap_def]
    refine congrArg List.flatten (List.map_congr_left fun other hother => ?_)
    rw [hsame other fun heq => hname (heq ▸ hother)]
  rw [toList_definition h, hnames, List.flatMap_append, List.flatMap_cons, hothers hbefore,
    hothers hafter, List.append_assoc]

end Column

/-! ## Definitions with their physical types -/

namespace TypeMap

/-- The physical type takes the place of a type name and its length, and the clauses stay. -/
theorem resolveChars_tag {m : TypeMap} (hm : m.WordKeys) {t : ColumnType} {physical : List Char}
    (hp : m.chars? t.tag.toList = some physical) {size rest : List Char}
    (hsize : size = [] ∨ ∃ d ds, ')' ∉ ds ∧ size = '(' :: (d :: ds ++ [')']))
    (hrest : Column.SpaceLed rest) :
    ∃ sized, Resized size physical sized ∧
      m.resolveChars (t.tag.toList ++ size ++ rest) = sized ++ rest := by
  have hword := t.isWord_of_mem_tag
  have hne := t.tag_ne_nil
  rcases hsize with rfl | ⟨d, ds, hn, rfl⟩
  · refine ⟨physical, .unsized physical, ?_⟩
    cases rest with
    | nil => simp [resolveChars, hp]
    | cons c rest =>
      obtain rfl : c = ' ' := hrest c rfl
      simpa using resolveChars_blank hm hp hword hne (by decide : isBlank ' ' = true) rest
  · refine ⟨resize ('(' :: (d :: ds ++ [')'])) physical, resized_resize (by simp) physical, ?_⟩
    simpa using resolveChars_group hm hp hword hne hn rest

theorem wordKeys_ofList {pairs : List (String × String)}
    (h : pairs.all (fun p => p.1.toList.all isWord) = true) : WordKeys ⟨Dict.ofList pairs⟩ := by
  intro tag htag
  obtain ⟨p, hp, rfl⟩ := List.mem_map.1 ((Dict.mem_names_ofList pairs tag).1 htag)
  exact List.all_eq_true.1 (List.all_eq_true.1 h p hp)

theorem wordKeys_usual : usual.WordKeys := wordKeys_ofList (by decide +kernel)

theorem isSome_usual_get? (t : ColumnType) : (usual.get? t.tag).isSome = true := by
  rw [get?, Dict.isSome_get?_iff, usual, Dict.mem_names_ofList]
  cases t <;> simp [ColumnType.tag]

end TypeMap

/-- The definition of a column of a known type is its type name, its length `L` and a rest `R`. With
its physical type it is the type of the map, made to fit `L`, and `R` as it was. The usual map is
one of the maps that this holds for, whatever the type. -/
theorem resolve_definition :
    (∀ (m : TypeMap) (c : Column) (q : Quoter) (t : ColumnType) (physical : String),
      m.WordKeys → c.type? = some t → m.get? t.tag = some physical →
      ∃ P R : String,
        c.definition q = t.tag ++ c.sizeClause t ++ R ∧
        m.resolve (c.definition q) = P ++ R ∧
        TypeMap.Resized (c.sizeClause t).toList physical.toList P.toList) ∧
    TypeMap.usual.WordKeys ∧ ∀ t : ColumnType, (TypeMap.usual.get? t.tag).isSome = true := by
  refine ⟨fun m c q t physical hm ht hp => ?_, TypeMap.wordKeys_usual, TypeMap.isSome_usual_get?⟩
  have hdef := c.toList_definition_eq_append ht q
  have hchars : m.chars? t.tag.toList = some physical.toList := by simp [TypeMap.chars?, hp]
  have hsize : (c.sizeClause t).toList = [] ∨
      ∃ d ds, ')' ∉ ds ∧ (c.sizeClause t).toList = '(' :: (d :: ds ++ [')']) := by
    unfold Column.sizeClause
    split
    · exact .inl rfl
    · exact c.lengthClause_cases
  obtain ⟨sized, hsized, hres⟩ :=
    TypeMap.resolveChars_tag hm hchars hsize (c.spaceLed_trailer q t)
  refine ⟨.ofList sized, .ofList (c.trailer q t), ?_, ?_, by simpa using hsized⟩
  · simp [← String.toList_inj, hdef]
  · have hne : (c.definition q).isEmpty = false := by
      refine Bool.eq_false_iff.2 fun he => t.tag_ne_nil ?_
      simp_all [String.isEmpty_iff]
    simp [TypeMap.resolve, hne, hdef, ← String.toList_inj, ← hres]

/-- A column whose texts hold parentheses, type names and braces. -/
def hostileColumn : Column where
  tag := "string"
  length := [64]
  default? := some "') (5)"
  check? := some "a(b)) OR (c"
  comment? := some "\x7btype\x7d"
  append? := some "varchar(7)\n$1"

theorem resolve_definition_hostileColumn :
    TypeMap.usual.WordKeys ∧ hostileColumn.type? = some .string ∧
      TypeMap.usual.get? "string" = some "varchar(255)" ∧
      ∃ P R : String,
        hostileColumn.definition {} = "string" ++ hostileColumn.sizeClause .string ++ R ∧
        TypeMap.usual.resolve (hostileColumn.definition {}) = P ++ R ∧
        TypeMap.Resized (hostileColumn.sizeClause .string).toList "varchar(255)".toList
          P.toList := by
  have hw : TypeMap.usual.WordKeys := TypeMap.wordKeys_usual
  have ht : hostileColumn.type? = some .string := by decide
  have hp : TypeMap.usual.get? "string" = some "varchar(255)" := by decide +kernel
  exact ⟨hw, ht, hp, resolve_definition.1 _ hostileColumn {} .string "varchar(255)" hw ht hp⟩

example : TypeMap.usual.resolve (hostileColumn.definition {}) =
    "varchar(64) NOT NULL DEFAULT ') (5) CHECK (a(b)) OR (c) COMMENT \"\x7btype\x7d\" " ++
      "varchar(7)\n$1," := by
  decide +kernel

end SchemaMigration
