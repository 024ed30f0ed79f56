import Mathlib.Data.List.Nodup
import Mathlib.Data.List.Pairwise
import SchemaMigration.Proofs.Migration.DirectoryIndex
import SchemaMigration.Proofs.Text.Ends
import SchemaMigration.Proofs.Value.Dictionary
import SchemaMigration.Statement.Body

/-!
# The order of the lines of a table

The lines of a table come from the fields of a map. Fields under names come first, each as a column,
with the primary keys in front; fields under numbers follow in the order of the numbers. This order
is a strict one, so there is one arrangement of the fields, and the lines are read off it.

## Main definitions

* `TableLine.IndexText` — keys that are the text of a number.
* `TableLine.LeadsWithPk` — definitions of primary keys.
* `TableLine.Arranged` — the arrangement of the fields of a map.
* `TableLine.Line` — the line of a field under a number.

The main result is `TableLine.ofValue_arranged`.
-/

namespace SchemaMigration.TableLine

/-! ## Specification -/

/-- `IndexText key n` says that a key is the text of the index `n`: decimal digits, perhaps after a
plus sign, that denote `n`, which has 64 bits. -/
def IndexText (key : String) (n : Nat) : Prop :=
  n < 2 ^ 64 ∧ (Denotes key.toList n ∨ ∃ ds, key.toList = '+' :: ds ∧ Denotes ds n)

/-- Holds for a definition that starts with the name of a primary key type, if no letter, digit or
underscore follows the name. -/
def LeadsWithPk (definition : String) : Prop :=
  ∃ (t : ColumnType) (rest : List Char), t.category = .pk ∧
    definition.toList = t.tag.toList ++ rest ∧ ∀ c ∈ rest.head?, isTagChar c = false

/-- The order of fields under names: primary keys first, then by name. -/
def NameBefore (p p' : String × Value) : Prop :=
  (LeadsWithPk p.2.asText ∧ ¬LeadsWithPk p'.2.asText) ∨
    ((LeadsWithPk p.2.asText ↔ LeadsWithPk p'.2.asText) ∧ p.1 < p'.1)

/-- The order of fields under numbers: by number, then by key. -/
def NumberBefore (p p' : String × Value) : Prop :=
  ∃ n n', IndexText p.1 n ∧ IndexText p'.1 n' ∧ (n < n' ∨ (n = n' ∧ p.1 < p'.1))

/-- An arrangement of fields: those under names and those under numbers, both in their order. -/
structure Arranged (fields named numbered : List (String × Value)) : Prop where
  perm : (named ++ numbered).Perm fields
  isName : ∀ p ∈ named, ∀ n, ¬IndexText p.1 n
  isNumber : ∀ p ∈ numbered, ∃ n, IndexText p.1 n
  names : named.Pairwise NameBefore
  numbers : numbered.Pairwise NumberBefore

/-- `Line v l` says that `l` is the line of the value `v` under a number. -/
inductive Line : Value → TableLine → Prop
  | column (name definition : Value) (rest : List Value) :
    Line (.list (name :: definition :: rest)) (.column name.asText definition.asText)
  | raw (line : String) (h : Chars.Visible line.toList) : Line (.text line) (.raw line)

variable {key definition : String} {n : Nat} {fields named numbered : List (String × Value)}
  {p p' : String × Value}

/-! ## Keys and definitions -/

theorem indexOf?_eq_some_iff : indexOf? key = some n ↔ IndexText key n := by
  rw [indexOf?, Option.filter_eq_some_iff, decide_eq_true_iff, and_comm]
  nth_rewrite 1 [← String.ofList_toList (s := key)]
  rw [Decimal.nat?_eq_some_iff]
  rfl

theorem indexOf?_eq_none_iff : indexOf? key = none ↔ ∀ n, ¬IndexText key n := by
  simp only [Option.eq_none_iff_forall_ne_some, ne_eq, indexOf?_eq_some_iff]

theorem isSome_indexOf?_iff : (indexOf? key).isSome ↔ ∃ n, IndexText key n := by
  simp only [Option.isSome_iff_exists, indexOf?_eq_some_iff]

/-- The text of a number of 64 bits is an index text of it. -/
theorem indexText_toString (h : n < 2 ^ 64) : IndexText (toString n) n := by
  have hchars : (toString n).toList = Nat.toDigits 10 n := Nat.toList_repr
  refine ⟨h, .inl ?_⟩
  rw [hchars, Decimal.denotes_iff]
  refine ⟨?_, Nat.ofDigitChars_toDigits (by decide) (by decide)⟩
  simp only [Bool.or_eq_false_iff, List.isEmpty_eq_false_iff, Bool.not_eq_false', List.all_eq_true]
  exact ⟨Nat.toDigits_ne_nil, fun d hd => Nat.isDigit_of_mem_toDigits (by decide) (by decide) hd⟩

theorem takeWhile_eq_iff {p : Char → Bool} {cs word : List Char} (h : ∀ c ∈ word, p c = true) :
    cs.takeWhile p = word ↔ ∃ rest, cs = word ++ rest ∧ ∀ c ∈ rest.head?, p c = false := by
  constructor
  · rintro rfl
    refine ⟨cs.dropWhile p, List.takeWhile_append_dropWhile.symm, fun c hc => ?_⟩
    have hnot := List.head?_dropWhile_not p cs
    simp_all
  · rintro ⟨rest, rfl, hrest⟩
    rw [List.takeWhile_append_of_pos h]
    cases rest with
    | nil => simp
    | cons c rest => simp [hrest c rfl]

theorem isPkDefinition_iff : isPkDefinition definition = true ↔ LeadsWithPk definition := by
  have htag (t : ColumnType) : ∀ c ∈ t.tag.toList, isTagChar c = true :=
    List.all_eq_true.1 (by cases t <;> decide)
  have hlead (t : ColumnType) : ColumnType.ofTag?
      (.ofList (definition.toList.takeWhile isTagChar)) = some t ↔
        definition.toList.takeWhile isTagChar = t.tag.toList := by
    constructor
    · intro h
      rw [ColumnType.tag_of_ofTag? h, String.toList_ofList]
    · intro h
      rw [h, String.ofList_toList, ColumnType.ofTag?_tag]
  rw [isPkDefinition, decide_eq_true_iff, Category.ofTag]
  constructor
  · intro h
    cases ht : ColumnType.ofTag? (.ofList (definition.toList.takeWhile isTagChar)) with
    | none => simp [ht] at h
    | some t =>
      obtain ⟨rest, heq, hrest⟩ := (takeWhile_eq_iff (htag t)).1 ((hlead t).1 ht)
      exact ⟨t, rest, by simpa [ht] using h, heq, hrest⟩
  · rintro ⟨t, rest, hpk, heq, hrest⟩
    rw [(hlead t).2 ((takeWhile_eq_iff (htag t)).2 ⟨rest, heq, hrest⟩)]
    exact hpk

/-! ## Lines -/

theorem lineOf?_eq_some_iff {v : Value} {l : TableLine} : lineOf? v = some l ↔ Line v l := by
  constructor
  · intro h
    unfold lineOf? at h
    split at h
    next name definition rest =>
      cases h
      exact .column name definition rest
    next line =>
      split at h
      next => cases h
      next hne =>
        cases h
        rw [String.isEmpty_iff] at hne
        exact .raw line (Text.trim_ne_empty_iff.1 hne)
    next => cases h
  · rintro (⟨name, definition, rest⟩ | ⟨line, hvisible⟩)
    · rfl
    · have hne : ¬(Text.trim line).isEmpty := by
        rw [String.isEmpty_iff]
        exact Text.trim_ne_empty_iff.2 hvisible
      rw [lineOf?, if_neg hne]

/-! ## Sorting -/

section Sorting

variable {α : Type} {le : α → α → Bool} {lt : α → α → Prop} {l : List α} {a b : α}

theorem pair_sublist_or (ha : a ∈ l) (hb : b ∈ l) (hne : a ≠ b) :
    [a, b].Sublist l ∨ [b, a].Sublist l := by
  induction l with
  | nil => cases ha
  | cons c l ih => grind

theorem not_pair_sublist_swap (h : l.Nodup) (hab : [a, b].Sublist l) : ¬[b, a].Sublist l := by
  induction l with
  | nil => cases hab
  | cons c l ih => grind

/-- Sorting keeps the order of what it does not tell apart. -/
theorem pairwise_mergeSort_stable (htrans : ∀ a b c, le a b → le b c → le a c)
    (htotal : ∀ a b, le a b || le b a) (hnodup : l.Nodup) (h : l.Pairwise lt) :
    (l.mergeSort le).Pairwise fun a b => le a b ∧ (le b a → lt a b) := by
  have hnodup' : (l.mergeSort le).Nodup := (List.mergeSort_perm l le).nodup_iff.2 hnodup
  refine List.pairwise_iff_forall_sublist.2 fun {a b} hab => ⟨?_, fun hle => ?_⟩
  · exact List.pairwise_iff_forall_sublist.1 (List.pairwise_mergeSort htrans htotal l) hab
  · have hmem {x : α} (hx : x ∈ [a, b]) : x ∈ l := List.mem_mergeSort.1 (hab.subset hx)
    have hne : a ≠ b := by
      rintro rfl
      exact List.nodup_iff_sublist.1 hnodup' a hab
    obtain hbefore | hbehind := pair_sublist_or (hmem (by simp)) (hmem (by simp)) hne
    · exact List.pairwise_iff_forall_sublist.1 h hbefore
    · -- sorting would have left `b` before `a`
      have hkept := List.pair_sublist_mergeSort htrans htotal hle hbehind
      exact absurd hkept (not_pair_sublist_swap hnodup' hab)

end Sorting

/-! ## The arrangement -/

/-- The index that a key is the text of, or 0. -/
def number (p : String × Value) : Nat := (indexOf? p.1).getD 0

/-- The fields under names, primary keys first. -/
def arrangedNames (fields : List (String × Value)) : List (String × Value) :=
  let names := fields.filter fun p => (indexOf? p.1).isNone
  names.filter (isPkDefinition ·.2.asText) ++ names.filter (!isPkDefinition ·.2.asText)

/-- The fields under numbers, by number. -/
def arrangedNumbers (fields : List (String × Value)) : List (String × Value) :=
  (fields.filter fun p => (indexOf? p.1).isSome).mergeSort fun p p' => number p ≤ number p'

theorem namedColumns_eq (fields : List (String × Value)) :
    namedColumns fields = (arrangedNames fields).map fun p => .column p.1 p.2.asText := by
  simp [namedColumns, arrangedNames, List.partition_eq_filter_filter, List.filter_map,
    Function.comp_def]

theorem numberedEntries_eq (fields : List (String × Value)) :
    numberedEntries fields = (arrangedNumbers fields).map fun p => (number p, p.2) := by
  have hentries : (fields.filterMap fun p => (indexOf? p.1).map (·, p.2)) =
      (fields.filter fun p => (indexOf? p.1).isSome).map fun p => (number p, p.2) := by
    induction fields with
    | nil => rfl
    | cons p fields ih => cases h : indexOf? p.1 <;> simp [h, ih, number]
  change List.mergeSort (fields.filterMap fun p => (indexOf? p.1).map (·, p.2)) _ = _
  rw [hentries, arrangedNumbers, List.map_mergeSort]
  exact fun p _ p' _ => rfl

theorem ofValue_map (fields : List (String × Value)) :
    ofValue (.map fields) = ((arrangedNames fields).map fun p => .column p.1 p.2.asText) ++
      (arrangedNumbers fields).filterMap (lineOf? ·.2) := by
  rw [ofValue, namedColumns_eq, numberedEntries_eq, List.filterMap_map]
  rfl

theorem indexText_number (h : (indexOf? p.1).isSome) : IndexText p.1 (number p) := by
  obtain ⟨n, hn⟩ := Option.isSome_iff_exists.1 h
  rw [number, hn]
  exact indexOf?_eq_some_iff.1 hn

theorem isSome_of_mem_arrangedNumbers (hp : p ∈ arrangedNumbers fields) :
    (indexOf? p.1).isSome :=
  (List.mem_filter.1 (List.mem_mergeSort.1 hp)).2

theorem arrangedNames_append_perm (fields : List (String × Value)) :
    (arrangedNames fields ++ arrangedNumbers fields).Perm fields := by
  have hnames := List.filter_append_perm (isPkDefinition ·.2.asText)
    (fields.filter fun p => (indexOf? p.1).isNone)
  have hnumbers := List.mergeSort_perm (fields.filter fun p => (indexOf? p.1).isSome)
    fun p p' => number p ≤ number p'
  have hall := List.filter_append_perm (fun p => (indexOf? p.1).isNone) fields
  refine (hnames.append hnumbers).trans ?_
  simpa using hall

theorem pairwise_arrangedNames (h : Dict.Sorted fields) :
    (arrangedNames fields).Pairwise NameBefore := by
  have hnames : (fields.filter fun p => (indexOf? p.1).isNone).Pairwise fun p p' => p.1 < p'.1 :=
    h.filter _
  have hother {p : String × Value} (hp : (!isPkDefinition p.2.asText) = true) :
      ¬LeadsWithPk p.2.asText := by
    rw [← isPkDefinition_iff]
    simpa using hp
  refine List.pairwise_append.2 ⟨?_, ?_, fun p hp p' hp' => ?_⟩
  · refine (hnames.filter _).imp_of_mem fun {p p'} hp hp' hlt => .inr ⟨?_, hlt⟩
    exact iff_of_true (isPkDefinition_iff.1 (List.mem_filter.1 hp).2)
      (isPkDefinition_iff.1 (List.mem_filter.1 hp').2)
  · refine (hnames.filter _).imp_of_mem fun {p p'} hp hp' hlt => .inr ⟨?_, hlt⟩
    exact iff_of_false (hother (List.mem_filter.1 hp).2) (hother (List.mem_filter.1 hp').2)
  · exact .inl ⟨isPkDefinition_iff.1 (List.mem_filter.1 hp).2, hother (List.mem_filter.1 hp').2⟩

theorem pairwise_arrangedNumbers (h : Dict.Sorted fields) :
    (arrangedNumbers fields).Pairwise NumberBefore := by
  have hnumbers : (fields.filter fun p => (indexOf? p.1).isSome).Pairwise
      fun p p' => p.1 < p'.1 := h.filter _
  have hnodup : (fields.filter fun p => (indexOf? p.1).isSome).Nodup :=
    h.nodup_names.of_map.filter _
  have hsorted : (arrangedNumbers fields).Pairwise fun p p' =>
      decide (number p ≤ number p') ∧ (decide (number p' ≤ number p) → p.1 < p'.1) :=
    pairwise_mergeSort_stable (fun p p' p'' => by simpa using Nat.le_trans)
      (fun p p' => by simpa using Nat.le_total _ _) hnodup hnumbers
  refine hsorted.imp_of_mem fun {p p'} hp hp' ⟨hle, hlt⟩ => ?_
  refine ⟨number p, number p', indexText_number (isSome_of_mem_arrangedNumbers hp),
    indexText_number (isSome_of_mem_arrangedNumbers hp'), ?_⟩
  rw [decide_eq_true_iff] at hle hlt
  obtain hne | heq := Nat.lt_or_eq_of_le hle
  · exact .inl hne
  · exact .inr ⟨heq, hlt heq.ge⟩

/-- The fields of a map in key order have an arrangement. -/
theorem arranged (h : Dict.Sorted fields) :
    Arranged fields (arrangedNames fields) (arrangedNumbers fields) where
  perm := arrangedNames_append_perm fields
  isName p hp n hn := by
    rw [← indexOf?_eq_some_iff] at hn
    simp [arrangedNames, hn] at hp
  isNumber p hp := isSome_indexOf?_iff.1 (isSome_of_mem_arrangedNumbers hp)
  names := pairwise_arrangedNames h
  numbers := pairwise_arrangedNumbers h

theorem NameBefore.asymm (h : NameBefore p p') : ¬NameBefore p' p := by
  rintro (⟨hpk', hno⟩ | ⟨hiff', hlt'⟩)
  · obtain ⟨hpk, -⟩ | ⟨hiff, -⟩ := h
    · exact hno hpk
    · exact hno (hiff.2 hpk')
  · obtain ⟨hpk, hno'⟩ | ⟨-, hlt⟩ := h
    · exact hno' (hiff'.2 hpk)
    · exact lt_asymm hlt hlt'

theorem IndexText.unique {n' : Nat} (h : IndexText key n) (h' : IndexText key n') : n = n' :=
  Option.some.inj ((indexOf?_eq_some_iff.2 h).symm.trans (indexOf?_eq_some_iff.2 h'))

theorem NumberBefore.asymm (h : NumberBefore p p') : ¬NumberBefore p' p := by
  obtain ⟨n, n', hn, hn', hlt⟩ := h
  rintro ⟨m', m, hm', hm, hgt⟩
  obtain rfl := hn.unique hm
  obtain rfl := hn'.unique hm'
  obtain hlt | ⟨rfl, hlt⟩ := hlt
  · omega
  · obtain hgt | ⟨-, hgt⟩ := hgt
    · exact Nat.lt_irrefl _ hgt
    · exact lt_asymm hlt hgt

theorem Arranged.filter_named (h : Arranged fields named numbered) :
    named.Perm (fields.filter fun p => (indexOf? p.1).isNone) := by
  refine .trans (.of_eq ?_) (h.perm.filter _)
  have hnamed : named.filter (fun p => (indexOf? p.1).isNone) = named := by
    refine List.filter_eq_self.2 fun p hp => ?_
    rw [Option.isNone_iff_eq_none, indexOf?_eq_none_iff]
    exact h.isName p hp
  have hnumbered : numbered.filter (fun p => (indexOf? p.1).isNone) = [] := by
    refine List.filter_eq_nil_iff.2 fun p hp => ?_
    simpa [← Option.isSome_iff_ne_none] using isSome_indexOf?_iff.2 (h.isNumber p hp)
  rw [List.filter_append, hnamed, hnumbered, List.append_nil]

/-- There is one arrangement of fields. -/
theorem Arranged.unique {named' numbered' : List (String × Value)}
    (h : Arranged fields named numbered) (h' : Arranged fields named' numbered') :
    named = named' ∧ numbered = numbered' := by
  have hnamed : named.Perm named' := h.filter_named.trans h'.filter_named.symm
  have hnumbered : numbered.Perm numbered' := by
    refine (List.perm_append_left_iff named).1 ((h.perm.trans h'.perm.symm).trans ?_)
    exact hnamed.symm.append_right numbered'
  exact ⟨hnamed.eq_of_pairwise (fun p p' _ _ h h' => absurd h' h.asymm) h.names h'.names,
    hnumbered.eq_of_pairwise (fun p p' _ _ h h' => absurd h' h.asymm) h.numbers h'.numbers⟩

theorem ofValue_of_arranged (hfields : Dict.Sorted fields) (h : Arranged fields named numbered) :
    ofValue (.map fields) = (named.map fun p => .column p.1 p.2.asText) ++
      numbered.filterMap (lineOf? ·.2) := by
  obtain ⟨rfl, rfl⟩ := h.unique (arranged hfields)
  exact ofValue_map fields

/-! ## Numbered lists -/

/-- The items of a list under their numbers, from 1 on. -/
def numberedFields (items : List Value) : List (String × Value) :=
  (items.zipIdx 1).map fun (v, n) => (toString n, v)

theorem pairwise_zipIdx (items : List Value) (n : Nat) :
    (items.zipIdx n).Pairwise fun p p' => p.2 < p'.2 := by
  rw [← List.pairwise_map (f := Prod.snd) (R := (· < ·)), List.zipIdx_map_snd]
  exact List.pairwise_lt_range'

/-- Fields under the numbers from 1 on are arranged as the list of their values. -/
theorem arranged_numberedFields {items : List Value} (hlength : items.length < 2 ^ 64)
    (h : fields.Perm (numberedFields items)) : Arranged fields [] (numberedFields items) := by
  have hindex {q : Value × Nat} (hq : q ∈ items.zipIdx 1) : IndexText (toString q.2) q.2 := by
    have hle : q.2 < 1 + items.length := (List.mem_zipIdx hq).2.1
    exact indexText_toString (by omega)
  refine ⟨h.symm, by simp, fun p hp => ?_, List.Pairwise.nil, ?_⟩
  · obtain ⟨q, hq, rfl⟩ := List.mem_map.1 hp
    exact ⟨q.2, hindex hq⟩
  · refine List.pairwise_map.2 ((pairwise_zipIdx items 1).imp_of_mem fun {q q'} hq hq' hlt => ?_)
    exact ⟨q.2, q'.2, hindex hq, hindex hq', .inl hlt⟩

/-! ## Maps and lists -/

/-- The fields of a map have an arrangement, of which the lines of the map are read off: a column of
each field under a name, then the lines of the fields under numbers. A field under a number has a
line if it is a list of two or more or a text that is not blank. A map with the keys from 1 to some
number, which has no more of them than 64 bits count, has the lines of the list of its values. -/
theorem ofValue_arranged :
    (∀ fields, Dict.Sorted fields → (∃ named numbered, Arranged fields named numbered) ∧
      ∀ named numbered, Arranged fields named numbered →
        ofValue (.map fields) = (named.map fun p => .column p.1 p.2.asText) ++
          numbered.filterMap (lineOf? ·.2)) ∧
    (∀ v l, lineOf? v = some l ↔ Line v l) ∧
    ∀ items fields, items.length < 2 ^ 64 → Dict.Sorted fields →
      fields.Perm (numberedFields items) → ofValue (.map fields) = ofValue (.list items) := by
  refine ⟨fun fields hfields => ⟨⟨_, _, arranged hfields⟩, fun named numbered h => ?_⟩,
    fun v l => lineOf?_eq_some_iff, fun items fields hlength hfields hperm => ?_⟩
  · exact ofValue_of_arranged hfields h
  · have hvalues : (items.zipIdx 1).filterMap (lineOf? ·.1) = items.filterMap lineOf? := by
      rw [← Function.comp_def lineOf? Prod.fst, ← List.filterMap_map, List.zipIdx_map_fst]
    rw [ofValue_of_arranged hfields (arranged_numberedFields hlength hperm), ofValue, ← hvalues,
      numberedFields, List.filterMap_map]
    rfl

/-- Fields under names and numbers, of which one is blank and one too short for a line. -/
def mixedFields : List (String × Value) :=
  [("+1", .text "KEY k (a)"), ("01", .text " "), ("1", .list [.text "n", .text "text"]),
    ("10", .text "CHECK (a > 0)"), ("2", .list [.text "alone"]), ("a", .text "integer"),
    ("b", .text "pk_old"), ("z", .text "upk CHECK (z > 0)")]

/-- The mixed fields under names, as they are arranged. -/
def mixedNames : List (String × Value) :=
  [("z", .text "upk CHECK (z > 0)"), ("a", .text "integer"), ("b", .text "pk_old")]

/-- The mixed fields under numbers, as they are arranged. -/
def mixedNumbers : List (String × Value) :=
  [("+1", .text "KEY k (a)"), ("01", .text " "), ("1", .list [.text "n", .text "text"]),
    ("2", .list [.text "alone"]), ("10", .text "CHECK (a > 0)")]

theorem arranged_mixedFields : Arranged mixedFields mixedNames mixedNumbers where
  perm := by
    have hplaces : [7, 5, 6, 0, 1, 2, 4, 3].Perm (List.range 8) := by decide
    exact hplaces.map (mixedFields.getD · default)
  isName p hp n hn := by
    have hnone : ∀ p ∈ mixedNames, indexOf? p.1 = none := by decide +kernel
    exact indexOf?_eq_none_iff.1 (hnone p hp) n hn
  isNumber p hp := by
    have hsome : ∀ p ∈ mixedNumbers, (indexOf? p.1).isSome := by decide +kernel
    exact isSome_indexOf?_iff.1 (hsome p hp)
  names := by
    have hnames : mixedNames.Pairwise fun p p' =>
        (isPkDefinition p.2.asText ∧ ¬isPkDefinition p'.2.asText) ∨
          ((isPkDefinition p.2.asText ↔ isPkDefinition p'.2.asText) ∧ p.1 < p'.1) := by
      decide +kernel
    simp only [isPkDefinition_iff] at hnames
    exact hnames
  numbers := by
    have hsome : ∀ p ∈ mixedNumbers, (indexOf? p.1).isSome := by decide +kernel
    have hnumbers : mixedNumbers.Pairwise fun p p' =>
        number p < number p' ∨ (number p = number p' ∧ p.1 < p'.1) := by decide +kernel
    refine hnumbers.imp_of_mem fun {p p'} hp hp' hlt => ?_
    exact ⟨_, _, indexText_number (hsome p hp), indexText_number (hsome p' hp'), hlt⟩

/-- A line of an index. -/
def indexLine (name : String) : Value := .text ("KEY k" ++ name)

/-- Ten lines in order. -/
def tenItems : List Value :=
  ["1", "2", "3", "4", "5", "6", "7", "8", "9", "10"].map indexLine

/-- The ten lines under their numbers, in the order of the texts of these. -/
def tenFields : List (String × Value) :=
  ["1", "10", "2", "3", "4", "5", "6", "7", "8", "9"].map fun key => (key, indexLine key)

theorem ofValue_arranged_mixedFields :
    Dict.Sorted mixedFields ∧ Arranged mixedFields mixedNames mixedNumbers ∧
      ofValue (.map mixedFields) = [.column "z" "upk CHECK (z > 0)", .column "a" "integer",
        .column "b" "pk_old", .raw "KEY k (a)", .column "n" "text", .raw "CHECK (a > 0)"] ∧
      tenItems.length < 2 ^ 64 ∧ Dict.Sorted tenFields ∧
      tenFields.Perm (numberedFields tenItems) ∧
      ofValue (.map tenFields) = ofValue (.list tenItems) := by
  obtain ⟨hmap, -, hlist⟩ := ofValue_arranged
  have hsorted {fields : List (String × Value)}
      (h : (fields.map Prod.fst).Pairwise (· < ·)) : Dict.Sorted fields := List.pairwise_map.1 h
  have hmixed : Dict.Sorted mixedFields := hsorted (by decide +kernel)
  have hten : Dict.Sorted tenFields := hsorted (by decide +kernel)
  have hlength : tenItems.length < 2 ^ 64 := by decide
  have hperm : tenFields.Perm (numberedFields tenItems) := by
    have hplaces : [0, 9, 1, 2, 3, 4, 5, 6, 7, 8].Perm (List.range 10) := by decide
    exact hplaces.map ((numberedFields tenItems).getD · default)
  refine ⟨hmixed, arranged_mixedFields, ?_, hlength, hten, hperm, hlist _ _ hlength hten hperm⟩
  rw [(hmap mixedFields hmixed).2 mixedNames mixedNumbers arranged_mixedFields]
  decide +kernel

end SchemaMigration.TableLine
