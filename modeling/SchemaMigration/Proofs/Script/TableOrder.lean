import Mathlib.Data.List.Nodup
import Mathlib.Data.List.Pairwise
import Mathlib.Data.List.Perm.Subperm
import SchemaMigration.Proofs.Value.Dictionary
import SchemaMigration.Script.Session

/-!
# The order in which tables are listed

A table has no order of its own: whoever goes through its entries meets them in any. A table whose
keys are 1, 2, … becomes a list in the order of the keys. Any other becomes a map by the texts of
its keys, and of several keys with one text the one that is met last stays. So the order matters
only to such keys, and they are the ones that get lost.

## Main definitions

* `Session.Listing` — the orders in which tables are met, and `Listing.value`, what a value becomes.
* `Session.Unambiguous` — values in which keys with one text have values that become the same.
* `Table.Represents` — holds if no entry of a table is lost.
* `Session.Listing.value_eq_iff_and_represents_iff` — which tables become the same in every order,
  and of which no entry is lost.
-/

namespace SchemaMigration

open Session (border isSequence)

/-! ## Members -/

namespace Value

/-- How many members a value has. -/
def size : Value → Nat
  | .list items => items.length
  | .map fields => fields.length
  | _ => 0

/-- The member of a value under the key of a table. -/
def member? (key : ScriptValue) : Value → Option Value
  | .list items =>
    match key with
    | .int i => if 1 ≤ i then items[(i - 1).toNat]? else none
    | _ => none
  | .map fields => key.keyText?.bind (Dict.get? fields)
  | _ => none

end Value

namespace Table

variable {t es : Table} {item : ScriptValue → Value} {e e' : ScriptValue × ScriptValue}

def keyTexts (t : Table) : List String := t.filterMap (·.1.keyText?)

/-- Holds if a value has a member for every entry of a table whose key has a text, and as many
members as there are such entries. -/
structure Represents (item : ScriptValue → Value) (t : Table) (x : Value) : Prop where
  size : x.size = t.keyTexts.length
  member : ∀ e ∈ t, e.1.keyText?.isSome → x.member? e.1 = some (item e.2)

/-! ## Sequences -/

/-- The number that an entry has in a sequence. -/
def position : ScriptValue × ScriptValue → Int
  | (.int i, _) => i
  | _ => 0

/-- The entries under the keys 1 to some number. -/
def numbered (t : Table) (n : Nat) : Table :=
  (List.range' 1 n).map fun (i : Nat) => (.int i, t.get (.int i))

theorem mem_of_get_ne_nil {key : ScriptValue} (h : t.get key ≠ .nil) : (key, t.get key) ∈ t := by
  induction t with
  | nil => exact absurd rfl h
  | cons p rest ih => grind [Table.get]

theorem get_ne_nil_of_le_border {i : Nat} (hpos : 1 ≤ i) (hle : i ≤ border t) :
    t.get (.int i) ≠ .nil := by
  let present (i : Nat) : Bool := t.get (.int i) ≠ .nil
  have htaken : (List.range' 1 t.length).takeWhile present =
      (List.range' 1 t.length).take (border t) :=
    List.prefix_iff_eq_take.1 (List.takeWhile_prefix present)
  have hlength : border t ≤ t.length := by
    have hle : ((List.range' 1 t.length).takeWhile present).length ≤ _ :=
      (List.takeWhile_prefix present).length_le
    rwa [List.length_range'] at hle
  have hmem : i ∈ (List.range' 1 t.length).takeWhile present := by
    rw [htaken, List.mem_take_iff_getElem]
    exact ⟨i - 1, by simp; omega, by simp; omega⟩
  simpa [present] using (List.all_eq_true.1 List.all_takeWhile) i hmem

theorem length_of_isSequence {n : Nat} (h : isSequence t n = true) : t.length = n := by
  simp only [isSequence, Bool.and_eq_true, decide_eq_true_eq] at h
  exact h.1

theorem key_of_isSequence {n : Nat} (h : isSequence t n = true) (he : e ∈ t) :
    ∃ i : Nat, e.1 = .int i := by
  simp only [isSequence, Bool.and_eq_true, List.all_eq_true] at h
  obtain ⟨key, v⟩ := e
  cases key with
  | int i =>
    have hpos : 1 ≤ i ∧ i ≤ n := by simpa using h.2 _ he
    exact ⟨i.toNat, by simp; omega⟩
  | _ => exact absurd (h.2 _ he) Bool.false_ne_true

theorem isSequence_perm (h : es.Perm t) (n : Nat) : isSequence es n = isSequence t n := by
  simp only [isSequence, h.length_eq, h.all_eq]

/-- The entries of a sequence are those under its numbers. -/
theorem numbered_perm (h : isSequence t (border t) = true) : (t.numbered (border t)).Perm t := by
  have hnodup : (t.numbered (border t)).Nodup := by
    refine List.Nodup.map (fun i j hij => ?_) List.nodup_range'
    exact Int.ofNat.inj (congrArg position hij)
  have hsubset : t.numbered (border t) ⊆ t := by
    intro e he
    obtain ⟨i, hi, rfl⟩ := List.mem_map.1 he
    rw [List.mem_range'_1] at hi
    exact mem_of_get_ne_nil (get_ne_nil_of_le_border hi.1 (by omega))
  refine (List.subperm_of_subset hnodup hsubset).perm_of_length_le ?_
  simp [numbered, length_of_isSequence h]

/-- Entries that are sorted by a measure of theirs are in its order. -/
theorem pairwise_mergeSort_le {α : Type} [LinearOrder α] (f : ScriptValue × ScriptValue → α)
    (t : Table) : (t.mergeSort fun e e' => f e ≤ f e').Pairwise fun e e' => f e ≤ f e' := by
  refine (List.pairwise_mergeSort ?_ ?_ t).imp of_decide_eq_true
  · intro e₁ e₂ e₃ h₁₂ h₂₃
    exact decide_eq_true (le_trans (of_decide_eq_true h₁₂) (of_decide_eq_true h₂₃))
  · intro e₁ e₂
    simpa using le_total (f e₁) (f e₂)

/-- Sorting the entries of a sequence leads to one order of them. -/
theorem mergeSort_eq_numbered (hes : es.Perm t) (h : isSequence t (border t) = true) :
    (es.mergeSort fun e e' => position e ≤ position e') = t.numbered (border t) := by
  have hperm := numbered_perm h
  have hmerged := pairwise_mergeSort_le position es
  have hnumbered : (t.numbered (border t)).Pairwise fun e e' => position e ≤ position e' := by
    refine List.pairwise_map.2 (List.pairwise_le_range'.imp fun hle => ?_)
    simpa [position] using hle
  refine List.Perm.eq_of_pairwise ?_ hmerged hnumbered ?_
  · intro e e' he he' hle hge
    have hmem : e ∈ t.numbered (border t) :=
      hperm.symm.subset (hes.subset (List.mem_mergeSort.1 he))
    obtain ⟨i, -, rfl⟩ := List.mem_map.1 hmem
    obtain ⟨j, -, rfl⟩ := List.mem_map.1 he'
    have heq : i = j := Int.ofNat.inj (le_antisymm hle hge)
    rw [heq]
  · exact (List.mergeSort_perm _ _).trans (hes.trans hperm.symm)

/-! ## Values of listed entries -/

/-- The members of a map by the texts of the keys, as the entries are met. -/
def fields (item : ScriptValue → Value) (es : Table) : List (String × Value) :=
  es.filterMap fun e => e.1.keyText?.map (·, item e.2)

/-- What a table with a border becomes whose entries are met in an order: the values of a sequence,
sorted by their keys, or a map where a later entry replaces an earlier one. -/
def listedValue (item : ScriptValue → Value) (es : Table) (border : Nat) : Value :=
  if isSequence es border then
    .list ((es.mergeSort fun e e' => position e ≤ position e').map fun e => item e.2)
  else .ofFields (fields item es)

theorem listedValue_of_isSequence (hes : es.Perm t) (h : isSequence t (border t) = true) :
    listedValue item es (border t) = .list ((t.numbered (border t)).map fun e => item e.2) := by
  rw [listedValue, isSequence_perm hes, if_pos h, mergeSort_eq_numbered hes h]

theorem listedValue_of_not_isSequence (hes : es.Perm t) (h : ¬ isSequence t (border t) = true) :
    listedValue item es (border t) = .map (Dict.ofList (fields item es)) := by
  rw [listedValue, isSequence_perm hes, if_neg h, Value.ofFields]

theorem mem_fields {p : String × Value} :
    p ∈ fields item es ↔ ∃ e ∈ es, e.1.keyText? = some p.1 ∧ item e.2 = p.2 := by
  obtain ⟨name, x⟩ := p
  simp [fields]

theorem map_fst_fields (item : ScriptValue → Value) (es : Table) :
    (fields item es).map Prod.fst = es.keyTexts := by
  simp only [fields, keyTexts, List.map_filterMap, Option.map_map]
  congr 1
  funext e
  cases e.1.keyText? <;> rfl

/-- The table of a session becomes what the entries do that are met. -/
theorem tableValue_eq_listedValue (item : ScriptValue → Value) (hes : es.Perm t) :
    Session.tableValue item t es (border t) = listedValue item es (border t) := by
  by_cases h : isSequence t (border t) = true
  · rw [listedValue_of_isSequence hes h, Session.tableValue, if_pos h, numbered, List.map_map]
    rfl
  · rw [listedValue_of_not_isSequence hes h, Session.tableValue, if_neg h]
    rfl

/-! ## Entries and members -/

/-- Numbers are known by their texts. -/
theorem eq_of_toString_eq {i j : Nat} (h : toString (i : Int) = toString (j : Int)) : i = j := by
  have hdigits : Nat.toDigits 10 i = Nat.toDigits 10 j := by
    rw [← Nat.toList_repr, ← Nat.toList_repr]
    exact congrArg String.toList h
  rw [← @Nat.ofDigitChars_toDigits 10 i (by decide) (by decide), hdigits,
    Nat.ofDigitChars_toDigits (by decide) (by decide)]

/-- A key of a sequence is known by its text. -/
theorem key_eq_of_keyText {n : Nat} (h : isSequence t n = true) (he : e ∈ t) (he' : e' ∈ t)
    (htext : e'.1.keyText? = e.1.keyText?) : e'.1 = e.1 := by
  obtain ⟨i, hi⟩ := key_of_isSequence h he
  obtain ⟨j, hj⟩ := key_of_isSequence h he'
  rw [hi, hj, ScriptValue.keyText?, ScriptValue.keyText?, Option.some_inj] at htext
  rw [hi, hj, eq_of_toString_eq htext]

/-- The members of a sequence are the values of its entries. -/
theorem member?_listedValue_of_isSequence (hes : es.Perm t) (h : isSequence t (border t) = true)
    (he : e ∈ t) : (listedValue item es (border t)).member? e.1 = some (item e.2) := by
  obtain ⟨i, hi, rfl⟩ := List.mem_map.1 ((numbered_perm h).symm.subset he)
  rw [List.mem_range'_1] at hi
  rw [listedValue_of_isSequence hes h]
  have hpos : (1 : Int) ≤ i := by omega
  have hplace : ((i : Int) - 1).toNat = i - 1 := by omega
  simp only [Value.member?, if_pos hpos, hplace, numbered, List.map_map]
  rw [List.getElem?_map, List.getElem?_range' (by omega)]
  simp [show 1 + (i - 1) = i by omega]

/-- The member under the key of an entry that is met last is its value. -/
theorem member?_listedValue_concat (hes : (es ++ [e]).Perm t) (hkey : e.1.keyText?.isSome) :
    (listedValue item (es ++ [e]) (border t)).member? e.1 = some (item e.2) := by
  by_cases h : isSequence t (border t) = true
  · exact member?_listedValue_of_isSequence hes h (hes.subset (by simp))
  · obtain ⟨name, hname⟩ := Option.isSome_iff_exists.1 hkey
    have hfields : fields item (es ++ [e]) = fields item es ++ [(name, item e.2)] := by
      simp [fields, List.filterMap_append, hname]
    rw [listedValue_of_not_isSequence hes h, hfields, Dict.ofList_concat]
    simp [Value.member?, hname]

/-- Entries of one text have one member. -/
theorem member?_eq_of_keyText (item : ScriptValue → Value) (hes : es.Perm t) (he : e ∈ t)
    (he' : e' ∈ t) (htext : e'.1.keyText? = e.1.keyText?) :
    (listedValue item es (border t)).member? e'.1 =
      (listedValue item es (border t)).member? e.1 := by
  by_cases h : isSequence t (border t) = true
  · rw [key_eq_of_keyText h he he' htext]
  · rw [listedValue_of_not_isSequence hes h]
    simp only [Value.member?, htext]

/-- Entries that agree where their keys have one text become the same in every order. -/
theorem listedValue_congr {es' : Table} {item' : ScriptValue → Value} (hes : es.Perm t)
    (hes' : es'.Perm t) (hitem : ∀ e ∈ t, e.1.keyText?.isSome → item e.2 = item' e.2)
    (hagree : ∀ e ∈ t, ∀ e' ∈ t, e.1.keyText?.isSome → e'.1.keyText? = e.1.keyText? →
      item' e'.2 = item' e.2) :
    listedValue item es (border t) = listedValue item' es' (border t) := by
  by_cases h : isSequence t (border t) = true
  · rw [listedValue_of_isSequence hes h, listedValue_of_isSequence hes' h]
    refine congrArg Value.list (List.map_congr_left fun e he => ?_)
    have hmem := (numbered_perm h).subset he
    obtain ⟨i, hi⟩ := key_of_isSequence h hmem
    exact hitem e hmem (by rw [hi]; rfl)
  · rw [listedValue_of_not_isSequence hes h, listedValue_of_not_isSequence hes' h]
    refine congrArg Value.map (Dict.ofList_congr (fun p => ?_) fun p hp p' hp' hname => ?_)
    · rw [mem_fields, mem_fields]
      constructor
      · rintro ⟨e, he, hname, hvalue⟩
        refine ⟨e, hes'.symm.subset (hes.subset he), hname, ?_⟩
        rw [← hvalue, hitem e (hes.subset he) (by simp [hname])]
      · rintro ⟨e, he, hname, hvalue⟩
        refine ⟨e, hes.symm.subset (hes'.subset he), hname, ?_⟩
        rw [← hvalue, hitem e (hes'.subset he) (by simp [hname])]
    · obtain ⟨e, he, htext, hvalue⟩ := mem_fields.1 hp
      obtain ⟨e', he', htext', hvalue'⟩ := mem_fields.1 hp'
      have hmem := hes.subset he
      have hmem' := hes.subset he'
      rw [← hvalue, ← hvalue', hitem e hmem (by simp [htext]), hitem e' hmem' (by simp [htext']),
        hagree e' hmem' e hmem (by simp [htext']) (by rw [htext, htext', hname])]

/-- Entries whose keys have different texts are told apart by them. -/
theorem eq_of_nodup_keyTexts (h : t.keyTexts.Nodup) (he : e ∈ t) (he' : e' ∈ t)
    (hkey : e.1.keyText?.isSome) (htext : e'.1.keyText? = e.1.keyText?) : e' = e := by
  by_contra hne
  obtain ⟨name, hname⟩ := Option.isSome_iff_exists.1 hkey
  have hapart := List.pairwise_filterMap.1 h
  have hsymm : Std.Symm fun e e' : ScriptValue × ScriptValue => ∀ name, e.1.keyText? = some name →
      ∀ name', e'.1.keyText? = some name' → name ≠ name' :=
    ⟨fun _ _ h name hname name' hname' heq => h name' hname' name hname heq.symm⟩
  exact hapart.forall he' he hne name (htext.trans hname) name hname rfl

theorem keyTexts_perm (h : es.Perm t) : es.keyTexts.Perm t.keyTexts := h.filterMap _

/-- No entry of a sequence is lost. -/
theorem represents_of_isSequence (item : ScriptValue → Value) (hes : es.Perm t)
    (h : isSequence t (border t) = true) :
    Represents item t (listedValue item es (border t)) ∧ t.keyTexts.Nodup := by
  have hperm := numbered_perm h
  have htexts : (t.numbered (border t)).keyTexts =
      (List.range' 1 (border t)).map fun (i : Nat) => toString (i : Int) := by
    rw [keyTexts, numbered, List.filterMap_map, ← List.filterMap_eq_map]
    rfl
  refine ⟨⟨?_, fun e he _ => member?_listedValue_of_isSequence hes h he⟩, ?_⟩
  · rw [← (keyTexts_perm hperm).length_eq, htexts, listedValue_of_isSequence hes h]
    simp [Value.size, numbered]
  · rw [← (keyTexts_perm hperm).nodup_iff, htexts]
    refine List.Nodup.map (fun i j hij => ?_) List.nodup_range'
    exact eq_of_toString_eq hij

/-- No entry of a table is lost if and only if the texts of its keys differ. -/
theorem represents_iff (hes : es.Perm t) :
    Represents item t (listedValue item es (border t)) ↔ t.keyTexts.Nodup := by
  by_cases h : isSequence t (border t) = true
  · have hrepresents := represents_of_isSequence item hes h
    exact iff_of_true hrepresents.1 hrepresents.2
  · have hlength : (Dict.ofList (fields item es)).length = t.keyTexts.length ↔
        t.keyTexts.Nodup := by
      rw [← (keyTexts_perm hes).nodup_iff, ← (keyTexts_perm hes).length_eq,
        ← map_fst_fields item es, ← Dict.length_ofList_eq_iff, List.length_map]
    rw [listedValue_of_not_isSequence hes h]
    refine ⟨fun hr => hlength.1 hr.size, fun hnodup => ⟨hlength.2 hnodup, fun e he hkey => ?_⟩⟩
    obtain ⟨name, hname⟩ := Option.isSome_iff_exists.1 hkey
    simp only [Value.member?, hname, Option.bind_some]
    refine Dict.get?_ofList (mem_fields.2 ⟨e, hes.symm.subset he, hname, rfl⟩) fun x hx => ?_
    obtain ⟨e', he', hname', rfl⟩ := mem_fields.1 hx
    rw [eq_of_nodup_keyTexts hnodup he (hes.subset he') hkey (hname'.trans hname.symm)]

end Table

/-! ## Orders of tables -/

namespace Session

variable {s : Session} {q : Quoter} {hidden : Option Nat} {levels : Nat} {v : ScriptValue}

/-- The orders in which the entries of the tables of a session are met. A table that is met at two
levels may be listed differently. -/
structure Listing (s : Session) where
  entries : Nat → Nat → Table
  perm : ∀ level place, (entries level place).Perm (s.table place)

namespace Listing

/-- The value that a value of the session becomes if the tables are met in these orders. -/
def value (l : s.Listing) (q : Quoter) (hidden : Option Nat) : Nat → ScriptValue → Value
  | 0, v => s.leafValue q hidden v
  | levels + 1, .table place =>
    (l.entries levels place).listedValue (l.value q hidden levels) (border (s.table place))
  | _ + 1, v => s.leafValue q hidden v

/-- The order of the session itself. -/
def own (s : Session) : s.Listing where
  entries _ place := s.entries place
  perm _ place := s.order.perm place (s.table place)

/-- The value of a session's value is that of its own order. -/
theorem value_own (levels : Nat) (v : ScriptValue) :
    (own s).value q hidden levels v = s.toValueAt q hidden levels v := by
  induction levels generalizing v with
  | zero => rfl
  | succ levels ih =>
    cases v with
    | table place =>
      simp only [value, toValueAt, funext ih]
      exact (Table.tableValue_eq_listedValue _ (s.order.perm place (s.table place))).symm
    | _ => rfl

/-- Only the orders of lower levels matter. -/
theorem value_congr {l l' : s.Listing}
    (h : ∀ level < levels, ∀ place, l.entries level place = l'.entries level place) :
    l.value q hidden levels v = l'.value q hidden levels v := by
  induction levels generalizing v with
  | zero => rfl
  | succ levels ih =>
    cases v with
    | table place =>
      have hitem : l.value q hidden levels = l'.value q hidden levels :=
        funext fun _ => ih fun level hlt => h level (Nat.lt_succ_of_lt hlt)
      simp only [value, hitem, h levels (Nat.lt_succ_self levels)]
    | _ => rfl

/-- The orders with one entry of a table met last at a level. -/
def withLast (l : s.Listing) (level : Nat) {place : Nat} {e : ScriptValue × ScriptValue}
    (he : e ∈ s.table place) : s.Listing where
  entries level' place' :=
    if level' = level ∧ place' = place then (s.table place).erase e ++ [e]
    else l.entries level' place'
  perm level' place' := by
    split
    · next h =>
      obtain ⟨-, rfl⟩ := h
      exact (List.perm_append_singleton _ _).trans (List.perm_cons_erase he).symm
    · exact l.perm level' place'

/-- The member under the key of an entry that is met last is what its value becomes. -/
theorem member?_withLast (l : s.Listing) {place : Nat} {e : ScriptValue × ScriptValue}
    (he : e ∈ s.table place) (hkey : e.1.keyText?.isSome) :
    ((l.withLast levels he).value q hidden (levels + 1) (.table place)).member? e.1 =
      some (l.value q hidden levels e.2) := by
  have hentries : (l.withLast levels he).entries levels place = (s.table place).erase e ++ [e] :=
    if_pos ⟨rfl, rfl⟩
  have hitem : (l.withLast levels he).value q hidden levels e.2 = l.value q hidden levels e.2 :=
    value_congr fun level hlt place' => if_neg fun h => absurd h.1 (Nat.ne_of_lt hlt)
  rw [value, hentries, ← hitem]
  exact Table.member?_listedValue_concat (hentries ▸ (l.withLast levels he).perm levels place) hkey

end Listing

/-- Holds if keys with one text have values that become the same, in every table that is gone
through. -/
def Unambiguous (s : Session) (q : Quoter) (hidden : Option Nat) : Nat → ScriptValue → Prop
  | levels + 1, .table place => ∀ e ∈ s.table place, e.1.keyText?.isSome →
    s.Unambiguous q hidden levels e.2 ∧
      ∀ e' ∈ s.table place, e'.1.keyText? = e.1.keyText? →
        s.toValueAt q hidden levels e'.2 = s.toValueAt q hidden levels e.2
  | _, _ => True

/-- What is unambiguous becomes the same in all orders. -/
theorem Unambiguous.value_eq (h : s.Unambiguous q hidden levels v) (l : s.Listing) :
    l.value q hidden levels v = s.toValueAt q hidden levels v := by
  induction levels generalizing v with
  | zero => rfl
  | succ levels ih =>
    cases v with
    | table place =>
      rw [← Listing.value_own]
      simp only [Listing.value]
      refine Table.listedValue_congr (l.perm levels place) ((Listing.own s).perm levels place)
        (fun e he hkey => ?_) fun e he e' he' hkey htext => ?_
      · rw [Listing.value_own, ih (h e he hkey).1]
      · rw [Listing.value_own, Listing.value_own]
        exact (h e he hkey).2 e' he' htext
    | _ => rfl

/-- What becomes the same in all orders is unambiguous. -/
theorem unambiguous_of_value_eq
    (h : ∀ l l' : s.Listing, l.value q hidden levels v = l'.value q hidden levels v) :
    s.Unambiguous q hidden levels v := by
  induction levels generalizing v with
  | zero => cases v <;> trivial
  | succ levels ih =>
    cases v with
    | table place =>
      let l₀ := Listing.own s
      have hmember (l : s.Listing) {e : ScriptValue × ScriptValue} (he : e ∈ s.table place)
          (hkey : e.1.keyText?.isSome) :
          (l₀.value q hidden (levels + 1) (.table place)).member? e.1 =
            some (l.value q hidden levels e.2) := by
        rw [h l₀ (l.withLast levels he), l.member?_withLast he hkey]
      intro e he hkey
      refine ⟨ih fun l l' => ?_, fun e' he' htext => ?_⟩
      · exact Option.some_inj.1 ((hmember l he hkey).symm.trans (hmember l' he hkey))
      · have hsame := Table.member?_eq_of_keyText (l₀.value q hidden levels)
          (l₀.perm levels place) he he' htext
        rw [← Listing.value, hmember l₀ he hkey, hmember l₀ he' (htext ▸ hkey), Option.some_inj,
          Listing.value_own, Listing.value_own] at hsame
        exact hsame
    | _ => trivial

/-- Where the texts of the keys differ in every table, nothing is ambiguous. -/
theorem unambiguous_of_nodup (h : ∀ place, (s.table place).keyTexts.Nodup) :
    s.Unambiguous q hidden levels v := by
  induction levels generalizing v with
  | zero => cases v <;> trivial
  | succ levels ih =>
    cases v with
    | table place =>
      intro e he hkey
      refine ⟨ih, fun e' he' htext => ?_⟩
      rw [Table.eq_of_nodup_keyTexts (h place) he he' hkey htext]
    | _ => trivial

/-- The value of a table is what it becomes in the order of its session. It becomes the same in every
order if and only if it is unambiguous. None of its entries is lost, whatever the order, if and only
if the texts of its keys differ. -/
theorem Listing.value_eq_iff_and_represents_iff (s : Session) (q : Quoter) (hidden : Option Nat)
    (levels place : Nat) :
    (∃ l : s.Listing, ∀ levels v, l.value q hidden levels v = s.toValueAt q hidden levels v) ∧
    ((∀ l l' : s.Listing, l.value q hidden (levels + 1) (.table place) =
        l'.value q hidden (levels + 1) (.table place)) ↔
      s.Unambiguous q hidden (levels + 1) (.table place)) ∧
    ∀ l : s.Listing, Table.Represents (l.value q hidden levels) (s.table place)
        (l.value q hidden (levels + 1) (.table place)) ↔ (s.table place).keyTexts.Nodup := by
  refine ⟨⟨own s, value_own⟩, ⟨unambiguous_of_value_eq, fun h l l' => ?_⟩,
    fun l => ?_⟩
  · rw [h.value_eq l, h.value_eq l']
  · exact Table.represents_iff (l.perm levels place)

/-- A session with a table whose keys are the number 1 and the text of it. -/
def sharedText : Session :=
  ((create "default").newTable [(.int 1, .ofString "a"), (.ofString "1", .ofString "b")]).2

/-- In one order the first entry is lost, in another the second. -/
theorem order_of_sharedText : ∃ l l' : sharedText.Listing,
    l.value {} none maxLevels (.table 2) = .map [("1", .text "b")] ∧
      l'.value {} none maxLevels (.table 2) = .map [("1", .text "a")] := by
  have hfirst : (.int 1, .ofString "a") ∈ sharedText.table 2 := by decide
  exact ⟨.own _, (Listing.own _).withLast 15 hfirst, by rfl, by rfl⟩

end Session

end SchemaMigration
