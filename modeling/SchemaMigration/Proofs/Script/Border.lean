import SchemaMigration.Proofs.Script.TableOrder

/-!
# Borders of tables

The length of a table is one of its borders: a number that is a key, or 0, after which the next
number is no key. A table with a gap has several borders, and its length may be any of them. A table
whose keys are the numbers from 1 on has one border only, and no other table passes for a sequence
at any of its borders. So it does not matter which border is asked.

## Main definitions

* `Table.WellFormed` — tables with each key once and no value nil.
* `Table.IsBorder` — the numbers that the length of a table may be.
* `Table.CountsTo` — tables whose keys are the numbers from 1 to another.

The main result is `Table.list_iff_countsTo`.
-/

namespace SchemaMigration

open Session (border isSequence)

namespace Table

variable {t es : Table} {m n : Nat} {key : ScriptValue}

/-- Holds if each key stands once and no value is nil. -/
structure WellFormed (t : Table) : Prop where
  nodup : (t.map Prod.fst).Nodup
  ne_nil : ∀ e ∈ t, e.2 ≠ .nil

/-- Holds if a number is a key, or 0, and the next number is no key. -/
def IsBorder (t : Table) (n : Nat) : Prop :=
  (n = 0 ∨ t.get (.int n) ≠ .nil) ∧ t.get (.int (n + 1 : Nat)) = .nil

/-- Holds if the keys are the numbers from 1 to `n`. -/
def CountsTo (t : Table) (n : Nat) : Prop :=
  ∀ key, key ∈ t.map Prod.fst ↔ ∃ i : Nat, 1 ≤ i ∧ i ≤ n ∧ key = .int i

/-! ## Keys -/

/-- What stands under a key is read there. -/
theorem get_of_mem (hnodup : (t.map Prod.fst).Nodup) {e : ScriptValue × ScriptValue}
    (he : e ∈ t) : t.get e.1 = e.2 := by
  induction t with
  | nil => cases he
  | cons p rest ih =>
    obtain ⟨hp, hrest⟩ := List.nodup_cons.1 hnodup
    rcases List.mem_cons.1 he with rfl | he
    · simp [Table.get]
    · have hne : p.1 ≠ e.1 := by
        intro heq
        exact hp (heq ▸ List.mem_map_of_mem he)
      simpa [Table.get, hne] using ih hrest he

theorem WellFormed.get_ne_nil_iff (ht : t.WellFormed) :
    t.get key ≠ .nil ↔ key ∈ t.map Prod.fst := by
  constructor
  · intro h
    exact List.mem_map.2 ⟨_, mem_of_get_ne_nil h, rfl⟩
  · intro h
    obtain ⟨e, he, rfl⟩ := List.mem_map.1 h
    rw [get_of_mem ht.nodup he]
    exact ht.ne_nil e he

/-- A table has the same under its keys, in whatever order its entries stand. -/
theorem WellFormed.get_perm (ht : t.WellFormed) (hes : es.Perm t) (key : ScriptValue) :
    es.get key = t.get key := by
  by_cases hkey : t.get key = .nil
  · by_contra hne
    rw [hkey] at hne
    have hmem := ht.get_ne_nil_iff.2 (List.mem_map.2 ⟨_, hes.subset (mem_of_get_ne_nil hne), rfl⟩)
    exact hmem hkey
  · have hnodup : (es.map Prod.fst).Nodup := (hes.map Prod.fst).nodup_iff.2 ht.nodup
    exact get_of_mem hnodup (hes.symm.subset (mem_of_get_ne_nil hkey))

/-- The numbers from 1 to `n`, as keys. -/
def numbers (n : Nat) : List ScriptValue := (List.range' 1 n).map fun i : Nat => .int i

theorem mem_numbers : key ∈ numbers n ↔ ∃ i : Nat, 1 ≤ i ∧ i ≤ n ∧ key = .int i := by
  simp only [numbers, List.mem_map, List.mem_range'_1]
  constructor
  · rintro ⟨i, ⟨hpos, hlt⟩, rfl⟩
    exact ⟨i, hpos, by omega, rfl⟩
  · rintro ⟨i, hpos, hle, rfl⟩
    exact ⟨i, ⟨hpos, by omega⟩, rfl⟩

@[simp] theorem length_numbers (n : Nat) : (numbers n).length = n := by simp [numbers]

theorem nodup_numbers (n : Nat) : (numbers n).Nodup := by
  refine List.Nodup.map (fun i j hij => ?_) List.nodup_range'
  exact Int.ofNat.inj (ScriptValue.int.inj hij)

theorem countsTo_iff_perm (ht : t.WellFormed) :
    t.CountsTo m ↔ (t.map Prod.fst).Perm (numbers m) := by
  constructor
  · intro h
    refine (List.perm_ext_iff_of_nodup ht.nodup (nodup_numbers m)).2 fun key => ?_
    rw [h, mem_numbers]
  · intro h key
    rw [h.mem_iff, mem_numbers]

/-- A table has as many keys as it counts. -/
theorem CountsTo.length_eq (h : t.CountsTo m) (ht : t.WellFormed) : t.length = m := by
  simpa using ((countsTo_iff_perm ht).1 h).length_eq

/-- Which numbers are keys of a table that counts. -/
theorem CountsTo.get_ne_nil_iff (h : t.CountsTo m) (ht : t.WellFormed) (i : Nat) :
    t.get (.int i) ≠ .nil ↔ 1 ≤ i ∧ i ≤ m := by
  rw [ht.get_ne_nil_iff, h]
  constructor
  · rintro ⟨j, hpos, hle, heq⟩
    have hij : (i : Int) = j := ScriptValue.int.inj heq
    omega
  · intro hi
    exact ⟨i, hi.1, hi.2, rfl⟩

/-! ## Borders -/

/-- The first number after which the next is no key is a border. -/
theorem isBorder_border (t : Table) : t.IsBorder (border t) := by
  constructor
  · by_cases hzero : border t = 0
    · exact .inl hzero
    · exact .inr (get_ne_nil_of_le_border (by omega) (Nat.le_refl _))
  · by_contra hnext
    -- the numbers up to the next would all be keys, and there are not that many
    have hsubset : numbers (border t + 1) ⊆ t.map Prod.fst := by
      intro key hkey
      obtain ⟨i, hpos, hle, rfl⟩ := mem_numbers.1 hkey
      have hget : t.get (.int i) ≠ .nil := by
        by_cases hlast : i = border t + 1
        · rw [hlast]
          exact hnext
        · exact get_ne_nil_of_le_border hpos (by omega)
      exact List.mem_map.2 ⟨_, mem_of_get_ne_nil hget, rfl⟩
    have hlength : border t + 1 ≤ t.length := by
      simpa using (List.subperm_of_subset (nodup_numbers _) hsubset).length_le
    let absent (i : Nat) : Bool := t.get (.int i) = .nil
    have hborder : border t = (List.range' 1 t.length).findIdx absent := by
      have hle : (List.range' 1 t.length).findIdx absent ≤ _ := List.findIdx_le_length
      simp only [border, List.takeWhile_eq_take_findIdx_not, List.length_take]
      simpa [absent] using hle
    have hlt : (List.range' 1 t.length).findIdx absent < (List.range' 1 t.length).length := by
      rw [← hborder, List.length_range']
      omega
    have habsent : t.get (.int (border t + 1 : Nat)) = .nil := by
      simpa [absent, ← hborder, Nat.add_comm] using List.findIdx_getElem (w := hlt)
    exact hnext habsent

/-- A table that counts has one border, the last of its keys. -/
theorem CountsTo.eq_of_isBorder (h : t.CountsTo m) (ht : t.WellFormed) (hn : t.IsBorder n) :
    n = m := by
  obtain ⟨hlast, hnext⟩ := hn
  have hle : n ≤ m := by
    rcases hlast with rfl | hlast
    · omega
    · exact ((h.get_ne_nil_iff ht n).1 hlast).2
  have hge : ¬(1 ≤ n + 1 ∧ n + 1 ≤ m) := by
    rw [← h.get_ne_nil_iff ht]
    exact not_not_intro hnext
  omega

/-! ## Sequences -/

theorem isSequence_iff_length_and_subset :
    isSequence t n = true ↔ t.length = n ∧ t.map Prod.fst ⊆ numbers n := by
  simp only [isSequence, Bool.and_eq_true, decide_eq_true_eq, List.all_eq_true]
  refine and_congr_right fun _ => ?_
  constructor
  · intro h key hkey
    obtain ⟨⟨key, v⟩, he, rfl⟩ := List.mem_map.1 hkey
    have hkey := h _ he
    cases key with
    | int i =>
      simp only [Bool.and_eq_true, decide_eq_true_eq] at hkey
      exact mem_numbers.2 ⟨i.toNat, by omega, by omega, by rw [Int.toNat_of_nonneg (by omega)]⟩
    | _ => exact absurd hkey Bool.false_ne_true
  · rintro h ⟨key, v⟩ he
    obtain ⟨i, hpos, hle, hkey⟩ := mem_numbers.1 (h (List.mem_map_of_mem he))
    obtain rfl : key = .int i := hkey
    simp only [Bool.and_eq_true, decide_eq_true_eq]
    omega

/-- What passes for a sequence counts: so many keys among the numbers from 1 to `n` are all of
them. -/
theorem countsTo_of_isSequence (ht : t.WellFormed) (h : isSequence t n = true) : t.CountsTo n := by
  obtain ⟨hlength, hsubset⟩ := isSequence_iff_length_and_subset.1 h
  apply (countsTo_iff_perm ht).2
  apply (List.subperm_of_subset ht.nodup hsubset).perm_of_length_le
  simp [hlength]

/-- At every border, what passes for a sequence is what counts. -/
theorem isSequence_iff (ht : t.WellFormed) (hn : t.IsBorder n) :
    isSequence t n = true ↔ ∃ m, t.CountsTo m := by
  constructor
  · intro h
    exact ⟨n, countsTo_of_isSequence ht h⟩
  · rintro ⟨m, h⟩
    obtain rfl := h.eq_of_isBorder ht hn
    refine isSequence_iff_length_and_subset.2 ⟨h.length_eq ht, fun key hkey => ?_⟩
    exact mem_numbers.2 ((h key).1 hkey)

/-! ## Values -/

/-- Which border is asked does not matter. -/
theorem listedValue_of_isBorder (ht : t.WellFormed) (hn : t.IsBorder n)
    (item : ScriptValue → Value) (hes : es.Perm t) :
    listedValue item es n = listedValue item es (border t) := by
  by_cases h : ∃ m, t.CountsTo m
  · obtain ⟨m, hm⟩ := h
    rw [hm.eq_of_isBorder ht hn, hm.eq_of_isBorder ht (isBorder_border t)]
  · have hnot {k : Nat} (hk : t.IsBorder k) : ¬isSequence es k = true := by
      rw [isSequence_perm hes, isSequence_iff ht hk]
      exact h
    rw [listedValue, listedValue, if_neg (hnot hn), if_neg (hnot (isBorder_border t))]

/-- The table of a session becomes what the entries do that are met, at every border. -/
theorem tableValue_eq_listedValue_of_isBorder (ht : t.WellFormed) (hn : t.IsBorder n)
    (item : ScriptValue → Value) (hes : es.Perm t) :
    Session.tableValue item t es n = listedValue item es n := by
  rw [listedValue_of_isBorder ht hn item hes, ← tableValue_eq_listedValue item hes]
  have hsame : isSequence t n = isSequence t (border t) := by
    rw [Bool.eq_iff_iff, isSequence_iff ht hn, isSequence_iff ht (isBorder_border t)]
  by_cases h : isSequence t n = true
  · rw [(countsTo_of_isSequence ht h).eq_of_isBorder ht (isBorder_border t)]
  · rw [Session.tableValue, Session.tableValue, if_neg h, if_neg (hsame ▸ h)]

/-- A table becomes a list if and only if its keys are the numbers from 1 to some number, whichever
of its borders its length is and in whatever order its entries are met. The list then has one value
for each key, in the order of the keys. -/
theorem list_iff_countsTo (ht : t.WellFormed) (hn : t.IsBorder n) (item : ScriptValue → Value) :
    ∀ es, es.Perm t →
      Session.tableValue item t es n = listedValue item es n ∧
      ((∃ items, listedValue item es n = .list items) ↔ ∃ m, t.CountsTo m) ∧
      ∀ m, t.CountsTo m → t.length = m ∧ listedValue item es n =
        .list ((List.range' 1 m).map fun i : Nat => item (t.get (.int i))) := by
  intro es hes
  refine ⟨tableValue_eq_listedValue_of_isBorder ht hn item hes, ⟨?_, ?_⟩, ?_⟩
  · rintro ⟨items, hitems⟩
    by_contra h
    have hnot : ¬isSequence es n = true := by
      rw [isSequence_perm hes, isSequence_iff ht hn]
      exact h
    rw [listedValue, if_neg hnot] at hitems
    cases hitems
  · rintro ⟨m, h⟩
    have hseq : isSequence es n = true := by
      rw [isSequence_perm hes, isSequence_iff ht hn]
      exact ⟨m, h⟩
    exact ⟨_, if_pos hseq⟩
  · intro m h
    have hseq := (isSequence_iff ht (isBorder_border t)).2 ⟨m, h⟩
    refine ⟨h.length_eq ht, ?_⟩
    rw [listedValue_of_isBorder ht hn item hes, listedValue_of_isSequence hes hseq,
      h.eq_of_isBorder ht (isBorder_border t), numbered, List.map_map]
    rfl

/-- A table with the borders 2 and 4. -/
def gapped : Table := [(.int 4, .ofString "d"), (.int 2, .ofString "b"), (.int 1, .ofString "a")]

/-- A table of two items, the second of which is met first. -/
def swapped : Table := [(.int 2, .ofString "b"), (.int 1, .ofString "a")]

theorem not_countsTo_gapped : ¬∃ m, gapped.CountsTo m := by
  rintro ⟨m, h⟩
  obtain ⟨i, -, hle, hi⟩ := (h (.int 4)).1 (by decide)
  have hfour : (4 : Int) = i := ScriptValue.int.inj hi
  have hthree : .int 3 ∈ gapped.map Prod.fst := (h (.int 3)).2 ⟨3, by omega, by omega, rfl⟩
  exact absurd hthree (by decide)

theorem wellFormed_swapped : swapped.WellFormed := ⟨by decide, by decide⟩

theorem countsTo_swapped : swapped.CountsTo 2 :=
  (countsTo_iff_perm wellFormed_swapped).2 (by decide)

theorem list_iff_countsTo_gapped :
    let item := (Session.create "default").leafValue {} none
    gapped.WellFormed ∧ gapped.IsBorder 2 ∧ gapped.IsBorder 4 ∧
      (∀ items, listedValue item gapped 2 ≠ .list items) ∧
      (∀ items, listedValue item gapped 4 ≠ .list items) ∧
      swapped.WellFormed ∧ swapped.IsBorder 2 ∧ swapped.CountsTo 2 ∧
      listedValue item swapped 2 = .list [.text "a", .text "b"] := by
  intro item
  have hgapped : gapped.WellFormed := ⟨by decide, by decide⟩
  have htwo : gapped.IsBorder 2 := ⟨.inr (by decide), by decide⟩
  have hfour : gapped.IsBorder 4 := ⟨.inr (by decide), by decide⟩
  have hend : swapped.IsBorder 2 := ⟨.inr (by decide), by decide⟩
  have hmap {n : Nat} (hn : gapped.IsBorder n) (items : List Value) :
      listedValue item gapped n ≠ .list items := by
    intro hitems
    have hiff := (list_iff_countsTo hgapped hn item gapped (.refl _)).2.1
    exact not_countsTo_gapped (hiff.1 ⟨items, hitems⟩)
  have hlist := (list_iff_countsTo wellFormed_swapped hend item swapped (.refl _)).2.2
  exact ⟨hgapped, htwo, hfour, hmap htwo, hmap hfour, wellFormed_swapped, hend, countsTo_swapped,
    (hlist 2 countsTo_swapped).2⟩

end Table

end SchemaMigration
