import SchemaMigration.Proofs.Script.Border
import SchemaMigration.Proofs.Value.NameList

/-!
# Tables with numbers as keys

A table whose keys are positive numbers may be a row of an insertion or a list of columns. Where its
keys are the numbers from 1 on, it is used in the order of its keys. Where a number is missing, it
becomes a map by the texts of its keys. As a row it is then used in the order of these texts, in
which 10 comes before 2, and as a list of columns it has no names at all.

## Main definitions

* `Operation.columnLists` — the arguments that are lists of columns.
* `Value.UsedAs` — holds if a value is used as a row and as a list of columns.
* `Table.Numbered` — tables of texts and numbers under positive numbers.
* `Table.ascending`, `Table.byText` — the entries in the order of the keys and of their texts.

The main result is `Session.usedAs_of_numbered`.
-/

namespace SchemaMigration

open Session (border isSequence)

/-! ## Rows and lists of columns -/

namespace Operation

variable {b : StatementBuilder} {a a' : Arguments} {op : Operation} {i : Nat}

/-- The arguments of a function that are lists of columns. -/
def columnLists : Operation → List Nat
  | .createIndex | .addPrimaryKey | .addUnique => [2]
  | .addForeignKey => [2, 4]
  | .batchInsert => [1]
  | _ => []

/-- A list of columns matters by its names only. -/
theorem statement_eq_of_names (hi : i ∈ op.columnLists) (hrest : ∀ j ≠ i, a.get j = a'.get j)
    (hnames : a.names i = a'.names i) : statement b a op = statement b a' op := by
  have hname (j : Nat) : a.names j = a'.names j := by
    by_cases h : j = i
    · rw [h, hnames]
    · rw [Arguments.names, hrest j h, Arguments.names]
  have htext (j : Nat) (h : j ≠ i) : a.text j = a'.text j := by
    rw [Arguments.text, hrest j h, Arguments.text]
  have hbool (j : Nat) (h : j ≠ i) : a.bool j = a'.bool j := by
    rw [Arguments.bool, hrest j h, Arguments.bool]
  have haction (j : Nat) (h : j ≠ i) : action? a j = action? a' j := by
    rw [action?, action?, Arguments.text?, Arguments.text?, hrest j h, htext j h]
  cases op with
  | createIndex =>
    obtain rfl := List.mem_singleton.1 hi
    simp only [statement, hname, htext 0 (by decide), htext 1 (by decide), hbool 3 (by decide)]
  | addPrimaryKey | addUnique =>
    obtain rfl := List.mem_singleton.1 hi
    simp only [statement, hname, htext 0 (by decide), htext 1 (by decide)]
  | addForeignKey =>
    have hne {j : Nat} (h : j ∉ [2, 4]) : j ≠ i := fun heq => h (heq ▸ hi)
    simp only [statement, hname, htext 0 (hne (by decide)), htext 1 (hne (by decide)),
      htext 3 (hne (by decide)), haction 5 (hne (by decide)), haction 6 (hne (by decide))]
  | batchInsert =>
    obtain rfl := List.mem_singleton.1 hi
    simp only [statement, hname, htext 0 (by decide), hrest 2 (by decide)]
  | _ => cases hi

/-- The rows of an insertion matter as lists only. -/
theorem statement_eq_of_rows (hrest : ∀ j ≠ 2, a.get j = a'.get j)
    (hrows : rows (a.get 2) = rows (a'.get 2)) :
    statement b a .batchInsert = statement b a' .batchInsert := by
  have hnames : a.names 1 = a'.names 1 := by
    rw [Arguments.names, hrest 1 (by decide), Arguments.names]
  have htext : a.text 0 = a'.text 0 := by
    rw [Arguments.text, hrest 0 (by decide), Arguments.text]
  simp only [statement, htext, hnames, hrows]

end Operation

namespace Value

variable {v : Value} {row : List Value} {names : List String}

/-- Holds if a value gives the same statements as a list of some values wherever it is a row of an
insertion, and as a list of some names wherever it is a list of columns. -/
structure UsedAs (v : Value) (row : List Value) (names : List String) : Prop where
  asRow : ∀ (b : StatementBuilder) (a a' : Arguments) (before after : List Value),
    (a.get 2).asList = before ++ v :: after → (a'.get 2).asList = before ++ .list row :: after →
    (∀ j ≠ 2, a.get j = a'.get j) →
    Operation.statement b a .batchInsert = Operation.statement b a' .batchInsert
  asColumns : ∀ (b : StatementBuilder) (op : Operation) (a a' : Arguments), ∀ i ∈ op.columnLists,
    a.get i = v → a'.get i = .list (names.map .text) → (∀ j ≠ i, a.get j = a'.get j) →
    Operation.statement b a op = Operation.statement b a' op

/-- A value is used as what it is as a list, and as its items. -/
theorem usedAs_of_asList_of_items (hrow : v.asList = row)
    (hitems : (ItemList.parse v).items = names) (hnames : ∀ name ∈ names, name ≠ "") :
    v.UsedAs row names := by
  constructor
  · intro b a a' before after ha ha' hrest
    refine Operation.statement_eq_of_rows hrest ?_
    simp only [Operation.rows, ha, ha', List.map_append, List.map_cons, hrow]
    rfl
  · intro b op a a' i hi ha ha' hrest
    refine Operation.statement_eq_of_names hi hrest ?_
    rw [Arguments.names, ha, hitems, Arguments.names, ha']
    exact (ItemList.ofValues_map_text hnames).1.symm

/-- The texts of values, without the empty ones. -/
def nonEmptyTexts (vs : List Value) : List String := (vs.map asText).filter (· ≠ "")

end Value

/-- The items of a list are its texts, if it has no maps and no absent values. -/
theorem ItemList.items_ofValues {vs : List Value}
    (h : ∀ v ∈ vs, v ≠ .null ∧ ∀ fields, v ≠ .map fields) :
    (ofValues vs).items = Value.nonEmptyTexts vs := by
  have hitem {v : Value} (hv : v ≠ .null ∧ ∀ fields, v ≠ .map fields) :
      itemOf? v = if v.asText ≠ "" then some v.asText else none := by
    cases v with
    | null => exact absurd rfl hv.1
    | map fields => exact absurd rfl (hv.2 fields)
    | _ => simp [itemOf?]
  induction vs with
  | nil => rfl
  | cons v vs ih =>
    obtain ⟨hv, hvs⟩ := List.forall_mem_cons.1 h
    have ih := ih hvs
    simp only [ofValues, Value.nonEmptyTexts] at ih ⊢
    by_cases htext : v.asText = "" <;> simp [hitem hv, htext, ih]

/-! ## Texts of numbers -/

section Digits

variable {i j : Nat}

theorem digitChar_lt_digitChar (hlt : i < j) (hj : j < 10) : i.digitChar < j.digitChar := by
  have hall : ∀ j < 10, ∀ i < j, i.digitChar < j.digitChar := by decide
  exact hall j hj i hlt

/-- Texts of one length keep their order when more is written behind them. -/
theorem append_lt_append {cs ds : List Char} (h : cs < ds) (hlength : cs.length = ds.length)
    (back back' : List Char) : cs ++ back < ds ++ back' := by
  change List.Lex (· < ·) cs ds at h
  induction h with
  | nil => cases hlength
  | rel hlt => exact .rel hlt
  | cons _ ih => exact .cons (ih (by simpa using hlength))

/-- Numbers of as many digits are in the order of their digits. -/
theorem toDigits_lt_toDigits (hlt : i < j)
    (hlength : (Nat.toDigits 10 i).length = (Nat.toDigits 10 j).length) :
    Nat.toDigits 10 i < Nat.toDigits 10 j := by
  induction j using Nat.strongRecOn generalizing i with
  | ind j ih =>
    by_cases hj : j < 10
    · rw [Nat.toDigits_of_lt_base hj, Nat.toDigits_of_lt_base (by omega)]
      exact .rel (digitChar_lt_digitChar hlt hj)
    · have hjdigits := Nat.toDigits_of_base_le (b := 10) (by decide) (not_lt.1 hj)
      by_cases hi : i < 10
      · rw [hjdigits, Nat.toDigits_of_lt_base hi] at hlength
        simp at hlength
      · have hidigits := Nat.toDigits_of_base_le (b := 10) (by decide) (not_lt.1 hi)
        rw [hidigits, hjdigits] at hlength ⊢
        have hfront : (Nat.toDigits 10 (i / 10)).length = (Nat.toDigits 10 (j / 10)).length := by
          simpa using hlength
        have hle : i / 10 ≤ j / 10 := Nat.div_le_div_right hlt.le
        rcases Nat.lt_or_eq_of_le hle with hdiv | hdiv
        · exact append_lt_append (ih _ (by omega) hdiv hfront) hfront _ _
        · rw [hdiv]
          exact .append_left _ (.rel (digitChar_lt_digitChar (by omega) (by omega))) _

end Digits

/-! ## Numbers as keys -/

/-- Holds for texts and numbers. -/
def ScriptValue.IsScalar : ScriptValue → Prop
  | .text _ | .int _ | .float _ => True
  | _ => False

namespace Table

variable {t es : Table} {e e' : ScriptValue × ScriptValue}

/-- Holds if the keys are positive numbers and the values are texts and numbers. -/
structure Numbered (t : Table) : Prop extends t.WellFormed where
  key : ∀ e ∈ t, ∃ i : Nat, 1 ≤ i ∧ e.1 = .int i
  scalar : ∀ e ∈ t, e.2.IsScalar

/-- The text of the number that an entry has. -/
def numeral (e : ScriptValue × ScriptValue) : String := toString (position e)

/-- The entries in the order of their keys. -/
def ascending (t : Table) : Table := t.mergeSort fun e e' => position e ≤ position e'

/-- The entries in the order of the texts of their keys. -/
def byText (t : Table) : Table := t.mergeSort fun e e' => numeral e ≤ numeral e'

/-- Holds if the texts of the keys are in the order of the keys. -/
def TextOrdered (t : Table) : Prop :=
  ∀ e ∈ t, ∀ e' ∈ t, position e < position e' → numeral e < numeral e'

theorem ascending_perm (t : Table) : t.ascending.Perm t := List.mergeSort_perm _ _

theorem byText_perm (t : Table) : t.byText.Perm t := List.mergeSort_perm _ _

theorem pairwise_ascending (t : Table) :
    t.ascending.Pairwise fun e e' => position e ≤ position e' := pairwise_mergeSort_le position t

theorem pairwise_byText (t : Table) : t.byText.Pairwise fun e e' => numeral e ≤ numeral e' :=
  pairwise_mergeSort_le numeral t

namespace Numbered

theorem eq_of_key_eq (ht : t.Numbered) (he : e ∈ t) (he' : e' ∈ t) (hkey : e.1 = e'.1) :
    e = e' := by
  refine Prod.ext hkey ?_
  rw [← get_of_mem ht.nodup he, ← get_of_mem ht.nodup he', hkey]

/-- The key of an entry is its number, and has its text. -/
theorem exists_position (ht : t.Numbered) (he : e ∈ t) :
    ∃ i : Nat, e.1 = .int i ∧ position e = i ∧ numeral e = toString (i : Int) := by
  obtain ⟨key, v⟩ := e
  obtain ⟨i, -, rfl⟩ := ht.key _ he
  exact ⟨i, rfl, rfl, rfl⟩

theorem eq_of_numeral_eq (ht : t.Numbered) (he : e ∈ t) (he' : e' ∈ t)
    (h : numeral e = numeral e') : e = e' := by
  obtain ⟨i, hi, -, hnumeral⟩ := ht.exists_position he
  obtain ⟨j, hj, -, hnumeral'⟩ := ht.exists_position he'
  refine ht.eq_of_key_eq he he' ?_
  rw [hi, hj, eq_of_toString_eq (hnumeral.symm.trans (h.trans hnumeral'))]

/-- Keys of as many digits have texts in their order. -/
theorem textOrdered (ht : t.Numbered)
    (h : ∀ e ∈ t, ∀ e' ∈ t, (numeral e).length = (numeral e').length) : t.TextOrdered := by
  intro e he e' he' hlt
  obtain ⟨i, -, hposition, hnumeral⟩ := ht.exists_position he
  obtain ⟨j, -, hposition', hnumeral'⟩ := ht.exists_position he'
  have hlength := h e he e' he'
  have hdigits (n : Nat) : (toString (n : Int)).toList = Nat.toDigits 10 n := Nat.toList_repr
  rw [hnumeral, hnumeral', ← String.length_toList, ← String.length_toList, hdigits, hdigits]
    at hlength
  rw [hnumeral, hnumeral', String.lt_iff_toList_lt, hdigits, hdigits]
  exact toDigits_lt_toDigits (by omega) hlength

/-- The two orders are one if and only if the texts of the keys are in the order of the keys. -/
theorem byText_eq_ascending_iff (ht : t.Numbered) : t.byText = t.ascending ↔ t.TextOrdered := by
  constructor
  · intro h e he e' he' hlt
    have hmem := (ascending_perm t).symm.subset he
    have hmem' := (ascending_perm t).symm.subset he'
    -- said of two entries in either order, so that it does not matter which is listed first
    have hpair : t.ascending.Pairwise fun e e' =>
        (position e < position e' → numeral e ≤ numeral e') ∧
          (position e' < position e → numeral e' ≤ numeral e) := by
      refine ((pairwise_ascending t).and (h ▸ pairwise_byText t)).imp ?_
      rintro e e' ⟨hposition, hnumeral⟩
      exact ⟨fun _ => hnumeral, fun hgt => absurd hposition (not_le.2 hgt)⟩
    have hsymm : Std.Symm fun e e' : ScriptValue × ScriptValue =>
        (position e < position e' → numeral e ≤ numeral e') ∧
          (position e' < position e → numeral e' ≤ numeral e) := ⟨fun _ _ => And.symm⟩
    have hne : e ≠ e' := by
      rintro rfl
      exact lt_irrefl _ hlt
    refine lt_of_le_of_ne ((hpair.forall hmem hmem' hne).1 hlt) fun heq => ?_
    exact hne (ht.eq_of_numeral_eq he he' heq)
  · intro h
    have htexts : t.ascending.Pairwise fun e e' => numeral e ≤ numeral e' := by
      refine (pairwise_ascending t).imp_of_mem fun {e e'} he he' hle => ?_
      have hmem := (ascending_perm t).subset he
      have hmem' := (ascending_perm t).subset he'
      rcases lt_or_eq_of_le hle with hlt | heq
      · exact (h e hmem e' hmem' hlt).le
      · rw [numeral, numeral, heq]
    refine List.Perm.eq_of_pairwise (fun e e' he he' hle hge => ?_) (pairwise_byText t) htexts
      ((byText_perm t).trans (ascending_perm t).symm)
    exact ht.eq_of_numeral_eq ((byText_perm t).subset he) ((ascending_perm t).subset he')
      (le_antisymm hle hge)

theorem sorted_byText (ht : t.Numbered) (item : ScriptValue → Value) :
    Dict.Sorted (t.byText.map fun e => (numeral e, item e.2)) := by
  have hnodup : t.byText.Nodup := (byText_perm t).nodup_iff.2 (ht.nodup.of_map Prod.fst)
  refine List.pairwise_map.2 (((pairwise_byText t).and hnodup).imp_of_mem ?_)
  rintro e e' he he' ⟨hle, hne⟩
  refine lt_of_le_of_ne hle fun heq => hne ?_
  exact ht.eq_of_numeral_eq ((byText_perm t).subset he) ((byText_perm t).subset he') heq

/-- The map of a table has its values in the order of the texts of the keys. -/
theorem ofList_fields (ht : t.Numbered) (hes : es.Perm t) (item : ScriptValue → Value) :
    Dict.ofList (fields item es) = t.byText.map fun e => (numeral e, item e.2) := by
  have hfields : fields item es = es.map fun e => (numeral e, item e.2) := by
    rw [fields, ← List.filterMap_eq_map]
    refine List.filterMap_congr fun e he => ?_
    obtain ⟨i, hkey, -, hnumeral⟩ := ht.exists_position (hes.subset he)
    simp [hkey, hnumeral, ScriptValue.keyText?]
  refine Dict.ofList_eq_of_perm (ht.sorted_byText item) ?_
  rw [hfields]
  exact (hes.trans (byText_perm t).symm).map _

/-- A sequence becomes the list of its values, in the order of the keys. -/
theorem listedValue_of_countsTo (ht : t.Numbered) (hes : es.Perm t) (h : ∃ m, t.CountsTo m)
    (item : ScriptValue → Value) :
    listedValue item es (border t) = .list (t.ascending.map fun e => item e.2) := by
  have hseq := (isSequence_iff ht.toWellFormed (isBorder_border t)).2 h
  rw [listedValue_of_isSequence hes hseq, ascending, mergeSort_eq_numbered (.refl t) hseq]

/-- Any other table becomes a map, in the order of the texts of the keys. -/
theorem listedValue_of_not_countsTo (ht : t.Numbered) (hes : es.Perm t) (h : ¬∃ m, t.CountsTo m)
    (item : ScriptValue → Value) :
    listedValue item es (border t) = .map (t.byText.map fun e => (numeral e, item e.2)) := by
  have hseq : ¬isSequence t (border t) = true := by
    rwa [isSequence_iff ht.toWellFormed (isBorder_border t)]
  rw [listedValue_of_not_isSequence hes hseq, ht.ofList_fields hes]

end Numbered

end Table

/-! ## Values of sessions -/

namespace Session

variable {s : Session} {q : Quoter} {hidden : Option Nat}

/-- A text or a number becomes the same at every level. -/
theorem Listing.value_of_isScalar (l : s.Listing) (levels : Nat) {v : ScriptValue}
    (h : v.IsScalar) : l.value q hidden levels v = s.leafValue q hidden v := by
  cases v with
  | text | int | float => cases levels <;> rfl
  | _ => cases h

theorem leafValue_of_isScalar {v : ScriptValue} (h : v.IsScalar) :
    s.leafValue q hidden v ≠ .null ∧ ∀ fields, s.leafValue q hidden v ≠ .map fields := by
  cases v with
  | text | int | float => exact ⟨nofun, fun _ => nofun⟩
  | _ => cases h

/-- The values of the entries of a table. -/
def rowOf (s : Session) (q : Quoter) (hidden : Option Nat) (es : Table) : List Value :=
  es.map fun e => s.leafValue q hidden e.2

/-- A table of texts and numbers under positive numbers, as a row of an insertion and as a list of
columns. If its keys are the numbers from 1 to some number, it is used in their order. If not, it is
a row in the order of the texts of its keys and a list of no columns. The two orders are one if and
only if the texts of the keys are in the order of the keys. -/
theorem usedAs_of_numbered (l : s.Listing) (q : Quoter) (hidden : Option Nat) (levels : Nat)
    {place : Nat} (ht : (s.table place).Numbered) :
    let t := s.table place
    let v := l.value q hidden (levels + 1) (.table place)
    ((∃ m, t.CountsTo m) → v.UsedAs (s.rowOf q hidden t.ascending)
      (Value.nonEmptyTexts (s.rowOf q hidden t.ascending))) ∧
    ((¬∃ m, t.CountsTo m) → v.UsedAs (s.rowOf q hidden t.byText) []) ∧
    (t.byText = t.ascending ↔ t.TextOrdered) := by
  intro t v
  have hrow (es : Table) (hes : es.Perm t) :
      (es.map fun e => l.value q hidden levels e.2) = s.rowOf q hidden es :=
    List.map_congr_left fun e he => l.value_of_isScalar levels (ht.scalar e (hes.subset he))
  refine ⟨fun h => ?_, fun h => ?_, ht.byText_eq_ascending_iff⟩
  · have hv : v = .list (s.rowOf q hidden t.ascending) := by
      rw [← hrow _ (Table.ascending_perm t)]
      exact ht.listedValue_of_countsTo (l.perm levels place) h _
    refine Value.usedAs_of_asList_of_items (by rw [hv]; rfl) ?_ (by simp [Value.nonEmptyTexts])
    rw [hv]
    refine ItemList.items_ofValues fun x hx => ?_
    obtain ⟨e, he, rfl⟩ := List.mem_map.1 hx
    exact leafValue_of_isScalar (ht.scalar e ((Table.ascending_perm t).subset he))
  · have hv : v = .map (t.byText.map fun e => (Table.numeral e, l.value q hidden levels e.2)) :=
      ht.listedValue_of_not_countsTo (l.perm levels place) h _
    refine Value.usedAs_of_asList_of_items ?_ (by rw [hv]; rfl) (by simp)
    rw [hv, Value.asList, List.map_map, ← hrow _ (Table.byText_perm t)]
    rfl

/-- A session with the columns of a table, a row with the keys 2 and 10, the rows of an insertion,
and a list of columns with a gap. -/
def gaps : Session :=
  (((((create "default").newTable [(.int 1, .ofString "x"), (.int 2, .ofString "y")]).2.newTable
    [(.int 2, .ofString "a"), (.int 10, .ofString "b")]).2.newTable [(.int 1, .table 3)]).2.newTable
    [(.int 1, .ofString "a"), (.int 3, .ofString "b")]).2

theorem numbered_gaps : (gaps.table 3).Numbered ∧ (gaps.table 5).Numbered := by
  have hrow : gaps.table 3 = [(.int 2, .ofString "a"), (.int 10, .ofString "b")] := by rfl
  have hcolumns : gaps.table 5 = [(.int 1, .ofString "a"), (.int 3, .ofString "b")] := by rfl
  rw [hrow, hcolumns]
  refine ⟨⟨⟨by decide, by decide⟩, ?_, ?_⟩, ⟨⟨by decide, by decide⟩, ?_, ?_⟩⟩
  · simpa using ⟨⟨2, by decide, rfl⟩, 10, by decide, rfl⟩
  · simp [ScriptValue.IsScalar, ScriptValue.ofString]
  · simpa using ⟨⟨1, by decide, rfl⟩, 3, by decide, rfl⟩
  · simp [ScriptValue.IsScalar, ScriptValue.ofString]

theorem ascending_gaps :
    (gaps.table 3).ascending = gaps.table 3 ∧ (gaps.table 5).ascending = gaps.table 5 :=
  ⟨List.mergeSort_of_pairwise (by decide +kernel), List.mergeSort_of_pairwise (by decide +kernel)⟩

/-- A list of columns with a gap has no names, though its row is in the order of the keys. -/
theorem usedAs_of_numbered_gaps :
    (gaps.table 5).Numbered ∧ (¬∃ m, (gaps.table 5).CountsTo m) ∧
      (gaps.toValue {} (.table 5)).UsedAs [.text "a", .text "b"] [] := by
  obtain ⟨-, ht⟩ := numbered_gaps
  have hnot : ¬∃ m, (gaps.table 5).CountsTo m := by
    rw [← Table.isSequence_iff ht.toWellFormed (Table.isBorder_border _)]
    decide +kernel
  have htexts : (gaps.table 5).TextOrdered := ht.textOrdered (by decide +kernel)
  obtain ⟨-, hused, horder⟩ := usedAs_of_numbered (.own gaps) {} none 15 ht
  have hrow := hused hnot
  rw [horder.2 htexts, ascending_gaps.2, Listing.value_own] at hrow
  exact ⟨ht, hnot, hrow⟩

/-- The row with the keys 2 and 10 is written with the value of 10 first, and the list of columns
under 1 and 3 is written without any. -/
theorem statement_of_gaps :
    (gaps.table 3).Numbered ∧ (gaps.table 5).Numbered ∧
      gaps.rowOf {} none (gaps.table 3).ascending = [.text "a", .text "b"] ∧
      gaps.rowOf {} none (gaps.table 5).ascending = [.text "a", .text "b"] ∧
      Operation.statement {} (gaps.arguments {} none [.ofString "t", .table 2, .table 4])
        .batchInsert = .ok "INSERT INTO \x60t\x60 (\x60x\x60, \x60y\x60) VALUES ('b', 'a')" ∧
      Operation.statement {} (gaps.arguments {} none [.ofString "i", .ofString "t", .table 5])
        .createIndex = .ok "CREATE INDEX \x60i\x60 ON \x60t\x60 ()" := by
  rw [ascending_gaps.1, ascending_gaps.2]
  exact ⟨numbered_gaps.1, numbered_gaps.2, rfl, rfl, by decide +kernel, by decide +kernel⟩

end Session

end SchemaMigration
