import Mathlib.Logic.Relation
import SchemaMigration.Script.Evaluation

/-!
# What scripts can do to a session

A script works on its session through few primitive changes. Which tables, buffers and global names
a change may touch depends on what the script has got hold of. Here this is a parameter, so that one
account of the evaluator serves every property of sessions that follows from it.

## Main definitions

* `Script.globals` — the global names that a script names.
* `Reach` — the values and global names that scripts are confined to.
* `Session.Change`, `Session.Changes` — one primitive change, and any number of them.
* `Session.Clean` — nothing in a session leads beyond a reach.
* `Session.Changes.clean` — scripts that start inside a reach stay inside.
-/

namespace SchemaMigration

/-! ## Names in scripts -/

mutual

/-- The global names that a term names. -/
def Term.globals : Term → List String
  | .nil | .bool _ | .int _ | .float _ | .text _ | .function | .var _ => []
  | .global name => [name]
  | .array items => itemGlobals items
  | .table entries => entryGlobals entries
  | .column _ args settings => itemGlobals args ++ settingGlobals settings

def itemGlobals : List Term → List String
  | [] => []
  | t :: ts => t.globals ++ itemGlobals ts

def entryGlobals : List (Term × Term) → List String
  | [] => []
  | (key, value) :: entries => key.globals ++ value.globals ++ entryGlobals entries

def settingGlobals : List (String × List Term) → List String
  | [] => []
  | (_, args) :: settings => itemGlobals args ++ settingGlobals settings

end

mutual

/-- The global names that a step reads or sets. -/
def Step.globals : Step → List String
  | .call _ args _ | .log _ args => itemGlobals args
  | .method _ on args _ | .member _ on args _ => on.globals ++ itemGlobals args
  | .value term _ | .describe term => term.globals
  | .setGlobal name term => name :: term.globals
  | .put table key value => table.globals ++ key.globals ++ value.globals
  | .guardGlobals | .increment _ | .fail _ => []
  | .attempt steps => stepGlobals steps

def stepGlobals : List Step → List String
  | [] => []
  | s :: ss => s.globals ++ stepGlobals ss

end

def Entry.globals : Entry → List String
  | .function body => stepGlobals body
  | .value term => term.globals

def Answer.globals : Answer → List String
  | .entries | .nothing => []
  | .value term => term.globals

/-- The global names that a program names in its steps, entries and answer. -/
def Program.globals (p : Program) : List String :=
  p.entries.flatMap (fun e => e.2.globals) ++ stepGlobals p.top ++ p.answer.globals

/-- The global names that a script names, apart from the one that it gives to its entry table. -/
def Script.globals : Script → List String
  | .empty | .malformed _ => []
  | .program p => p.globals

/-- The global name that a script gives to its entry table. -/
def Script.publishes? : Script → Option String
  | .empty | .malformed _ => none
  | .program p => p.global?

/-! ## Reach -/

/-- What scripts are confined to: values, while a session has so many tables, and global names. Only
tables and buffers can be out of reach. -/
structure Reach where
  value : Nat → ScriptValue → Prop
  name : String → Prop
  value_data : ∀ n v, (∀ place, v ≠ .table place) → (∀ id, v ≠ .buffer id) → value n v
  value_mono : ∀ {m n v}, m ≤ n → value m v → value n v

namespace Reach

variable (R : Reach) (n : Nat)

@[simp] theorem value_nil : R.value n .nil := R.value_data _ _ (by simp) (by simp)

@[simp] theorem value_bool (b : Bool) : R.value n (.bool b) :=
  R.value_data _ _ (by simp) (by simp)

@[simp] theorem value_int (i : Int) : R.value n (.int i) := R.value_data _ _ (by simp) (by simp)

@[simp] theorem value_float (x : Float) : R.value n (.float x) :=
  R.value_data _ _ (by simp) (by simp)

@[simp] theorem value_text (s : ScriptText) : R.value n (.text s) :=
  R.value_data _ _ (by simp) (by simp)

@[simp] theorem value_ofString (s : String) : R.value n (.ofString s) := R.value_text n _

@[simp] theorem value_function (f : Function) : R.value n (.function f) :=
  R.value_data _ _ (by simp) (by simp)

@[simp] theorem value_column (place : Nat) : R.value n (.column place) :=
  R.value_data _ _ (by simp) (by simp)

@[simp] theorem value_connection (place : Nat) : R.value n (.connection place) :=
  R.value_data _ _ (by simp) (by simp)

/-- Methods are in every reach. -/
@[simp] theorem value_ofOption_function (f? : Option Function) :
    R.value n (.ofOption (f?.map .function)) := by
  cases f? <;> simp [ScriptValue.ofOption]

end Reach

/-! ## Tables -/

namespace Table

/-- Holds if the values of a table have a property. -/
def Values (P : ScriptValue → Prop) (t : Table) : Prop := ∀ kv ∈ t, P kv.2

/-- Holds if the values of a table are all in reach. -/
abbrev Within (R : Reach) (n : Nat) (t : Table) : Prop := t.Values (R.value n)

variable {P Q : ScriptValue → Prop} {R : Reach} {m n : Nat} {t : Table}

theorem values_nil : Values P [] := by simp [Values]

theorem Values.mono (h : t.Values P) (hPQ : ∀ v, P v → Q v) : t.Values Q :=
  fun kv hkv => hPQ _ (h kv hkv)

theorem Values.get (h : t.Values P) (hnil : P .nil) (key : ScriptValue) : P (t.get key) := by
  induction t with
  | nil => exact hnil
  | cons kv rest ih =>
    obtain ⟨hkv, hrest⟩ := List.forall_mem_cons.1 h
    simp only [Table.get]
    split
    · exact hkv
    · exact ih hrest

theorem Values.set (h : t.Values P) (key : ScriptValue) {value : ScriptValue} (hv : P value) :
    (t.set key value).Values P := by
  induction t with
  | nil =>
    simp only [Table.set]
    split
    · exact h
    · simpa [Values] using hv
  | cons kv rest ih =>
    obtain ⟨hkv, hrest⟩ := List.forall_mem_cons.1 h
    simp only [Table.set]
    split
    · split
      · exact hrest
      · exact List.forall_mem_cons.2 ⟨hv, hrest⟩
    · exact List.forall_mem_cons.2 ⟨hkv, ih hrest⟩

theorem values_ofItems {vs : List ScriptValue} (h : ∀ v ∈ vs, P v) : (ofItems vs).Values P := by
  have aux : ∀ (ps : List (ScriptValue × Nat)) (t : Table), (∀ p ∈ ps, P p.1) →
      t.Values P → (ps.foldl (fun t p => Table.set t (.int p.2) p.1) t).Values P := by
    intro ps
    induction ps with
    | nil => exact fun t _ ht => ht
    | cons p ps ih =>
      intro t hps ht
      obtain ⟨hp, hrest⟩ := List.forall_mem_cons.1 hps
      exact ih _ hrest (ht.set _ hp)
  refine aux _ _ (fun p hp => h _ ?_) values_nil
  obtain ⟨v, i⟩ := p
  exact (List.mem_zipIdx hp).2.2 ▸ List.getElem_mem _

theorem Within.later (h : m ≤ n) (ht : t.Within R m) : t.Within R n :=
  ht.mono fun _ => R.value_mono h

end Table

namespace Session

/-! ## Reading what was written -/

variable (s : Session)

@[simp] theorem var_setVar (name other : String) (v : ScriptValue) :
    (s.setVar name v).var other = if name = other then v else s.var other := by
  simp only [var, setVar, Dict.get?_insert]
  split <;> rfl

@[simp] theorem global_setGlobal (name other : String) (v : ScriptValue) :
    (s.setGlobal name v).global other =
      if s.canSet name ∧ name = other then v else s.global other := by
  simp only [global, setGlobal]
  cases s.canSet name with
  | true =>
    simp only [if_true, Dict.get?_insert, true_and]
    split <;> rfl
  | false => simp

theorem table_newTable (t : Table) (place : Nat) :
    (s.newTable t).2.table place = if place = s.tables.size then t else s.table place := by
  simp only [newTable, table, Array.getElem?_push]
  split <;> rfl

theorem table_setTable (t : Table) (place other : Nat) :
    (s.setTable place t).table other =
      if place = other ∧ place < s.tables.size then t else s.table other := by
  simp only [setTable, table, Array.getElem?_setIfInBounds]
  by_cases hp : place = other
  · subst hp
    by_cases hlt : place < s.tables.size <;> simp [hlt]
  · simp [hp]

def body (place : Nat) : List Step := s.functions[place]?.getD []

theorem body_newFunction (body : List Step) (place : Nat) :
    (s.newFunction body).2.body place =
      if place = s.functions.size then body else s.body place := by
  simp only [newFunction, Session.body, Array.getElem?_push]
  split <;> rfl

/-! ## Changes -/

/-- Holds if nothing in a session leads beyond a reach. What is made from now on is in reach. -/
structure Clean (R : Reach) (s : Session) : Prop where
  vars : ∀ name, R.value s.tables.size (s.var name)
  globals : ∀ name, R.name name → R.value s.tables.size (s.global name)
  tables : ∀ place, (s.table place).Within R s.tables.size
  fresh : ∀ place, s.tables.size ≤ place → R.value (place + 1) (.table place)
  bodies : ∀ place, ∀ name ∈ stepGlobals (s.body place), R.name name

/-- One change that a script can make to its session. -/
inductive Change (R : Reach) (s : Session) : Session → Prop
  | setVar (name : String) {v : ScriptValue} (hv : R.value s.tables.size v) :
      Change R s (s.setVar name v)
  | setGlobal {name : String} {v : ScriptValue} (hn : R.name name)
      (hv : R.value s.tables.size v) : Change R s (s.setGlobal name v)
  | guardGlobals : Change R s s.guardGlobals
  | newTable {t : Table} (ht : t.Within R s.tables.size) : Change R s (s.newTable t).2
  | setTable {place : Nat} {t : Table} (hp : R.value s.tables.size (.table place))
      (ht : t.Within R s.tables.size) : Change R s (s.setTable place t)
  | newColumn (c : Column) : Change R s (s.newColumn c).2
  | setColumn (place : Nat) (c : Column) : Change R s (s.setColumn place c)
  | newConnection (c : Connection) : Change R s (s.newConnection c).2
  | newFunction {body : List Step} (hb : ∀ name ∈ stepGlobals body, R.name name) :
      Change R s (s.newFunction body).2
  | addEvent (e : LogEvent) : Change R s (s.addEvent e)
  /-- A statement goes to the registered buffer and to no other. -/
  | issue {id : BufferId} (sql : String) (hr : s.registered? = some id) :
      Change R s (s.issue id sql)
  | write {id : BufferId} (hid : R.value s.tables.size (.buffer id)) (text : String) :
      Change R s (s.updateBuffers (·.write id text))
  | reset {id : BufferId} (hid : R.value s.tables.size (.buffer id)) :
      Change R s (s.updateBuffers (·.reset id))

/-- Any number of changes. -/
abbrev Changes (R : Reach) : Session → Session → Prop := Relation.ReflTransGen (Change R)

variable {R : Reach} {s s' : Session}

/-- Tables stay. -/
theorem Change.size_le (h : s.Change R s') : s.tables.size ≤ s'.tables.size := by
  cases h with
  | newTable => simp [Session.newTable]
  | setTable => simp [Session.setTable]
  | _ => exact Nat.le_refl _

theorem Changes.size_le (h : s.Changes R s') : s.tables.size ≤ s'.tables.size := by
  induction h with
  | refl => exact Nat.le_refl _
  | tail _ hc ih => exact Nat.le_trans ih hc.size_le

/-- No change leads out of a reach. -/
theorem Change.clean (h : s.Change R s') (hs : s.Clean R) : s'.Clean R := by
  cases h with
  | setVar name hv =>
    refine { hs with vars := fun other => ?_ }
    rw [var_setVar]
    split
    · exact hv
    · exact hs.vars other
  | setGlobal hn hv =>
    refine { hs with globals := fun other ho => ?_ }
    rw [global_setGlobal]
    split
    · exact hv
    · exact hs.globals other ho
  | @newTable t ht =>
    have hle : s.tables.size ≤ (s.newTable t).2.tables.size := by simp [Session.newTable]
    refine {
      vars := fun name => R.value_mono hle (hs.vars name)
      globals := fun name hn => R.value_mono hle (hs.globals name hn)
      tables := fun place => ?_
      fresh := fun place hp => hs.fresh place (Nat.le_trans hle hp)
      bodies := hs.bodies }
    rw [table_newTable]
    split
    · exact ht.later hle
    · exact (hs.tables place).later hle
  | @setTable place t _ ht =>
    have hsize : (s.setTable place t).tables.size = s.tables.size := by simp [Session.setTable]
    refine {
      vars := fun name => hsize ▸ hs.vars name
      globals := fun name hn => hsize ▸ hs.globals name hn
      tables := fun other => ?_
      fresh := fun other hp => hs.fresh other (hsize ▸ hp)
      bodies := hs.bodies }
    rw [table_setTable, hsize]
    split
    · exact ht
    · exact hs.tables other
  | newFunction hb =>
    refine { hs with bodies := fun place => ?_ }
    rw [body_newFunction]
    split
    · exact hb
    · exact hs.bodies place
  | guardGlobals | newColumn | setColumn | newConnection | addEvent | issue | write | reset =>
    exact { hs with }

/-- Scripts that start inside a reach stay inside. -/
theorem Changes.clean (h : s.Changes R s') (hs : s.Clean R) : s'.Clean R := by
  induction h with
  | refl => exact hs
  | tail _ hc ih => exact hc.clean ih

/-! ## Fresh sessions -/

theorem within_functionTable (n : Nat) (functions : List (String × Function)) :
    (functionTable functions).Within R n := by
  intro kv hkv
  obtain ⟨f, _, rfl⟩ := List.mem_map.1 hkv
  exact R.value_function n f.2

theorem global_create (name other : String) (order : TableOrder) :
    (create name order).global other =
      if other = bufferGlobal then .buffer ⟨0⟩
      else if other = "print" then .function .print
      else if other = loggerGlobal then .table 1
      else if other = migrateGlobal then .table 0
      else .nil := by
  simp only [global, create, Dict.ofList, List.foldl_cons, List.foldl_nil, Dict.get?_insert,
    Dict.get?_nil, eq_comm (b := other)]
  repeat' split
  all_goals rfl

theorem table_create (name : String) (order : TableOrder) (place : Nat) :
    (create name order).table place =
      if place = 0 then migrateTable else if place = 1 then loggerTable else [] := by
  match place with
  | 0 | 1 => rfl
  | place + 2 => simp [table, create]

/-- A fresh session is clean if what its names hold is in reach. -/
theorem clean_create (name : String) (order : TableOrder) (hglobals : ∀ other, R.name other →
      R.value 2 ((create name order).global other))
    (hfresh : ∀ place, 2 ≤ place → R.value (place + 1) (.table place)) :
    (create name order).Clean R where
  vars _ := R.value_nil _
  globals := hglobals
  tables place := by
    rw [table_create]
    repeat' split
    · exact within_functionTable _ _
    · exact within_functionTable _ _
    · exact Table.values_nil
  fresh := hfresh
  bodies _ _ h := by simp [body, create, stepGlobals] at h

end Session

end SchemaMigration
