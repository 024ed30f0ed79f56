import SchemaMigration.Migration.Adapter
import SchemaMigration.Proofs.Script.Confinement

/-!
# Entry tables

A script makes its entry table when it is evaluated, and gives it away in two ways only: as its
answer and under a global name. A script that keeps off other global names than those that all
scripts may use cannot get hold of an entry table any more, neither of its own nor of another
script. So an entry table stays as it was made, and its functions are those of the script that made
it.

## Main definitions

* `Reach.aside` — the reach of scripts that have no hold of certain tables.
* `Script.SelfContained` — scripts whose entry tables are their own.
* `Adapter.evaluated_evaluate` — what evaluating such a script leaves behind.
-/

namespace SchemaMigration

/-! ## Self-contained scripts -/

/-- Holds for terms that are neither objects nor names. -/
def Term.isScalar : Term → Bool
  | .nil | .bool _ | .int _ | .float _ | .text _ | .function => true
  | .var _ | .global _ | .array _ | .table _ | .column _ _ _ => false

/-- Holds for terms that denote something new. -/
def Term.isNew (t : Term) : Bool :=
  match t with
  | .array _ | .table _ => true
  | _ => t.isScalar

/-- Holds for entries that are functions of the script, or no functions. -/
def Entry.isOwn : Entry → Bool
  | .function _ => true
  | .value t => t.isNew

/-- Holds for answers that are the entry table or no table. -/
def Answer.isOwn : Answer → Bool
  | .entries | .nothing => true
  | .value t => t.isScalar

/-- Holds if the entry table of a script is its own: its functions are those of the script, it is
what the script answers if that is a table, and its global name is none that scripts share. Scripts
name shared names only. -/
structure Script.SelfContained (shared : String → Prop) (s : Script) : Prop where
  names : ∀ name ∈ s.globals, shared name
  publishes : ∀ name, s.publishes? = some name → ¬ shared name
  program : ∀ p, s = .program p → (∀ e ∈ p.entries, e.2.isOwn) ∧ p.answer.isOwn

/-- The reach of scripts that have no hold of the tables that are kept aside. -/
def Reach.aside (kept : Nat → Prop) (shared : String → Prop) : Reach where
  value n v := ∀ place, v = .table place → place < n ∧ ¬ kept place
  name := shared
  value_data _ _ h _ place he := absurd he (h place)
  value_mono h hv place he := ⟨Nat.lt_of_lt_of_le (hv place he).1 h, (hv place he).2⟩

namespace Session

variable {kept : Nat → Prop} {shared : String → Prop} {s s' : Session}

theorem Clean.lt_of_kept (h : s.Clean (.aside kept shared)) {place : Nat} (hp : kept place) :
    place < s.tables.size :=
  Nat.lt_of_not_le fun hle => (h.fresh place hle place rfl).2 hp

/-- What changes within the reach leave alone. -/
structure Preserves (kept : Nat → Prop) (shared : String → Prop) (s s' : Session) : Prop where
  tables : ∀ place, kept place → s'.table place = s.table place
  globals : ∀ name, ¬ shared name → s'.global name = s.global name
  functions : s.functions.size ≤ s'.functions.size

theorem Preserves.refl (s : Session) : s.Preserves kept shared s :=
  ⟨fun _ _ => rfl, fun _ _ => rfl, Nat.le_refl _⟩

theorem Preserves.trans {s'' : Session} (h : s.Preserves kept shared s')
    (h' : s'.Preserves kept shared s'') : s.Preserves kept shared s'' where
  tables place hp := (h'.tables place hp).trans (h.tables place hp)
  globals name hn := (h'.globals name hn).trans (h.globals name hn)
  functions := Nat.le_trans h.functions h'.functions

theorem Change.preserves (h : s.Change (.aside kept shared) s')
    (hs : s.Clean (.aside kept shared)) : s.Preserves kept shared s' := by
  have hrefl : s.Preserves kept shared s := .refl s
  cases h with
  | @setGlobal name v hn hv =>
    refine { hrefl with globals := fun other ho => ?_ }
    have hne : name ≠ other := fun he => ho (he ▸ hn)
    rw [global_setGlobal, if_neg fun h => hne h.2]
  | newTable ht =>
    refine { hrefl with tables := fun place hp => ?_ }
    rw [table_newTable, if_neg (Nat.ne_of_lt (hs.lt_of_kept hp))]
  | @setTable place t hp ht =>
    refine { hrefl with tables := fun other ho => ?_ }
    have hne : place ≠ other := fun he => (hp place rfl).2 (he ▸ ho)
    rw [table_setTable, if_neg fun he => hne he.1]
  | newFunction hb =>
    refine { hrefl with functions := ?_ }
    simp [Session.newFunction]
  | _ => exact { hrefl with }

theorem Changes.preserves (h : s.Changes (.aside kept shared) s')
    (hs : s.Clean (.aside kept shared)) : s.Preserves kept shared s' := by
  induction h with
  | refl => exact .refl s
  | tail h hc ih => exact ih.trans (hc.preserves (Changes.clean h hs))

/-- A table that was just made can be kept aside. -/
theorem Clean.setAside (h : s.Clean (.aside kept shared)) {t : Table}
    (ht : t.Within (.aside kept shared) s.tables.size) :
    (s.newTable t).2.Clean (.aside (fun place => kept place ∨ place = s.tables.size) shared) := by
  -- what was in reach is older than the table
  have hold {v : ScriptValue} (hv : (Reach.aside kept shared).value s.tables.size v) :
      (Reach.aside (fun place => kept place ∨ place = s.tables.size) shared).value
        (s.newTable t).2.tables.size v := by
    intro place he
    obtain ⟨hlt, hk⟩ := hv place he
    refine ⟨by simp only [newTable, Array.size_push]; omega, ?_⟩
    rintro (hp | hp)
    · exact hk hp
    · omega
  refine {
    vars := fun name => hold (h.vars name)
    globals := fun name hn => hold (h.globals name hn)
    tables := fun place => ?_
    fresh := fun place hp other he => ?_
    bodies := h.bodies }
  · rw [table_newTable]
    split
    · exact fun kv hkv => hold (ht kv hkv)
    · exact fun kv hkv => hold (h.tables place kv hkv)
  · cases he
    simp only [newTable, Array.size_push] at hp
    refine ⟨Nat.lt_succ_self place, ?_⟩
    rintro (hk | hk)
    · exact (h.fresh place (by omega) place rfl).2 hk
    · omega

end Session

/-! ## Functions of a script -/

/-- Holds for functions of scripts that were made between two states of a session. -/
def Function.MadeIn (first limit : Nat) (f : Function) : Prop :=
  ∃ place, f = .script place ∧ first ≤ place ∧ place < limit

/-- Holds if the functions in a table have a property. -/
abbrev Table.Calls (P : Function → Prop) (t : Table) : Prop :=
  t.Values fun v => ∀ f, v = .function f → P f

theorem Table.Calls.get {P : Function → Prop} {t : Table} (h : t.Calls P) {key : ScriptValue}
    {f : Function} (hf : t.get key = .function f) : P f :=
  Table.Values.get h (fun _ hnil => by cases hnil) key f hf

theorem Function.MadeIn.mono {first limit limit' : Nat} {f : Function} (h : f.MadeIn first limit)
    (hle : limit ≤ limit') : f.MadeIn first limit' := by
  obtain ⟨place, hf, hfirst, hlimit⟩ := h
  exact ⟨place, hf, hfirst, Nat.lt_of_lt_of_le hlimit hle⟩

namespace Eval

variable {kept : Nat → Prop} {shared : String → Prop} {i j : Interpreter}

/-- A scalar has a value, which is no table. If it is a function, it is made there and then. -/
theorem term_of_isScalar {t : Term} (ht : t.isScalar) (i : Interpreter) :
    ∃ v, (runIn i (term t)).1 = .ok v ∧ (∀ place, v ≠ .table place) ∧
      ∀ f, v = .function f → f.MadeIn i.session.functions.size
        (runIn i (term t)).2.session.functions.size := by
  cases t with
  | function =>
    refine ⟨_, rfl, by simp, ?_⟩
    intro f hf
    cases hf
    exact ⟨_, rfl, Nat.le_refl _, by simp [term, Term.eval, Session.newFunction]⟩
  | nil | bool | int | float | text => exact ⟨_, rfl, by simp, by simp⟩
  | var | global | array | table | column => cases ht

/-- A function that a new term denotes is made there and then. -/
theorem made_term {t : Term} (ht : t.isNew) {v : ScriptValue}
    (hr : runIn i (term t) = (.ok v, j)) {f : Function} (hf : v = .function f) :
    f.MadeIn i.session.functions.size j.session.functions.size := by
  have hscalar (hs : t.isScalar) :
      f.MadeIn i.session.functions.size j.session.functions.size := by
    obtain ⟨v', hv, _, hmade⟩ := term_of_isScalar hs i
    rw [hr] at hv hmade
    cases hv
    exact hmade f hf
  cases t with
  | array items =>
    simp only [term, Term.eval, runIn_bind] at hr
    split at hr
    · cases hr
      cases hf
    · cases hr
  | table entries =>
    simp only [term, Term.eval, runIn_bind] at hr
    split at hr
    · split at hr
      · cases hr
        cases hf
      · cases hr
    · cases hr
  | _ => exact hscalar ht

theorem made_entry {e : Entry} (he : e.isOwn) {v : ScriptValue}
    (hr : runIn i (entry e) = (.ok v, j)) {f : Function} (hf : v = .function f) :
    f.MadeIn i.session.functions.size j.session.functions.size := by
  cases e with
  | value t => exact made_term he hr hf
  | function body =>
    rw [entry, runIn_make] at hr
    cases hr
    cases hf
    exact ⟨_, rfl, Nat.le_refl _, by simp [Session.newFunction]⟩

/-- The functions of an entry table are made while it is. -/
theorem calls_entries {es : List (String × Entry)} (hown : ∀ e ∈ es, e.2.isOwn)
    (hes : ∀ e ∈ es, ∀ name ∈ e.2.globals, shared name)
    (hc : i.session.Clean (.aside kept shared)) {first : Nat}
    (hfirst : first ≤ i.session.functions.size) {t t' : Table}
    (ht : t.Calls (Function.MadeIn first i.session.functions.size))
    (hr : runIn i (entries es t) = (.ok t', j)) :
    t'.Calls (Function.MadeIn first j.session.functions.size) := by
  induction es generalizing i t with
  | nil =>
    cases hr
    exact ht
  | cons e es ih =>
    obtain ⟨name, e⟩ := e
    obtain ⟨he, hrest⟩ := List.forall_mem_cons.1 hown
    obtain ⟨hename, hesname⟩ := List.forall_mem_cons.1 hes
    simp only [entries, runIn_bind] at hr
    rcases hrun : runIn i (entry e) with ⟨fault | v, k⟩
    · rw [hrun] at hr
      cases hr
    · rw [hrun] at hr
      have hconfined : Confined (.aside kept shared) 0 _ (entry e) := confined_entry hename
      have hchanges := (hconfined i (Nat.zero_le _) hc).1
      rw [hrun] at hchanges
      have hmono : i.session.functions.size ≤ k.session.functions.size :=
        (hchanges.preserves hc).functions
      refine ih hrest hesname (hchanges.clean hc) (Nat.le_trans hfirst hmono) ?_ hr
      refine Table.Values.set (Table.Values.mono ht fun v hv f hf => (hv f hf).mono hmono) _ ?_
      intro f hf
      obtain ⟨place, hplace, hle, hlt⟩ := made_entry he hrun hf
      exact ⟨place, hplace, Nat.le_trans hfirst hle, hlt⟩

end Eval

/-! ## Evaluating a script -/

theorem Session.Clean.setGlobal {kept : Nat → Prop} {shared : String → Prop} {s : Session}
    (h : s.Clean (.aside kept shared)) {name : String} (hn : ¬ shared name) (v : ScriptValue) :
    (s.setGlobal name v).Clean (.aside kept shared) := by
  refine { h with globals := fun other ho => ?_ }
  have hne : name ≠ other := fun he => hn (he ▸ ho)
  rw [global_setGlobal, if_neg fun h => hne h.2]
  exact h.globals other ho

/-- What evaluating a script leaves behind. The tables that are kept aside are as they were, and
`new` ones are: the entry table of the script. -/
structure Evaluated (kept new : Nat → Prop) (shared : String → Prop) (s : Script)
    (m : Adapter.Module) (before after : Session) : Prop where
  clean : after.Clean (.aside (fun place => kept place ∨ new place) shared)
  tables : ∀ place, kept place → after.table place = before.table place
  functions : before.functions.size ≤ after.functions.size
  calls : ∀ place, new place →
    (after.table place).Calls (Function.MadeIn before.functions.size after.functions.size)
  published : ∀ name, s.publishes? = some name →
    ∀ place, after.global name = .table place → new place
  globals : ∀ name, ¬ shared name → s.publishes? ≠ some name →
    after.global name = before.global name
  module : ∀ place, m = some place → new place

namespace Adapter

open Eval

variable {kept : Nat → Prop} {shared : String → Prop} {i j : Interpreter}

/-- What a script answers is its entry table or no table, and stays within reach. -/
theorem changes_answer {a : Answer} (hown : a.isOwn) (hnames : ∀ name ∈ a.globals, shared name)
    {place : Nat} {v : ScriptValue} (hc : i.session.Clean (.aside kept shared))
    (hr : runIn i (answer (.table place) a) = (.ok v, j)) :
    i.session.Changes (.aside kept shared) j.session ∧ ∀ q, v = .table q → q = place := by
  cases a with
  | entries =>
    cases hr
    exact ⟨.refl, fun q hq => by cases hq; rfl⟩
  | nothing =>
    cases hr
    exact ⟨.refl, fun q hq => by cases hq⟩
  | value t =>
    have hr : runIn i (term t) = (.ok v, j) := hr
    have hconfined : Confined (.aside kept shared) 0 _ (term t) := confined_term hnames
    have hchanges := (hconfined i (Nat.zero_le _) hc).1
    obtain ⟨v', hv, htable, _⟩ := term_of_isScalar hown i
    rw [hr] at hv hchanges
    cases hv
    exact ⟨hchanges, fun q hq => absurd hq (htable q)⟩

/-- The end of a script: its entry table gets its name, and is the answer or no table is. -/
theorem evaluated_of_answer {p : Program} (hs : (Script.program p).SelfContained shared)
    {before : Session} {place : Nat} {v : ScriptValue}
    (hc : i.session.Clean (.aside (fun q => kept q ∨ q = place) shared))
    (hpreserves : before.Preserves kept shared i.session)
    (hcalls : (i.session.table place).Calls
      (Function.MadeIn before.functions.size i.session.functions.size))
    (hr : runIn i (publish (.table place) p.global? >>= fun _ => answer (.table place) p.answer) =
      (.ok v, j)) {m : Module} (hm : ∀ q, m = some q → v = .table q) :
    Evaluated kept (· = place) shared (.program p) m before j.session := by
  obtain ⟨k, hk, hclean, htables, hfunctions, hother, hname⟩ : ∃ k : Interpreter,
      runIn i (publish (.table place) p.global?) = (.ok (), k) ∧
      k.session.Clean (.aside (fun q => kept q ∨ q = place) shared) ∧
      (∀ q, k.session.table q = i.session.table q) ∧
      k.session.functions = i.session.functions ∧
      (∀ name, p.global? ≠ some name → k.session.global name = i.session.global name) ∧
      ∀ name, p.global? = some name → ∀ q, k.session.global name = .table q → q = place := by
    cases hg : p.global? with
    | none => exact ⟨i, rfl, hc, by simp, rfl, by simp, by simp⟩
    | some n =>
      refine ⟨_, rfl, hc.setGlobal (hs.publishes n hg) _, fun _ => rfl, rfl, ?_, ?_⟩
      · intro name hne
        have hne : n ≠ name := fun he => hne (congrArg some he)
        simp [hne]
      · intro name he q hq
        obtain rfl : n = name := Option.some.inj he
        rw [Session.global_setGlobal] at hq
        split at hq
        · cases hq
          rfl
        · next hset =>
          rw [Session.global_of_canSet_eq_false (by simpa using hset)] at hq
          cases hq
  have hanswer : runIn k (answer (.table place) p.answer) = (.ok v, j) := by
    rw [runIn_bind, hk] at hr
    exact hr
  have hnames : ∀ name ∈ p.answer.globals, shared name :=
    fun name hn => hs.names name (List.mem_append_right _ hn)
  obtain ⟨hchanges, htable⟩ := changes_answer (hs.program p rfl).2 hnames hclean hanswer
  have hafter := hchanges.preserves hclean
  have hsize : i.session.functions.size ≤ j.session.functions.size :=
    hfunctions ▸ hafter.functions
  exact {
    clean := hchanges.clean hclean
    tables := fun q hq => by
      rw [hafter.tables q (.inl hq), htables, hpreserves.tables q hq]
    functions := Nat.le_trans hpreserves.functions hsize
    calls := fun q hq => by
      rw [hafter.tables q (.inr hq), htables, hq]
      exact Table.Values.mono hcalls fun v hv f hf => (hv f hf).mono hsize
    published := fun name hn q hq => by
      rw [hafter.globals name (hs.publishes name hn)] at hq
      exact hname name hn q hq
    globals := fun name hn hp => by
      rw [hafter.globals name hn, hother name hp, hpreserves.globals name hn]
    module := fun q hq => htable q (hm q hq) }

/-- Nothing fails once the top level of a script is done. -/
theorem ok_of_answer {p : Program} (hown : p.answer.isOwn) (place : Nat) (i : Interpreter) :
    ∃ v, (runIn i (publish (.table place) p.global? >>= fun _ =>
      answer (.table place) p.answer)).1 = .ok v := by
  have hanswer (k : Interpreter) : ∃ v, (runIn k (answer (.table place) p.answer)).1 = .ok v := by
    cases ha : p.answer with
    | entries | nothing => exact ⟨_, rfl⟩
    | value t =>
      rw [ha] at hown
      obtain ⟨v, hv, _⟩ := term_of_isScalar hown k
      exact ⟨v, hv⟩
  cases hg : p.global? with
  | none => exact hanswer i
  | some name => exact hanswer _

/-- A script from its entry table on. From then on the table is kept aside. -/
theorem evaluated_of_table {p : Program} (hs : (Script.program p).SelfContained shared)
    (htop : ∀ name ∈ stepGlobals p.top, shared name) {before : Session} {t : Table}
    (hc : i.session.Clean (.aside kept shared))
    (ht : t.Within (.aside kept shared) i.session.tables.size)
    (hpreserves : before.Preserves kept shared i.session)
    (hcalls : t.Calls (Function.MadeIn before.functions.size i.session.functions.size))
    {r : Except ScriptFault ScriptValue}
    (hr : runIn { i with session := (i.session.newTable t).2 }
      (steps p.top >>= fun _ => publish (.table i.session.tables.size) p.global? >>= fun _ =>
        answer (.table i.session.tables.size) p.answer) = (r, j)) :
    (∀ e, r = .error e → i.session.Changes (.aside kept shared) j.session) ∧
      ∀ v, r = .ok v → ∀ m : Module, (∀ q, m = some q → v = .table q) →
        Evaluated kept (· = i.session.tables.size) shared (.program p) m before j.session := by
  let made : Interpreter := { i with session := (i.session.newTable t).2 }
  rw [runIn_bind] at hr
  rcases hsteps : runIn made (steps p.top) with ⟨e | u, k⟩
  · rw [hsteps] at hr
    cases hr
    have hnew : i.session.Change (.aside kept shared) made.session := .newTable ht
    have hconfined : Confined (.aside kept shared) 0 Anything (steps p.top) := confined_steps htop
    have hdone := (hconfined made (Nat.zero_le _) (hnew.clean hc)).1
    rw [hsteps] at hdone
    exact ⟨fun _ _ => .trans (.single hnew) hdone, fun _ h => by cases h⟩
  · rw [hsteps] at hr
    have hc₂ := hc.setAside ht
    have hconfined : Confined (.aside (fun q => kept q ∨ q = i.session.tables.size) shared) 0
      Anything (steps p.top) := confined_steps htop
    have hdone := (hconfined made (Nat.zero_le _) hc₂).1
    rw [hsteps] at hdone
    have hafter := hdone.preserves hc₂
    have htable : k.session.table i.session.tables.size = t := by
      rw [hafter.tables _ (.inr rfl), Session.table_newTable, if_pos rfl]
    have hall : before.Preserves kept shared k.session := {
      tables := fun q hq => by
        have hne := Nat.ne_of_lt (hc.lt_of_kept hq)
        rw [hafter.tables q (.inl hq), Session.table_newTable, if_neg hne, hpreserves.tables q hq]
      globals := fun name hn => (hafter.globals name hn).trans (hpreserves.globals name hn)
      functions := Nat.le_trans hpreserves.functions hafter.functions }
    have hcalls' : (k.session.table i.session.tables.size).Calls
        (Function.MadeIn before.functions.size k.session.functions.size) := by
      rw [htable]
      exact Table.Values.mono hcalls fun v hv f hf => (hv f hf).mono hafter.functions
    refine ⟨fun e he => ?_, fun v hv m hm => ?_⟩
    · obtain ⟨v, hv⟩ := ok_of_answer (hs.program p rfl).2 i.session.tables.size k
      simp only [hr, he] at hv
      cases hv
    · cases hv
      exact evaluated_of_answer hs (hdone.clean hc₂) hall hcalls' hr hm

/-- Evaluating a self-contained script. A fault leaves changes within reach behind, and no entry
table under any name. -/
theorem evaluated_program {p : Program} (hs : (Script.program p).SelfContained shared)
    (hc : i.session.Clean (.aside kept shared)) {r : Except ScriptFault ScriptValue}
    (hr : runIn i (script (.program p)) = (r, j)) :
    (∀ e, r = .error e → i.session.Changes (.aside kept shared) j.session) ∧
      ∀ v, r = .ok v → ∃ new, ∀ m : Module, (∀ q, m = some q → v = .table q) →
        Evaluated kept new shared (.program p) m i.session j.session := by
  have hnames : ∀ name ∈ p.globals, shared name := hs.names
  obtain ⟨hboth, _⟩ := List.forall_mem_append.1 hnames
  obtain ⟨hentries, htop⟩ := List.forall_mem_append.1 hboth
  have hentries : ∀ e ∈ p.entries, ∀ name ∈ e.2.globals, shared name :=
    fun e he name hn => hentries name (List.mem_flatMap.2 ⟨e, he, hn⟩)
  have hconfined : Confined (.aside kept shared) 0 _ (entries p.entries []) :=
    confined_entries hentries Table.values_nil
  obtain ⟨hchanges, hwithin⟩ := hconfined i (Nat.zero_le _) hc
  rw [script, runIn_bind] at hr
  rcases hrun : runIn i (entries p.entries []) with ⟨e | t, k⟩
  · rw [hrun] at hr hchanges
    cases hr
    exact ⟨fun _ _ => hchanges, fun _ h => by cases h⟩
  · rw [hrun] at hr hchanges hwithin
    have hcalls := calls_entries (hs.program p rfl).1 hentries hc (Nat.le_refl _)
      Table.values_nil hrun
    obtain ⟨hfailed, hdone⟩ := evaluated_of_table hs htop (hchanges.clean hc) (hwithin t rfl)
      (hchanges.preserves hc) hcalls hr
    exact ⟨fun e he => hchanges.trans (hfailed e he), fun v hv => ⟨_, hdone v hv⟩⟩

/-- Evaluating a self-contained script for an adapter. -/
theorem evaluated_evaluate {s : Script} (hs : s.SelfContained shared)
    (hc : i.session.Clean (.aside kept shared)) {r : Except ScriptFault Module}
    (hr : runIn i (evaluate s) = (r, j)) :
    (∀ e, r = .error e → i.session.Changes (.aside kept shared) j.session) ∧
      ∀ m, r = .ok m → ∃ new, Evaluated kept new shared s m i.session j.session := by
  cases s with
  | malformed =>
    cases hr
    exact ⟨fun _ _ => .refl, fun _ h => by cases h⟩
  | empty =>
    cases hr
    refine ⟨fun _ h => (by cases h), fun m hm => ⟨fun _ => False, ?_⟩⟩
    cases hm
    exact {
      clean := by simpa using hc
      tables := fun _ _ => rfl
      functions := Nat.le_refl _
      calls := fun _ h => h.elim
      published := fun _ h => by cases h
      globals := fun _ _ _ => rfl
      module := fun _ h => by cases h }
  | program p =>
    rw [evaluate, runIn_bind] at hr
    rcases hrun : runIn i (script (.program p)) with ⟨e | v, k⟩
    · rw [hrun] at hr
      cases hr
      obtain ⟨hfailed, _⟩ := evaluated_program hs hc hrun
      exact ⟨fun _ _ => hfailed e rfl, fun _ h => by cases h⟩
    · rw [hrun] at hr
      obtain ⟨_, hdone⟩ := evaluated_program hs hc hrun
      obtain ⟨new, hnew⟩ := hdone v rfl
      cases v with
      | table place =>
        cases hr
        refine ⟨fun _ h => (by cases h), fun m hm => ⟨new, hnew m fun q hq => ?_⟩⟩
        cases hm
        cases hq
        rfl
      | _ =>
        cases hr
        refine ⟨fun _ h => (by cases h), fun m hm => ⟨new, hnew m fun q hq => ?_⟩⟩
        cases hm
        cases hq

end Adapter

end SchemaMigration
