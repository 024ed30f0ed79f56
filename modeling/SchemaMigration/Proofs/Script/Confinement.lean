import SchemaMigration.Proofs.Script.Change

/-!
# Scripts stay in reach

Evaluating a script makes changes to its session and nothing else, and its values are in reach. A
fault leaves behind the changes up to it, so that the statement is about every evaluation, whatever
it comes to.

## Main definitions

* `Eval.Confined` — a computation that only makes changes, with values that have a property.
* `Step.confined_eval` — what a step does to a session.
* `Eval.confined_script` — what a script does to a session.
-/

namespace SchemaMigration

/-! ## Running computations -/

namespace Eval

section Run

variable {α β : Type} {i : Interpreter}

@[simp] theorem runIn_pure (a : α) : runIn i (pure a) = (.ok a, i) := rfl

@[simp] theorem runIn_throw (e : ScriptFault) : runIn i (throw e : Eval α) = (.error e, i) := rfl

@[simp] theorem runIn_session : runIn i session = (.ok i.session, i) := rfl

@[simp] theorem runIn_get : runIn i (get : Eval Interpreter) = (.ok i, i) := rfl

@[simp] theorem runIn_set (j : Interpreter) : runIn i (set j : Eval Unit) = (.ok (), j) := rfl

@[simp] theorem runIn_update (f : Session → Session) :
    runIn i (update f) = (.ok (), { i with session := f i.session }) := rfl

@[simp] theorem runIn_make (f : Session → α × Session) :
    runIn i (make f) = (.ok (f i.session).1, { i with session := (f i.session).2 }) := rfl

/-- The second computation starts where the first ends, unless that fails. -/
theorem runIn_bind (x : Eval α) (f : α → Eval β) :
    runIn i (x >>= f) =
      match runIn i x with
      | (.ok a, j) => runIn j (f a)
      | (.error e, j) => (.error e, j) := by
  simp only [runIn, ExceptT.run_bind, StateT.run_bind]
  generalize x.run.run i = r
  obtain ⟨r, j⟩ := r
  cases r <;> rfl

/-- The handler starts where the computation failed. -/
theorem runIn_tryCatch (x : Eval α) (handle : ScriptFault → Eval α) :
    runIn i (tryCatch x handle) =
      match runIn i x with
      | (.ok a, j) => (.ok a, j)
      | (.error e, j) => runIn j (handle e) := by
  change StateT.run (ExceptT.run (ExceptT.tryCatch x handle)) i = _
  simp only [runIn, ExceptT.tryCatch, ExceptT.run, ExceptT.mk, StateT.run_bind]
  change (match StateT.run x i with | (r, j) => _) = _
  generalize hx : StateT.run x i = r
  obtain ⟨r, j⟩ := r
  cases r <;> rfl

end Run

/-! ## Confined computations -/

/-- A computation that only makes changes to its session, and whose value has a property if it has
one. What the computation was given it got while the session had `n` tables, and the property may
speak of the number of tables in the end. -/
def Confined (R : Reach) (n : Nat) {α : Type} (P : Nat → α → Prop) (x : Eval α) : Prop :=
  ∀ i : Interpreter, n ≤ i.session.tables.size → i.session.Clean R →
    i.session.Changes R (runIn i x).2.session ∧
      ∀ a, (runIn i x).1 = .ok a → P (runIn i x).2.session.tables.size a

/-- The property that says nothing about a value. -/
abbrev Anything {α : Type} : Nat → α → Prop := fun _ _ => True

/-- Holds if calling functions of scripts is confined. -/
def ConfinedCalls (R : Reach) (invoke : List Step → Eval Unit) : Prop :=
  ∀ body, (∀ name ∈ stepGlobals body, R.name name) → Confined R 0 Anything (invoke body)

namespace Confined

variable {R : Reach} {n : Nat} {α β : Type} {P : Nat → α → Prop} {Q : Nat → β → Prop}

theorem pure {a : α} (h : ∀ m, n ≤ m → P m a) : Confined R n P (Pure.pure a) := by
  intro i hn _
  refine ⟨.refl, fun b hb => ?_⟩
  cases hb
  exact h _ hn

theorem throw (e : ScriptFault) : Confined R n P (MonadExcept.throw e) := by
  intro i _ _
  exact ⟨.refl, fun b hb => by cases hb⟩

/-- What follows a computation has its value, and no fewer tables. -/
theorem bind {x : Eval α} {f : α → Eval β} (hx : Confined R n P x)
    (hf : ∀ m a, n ≤ m → P m a → Confined R m Q (f a)) : Confined R n Q (x >>= f) := by
  intro i hn hi
  obtain ⟨hc, hP⟩ := hx i hn hi
  rw [runIn_bind]
  generalize runIn i x = r at hc hP
  obtain ⟨r, j⟩ := r
  cases r with
  | error e => exact ⟨hc, fun b hb => by cases hb⟩
  | ok a =>
    have hm : n ≤ j.session.tables.size := Nat.le_trans hn hc.size_le
    obtain ⟨hc', hQ⟩ := hf _ a hm (hP a rfl) j (Nat.le_refl _) (hc.clean hi)
    exact ⟨hc.trans hc', hQ⟩

theorem tryCatch {x : Eval α} {handle : ScriptFault → Eval α} (hx : Confined R n P x)
    (hh : ∀ e, Confined R n P (handle e)) : Confined R n P (MonadExcept.tryCatch x handle) := by
  intro i hn hi
  obtain ⟨hc, hP⟩ := hx i hn hi
  rw [runIn_tryCatch]
  generalize runIn i x = r at hc hP
  obtain ⟨r, j⟩ := r
  cases r with
  | ok a => exact ⟨hc, hP⟩
  | error e =>
    obtain ⟨hc', hP'⟩ := hh e j (Nat.le_trans hn hc.size_le) (hc.clean hi)
    exact ⟨hc.trans hc', hP'⟩

/-- A computation may start with more tables. -/
theorem later {m : Nat} {x : Eval α} (h : Confined R n P x) (hm : n ≤ m) : Confined R m P x :=
  fun i hi => h i (Nat.le_trans hm hi)

/-- What is read is clean. -/
theorem session :
    Confined R n (fun m s => s.tables.size = m ∧ s.Clean R) Eval.session := by
  intro i _ hi
  refine ⟨.refl, fun s hs => ?_⟩
  cases hs
  exact ⟨rfl, hi⟩

theorem get : Confined R n Anything (MonadState.get : Eval Interpreter) :=
  fun _ _ _ => ⟨.refl, fun _ _ => trivial⟩

theorem update {f : Session → Session}
    (h : ∀ s, n ≤ s.tables.size → Session.Change R s (f s)) :
    Confined R n Anything (Eval.update f) :=
  fun i hn _ => ⟨.single (h i.session hn), fun _ _ => trivial⟩

theorem make {f : Session → α × Session}
    (h : ∀ s, n ≤ s.tables.size → s.Clean R →
      Session.Change R s (f s).2 ∧ P (f s).2.tables.size (f s).1) :
    Confined R n P (Eval.make f) := by
  intro i hn hi
  obtain ⟨hc, hP⟩ := h i.session hn hi
  refine ⟨.single hc, fun a ha => ?_⟩
  cases ha
  exact hP

end Confined

/-- A new table is a change, and in reach from then on. -/
theorem confined_newTable {R : Reach} {s : Session} {t : Table} (ht : t.Within R s.tables.size)
    (hs : s.Clean R) :
    Session.Change R s (s.newTable t).2 ∧
      R.value (s.newTable t).2.tables.size (s.newTable t).1 := by
  refine ⟨.newTable ht, ?_⟩
  simpa [Session.newTable] using hs.fresh _ (Nat.le_refl _)

/-! ## Functions -/

section Functions

variable {R : Reach} {n : Nat} {args : List ScriptValue}

theorem confined_arguments (q : Quoter) (args : List ScriptValue) :
    Confined R n Anything (arguments q args) :=
  Confined.session.bind fun _ _ _ _ => .pure fun _ _ => trivial

/-- A statement goes to the registered buffer, if anything is made. -/
theorem confined_statement (b : StatementBuilder) (op : Operation) (args : List ScriptValue) :
    Confined R n Anything (statement b op args) := by
  intro i _ _
  refine ⟨?_, fun _ _ => trivial⟩
  simp only [statement, runIn_bind, runIn_session]
  -- without a buffer, without a statement, and with an empty one nothing changes
  split
  · exact .refl
  · next id hid =>
    split
    · exact .refl
    · next sql _ =>
      split
      · exact .refl
      · simpa [runIn_bind] using Relation.ReflTransGen.single (.issue sql hid)

theorem confined_textArgument (v : ScriptValue) : Confined R n Anything (textArgument v) := by
  unfold textArgument
  split
  · exact .pure fun _ _ => trivial
  · exact .pure fun _ _ => trivial
  · exact .pure fun _ _ => trivial
  · exact .throw _

/-- Making a connection changes what sessions share, and adds an object to the session. -/
theorem confined_connect (name : String) : Confined R n R.value (connect name) := by
  intro i _ _
  simp only [connect, runIn_bind, runIn_get]
  split
  · exact ⟨.refl, fun _ h => by cases h⟩
  · next c registry _ _ =>
    simp only [runIn_bind, runIn_set, runIn_make]
    refine ⟨.single (.newConnection c), fun v hv => ?_⟩
    cases hv
    exact R.value_connection _ _

theorem confined_columnSelf (args : List ScriptValue) :
    Confined R n Anything (columnSelf args) := by
  unfold columnSelf
  split
  · refine Confined.session.bind fun _ s _ _ => ?_
    split
    · exact .pure fun _ _ => trivial
    · exact .throw _
  · exact .throw _

theorem confined_connectionSelf (args : List ScriptValue) :
    Confined R n Anything (connectionSelf args) := by
  unfold connectionSelf
  split
  · refine Confined.session.bind fun _ s _ _ => ?_
    split
    · exact .pure fun _ _ => trivial
    · exact .throw _
  · exact .throw _

/-- A buffer that a script writes to is one that it has got hold of. -/
theorem confined_bufferSelf (h : ∀ v ∈ args, R.value n v) :
    Confined R n (fun m id => R.value m (.buffer id)) (bufferSelf args) := by
  unfold bufferSelf
  split
  · exact .pure fun m hm => R.value_mono hm (h _ (by simp))
  · exact .throw _

theorem confined_setColumn (setter : Setter) (args : List ScriptValue) :
    Confined R n R.value (setColumn setter args) := by
  refine (confined_columnSelf args).bind fun _ (place, c) _ _ => ?_
  refine Confined.session.bind fun _ s _ _ => ?_
  refine (Confined.update fun s _ => .setColumn place _).bind fun _ _ _ _ => ?_
  exact .pure fun m _ => R.value_column m place

variable {invoke : List Step → Eval Unit}

/-- What a function does. A function of a script does what the steps of its body do. -/
theorem confined_apply (hinv : ConfinedCalls R invoke) (h : ∀ v ∈ args, R.value n v)
    (f : Function) : Confined R n R.value (apply invoke args f) := by
  cases f with
  | script place =>
    refine Confined.session.bind fun m s _ hs => ?_
    refine ((hinv _ (hs.2.bodies place)).later (Nat.zero_le m)).bind fun _ _ _ _ => ?_
    exact .pure fun m _ => R.value_nil m
  | print => exact .pure fun m _ => R.value_nil m
  | factory tag =>
    refine (confined_arguments {} args).bind fun _ a _ _ => .make fun s _ _ => ?_
    exact ⟨.newColumn _, R.value_column _ _⟩
  | column =>
    refine (confined_arguments {} args).bind fun _ a _ _ => .make fun s _ _ => ?_
    exact ⟨.newColumn _, R.value_column _ _⟩
  | statement op =>
    refine Confined.get.bind fun _ i _ _ => (confined_statement _ op args).bind fun _ sql _ _ => ?_
    exact .pure fun m _ => R.value_ofString m sql
  | comment =>
    refine (confined_textArgument _).bind fun _ text _ _ => ?_
    exact .pure fun m _ => R.value_ofString m _
  | connection =>
    simp only [apply]
    split
    · exact confined_connect _
    · exact (confined_textArgument _).bind fun _ name _ _ => confined_connect name
  | log level =>
    refine (confined_arguments {} args).bind fun _ a _ _ => ?_
    refine (Confined.update fun s _ => .addEvent _).bind fun _ _ _ _ => ?_
    exact .pure fun m _ => R.value_nil m
  | setColumn setter => exact confined_setColumn setter args
  | columnCategory =>
    refine (confined_columnSelf args).bind fun _ _ _ _ => ?_
    exact .pure fun m _ => R.value_ofString m _
  | connectionStatement op =>
    refine (confined_connectionSelf args).bind fun _ c _ _ => ?_
    refine (confined_statement _ op _).bind fun _ sql _ _ => ?_
    exact .pure fun m _ => R.value_ofString m sql
  | connectionName =>
    refine (confined_connectionSelf args).bind fun _ c _ _ => ?_
    exact .pure fun m _ => R.value_ofString m _
  | bufferWrite =>
    refine (confined_bufferSelf h).bind fun _ id _ hid => ?_
    refine (confined_textArgument _).bind fun _ text hm _ => ?_
    refine (Confined.update fun s hs => ?_).bind fun _ _ _ _ => .pure fun m _ => R.value_nil m
    exact .write (R.value_mono (Nat.le_trans hm hs) hid) text
  | bufferString =>
    refine (confined_bufferSelf h).bind fun _ id _ _ => Confined.session.bind fun _ s _ _ => ?_
    exact .pure fun m _ => R.value_ofString m _
  | bufferReset =>
    refine (confined_bufferSelf h).bind fun _ id _ hid => ?_
    refine (Confined.update fun s hs => ?_).bind fun _ _ _ _ => .pure fun m _ => R.value_nil m
    exact .reset (R.value_mono hs hid)
  | bufferLen =>
    refine (confined_bufferSelf h).bind fun _ id _ _ => Confined.session.bind fun _ s _ _ => ?_
    exact .pure fun m _ => R.value_int m _

theorem confined_call (hinv : ConfinedCalls R invoke) (h : ∀ v ∈ args, R.value n v)
    (f : ScriptValue) : Confined R n R.value (call invoke f args) := by
  unfold call
  split
  · exact confined_apply hinv h _
  · exact .throw _

end Functions

/-! ## Members, tables and variables -/

section Members

variable {R : Reach} {n : Nat}

/-- Whatever a script takes a member of, the member is in reach. -/
theorem confined_member (v : ScriptValue) (name : String) :
    Confined R n R.value (member v name) := by
  unfold member
  split
  · refine Confined.session.bind fun m s _ hs => .pure fun k hk => ?_
    exact R.value_mono (hs.1 ▸ hk) ((hs.2.tables _).get (R.value_nil _) _)
  · exact .pure fun m _ => R.value_ofOption_function m _
  · exact .pure fun m _ => R.value_ofOption_function m _
  · exact .pure fun m _ => R.value_ofOption_function m _
  · exact .pure fun m _ => R.value_nil m
  · exact .throw _

theorem confined_setEntry {t : Table} (ht : t.Within R n) (key : ScriptValue)
    {value : ScriptValue} (hv : R.value n value) :
    Confined R n (fun m t => t.Within R m) (setEntry t key value) := by
  unfold setEntry
  split
  · exact .pure fun m hm => Table.Within.later hm (ht.set _ hv)
  · exact .throw _

theorem confined_tableOf {entries : List (ScriptValue × ScriptValue)}
    (h : ∀ kv ∈ entries, R.value n kv.2) {t : Table} (ht : t.Within R n) :
    Confined R n (fun m t => t.Within R m) (tableOf entries t) := by
  induction entries generalizing n t with
  | nil => exact .pure fun m hm => ht.later hm
  | cons kv entries ih =>
    obtain ⟨hkv, hrest⟩ := List.forall_mem_cons.1 h
    refine (confined_setEntry ht kv.1 hkv).bind fun m t hm ht => ?_
    exact ih (fun kv hkv => R.value_mono hm (hrest kv hkv)) ht

theorem confined_put {table value : ScriptValue} (ht : R.value n table) (key : ScriptValue)
    (hv : R.value n value) : Confined R n Anything (put table key value) := by
  unfold put
  split
  · next place =>
    refine Confined.session.bind fun m s hm hs => ?_
    have hentry := confined_setEntry (hs.1 ▸ hs.2.tables place) key (R.value_mono hm hv)
    refine hentry.bind fun k t hk h => .update fun s hs => ?_
    exact .setTable (R.value_mono (by omega) ht) (h.later hs)
  · exact .throw _

theorem confined_keep (target : Option String) {v : ScriptValue} (hv : R.value n v) :
    Confined R n R.value (keep target v) := by
  cases target with
  | none => exact .pure fun m hm => R.value_mono hm hv
  | some name =>
    refine (Confined.update fun s hs => .setVar name (R.value_mono hs hv)).bind fun _ _ hm _ => ?_
    exact .pure fun k hk => R.value_mono (Nat.le_trans hm hk) hv

theorem confined_successor (v : ScriptValue) : Confined R n R.value (successor v) := by
  unfold successor
  split
  · exact .pure fun m _ => R.value_int m 1
  · exact .pure fun m _ => R.value_int m 1
  · exact .pure fun m _ => R.value_int m _
  · exact .pure fun m _ => R.value_float m _
  · dsimp only
    split
    · exact .pure fun m _ => R.value_int m _
    · split
      · exact .pure fun m _ => R.value_float m _
      · exact .throw _
    · exact .throw _
  · exact .throw _

theorem confined_describe (v : ScriptValue) : Confined R n R.value (describe v) := by
  refine Confined.session.bind fun _ s _ _ => ?_
  cases v <;> exact .pure (by simp)

end Members

end Eval

open Eval

/-! ## Terms and steps -/

section Terms

variable {R : Reach} {invoke : List Step → Eval Unit}

mutual

/-- What a term does. -/
theorem Term.confined_eval {n : Nat} (hinv : ConfinedCalls R invoke) (t : Term)
    (h : ∀ name ∈ t.globals, R.name name) : Confined R n R.value (t.eval invoke) := by
  cases t with
  | nil => exact .pure fun m _ => R.value_nil m
  | bool b => exact .pure fun m _ => R.value_bool m b
  | int i => exact .pure fun m _ => R.value_int m i
  | float x => exact .pure fun m _ => R.value_float m x
  | text s => exact .pure fun m _ => R.value_text m s
  | function =>
    rw [Term.eval]
    exact .make fun s _ _ => ⟨.newFunction (by simp [stepGlobals]), R.value_function _ _⟩
  | var name =>
    refine Confined.session.bind fun m s _ hs => .pure fun k hk => ?_
    exact R.value_mono (hs.1 ▸ hk) (hs.2.vars name)
  | global name =>
    have hname : R.name name := h name (by simp [Term.globals])
    refine Confined.session.bind fun m s _ hs => .pure fun k hk => ?_
    exact R.value_mono (hs.1 ▸ hk) (hs.2.globals name hname)
  | array items =>
    refine (confined_evalItems hinv items h).bind fun m vs _ hvs => .make fun s hm hs => ?_
    exact confined_newTable (Table.Within.later hm (Table.values_ofItems hvs)) hs
  | table entries =>
    refine (confined_evalEntries hinv entries h).bind fun m kvs _ hkvs => ?_
    refine (confined_tableOf hkvs Table.values_nil).bind fun m t _ ht => .make fun s hm hs => ?_
    exact confined_newTable (ht.later hm) hs
  | column factory args settings =>
    obtain ⟨hargs, hsettings⟩ := List.forall_mem_append.1 h
    refine Confined.session.bind fun _ s _ _ => (confined_member _ factory).bind fun _ f _ _ => ?_
    refine (confined_evalItems hinv args hargs).bind fun _ vs _ hvs => ?_
    refine (confined_call hinv hvs f).bind fun _ v _ hv => ?_
    exact confined_evalSettings hinv settings hsettings hv

theorem confined_evalItems {n : Nat} (hinv : ConfinedCalls R invoke) (ts : List Term)
    (h : ∀ name ∈ itemGlobals ts, R.name name) :
    Confined R n (fun m vs => ∀ v ∈ vs, R.value m v) (evalItems invoke ts) := by
  cases ts with
  | nil => exact .pure fun _ _ => by simp
  | cons t ts =>
    obtain ⟨ht, hts⟩ := List.forall_mem_append.1 h
    refine (t.confined_eval hinv ht).bind fun _ v _ hv => ?_
    refine (confined_evalItems hinv ts hts).bind fun _ vs hm hvs => .pure fun m hk => ?_
    refine List.forall_mem_cons.2 ⟨R.value_mono (Nat.le_trans hm hk) hv, fun w hw => ?_⟩
    exact R.value_mono hk (hvs w hw)

theorem confined_evalEntries {n : Nat} (hinv : ConfinedCalls R invoke)
    (entries : List (Term × Term)) (h : ∀ name ∈ entryGlobals entries, R.name name) :
    Confined R n (fun m kvs => ∀ kv ∈ kvs, R.value m kv.2) (evalEntries invoke entries) := by
  cases entries with
  | nil => exact .pure fun _ _ => by simp
  | cons entry entries =>
    obtain ⟨key, value⟩ := entry
    obtain ⟨hentry, hrest⟩ := List.forall_mem_append.1 h
    obtain ⟨hkey, hvalue⟩ := List.forall_mem_append.1 hentry
    refine (key.confined_eval hinv hkey).bind fun _ k _ _ => ?_
    refine (value.confined_eval hinv hvalue).bind fun _ v _ hv => ?_
    refine (confined_evalEntries hinv entries hrest).bind fun _ kvs hm hkvs => .pure fun m hk => ?_
    refine List.forall_mem_cons.2 ⟨R.value_mono (Nat.le_trans hm hk) hv, fun kv hkv => ?_⟩
    exact R.value_mono hk (hkvs kv hkv)

theorem confined_evalSettings {n : Nat} (hinv : ConfinedCalls R invoke)
    (settings : List (String × List Term)) (h : ∀ name ∈ settingGlobals settings, R.name name)
    {v : ScriptValue} (hv : R.value n v) :
    Confined R n R.value (evalSettings invoke v settings) := by
  cases settings with
  | nil => exact .pure fun m hm => R.value_mono hm hv
  | cons setting settings =>
    obtain ⟨name, args⟩ := setting
    obtain ⟨hargs, hrest⟩ := List.forall_mem_append.1 h
    refine (confined_member v name).bind fun _ f hm _ => ?_
    refine (confined_evalItems hinv args hargs).bind fun _ vs hk hvs => ?_
    have hself := R.value_mono (Nat.le_trans hm hk) hv
    refine (confined_call hinv (List.forall_mem_cons.2 ⟨hself, hvs⟩) f).bind fun _ r _ hr => ?_
    exact confined_evalSettings hinv settings hrest hr

end

mutual

/-- What a step does. -/
theorem Step.confined_eval {n : Nat} (hinv : ConfinedCalls R invoke) (s : Step)
    (h : ∀ name ∈ s.globals, R.name name) : Confined R n R.value (s.eval invoke) := by
  cases s with
  | call function args target =>
    refine Confined.session.bind fun _ s _ _ => (confined_member _ function).bind fun _ f _ _ => ?_
    refine (confined_evalItems hinv args h).bind fun _ vs _ hvs => ?_
    exact (confined_call hinv hvs f).bind fun _ r _ hr => confined_keep target hr
  | method name on args target =>
    obtain ⟨hon, hargs⟩ := List.forall_mem_append.1 h
    refine (on.confined_eval hinv hon).bind fun _ v _ hv => ?_
    refine (confined_member v name).bind fun _ f hm _ => ?_
    refine (confined_evalItems hinv args hargs).bind fun _ vs hk hvs => ?_
    have hself := R.value_mono (Nat.le_trans hm hk) hv
    refine (confined_call hinv (List.forall_mem_cons.2 ⟨hself, hvs⟩) f).bind fun _ r _ hr => ?_
    exact confined_keep target hr
  | member name on args target =>
    obtain ⟨hon, hargs⟩ := List.forall_mem_append.1 h
    refine (on.confined_eval hinv hon).bind fun _ v _ _ => ?_
    refine (confined_member v name).bind fun _ f _ _ => ?_
    refine (confined_evalItems hinv args hargs).bind fun _ vs _ hvs => ?_
    exact (confined_call hinv hvs f).bind fun _ r _ hr => confined_keep target hr
  | value term target =>
    exact (term.confined_eval hinv h).bind fun _ v _ hv => confined_keep target hv
  | setGlobal name term =>
    obtain ⟨hname, hterm⟩ := List.forall_mem_cons.1 h
    refine (term.confined_eval hinv hterm).bind fun _ v _ hv => ?_
    refine (Confined.update fun s hs => .setGlobal hname (R.value_mono hs hv)).bind ?_
    exact fun _ _ _ _ => .pure fun m _ => R.value_nil m
  | guardGlobals =>
    exact (Confined.update fun _ _ => .guardGlobals).bind fun _ _ _ _ =>
      .pure fun m _ => R.value_nil m
  | put table key value =>
    obtain ⟨hboth, hvalue⟩ := List.forall_mem_append.1 h
    obtain ⟨htable, hkey⟩ := List.forall_mem_append.1 hboth
    refine (table.confined_eval hinv htable).bind fun _ t _ ht => ?_
    refine (key.confined_eval hinv hkey).bind fun _ k hm _ => ?_
    refine (value.confined_eval hinv hvalue).bind fun _ v hn hv => ?_
    refine (confined_put (R.value_mono (Nat.le_trans hm hn) ht) k hv).bind fun _ _ _ _ => ?_
    exact .pure fun m _ => R.value_nil m
  | increment name =>
    refine Confined.session.bind fun _ s _ _ => ?_
    exact (confined_successor _).bind fun _ v _ hv => confined_keep (some name) hv
  | describe term => exact (term.confined_eval hinv h).bind fun _ v _ _ => confined_describe v
  | log level args =>
    refine Confined.session.bind fun _ s _ _ => (confined_member _ level).bind fun _ f _ _ => ?_
    refine (confined_evalItems hinv args h).bind fun _ vs _ hvs => ?_
    exact (confined_call hinv hvs f).bind fun _ _ _ _ => .pure fun m _ => R.value_nil m
  | fail message => exact .throw _
  | attempt steps =>
    refine .tryCatch ?_ fun _ => .pure fun m _ => R.value_bool m false
    refine (confined_evalSteps hinv steps h).bind fun _ _ _ _ => ?_
    exact .pure fun m _ => R.value_bool m true

/-- What steps do. -/
theorem confined_evalSteps {n : Nat} (hinv : ConfinedCalls R invoke) (ss : List Step)
    (h : ∀ name ∈ stepGlobals ss, R.name name) :
    Confined R n Anything (evalSteps invoke ss) := by
  cases ss with
  | nil => exact .pure fun _ _ => trivial
  | cons s ss =>
    obtain ⟨hs, hss⟩ := List.forall_mem_append.1 h
    exact (s.confined_eval hinv hs).bind fun _ _ _ _ => confined_evalSteps hinv ss hss

end

end Terms

/-! ## Scripts -/

namespace Eval

variable {R : Reach} {n : Nat}

/-- What a function's body does, however many calls are left. -/
theorem confinedCalls_invoke (R : Reach) (calls : Nat) : ConfinedCalls R (invoke calls) := by
  induction calls with
  | zero => exact fun _ _ => .throw _
  | succ calls ih => exact fun body h => confined_evalSteps ih body h

theorem confined_steps {ss : List Step} (h : ∀ name ∈ stepGlobals ss, R.name name) :
    Confined R n Anything (steps ss) :=
  confined_evalSteps (confinedCalls_invoke R maxCalls) ss h

theorem confined_term {t : Term} (h : ∀ name ∈ t.globals, R.name name) :
    Confined R n R.value (term t) :=
  t.confined_eval (confinedCalls_invoke R maxCalls) h

theorem confined_entry {e : Entry} (h : ∀ name ∈ e.globals, R.name name) :
    Confined R n R.value (entry e) := by
  cases e with
  | function body =>
    rw [entry]
    exact .make fun s _ _ => ⟨.newFunction h, R.value_function _ _⟩
  | value t => exact confined_term h

theorem confined_entries {es : List (String × Entry)}
    (h : ∀ e ∈ es, ∀ name ∈ e.2.globals, R.name name) {t : Table} (ht : t.Within R n) :
    Confined R n (fun m t => t.Within R m) (entries es t) := by
  induction es generalizing n t with
  | nil => exact .pure fun m hm => ht.later hm
  | cons e es ih =>
    obtain ⟨he, hrest⟩ := List.forall_mem_cons.1 h
    exact (confined_entry he).bind fun m v hm hv => ih hrest ((ht.later hm).set _ hv)

theorem confined_publish {v : ScriptValue} (hv : R.value n v) {name? : Option String}
    (h : ∀ name, name? = some name → R.name name) :
    Confined R n Anything (publish v name?) := by
  cases name? with
  | none => exact .pure fun _ _ => trivial
  | some name => exact .update fun s hs => .setGlobal (h name rfl) (R.value_mono hs hv)

theorem confined_answer {v : ScriptValue} (hv : R.value n v) {a : Answer}
    (h : ∀ name ∈ a.globals, R.name name) : Confined R n R.value (answer v a) := by
  cases a with
  | entries => exact .pure fun m hm => R.value_mono hm hv
  | nothing => exact .pure fun m _ => R.value_nil m
  | value t => exact confined_term h

/-- What calling a function does. -/
theorem confined_run (f : Function) : Confined R n R.value (apply (invoke maxCalls) [] f) :=
  confined_apply (confinedCalls_invoke R maxCalls) (by simp) f

/-- What a script does. -/
theorem confined_script {s : Script} (h : ∀ name ∈ s.globals, R.name name)
    (hp : ∀ name, s.publishes? = some name → R.name name) :
    Confined R n R.value (script s) := by
  cases s with
  | empty => exact .pure fun m _ => R.value_nil m
  | malformed => exact .throw _
  | program p =>
    obtain ⟨hboth, hanswer⟩ := List.forall_mem_append.1 h
    obtain ⟨hentries, htop⟩ := List.forall_mem_append.1 hboth
    have hentries : ∀ e ∈ p.entries, ∀ name ∈ e.2.globals, R.name name :=
      fun e he name hn => hentries name (List.mem_flatMap.2 ⟨e, he, hn⟩)
    refine (confined_entries hentries Table.values_nil).bind fun m t _ ht => ?_
    have hmake : Confined R m R.value (make (·.newTable t)) :=
      .make fun s hs hclean => confined_newTable (ht.later hs) hclean
    refine hmake.bind fun _ v _ hv => (confined_steps htop).bind fun _ _ hm _ => ?_
    have hv := R.value_mono hm hv
    refine (confined_publish hv hp).bind fun _ _ hm _ => ?_
    exact confined_answer (R.value_mono hm hv) hanswer

end Eval

end SchemaMigration
