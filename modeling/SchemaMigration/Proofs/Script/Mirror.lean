import SchemaMigration.Proofs.Script.Confinement

/-!
# Scripts in two sessions

Two sessions may differ in their names, in what their global names hold and in their buffers, and
still look the same to scripts that are confined to a reach. What a relation of the two must satisfy
for that is said here once: a script then does the same in both sessions, and they stay in the
relation.

## Main definitions

* `Outlets` — the name, the global names and the buffers of a session.
* `Mirror` — relations that scripts within a reach cannot tell from equality.
* `Eval.Mirrored` — computations that do the same in both sessions.
* `Eval.mirrored_script` — scripts are such computations.
-/

namespace SchemaMigration

/-! ## Outlets -/

/-- The parts of a session by which its statements leave it, and its name, which scripts never
see. -/
structure Outlets where
  name : String
  globals : Dict ScriptValue
  buffers : BufferStore

namespace Outlets

def global (o : Outlets) (name : String) : ScriptValue := .ofOption (o.globals.get? name)

/-- Holds if a global name can be set in a session that may be guarded. -/
def canSet (o : Outlets) (guarded : Bool) (name : String) : Bool :=
  !guarded || o.global name ≠ .nil

def setGlobal (o : Outlets) (guarded : Bool) (name : String) (v : ScriptValue) : Outlets :=
  { o with globals := if o.canSet guarded name then o.globals.insert name v else o.globals }

/-- Lets statements go to a buffer, if the name for it can be set. -/
def install (o : Outlets) (guarded : Bool) (id : BufferId) : Outlets :=
  o.setGlobal guarded Session.bufferGlobal (.buffer id)

def modify (o : Outlets) (id : BufferId) (f : String → String) : Outlets :=
  { o with buffers := o.buffers.modify id f }

def registered? (o : Outlets) : Option BufferId :=
  match o.global Session.bufferGlobal with
  | .buffer id => some id
  | _ => none

@[simp] theorem global_setGlobal (o : Outlets) (guarded : Bool) (name other : String)
    (v : ScriptValue) :
    (o.setGlobal guarded name v).global other =
      if o.canSet guarded name ∧ name = other then v else o.global other := by
  simp only [global, setGlobal]
  cases o.canSet guarded name with
  | true =>
    simp only [if_true, Dict.get?_insert, true_and]
    split <;> rfl
  | false => simp

theorem canSet_congr {o o' : Outlets} {name : String} (h : o'.global name = o.global name)
    (guarded : Bool) : o'.canSet guarded name = o.canSet guarded name := by
  simp only [canSet, h]

theorem globals_setGlobal_congr {o o' : Outlets} (h : o'.globals = o.globals) (guarded : Bool)
    (name : String) (v : ScriptValue) :
    (o'.setGlobal guarded name v).globals = (o.setGlobal guarded name v).globals := by
  have hset : o'.canSet guarded name = o.canSet guarded name :=
    canSet_congr (by rw [global, h, global]) guarded
  simp only [setGlobal, hset, h]

end Outlets

def Session.outlets (s : Session) : Outlets := ⟨s.name, s.globals, s.buffers⟩

def Session.withOutlets (s : Session) (o : Outlets) : Session :=
  { s with name := o.name, globals := o.globals, buffers := o.buffers }

def Interpreter.withOutlets (i : Interpreter) (o : Outlets) : Interpreter :=
  { i with session := i.session.withOutlets o }

/-- A relation of outlets that scripts within a reach cannot tell from equality. The buffers that
statements go to may be different ones. -/
structure Mirror (R : Reach) where
  Rel : Outlets → Outlets → Prop
  /-- Scripts may use the modules. -/
  migrate : R.name Session.migrateGlobal
  logger : R.name Session.loggerGlobal
  global : ∀ {o o' name}, Rel o o' → R.name name → o'.global name = o.global name
  /-- A name out of reach holds the same table in both, if any. -/
  table : ∀ {o o' name place}, Rel o o' →
    (o'.global name = .table place ↔ o.global name = .table place)
  setGlobal : ∀ {o o' guarded name v}, Rel o o' → R.name name →
    Rel (o.setGlobal guarded name v) (o'.setGlobal guarded name v)
  text : ∀ {o o' n id}, Rel o o' → R.value n (.buffer id) → o'.buffers.text id = o.buffers.text id
  modify : ∀ {o o' n id f}, Rel o o' → R.value n (.buffer id) →
    Rel (o.modify id f) (o'.modify id f)
  registered : ∀ {o o'}, Rel o o' →
    o.registered? = none ∧ o'.registered? = none ∨
      ∃ id id', o.registered? = some id ∧ o'.registered? = some id' ∧
        ∀ f, Rel (o.modify id f) (o'.modify id' f)

/-! ## Conversion -/

theorem Session.arguments_withOutlets (s : Session) (o : Outlets) (q : Quoter)
    (hidden : Option Nat) (args : List ScriptValue) :
    (s.withOutlets o).arguments q hidden args = s.arguments q hidden args :=
  Session.arguments_congr rfl rfl rfl

namespace Eval

/-! ## Mirrored computations -/

section Mirrored

variable {R : Reach} {M : Mirror R} {n : Nat} {α β : Type} {P : Nat → α → Prop}

/-- A computation that does the same in sessions with related outlets, and keeps these related. What
it was given it got while the session had `n` tables. -/
def Mirrored (M : Mirror R) (n : Nat) (x : Eval α) : Prop :=
  ∀ (i : Interpreter) (o : Outlets), n ≤ i.session.tables.size → i.session.Clean R →
    M.Rel i.session.outlets o →
    ∃ o', runIn (i.withOutlets o) x = ((runIn i x).1, (runIn i x).2.withOutlets o') ∧
      M.Rel (runIn i x).2.session.outlets o'

/-- Holds if calling functions of scripts is mirrored. -/
def MirroredCalls (M : Mirror R) (invoke : List Step → Eval Unit) : Prop :=
  ∀ body, (∀ name ∈ stepGlobals body, R.name name) → Mirrored M 0 (invoke body)

namespace Mirrored

theorem pure (a : α) : Mirrored M n (Pure.pure a) := fun _ o _ _ ho => ⟨o, rfl, ho⟩

theorem throw (e : ScriptFault) : Mirrored M n (MonadExcept.throw e : Eval α) :=
  fun _ o _ _ ho => ⟨o, rfl, ho⟩

theorem bind {x : Eval α} {f : α → Eval β} (hx : Mirrored M n x) (hc : Confined R n P x)
    (hf : ∀ m a, n ≤ m → P m a → Mirrored M m (f a)) : Mirrored M n (x >>= f) := by
  intro i o hn hi ho
  obtain ⟨o', he, ho'⟩ := hx i o hn hi ho
  obtain ⟨hchanges, hP⟩ := hc i hn hi
  rw [runIn_bind, runIn_bind, he]
  generalize runIn i x = r at ho' hchanges hP
  obtain ⟨r, j⟩ := r
  cases r with
  | error e => exact ⟨o', rfl, ho'⟩
  | ok a =>
    have hm : n ≤ j.session.tables.size := Nat.le_trans hn hchanges.size_le
    exact hf _ a hm (hP a rfl) j o' (Nat.le_refl _) (hchanges.clean hi) ho'

theorem tryCatch {x : Eval α} {handle : ScriptFault → Eval α} (hx : Mirrored M n x)
    (hc : Confined R n P x) (hh : ∀ e, Mirrored M n (handle e)) :
    Mirrored M n (MonadExcept.tryCatch x handle) := by
  intro i o hn hi ho
  obtain ⟨o', he, ho'⟩ := hx i o hn hi ho
  obtain ⟨hchanges, -⟩ := hc i hn hi
  rw [runIn_tryCatch, runIn_tryCatch, he]
  generalize runIn i x = r at ho' hchanges
  obtain ⟨r, j⟩ := r
  cases r with
  | ok a => exact ⟨o', rfl, ho'⟩
  | error e => exact hh e j o' (Nat.le_trans hn hchanges.size_le) (hchanges.clean hi) ho'

/-- A computation may start with more tables. -/
theorem later {m : Nat} {x : Eval α} (h : Mirrored M n x) (hm : n ≤ m) : Mirrored M m x :=
  fun i o hi => h i o (Nat.le_trans hm hi)

/-- Reading the session, but not its outlets. -/
theorem session {f : Session → Eval α} (h : ∀ s o, f (s.withOutlets o) = f s)
    (hf : ∀ s, n ≤ s.tables.size → s.Clean R → Mirrored M s.tables.size (f s)) :
    Mirrored M n (Eval.session >>= f) := by
  intro i o hn hi ho
  obtain ⟨o', he, ho'⟩ := hf i.session hn hi i o (Nat.le_refl _) hi ho
  refine ⟨o', ?_, ho'⟩
  rw [runIn_bind, runIn_bind]
  exact (congrArg (runIn (i.withOutlets o)) (h i.session o)).trans he

/-- Reading a global name. -/
theorem global {name : String} (hname : R.name name) {f : ScriptValue → Eval α}
    (hf : ∀ v, Mirrored M n (f v)) :
    Mirrored M n (Eval.session >>= fun s => f (s.global name)) := by
  intro i o hn hi ho
  obtain ⟨o', he, ho'⟩ := hf (i.session.global name) i o hn hi ho
  refine ⟨o', ?_, ho'⟩
  rw [runIn_bind, runIn_bind]
  exact (congrArg (fun v => runIn (i.withOutlets o) (f v)) (M.global ho hname)).trans he

/-- Reading a buffer in reach. -/
theorem text {id : BufferId} {m : Nat} (hid : R.value m (.buffer id)) {f : String → Eval α}
    (hf : ∀ text, Mirrored M n (f text)) :
    Mirrored M n (Eval.session >>= fun s => f (s.buffers.text id)) := by
  intro i o hn hi ho
  obtain ⟨o', he, ho'⟩ := hf (i.session.buffers.text id) i o hn hi ho
  refine ⟨o', ?_, ho'⟩
  rw [runIn_bind, runIn_bind]
  exact (congrArg (fun text => runIn (i.withOutlets o) (f text)) (M.text ho hid)).trans he

theorem get {f : Interpreter → Eval α} (h : ∀ i o, f (i.withOutlets o) = f i)
    (hf : ∀ i, Mirrored M n (f i)) : Mirrored M n (MonadState.get >>= f) := by
  intro i o hn hi ho
  obtain ⟨o', he, ho'⟩ := hf i i o hn hi ho
  refine ⟨o', ?_, ho'⟩
  rw [runIn_bind, runIn_bind]
  exact (congrArg (runIn (i.withOutlets o)) (h i o)).trans he

/-- Changing the session, but not its outlets. -/
theorem update {f : Session → Session} (houtlets : ∀ s, (f s).outlets = s.outlets)
    (h : ∀ s o, f (s.withOutlets o) = (f s).withOutlets o) : Mirrored M n (Eval.update f) := by
  intro i o _ _ ho
  refine ⟨o, ?_, ?_⟩
  · exact congrArg (fun s => (Except.ok (), { i with session := s })) (h i.session o)
  · simpa [houtlets] using ho

theorem make {f : Session → α × Session} (houtlets : ∀ s, (f s).2.outlets = s.outlets)
    (h : ∀ s o, f (s.withOutlets o) = ((f s).1, (f s).2.withOutlets o)) :
    Mirrored M n (Eval.make f) := by
  intro i o _ _ ho
  refine ⟨o, ?_, ?_⟩
  · exact congrArg (fun r => (Except.ok r.1, { i with session := r.2 })) (h i.session o)
  · simpa [houtlets] using ho

/-- Setting a global name in reach. -/
theorem setGlobal {name : String} (hname : R.name name) (v : ScriptValue) :
    Mirrored M n (Eval.update (·.setGlobal name v)) :=
  fun _ _ _ _ ho => ⟨_, rfl, M.setGlobal ho hname⟩

/-- Changing a buffer in reach. -/
theorem modify {id : BufferId} {m : Nat} (hid : R.value m (.buffer id)) (f : String → String) :
    Mirrored M n (Eval.update (·.updateBuffers (·.modify id f))) :=
  fun _ _ _ _ ho => ⟨_, rfl, M.modify ho hid⟩

end Mirrored

end Mirrored

/-! ## Functions -/

section Functions

variable {R : Reach} {M : Mirror R} {n : Nat} {args : List ScriptValue}

theorem mirrored_arguments (q : Quoter) (args : List ScriptValue) :
    Mirrored M n (arguments q args) :=
  .session (fun s o => by rw [s.arguments_withOutlets]) fun _ _ _ => .pure _

/-- A statement is added to a buffer in both sessions, or in none. -/
theorem mirrored_statement (b : StatementBuilder) (op : Operation) (args : List ScriptValue) :
    Mirrored M n (statement b op args) := by
  intro i o _ _ ho
  have hargs := i.session.arguments_withOutlets o b.quoter none args
  have hsession : (i.withOutlets o).session = i.session.withOutlets o := rfl
  simp only [statement, runIn_bind, runIn_session, hsession, hargs]
  rcases M.registered ho with ⟨hid, hid'⟩ | ⟨id, id', hid, hid', hmodify⟩
  · have hid : i.session.registered? = none := hid
    have hid' : (i.session.withOutlets o).registered? = none := hid'
    rw [hid, hid']
    exact ⟨o, rfl, ho⟩
  · have hid : i.session.registered? = some id := hid
    have hid' : (i.session.withOutlets o).registered? = some id' := hid'
    rw [hid, hid']
    dsimp only
    split
    · exact ⟨o, rfl, ho⟩
    · split
      · exact ⟨o, rfl, ho⟩
      · exact ⟨_, rfl, hmodify _⟩

theorem mirrored_textArgument (v : ScriptValue) : Mirrored M n (textArgument v) := by
  unfold textArgument
  split
  · exact .pure _
  · exact .pure _
  · exact .pure _
  · exact .throw _

theorem mirrored_connect (name : String) : Mirrored M n (connect name) := by
  intro i o _ _ ho
  have hcontext : (i.withOutlets o).context = i.context := rfl
  simp only [connect, runIn_bind, runIn_get, hcontext]
  split
  · exact ⟨o, rfl, ho⟩
  · exact ⟨o, rfl, ho⟩

theorem mirrored_columnSelf (args : List ScriptValue) : Mirrored M n (columnSelf args) := by
  unfold columnSelf
  split
  · refine .session (fun _ _ => rfl) fun s _ _ => ?_
    split
    · exact .pure _
    · exact .throw _
  · exact .throw _

theorem mirrored_connectionSelf (args : List ScriptValue) :
    Mirrored M n (connectionSelf args) := by
  unfold connectionSelf
  split
  · refine .session (fun _ _ => rfl) fun s _ _ => ?_
    split
    · exact .pure _
    · exact .throw _
  · exact .throw _

theorem mirrored_bufferSelf (args : List ScriptValue) : Mirrored M n (bufferSelf args) := by
  unfold bufferSelf
  split
  · exact .pure _
  · exact .throw _

theorem mirrored_setColumn (setter : Setter) (args : List ScriptValue) :
    Mirrored M n (setColumn setter args) := by
  refine (mirrored_columnSelf args).bind (confined_columnSelf args) fun _ (place, c) _ _ => ?_
  refine .session (fun s o => by rw [s.arguments_withOutlets]) fun s _ _ => ?_
  refine Mirrored.bind (.update (fun _ => rfl) fun _ _ => rfl)
    (.update fun s _ => .setColumn place _) fun _ _ _ _ => ?_
  exact .pure _

variable {invoke : List Step → Eval Unit}

/-- A function does the same in both sessions, as its arguments are in reach. -/
theorem mirrored_apply (hinv : ConfinedCalls R invoke) (hmirror : MirroredCalls M invoke)
    (h : ∀ v ∈ args, R.value n v) (f : Function) : Mirrored M n (apply invoke args f) := by
  cases f with
  | script place =>
    refine .session (fun _ _ => rfl) fun s _ hs => ?_
    have hbody := hs.bodies place
    exact ((hmirror _ hbody).later (Nat.zero_le _)).bind ((hinv _ hbody).later (Nat.zero_le _))
      fun _ _ _ _ => .pure _
  | print => exact .pure _
  | factory tag =>
    refine (mirrored_arguments {} args).bind (confined_arguments {} args) fun _ a _ _ => ?_
    exact .make (fun _ => rfl) fun _ _ => rfl
  | column =>
    refine (mirrored_arguments {} args).bind (confined_arguments {} args) fun _ a _ _ => ?_
    exact .make (fun _ => rfl) fun _ _ => rfl
  | statement op =>
    refine .get (fun _ _ => rfl) fun i => ?_
    exact (mirrored_statement _ op args).bind (confined_statement _ op args) fun _ _ _ _ => .pure _
  | comment =>
    exact (mirrored_textArgument _).bind (confined_textArgument _) fun _ _ _ _ => .pure _
  | connection =>
    simp only [apply]
    split
    · exact mirrored_connect _
    · exact (mirrored_textArgument _).bind (confined_textArgument _) fun _ name _ _ =>
        mirrored_connect name
  | log level =>
    refine (mirrored_arguments {} args).bind (confined_arguments {} args) fun _ a _ _ => ?_
    exact Mirrored.bind (.update (fun _ => rfl) fun _ _ => rfl) (.update fun s _ => .addEvent _)
      fun _ _ _ _ => .pure _
  | setColumn setter => exact mirrored_setColumn setter args
  | columnCategory =>
    exact (mirrored_columnSelf args).bind (confined_columnSelf args) fun _ _ _ _ => .pure _
  | connectionStatement op =>
    refine (mirrored_connectionSelf args).bind (confined_connectionSelf args) fun _ c _ _ => ?_
    exact (mirrored_statement _ op _).bind (confined_statement _ op _) fun _ _ _ _ => .pure _
  | connectionName =>
    exact (mirrored_connectionSelf args).bind (confined_connectionSelf args) fun _ _ _ _ => .pure _
  | bufferWrite =>
    refine (mirrored_bufferSelf args).bind (confined_bufferSelf h) fun _ id _ hid => ?_
    refine (mirrored_textArgument _).bind (confined_textArgument _) fun _ text hm _ => ?_
    refine Mirrored.bind (.modify hid (· ++ text))
      (.update fun s hs => .write (R.value_mono (Nat.le_trans hm hs) hid) text) ?_
    exact fun _ _ _ _ => .pure _
  | bufferString =>
    refine (mirrored_bufferSelf args).bind (confined_bufferSelf h) fun _ id _ hid => ?_
    exact .text (f := fun text => Pure.pure (ScriptValue.ofString text)) hid fun _ => .pure _
  | bufferReset =>
    refine (mirrored_bufferSelf args).bind (confined_bufferSelf h) fun _ id _ hid => ?_
    refine Mirrored.bind (.modify hid fun _ => "")
      (.update fun s hs => .reset (R.value_mono hs hid)) ?_
    exact fun _ _ _ _ => .pure _
  | bufferLen =>
    refine (mirrored_bufferSelf args).bind (confined_bufferSelf h) fun _ id _ hid => ?_
    exact .text (f := fun text => Pure.pure (ScriptValue.int text.utf8ByteSize)) hid
      fun _ => .pure _

theorem mirrored_call (hinv : ConfinedCalls R invoke) (hmirror : MirroredCalls M invoke)
    (h : ∀ v ∈ args, R.value n v) (f : ScriptValue) : Mirrored M n (call invoke f args) := by
  unfold call
  split
  · exact mirrored_apply hinv hmirror h _
  · exact .throw _

end Functions

/-! ## Members, tables and variables -/

section Members

variable {R : Reach} {M : Mirror R} {n : Nat}

theorem mirrored_member (v : ScriptValue) (name : String) : Mirrored M n (member v name) := by
  unfold member
  split
  · exact .session (fun _ _ => rfl) fun _ _ _ => .pure _
  · exact .pure _
  · exact .pure _
  · exact .pure _
  · exact .pure _
  · exact .throw _

/-- Taking a member of a module, which a global name holds. -/
theorem mirrored_memberOf {α : Type} {module : String} (hmodule : R.name module) (name : String)
    {f : ScriptValue → Eval α} (hf : ∀ m v, n ≤ m → Mirrored M m (f v)) :
    Mirrored M n (session >>= fun s => member (s.global module) name >>= f) :=
  .global (f := fun v => member v name >>= f) hmodule fun v =>
    (mirrored_member v name).bind (confined_member v name) fun m v hm _ => hf m v hm

theorem mirrored_setEntry (t : Table) (key value : ScriptValue) :
    Mirrored M n (setEntry t key value) := by
  unfold setEntry
  split
  · exact .pure _
  · exact .throw _

theorem mirrored_tableOf {entries : List (ScriptValue × ScriptValue)}
    (h : ∀ kv ∈ entries, R.value n kv.2) {t : Table} (ht : t.Within R n) :
    Mirrored M n (tableOf entries t) := by
  induction entries generalizing n t with
  | nil => exact .pure _
  | cons kv entries ih =>
    obtain ⟨hkv, hrest⟩ := List.forall_mem_cons.1 h
    refine (mirrored_setEntry t kv.1 kv.2).bind (confined_setEntry ht kv.1 hkv) fun _ t hm ht => ?_
    exact ih (fun kv hkv => R.value_mono hm (hrest kv hkv)) ht

theorem mirrored_put (table key : ScriptValue) {value : ScriptValue} (hv : R.value n value) :
    Mirrored M n (put table key value) := by
  unfold put
  split
  · next place =>
    refine .session (fun _ _ => rfl) fun s hn hs => ?_
    have hentry := confined_setEntry (hs.tables place) key (R.value_mono hn hv)
    exact (mirrored_setEntry _ key value).bind hentry fun _ t _ _ =>
      .update (fun _ => rfl) fun _ _ => rfl
  · exact .throw _

theorem mirrored_keep (target : Option String) (v : ScriptValue) :
    Mirrored M n (keep target v) := by
  cases target with
  | none => exact .pure _
  | some name => exact fun _ o _ _ ho => ⟨o, rfl, ho⟩

theorem mirrored_successor (v : ScriptValue) : Mirrored M n (successor v) := by
  unfold successor
  split
  · exact .pure _
  · exact .pure _
  · exact .pure _
  · exact .pure _
  · dsimp only
    split
    · exact .pure _
    · split
      · exact .pure _
      · exact .throw _
    · exact .throw _
  · exact .throw _

theorem mirrored_describe (v : ScriptValue) : Mirrored M n (describe v) := by
  refine .session (fun _ _ => ?_) fun s _ _ => ?_
  · cases v <;> rfl
  · cases v <;> exact .pure _

end Members

end Eval

open Eval

/-! ## Terms and steps -/

section Terms

variable {R : Reach} {M : Mirror R} {invoke : List Step → Eval Unit}

mutual

theorem Term.mirrored_eval {n : Nat} (hinv : ConfinedCalls R invoke)
    (hmirror : MirroredCalls M invoke) (t : Term) (h : ∀ name ∈ t.globals, R.name name) :
    Mirrored M n (t.eval invoke) := by
  cases t with
  | nil | bool | int | float | text => exact .pure _
  | function =>
    rw [Term.eval]
    exact .make (fun _ => rfl) fun _ _ => rfl
  | var name => exact .session (fun _ _ => rfl) fun _ _ _ => .pure _
  | global name => exact .global (h name (by simp [Term.globals])) fun _ => .pure _
  | array items =>
    have hc := confined_evalItems (n := n) hinv items h
    refine (mirrored_evalItems hinv hmirror items h).bind hc fun _ vs _ _ => ?_
    exact .make (fun _ => rfl) fun _ _ => rfl
  | table entries =>
    have hc := confined_evalEntries (n := n) hinv entries h
    refine (mirrored_evalEntries hinv hmirror entries h).bind hc fun _ kvs _ hkvs => ?_
    refine (mirrored_tableOf hkvs Table.values_nil).bind
      (confined_tableOf hkvs Table.values_nil) ?_
    exact fun _ t _ _ => .make (fun _ => rfl) fun _ _ => rfl
  | column factory args settings =>
    obtain ⟨hargs, hsettings⟩ := List.forall_mem_append.1 h
    refine mirrored_memberOf M.migrate factory fun _ f _ => ?_
    refine (mirrored_evalItems hinv hmirror args hargs).bind (confined_evalItems hinv args hargs)
      fun _ vs _ hvs => ?_
    refine (mirrored_call hinv hmirror hvs f).bind (confined_call hinv hvs f) fun _ v _ hv => ?_
    exact mirrored_evalSettings hinv hmirror settings hsettings hv

theorem mirrored_evalItems {n : Nat} (hinv : ConfinedCalls R invoke)
    (hmirror : MirroredCalls M invoke) (ts : List Term)
    (h : ∀ name ∈ itemGlobals ts, R.name name) : Mirrored M n (evalItems invoke ts) := by
  cases ts with
  | nil => exact .pure _
  | cons t ts =>
    obtain ⟨ht, hts⟩ := List.forall_mem_append.1 h
    refine (t.mirrored_eval hinv hmirror ht).bind (t.confined_eval hinv ht) fun _ v _ _ => ?_
    exact (mirrored_evalItems hinv hmirror ts hts).bind (confined_evalItems hinv ts hts)
      fun _ _ _ _ => .pure _

theorem mirrored_evalEntries {n : Nat} (hinv : ConfinedCalls R invoke)
    (hmirror : MirroredCalls M invoke) (entries : List (Term × Term))
    (h : ∀ name ∈ entryGlobals entries, R.name name) :
    Mirrored M n (evalEntries invoke entries) := by
  cases entries with
  | nil => exact .pure _
  | cons entry entries =>
    obtain ⟨key, value⟩ := entry
    obtain ⟨hentry, hrest⟩ := List.forall_mem_append.1 h
    obtain ⟨hkey, hvalue⟩ := List.forall_mem_append.1 hentry
    refine (key.mirrored_eval hinv hmirror hkey).bind (key.confined_eval hinv hkey)
      fun _ k _ _ => ?_
    refine (value.mirrored_eval hinv hmirror hvalue).bind (value.confined_eval hinv hvalue)
      fun _ v _ _ => ?_
    exact (mirrored_evalEntries hinv hmirror entries hrest).bind
      (confined_evalEntries hinv entries hrest) fun _ _ _ _ => .pure _

theorem mirrored_evalSettings {n : Nat} (hinv : ConfinedCalls R invoke)
    (hmirror : MirroredCalls M invoke) (settings : List (String × List Term))
    (h : ∀ name ∈ settingGlobals settings, R.name name) {v : ScriptValue} (hv : R.value n v) :
    Mirrored M n (evalSettings invoke v settings) := by
  cases settings with
  | nil => exact .pure _
  | cons setting settings =>
    obtain ⟨name, args⟩ := setting
    obtain ⟨hargs, hrest⟩ := List.forall_mem_append.1 h
    refine (mirrored_member v name).bind (confined_member v name) fun _ f hm _ => ?_
    refine (mirrored_evalItems hinv hmirror args hargs).bind (confined_evalItems hinv args hargs)
      fun _ vs hk hvs => ?_
    have hself := List.forall_mem_cons.2 ⟨R.value_mono (Nat.le_trans hm hk) hv, hvs⟩
    refine (mirrored_call hinv hmirror hself f).bind (confined_call hinv hself f)
      fun _ r _ hr => ?_
    exact mirrored_evalSettings hinv hmirror settings hrest hr

end

mutual

theorem Step.mirrored_eval {n : Nat} (hinv : ConfinedCalls R invoke)
    (hmirror : MirroredCalls M invoke) (s : Step) (h : ∀ name ∈ s.globals, R.name name) :
    Mirrored M n (s.eval invoke) := by
  cases s with
  | call function args target =>
    refine mirrored_memberOf M.migrate function fun _ f _ => ?_
    refine (mirrored_evalItems hinv hmirror args h).bind (confined_evalItems hinv args h)
      fun _ vs _ hvs => ?_
    exact (mirrored_call hinv hmirror hvs f).bind (confined_call hinv hvs f) fun _ r _ _ =>
      mirrored_keep target r
  | method name on args target =>
    obtain ⟨hon, hargs⟩ := List.forall_mem_append.1 h
    refine (on.mirrored_eval hinv hmirror hon).bind (on.confined_eval hinv hon) fun _ v _ hv => ?_
    refine (mirrored_member v name).bind (confined_member v name) fun _ f hm _ => ?_
    refine (mirrored_evalItems hinv hmirror args hargs).bind (confined_evalItems hinv args hargs)
      fun _ vs hk hvs => ?_
    have hself := List.forall_mem_cons.2 ⟨R.value_mono (Nat.le_trans hm hk) hv, hvs⟩
    exact (mirrored_call hinv hmirror hself f).bind (confined_call hinv hself f) fun _ r _ _ =>
      mirrored_keep target r
  | member name on args target =>
    obtain ⟨hon, hargs⟩ := List.forall_mem_append.1 h
    refine (on.mirrored_eval hinv hmirror hon).bind (on.confined_eval hinv hon) fun _ v _ _ => ?_
    refine (mirrored_member v name).bind (confined_member v name) fun _ f _ _ => ?_
    refine (mirrored_evalItems hinv hmirror args hargs).bind (confined_evalItems hinv args hargs)
      fun _ vs _ hvs => ?_
    exact (mirrored_call hinv hmirror hvs f).bind (confined_call hinv hvs f) fun _ r _ _ =>
      mirrored_keep target r
  | value term target =>
    exact (term.mirrored_eval hinv hmirror h).bind (term.confined_eval hinv h) fun _ v _ _ =>
      mirrored_keep target v
  | setGlobal name term =>
    obtain ⟨hname, hterm⟩ := List.forall_mem_cons.1 h
    refine (term.mirrored_eval hinv hmirror hterm).bind (term.confined_eval hinv hterm)
      fun _ v _ hv => ?_
    exact Mirrored.bind (.setGlobal hname v)
      (.update fun s hs => .setGlobal hname (R.value_mono hs hv)) fun _ _ _ _ => .pure _
  | guardGlobals =>
    exact Mirrored.bind (.update (fun _ => rfl) fun _ _ => rfl)
      (.update fun _ _ => .guardGlobals) fun _ _ _ _ => .pure _
  | put table key value =>
    obtain ⟨hboth, hvalue⟩ := List.forall_mem_append.1 h
    obtain ⟨htable, hkey⟩ := List.forall_mem_append.1 hboth
    refine (table.mirrored_eval hinv hmirror htable).bind (table.confined_eval hinv htable)
      fun _ t _ ht => ?_
    refine (key.mirrored_eval hinv hmirror hkey).bind (key.confined_eval hinv hkey)
      fun _ k hm _ => ?_
    refine (value.mirrored_eval hinv hmirror hvalue).bind (value.confined_eval hinv hvalue)
      fun _ v hk hv => ?_
    exact (mirrored_put t k hv).bind (confined_put (R.value_mono (Nat.le_trans hm hk) ht) k hv)
      fun _ _ _ _ => .pure _
  | increment name =>
    refine .session (fun _ _ => rfl) fun s _ _ => ?_
    exact (mirrored_successor _).bind (confined_successor _) fun _ v _ _ =>
      mirrored_keep (some name) v
  | describe term =>
    exact (term.mirrored_eval hinv hmirror h).bind (term.confined_eval hinv h) fun _ v _ _ =>
      mirrored_describe v
  | log level args =>
    refine mirrored_memberOf M.logger level fun _ f _ => ?_
    refine (mirrored_evalItems hinv hmirror args h).bind (confined_evalItems hinv args h)
      fun _ vs _ hvs => ?_
    exact (mirrored_call hinv hmirror hvs f).bind (confined_call hinv hvs f)
      fun _ _ _ _ => .pure _
  | fail message => exact .throw _
  | attempt steps =>
    have hc := confined_evalSteps (n := n) hinv steps h
    refine .tryCatch ?_ (hc.bind fun _ _ _ _ => .pure (P := Anything) fun _ _ => trivial)
      fun _ => .pure _
    exact (mirrored_evalSteps hinv hmirror steps h).bind hc fun _ _ _ _ => .pure _

theorem mirrored_evalSteps {n : Nat} (hinv : ConfinedCalls R invoke)
    (hmirror : MirroredCalls M invoke) (ss : List Step)
    (h : ∀ name ∈ stepGlobals ss, R.name name) : Mirrored M n (evalSteps invoke ss) := by
  cases ss with
  | nil => exact .pure _
  | cons s ss =>
    obtain ⟨hs, hss⟩ := List.forall_mem_append.1 h
    exact (s.mirrored_eval hinv hmirror hs).bind (s.confined_eval hinv hs) fun _ _ _ _ =>
      mirrored_evalSteps hinv hmirror ss hss

end

end Terms

/-! ## Scripts -/

namespace Eval

variable {R : Reach} {M : Mirror R} {n : Nat}

theorem mirroredCalls_invoke (M : Mirror R) (calls : Nat) : MirroredCalls M (invoke calls) := by
  induction calls with
  | zero => exact fun _ _ => .throw _
  | succ calls ih => exact fun body h => mirrored_evalSteps (confinedCalls_invoke R calls) ih body h

theorem mirrored_steps {ss : List Step} (h : ∀ name ∈ stepGlobals ss, R.name name) :
    Mirrored M n (steps ss) :=
  mirrored_evalSteps (confinedCalls_invoke R maxCalls) (mirroredCalls_invoke M maxCalls) ss h

theorem mirrored_term {t : Term} (h : ∀ name ∈ t.globals, R.name name) : Mirrored M n (term t) :=
  t.mirrored_eval (confinedCalls_invoke R maxCalls) (mirroredCalls_invoke M maxCalls) h

theorem mirrored_entry {e : Entry} (h : ∀ name ∈ e.globals, R.name name) :
    Mirrored M n (entry e) := by
  cases e with
  | function body =>
    rw [entry]
    exact .make (fun _ => rfl) fun _ _ => rfl
  | value t => exact mirrored_term h

theorem mirrored_entries {es : List (String × Entry)}
    (h : ∀ e ∈ es, ∀ name ∈ e.2.globals, R.name name) (t : Table) :
    Mirrored M n (entries es t) := by
  induction es generalizing n t with
  | nil => exact .pure _
  | cons e es ih =>
    obtain ⟨he, hrest⟩ := List.forall_mem_cons.1 h
    exact (mirrored_entry he).bind (confined_entry he) fun _ v _ _ => ih hrest _

theorem mirrored_publish (v : ScriptValue) {name? : Option String}
    (h : ∀ name, name? = some name → R.name name) : Mirrored M n (publish v name?) := by
  cases name? with
  | none => exact .pure _
  | some name => exact .setGlobal (h name rfl) v

theorem mirrored_answer (v : ScriptValue) {a : Answer} (h : ∀ name ∈ a.globals, R.name name) :
    Mirrored M n (answer v a) := by
  cases a with
  | entries | nothing => exact .pure _
  | value t => exact mirrored_term h

/-- Calling a function of an entry does the same in both sessions. -/
theorem mirrored_run (f : Function) : Mirrored M n (apply (invoke maxCalls) [] f) :=
  mirrored_apply (confinedCalls_invoke R maxCalls) (mirroredCalls_invoke M maxCalls) (by simp) f

/-- Evaluating a script does the same in both sessions. -/
theorem mirrored_script {s : Script} (h : ∀ name ∈ s.globals, R.name name)
    (hp : ∀ name, s.publishes? = some name → R.name name) : Mirrored M n (script s) := by
  cases s with
  | empty => exact .pure _
  | malformed => exact .throw _
  | program p =>
    obtain ⟨hboth, hanswer⟩ := List.forall_mem_append.1 h
    obtain ⟨hentries, htop⟩ := List.forall_mem_append.1 hboth
    have hentries : ∀ e ∈ p.entries, ∀ name ∈ e.2.globals, R.name name :=
      fun e he name hn => hentries name (List.mem_flatMap.2 ⟨e, he, hn⟩)
    refine (mirrored_entries hentries []).bind (confined_entries hentries Table.values_nil)
      fun m t _ ht => ?_
    have hmake : Confined R m R.value (make (·.newTable t)) :=
      .make fun s hs hclean => confined_newTable (ht.later hs) hclean
    refine Mirrored.bind (.make (fun _ => rfl) fun _ _ => rfl) hmake fun _ v _ hv => ?_
    refine (mirrored_steps htop).bind (confined_steps htop) fun _ _ hm _ => ?_
    have hv := R.value_mono hm hv
    exact (mirrored_publish v hp).bind (confined_publish hv hp) fun _ _ _ _ =>
      mirrored_answer v hanswer

end Eval

end SchemaMigration
