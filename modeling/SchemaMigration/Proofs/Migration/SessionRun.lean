import SchemaMigration.Proofs.Migration.PhaseReading
import SchemaMigration.Proofs.Script.Confinement

/-!
# Runs of a session

A run of one session is made of steps in the session itself and of readings of adapters on it, in
any order and whatever they come to. In between adapters are made, bound, reset and closed, and
files change. A run has a history that says of each reading what its script did when it was
evaluated, which function was called then, and what that did.

## Main definitions

* `Reading`, `Event` — what a history says.
* `Workspace.reading` — what is said of a reading.
* `Upkeep` — what happens between steps and readings.
* `SessionRun` — runs, with their histories.
* `ReadStep` — how a reading goes, case by case.
-/

namespace SchemaMigration

def Work.runIn {α : Type} (w : Workspace) (x : Work α) : Except MigrationError α × Workspace :=
  x.run.run w

namespace Work

variable {α β : Type} {w : Workspace}

@[simp] theorem runIn_pure (a : α) : runIn w (pure a) = (.ok a, w) := rfl

@[simp] theorem runIn_throw (e : MigrationError) : runIn w (throw e : Work α) = (.error e, w) :=
  rfl

@[simp] theorem runIn_get : runIn w (get : Work Workspace) = (.ok w, w) := rfl

@[simp] theorem runIn_set (w' : Workspace) : runIn w (set w' : Work Unit) = (.ok (), w') := rfl

@[simp] theorem runIn_modify (f : Workspace → Workspace) :
    runIn w (modify f : Work Unit) = (.ok (), f w) := rfl

@[simp] theorem runIn_make (f : Workspace → α × Workspace) :
    runIn w (make f) = (.ok (f w).1, (f w).2) := rfl

@[simp] theorem runIn_lift (r : Except MigrationError α) :
    runIn w (liftM r : Work α) = (r, w) := by
  cases r <;> rfl

theorem runIn_bind (x : Work α) (f : α → Work β) :
    runIn w (x >>= f) =
      match runIn w x with
      | (.ok a, w') => runIn w' (f a)
      | (.error e, w') => (.error e, w') := by
  simp only [runIn, ExceptT.run_bind, StateT.run_bind]
  generalize x.run.run w = r
  obtain ⟨r, w'⟩ := r
  cases r <;> rfl

theorem runIn_map (x : Work α) (f : α → β) :
    runIn w (do return f (← x)) = ((runIn w x).1.map f, (runIn w x).2) := by
  rw [runIn_bind]
  rcases runIn w x with ⟨e | a, w'⟩ <;> rfl

theorem runIn_bind_eq_ok {w' : Workspace} {x : Work α} {f : α → Work β} {b : β}
    (h : runIn w (x >>= f) = (.ok b, w')) :
    ∃ a w₁, runIn w x = (.ok a, w₁) ∧ runIn w₁ (f a) = (.ok b, w') := by
  rw [runIn_bind] at h
  split at h
  · exact ⟨_, _, ‹_›, h⟩
  · simp at h

theorem ok_of_runIn_orConfiguration {w' : Workspace} {r : Except ConfigurationError α} {a : α}
    (h : runIn w (orConfiguration r) = (.ok a, w')) : r = .ok a := by
  cases r with
  | error e => simp [orConfiguration] at h
  | ok a' =>
    obtain rfl : a' = a := by simpa [orConfiguration] using congrArg Prod.fst h
    rfl

end Work

/-! ## Histories -/

/-- The statements that were made since an earlier state of a session. -/
def Session.issuedSince (s before : Session) : List String := s.issued.drop before.issued.length

/-- An evaluation of a script that did not fail: what it answered, and the places of the functions
that were made meanwhile. -/
structure Loading where
  adapter : AdapterId
  script : Script
  module : Adapter.Module
  first : Nat
  limit : Nat

/-- What came of reading an adapter. -/
structure Reading where
  adapter : AdapterId
  /-- The evaluation of the script, if this reading made it. -/
  loaded? : Option Loading
  /-- The statements made while the script was evaluated. -/
  loading : List String
  /-- The function of the entry. -/
  called? : Option Function
  /-- The statements made by calling the function. -/
  calling : List String
  result : Except MigrationError Rendered

/-- What a history is made of. -/
inductive Event where
  /-- Steps in the session itself, which made these statements. -/
  | direct (issued : List String)
  | read (r : Reading)

namespace Workspace

/-- The interpreter of an adapter's session while the adapter is read. -/
def readingInterpreter (w : Workspace) (id : AdapterId) : Interpreter :=
  let a := w.adapter id
  { w.interpreter a.session with session := (w.session a.session).install a.output }

/-- The module of an adapter's script when the adapter is read, and what there is then. -/
def loaded (w : Workspace) (id : AdapterId) :
    Except MigrationError Adapter.Module × Adapter.Phase × Interpreter :=
  Adapter.load w.files (w.adapter id).phase (w.readingInterpreter id)

/-- The evaluation that reading an adapter makes. -/
def loading? (w : Workspace) (id : AdapterId) : Option Loading :=
  match (w.adapter id).phase, w.loaded id with
  | .bound b, (.ok module, _, i) =>
    match b.read w.files with
    | .ok (script, _) =>
      some
        { adapter := id
          script
          module
          first := (w.readingInterpreter id).session.functions.size
          limit := i.session.functions.size }
    | .error _ => none
  | _, _ => none

/-- The function that reading an entry calls. -/
def called? (w : Workspace) (id : AdapterId) (entry : String) : Option Function :=
  match (w.adapter id).phase.identifier?, w.loaded id with
  | some identifier, (.ok m, _, i) => Adapter.entryFunction? i.session identifier entry m
  | _, _ => none

/-- What comes of reading an adapter. -/
def reading (w : Workspace) (id : AdapterId) (method : String) : Reading :=
  let before := (w.readingInterpreter id).session
  let loaded := (w.loaded id).2.2.session
  let (result, after) := Work.runIn w (Work.read id method)
  { adapter := id
    loaded? := w.loading? id
    loading := loaded.issuedSince before
    called? := w.called? id (EntryName.ofMethod method)
    calling := (after.session (w.adapter id).session).issuedSince loaded
    result }

def stepped (w : Workspace) (sid : SessionId) (ss : List Step) : Interpreter :=
  (Eval.runIn (w.interpreter sid) (Eval.steps ss)).2

def IsOn (w : Workspace) (sid : SessionId) (id : AdapterId) : Prop :=
  id.index < w.adapters.size ∧ (w.adapter id).session = sid

/-- Holds if a session was just made, and all files are scripts of a kind. -/
structure Fresh (w : Workspace) (scripts : Script → Prop) (sid : SessionId) : Prop where
  bounds : sid.index < w.sessions.size
  created : ∃ name order, w.session sid = .create name order
  unused : ∀ id, ¬ w.IsOn sid id
  files : ∀ file, scripts (w.files.read file)

end Workspace

/-! ## Runs -/

/-- What happens between steps and readings. -/
inductive Upkeep (scripts : Script → Prop) (sid : SessionId) (w : Workspace) : Workspace → Prop
  | newAdapter (store : StoreId) : Upkeep scripts sid w (w.newAdapter store sid).2
  | bind {id : AdapterId} (hid : w.IsOn sid id) (name : String) :
      Upkeep scripts sid w (Work.runIn w (Work.bind id name)).2
  | reset {id : AdapterId} (hid : w.IsOn sid id) :
      Upkeep scripts sid w (Work.runIn w (Work.reset id)).2
  | close {id : AdapterId} (hid : w.IsOn sid id) :
      Upkeep scripts sid w (Work.runIn w (Work.close id)).2
  | edit {files : FileTree} (hf : ∀ file, scripts (files.read file)) :
      Upkeep scripts sid w { w with files }

/-- The runs of a session from a workspace on, with their histories. Steps in the session name these
global names only, and files are scripts of a kind. -/
inductive SessionRun (names : String → Prop) (scripts : Script → Prop) (sid : SessionId)
    (w₀ : Workspace) : List Event → Workspace → Prop
  | start : SessionRun names scripts sid w₀ [] w₀
  | upkeep {es w w'} (h : SessionRun names scripts sid w₀ es w) (hw : Upkeep scripts sid w w') :
      SessionRun names scripts sid w₀ es w'
  | direct {es w ss} (h : SessionRun names scripts sid w₀ es w)
      (hss : ∀ name ∈ stepGlobals ss, names name) :
      SessionRun names scripts sid w₀
        (es ++ [.direct ((w.stepped sid ss).session.issuedSince (w.session sid))])
        (w.setInterpreter sid (w.stepped sid ss))
  | read {es w id} (h : SessionRun names scripts sid w₀ es w) (hid : w.IsOn sid id)
      (method : String) :
      SessionRun names scripts sid w₀ (es ++ [.read (w.reading id method)])
        (Work.runIn w (Work.read id method)).2

/-! ## Parts of a workspace -/

namespace Workspace

variable (w : Workspace) {sid : SessionId} {id : AdapterId}

theorem session_setInterpreter (h : sid.index < w.sessions.size) (i : Interpreter) :
    (w.setInterpreter sid i).session sid = i.session := by
  simp [session, setInterpreter, h]

theorem setInterpreter_interpreter (sid : SessionId) :
    w.setInterpreter sid (w.interpreter sid) = w := by
  have hsessions : w.sessions.setIfInBounds sid.index (w.session sid) = w.sessions := by
    refine Array.ext_getElem? fun i => ?_
    rw [Array.getElem?_setIfInBounds]
    split
    · next he =>
      subst he
      by_cases hlt : sid.index < w.sessions.size <;> simp [session, hlt]
    · rfl
  simp [setInterpreter, interpreter, hsessions]

@[simp] theorem adapter_setInterpreter (i : Interpreter) :
    (w.setInterpreter sid i).adapter id = w.adapter id := rfl

@[simp] theorem session_setPhase (p : Adapter.Phase) :
    (w.setPhase id p).session sid = w.session sid := rfl

theorem adapter_setPhase (h : id.index < w.adapters.size) (p : Adapter.Phase) (other : AdapterId) :
    (w.setPhase id p).adapter other =
      if id = other then { w.adapter other with phase := p } else w.adapter other := by
  by_cases ho : id = other
  · subst ho
    simp [adapter, setPhase, h, Array.getElem_modify]
  · have hne : id.index ≠ other.index := fun he => ho (by cases id; cases other; simp_all)
    simp [adapter, setPhase, ho, Array.getElem?_modify, hne]

theorem setPhase_phase (id : AdapterId) : w.setPhase id (w.adapter id).phase = w := by
  have hadapters : w.adapters.modify id.index
      (fun a => { a with phase := (w.adapter id).phase }) = w.adapters := by
    refine Array.ext_getElem? fun i => ?_
    rw [Array.getElem?_modify]
    split
    · next he =>
      subst he
      by_cases hlt : id.index < w.adapters.size <;> simp [adapter, hlt]
    · rfl
  rw [setPhase, hadapters]

theorem session_updateSession (h : sid.index < w.sessions.size) (f : Session → Session) :
    (w.updateSession sid f).session sid = f (w.session sid) := by
  simp [session, updateSession, h, Array.getElem_modify]

theorem updateSession_eq (sid : SessionId) (f : Session → Session) :
    w.updateSession sid f = w.setInterpreter sid ⟨w.context, f (w.session sid)⟩ := by
  have hsessions : w.sessions.modify sid.index f =
      w.sessions.setIfInBounds sid.index (f (w.session sid)) := by
    refine Array.ext_getElem? fun i => ?_
    rw [Array.getElem?_modify, Array.getElem?_setIfInBounds]
    split
    · next he =>
      subst he
      by_cases hlt : sid.index < w.sessions.size <;> simp [session, hlt]
    · rfl
  rw [updateSession, setInterpreter, hsessions]

@[simp] theorem adapter_updateSession (f : Session → Session) :
    (w.updateSession sid f).adapter id = w.adapter id := rfl

theorem session_newAdapter (h : sid.index < w.sessions.size) (store : StoreId) :
    (w.newAdapter store sid).2.session sid = (w.session sid).newBuffer.2 := by
  simp [session, newAdapter, h]

theorem adapter_newAdapter (store : StoreId) :
    (w.newAdapter store sid).2.adapter id =
      if id.index = w.adapters.size then
        { store, session := sid, output := (w.session sid).newBuffer.1 }
      else w.adapter id := by
  simp only [adapter, newAdapter, Array.getElem?_push]
  split <;> rfl

@[simp] theorem isOn_setInterpreter (i : Interpreter) :
    (w.setInterpreter sid i).IsOn sid id ↔ w.IsOn sid id := Iff.rfl

theorem isOn_setPhase (p : Adapter.Phase) (h : id.index < w.adapters.size) (other : AdapterId) :
    (w.setPhase id p).IsOn sid other ↔ w.IsOn sid other := by
  have hsize : (w.setPhase id p).adapters.size = w.adapters.size := by simp [setPhase]
  rw [IsOn, IsOn, hsize, adapter_setPhase w h]
  split <;> rfl

end Workspace

/-! ## Readings -/

namespace Workspace

variable {w : Workspace} {id : AdapterId}

/-- The interpreter with the buffer of an adapter empty. -/
def emptied (w : Workspace) (id : AdapterId) (i : Interpreter) : Interpreter :=
  { i with session := i.session.updateBuffers (·.reset (w.adapter id).output) }

def call (w : Workspace) (id : AdapterId) (i : Interpreter) (f : Function) :
    Except ScriptFault ScriptValue × Interpreter :=
  Eval.runIn (w.emptied id i) (Eval.apply (Eval.invoke Eval.maxCalls) [] f)

/-- The workspace after a reading. The session's own buffer is installed again. -/
def finish (w : Workspace) (id : AdapterId) (p : Adapter.Phase) (i : Interpreter) : Workspace :=
  let s := i.session.install i.session.ownBuffer
  (w.setInterpreter (w.adapter id).session { i with session := s }).setPhase id p

theorem session_finish (h : (w.adapter id).session.index < w.sessions.size) (p : Adapter.Phase)
    (i : Interpreter) :
    (w.finish id p i).session (w.adapter id).session = i.session.install i.session.ownBuffer := by
  simp only [finish, session_setPhase]
  exact session_setInterpreter w h _

theorem adapter_finish (h : id.index < w.adapters.size) (p : Adapter.Phase) (i : Interpreter)
    (other : AdapterId) :
    (w.finish id p i).adapter other =
      if id = other then { w.adapter other with phase := p } else w.adapter other :=
  adapter_setPhase (w.setInterpreter _ _) h p other

theorem isOn_finish {sid : SessionId} (h : id.index < w.adapters.size) (p : Adapter.Phase)
    (i : Interpreter) (other : AdapterId) :
    (w.finish id p i).IsOn sid other ↔ w.IsOn sid other :=
  isOn_setPhase (w.setInterpreter _ _) p h other

theorem runIn_read_of_unbound (h : (w.adapter id).phase.identifier? = none) (method : String) :
    Work.runIn w (Work.read id method) = (.error .notBound, w) := by
  have hread := Adapter.Progress.read_of_identifier?_eq_none h w.files (w.adapter id).output method
    (w.interpreter (w.adapter id).session)
  simp only [Work.read, Work.runIn_bind, Work.runIn_get, Adapter.state, hread, Work.runIn_set,
    Work.runIn_lift, setInterpreter_interpreter, setState, Adapter.Phase.phase_state,
    setPhase_phase]

/-- Reading is rendering, and a way back to the session's own buffer. -/
theorem runIn_read {identifier method : String} {result : Except MigrationError String}
    {p : Adapter.Phase} {i : Interpreter}
    (hid : (w.adapter id).phase.identifier? = some identifier)
    (hr : Adapter.render w.files (w.adapter id).output identifier (EntryName.ofMethod method)
      (w.adapter id).phase (w.interpreter (w.adapter id).session) = (result, p, i)) :
    Work.runIn w (Work.read id method) =
      (result.map fun sql => { identifier, entry := EntryName.ofMethod method, sql },
        w.finish id p i) := by
  obtain ⟨fs, hread, -⟩ := Adapter.Progress.exists_read hid rfl hr
  simp only [Work.read, Work.runIn_bind, Work.runIn_get, Adapter.state, hread, Work.runIn_set,
    Work.runIn_lift, setState, Adapter.Phase.phase_state]
  rfl

end Workspace

/-- How the reading of an entry goes. -/
inductive ReadStep (w : Workspace) (id : AdapterId) (entry : String) : Reading → Workspace → Prop
  | unbound (hid : (w.adapter id).phase.identifier? = none) :
      ReadStep w id entry
        { adapter := id, loaded? := none, loading := [], called? := none, calling := []
          result := .error .notBound } w
  | notLoaded {e p i} (hl : w.loaded id = (.error e, p, i)) :
      ReadStep w id entry
        { adapter := id
          loaded? := none
          loading := i.session.issuedSince (w.readingInterpreter id).session
          called? := none
          calling := []
          result := .error e } (w.finish id p i)
  | notFound {m p i e} (hl : w.loaded id = (.ok m, p, i)) :
      ReadStep w id entry
        { adapter := id
          loaded? := w.loading? id
          loading := i.session.issuedSince (w.readingInterpreter id).session
          called? := none
          calling := []
          result := .error e } (w.finish id p (w.emptied id i))
  | failed {m p i f e j} (hl : w.loaded id = (.ok m, p, i)) (hc : (w.call id i f).2 = j) :
      ReadStep w id entry
        { adapter := id
          loaded? := w.loading? id
          loading := i.session.issuedSince (w.readingInterpreter id).session
          called? := some f
          calling := j.session.issuedSince i.session
          result := .error e } (w.finish id p j)
  | done {identifier m p i f j} (hid : (w.adapter id).phase.identifier? = some identifier)
      (hl : w.loaded id = (.ok m, p, i))
      (hf : Adapter.entryFunction? i.session identifier entry m = some f)
      (hc : (w.call id i f).2 = j) :
      ReadStep w id entry
        { adapter := id
          loaded? := w.loading? id
          loading := i.session.issuedSince (w.readingInterpreter id).session
          called? := some f
          calling := j.session.issuedSince i.session
          result :=
            .ok { identifier, entry, sql := j.session.buffers.text (w.adapter id).output } }
        (w.finish id (p.render entry) j)

namespace Workspace

variable {w : Workspace} {id : AdapterId}

theorem reading_eq {method : String} {m : Except MigrationError Adapter.Module}
    {p : Adapter.Phase} {i : Interpreter} {result : Except MigrationError Rendered}
    {w' : Workspace} (hl : w.loaded id = (m, p, i))
    (hr : Work.runIn w (Work.read id method) = (result, w')) :
    w.reading id method =
      { adapter := id
        loaded? := w.loading? id
        loading := i.session.issuedSince (w.readingInterpreter id).session
        called? := w.called? id (EntryName.ofMethod method)
        calling := (w'.session (w.adapter id).session).issuedSince i.session
        result } := by
  simp [reading, hl, hr]

/-- Rendering goes on from the module of the script. -/
theorem render_eq (w : Workspace) (id : AdapterId) (identifier entry : String) :
    Adapter.render w.files (w.adapter id).output identifier entry (w.adapter id).phase
        (w.interpreter (w.adapter id).session) =
      match w.loaded id with
      | (.error e, p, i) => (.error e, p, i)
      | (.ok m, p, i) =>
        match Adapter.callEntry identifier entry m (w.adapter id).output i with
        | (.error e, i) => (.error e, p, i)
        | (.ok sql, i) => (.ok sql, p.render entry, i) := rfl

/-- Calling an entry empties the adapter's buffer, and then calls what is found. -/
theorem callEntry_eq (w : Workspace) (id : AdapterId) (identifier entry : String)
    (m : Adapter.Module) (i : Interpreter) :
    Adapter.callEntry identifier entry m (w.adapter id).output i =
      match Adapter.entryFunction? i.session identifier entry m with
      | none => (.error (.entryNotFound identifier entry), w.emptied id i)
      | some f =>
        match w.call id i f with
        | (.error fault, j) => (.error (.scriptEval identifier fault), j)
        | (.ok _, j) => (.ok (j.session.buffers.text (w.adapter id).output), j) :=
  Adapter.callEntry_eq ..

theorem loaded_of_unbound (h : (w.adapter id).phase.identifier? = none) :
    w.loaded id = (.error .notBound, (w.adapter id).phase, w.readingInterpreter id) := by
  have hp : (w.adapter id).phase.binding? = none := by simpa [Adapter.Phase.identifier?] using h
  exact Adapter.load_of_binding?_eq_none hp _ _

@[simp] theorem issuedSince_self (s : Session) : s.issuedSince s = [] := by
  simp [Session.issuedSince]

@[simp] theorem issuedSince_install (s before : Session) (id : BufferId) :
    (s.install id).issuedSince before = s.issuedSince before := rfl

@[simp] theorem issuedSince_emptied (i : Interpreter) (before : Session) :
    (w.emptied id i).session.issuedSince before = i.session.issuedSince before := rfl

/-- What a history says of a reading is how the reading goes. -/
theorem readStep (h : (w.adapter id).session.index < w.sessions.size) (method : String) :
    ReadStep w id (EntryName.ofMethod method) (w.reading id method)
      (Work.runIn w (Work.read id method)).2 := by
  cases hid : (w.adapter id).phase.identifier? with
  | none =>
    have hl := loaded_of_unbound hid
    have hr := runIn_read_of_unbound hid method
    have hloading : w.loading? id = none := by simp [loading?, hl]
    have hsame : (w.session (w.adapter id).session).issuedSince
        (w.readingInterpreter id).session = [] := issuedSince_self _
    rw [reading_eq hl hr, hr]
    simp only [hloading, called?, hid, issuedSince_self, hsame]
    exact .unbound hid
  | some identifier =>
    have hrender := w.render_eq id identifier (EntryName.ofMethod method)
    rcases hl : w.loaded id with ⟨e | m, p, i⟩
    · rw [hl] at hrender
      have hr := runIn_read hid hrender
      have hloading : w.loading? id = none := by simp [loading?, hl]
      have hcalled : w.called? id (EntryName.ofMethod method) = none := by simp [called?, hl]
      rw [reading_eq hl hr, hr, hloading, hcalled]
      simp only [session_finish h, issuedSince_install, issuedSince_self]
      exact .notLoaded hl
    · rw [hl] at hrender
      simp only [callEntry_eq] at hrender
      have hcalled : w.called? id (EntryName.ofMethod method) =
          Adapter.entryFunction? i.session identifier (EntryName.ofMethod method) m := by
        simp [called?, hl, hid]
      cases hf : Adapter.entryFunction? i.session identifier (EntryName.ofMethod method) m with
      | none =>
        rw [hf] at hrender hcalled
        have hr := runIn_read hid hrender
        rw [reading_eq hl hr, hr, hcalled]
        simp only [session_finish h, issuedSince_install, issuedSince_emptied, issuedSince_self]
        exact .notFound hl
      | some f =>
        rw [hf] at hrender hcalled
        rcases hc : w.call id i f with ⟨fault | v, j⟩
        · simp only [hc] at hrender
          have hr := runIn_read hid hrender
          rw [reading_eq hl hr, hr, hcalled]
          simp only [session_finish h, issuedSince_install]
          exact .failed hl (by rw [hc])
        · simp only [hc] at hrender
          have hr := runIn_read hid hrender
          rw [reading_eq hl hr, hr, hcalled]
          simp only [session_finish h, issuedSince_install]
          exact .done hid hl hf (by rw [hc])

end Workspace

/-! ## Loading -/

/-- How the script of an adapter is loaded. -/
inductive LoadStep (w : Workspace) (id : AdapterId) :
    Except MigrationError Adapter.Module × Adapter.Phase × Interpreter → Prop
  /-- The script was evaluated before. -/
  | kept {m} (hm : (w.adapter id).phase.module? = some m) :
      LoadStep w id (.ok m, (w.adapter id).phase, w.readingInterpreter id)
  /-- There is no script, or it cannot be read. -/
  | unread {e} : LoadStep w id (.error e, (w.adapter id).phase, w.readingInterpreter id)
  | failed {b s b' fault e i} (hp : (w.adapter id).phase = .bound b)
      (hb : b.read w.files = .ok (s, b'))
      (hr : Eval.runIn (w.readingInterpreter id) (Adapter.evaluate s) = (.error fault, i)) :
      LoadStep w id (.error e, .bound b', i)
  | evaluated {b s b' m i} (hp : (w.adapter id).phase = .bound b)
      (hb : b.read w.files = .ok (s, b'))
      (hr : Eval.runIn (w.readingInterpreter id) (Adapter.evaluate s) = (.ok m, i)) :
      LoadStep w id (.ok m, .loaded b' m, i)

namespace Workspace

variable {w : Workspace} {sid : SessionId} {id : AdapterId}

theorem loadStep (w : Workspace) (id : AdapterId) : LoadStep w id (w.loaded id) := by
  have hload : w.loaded id = Adapter.load w.files (w.adapter id).phase (w.readingInterpreter id) :=
    rfl
  cases hp : (w.adapter id).phase with
  | unbound | closed =>
    rw [hload, Adapter.load_of_binding?_eq_none (by rw [hp]; rfl)]
    exact .unread
  | loaded b m | rendered b m =>
    have hm : (w.adapter id).phase.module? = some m := by rw [hp, Adapter.Phase.module?]
    rw [hload, Adapter.load_of_module? hm]
    exact .kept hm
  | bound b =>
    rw [hload, hp, Adapter.load_bound]
    rcases hb : b.read w.files with e | ⟨s, b'⟩
    · rw [← hp]
      exact .unread
    · dsimp only
      rcases hr : Eval.runIn (w.readingInterpreter id) (Adapter.evaluate s) with ⟨fault | m, i⟩
      · exact .failed hp hb hr
      · exact .evaluated hp hb hr

/-- A script that was loaded has a module. -/
theorem module?_of_loaded {m : Adapter.Module} {p : Adapter.Phase} {i : Interpreter}
    (hl : w.loaded id = (.ok m, p, i)) : p.module? = some m :=
  Adapter.module?_of_load hl

end Workspace

end SchemaMigration
