import SchemaMigration.Migration.Workspace

/-!
# Reading in phases

What the operations on the fields of an adapter come to where the fields are those of a phase: they
lead to the fields of a phase again, so that readings can be followed phase by phase.

## Main definitions

* `Adapter.load`, `Adapter.callEntry`, `Adapter.render` — the parts of a reading, from phase to
  phase.
* `Workspace.accesses` — what reading an adapter does outside of it.

## Main results

* `Adapter.load_bound` — how a script is loaded that was not evaluated before.
* `Adapter.Progress.exists_read` — reading is rendering, and a way back to the session's own buffer.
-/

namespace SchemaMigration

namespace Adapter

/-! ## Phases -/

namespace Phase

def binding? : Phase → Option Binding
  | .unbound | .closed => none
  | .bound b | .loaded b _ | .rendered b _ _ => some b

def identifier? (p : Phase) : Option String := p.binding?.map Binding.identifier

def handle? (p : Phase) : Option ScriptHandle := p.binding?.map Binding.handle

def module? : Phase → Option Module
  | .unbound | .closed | .bound _ => none
  | .loaded _ m | .rendered _ m _ => some m

def lastEntry? (p : Phase) : Option String := p.state.entry?

def name (p : Phase) : String := p.state.status.name

def render (entry : String) : Phase → Phase
  | .loaded b m | .rendered b m _ => .rendered b m entry
  | p => p

/-- The phase without a script. What is closed stays closed. -/
def reset : Phase → Phase
  | .closed => .closed
  | _ => .unbound

variable {p : Phase} {m : Module}

@[simp] theorem name_unbound : unbound.name = "Unbound" := rfl
@[simp] theorem name_bound (b : Binding) : (bound b).name = "Bound" := rfl
@[simp] theorem name_loaded (b : Binding) (m : Module) : (loaded b m).name = "Loaded" := rfl
@[simp] theorem name_rendered (b : Binding) (m : Module) (entry : String) :
    (rendered b m entry).name = "Rendered" := rfl
@[simp] theorem name_closed : closed.name = "Closed" := rfl

@[simp] theorem lastEntry?_unbound : lastEntry? unbound = none := rfl
@[simp] theorem lastEntry?_bound (b : Binding) : lastEntry? (bound b) = none := rfl
@[simp] theorem lastEntry?_loaded (b : Binding) (m : Module) : lastEntry? (loaded b m) = none := rfl
@[simp] theorem lastEntry?_rendered (b : Binding) (m : Module) (entry : String) :
    lastEntry? (rendered b m entry) = some entry := rfl
@[simp] theorem lastEntry?_closed : lastEntry? closed = none := rfl

@[simp] theorem identifier?_state (p : Phase) : p.state.identifier? = p.identifier? := by
  cases p <;> rfl

@[simp] theorem handle?_state (p : Phase) : p.state.handle? = p.handle? := by
  cases p <;> rfl

theorem isFree_state : p.state.isFree ↔ p = .unbound := by
  cases p <;> simp [state, Binding.state, State.isFree]

theorem closed_state : p.state.closed ↔ p = .closed := by
  cases p <;> simp [state, Binding.state]

@[simp] theorem clear_state (p : Phase) : p.state.clear = p.reset.state := by
  cases p <;> rfl

@[simp] theorem close_state (p : Phase) : p.state.close = closed.state := by
  cases p <;> rfl

theorem setRendered_state (hm : p.module? = some m) (entry : String) :
    p.state.setRendered entry = (p.render entry).state := by
  cases p <;> cases hm <;> rfl

theorem loaded_state (p : Phase) : p.state.loaded = p.module?.isSome := by
  cases p <;> rfl

theorem module_state (hm : p.module? = some m) : p.state.module = m := by
  cases p <;> cases hm <;> rfl

end Phase

/-- Binding an adapter that is free leaves it with nothing but the handle of its script. -/
@[simp] theorem State.attach_unbound (handle : ScriptHandle) :
    (Phase.unbound.state.attach handle) = (Phase.bound { handle }).state := rfl

/-! ## Loading -/

/-- The script of a binding, read from its file unless that was done. -/
def Binding.read (t : FileTree) (b : Binding) : Except MigrationError (Script × Binding) :=
  match b.script? with
  | some s => .ok (s, b)
  | none => (b.handle.read t).map fun s => (s, { b with script? := some s })

def loading (t : FileTree) (p : Phase) (i : Interpreter) : Except MigrationError Unit × Progress :=
  Progress.load t (p.identifier?.getD "") { state := p.state, interpreter := i }

/-- The module of an adapter's script. The script is evaluated unless that was done. -/
def load (t : FileTree) (p : Phase) (i : Interpreter) :
    Except MigrationError Module × Phase × Interpreter :=
  let (result, x) := loading t p i
  (result.map fun _ => x.state.module, x.state.phase, x.interpreter)

section Loading

variable {t : FileTree} {p : Phase} {b : Binding} {s : Script} {m : Module}

theorem loading_of_module? (hm : p.module? = some m) (t : FileTree) (i : Interpreter) :
    loading t p i = (.ok (), { state := p.state, interpreter := i }) := by
  simp [loading, Progress.load, p.loaded_state, hm]

theorem loading_of_binding?_eq_none (hp : p.binding? = none) (t : FileTree) (i : Interpreter) :
    loading t p i = (.error .notBound, { state := p.state, interpreter := i }) := by
  cases p <;> cases hp <;> rfl

/-- Loading a text that was read before is evaluating it. -/
theorem loading_of_script? (hb : b.script? = some s) (t : FileTree) (i : Interpreter) :
    loading t (.bound b) i =
      match Eval.runIn i (evaluate s) with
      | (.error fault, j) =>
        (.error (.scriptEval b.identifier fault),
          ⟨(Phase.bound b).state, j, [.evaluation s (.error fault)]⟩)
      | (.ok m, j) => (.ok (), ⟨(Phase.loaded b m).state, j, [.evaluation s (.ok m)]⟩) := by
  have hscript (j : Interpreter) :
      Progress.script t { state := b.state, interpreter := j } =
        (.ok s, { state := b.state, interpreter := j }) := by
    simp [Progress.script, Binding.state, hb]
  have hidentifier : (Phase.bound b).identifier?.getD "" = b.identifier := rfl
  rcases hrun : Eval.runIn i (evaluate s) with ⟨fault | m, j⟩ <;>
    simp only [loading, Progress.load, Phase.state, hscript, hrun, hidentifier] <;> rfl

/-- A file that cannot be read is all that loading comes to. -/
theorem loading_of_read_eq_error {e : MigrationError} (hb : b.script? = none)
    (hr : b.handle.read t = .error e) (i : Interpreter) :
    loading t (.bound b) i = (.error e, ⟨(Phase.bound b).state, i, [.file (.error e)]⟩) := by
  have hscript : Progress.script t { state := b.state, interpreter := i } =
      (.error e, ⟨b.state, i, [.file (.error e)]⟩) := by
    simp [Progress.script, Binding.state, hb, hr, Progress.note]
  simp only [loading, Progress.load, Phase.state, hscript]
  rfl

/-- After its file was read, a script is loaded as a text that was read before. -/
theorem loading_of_read_eq_ok (hb : b.script? = none) (hr : b.handle.read t = .ok s)
    (i : Interpreter) :
    loading t (.bound b) i =
      ((loading t (.bound { b with script? := some s }) i).1,
        { (loading t (.bound { b with script? := some s }) i).2 with
          accesses := .file (.ok s) ::
            (loading t (.bound { b with script? := some s }) i).2.accesses }) := by
  have hkept : ({ b with script? := some s } : Binding).script? = some s := rfl
  have hscript : Progress.script t { state := b.state, interpreter := i } =
      (.ok s, ⟨({ b with script? := some s } : Binding).state, i, [.file (.ok s)]⟩) := by
    simp [Progress.script, Binding.state, hb, hr, Progress.note, Progress.updateState,
      Binding.identifier]
  have hidentifier : (Phase.bound b).identifier?.getD "" =
      ({ b with script? := some s } : Binding).identifier := rfl
  rw [loading_of_script? hkept]
  rcases hrun : Eval.runIn i (evaluate s) with ⟨fault | m, j⟩ <;>
    simp only [loading, Progress.load, Phase.state, hscript, hrun, hidentifier] <;> rfl

/-- How a script is loaded that was not evaluated before. -/
theorem load_bound (t : FileTree) (b : Binding) (i : Interpreter) :
    load t (.bound b) i =
      match b.read t with
      | .error e => (.error e, .bound b, i)
      | .ok (s, b') =>
        match Eval.runIn i (evaluate s) with
        | (.error fault, j) => (.error (.scriptEval b'.identifier fault), .bound b', j)
        | (.ok m, j) => (.ok m, .loaded b' m, j) := by
  have hevaluated {b : Binding} {s : Script} (hb : b.script? = some s) : load t (.bound b) i =
      match Eval.runIn i (evaluate s) with
      | (.error fault, j) => (.error (.scriptEval b.identifier fault), .bound b, j)
      | (.ok m, j) => (.ok m, .loaded b m, j) := by
    rw [load, loading_of_script? hb]
    rcases Eval.runIn i (evaluate s) with ⟨fault | m, j⟩ <;> rfl
  cases hb : b.script? with
  | some s => simp only [hevaluated hb, Binding.read, hb]
  | none =>
    cases hr : b.handle.read t with
    | error e =>
      simp only [Binding.read, hb, hr, Except.map]
      rw [load, loading_of_read_eq_error hb hr]
      rfl
    | ok s =>
      have hkept : ({ b with script? := some s } : Binding).script? = some s := rfl
      simp only [Binding.read, hb, hr, Except.map]
      rw [← hevaluated hkept, load, load, loading_of_read_eq_ok hb hr]

theorem load_of_module? (hm : p.module? = some m) (t : FileTree) (i : Interpreter) :
    load t p i = (.ok m, p, i) := by
  rw [load, loading_of_module? hm]
  simp [Except.map, Phase.module_state hm]

theorem load_of_binding?_eq_none (hp : p.binding? = none) (t : FileTree) (i : Interpreter) :
    load t p i = (.error .notBound, p, i) := by
  rw [load, loading_of_binding?_eq_none hp]
  simp [Except.map]

/-- Loading the script of a phase leads to the fields of a phase. -/
theorem state_loading (t : FileTree) (p : Phase) (i : Interpreter) :
    (loading t p i).2.state = (load t p i).2.1.state := by
  have hevaluated {b : Binding} {s : Script} (hb : b.script? = some s) :
      (loading t (.bound b) i).2.state = (load t (.bound b) i).2.1.state := by
    rw [load, loading_of_script? hb]
    rcases Eval.runIn i (evaluate s) with ⟨fault | m, j⟩ <;> simp
  cases hp : p with
  | unbound | closed => rfl
  | loaded b m | rendered b m =>
    rw [load, loading_of_module? rfl]
    simp
  | bound b =>
    cases hb : b.script? with
    | some s => exact hevaluated hb
    | none =>
      cases hr : b.handle.read t with
      | error e =>
        rw [load, loading_of_read_eq_error hb hr]
        simp
      | ok s =>
        have hkept : ({ b with script? := some s } : Binding).script? = some s := rfl
        rw [load, loading_of_read_eq_ok hb hr]
        exact hevaluated hkept

/-- A script that was loaded has a module. -/
theorem module?_of_load {q : Phase} {i j : Interpreter} (h : load t p i = (.ok m, q, j)) :
    q.module? = some m := by
  cases p with
  | unbound | closed => cases h
  | loaded b m' | rendered b m' =>
    rw [load_of_module? rfl] at h
    cases h
    rfl
  | bound b =>
    rw [load_bound] at h
    split at h
    · cases h
    · split at h <;> cases h
      rfl

end Loading

/-! ## Calling an entry -/

/-- Empties a buffer, calls the function of an entry, and answers what the buffer holds then. -/
def callEntry (identifier entry : String) (m : Module) (output : BufferId) (i : Interpreter) :
    Except MigrationError String × Interpreter :=
  let (result, x) :=
    Progress.call output identifier entry { state := { module := m }, interpreter := i }
  (result, x.interpreter)

theorem callEntry_eq (identifier entry : String) (m : Module) (output : BufferId)
    (i : Interpreter) :
    callEntry identifier entry m output i =
      let i := { i with session := i.session.updateBuffers (·.reset output) }
      match entryFunction? i.session identifier entry m with
      | none => (.error (.entryNotFound identifier entry), i)
      | some f =>
        match Eval.runIn i (Eval.apply (Eval.invoke Eval.maxCalls) [] f) with
        | (.error fault, j) => (.error (.scriptEval identifier fault), j)
        | (.ok _, j) => (.ok (j.session.buffers.text output), j) := by
  simp only [callEntry, Progress.call, Progress.updateSession]
  generalize i.session.updateBuffers (·.reset output) = s
  cases entryFunction? s identifier entry m with
  | none => rfl
  | some f =>
    dsimp only
    rcases Eval.runIn { i with session := s } (Eval.apply (Eval.invoke Eval.maxCalls) [] f) with
      ⟨fault | v, j⟩ <;> rfl

def calls (fs : List Function) : List Access := fs.map .entry

/-- Calling an entry leaves the state as it is, and calls one function at most. -/
theorem Progress.exists_call (output : BufferId) (identifier entry : String) (x : Progress) :
    ∃ fs, x.call output identifier entry =
      ((callEntry identifier entry x.state.module output x.interpreter).1,
        { state := x.state
          interpreter := (callEntry identifier entry x.state.module output x.interpreter).2
          accesses := x.accesses ++ calls fs }) := by
  simp only [callEntry_eq, call, updateSession]
  generalize x.interpreter.session.updateBuffers (·.reset output) = s
  cases entryFunction? s identifier entry x.state.module with
  | none => exact ⟨[], by simp [calls]⟩
  | some f =>
    refine ⟨[f], ?_⟩
    dsimp only
    rcases Eval.runIn { x.interpreter with session := s }
      (Eval.apply (Eval.invoke Eval.maxCalls) [] f) with ⟨fault | v, j⟩ <;> rfl

/-! ## Rendering -/

/-- What an entry function writes, and the phase after that. -/
def render (t : FileTree) (output : BufferId) (identifier entry : String) (p : Phase)
    (i : Interpreter) : Except MigrationError String × Phase × Interpreter :=
  let i := { i with session := i.session.install output }
  match load t p i with
  | (.error e, p, i) => (.error e, p, i)
  | (.ok m, p, i) =>
    match callEntry identifier entry m output i with
    | (.error e, i) => (.error e, p, i)
    | (.ok sql, i) => (.ok sql, p.render entry, i)

theorem Progress.read_of_identifier?_eq_none {p : Phase} (hid : p.identifier? = none)
    (t : FileTree) (output : BufferId) (method : String) (i : Interpreter) :
    Progress.read t output method { state := p.state, interpreter := i } =
      (.error .notBound, { state := p.state, interpreter := i }) := by
  simp [Progress.read, hid]

/-- Reading the fields of a phase is rendering, and a way back to the session's own buffer. The
script is loaded first, and an entry is called if that succeeds. -/
theorem Progress.exists_read {t : FileTree} {output : BufferId} {identifier method : String}
    {p q : Phase} {i j k : Interpreter} {result : Except MigrationError String}
    (hid : p.identifier? = some identifier)
    (hj : { i with session := i.session.install output } = j)
    (hr : Adapter.render t output identifier (EntryName.ofMethod method) p i = (result, q, k)) :
    ∃ fs, Progress.read t output method { state := p.state, interpreter := i } =
        (result.map fun sql => { identifier, entry := EntryName.ofMethod method, sql },
          { state := q.state
            interpreter := { k with session := k.session.install k.session.ownBuffer }
            accesses := (loading t p j).2.accesses ++ calls fs }) ∧
      (fs ≠ [] → ∃ m, (Adapter.load t p j).1 = .ok m) := by
  have hloading : Progress.load t identifier { state := p.state, interpreter := j } =
      loading t p j := by
    rw [loading, hid]
    rfl
  have hstate := state_loading t p j
  simp only [Adapter.render, hj] at hr
  simp only [Progress.read, Phase.identifier?_state, hid, Progress.render, updateSession, hj,
    hloading]
  have hload : Adapter.load t p j = ((loading t p j).1.map fun _ => (loading t p j).2.state.module,
      (loading t p j).2.state.phase, (loading t p j).2.interpreter) := rfl
  rcases hl : loading t p j with ⟨e | ⟨⟩, x⟩
  · simp only [hl, Except.map] at hload hstate
    simp only [hload] at hr hstate
    cases hr
    exact ⟨[], by simp [calls, Except.map, ← hstate], fun h => absurd rfl h⟩
  · simp only [hl, Except.map] at hload hstate
    have hm := module?_of_load hload
    simp only [hload] at hr hstate
    obtain ⟨fs, hfs⟩ := x.exists_call output identifier (EntryName.ofMethod method)
    refine ⟨fs, ?_, fun _ => ⟨_, congrArg Prod.fst hload⟩⟩
    simp only [hfs]
    rcases hc : callEntry identifier (EntryName.ofMethod method) x.state.module output
      x.interpreter with ⟨e | sql, k'⟩
    · simp only [hc] at hr
      cases hr
      simp [Except.map, ← hstate]
    · simp only [hc] at hr
      cases hr
      simp only [Except.map, updateState]
      rw [← Phase.setRendered_state hm, ← hstate]

end Adapter

end SchemaMigration
