import Mathlib.Data.List.DropRight
import SchemaMigration.Proofs.Migration.Soundness

/-!
# Runs of an adapter

An adapter is bound, read, reset and closed any number of times, in any order and whatever each of
these comes to, while anything else happens around it. A run has a history that says of each action
what came of it, and of a reading also what it did outside of the adapter: reading the file,
evaluating the script, calling an entry.

## Main definitions

* `Adapter.Action`, `Adapter.Turn` — what is done with an adapter, and what came of it.
* `AdapterRun` — runs, with their histories.
* `Turned` — what one action does to the phase of its adapter, case by case.
* `Adapter.sinceBind`, `Adapter.attached` — the part of a history that belongs to the script that is
  bound now, and the name of that script.
-/

namespace SchemaMigration

namespace Adapter

/-! ## Actions -/

inductive Action where
  | bind (name : String)
  | read (method : String)
  | reset
  | close

inductive Outcome where
  /-- The adapter that is bound then. -/
  | adapter (id : AdapterId)
  | rendered (r : Rendered)
  | done

/-- An action, and what came of it. -/
structure Turn where
  action : Action
  result : Except MigrationError Outcome
  accesses : List Access := []

end Adapter

def Work.act (id : AdapterId) : Adapter.Action → Work Adapter.Outcome
  | .bind name => return .adapter (← bind id name)
  | .read method => return .rendered (← read id method)
  | .reset => do
    reset id
    return .done
  | .close => do
    close id
    return .done

namespace Workspace

/-- What reading an adapter does outside of it. -/
def accesses (w : Workspace) (id : AdapterId) (method : String) : List Adapter.Access :=
  let a := w.adapter id
  (Adapter.Progress.read w.files a.output method
    { state := a.state, interpreter := w.interpreter a.session }).2.accesses

def turn (w : Workspace) (id : AdapterId) (a : Adapter.Action) : Adapter.Turn where
  action := a
  result := (Work.runIn w (Work.act id a)).1
  accesses :=
    match a with
    | .read method => w.accesses id method
    | _ => []

def after (w : Workspace) (id : AdapterId) (a : Adapter.Action) : Workspace :=
  (Work.runIn w (Work.act id a)).2

end Workspace

/-- The runs of an adapter, from a state without a script on. In between anything may happen that
leaves the adapter alone. -/
inductive AdapterRun (id : AdapterId) : List Adapter.Turn → Workspace → Prop
  | start {w} (hid : id.index < w.adapters.size) (hp : (w.adapter id).phase = .unbound) :
      AdapterRun id [] w
  | other {ts w w'} (h : AdapterRun id ts w) (hid : id.index < w'.adapters.size)
      (hw : w'.adapter id = w.adapter id) : AdapterRun id ts w'
  | act {ts w} (h : AdapterRun id ts w) (a : Adapter.Action) :
      AdapterRun id (ts ++ [w.turn id a]) (w.after id a)

/-- A script whose evaluation fails the first time in a session, and not after that. -/
def retriedScript : Script :=
  .program
    { entries := [("safeUp", .function [.call "dropTable" [.text (.valid "t")] none])]
      top := [
        .value (.var "seen") (some "before"),
        .value (.array []) (some "seen"),
        .put (.var "before") (.int 1) (.bool true)] }

/-- A store with that script, and an adapter without a script. -/
def oneAdapter : Workspace :=
  (Workspace.newAdapter
    (Workspace.newSession
      { files :=
          { nodes := [(["a"], .directory), (["1_init.lua", "a"], .file ⟨0⟩)]
            contents := #[retriedScript] }
        stores := #[{ root := "a" }] } "main").2 ⟨0⟩ ⟨0⟩).2

theorem AdapterRun.start_oneAdapter : AdapterRun ⟨0⟩ [] oneAdapter :=
  .start (by decide) rfl

/-! ## What an action does -/

namespace Workspace

variable {w : Workspace} {id : AdapterId}

theorem runIn_act_read (w : Workspace) (id : AdapterId) (method : String) :
    Work.runIn w (Work.act id (.read method)) =
      ((Work.runIn w (Work.read id method)).1.map .rendered,
        (Work.runIn w (Work.read id method)).2) := by
  rw [Work.act, Work.runIn_map]

theorem runIn_act_bind (w : Workspace) (id : AdapterId) (name : String) :
    Work.runIn w (Work.act id (.bind name)) =
      ((Work.runIn w (Work.bind id name)).1.map .adapter,
        (Work.runIn w (Work.bind id name)).2) := by
  rw [Work.act, Work.runIn_map]

/-- Binding an adapter that has no script. -/
theorem runIn_bind_of_unbound (hp : (w.adapter id).phase = .unbound) (name : String) :
    Work.runIn w (Work.bind id name) =
      match (w.store (w.adapter id).store).openScript w.files name with
      | .ok handle => (.ok id, w.setPhase id (.bound { handle }))
      | .error e => (.error e, w) := by
  have hfree : (w.adapter id).state.isFree := Adapter.Phase.isFree_state.2 hp
  simp only [Work.bind, Work.runIn_bind, Work.runIn_get, if_pos hfree, runIn_openScript]
  cases (w.store (w.adapter id).store).openScript w.files name with
  | error e => rfl
  | ok handle =>
    simp only [Adapter.state, hp, Work.runIn_modify, setState]
    rfl

theorem runIn_bindNew (w : Workspace) (store : StoreId) (session : SessionId) (name : String) :
    Work.runIn w (Work.bindNew store session name) =
      match (w.store store).openScript w.files name with
      | .ok handle =>
        (.ok ⟨w.adapters.size⟩,
          (w.newAdapter store session).2.setPhase ⟨w.adapters.size⟩ (.bound { handle }))
      | .error e => (.error e, w) := by
  simp only [Work.bindNew, Work.runIn_bind, runIn_openScript]
  cases (w.store store).openScript w.files name <;> rfl

/-- Binding an adapter that has a script, or is closed, is making another one. -/
theorem runIn_bind_of_ne (hp : (w.adapter id).phase ≠ .unbound) (name : String) :
    Work.runIn w (Work.bind id name) =
      Work.runIn w (Work.bindNew (w.adapter id).store (w.adapter id).session name) := by
  have hfree : ¬ (w.adapter id).state.isFree := fun h => hp (Adapter.Phase.isFree_state.1 h)
  simp only [Work.bind, Work.runIn_bind, Work.runIn_get, if_neg hfree]

theorem runIn_emptyOutput (w : Workspace) (id : AdapterId) :
    Work.runIn w (Work.emptyOutput id) =
      (.ok (), w.updateSession (w.adapter id).session
        (·.updateBuffers (·.reset (w.adapter id).output))) := by
  simp [Work.emptyOutput, Work.runIn_bind]

theorem runIn_reset (w : Workspace) (id : AdapterId) :
    Work.runIn w (Work.reset id) =
      Work.runIn (w.setPhase id (w.adapter id).phase.reset) (Work.emptyOutput id) := by
  simp only [Work.reset, Work.runIn_bind, Work.runIn_get, Work.runIn_modify, setState,
    Adapter.state, Adapter.Phase.clear_state, Adapter.Phase.phase_state]

theorem runIn_close_of_closed (hp : (w.adapter id).phase = .closed) :
    Work.runIn w (Work.close id) = (.ok (), w) := by
  have hclosed : (w.adapter id).state.closed := Adapter.Phase.closed_state.2 hp
  simp only [Work.close, Work.runIn_bind, Work.runIn_get, if_pos hclosed, Work.runIn_pure]

theorem runIn_close_of_ne (hp : (w.adapter id).phase ≠ .closed) :
    Work.runIn w (Work.close id) = Work.runIn (w.setPhase id .closed) (Work.emptyOutput id) := by
  have hopen : ¬ (w.adapter id).state.closed := fun h => hp (Adapter.Phase.closed_state.1 h)
  simp only [Work.close, Work.runIn_bind, Work.runIn_get, if_neg hopen, Work.runIn_modify]
  simp only [setState, Adapter.state, Adapter.Phase.close_state, Adapter.Phase.phase_state]

theorem runIn_act_reset (w : Workspace) (id : AdapterId) :
    Work.runIn w (Work.act id .reset) = (.ok .done, (Work.runIn w (Work.reset id)).2) := by
  simp only [Work.act, Work.runIn_bind, runIn_reset, runIn_emptyOutput, Work.runIn_pure]

theorem runIn_act_close (w : Workspace) (id : AdapterId) :
    Work.runIn w (Work.act id .close) = (.ok .done, (Work.runIn w (Work.close id)).2) := by
  simp only [Work.act, Work.runIn_bind]
  by_cases hp : (w.adapter id).phase = .closed
  · rw [runIn_close_of_closed hp]
    rfl
  · rw [runIn_close_of_ne hp, runIn_emptyOutput]
    rfl

theorem after_reset (w : Workspace) (id : AdapterId) :
    w.after id .reset = (w.setPhase id (w.adapter id).phase.reset).updateSession
      ((w.setPhase id (w.adapter id).phase.reset).adapter id).session
      (·.updateBuffers
        (·.reset ((w.setPhase id (w.adapter id).phase.reset).adapter id).output)) := by
  rw [after, runIn_act_reset, runIn_reset, runIn_emptyOutput]

theorem after_close_of_ne (hp : (w.adapter id).phase ≠ .closed) :
    w.after id .close = (w.setPhase id .closed).updateSession
      ((w.setPhase id .closed).adapter id).session
      (·.updateBuffers (·.reset ((w.setPhase id .closed).adapter id).output)) := by
  rw [after, runIn_act_close, runIn_close_of_ne hp, runIn_emptyOutput]

theorem after_close_of_closed (hp : (w.adapter id).phase = .closed) : w.after id .close = w := by
  rw [after, runIn_act_close, runIn_close_of_closed hp]

/-- Rendering fails in the phase that loading left, and succeeds in one that has the entry. -/
theorem phase_of_render {identifier entry : String} {result : Except MigrationError String}
    {p : Adapter.Phase} {i : Interpreter}
    (hr : Adapter.render w.files (w.adapter id).output identifier entry (w.adapter id).phase
      (w.interpreter (w.adapter id).session) = (result, p, i)) :
    match result with
    | .error _ => p = (w.loaded id).2.1
    | .ok _ => ∃ m q j, w.loaded id = (.ok m, q, j) ∧ p = q.render entry := by
  rw [render_eq] at hr
  rcases hl : w.loaded id with ⟨e | m, q, j⟩
  · simp only [hl] at hr
    cases hr
    rfl
  · simp only [hl] at hr
    rcases hc : Adapter.callEntry identifier entry m (w.adapter id).output j with ⟨e | sql, k⟩
    · simp only [hc] at hr
      cases hr
      rfl
    · simp only [hc] at hr
      cases hr
      exact ⟨m, q, j, rfl, rfl⟩

end Workspace

theorem Adapter.Binding.handle_read {t : FileTree} {b b' : Binding} {s : Script}
    (h : b.read t = .ok (s, b')) : b'.handle = b.handle := by
  unfold read at h
  split at h
  · cases h
    rfl
  · cases hr : b.handle.read t with
    | error e => rw [hr] at h; cases h
    | ok s => rw [hr] at h; cases h; rfl

/-- Loading keeps the phase, or gives a phase of the same script where none was evaluated yet. -/
theorem Workspace.phase_loaded (w : Workspace) (id : AdapterId) :
    (w.loaded id).2.1 = (w.adapter id).phase ∨
      ∃ b b', (w.adapter id).phase = .bound b ∧ b'.handle = b.handle ∧
        ((w.loaded id).2.1 = .bound b' ∨ ∃ m, (w.loaded id).2.1 = .loaded b' m) := by
  have hstep := w.loadStep id
  generalize w.loaded id = r at hstep ⊢
  cases hstep with
  | kept | unread => exact .inl rfl
  | failed hp hb => exact .inr ⟨_, _, hp, Adapter.Binding.handle_read hb, .inl rfl⟩
  | evaluated hp hb => exact .inr ⟨_, _, hp, Adapter.Binding.handle_read hb, .inr ⟨_, rfl⟩⟩

/-- The errors of a reading that has a script are others than that there is none. -/
theorem Adapter.render_ne_notBound {t : FileTree} {output : BufferId} {identifier entry : String}
    {p : Phase} {i : Interpreter} (hp : p.binding?.isSome) :
    (render t output identifier entry p i).1 ≠ .error .notBound := by
  have hload (j : Interpreter) : (load t p j).1 ≠ .error .notBound := by
    cases p with
    | unbound | closed => cases hp
    | loaded | rendered => rw [load_of_module? rfl]; simp
    | bound b =>
      have hread : b.read t ≠ .error .notBound := by
        unfold Binding.read ScriptHandle.read
        split
        · simp
        · split <;> simp [Except.map]
      rw [load_bound]
      split
      · next e he => exact fun h => hread (he.trans (congrArg _ (Except.error.inj h)))
      · split <;> simp
  have hcall (m : Module) (j : Interpreter) :
      (callEntry identifier entry m output j).1 ≠ .error .notBound := by
    rw [callEntry_eq]
    extract_lets j
    split
    · simp
    · split <;> simp
  unfold render
  extract_lets j
  split
  · next he => exact fun h => hload j (by rw [he]; exact congrArg _ (Except.error.inj h))
  · next m _ k _ =>
    split
    · next e _ he => exact fun h => hcall m k (by rw [he]; exact h)
    · simp

/-- What an action does to the phase of its adapter. -/
inductive Turned (w : Workspace) (id : AdapterId) : Adapter.Turn → Adapter.Phase → Prop
  | bound {name handle} (hp : (w.adapter id).phase = .unbound)
      (ho : (w.store (w.adapter id).store).openScript w.files name = .ok handle) :
      Turned w id ⟨.bind name, .ok (.adapter id), []⟩ (.bound { handle })
  | another {name other} (hp : (w.adapter id).phase ≠ .unbound) (hne : other ≠ id) :
      Turned w id ⟨.bind name, .ok (.adapter other), []⟩ (w.adapter id).phase
  | notBound {name e} : Turned w id ⟨.bind name, .error e, []⟩ (w.adapter id).phase
  | rendered {method m p i identifier sql} (hl : w.loaded id = (.ok m, p, i))
      (hid : (w.adapter id).phase.identifier? = some identifier) :
      Turned w id
        ⟨.read method, .ok (.rendered ⟨identifier, EntryName.ofMethod method, sql⟩),
          w.accesses id method⟩
        (p.render (EntryName.ofMethod method))
  | notRendered {method e} (he : e = .notBound ↔ (w.adapter id).phase.identifier? = none) :
      Turned w id ⟨.read method, .error e, w.accesses id method⟩ (w.loaded id).2.1
  | reset : Turned w id ⟨.reset, .ok .done, []⟩ (w.adapter id).phase.reset
  | closed : Turned w id ⟨.close, .ok .done, []⟩ .closed

/-- An action changes no adapter but its own, of which it changes the phase, and no store or set of
adapters. -/
structure Workspace.Leaves (w : Workspace) (id : AdapterId) (p : Adapter.Phase) (w' : Workspace) :
    Prop where
  size : w.adapters.size ≤ w'.adapters.size
  self : w'.adapter id = { w.adapter id with phase := p }
  other : ∀ other, other ≠ id → other.index < w.adapters.size → w'.adapter other = w.adapter other
  files : w'.files = w.files
  sessions : w'.sessions.size = w.sessions.size
  stores : w'.stores = w.stores
  adapterSets : w'.adapterSets = w.adapterSets
  sessionPool : w'.sessionPool = w.sessionPool
  storePool : w'.storePool = w.storePool

namespace Workspace

variable {w : Workspace} {id : AdapterId}

theorem Leaves.refl (w : Workspace) (id : AdapterId) : w.Leaves id (w.adapter id).phase w :=
  ⟨Nat.le_refl _, rfl, fun _ _ _ => rfl, rfl, rfl, rfl, rfl, rfl, rfl⟩

theorem Leaves.updateSession {p : Adapter.Phase} {w' : Workspace} (h : w.Leaves id p w')
    (sid : SessionId) (f : Session → Session) : w.Leaves id p (w'.updateSession sid f) :=
  { h with sessions := by simpa [Workspace.updateSession] using h.sessions }

theorem leaves_setPhase (hid : id.index < w.adapters.size) (p : Adapter.Phase) :
    w.Leaves id p (w.setPhase id p) where
  size := by simp [setPhase]
  self := by simp [adapter_setPhase w hid]
  other other hne _ := by simp [adapter_setPhase w hid, hne.symm]
  files := rfl
  sessions := rfl
  stores := rfl
  adapterSets := rfl
  sessionPool := rfl
  storePool := rfl

/-- A new adapter leaves the others as they are. -/
theorem adapter_newBound {store : StoreId} {session : SessionId} {p : Adapter.Phase}
    {other : AdapterId} (h : other.index < w.adapters.size) :
    ((w.newAdapter store session).2.setPhase ⟨w.adapters.size⟩ p).adapter other =
      w.adapter other := by
  have hne : (⟨w.adapters.size⟩ : AdapterId) ≠ other := by rintro rfl; simp at h
  rw [adapter_setPhase _ (by simp [newAdapter]), if_neg hne, adapter_newAdapter, if_neg (by omega)]

theorem adapter_newBound_self (w : Workspace) (store : StoreId) (session : SessionId)
    (phase : Adapter.Phase) :
    ((w.newAdapter store session).2.setPhase ⟨w.adapters.size⟩ phase).adapter ⟨w.adapters.size⟩ =
      { store, session, output := (w.session session).newBuffer.1, phase } := by
  rw [adapter_setPhase _ (by simp [newAdapter]), if_pos rfl, adapter_newAdapter, if_pos rfl]

theorem leaves_bindNew (hid : id.index < w.adapters.size) (store : StoreId) (session : SessionId)
    (p : Adapter.Phase) :
    w.Leaves id (w.adapter id).phase
      ((w.newAdapter store session).2.setPhase ⟨w.adapters.size⟩ p) where
  size := by simp [newAdapter, setPhase]
  self := adapter_newBound hid
  other _ _ h := adapter_newBound h
  files := rfl
  sessions := by simp [newAdapter, setPhase]
  stores := rfl
  adapterSets := rfl
  sessionPool := rfl
  storePool := rfl

theorem leaves_finish (hid : id.index < w.adapters.size) (p : Adapter.Phase) (i : Interpreter) :
    w.Leaves id p (w.finish id p i) where
  size := by simp [finish, setPhase, setInterpreter]
  self := by simp [adapter_finish hid]
  other other hne _ := by simp [adapter_finish hid, hne.symm]
  files := rfl
  sessions := by simp [finish, setPhase, setInterpreter]
  stores := rfl
  adapterSets := rfl
  sessionPool := rfl
  storePool := rfl

/-- Every action is one of the cases. -/
theorem turned (hid : id.index < w.adapters.size) (a : Adapter.Action) :
    ∃ p, Turned w id (w.turn id a) p ∧ w.Leaves id p (w.after id a) := by
  cases a with
  | bind name =>
    simp only [turn, after, runIn_act_bind]
    by_cases hp : (w.adapter id).phase = .unbound
    · rw [runIn_bind_of_unbound hp]
      cases ho : (w.store (w.adapter id).store).openScript w.files name with
      | error e => exact ⟨_, .notBound, .refl w id⟩
      | ok handle => exact ⟨_, .bound hp ho, leaves_setPhase hid _⟩
    · rw [runIn_bind_of_ne hp, runIn_bindNew]
      cases (w.store (w.adapter id).store).openScript w.files name with
      | error e => exact ⟨_, .notBound, .refl w id⟩
      | ok handle =>
        refine ⟨_, .another hp ?_, leaves_bindNew hid _ _ _⟩
        rintro rfl
        simp at hid
  | reset =>
    simp only [turn, runIn_act_reset, after_reset]
    exact ⟨_, .reset, (leaves_setPhase hid _).updateSession _ _⟩
  | close =>
    simp only [turn, runIn_act_close]
    by_cases hp : (w.adapter id).phase = .closed
    · rw [after_close_of_closed hp]
      have hsame := Leaves.refl w id
      rw [hp] at hsame
      exact ⟨_, .closed, hsame⟩
    · rw [after_close_of_ne hp]
      exact ⟨_, .closed, (leaves_setPhase hid _).updateSession _ _⟩
  | read method =>
    simp only [turn, after, runIn_act_read]
    cases hidentifier : (w.adapter id).phase.identifier? with
    | none =>
      have hl := loaded_of_unbound hidentifier
      rw [runIn_read_of_unbound hidentifier]
      refine ⟨_, .notRendered (by simp [hidentifier]), ?_⟩
      rw [hl]
      exact .refl w id
    | some identifier =>
      have hbinding : (w.adapter id).phase.binding?.isSome := by
        simpa [Adapter.Phase.identifier?] using congrArg Option.isSome hidentifier
      have hne : (Adapter.render w.files (w.adapter id).output identifier
          (EntryName.ofMethod method) (w.adapter id).phase
          (w.interpreter (w.adapter id).session)).1 ≠ .error .notBound :=
        Adapter.render_ne_notBound hbinding
      rcases hr : Adapter.render w.files (w.adapter id).output identifier
        (EntryName.ofMethod method) (w.adapter id).phase
        (w.interpreter (w.adapter id).session) with ⟨e | sql, p, i⟩
      · have hp : p = (w.loaded id).2.1 := phase_of_render hr
        subst hp
        have he : e ≠ .notBound := fun he => hne (by rw [hr, he])
        rw [runIn_read hidentifier hr]
        exact ⟨_, .notRendered (by simp [he, hidentifier]), leaves_finish hid _ _⟩
      · obtain ⟨m, q, j, hl, hp⟩ : ∃ m q j, w.loaded id = (.ok m, q, j) ∧
            p = q.render (EntryName.ofMethod method) := phase_of_render hr
        subst hp
        rw [runIn_read hidentifier hr]
        refine ⟨q.render (EntryName.ofMethod method), ?_, leaves_finish hid _ _⟩
        exact .rendered hl hidentifier

end Workspace

/-! ## Histories -/

theorem ScriptStore.name_openScript {t : FileTree} {s : ScriptStore} {name : String}
    {handle : ScriptHandle} (h : s.openScript t name = .ok handle) : handle.name = name := by
  simp only [openScript] at h
  cases hopen : s.ensureOpen with
  | error e => simp [hopen, bind, Except.bind] at h
  | ok u =>
    simp only [hopen, bind, Except.bind] at h
    split at h <;> cases h
    rfl

@[simp] theorem Adapter.Phase.binding?_render (p : Phase) (entry : String) :
    (p.render entry).binding? = p.binding? := by
  cases p <;> rfl

namespace Adapter

/-- The script that an action attached to an adapter, or that it took the script away. -/
def Turn.attaches? (id : AdapterId) : Turn → Option (Option String)
  | ⟨.bind name, .ok (.adapter other), _⟩ => if other = id then some (some name) else none
  | ⟨.reset, _, _⟩ | ⟨.close, _, _⟩ => some none
  | _ => none

/-- What was done since an adapter was last bound, reset or closed. -/
def sinceBind (id : AdapterId) (ts : List Turn) : List Turn :=
  ts.rtakeWhile fun t => (t.attaches? id).isNone

/-- The script that is attached to an adapter, which had this one at first. -/
def attached (id : AdapterId) (first : Option String) (ts : List Turn) : Option String :=
  (ts.filterMap (Turn.attaches? id)).getLast?.getD first

variable {id : AdapterId} {ts : List Turn} {t : Turn}

theorem sinceBind_concat_of_none (h : t.attaches? id = none) :
    sinceBind id (ts ++ [t]) = sinceBind id ts ++ [t] := by
  rw [sinceBind, List.rtakeWhile_concat, if_pos (by simp [h]), sinceBind]

theorem sinceBind_concat_of_some {script : Option String} (h : t.attaches? id = some script) :
    sinceBind id (ts ++ [t]) = [] := by
  rw [sinceBind, List.rtakeWhile_concat, if_neg (by simp [h])]

theorem attached_concat (first : Option String) :
    attached id first (ts ++ [t]) = (t.attaches? id).getD (attached id first ts) := by
  cases h : t.attaches? id <;> simp [attached, h]

end Adapter

/-- The script that is bound is the one that the history says. -/
theorem Turned.attached {w : Workspace} {id : AdapterId} {t : Adapter.Turn} {p : Adapter.Phase}
    (h : Turned w id t p) :
    p.binding?.map (·.handle.name) =
      (t.attaches? id).getD ((w.adapter id).phase.binding?.map (·.handle.name)) := by
  have hloaded : (w.loaded id).2.1.binding?.map (·.handle.name) =
      (w.adapter id).phase.binding?.map (·.handle.name) := by
    rcases w.phase_loaded id with hp | ⟨b, b', hp, hb, hp' | ⟨m, hp'⟩⟩
    · rw [hp]
    · simp [hp, hp', Adapter.Phase.binding?, hb]
    · simp [hp, hp', Adapter.Phase.binding?, hb]
  cases h with
  | bound _ ho =>
    have hname := ScriptStore.name_openScript ho
    simp [Adapter.Turn.attaches?, Adapter.Phase.binding?, hname]
  | another _ hne => simp [Adapter.Turn.attaches?, hne]
  | notBound => simp [Adapter.Turn.attaches?]
  | @rendered method m p _ _ _ hl =>
    rw [hl] at hloaded
    rw [Adapter.Phase.binding?_render, hloaded]
    simp [Adapter.Turn.attaches?]
  | notRendered => simpa [Adapter.Turn.attaches?] using hloaded
  | reset => cases (w.adapter id).phase <;> rfl
  | closed => rfl

namespace AdapterRun

variable {w w' : Workspace} {id : AdapterId} {ts : List Adapter.Turn}

theorem bounds (h : AdapterRun id ts w) : id.index < w.adapters.size := by
  induction h with
  | start hid => exact hid
  | other _ hid => exact hid
  | act _ a ih =>
    obtain ⟨p, _, hleaves⟩ := Workspace.turned ih a
    exact Nat.lt_of_lt_of_le ih hleaves.size

/-- What holds of an adapter without a script, and is kept by every action, holds in every run. -/
theorem preserves {motive : List Adapter.Turn → Adapter → Prop} (h : AdapterRun id ts w)
    (hstart : ∀ a : Adapter, a.phase = .unbound → motive [] a)
    (hact : ∀ w ts t p, id.index < w.adapters.size → motive ts (w.adapter id) → Turned w id t p →
      motive (ts ++ [t]) { w.adapter id with phase := p }) :
    motive ts (w.adapter id) := by
  induction h with
  | start _ hp => exact hstart _ hp
  | other _ _ hw ih => exact hw ▸ ih
  | act h a ih =>
    obtain ⟨p, hturned, hleaves⟩ := Workspace.turned h.bounds a
    rw [hleaves.self]
    exact hact _ _ _ _ h.bounds ih hturned

/-- The script of an adapter is the one that its history says. -/
theorem attached (h : AdapterRun id ts w) :
    (w.adapter id).phase.binding?.map (·.handle.name) = Adapter.attached id none ts := by
  refine h.preserves (motive := fun ts a =>
    a.phase.binding?.map (·.handle.name) = Adapter.attached id none ts) ?_ ?_
  · intro a hp
    rw [hp]
    rfl
  · intro w ts t p _ ih ht
    rw [Adapter.attached_concat, ← ih, ht.attached]

end AdapterRun

end SchemaMigration
