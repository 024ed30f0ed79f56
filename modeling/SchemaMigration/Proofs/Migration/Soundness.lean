import SchemaMigration.Proofs.Migration.SessionRun

/-!
# Adapters in a run

What holds throughout a run whatever its scripts do: the session keeps its own buffer, every adapter
on it has another one, and adapters keep no scripts but those that they read from files.

## Main definitions

* `Session.SameBuffers` — two states of a session with the same buffers.
* `Workspace.Sound` — what holds of a session and the adapters on it.
* `SessionRun.sound` — it holds throughout a run.
-/

namespace SchemaMigration

/-! ## Scripts -/

/-- The binding of a phase, if it has one that keeps its script, keeps one of a kind. -/
def Adapter.Phase.Keeps (scripts : Script → Prop) (p : Adapter.Phase) : Prop :=
  ∀ b s, p.binding? = some b → b.script? = some s → scripts s

/-- What is read from a file or kept from it is a script of a kind. -/
theorem Adapter.Binding.keeps_read {scripts : Script → Prop} {t : FileTree} {b b' : Binding}
    {s : Script} (h : b.read t = .ok (s, b')) (hb : ∀ s, b.script? = some s → scripts s)
    (ht : ∀ file, scripts (t.read file)) : scripts s ∧ b'.script? = some s := by
  unfold read at h
  split at h
  · next s' hs' =>
    cases h
    exact ⟨hb _ hs', hs'⟩
  · unfold ScriptHandle.read at h
    split at h
    · next file _ =>
      cases h
      exact ⟨ht file, rfl⟩
    · cases h

/-- Holds if a script is confined to the names of a reach, the one it publishes included. -/
def Script.Within (R : Reach) (s : Script) : Prop :=
  (∀ name ∈ s.globals, R.name name) ∧ ∀ name, s.publishes? = some name → R.name name

/-- Evaluating a script for an adapter is evaluating the script. -/
theorem Adapter.confined_evaluate {R : Reach} {n : Nat} {s : Script} (h : s.Within R) :
    Eval.Confined R n Eval.Anything (evaluate s) := by
  refine (Eval.confined_script h.1 h.2).bind fun _ v _ _ => ?_
  cases v <;> exact .pure fun _ _ => trivial

/-! ## The buffers of a session -/

/-- Two states of a session with the same buffers, whatever they hold. -/
structure Session.SameBuffers (s s' : Session) : Prop where
  ownBuffer : s'.ownBuffer = s.ownBuffer
  has : ∀ id, s'.buffers.Has id ↔ s.buffers.Has id

namespace Session.SameBuffers

variable {s s' s'' : Session}

theorem refl (s : Session) : s.SameBuffers s := ⟨rfl, fun _ => Iff.rfl⟩

theorem trans (h : s.SameBuffers s') (h' : s'.SameBuffers s'') : s.SameBuffers s'' :=
  ⟨h'.ownBuffer.trans h.ownBuffer, fun id => (h'.has id).trans (h.has id)⟩

theorem install (s : Session) (id : BufferId) : s.SameBuffers (s.install id) :=
  ⟨rfl, fun _ => Iff.rfl⟩

theorem reset (s : Session) (id : BufferId) :
    s.SameBuffers (s.updateBuffers (·.reset id)) :=
  ⟨rfl, fun _ => BufferStore.has_modify⟩

/-- Scripts make no buffers. -/
theorem of_changes {R : Reach} (h : s.Changes R s') : s.SameBuffers s' := by
  induction h with
  | refl => exact refl s
  | tail _ hc ih =>
    refine ih.trans ?_
    cases hc with
    | issue sql hr => exact ⟨rfl, fun _ => BufferStore.has_modify⟩
    | write hid text => exact ⟨rfl, fun _ => BufferStore.has_modify⟩
    | reset hid => exact reset _ _
    | _ => exact ⟨rfl, fun _ => Iff.rfl⟩

end Session.SameBuffers

/-- The reach of everything. -/
def Reach.everything : Reach where
  value _ _ := True
  name _ := True
  value_data _ _ _ _ := trivial
  value_mono _ _ := trivial

theorem Session.clean_everything (s : Session) : s.Clean .everything where
  vars _ := trivial
  globals _ _ := trivial
  tables _ _ _ := trivial
  fresh _ _ := trivial
  bodies _ _ _ := trivial

/-! ## Rendering -/

namespace Adapter

theorem sameBuffers_evaluate (s : Script) (i : Interpreter) :
    i.session.SameBuffers (Eval.runIn i (evaluate s)).2.session := by
  have hconfined : Eval.Confined .everything 0 Eval.Anything (evaluate s) :=
    confined_evaluate ⟨fun _ _ => trivial, fun _ _ => trivial⟩
  exact .of_changes (hconfined i (Nat.zero_le _) (Session.clean_everything _)).1

theorem sameBuffers_load (t : FileTree) (p : Phase) (i : Interpreter) :
    i.session.SameBuffers (load t p i).2.2.session := by
  cases p with
  | unbound | closed | loaded | rendered => exact .refl _
  | bound b =>
    rw [load_bound]
    cases hb : b.read t with
    | error e => exact .refl _
    | ok sb =>
      have hsame := sameBuffers_evaluate sb.1 i
      dsimp only
      generalize Eval.runIn i (evaluate sb.1) = r at hsame ⊢
      obtain ⟨_ | _, j⟩ := r <;> exact hsame

theorem sameBuffers_callEntry (identifier entry : String) (m : Module) (output : BufferId)
    (i : Interpreter) :
    i.session.SameBuffers (callEntry identifier entry m output i).2.session := by
  rw [callEntry_eq]
  extract_lets j
  have hreset : i.session.SameBuffers j.session := .reset i.session output
  cases entryFunction? j.session identifier entry m with
  | none => exact hreset
  | some f =>
    have hconfined : Eval.Confined .everything 0 (Reach.value .everything)
        (Eval.apply (Eval.invoke Eval.maxCalls) [] f) := Eval.confined_run f
    have hsame := Session.SameBuffers.of_changes
      (hconfined j (Nat.zero_le _) (Session.clean_everything _)).1
    dsimp only
    generalize Eval.runIn j (Eval.apply (Eval.invoke Eval.maxCalls) [] f) = r at hsame ⊢
    obtain ⟨_ | _, k⟩ := r <;> exact hreset.trans hsame

/-- Rendering makes no buffers, and none other the session's own. -/
theorem sameBuffers_render (t : FileTree) (output : BufferId) (identifier entry : String)
    (p : Phase) (i : Interpreter) :
    i.session.SameBuffers (render t output identifier entry p i).2.2.session := by
  unfold render
  extract_lets j
  have hinstall : i.session.SameBuffers j.session := .install i.session output
  have hload := sameBuffers_load t p j
  generalize load t p j = r at hload ⊢
  obtain ⟨e | m, p', k⟩ := r
  · exact hinstall.trans hload
  · have hcall := sameBuffers_callEntry identifier entry m output k
    dsimp only
    generalize callEntry identifier entry m output k = r at hcall ⊢
    obtain ⟨_ | _, k'⟩ := r <;> exact hinstall.trans (hload.trans hcall)

end Adapter

/-! ## Upkeep -/

/-- The phases of adapters whose script was not read. -/
inductive Adapter.Phase.Idle : Adapter.Phase → Prop
  | unbound : Idle .unbound
  | closed : Idle .closed
  | bound (handle : ScriptHandle) : Idle (.bound { handle })

theorem Adapter.Phase.Idle.keeps {scripts : Script → Prop} {p : Phase} (h : p.Idle) :
    p.Keeps scripts := by
  intro b s hb hs
  cases h with
  | unbound | closed => cases hb
  | bound handle =>
    cases hb
    cases hs

/-- The parts that upkeep is made of. -/
inductive Chore (scripts : Script → Prop) (sid : SessionId) (w : Workspace) : Workspace → Prop
  | newAdapter (store : StoreId) : Chore scripts sid w (w.newAdapter store sid).2
  | setPhase {id : AdapterId} (hid : w.IsOn sid id) {p : Adapter.Phase} (hp : p.Idle) :
      Chore scripts sid w (w.setPhase id p)
  | empty {id : AdapterId} (hid : w.IsOn sid id) :
      Chore scripts sid w
        (w.updateSession sid (·.updateBuffers (·.reset (w.adapter id).output)))
  | edit {files : FileTree} (hf : ∀ file, scripts (files.read file)) :
      Chore scripts sid w { w with files }

namespace Workspace

variable {scripts : Script → Prop} {w : Workspace} {sid : SessionId} {id : AdapterId}

theorem runIn_openScript (store : StoreId) (name : String) :
    Work.runIn w (Work.openScript store name) = ((w.store store).openScript w.files name, w) := by
  simp [Work.openScript, Work.runIn_bind]

theorem isOn_newAdapter (store : StoreId) :
    (w.newAdapter store sid).2.IsOn sid ⟨w.adapters.size⟩ := by
  refine ⟨by simp [newAdapter], ?_⟩
  rw [adapter_newAdapter]
  simp

theorem IsOn.newAdapter (hid : w.IsOn sid id) (store : StoreId) (session : SessionId) :
    (w.newAdapter store session).2.IsOn sid id := by
  refine ⟨by simpa [Workspace.newAdapter] using Nat.lt_succ_of_lt hid.1, ?_⟩
  rw [adapter_newAdapter, if_neg (Nat.ne_of_lt hid.1)]
  exact hid.2

/-- The buffer of an adapter is emptied after its phase was set. -/
theorem chores_setPhase_empty (hid : w.IsOn sid id) {p : Adapter.Phase} (hp : p.Idle) :
    Relation.ReflTransGen (Chore scripts sid) w
      (Work.runIn (w.setPhase id p) (Work.emptyOutput id)).2 := by
  have hadapter : (w.setPhase id p).adapter id = { w.adapter id with phase := p } := by
    simp [adapter_setPhase w hid.1]
  have hon : (w.setPhase id p).IsOn sid id := (w.isOn_setPhase p hid.1 id).2 hid
  have hrun : (Work.runIn (w.setPhase id p) (Work.emptyOutput id)).2 =
      (w.setPhase id p).updateSession sid
        (·.updateBuffers (·.reset ((w.setPhase id p).adapter id).output)) := by
    simp [Work.emptyOutput, Work.runIn_bind, hadapter, hid.2]
  rw [hrun]
  exact .tail (.single (.setPhase hid hp)) (.empty hon)

theorem chores_bindNew (store : StoreId) (name : String) :
    Relation.ReflTransGen (Chore scripts sid) w
      (Work.runIn w (Work.bindNew store sid name)).2 := by
  simp only [Work.bindNew, Work.runIn_bind, runIn_openScript]
  cases (w.store store).openScript w.files name with
  | error e => exact .refl
  | ok handle =>
    exact .tail (.single (.newAdapter store)) (.setPhase (isOn_newAdapter store) (.bound handle))

end Workspace

/-- What upkeep is made of. -/
theorem Upkeep.chores {scripts : Script → Prop} {sid : SessionId} {w w' : Workspace}
    (h : Upkeep scripts sid w w') : Relation.ReflTransGen (Chore scripts sid) w w' := by
  cases h with
  | newAdapter store => exact .single (.newAdapter store)
  | edit hf => exact .single (.edit hf)
  | @bind id hid name =>
    simp only [Work.bind, Work.runIn_bind, Work.runIn_get]
    split
    · next hfree =>
      have hp : (w.adapter id).phase = .unbound := Adapter.Phase.isFree_state.1 hfree
      simp only [Work.runIn_bind, Workspace.runIn_openScript, Adapter.state, hp]
      cases (w.store (w.adapter id).store).openScript w.files name with
      | error e => exact .refl
      | ok handle => exact .single (.setPhase hid (.bound handle))
    · rw [hid.2]
      exact Workspace.chores_bindNew _ name
  | @reset id hid =>
    have hp : (w.adapter id).phase.reset.Idle := by
      cases (w.adapter id).phase with
      | closed => exact .closed
      | _ => exact .unbound
    simp only [Work.reset, Work.runIn_bind, Work.runIn_get, Work.runIn_modify, Workspace.setState,
      Adapter.state, Adapter.Phase.clear_state, Adapter.Phase.phase_state]
    exact Workspace.chores_setPhase_empty hid hp
  | @close id hid =>
    simp only [Work.close, Work.runIn_bind, Work.runIn_get]
    split
    · exact .refl
    · simp only [Work.runIn_bind, Work.runIn_modify, Workspace.setState, Adapter.state,
        Adapter.Phase.close_state, Adapter.Phase.phase_state]
      exact Workspace.chores_setPhase_empty hid .closed

/-! ## Soundness -/

/-- What holds of a session and the adapters on it, whatever scripts do. -/
structure Workspace.Sound (w : Workspace) (scripts : Script → Prop) (sid : SessionId) : Prop where
  bounds : sid.index < w.sessions.size
  own : (w.session sid).buffers.Has (w.session sid).ownBuffer
  output : ∀ id, w.IsOn sid id →
    (w.session sid).buffers.Has (w.adapter id).output ∧
      (w.adapter id).output ≠ (w.session sid).ownBuffer
  keeps : ∀ id, w.IsOn sid id → (w.adapter id).phase.Keeps scripts
  files : ∀ file, scripts (w.files.read file)

namespace Workspace

variable {names : String → Prop} {scripts : Script → Prop} {w w' : Workspace} {sid : SessionId}
  {id : AdapterId}

theorem Fresh.sound (h : w.Fresh scripts sid) : w.Sound scripts sid where
  bounds := h.bounds
  own := by
    obtain ⟨name, order, hname⟩ := h.created
    simp [hname, Session.create, BufferStore.Has, BufferStore.create]
  output id hid := absurd hid (h.unused id)
  keeps id hid := absurd hid (h.unused id)
  files := h.files

/-- Changing what buffers hold leaves a session sound. -/
theorem Sound.setInterpreter (h : w.Sound scripts sid) {i : Interpreter}
    (hi : (w.session sid).SameBuffers i.session) : (w.setInterpreter sid i).Sound scripts sid := by
  have hs := session_setInterpreter w h.bounds i
  refine {
    bounds := by simpa [Workspace.setInterpreter] using h.bounds
    own := by rw [hs, hi.has, hi.ownBuffer]; exact h.own
    output := fun id hid => ?_
    keeps := h.keeps
    files := h.files }
  rw [hs, hi.has, hi.ownBuffer]
  exact h.output id hid

theorem Sound.setPhase (h : w.Sound scripts sid) (hid : w.IsOn sid id) {p : Adapter.Phase}
    (hp : p.Keeps scripts) : (w.setPhase id p).Sound scripts sid := by
  refine { h with output := fun other ho => ?_, keeps := fun other ho => ?_ }
  · rw [isOn_setPhase w p hid.1] at ho
    rw [session_setPhase, adapter_setPhase w hid.1]
    split
    · exact h.output other ho
    · exact h.output other ho
  · rw [isOn_setPhase w p hid.1] at ho
    rw [adapter_setPhase w hid.1]
    split
    · exact hp
    · exact h.keeps other ho

theorem Sound.newAdapter (h : w.Sound scripts sid) (store : StoreId) :
    (w.newAdapter store sid).2.Sound scripts sid := by
  have hs := session_newAdapter w h.bounds store
  have hhas (id : BufferId) (hb : (w.session sid).buffers.Has id) :
      (w.session sid).newBuffer.2.buffers.Has id := by
    simp only [BufferStore.Has, Session.newBuffer, BufferStore.create, Array.size_push] at hb ⊢
    omega
  have hold {id : AdapterId} (hid : (w.newAdapter store sid).2.IsOn sid id)
      (hne : id.index ≠ w.adapters.size) : w.IsOn sid id := by
    obtain ⟨hlt, hsid⟩ := hid
    rw [adapter_newAdapter, if_neg hne] at hsid
    simp only [Workspace.newAdapter, Array.size_push] at hlt
    exact ⟨by omega, hsid⟩
  refine {
    bounds := by simpa [Workspace.newAdapter] using h.bounds
    own := by rw [hs]; exact hhas _ h.own
    output := fun id hid => ?_
    keeps := fun id hid => ?_
    files := h.files }
  · rw [hs, adapter_newAdapter]
    split
    · refine ⟨by simp [BufferStore.Has, Session.newBuffer, BufferStore.create], fun he => ?_⟩
      -- the own buffer is older
      have hown := h.own
      have hindex := congrArg BufferId.index he
      simp only [BufferStore.Has, Session.newBuffer, BufferStore.create] at hown hindex
      omega
    · next hne =>
      obtain ⟨hb, hne⟩ := h.output id (hold hid hne)
      exact ⟨hhas _ hb, hne⟩
  · rw [adapter_newAdapter]
    split
    · exact Adapter.Phase.Idle.unbound.keeps
    · next hne => exact h.keeps id (hold hid hne)

theorem Sound.chore (h : w.Sound scripts sid) (hc : Chore scripts sid w w') :
    w'.Sound scripts sid := by
  cases hc with
  | newAdapter store => exact h.newAdapter store
  | setPhase hid hp => exact h.setPhase hid hp.keeps
  | edit hf => exact { h with files := hf }
  | @empty id hid =>
    have hs := session_updateSession w h.bounds
      (·.updateBuffers (·.reset (w.adapter id).output))
    refine {
      bounds := by simpa [updateSession] using h.bounds
      own := ?_
      output := fun other ho => ?_
      keeps := h.keeps
      files := h.files }
    · rw [hs]
      exact BufferStore.has_modify.2 h.own
    · rw [hs]
      exact ⟨BufferStore.has_modify.2 (h.output other ho).1, (h.output other ho).2⟩

/-- A chore leaves the session as it is but for other buffers than its own. -/
theorem Sound.session_chore (h : w.Sound scripts sid) (hc : Chore scripts sid w w') :
    ∃ buffers : BufferStore, w'.session sid = { w.session sid with buffers } ∧
      buffers.text (w.session sid).ownBuffer = (w.session sid).output := by
  cases hc with
  | newAdapter store =>
    exact ⟨_, session_newAdapter w h.bounds store, BufferStore.text_create _ _⟩
  | setPhase | edit => exact ⟨(w.session sid).buffers, rfl, rfl⟩
  | empty hid =>
    exact ⟨_, session_updateSession w h.bounds _,
      BufferStore.text_reset_of_ne _ (h.output _ hid).2⟩

/-- What chores preserve in sound workspaces, upkeep preserves. -/
theorem Sound.upkeep_induction {P : Workspace → Prop} (h : w.Sound scripts sid) (hp : P w)
    (hchore : ∀ u u', u.Sound scripts sid → P u → Chore scripts sid u u' → P u')
    (hw : Upkeep scripts sid w w') : P w' := by
  have both : w'.Sound scripts sid ∧ P w' := by
    have hchores := hw.chores
    clear hw
    induction hchores with
    | refl => exact ⟨h, hp⟩
    | tail _ hc ih => exact ⟨ih.1.chore hc, hchore _ _ ih.1 ih.2 hc⟩
  exact both.2

theorem Sound.upkeep (h : w.Sound scripts sid) (hw : Upkeep scripts sid w w') :
    w'.Sound scripts sid :=
  h.upkeep_induction (P := fun u => u.Sound scripts sid) h (fun _ _ hs _ hc => hs.chore hc) hw

theorem Sound.session_finish (h : w.Sound scripts sid) (hid : w.IsOn sid id) (p : Adapter.Phase)
    (i : Interpreter) :
    (w.finish id p i).session sid = i.session.install i.session.ownBuffer := by
  obtain ⟨_, rfl⟩ := hid
  exact Workspace.session_finish h.bounds p i

theorem Sound.finish (h : w.Sound scripts sid) (hid : w.IsOn sid id) {p : Adapter.Phase}
    (hp : p.Keeps scripts) {i : Interpreter} (hi : (w.session sid).SameBuffers i.session) :
    (w.finish id p i).Sound scripts sid := by
  obtain ⟨hlt, rfl⟩ := hid
  exact (h.setInterpreter (hi.trans (.install _ _))).setPhase ⟨hlt, rfl⟩ hp

theorem session_readingInterpreter (hid : w.IsOn sid id) :
    (w.readingInterpreter id).session = (w.session sid).install (w.adapter id).output := by
  obtain ⟨_, rfl⟩ := hid
  rfl

/-- What is evaluated is a script of the kind, and is kept. -/
theorem Sound.keeps_read (h : w.Sound scripts sid) (hid : w.IsOn sid id)
    {b b' : Adapter.Binding} {s : Script} (hp : (w.adapter id).phase = .bound b)
    (hb : b.read w.files = .ok (s, b')) : scripts s ∧ b'.script? = some s :=
  b.keeps_read hb (fun s => h.keeps id hid b s (by rw [hp, Adapter.Phase.binding?])) h.files

/-- Loading makes changes to the session, if there is anything to evaluate. -/
theorem Sound.changes_loaded (h : w.Sound scripts sid) (hid : w.IsOn sid id) {R : Reach}
    (hR : ∀ s, scripts s → s.Within R) (hc : (w.readingInterpreter id).session.Clean R) :
    (w.readingInterpreter id).session.Changes R (w.loaded id).2.2.session := by
  have hrun {b b' : Adapter.Binding} {s : Script} (hp : (w.adapter id).phase = .bound b)
      (hb : b.read w.files = .ok (s, b')) :
      (w.readingInterpreter id).session.Changes R
        (Eval.runIn (w.readingInterpreter id) (Adapter.evaluate s)).2.session :=
    (Adapter.confined_evaluate (hR s (h.keeps_read hid hp hb).1) _ (Nat.zero_le _) hc).1
  have hstep := w.loadStep id
  generalize w.loaded id = r at hstep ⊢
  cases hstep with
  | kept | unread => exact .refl
  | failed hp hb hr | evaluated hp hb hr =>
    have hi := hrun hp hb
    rwa [hr] at hi

theorem Sound.keeps_loaded (h : w.Sound scripts sid) (hid : w.IsOn sid id) :
    (w.loaded id).2.1.Keeps scripts := by
  have hkeeps {b b' : Adapter.Binding} {s : Script} (hp : (w.adapter id).phase = .bound b)
      (hb : b.read w.files = .ok (s, b')) {s' : Script} (hs : b'.script? = some s') :
      scripts s' := by
    obtain ⟨hscript, hsome⟩ := h.keeps_read hid hp hb
    rw [hsome] at hs
    cases hs
    exact hscript
  have hstep := w.loadStep id
  generalize w.loaded id = r at hstep ⊢
  cases hstep with
  | kept | unread => exact h.keeps id hid
  | failed hp hb | evaluated hp hb =>
    intro b s hbinding hs
    cases hbinding
    exact hkeeps hp hb hs

/-- Steps make changes to the session. -/
theorem changes_stepped {R : Reach} {ss : List Step} (hss : ∀ name ∈ stepGlobals ss, R.name name)
    (hc : (w.session sid).Clean R) : (w.session sid).Changes R (w.stepped sid ss).session :=
  (Eval.confined_steps hss (w.interpreter sid) (Nat.zero_le _) hc).1

/-- Calling a function makes changes to the session. -/
theorem changes_call {R : Reach} {i : Interpreter} (hc : (w.emptied id i).session.Clean R)
    (f : Function) : (w.emptied id i).session.Changes R (w.call id i f).2.session :=
  (Eval.confined_run f _ (Nat.zero_le _) hc).1

theorem sameBuffers_loaded (hid : w.IsOn sid id) :
    (w.session sid).SameBuffers (w.loaded id).2.2.session := by
  have hstart : (w.session sid).SameBuffers (w.readingInterpreter id).session :=
    session_readingInterpreter hid ▸ .install _ _
  exact hstart.trans (Adapter.sameBuffers_load _ _ _)

theorem sameBuffers_call {i : Interpreter} (f : Function) :
    i.session.SameBuffers (w.call id i f).2.session :=
  .trans (.reset _ (w.adapter id).output)
    (.of_changes (changes_call (Session.clean_everything _) f))

theorem Sound.readStep (h : w.Sound scripts sid) (hid : w.IsOn sid id) {entry : String}
    {r : Reading} (hr : ReadStep w id entry r w') : w'.Sound scripts sid := by
  have hkeeps := h.keeps_loaded hid
  have hloaded := sameBuffers_loaded hid
  cases hr with
  | unbound => exact h
  | notLoaded hl =>
    rw [hl] at hkeeps hloaded
    exact h.finish hid hkeeps hloaded
  | notFound hl =>
    rw [hl] at hkeeps hloaded
    exact h.finish hid hkeeps (hloaded.trans (.reset _ _))
  | @failed m p i f j e hl hc =>
    rw [hl] at hkeeps hloaded
    exact h.finish hid hkeeps (hloaded.trans (hc ▸ sameBuffers_call f))
  | @done identifier m p i f j _ hl _ hc =>
    rw [hl] at hkeeps hloaded
    refine h.finish hid ?_ (hloaded.trans (hc ▸ sameBuffers_call f))
    intro b s hb hs
    refine hkeeps b s ?_ hs
    cases p <;> exact hb

end Workspace

/-- Soundness holds throughout a run. -/
theorem SessionRun.sound {names : String → Prop} {scripts : Script → Prop} {sid : SessionId}
    {w₀ w : Workspace} {es : List Event} (h : SessionRun names scripts sid w₀ es w)
    (hfresh : w₀.Fresh scripts sid) : w.Sound scripts sid := by
  induction h with
  | start => exact hfresh.sound
  | upkeep _ hw ih => exact ih.upkeep hw
  | @direct es w ss _ _ ih =>
    refine ih.setInterpreter (.of_changes (R := .everything) ?_)
    exact Workspace.changes_stepped (fun _ _ => trivial) (Session.clean_everything _)
  | @read es w id _ hid method ih =>
    exact ih.readStep hid (Workspace.readStep (hid.2 ▸ ih.bounds) method)

end SchemaMigration
