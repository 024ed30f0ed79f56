import SchemaMigration.Proofs.Migration.Replacement

/-!
# Binding after a reset

After a reset an adapter can be bound again, whatever was done with it before. What it answers from
then on, and what anyone else on the session sees, is the same as if a new adapter had been made at
that moment and bound to the same script. Nothing of what it was before shows.

## Main definitions

* `Holder` — a workspace with the adapters that someone holds on a session.
* `Holder.serve`, `Holder.replies` — one request, and requests one after the other.
* `SessionRun.rebound_like_new` — a reset adapter that is bound is like a new one.
-/

namespace SchemaMigration

open Session (bufferGlobal)

/-! ## Holders -/

/-- What is seen of an adapter. -/
structure AdapterView where
  status : String
  identifier? : Option String
  lastEntry? : Option String
  output : String
  description : String
deriving DecidableEq

def Workspace.view (w : Workspace) (id : AdapterId) : AdapterView where
  status := (w.adapter id).phase.name
  identifier? := (w.adapter id).phase.identifier?
  lastEntry? := Adapter.Phase.lastEntry? (w.adapter id).phase
  output := w.output id
  description := w.describeAdapter id

/-- What is asked for by someone who holds adapters. Adapters go by the order in which they were
got. -/
inductive HolderRequest where
  | act (adapter : Nat) (a : Adapter.Action)
  | view (adapter : Nat)
  | newAdapter (store : StoreId)
  /-- Steps in the session itself. -/
  | steps (ss : List Step)
  /-- Files change. -/
  | edit (files : FileTree)

inductive HolderReply where
  | noAdapter
  | acted (r : Except MigrationError (Option Rendered))
  | viewed (v : AdapterView)
  | stepped (r : Except ScriptFault Unit)
  | done
deriving DecidableEq

/-- The SQL that an action answers. -/
def Adapter.Outcome.rendered? : Outcome → Option Rendered
  | .rendered r => some r
  | .adapter _ | .done => none

/-- The adapter that an action answers, if it does not fail. -/
def Adapter.Outcome.bound : Except MigrationError Outcome → List AdapterId
  | .ok (.adapter id) => [id]
  | _ => []

/-- Other names of adapters make no difference to what is rendered. -/
theorem Adapter.Outcome.rendered?_map (f : AdapterId → AdapterId)
    (r : Except MigrationError Outcome) :
    (r.map (·.map f)).map Adapter.Outcome.rendered? = r.map Adapter.Outcome.rendered? := by
  rcases r with e | ⟨id | rendered | _⟩ <;> rfl

theorem Adapter.Outcome.bound_map (f : AdapterId → AdapterId) (r : Except MigrationError Outcome) :
    bound (r.map (·.map f)) = (bound r).map f := by
  rcases r with e | ⟨id | rendered | _⟩ <;> rfl

/-- A workspace with the adapters that someone holds on a session. -/
structure Holder where
  workspace : Workspace
  adapters : List AdapterId

namespace Holder

def serve (h : Holder) (sid : SessionId) : HolderRequest → HolderReply × Holder
  | .act i a =>
    match h.adapters[i]? with
    | none => (.noAdapter, h)
    | some id =>
      let (r, workspace) := Work.runIn h.workspace (Work.act id a)
      (.acted (r.map Adapter.Outcome.rendered?),
        ⟨workspace, h.adapters ++ Adapter.Outcome.bound r⟩)
  | .view i =>
    match h.adapters[i]? with
    | none => (.noAdapter, h)
    | some id => (.viewed (h.workspace.view id), h)
  | .newAdapter store =>
    let (id, workspace) := h.workspace.newAdapter store sid
    (.done, ⟨workspace, h.adapters ++ [id]⟩)
  | .steps ss =>
    let (r, i) := Eval.runIn (h.workspace.interpreter sid) (Eval.steps ss)
    (.stepped r, { h with workspace := h.workspace.setInterpreter sid i })
  | .edit files => (.done, { h with workspace := { h.workspace with files } })

def replies (h : Holder) (sid : SessionId) : List HolderRequest → List HolderReply
  | [] => []
  | r :: rs => (h.serve sid r).1 :: (h.serve sid r).2.replies sid rs

end Holder

/-- Holds for requests by which scripts write to buffers by making statements only. -/
def HolderRequest.AvoidsBuffer : HolderRequest → Prop
  | .steps ss => bufferGlobal ∉ stepGlobals ss
  | .edit files => ∀ file, (files.read file).AvoidsBuffer
  | _ => True

/-! ## Buffers -/

/-- No two adapters on a session have one buffer. -/
def Workspace.DistinctOutputs (w : Workspace) (sid : SessionId) : Prop :=
  ∀ id other, w.IsOn sid id → w.IsOn sid other →
    (w.adapter id).output = (w.adapter other).output → id = other

namespace Workspace.DistinctOutputs

variable {w w' : Workspace} {sid : SessionId}

/-- Adapters and their buffers may stay. -/
theorem congr (h : w.DistinctOutputs sid) (hon : ∀ id, w'.IsOn sid id ↔ w.IsOn sid id)
    (houtput : ∀ id, w.IsOn sid id → (w'.adapter id).output = (w.adapter id).output) :
    w'.DistinctOutputs sid := by
  intro id other hid hother he
  rw [hon] at hid hother
  rw [houtput id hid, houtput other hother] at he
  exact h id other hid hother he

theorem chore {scripts : Script → Prop} (h : w.DistinctOutputs sid) (hs : w.Sound scripts sid)
    (hc : Chore scripts sid w w') : w'.DistinctOutputs sid := by
  cases hc with
  | newAdapter store =>
    have hcases (id : AdapterId) (hid : (w.newAdapter store sid).2.IsOn sid id) :
        w.IsOn sid id ∧ ((w.newAdapter store sid).2.adapter id).output = (w.adapter id).output ∨
          id.index = w.adapters.size ∧
            ((w.newAdapter store sid).2.adapter id).output = (w.session sid).newBuffer.1 := by
      obtain ⟨hlt, hsid⟩ := hid
      rw [adapter_newAdapter] at hsid ⊢
      by_cases he : id.index = w.adapters.size
      · simp [he]
      · simp only [newAdapter, Array.size_push, if_neg he] at hlt hsid ⊢
        exact .inl ⟨⟨by omega, hsid⟩, trivial⟩
    have hold (id : AdapterId) (hid : w.IsOn sid id) :
        (w.adapter id).output ≠ (w.session sid).newBuffer.1 := fun he =>
      Nat.lt_irrefl _ (he ▸ (hs.output id hid).1)
    intro id other hid hother he
    rcases hcases id hid with ⟨hon, ho⟩ | ⟨hi, ho⟩ <;>
      rcases hcases other hother with ⟨hon', ho'⟩ | ⟨hi', ho'⟩ <;> rw [ho, ho'] at he
    · exact h id other hon hon' he
    · exact absurd he (hold id hon)
    · exact absurd he.symm (hold other hon')
    · obtain ⟨_⟩ := id
      obtain ⟨_⟩ := other
      exact congrArg AdapterId.mk (hi.trans hi'.symm)
  | @setPhase id hid p =>
    refine h.congr (w.isOn_setPhase p hid.1) fun other _ => ?_
    rw [adapter_setPhase w hid.1]
    split <;> rfl
  | empty | edit => exact h

theorem finish {id : AdapterId} (h : w.DistinctOutputs sid) (hid : w.IsOn sid id)
    (p : Adapter.Phase) (i : Interpreter) : (w.finish id p i).DistinctOutputs sid := by
  refine h.congr (isOn_finish hid.1 p i) fun other _ => ?_
  rw [adapter_finish hid.1]
  split <;> rfl

end Workspace.DistinctOutputs

/-- Every adapter has a buffer of its own throughout a run. -/
theorem SessionRun.distinctOutputs {names : String → Prop} {scripts : Script → Prop}
    {sid : SessionId} {w₀ w : Workspace} {es : List Event}
    (h : SessionRun names scripts sid w₀ es w) (hfresh : w₀.Fresh scripts sid) :
    w.DistinctOutputs sid := by
  induction h with
  | start => exact fun id _ hid => absurd hid (hfresh.unused id)
  | upkeep h hw ih =>
    exact (h.sound hfresh).upkeep_induction (P := fun u => u.DistinctOutputs sid) ih
      (fun _ _ hs h hc => h.chore hs hc) hw
  | direct _ _ ih => exact ih
  | @read es w id h hid method ih =>
    cases hidentifier : (w.adapter id).phase.identifier? with
    | none =>
      rw [Workspace.runIn_read_of_unbound hidentifier]
      exact ih
    | some identifier =>
      rcases hr : Adapter.render w.files (w.adapter id).output identifier
        (EntryName.ofMethod method) (w.adapter id).phase
        (w.interpreter (w.adapter id).session) with ⟨_, p, i⟩
      rw [Workspace.runIn_read hidentifier hr]
      exact ih.finish hid p i

/-! ## Runs -/

/-- Holds if a workspace was reached by a run of a session, in which scripts wrote to buffers by
making statements only. -/
def Workspace.Reached (w : Workspace) (sid : SessionId) : Prop :=
  ∃ w₀ es, w₀.Fresh Script.AvoidsBuffer sid ∧
    SessionRun (· ≠ bufferGlobal) Script.AvoidsBuffer sid w₀ es w

namespace Workspace

variable {w : Workspace} {sid : SessionId} {id other : AdapterId}

theorem Leaves.isOn {p : Adapter.Phase} {w' : Workspace} (h : w.Leaves id p w')
    (hother : w.IsOn sid other) : w'.IsOn sid other := by
  obtain ⟨hlt, rfl⟩ := hother
  refine ⟨Nat.lt_of_lt_of_le hlt h.size, ?_⟩
  by_cases he : other = id
  · rw [he, h.self]
  · rw [h.other other he hlt]

theorem isOn_after (hid : w.IsOn sid id) (a : Adapter.Action) (hother : w.IsOn sid other) :
    (w.after id a).IsOn sid other := by
  obtain ⟨_, -, hleaves⟩ := turned hid.1 a
  exact hleaves.isOn hother

/-- What is bound is an adapter on the same session. -/
theorem isOn_bound (hid : w.IsOn sid id) (a : Adapter.Action)
    (hother : other ∈ Adapter.Outcome.bound (Work.runIn w (Work.act id a)).1) :
    (w.after id a).IsOn sid other := by
  cases a with
  | bind name =>
    have hafter := isOn_after hid (.bind name) hid
    simp only [after, runIn_act_bind] at hafter hother ⊢
    by_cases hp : (w.adapter id).phase = .unbound
    · rw [runIn_bind_of_unbound hp] at hafter hother ⊢
      cases ho : (w.store (w.adapter id).store).openScript w.files name with
      | error e => simp [ho, Except.map, Adapter.Outcome.bound] at hother
      | ok handle =>
        rw [ho] at hafter hother
        obtain rfl : other = id := by simpa [Except.map, Adapter.Outcome.bound] using hother
        exact hafter
    · rw [runIn_bind_of_ne hp, runIn_bindNew, hid.2] at hother ⊢
      cases ho : (w.store (w.adapter id).store).openScript w.files name with
      | error e => simp [ho, Except.map, Adapter.Outcome.bound] at hother
      | ok handle =>
        rw [ho] at hother
        obtain rfl : other = ⟨w.adapters.size⟩ := by
          simpa [Except.map, Adapter.Outcome.bound] using hother
        exact ((isOn_setPhase _ _ (by simp [newAdapter]) _).2 (isOn_newAdapter _))
  | read method =>
    rw [runIn_act_read] at hother
    cases hr : (Work.runIn w (Work.read id method)).1 <;>
      simp [hr, Except.map, Adapter.Outcome.bound] at hother
  | reset =>
    rw [runIn_act_reset] at hother
    cases hother
  | close =>
    rw [runIn_act_close] at hother
    cases hother

namespace Reached

theorem sound (h : w.Reached sid) : w.Sound Script.AvoidsBuffer sid := by
  obtain ⟨_, _, hfresh, hrun⟩ := h
  exact hrun.sound hfresh

theorem separated (h : w.Reached sid) : ∃ es, Separated sid es w := by
  obtain ⟨_, _, hfresh, hrun⟩ := h
  exact ⟨_, hrun.separated hfresh⟩

theorem clean (h : w.Reached sid) : (w.session sid).Clean .statementsOnly := by
  obtain ⟨_, hseparated⟩ := h.separated
  exact hseparated.clean

theorem distinctOutputs (h : w.Reached sid) : w.DistinctOutputs sid := by
  obtain ⟨_, _, hfresh, hrun⟩ := h
  exact hrun.distinctOutputs hfresh

theorem upkeep {w' : Workspace} (h : w.Reached sid) (hw : Upkeep Script.AvoidsBuffer sid w w') :
    w'.Reached sid := by
  obtain ⟨_, _, hfresh, hrun⟩ := h
  exact ⟨_, _, hfresh, hrun.upkeep hw⟩

theorem stepped (h : w.Reached sid) {ss : List Step}
    (hss : ∀ name ∈ stepGlobals ss, name ≠ bufferGlobal) :
    (w.setInterpreter sid (w.stepped sid ss)).Reached sid := by
  obtain ⟨_, _, hfresh, hrun⟩ := h
  exact ⟨_, _, hfresh, hrun.direct hss⟩

theorem act (h : w.Reached sid) (hid : w.IsOn sid id) (a : Adapter.Action) :
    (w.after id a).Reached sid := by
  cases a with
  | bind name =>
    rw [after, runIn_act_bind]
    exact h.upkeep (.bind hid name)
  | read method =>
    obtain ⟨_, _, hfresh, hrun⟩ := h
    rw [after, runIn_act_read]
    exact ⟨_, _, hfresh, hrun.read hid method⟩
  | reset =>
    rw [after, runIn_act_reset]
    exact h.upkeep (.reset hid)
  | close =>
    rw [after, runIn_act_close]
    exact h.upkeep (.close hid)

end Reached

end Workspace

/-! ## Two holders -/

/-- Two holders of the same adapters, of which one has a new adapter in place of another. -/
structure Holder.Replaced (σ : Replacement) (sid : SessionId) (c c' : Holder) : Prop where
  reached : c.workspace.Reached sid
  on : ∀ id ∈ c.adapters, c.workspace.IsOn sid id
  workspace : SchemaMigration.Replaced σ sid c.workspace c'.workspace
  adapters : c'.adapters = c.adapters.map σ.adapterOf

theorem Replaced.view {σ : Replacement} {sid : SessionId} {w w' : Workspace} {id : AdapterId}
    (h : Replaced σ sid w w') (hid : w.IsOn sid id) : w'.view (σ.adapterOf id) = w.view id := by
  obtain ⟨o, hsession, ho⟩ := h.session
  have hphase : (w'.adapter (σ.adapterOf id)).phase = (w.adapter id).phase := by
    rw [h.adapter id hid]
  have houtput : w'.output (σ.adapterOf id) = w.output id := by
    rw [Workspace.output, Workspace.output, (h.isOn hid).2, hid.2, h.adapter id hid, hsession]
    exact ho.text _
  have hname : (w'.session sid).name = (w.session sid).name := by
    rw [hsession]
    exact ho.name
  have hdescription : w'.describeAdapter (σ.adapterOf id) = w.describeAdapter id := by
    rw [Workspace.describeAdapter, Workspace.describeAdapter, (h.isOn hid).2, hid.2, Adapter.state,
      hphase, hname]
    rfl
  rw [Workspace.view, Workspace.view, hphase, houtput, hdescription]

namespace Holder.Replaced

variable {σ : Replacement} {sid : SessionId} {c c' : Holder}

theorem getElem? (h : Holder.Replaced σ sid c c') (i : Nat) :
    c'.adapters[i]? = c.adapters[i]?.map σ.adapterOf := by
  rw [h.adapters, List.getElem?_map]

/-- One request. -/
theorem serve (h : Holder.Replaced σ sid c c') {r : HolderRequest} (hr : r.AvoidsBuffer) :
    (c'.serve sid r).1 = (c.serve sid r).1 ∧
      Holder.Replaced σ sid (c.serve sid r).2 (c'.serve sid r).2 := by
  have hs := h.reached.sound
  have hclean := h.reached.clean
  cases r with
  | act i a =>
    have hi := h.getElem? i
    cases hid : c.adapters[i]? with
    | none =>
      rw [hid] at hi
      simp only [Holder.serve, hid, hi, Option.map_none]
      exact ⟨trivial, h⟩
    | some id =>
      rw [hid] at hi
      have hon := h.on id (List.mem_of_getElem? hid)
      have hreached := h.reached.act hon a
      have hbound : ∀ other ∈ Adapter.Outcome.bound (Work.runIn c.workspace (Work.act id a)).1,
          (c.workspace.after id a).IsOn sid other := fun _ => Workspace.isOn_bound hon a
      have hafter : ∀ other, c.workspace.IsOn sid other →
          (c.workspace.after id a).IsOn sid other := fun _ => Workspace.isOn_after hon a
      obtain ⟨r, u, u', hu, hu', hreplaced⟩ := h.workspace.act hs hclean hon a
      simp only [Workspace.after, hu] at hreached hbound hafter
      simp only [Holder.serve, hid, hi, hu, hu', Option.map_some]
      refine ⟨congrArg HolderReply.acted (Adapter.Outcome.rendered?_map _ r), hreached,
        fun other hother => ?_, hreplaced, ?_⟩
      · rcases List.mem_append.1 hother with hold | hnew
        · exact hafter other (h.on other hold)
        · exact hbound other hnew
      · rw [h.adapters, List.map_append, Adapter.Outcome.bound_map]
  | view i =>
    have hi := h.getElem? i
    cases hid : c.adapters[i]? with
    | none =>
      rw [hid] at hi
      simp only [Holder.serve, hid, hi, Option.map_none]
      exact ⟨trivial, h⟩
    | some id =>
      rw [hid] at hi
      have hon := h.on id (List.mem_of_getElem? hid)
      simp only [Holder.serve, hid, hi, Option.map_some, h.workspace.view hon]
      exact ⟨trivial, h⟩
  | newAdapter store =>
    obtain ⟨hnew, hreplaced⟩ := h.workspace.newAdapter hs.bounds store
    refine ⟨rfl, h.reached.upkeep (.newAdapter store), fun id hid => ?_, hreplaced, ?_⟩
    · rcases List.mem_append.1 hid with hold | hnew
      · exact (h.on id hold).newAdapter store sid
      · cases List.mem_singleton.1 hnew
        exact Workspace.isOn_newAdapter store
    · simp only [Holder.serve, h.adapters, List.map_append, List.map_cons, List.map_nil, hnew]
  | steps ss =>
    have hnames : ∀ name ∈ stepGlobals ss, name ≠ bufferGlobal := fun name hname he =>
      hr (he ▸ hname)
    obtain ⟨hresult, hreplaced⟩ := h.workspace.steps hs hclean hnames
    exact ⟨congrArg HolderReply.stepped hresult, h.reached.stepped hnames, h.on, hreplaced,
      h.adapters⟩
  | edit files =>
    exact ⟨rfl, h.reached.upkeep (.edit hr), h.on, h.workspace.edit files, h.adapters⟩

/-- Any requests. -/
theorem replies (h : Holder.Replaced σ sid c c') {rs : List HolderRequest}
    (hrs : ∀ r ∈ rs, r.AvoidsBuffer) : c'.replies sid rs = c.replies sid rs := by
  induction rs generalizing c c' with
  | nil => rfl
  | cons r rs ih =>
    obtain ⟨hr, hrest⟩ := List.forall_mem_cons.1 hrs
    obtain ⟨hreply, hnext⟩ := h.serve hr
    rw [Holder.replies, Holder.replies, hreply, ih hnext hrest]

end Holder.Replaced

/-! ## After a reset -/

namespace Workspace

variable {w : Workspace} {sid : SessionId} {id : AdapterId}

theorem adapter_after_reset (hid : id.index < w.adapters.size) :
    (w.after id .reset).adapter id = { w.adapter id with phase := (w.adapter id).phase.reset } := by
  rw [after_reset]
  simp [adapter_setPhase w hid]

/-- A reset leaves the buffer of the adapter empty. -/
theorem text_after_reset {scripts : Script → Prop} (hs : w.Sound scripts sid)
    (hid : w.IsOn sid id) :
    ((w.after id .reset).session sid).buffers.text ((w.after id .reset).adapter id).output =
      "" := by
  have hafter : w.after id .reset = (w.setPhase id (w.adapter id).phase.reset).updateSession sid
      (·.updateBuffers (·.reset (w.adapter id).output)) := by
    rw [after_reset, adapter_setPhase w hid.1, if_pos rfl, hid.2]
  have hbounds : sid.index < (w.setPhase id (w.adapter id).phase.reset).sessions.size := hs.bounds
  rw [adapter_after_reset hid.1, hafter, session_updateSession _ hbounds]
  exact BufferStore.text_reset_self (hs.output id hid).1

/-- Binding a new adapter. -/
theorem runIn_bind_newAdapter (w : Workspace) (store : StoreId) (sid : SessionId) (name : String) :
    Work.runIn (w.newAdapter store sid).2 (Work.bind ⟨w.adapters.size⟩ name) =
      match (w.store store).openScript w.files name with
      | .ok handle =>
        (.ok ⟨w.adapters.size⟩,
          (w.newAdapter store sid).2.setPhase ⟨w.adapters.size⟩ (.bound { handle }))
      | .error e => (.error e, (w.newAdapter store sid).2) := by
  have hnew : (w.newAdapter store sid).2.adapter ⟨w.adapters.size⟩ =
      { store, session := sid, output := (w.session sid).newBuffer.1 } :=
    (adapter_newAdapter w store).trans (if_pos rfl)
  rw [runIn_bind_of_unbound (by rw [hnew]), hnew]
  rfl

/-- A new adapter takes the place of one that was reset. -/
theorem Reached.replaced (h : w.Reached sid) (hid : w.IsOn sid id)
    (hphase : (w.adapter id).phase = .unbound)
    (hempty : (w.session sid).buffers.text (w.adapter id).output = "") {others : List AdapterId}
    (hothers : ∀ other ∈ others, w.IsOn sid other ∧ other ≠ id) :
    ∃ σ : Replacement, σ.adapterOf id = ⟨w.adapters.size⟩ ∧
      Holder.Replaced σ sid ⟨w, id :: others⟩
        ⟨(w.newAdapter (w.adapter id).store sid).2, ⟨w.adapters.size⟩ :: others⟩ := by
  obtain ⟨_, hseparated⟩ := h.separated
  obtain ⟨σ, rfl, hsize, hreplaced⟩ := Replaced.start h.sound hseparated.registered hid
    (fun other hother he => h.distinctOutputs other id hother hid he) hphase hempty
  have hnew : σ.adapterOf σ.adapter = ⟨w.adapters.size⟩ := by
    rw [σ.adapterOf_self, hsize]
  have hsame : others.map σ.adapterOf = others := by
    refine (List.map_congr_left fun other ho => ?_).trans (List.map_id others)
    obtain ⟨hother, hne⟩ := hothers other ho
    exact Replacement.adapterOf_of_lt hne (hsize ▸ hother.1)
  refine ⟨σ, hnew, h, fun other ho => ?_, hreplaced, ?_⟩
  · rcases List.mem_cons.1 ho with rfl | ho
    · exact hid
    · exact (hothers other ho).1
  · rw [List.map_cons, hnew, hsame]

end Workspace

/-- Both adapters are bound to the same script. -/
theorem Holder.Replaced.bind {σ : Replacement} {sid : SessionId} {w w' : Workspace}
    {ids ids' : List AdapterId} (h : Holder.Replaced σ sid ⟨w, ids⟩ ⟨w', ids'⟩) {id : AdapterId}
    (hid : id ∈ ids) (hphase : (w.adapter id).phase = .unbound) {name : String}
    {handle : ScriptHandle} (hopen : (w.store (w.adapter id).store).openScript w.files name =
      .ok handle) :
    Holder.Replaced σ sid ⟨w.setPhase id (.bound { handle }), ids⟩
      ⟨w'.setPhase (σ.adapterOf id) (.bound { handle }), ids'⟩ := by
  have hon := h.on id hid
  have hafter : w.after id (.bind name) = w.setPhase id (.bound { handle }) := by
    rw [Workspace.after, Workspace.runIn_act_bind, Workspace.runIn_bind_of_unbound hphase, hopen]
  refine ⟨hafter ▸ h.reached.act hon _, fun other ho => ?_, h.workspace.setPhase hon _, h.adapters⟩
  exact hafter ▸ Workspace.isOn_after hon _ (h.on other ho)

/-- After a reset, binding an adapter to a script fails as binding a new one fails, or leaves
someone who holds it, and others on the session, with the answers and the views that they would have
with a new adapter in its place. -/
theorem SessionRun.rebound_like_new {sid : SessionId} {w₀ w : Workspace} {es : List Event}
    (h : SessionRun (· ≠ bufferGlobal) Script.AvoidsBuffer sid w₀ es w)
    (hfresh : w₀.Fresh Script.AvoidsBuffer sid) {id : AdapterId} (hid : w.IsOn sid id)
    {others : List AdapterId} (hothers : ∀ other ∈ others, w.IsOn sid other ∧ other ≠ id)
    (name : String) :
    let u := w.after id .reset
    let new := u.newAdapter (u.adapter id).store sid
    match Work.runIn u (Work.bind id name), Work.runIn new.2 (Work.bind new.1 name) with
    | (.ok bound, v), (.ok bound', v') =>
      bound' = new.1 ∧ ∀ rs : List HolderRequest, (∀ r ∈ rs, r.AvoidsBuffer) →
        Holder.replies ⟨v, bound :: others⟩ sid rs = Holder.replies ⟨v', bound' :: others⟩ sid rs
    | (.error e, _), (.error e', _) => e = e'
    | _, _ => False := by
  intro u new
  have hreached : u.Reached sid := Workspace.Reached.act ⟨_, _, hfresh, h⟩ hid .reset
  have hon : u.IsOn sid id := Workspace.isOn_after hid .reset hid
  have hphase : (u.adapter id).phase = (w.adapter id).phase.reset := by
    rw [Workspace.adapter_after_reset hid.1]
  have hbind' : Work.runIn new.2 (Work.bind new.1 name) = _ :=
    u.runIn_bind_newAdapter (u.adapter id).store sid name
  by_cases hclosed : (w.adapter id).phase = .closed
  · -- in place of a closed adapter a new one is bound anyway
    have hne : (u.adapter id).phase ≠ .unbound := by
      rw [hphase, hclosed]
      rintro ⟨⟩
    rw [Workspace.runIn_bind_of_ne hne, Workspace.runIn_bindNew, hbind', hon.2]
    cases (u.store (u.adapter id).store).openScript u.files name with
    | error e => rfl
    | ok handle => exact ⟨rfl, fun _ _ => rfl⟩
  · have hunbound : (u.adapter id).phase = .unbound := by
      rw [hphase]
      cases hp : (w.adapter id).phase with
      | closed => exact absurd hp hclosed
      | _ => rfl
    obtain ⟨σ, hnew, hholders⟩ := hreached.replaced hon hunbound
      (Workspace.text_after_reset (h.sound hfresh) hid) fun other ho =>
        ⟨Workspace.isOn_after hid .reset (hothers other ho).1, (hothers other ho).2⟩
    rw [Workspace.runIn_bind_of_unbound hunbound, hbind']
    cases hopen : (u.store (u.adapter id).store).openScript u.files name with
    | error e => rfl
    | ok handle =>
      have hbound := hholders.bind List.mem_cons_self hunbound hopen
      rw [hnew] at hbound
      exact ⟨rfl, fun rs hrs => (hbound.replies hrs).symm⟩

/-- A session and a store with two scripts. -/
def twoSteps : Workspace :=
  (Workspace.newSession
    { files :=
        { nodes := [(["a"], .directory), (["1_init.lua", "a"], .file ⟨0⟩),
            (["2_next.lua", "a"], .file ⟨1⟩)]
          contents := #[
            .program { entries := [("safeUp", .function [dropStep "first"])] },
            .program { entries := [("safeUp", .function [dropStep "next"])] }] }
      stores := #[{ root := "a" }] } "main").2

theorem fresh_twoSteps : twoSteps.Fresh Script.AvoidsBuffer ⟨0⟩ where
  bounds := by decide
  created := ⟨"main", _, rfl⟩
  unused id h := absurd h.1 (Nat.not_lt_zero _)
  files file := by
    obtain ⟨_ | _ | index⟩ := file
    · exact ⟨by decide, by decide⟩
    · exact ⟨by decide, by decide⟩
    · exact ⟨by simp [twoSteps, Workspace.newSession, FileTree.read, Script.globals],
        by simp [twoSteps, Workspace.newSession, FileTree.read, Script.publishes?]⟩

/-- An adapter on the session that read an entry of the first script, and one that has no script. -/
def firstRendered : Workspace :=
  let w := (twoSteps.newAdapter ⟨0⟩ ⟨0⟩).2
  let w := (Work.runIn w (Work.bind ⟨0⟩ "1_init.lua")).2
  ((Work.runIn w (Work.read ⟨0⟩ "up")).2.newAdapter ⟨0⟩ ⟨0⟩).2

theorem run_firstRendered :
    ∃ es, SessionRun (· ≠ bufferGlobal) Script.AvoidsBuffer ⟨0⟩ twoSteps es firstRendered := by
  have hmade : SessionRun (· ≠ bufferGlobal) Script.AvoidsBuffer ⟨0⟩ twoSteps [] _ :=
    .upkeep .start (.newAdapter ⟨0⟩)
  have hbound := hmade.upkeep (.bind
    (show Workspace.IsOn _ ⟨0⟩ ⟨0⟩ from ⟨by decide +kernel, by decide +kernel⟩) "1_init.lua")
  have hread := hbound.read
    (show Workspace.IsOn _ ⟨0⟩ ⟨0⟩ from ⟨by decide +kernel, by decide +kernel⟩) "up"
  exact ⟨_, hread.upkeep (.newAdapter ⟨0⟩)⟩

/-- The reset adapter forgets the entry that it rendered, and reads the second script like a third
adapter. -/
theorem rebound_like_new_firstRendered :
    (∃ es, SessionRun (· ≠ bufferGlobal) Script.AvoidsBuffer ⟨0⟩ twoSteps es firstRendered) ∧
      (firstRendered.view ⟨0⟩).status = "Rendered" ∧
      (firstRendered.view ⟨0⟩).output = "DROP TABLE \x60first\x60;\n" ∧
      ∃ v v' : Workspace,
        let rs : List HolderRequest := [.view 0, .act 0 (.read "up"), .act 1 (.bind "1_init.lua")]
        (Holder.replies ⟨v', [⟨2⟩, ⟨1⟩]⟩ ⟨0⟩ rs)[1]? =
            some (.acted (.ok (some ⟨"2_next", "safeUp", "DROP TABLE \x60next\x60;\n"⟩))) ∧
          Holder.replies ⟨v, [⟨0⟩, ⟨1⟩]⟩ ⟨0⟩ rs = Holder.replies ⟨v', [⟨2⟩, ⟨1⟩]⟩ ⟨0⟩ rs := by
  obtain ⟨es, hrun⟩ := run_firstRendered
  have hid : firstRendered.IsOn ⟨0⟩ ⟨0⟩ := ⟨by decide +kernel, by decide +kernel⟩
  have hothers : ∀ other ∈ [(⟨1⟩ : AdapterId)],
      firstRendered.IsOn ⟨0⟩ other ∧ other ≠ ⟨0⟩ := by
    simp only [List.mem_singleton, forall_eq]
    exact ⟨⟨by decide +kernel, by decide +kernel⟩, by decide⟩
  have hrebound := hrun.rebound_like_new fresh_twoSteps hid hothers "2_next.lua"
  extract_lets u new at hrebound
  have hbound : (Work.runIn u (Work.bind ⟨0⟩ "2_next.lua")).1 = .ok ⟨0⟩ := by decide +kernel
  have hbound' : (Work.runIn new.2 (Work.bind new.1 "2_next.lua")).1 = .ok ⟨2⟩ := by decide +kernel
  have hread : (Holder.replies ⟨(Work.runIn new.2 (Work.bind new.1 "2_next.lua")).2, [⟨2⟩, ⟨1⟩]⟩ ⟨0⟩
      [.view 0, .act 0 (.read "up"), .act 1 (.bind "1_init.lua")])[1]? =
        some (.acted (.ok (some ⟨"2_next", "safeUp", "DROP TABLE \x60next\x60;\n"⟩))) := by
    decide +kernel
  generalize Work.runIn u (Work.bind ⟨0⟩ "2_next.lua") = r at hrebound hbound
  generalize Work.runIn new.2 (Work.bind new.1 "2_next.lua") = r' at hrebound hbound' hread
  obtain ⟨_, v⟩ := r
  obtain ⟨_, v'⟩ := r'
  subst hbound hbound'
  refine ⟨⟨es, hrun⟩, by decide +kernel, by decide +kernel, v, v', hread, hrebound.2 _ ?_⟩
  simp [HolderRequest.AvoidsBuffer]

end SchemaMigration
