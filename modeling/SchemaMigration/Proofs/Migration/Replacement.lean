import SchemaMigration.Proofs.Migration.AdapterRun
import SchemaMigration.Proofs.Migration.MirroredReading
import SchemaMigration.Proofs.Migration.OutputSeparation

/-!
# An adapter in place of another

Two workspaces, in one of which a new adapter with a new buffer stands in place of an older one. In
the other workspace what is made later gets the identity before that. As long as scripts write to
buffers by making statements only, whatever is done with the adapters comes to the same in both.

## Main definitions

* `Replacement` — an older adapter and the new one, and what becomes of identities.
* `Replacement.mirror` — scripts cannot tell the sessions apart.
* `Replaced` — the relation of the workspaces.
* `Replaced.start` — where it starts.
* `Replaced.read`, `Replaced.bind`, `Replaced.reset`, `Replaced.close` — actions come to the same.
-/

namespace SchemaMigration

open Session (bufferGlobal)

/-! ## Identities -/

/-- Moves one number behind the `n` first, of which it is one, to where there was none. -/
def shift (k n i : Nat) : Nat := if i = k then n else if i < n then i else i + 1

theorem shift_self (k n : Nat) : shift k n k = n := if_pos rfl

theorem shift_of_lt {k n i : Nat} (hne : i ≠ k) (h : i < n) : shift k n i = i := by
  rw [shift, if_neg hne, if_pos h]

theorem shift_of_le {k n i : Nat} (hk : k < n) (h : n ≤ i) : shift k n i = i + 1 := by
  rw [shift, if_neg (by omega), if_neg (by omega)]

theorem shift_inj {k n i j : Nat} (hk : k < n) : shift k n i = shift k n j ↔ i = j := by
  unfold shift
  repeat' split
  all_goals omega

theorem shift_lt_iff {k n m i : Nat} (hk : k < n) (hn : n ≤ m) :
    shift k n i < m + 1 ↔ i < m := by
  unfold shift
  repeat' split
  all_goals omega

/-- An adapter and its buffer, and how many there were of each when new ones took their place. -/
structure Replacement where
  adapter : AdapterId
  adapters : Nat
  output : BufferId
  buffers : Nat
  adapter_lt : adapter.index < adapters
  output_lt : output.index < buffers

namespace Replacement

def adapterOf (σ : Replacement) (id : AdapterId) : AdapterId :=
  ⟨shift σ.adapter.index σ.adapters id.index⟩

def bufferOf (σ : Replacement) (id : BufferId) : BufferId :=
  ⟨shift σ.output.index σ.buffers id.index⟩

variable {σ : Replacement}

theorem adapterOf_self (σ : Replacement) : σ.adapterOf σ.adapter = ⟨σ.adapters⟩ :=
  congrArg AdapterId.mk (shift_self _ _)

theorem adapterOf_of_lt {id : AdapterId} (hne : id ≠ σ.adapter) (h : id.index < σ.adapters) :
    σ.adapterOf id = id :=
  congrArg AdapterId.mk
    (shift_of_lt (fun he => hne (by obtain ⟨⟩ := id; exact congrArg AdapterId.mk he)) h)

theorem adapterOf_inj {id other : AdapterId} : σ.adapterOf id = σ.adapterOf other ↔ id = other := by
  obtain ⟨i⟩ := id
  obtain ⟨j⟩ := other
  simp only [adapterOf, AdapterId.mk.injEq]
  exact shift_inj σ.adapter_lt

theorem bufferOf_self (σ : Replacement) : σ.bufferOf σ.output = ⟨σ.buffers⟩ :=
  congrArg BufferId.mk (shift_self _ _)

theorem bufferOf_of_lt {id : BufferId} (hne : id ≠ σ.output) (h : id.index < σ.buffers) :
    σ.bufferOf id = id :=
  congrArg BufferId.mk
    (shift_of_lt (fun he => hne (by obtain ⟨⟩ := id; exact congrArg BufferId.mk he)) h)

theorem bufferOf_inj {id other : BufferId} : σ.bufferOf id = σ.bufferOf other ↔ id = other := by
  obtain ⟨i⟩ := id
  obtain ⟨j⟩ := other
  simp only [bufferOf, BufferId.mk.injEq]
  exact shift_inj σ.output_lt

end Replacement

/-! ## Sessions -/

/-- Outlets that differ in which buffers there are, the one that statements go to included. -/
structure Replacement.Related (σ : Replacement) (o o' : Outlets) : Prop where
  name : o'.name = o.name
  global : ∀ name, name ≠ bufferGlobal → o'.global name = o.global name
  registered : ∃ id, o.global bufferGlobal = .buffer id ∧
    o'.global bufferGlobal = .buffer (σ.bufferOf id)
  le : σ.buffers ≤ o.buffers.texts.size
  size : o'.buffers.texts.size = o.buffers.texts.size + 1
  text : ∀ id, o'.buffers.text (σ.bufferOf id) = o.buffers.text id

namespace Replacement.Related

variable {σ : Replacement} {o o' : Outlets}

theorem has_iff (h : σ.Related o o') (id : BufferId) :
    o'.buffers.Has (σ.bufferOf id) ↔ o.buffers.Has id := by
  rw [BufferStore.Has, BufferStore.Has, h.size]
  exact shift_lt_iff σ.output_lt h.le

theorem setGlobal (h : σ.Related o o') {name : String} (hname : name ≠ bufferGlobal)
    (guarded : Bool) (v : ScriptValue) :
    σ.Related (o.setGlobal guarded name v) (o'.setGlobal guarded name v) := by
  refine { h with global := fun other hother => ?_, registered := ?_ }
  · rw [Outlets.global_setGlobal, Outlets.global_setGlobal, h.global other hother,
      Outlets.canSet_congr (h.global name hname)]
  · simpa [hname] using h.registered

/-- Statements may go to corresponding buffers. -/
theorem install (h : σ.Related o o') (guarded : Bool) (id : BufferId) :
    σ.Related (o.install guarded id) (o'.install guarded (σ.bufferOf id)) := by
  obtain ⟨own, hown, hown'⟩ := h.registered
  have hset : o.canSet guarded bufferGlobal := by simp [Outlets.canSet, hown]
  have hset' : o'.canSet guarded bufferGlobal := by simp [Outlets.canSet, hown']
  refine { h with global := fun other hother => ?_, registered := ⟨id, ?_, ?_⟩ }
  · simpa [Outlets.install, hother.symm] using h.global other hother
  · simp [Outlets.install, hset]
  · simp [Outlets.install, hset']

/-- Corresponding buffers may change in the same way. -/
theorem modify (h : σ.Related o o') (id : BufferId) (f : String → String) :
    σ.Related (o.modify id f) (o'.modify (σ.bufferOf id) f) := by
  refine {
    name := h.name
    global := h.global
    registered := h.registered
    le := by simpa [Outlets.modify, BufferStore.modify] using h.le
    size := by simpa [Outlets.modify, BufferStore.modify] using h.size
    text := fun other => ?_ }
  change (o'.buffers.modify (σ.bufferOf id) f).text (σ.bufferOf other) =
    (o.buffers.modify id f).text other
  by_cases he : id = other
  · subst he
    by_cases hid : o.buffers.Has id
    · rw [BufferStore.text_modify_self hid, BufferStore.text_modify_self ((h.has_iff id).2 hid),
        h.text id]
    · have hid' : ¬ o'.buffers.Has (σ.bufferOf id) := fun hid' => hid ((h.has_iff id).1 hid')
      rw [BufferStore.text_of_not_has (mt BufferStore.has_modify.1 hid),
        BufferStore.text_of_not_has (mt BufferStore.has_modify.1 hid')]
  · have hne : σ.bufferOf id ≠ σ.bufferOf other := fun hσ => he (bufferOf_inj.1 hσ)
    rw [BufferStore.text_modify_of_ne _ he, BufferStore.text_modify_of_ne _ hne, h.text other]

/-- New buffers correspond. -/
theorem create (h : σ.Related o o') :
    σ.bufferOf o.buffers.create.1 = o'.buffers.create.1 ∧
      σ.Related { o with buffers := o.buffers.create.2 }
        { o' with buffers := o'.buffers.create.2 } := by
  refine ⟨congrArg BufferId.mk ((shift_of_le σ.output_lt h.le).trans h.size.symm), ?_⟩
  refine {
    name := h.name
    global := h.global
    registered := h.registered
    le := by simpa [BufferStore.create] using Nat.le_succ_of_le h.le
    size := by simp [BufferStore.create, h.size]
    text := fun id => ?_ }
  rw [BufferStore.text_create, BufferStore.text_create, h.text id]

/-- A new buffer takes the place of an empty one. -/
theorem newBuffer {s : Session} {own : BufferId} (hregistered : s.registered? = some own)
    (hsize : σ.buffers = s.buffers.texts.size) (hempty : s.buffers.text σ.output = "")
    (hown : σ.bufferOf own = own) :
    σ.Related s.outlets { s.outlets with buffers := s.buffers.create.2 } := by
  have hglobal : s.global bufferGlobal = .buffer own := by
    simp only [Session.registered?] at hregistered
    split at hregistered
    · next b hb => rw [hb, Option.some.inj hregistered]
    · cases hregistered
  refine {
    name := rfl
    global := fun _ _ => rfl
    registered := ⟨own, hglobal, hown.symm ▸ hglobal⟩
    le := hsize.le
    size := by simp [Session.outlets, BufferStore.create]
    text := fun id => ?_ }
  rw [BufferStore.text_create]
  change s.buffers.text (σ.bufferOf id) = s.buffers.text id
  have hnone {other : BufferId} (h : σ.buffers ≤ other.index) : s.buffers.text other = "" :=
    BufferStore.text_of_not_has (Nat.not_lt.2 (hsize ▸ h))
  by_cases hid : id = σ.output
  · rw [hid, hempty, bufferOf_self]
    exact hnone (Nat.le_refl _)
  · by_cases hlt : id.index < σ.buffers
    · rw [bufferOf_of_lt hid hlt]
    · have hle : σ.buffers ≤ id.index := Nat.le_of_not_lt hlt
      have hmoved : (σ.bufferOf id).index = id.index + 1 := shift_of_le σ.output_lt hle
      rw [hnone hle, hnone (hmoved ▸ Nat.le_succ_of_le hle)]

end Replacement.Related

/-- Scripts that write to buffers by making statements only cannot tell such outlets apart. -/
def Replacement.mirror (σ : Replacement) : Mirror .statementsOnly where
  Rel := σ.Related
  migrate := show Session.migrateGlobal ≠ bufferGlobal by decide
  logger := show Session.loggerGlobal ≠ bufferGlobal by decide
  global h hname := h.global _ hname
  table {o o' name place} h := by
    by_cases hname : name = bufferGlobal
    · obtain ⟨id, hid, hid'⟩ := h.registered
      simp [hname, hid, hid']
    · rw [h.global name hname]
  setGlobal h hname := h.setGlobal hname _ _
  text _ hid := absurd rfl (hid _)
  modify _ hid := absurd rfl (hid _)
  registered {o o'} h := by
    obtain ⟨id, hid, hid'⟩ := h.registered
    refine .inr ⟨id, σ.bufferOf id, ?_, ?_, h.modify id⟩
    · simp [Outlets.registered?, hid]
    · simp [Outlets.registered?, hid']

/-- Output may go to corresponding buffers. -/
theorem Replacement.pairs (σ : Replacement) (id : BufferId) :
    σ.mirror.Pairs id (σ.bufferOf id) where
  clean h := Session.clean_install h id
  install h := h.install _ id
  modify h := h.modify id _
  text h := h.text id

/-! ## Workspaces -/

/-- What becomes of what an action answers. -/
def Adapter.Outcome.map (f : AdapterId → AdapterId) : Outcome → Outcome
  | .adapter id => .adapter (f id)
  | .rendered r => .rendered r
  | .done => .done

/-- Two workspaces that are the same but for an adapter on the session, replaced in the second. -/
structure Replaced (σ : Replacement) (sid : SessionId) (w w' : Workspace) : Prop where
  files : w'.files = w.files
  context : w'.context = w.context
  stores : w'.stores = w.stores
  sessions : w'.sessions.size = w.sessions.size
  session : ∃ o, w'.session sid = (w.session sid).withOutlets o ∧
    σ.Related (w.session sid).outlets o
  own : σ.bufferOf (w.session sid).ownBuffer = (w.session sid).ownBuffer
  le : σ.adapters ≤ w.adapters.size
  adapters : w'.adapters.size = w.adapters.size + 1
  adapter : ∀ id, w.IsOn sid id → w'.adapter (σ.adapterOf id) =
    { w.adapter id with output := σ.bufferOf (w.adapter id).output }

namespace Replaced

variable {σ : Replacement} {sid : SessionId} {w w' : Workspace} {id : AdapterId}

theorem lt_iff (h : Replaced σ sid w w') (id : AdapterId) :
    (σ.adapterOf id).index < w'.adapters.size ↔ id.index < w.adapters.size := by
  rw [h.adapters]
  exact shift_lt_iff σ.adapter_lt h.le

theorem isOn (h : Replaced σ sid w w') (hid : w.IsOn sid id) : w'.IsOn sid (σ.adapterOf id) :=
  ⟨(h.lt_iff id).2 hid.1, by rw [h.adapter id hid]; exact hid.2⟩

theorem store (h : Replaced σ sid w w') (id : StoreId) : w'.store id = w.store id := by
  rw [Workspace.store, h.stores]
  rfl

theorem interpreter (h : Replaced σ sid w w') (hclean : (w.session sid).Clean .statementsOnly) :
    (w.interpreter sid).Mirrors σ.mirror (w'.interpreter sid) := by
  obtain ⟨o, hsession, ho⟩ := h.session
  refine ⟨hclean, o, ?_, ho⟩
  rw [Workspace.interpreter, h.context, hsession]
  rfl

theorem setPhase (h : Replaced σ sid w w') (hid : w.IsOn sid id) (p : Adapter.Phase) :
    Replaced σ sid (w.setPhase id p) (w'.setPhase (σ.adapterOf id) p) := by
  have hid' := (h.isOn hid).1
  refine { h with
    le := by simpa [Workspace.setPhase] using h.le
    adapters := by simpa [Workspace.setPhase] using h.adapters
    adapter := fun other hother => ?_ }
  rw [Workspace.isOn_setPhase w p hid.1] at hother
  rw [Workspace.adapter_setPhase w hid.1, Workspace.adapter_setPhase w' hid',
    h.adapter other hother]
  by_cases he : id = other
  · simp [he]
  · simp [he, Replacement.adapterOf_inj]

theorem setInterpreter (h : Replaced σ sid w w') (hsid : sid.index < w.sessions.size)
    {i j : Interpreter} (hij : i.Mirrors σ.mirror j)
    (hown : i.session.ownBuffer = (w.session sid).ownBuffer) :
    Replaced σ sid (w.setInterpreter sid i) (w'.setInterpreter sid j) := by
  obtain ⟨-, o, rfl, ho⟩ := hij
  have hsession := Workspace.session_setInterpreter w hsid i
  have hsession' := Workspace.session_setInterpreter w' (h.sessions ▸ hsid) (i.withOutlets o)
  refine {
    files := h.files
    context := rfl
    stores := h.stores
    sessions := by simpa [Workspace.setInterpreter] using h.sessions
    session := ⟨o, ?_, ?_⟩
    own := ?_
    le := h.le
    adapters := h.adapters
    adapter := h.adapter }
  · rw [hsession, hsession']
    rfl
  · rw [hsession]
    exact ho
  · rw [hsession, hown]
    exact h.own

/-- Emptying the buffer of an adapter. -/
theorem empty (h : Replaced σ sid w w') (hsid : sid.index < w.sessions.size)
    (hclean : (w.session sid).Clean .statementsOnly) (hid : w.IsOn sid id) :
    Replaced σ sid (Work.runIn w (Work.emptyOutput id)).2
      (Work.runIn w' (Work.emptyOutput (σ.adapterOf id))).2 := by
  have hreset := (h.interpreter hclean).reset (σ.pairs (w.adapter id).output)
  rw [Workspace.runIn_emptyOutput, Workspace.runIn_emptyOutput, (h.isOn hid).2, hid.2,
    h.adapter id hid, Workspace.updateSession_eq, Workspace.updateSession_eq]
  exact h.setInterpreter hsid hreset rfl

theorem newAdapter (h : Replaced σ sid w w') (hsid : sid.index < w.sessions.size)
    (store : StoreId) :
    σ.adapterOf (w.newAdapter store sid).1 = (w'.newAdapter store sid).1 ∧
      Replaced σ sid (w.newAdapter store sid).2 (w'.newAdapter store sid).2 := by
  obtain ⟨o, hsession, ho⟩ := h.session
  obtain ⟨hoid, ho'⟩ := ho.create
  have hnew : σ.adapterOf ⟨w.adapters.size⟩ = ⟨w'.adapters.size⟩ :=
    congrArg AdapterId.mk ((shift_of_le σ.adapter_lt h.le).trans h.adapters.symm)
  have hsession₁ := Workspace.session_newAdapter w hsid store
  have hsession₂ := Workspace.session_newAdapter w' (h.sessions ▸ hsid) store
  refine ⟨hnew, {
    files := h.files
    context := h.context
    stores := h.stores
    sessions := by simpa [Workspace.newAdapter] using h.sessions
    session := ⟨{ o with buffers := o.buffers.create.2 }, ?_, ?_⟩
    own := ?_
    le := ?_
    adapters := by simp [Workspace.newAdapter, h.adapters]
    adapter := fun other hother => ?_ }⟩
  · rw [hsession₁, hsession₂, hsession]
    rfl
  · rw [hsession₁]
    exact ho'
  · rw [hsession₁]
    exact h.own
  · simp only [Workspace.newAdapter, Array.size_push]
    exact Nat.le_succ_of_le h.le
  · rw [Workspace.adapter_newAdapter, Workspace.adapter_newAdapter]
    by_cases he : other.index = w.adapters.size
    · obtain rfl : other = ⟨w.adapters.size⟩ := by
        obtain ⟨_⟩ := other
        exact congrArg AdapterId.mk he
      rw [hnew, if_pos rfl, if_pos rfl, hsession]
      exact congrArg (fun output => Adapter.mk store sid output .unbound) hoid.symm
    · have hne : (σ.adapterOf other).index ≠ w'.adapters.size := fun he' => by
        have hσ : σ.adapterOf other = σ.adapterOf ⟨w.adapters.size⟩ :=
          hnew ▸ congrArg AdapterId.mk he'
        exact he (congrArg AdapterId.index (Replacement.adapterOf_inj.1 hσ))
      have hold : w.IsOn sid other := by
        obtain ⟨hlt, hsid⟩ := hother
        rw [Workspace.adapter_newAdapter, if_neg he] at hsid
        simp only [Workspace.newAdapter, Array.size_push] at hlt
        exact ⟨by omega, hsid⟩
      rw [if_neg he, if_neg hne, h.adapter other hold]

theorem edit (h : Replaced σ sid w w') (files : FileTree) :
    Replaced σ sid { w with files } { w' with files } := { h with files := rfl }

/-- A new adapter takes the place of one that has no script and an empty buffer. -/
theorem start {scripts : Script → Prop} (hs : w.Sound scripts sid)
    (hregistered : (w.session sid).registered? = some (w.session sid).ownBuffer)
    (hid : w.IsOn sid id)
    (houtput : ∀ other, w.IsOn sid other → (w.adapter other).output = (w.adapter id).output →
      other = id)
    (hphase : (w.adapter id).phase = .unbound)
    (hempty : (w.session sid).buffers.text (w.adapter id).output = "") :
    ∃ σ : Replacement, σ.adapter = id ∧ σ.adapters = w.adapters.size ∧
      Replaced σ sid w (w.newAdapter (w.adapter id).store sid).2 := by
  obtain ⟨hhas, hne⟩ := hs.output id hid
  let σ : Replacement :=
    { adapter := id
      adapters := w.adapters.size
      output := (w.adapter id).output
      buffers := (w.session sid).buffers.texts.size
      adapter_lt := hid.1
      output_lt := hhas }
  have hsession := Workspace.session_newAdapter w hs.bounds (w.adapter id).store
  have hown : σ.bufferOf (w.session sid).ownBuffer = (w.session sid).ownBuffer :=
    Replacement.bufferOf_of_lt hne.symm hs.own
  refine ⟨σ, rfl, rfl, {
    files := rfl
    context := rfl
    stores := rfl
    sessions := by simp [Workspace.newAdapter]
    session := ⟨{ (w.session sid).outlets with
      buffers := (w.session sid).buffers.create.2 }, ?_, ?_⟩
    own := hown
    le := Nat.le_refl _
    adapters := by simp [Workspace.newAdapter]
    adapter := fun other hother => ?_ }⟩
  · rw [hsession]
    rfl
  · exact .newBuffer hregistered rfl hempty hown
  · rw [Workspace.adapter_newAdapter]
    by_cases he : other = id
    · subst he
      rw [show σ.adapterOf other = ⟨w.adapters.size⟩ from σ.adapterOf_self, if_pos rfl,
        show σ.bufferOf (w.adapter other).output = (w.session sid).newBuffer.1
          from σ.bufferOf_self]
      obtain ⟨-, hsid⟩ := hother
      cases ha : w.adapter other with
      | mk store session output phase => simp_all
    · have hsame : σ.adapterOf other = other := Replacement.adapterOf_of_lt he hother.1
      have hbuffer : σ.bufferOf (w.adapter other).output = (w.adapter other).output :=
        Replacement.bufferOf_of_lt (fun ho => he (houtput other hother ho))
          (hs.output other hother).1
      rw [hsame, if_neg (Nat.ne_of_lt hother.1), hbuffer]

/-! ## Actions -/

/-- Steps in the session itself. -/
theorem steps (h : Replaced σ sid w w') (hs : w.Sound Script.AvoidsBuffer sid)
    (hclean : (w.session sid).Clean .statementsOnly) {ss : List Step}
    (hss : ∀ name ∈ stepGlobals ss, name ≠ Session.bufferGlobal) :
    (Eval.runIn (w'.interpreter sid) (Eval.steps ss)).1 =
        (Eval.runIn (w.interpreter sid) (Eval.steps ss)).1 ∧
      Replaced σ sid (w.setInterpreter sid (w.stepped sid ss))
        (w'.setInterpreter sid (w'.stepped sid ss)) := by
  obtain ⟨r, i, j, hi, hj, hij⟩ := (Eval.mirrored_steps hss).run (Eval.confined_steps hss)
    (h.interpreter hclean)
  have hown := (Session.SameBuffers.of_changes (Workspace.changes_stepped hss hclean)).ownBuffer
  rw [Workspace.stepped, Workspace.stepped, hi, hj]
  rw [Workspace.stepped, hi] at hown
  exact ⟨rfl, h.setInterpreter hs.bounds hij hown⟩

theorem read (h : Replaced σ sid w w') (hs : w.Sound Script.AvoidsBuffer sid)
    (hclean : (w.session sid).Clean .statementsOnly) (hid : w.IsOn sid id) (method : String) :
    ∃ r u u', Work.runIn w (Work.read id method) = (r, u) ∧
      Work.runIn w' (Work.read (σ.adapterOf id) method) = (r, u') ∧ Replaced σ sid u u' := by
  have hadapter := h.adapter id hid
  have hsid := hid.2
  have hsid' := (h.isOn hid).2
  cases hidentifier : (w.adapter id).phase.identifier? with
  | none =>
    have hidentifier' : (w'.adapter (σ.adapterOf id)).phase.identifier? = none := by
      rw [hadapter, hidentifier]
    exact ⟨_, _, _, Workspace.runIn_read_of_unbound hidentifier method,
      Workspace.runIn_read_of_unbound hidentifier' method, h⟩
  | some identifier =>
    have hidentifier' : (w'.adapter (σ.adapterOf id)).phase.identifier? = some identifier := by
      rw [hadapter, hidentifier]
    have hwithin : (w.adapter id).phase.Within .statementsOnly w.files :=
      fun b s b' hp hb => (hs.keeps_read hid hp hb).1.within
    obtain ⟨r, p, i, j, hi, hj, hij⟩ := Adapter.render_mirrors (σ.pairs (w.adapter id).output)
      hwithin identifier (EntryName.ofMethod method) (h.interpreter hclean)
    have hown : i.session.ownBuffer = (w.session sid).ownBuffer := by
      have hsame := Adapter.sameBuffers_render w.files (w.adapter id).output identifier
        (EntryName.ofMethod method) (w.adapter id).phase (w.interpreter sid)
      rw [hi] at hsame
      exact hsame.ownBuffer
    have hi' : Adapter.render w.files (w.adapter id).output identifier (EntryName.ofMethod method)
        (w.adapter id).phase (w.interpreter (w.adapter id).session) = (r, p, i) := by
      rw [hsid]
      exact hi
    have hj' : Adapter.render w'.files (w'.adapter (σ.adapterOf id)).output identifier
        (EntryName.ofMethod method) (w'.adapter (σ.adapterOf id)).phase
        (w'.interpreter (w'.adapter (σ.adapterOf id)).session) = (r, p, j) := by
      rw [hsid', h.files, hadapter]
      exact hj
    refine ⟨_, _, _, Workspace.runIn_read hidentifier hi',
      Workspace.runIn_read hidentifier' hj', ?_⟩
    -- statements go to the session's own buffer again, which is the same in both
    have hpair := σ.pairs i.session.ownBuffer
    have hinstall : Interpreter.Mirrors σ.mirror
        { i with session := i.session.install i.session.ownBuffer }
        { j with session := j.session.install j.session.ownBuffer } := by
      have hj : j.session.ownBuffer = i.session.ownBuffer := by
        obtain ⟨-, o, rfl, -⟩ := hij
        rfl
      have hmoved : σ.bufferOf i.session.ownBuffer = i.session.ownBuffer := by
        rw [hown]
        exact h.own
      rw [hmoved] at hpair
      rw [hj]
      exact hij.install hpair
    rw [Workspace.finish, Workspace.finish, hsid', hsid]
    exact (h.setInterpreter hs.bounds hinstall hown).setPhase hid p

theorem bind (h : Replaced σ sid w w') (hsid : sid.index < w.sessions.size)
    (hid : w.IsOn sid id) (name : String) :
    ∃ r u u', Work.runIn w (Work.bind id name) = (r, u) ∧
      Work.runIn w' (Work.bind (σ.adapterOf id) name) = (r.map σ.adapterOf, u') ∧
        Replaced σ sid u u' := by
  have hadapter := h.adapter id hid
  have hphase : (w'.adapter (σ.adapterOf id)).phase = (w.adapter id).phase := by rw [hadapter]
  have hopen : (w'.store (w'.adapter (σ.adapterOf id)).store).openScript w'.files name =
      (w.store (w.adapter id).store).openScript w.files name := by
    rw [h.store, h.files, hadapter]
  by_cases hp : (w.adapter id).phase = .unbound
  · rw [Workspace.runIn_bind_of_unbound hp, Workspace.runIn_bind_of_unbound (hphase.trans hp),
      hopen]
    cases (w.store (w.adapter id).store).openScript w.files name with
    | error e => exact ⟨_, _, _, rfl, rfl, h⟩
    | ok handle => exact ⟨_, _, _, rfl, rfl, h.setPhase hid _⟩
  · rw [Workspace.runIn_bind_of_ne hp, Workspace.runIn_bind_of_ne (hphase ▸ hp),
      Workspace.runIn_bindNew, Workspace.runIn_bindNew, hopen, hid.2, (h.isOn hid).2, hadapter]
    cases (w.store (w.adapter id).store).openScript w.files name with
    | error e => exact ⟨_, _, _, rfl, rfl, h⟩
    | ok handle =>
      obtain ⟨hnew, hmade⟩ := h.newAdapter hsid (w.adapter id).store
      have hbound := hmade.setPhase (Workspace.isOn_newAdapter _) (.bound { handle })
      have hnew : σ.adapterOf ⟨w.adapters.size⟩ = ⟨w'.adapters.size⟩ := hnew
      rw [hnew] at hbound
      refine ⟨_, _, _, rfl, Prod.ext ?_ rfl, hbound⟩
      exact congrArg Except.ok hnew.symm

theorem reset (h : Replaced σ sid w w') (hsid : sid.index < w.sessions.size)
    (hclean : (w.session sid).Clean .statementsOnly) (hid : w.IsOn sid id) :
    Replaced σ sid (Work.runIn w (Work.reset id)).2
      (Work.runIn w' (Work.reset (σ.adapterOf id))).2 := by
  rw [Workspace.runIn_reset, Workspace.runIn_reset, h.adapter id hid]
  exact (h.setPhase hid _).empty hsid hclean ((w.isOn_setPhase _ hid.1 id).2 hid)

theorem close (h : Replaced σ sid w w') (hsid : sid.index < w.sessions.size)
    (hclean : (w.session sid).Clean .statementsOnly) (hid : w.IsOn sid id) :
    Replaced σ sid (Work.runIn w (Work.close id)).2
      (Work.runIn w' (Work.close (σ.adapterOf id))).2 := by
  have hphase : (w'.adapter (σ.adapterOf id)).phase = (w.adapter id).phase := by
    rw [h.adapter id hid]
  by_cases hp : (w.adapter id).phase = .closed
  · rw [Workspace.runIn_close_of_closed hp, Workspace.runIn_close_of_closed (hphase.trans hp)]
    exact h
  · rw [Workspace.runIn_close_of_ne hp, Workspace.runIn_close_of_ne (hphase ▸ hp)]
    exact (h.setPhase hid _).empty hsid hclean ((w.isOn_setPhase _ hid.1 id).2 hid)

/-- An action answers the same, but for the identity of an adapter that was bound. -/
theorem act (h : Replaced σ sid w w') (hs : w.Sound Script.AvoidsBuffer sid)
    (hclean : (w.session sid).Clean .statementsOnly) (hid : w.IsOn sid id) (a : Adapter.Action) :
    ∃ r u u', Work.runIn w (Work.act id a) = (r, u) ∧
      Work.runIn w' (Work.act (σ.adapterOf id) a) = (r.map (·.map σ.adapterOf), u') ∧
        Replaced σ sid u u' := by
  cases a with
  | bind name =>
    obtain ⟨r, u, u', hu, hu', hreplaced⟩ := h.bind hs.bounds hid name
    rw [Workspace.runIn_act_bind, Workspace.runIn_act_bind, hu, hu']
    refine ⟨_, _, _, rfl, Prod.ext ?_ rfl, hreplaced⟩
    cases r <;> rfl
  | read method =>
    obtain ⟨r, u, u', hu, hu', hreplaced⟩ := h.read hs hclean hid method
    rw [Workspace.runIn_act_read, Workspace.runIn_act_read, hu, hu']
    refine ⟨_, _, _, rfl, Prod.ext ?_ rfl, hreplaced⟩
    cases r <;> rfl
  | reset =>
    have hreplaced := h.reset hs.bounds hclean hid
    rw [Workspace.runIn_act_reset, Workspace.runIn_act_reset]
    exact ⟨_, _, _, rfl, rfl, hreplaced⟩
  | close =>
    have hreplaced := h.close hs.bounds hclean hid
    rw [Workspace.runIn_act_close, Workspace.runIn_act_close]
    exact ⟨_, _, _, rfl, rfl, hreplaced⟩

end Replaced

end SchemaMigration
