import SchemaMigration.Proofs.Migration.VersionScript

/-!
# The buffers of adapters

In every run of drivers each adapter has a buffer of its own in its session, which is neither the
session's nor that of another adapter, whatever scripts do.

## Main definitions

* `Workspace.Outputs` — what holds of the buffers of adapters.
* `Workspace.Unused` — where runs start.
* `DriverRun.outputs`, `DriverRun.provided` — what holds throughout a run.
-/

namespace SchemaMigration

namespace Workspace

/-- What holds of the buffers of adapters. -/
structure Outputs (w : Workspace) : Prop where
  session : ∀ id, id.index < w.adapters.size → (w.adapter id).session.index < w.sessions.size
  own : w.HasOwn
  has : ∀ id, id.index < w.adapters.size →
    (w.session (w.adapter id).session).buffers.Has (w.adapter id).output
  ne_own : ∀ id, id.index < w.adapters.size →
    (w.adapter id).output ≠ (w.session (w.adapter id).session).ownBuffer
  injective : ∀ id other, id.index < w.adapters.size → other.index < w.adapters.size →
    (w.adapter id).session = (w.adapter other).session →
    (w.adapter id).output = (w.adapter other).output → id = other

/-! ## Other sessions -/

section Other

variable (w : Workspace) {sid other : SessionId} (h : sid ≠ other)

include h

theorem session_setInterpreter_of_ne (i : Interpreter) :
    (w.setInterpreter sid i).session other = w.session other := by
  have hne : sid.index ≠ other.index := fun he => h (by cases sid; cases other; simp_all)
  simp [session, setInterpreter, hne]

theorem session_updateSession_of_ne (f : Session → Session) :
    (w.updateSession sid f).session other = w.session other := by
  have hne : sid.index ≠ other.index := fun he => h (by cases sid; cases other; simp_all)
  simp [session, updateSession, Array.getElem?_modify, hne]

theorem session_newAdapter_of_ne (store : StoreId) :
    (w.newAdapter store sid).2.session other = w.session other := by
  have hne : sid.index ≠ other.index := fun he => h (by cases sid; cases other; simp_all)
  simp [session, newAdapter, hne]

end Other

/-! ## What keeps the buffers -/

/-- Adapters and sessions stay, with their buffers. -/
structure KeepsBuffers (w w' : Workspace) : Prop where
  adapters : w'.adapters.size = w.adapters.size
  adapter : ∀ id, id.index < w.adapters.size → (w'.adapter id).session = (w.adapter id).session ∧
    (w'.adapter id).output = (w.adapter id).output
  sessions : w'.sessions.size = w.sessions.size
  session : ∀ id, id.index < w.sessions.size → (w.session id).SameBuffers (w'.session id)

namespace KeepsBuffers

variable {w w' w'' : Workspace} {id : AdapterId} {sid : SessionId}

theorem trans (h : w.KeepsBuffers w') (h' : w'.KeepsBuffers w'') : w.KeepsBuffers w'' where
  adapters := h'.adapters.trans h.adapters
  adapter id hid := by
    obtain ⟨hsession, houtput⟩ := h.adapter id hid
    obtain ⟨hsession', houtput'⟩ := h'.adapter id (h.adapters ▸ hid)
    exact ⟨hsession'.trans hsession, houtput'.trans houtput⟩
  sessions := h'.sessions.trans h.sessions
  session id hid := (h.session id hid).trans (h'.session id (h.sessions ▸ hid))

/-- Stores, sets of adapters and files do not matter. -/
theorem of_eq (hadapters : w'.adapters = w.adapters) (hsessions : w'.sessions = w.sessions) :
    w.KeepsBuffers w' where
  adapters := by rw [hadapters]
  adapter id _ := by simp [Workspace.adapter, hadapters]
  sessions := by rw [hsessions]
  session id _ := by
    simp only [Workspace.session, hsessions]
    exact .refl _

theorem setPhase (hid : id.index < w.adapters.size) (p : Adapter.Phase) :
    w.KeepsBuffers (w.setPhase id p) where
  adapters := by simp [Workspace.setPhase]
  adapter other _ := by
    rw [adapter_setPhase w hid]
    split
    · exact ⟨rfl, rfl⟩
    · exact ⟨rfl, rfl⟩
  sessions := rfl
  session _ _ := .refl _

theorem setInterpreter {i : Interpreter} (hi : (w.session sid).SameBuffers i.session) :
    w.KeepsBuffers (w.setInterpreter sid i) where
  adapters := rfl
  adapter _ _ := ⟨rfl, rfl⟩
  sessions := by simp [Workspace.setInterpreter]
  session other hother := by
    by_cases he : sid = other
    · subst he
      rwa [session_setInterpreter w hother]
    · rw [session_setInterpreter_of_ne w he]
      exact .refl _

theorem reset (sid : SessionId) (output : BufferId) :
    w.KeepsBuffers (w.updateSession sid (·.updateBuffers (·.reset output))) where
  adapters := rfl
  adapter _ _ := ⟨rfl, rfl⟩
  sessions := by simp [Workspace.updateSession]
  session other hother := by
    by_cases he : sid = other
    · subst he
      rw [session_updateSession w hother]
      exact .reset _ _
    · rw [session_updateSession_of_ne w he]
      exact .refl _

theorem finish (hid : id.index < w.adapters.size) {i : Interpreter}
    (hi : (w.session (w.adapter id).session).SameBuffers i.session) (p : Adapter.Phase) :
    w.KeepsBuffers (w.finish id p i) := by
  have hinstall := hi.trans (.install _ i.session.ownBuffer)
  refine .trans (setInterpreter ?_) (setPhase ?_ p)
  · exact hinstall
  · exact hid

end KeepsBuffers

namespace Outputs

variable {w w' : Workspace} {id : AdapterId} {sid : SessionId}

theorem keep (h : w.Outputs) (hk : w.KeepsBuffers w') : w'.Outputs where
  session id hid := by
    rw [hk.adapters] at hid
    rw [(hk.adapter id hid).1, hk.sessions]
    exact h.session id hid
  own id hid := by
    rw [hk.sessions] at hid
    have hsame := hk.session id hid
    rw [hsame.has, hsame.ownBuffer]
    exact h.own id hid
  has id hid := by
    rw [hk.adapters] at hid
    obtain ⟨hsession, houtput⟩ := hk.adapter id hid
    rw [hsession, houtput, (hk.session _ (h.session id hid)).has]
    exact h.has id hid
  ne_own id hid := by
    rw [hk.adapters] at hid
    obtain ⟨hsession, houtput⟩ := hk.adapter id hid
    rw [hsession, houtput, (hk.session _ (h.session id hid)).ownBuffer]
    exact h.ne_own id hid
  injective id other hid hother hsession houtput := by
    rw [hk.adapters] at hid hother
    obtain ⟨hs, ho⟩ := hk.adapter id hid
    obtain ⟨hs', ho'⟩ := hk.adapter other hother
    rw [hs, hs'] at hsession
    rw [ho, ho'] at houtput
    exact h.injective id other hid hother hsession houtput

/-- Opening makes no adapters. -/
theorem extend (h : w.Outputs) (hw : w.Extends w') : w'.Outputs := by
  have hadapter (id : AdapterId) : w'.adapter id = w.adapter id := by
    simp [Workspace.adapter, hw.adapters]
  refine {
    session := fun id hid => ?_
    own := hw.own h.own
    has := fun id hid => ?_
    ne_own := fun id hid => ?_
    injective := fun id other hid hother => ?_ }
  · rw [hw.adapters] at hid
    rw [hadapter]
    exact (hw.session _ (h.session id hid)).1
  · rw [hw.adapters] at hid
    rw [hadapter, (hw.session _ (h.session id hid)).2]
    exact h.has id hid
  · rw [hw.adapters] at hid
    rw [hadapter, (hw.session _ (h.session id hid)).2]
    exact h.ne_own id hid
  · rw [hw.adapters] at hid hother
    rw [hadapter, hadapter]
    exact h.injective id other hid hother

/-- The buffer of a new adapter is new. -/
theorem newAdapter (h : w.Outputs) (hsid : sid.index < w.sessions.size) (store : StoreId) :
    (w.newAdapter store sid).2.Outputs := by
  have hsession (other : SessionId) :
      ((w.newAdapter store sid).2.session other).ownBuffer = (w.session other).ownBuffer ∧
        ∀ b, (w.session other).buffers.Has b →
          ((w.newAdapter store sid).2.session other).buffers.Has b := by
    by_cases he : sid = other
    · subst he
      rw [session_newAdapter w hsid]
      exact ⟨rfl, fun b hb => BufferStore.has_create.2 (.inl hb)⟩
    · rw [session_newAdapter_of_ne w he]
      exact ⟨rfl, fun _ hb => hb⟩
  have hfresh (b : BufferId) (hb : (w.session sid).buffers.Has b) :
      b ≠ (w.session sid).newBuffer.1 := by
    rintro rfl
    exact BufferStore.not_has_create _ hb
  have hcases (id : AdapterId) (hid : id.index < (w.newAdapter store sid).2.adapters.size) :
      id.index < w.adapters.size ∧ (w.newAdapter store sid).2.adapter id = w.adapter id ∨
        id = ⟨w.adapters.size⟩ ∧ (w.newAdapter store sid).2.adapter id =
          { store, session := sid, output := (w.session sid).newBuffer.1 } := by
    simp only [Workspace.newAdapter, Array.size_push] at hid
    rw [adapter_newAdapter]
    rcases Nat.lt_or_eq_of_le (Nat.le_of_lt_succ hid) with hlt | heq
    · exact .inl ⟨hlt, if_neg (Nat.ne_of_lt hlt)⟩
    · exact .inr ⟨by cases id; simp_all, if_pos heq⟩
  have hold (id : AdapterId) (hid : id.index < w.adapters.size)
      (hs : (w.adapter id).session = sid) :
      (w.adapter id).output ≠ (w.session sid).newBuffer.1 :=
    hfresh _ (hs ▸ h.has id hid)
  refine {
    session := fun id hid => ?_
    own := fun id hid => ?_
    has := fun id hid => ?_
    ne_own := fun id hid => ?_
    injective := fun id other hid hother hs ho => ?_ }
  · have hsize : (w.newAdapter store sid).2.sessions.size = w.sessions.size := by
      simp [Workspace.newAdapter]
    rw [hsize]
    rcases hcases id hid with ⟨hlt, ha⟩ | ⟨-, ha⟩ <;> rw [ha]
    · exact h.session id hlt
    · exact hsid
  · obtain ⟨hown, hhas⟩ := hsession id
    rw [hown]
    exact hhas _ (h.own id (by simpa [Workspace.newAdapter] using hid))
  · rcases hcases id hid with ⟨hlt, ha⟩ | ⟨-, ha⟩ <;> rw [ha]
    · exact (hsession _).2 _ (h.has id hlt)
    · rw [session_newAdapter w hsid]
      exact BufferStore.has_create.2 (.inr rfl)
  · rcases hcases id hid with ⟨hlt, ha⟩ | ⟨-, ha⟩ <;> rw [ha, (hsession _).1]
    · exact h.ne_own id hlt
    · exact (hfresh _ (h.own sid hsid)).symm
  · rcases hcases id hid with ⟨hlt, ha⟩ | ⟨rfl, ha⟩ <;>
      rcases hcases other hother with ⟨hlt', ha'⟩ | ⟨rfl, ha'⟩
    · rw [ha, ha'] at hs ho
      exact h.injective id other hlt hlt' hs ho
    · rw [ha, ha'] at hs ho
      exact absurd ho (hold id hlt hs)
    · rw [ha, ha'] at hs ho
      exact absurd ho.symm (hold other hlt' hs.symm)
    · rfl

theorem sound (h : w.Outputs) (hsid : sid.index < w.sessions.size) :
    w.Sound (fun _ => True) sid where
  bounds := hsid
  own := h.own sid hsid
  output id hid := by
    obtain ⟨hlt, rfl⟩ := hid
    exact ⟨h.has id hlt, h.ne_own id hlt⟩
  keeps _ _ _ _ _ _ := trivial
  files _ := trivial

theorem keepsBuffers_read (h : w.Outputs) (hid : id.index < w.adapters.size) (method : String) :
    w.KeepsBuffers (Work.runIn w (Work.read id method)).2 := by
  have hsid := h.session id hid
  have hloaded := sameBuffers_loaded (w := w) ⟨hid, rfl⟩
  have hstep := readStep hsid method
  generalize (Work.runIn w (Work.read id method)).2 = w' at hstep ⊢
  generalize w.reading id method = r at hstep
  cases hstep with
  | unbound => exact .of_eq rfl rfl
  | notLoaded hl =>
    rw [hl] at hloaded
    exact .finish hid hloaded _
  | notFound hl =>
    rw [hl] at hloaded
    exact .finish hid (hloaded.trans (.reset _ _)) _
  | @failed m p i f j e hl hc =>
    rw [hl] at hloaded
    exact .finish hid (hloaded.trans (hc ▸ sameBuffers_call f)) _
  | @done identifier m p i f j _ hl _ hc =>
    rw [hl] at hloaded
    exact .finish hid (hloaded.trans (hc ▸ sameBuffers_call f)) _

theorem bindNew (h : w.Outputs) (hsid : sid.index < w.sessions.size) (store : StoreId)
    (p : Adapter.Phase) : ((w.newAdapter store sid).2.setPhase ⟨w.adapters.size⟩ p).Outputs :=
  (h.newAdapter hsid store).keep (.setPhase (by simp [Workspace.newAdapter]) p)

theorem act (h : w.Outputs) (hid : id.index < w.adapters.size) (a : Adapter.Action) :
    (w.after id a).Outputs := by
  cases a with
  | read method =>
    simp only [after, runIn_act_read]
    exact h.keep (h.keepsBuffers_read hid method)
  | bind name =>
    simp only [after, runIn_act_bind]
    by_cases hp : (w.adapter id).phase = .unbound
    · rw [runIn_bind_of_unbound hp]
      split
      · exact h.keep (.setPhase hid _)
      · exact h
    · rw [runIn_bind_of_ne hp, runIn_bindNew]
      split
      · exact h.bindNew (h.session id hid) _ _
      · exact h
  | reset =>
    rw [after_reset]
    exact h.keep (.trans (.setPhase hid _) (.reset _ _))
  | close =>
    by_cases hp : (w.adapter id).phase = .closed
    · rwa [after_close_of_closed hp]
    · rw [after_close_of_ne hp]
      exact h.keep (.trans (.setPhase hid _) (.reset _ _))

theorem addSource {o : OpenedSource} (h : w.Outputs) (hsid : o.session.index < w.sessions.size)
    (version : Nat) (handle : ScriptHandle) : (w.addSource o version handle).Outputs :=
  (h.bindNew hsid _ _).keep (.of_eq rfl rfl)

end Outputs

/-! ## Runs -/

/-- Holds of a workspace without adapters. -/
structure Unused (w : Workspace) : Prop where
  adapters : w.adapters.size = 0
  own : w.HasOwn
  registered : w.Registered

/-- Holds if everything is there that is registered or that drivers were opened on. -/
structure Provided (es : List DriverEvent) (w : Workspace) : Prop where
  registered : w.Registered
  session : ∀ o, .opened o ∈ es → o.session.index < w.sessions.size
  store : ∀ o, .opened o ∈ es → o.store.index < w.stores.size

theorem Unused.outputs {w : Workspace} (h : w.Unused) : w.Outputs where
  session id hid := by rw [h.adapters] at hid; cases hid
  own := h.own
  has id hid := by rw [h.adapters] at hid; cases hid
  ne_own id hid := by rw [h.adapters] at hid; cases hid
  injective id _ hid := by rw [h.adapters] at hid; cases hid

namespace Provided

variable {es : List DriverEvent} {w w' : Workspace}

/-- Sessions and stores stay, and no keys are registered. -/
theorem frame {es' : List DriverEvent} (h : Provided es w)
    (hes : ∀ o, .opened o ∈ es' → .opened o ∈ es)
    (hsessions : w'.sessions.size = w.sessions.size) (hstores : w'.stores.size = w.stores.size)
    (hpool : w'.sessionPool = w.sessionPool)
    (hstore : ∀ key id, w'.store? key = some id →
      w.store? key = some id ∧ w'.store id = w.store id) : Provided es' w' where
  registered := by
    refine ⟨fun key id hid => ?_, fun key id hid => ?_, fun key id hid => ?_⟩
    · rw [session?, hpool] at hid
      exact hsessions ▸ h.registered.session key id hid
    · exact hstores ▸ h.registered.store key id (hstore key id hid).1
    · rw [(hstore key id hid).2]
      exact h.registered.root key id (hstore key id hid).1
  session o ho := hsessions ▸ h.session o (hes o ho)
  store o ho := hstores ▸ h.store o (hes o ho)

theorem extend (h : Provided es w) (hw : w.Extends w') : Provided es w' where
  registered := hw.registered h.registered
  session o ho := (hw.session _ (h.session o ho)).1
  store o ho := (hw.store _ (h.store o ho)).1

theorem opened {o : OpenedSource} (h : Provided es w) (hsession : o.session.index < w.sessions.size)
    (hstore : o.store.index < w.stores.size) :
    Provided (es ++ [.opened o]) w.newAdapterSet.2 := by
  have hmem {o' : OpenedSource} (ho' : .opened o' ∈ es ++ [.opened o]) :
      .opened o' ∈ es ∨ o' = o := by
    simpa using ho'
  refine ⟨⟨h.registered.session, h.registered.store, h.registered.root⟩, fun o' ho' => ?_,
    fun o' ho' => ?_⟩
  · rcases hmem ho' with ho' | rfl
    · exact h.session o' ho'
    · exact hsession
  · rcases hmem ho' with ho' | rfl
    · exact h.store o' ho'
    · exact hstore

end Provided

end Workspace

namespace DriverRun

variable {w₀ w : Workspace} {es : List DriverEvent}

theorem provided (h : DriverRun w₀ es w) (hw₀ : w₀.Unused) : w.Provided es := by
  induction h with
  | start => exact ⟨hw₀.registered, nofun, nofun⟩
  | opened _ ho ih =>
    cases Driver.openStep ho with
    | opened hextends _ hsession hstore =>
      have hprovided := ih.extend hextends
      exact hprovided.opened (hsession ih.registered) (hprovided.registered.store _ _ hstore)
  | notOpened _ he ih =>
    cases Driver.openStep he with
    | failed hextends => exact ih.extend hextends
  | source _ ho version ih =>
    rw [Driver.runIn_source]
    split
    · exact ih
    · split
      · exact ih
      · split
        · exact ih
        · refine ih.frame (fun _ h => h) ?_ rfl rfl fun _ _ h => ⟨h, rfl⟩
          simp [Workspace.addSource, Workspace.setAdapterSet, Workspace.setPhase,
            Workspace.newAdapter]
  | act _ hid a ih =>
    obtain ⟨p, -, hleaves⟩ := Workspace.turned hid a
    refine ih.frame (fun o ho => by simpa using ho) hleaves.sessions
      (congrArg Array.size hleaves.stores) hleaves.sessionPool fun key id hkey => ?_
    rw [Workspace.store?, hleaves.storePool] at hkey
    exact ⟨hkey, by rw [Workspace.store, hleaves.stores, Workspace.store]⟩
  | @close es w o h ho ih =>
    have hsources := h.sources
    have hbounds : ∀ p ∈ w.adapterSet o.adapters, p.2.index < w.adapters.size :=
      fun p hp => (hsources.cached o p.1 p.2 ho hp).bounds
    have hclosed := Workspace.leavesOutside_closeAdapters hbounds
    rw [Driver.runIn_close]
    refine ih.frame (fun _ h => h) ?_ ?_ ?_ fun key id hkey => ?_
    · simpa [Workspace.closeDriver, Workspace.setAdapterSet] using hclosed.sessions
    · simp [Workspace.closeDriver, Workspace.setAdapterSet, hclosed.stores]
    · simp [Workspace.closeDriver, Workspace.setAdapterSet, hclosed.sessionPool]
    · rw [Workspace.store?_closeDriver hbounds] at hkey
      split at hkey
      · cases hkey
      · next hne =>
        rw [Workspace.store_closeDriver hbounds,
          if_neg fun hc => hne (ih.registered.key_eq hc.1 hkey)]
        exact ⟨hkey, rfl⟩
  | direct _ hsid ss ih =>
    exact ih.frame (fun _ h => h) (by simp [Workspace.setInterpreter]) rfl rfl
      fun _ _ h => ⟨h, rfl⟩
  | newAdapter _ hsid store ih =>
    exact ih.frame (fun _ h => h) (by simp [Workspace.newAdapter]) rfl rfl fun _ _ h => ⟨h, rfl⟩
  | edit _ files ih => exact ih.frame (fun _ h => h) rfl rfl rfl fun _ _ h => ⟨h, rfl⟩

theorem outputs (h : DriverRun w₀ es w) (hw₀ : w₀.Unused) : w.Outputs := by
  induction h with
  | start => exact hw₀.outputs
  | opened _ ho ih =>
    cases Driver.openStep ho with
    | opened hextends => exact (ih.extend hextends).keep (.of_eq rfl rfl)
  | notOpened _ he ih =>
    cases Driver.openStep he with
    | failed hextends => exact ih.extend hextends
  | @source es w o h ho version ih =>
    rw [Driver.runIn_source]
    split
    · exact ih
    · split
      · exact ih
      · split
        · exact ih
        · exact ih.addSource ((h.provided hw₀).session o ho) version _
  | act _ hid a ih => exact ih.act hid a
  | @close es w o h ho ih =>
    rw [Driver.runIn_close]
    have hsources := h.sources
    have hclosed : (w.closeAdapters (w.adapterSet o.adapters)).Outputs ∧
        (w.closeAdapters (w.adapterSet o.adapters)).adapters.size = w.adapters.size := by
      let P (u : Workspace) : Prop := u.Outputs ∧ u.adapters.size = w.adapters.size
      change P _
      refine Workspace.closeAdapters_induction ⟨ih, rfl⟩ fun u hu p hp => ?_
      have hid := (hsources.cached o p.1 p.2 ho hp).bounds
      exact ⟨hu.1.act (hu.2 ▸ hid) .close, (Workspace.size_after_close u p.2).trans hu.2⟩
    refine hclosed.1.keep (.of_eq ?_ ?_)
    · exact Workspace.adapters_removeStore _ _
    · exact Workspace.sessions_removeStore _ _
  | @direct es w sid _ hsid ss ih =>
    refine ih.keep (.setInterpreter (.of_changes (R := .everything) ?_))
    exact Workspace.changes_stepped (fun _ _ => trivial) (Session.clean_everything _)
  | newAdapter _ hsid store ih => exact ih.newAdapter hsid store
  | edit _ files ih => exact ih.keep (.of_eq rfl rfl)

end DriverRun

end SchemaMigration
