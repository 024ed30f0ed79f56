import SchemaMigration.Proofs.Migration.AdapterStatus
import SchemaMigration.Proofs.Migration.OutputBuffers

/-!
# The adapter that is bound

Binding a script binds the adapter itself if it has no script and is not closed. Otherwise a new
adapter on the same store and session is bound, and everything that there was stays as it was.
Nothing changes when the script cannot be opened.

## Main definitions

* `Workspace.Grows` — everything is as it was, but for new adapters and new buffers.
* `Workspace.IsBound` — what holds of an adapter right after a script was bound to it.
* `Workspace.BindsApart`, `Workspace.BindsInPlace` — what comes of binding.

## Main results

* `Workspace.bind_apart_or_inPlace` — which of the two it is, for every adapter.
-/

namespace SchemaMigration

namespace Workspace

/-! ## Growing workspaces -/

/-- All adapters, buffers and sessions that there were are as they were, and so is everything else.
There may be new adapters, and new buffers in the sessions. -/
structure Grows (w w' : Workspace) : Prop where
  adapter : ∀ id, id.index < w.adapters.size → w'.adapter id = w.adapter id
  session : ∀ sid, w'.session sid = { w.session sid with buffers := (w'.session sid).buffers }
  text : ∀ sid b, (w'.session sid).buffers.text b = (w.session sid).buffers.text b
  rest : w' = { w with adapters := w'.adapters, sessions := w'.sessions }

namespace Grows

variable {w w' : Workspace} {id : AdapterId} {p : Adapter.Phase}

theorem refl (w : Workspace) : w.Grows w := ⟨fun _ _ => rfl, fun _ => rfl, fun _ _ => rfl, rfl⟩

theorem output (h : w.Grows w') (hid : id.index < w.adapters.size) :
    w'.output id = w.output id := by
  simp only [Workspace.output, h.adapter id hid, h.text]

theorem newBound (w : Workspace) (store : StoreId) (sid : SessionId) (p : Adapter.Phase) :
    w.Grows ((w.newAdapter store sid).2.setPhase ⟨w.adapters.size⟩ p) := by
  have hsession (other : SessionId) : (w.newAdapter store sid).2.session other = w.session other ∨
      (w.newAdapter store sid).2.session other = (w.session other).newBuffer.2 := by
    by_cases hne : sid = other
    · subst hne
      by_cases hsid : sid.index < w.sessions.size
      · exact .inr (session_newAdapter w hsid store)
      · exact .inl (by simp [Workspace.session, newAdapter, hsid])
    · exact .inl (session_newAdapter_of_ne w hne store)
  refine ⟨fun id hid => adapter_newBound hid, fun other => ?_, fun other b => ?_, rfl⟩
  · rw [session_setPhase]
    obtain h | h := hsession other <;> rw [h]
    rfl
  · rw [session_setPhase]
    obtain h | h := hsession other <;> rw [h]
    exact BufferStore.text_create _ _

end Grows

/-! ## What comes of binding -/

/-- A script of a store was just bound to an adapter on the store and a session. -/
structure IsBound (w : Workspace) (id : AdapterId) (store : StoreId) (session : SessionId)
    (name : String) : Prop where
  bounds : id.index < w.adapters.size
  store : (w.adapter id).store = store
  session : (w.adapter id).session = session
  status : (w.adapter id).phase.name = "Bound"
  identifier : (w.adapter id).phase.identifier? = some (Path.identifier name)

theorem isBound_of_phase (w : Workspace) (id : AdapterId) {name : String} {handle : ScriptHandle}
    (hid : id.index < w.adapters.size) (hp : (w.adapter id).phase = .bound { handle })
    (hname : handle.name = name) :
    w.IsBound id (w.adapter id).store (w.adapter id).session name where
  bounds := hid
  store := rfl
  session := rfl
  status := by rw [hp]; rfl
  identifier := by rw [hp, ← hname]; rfl

/-- What binding comes to if it leaves the adapter alone. -/
structure BindsApart (w : Workspace) (id : AdapterId) (name : String)
    (r : Except MigrationError AdapterId × Workspace) : Prop where
  /-- Whatever comes of it. -/
  adapter : r.2.adapter id = w.adapter id
  output : r.2.output id = w.output id
  grows : w.Grows r.2
  failed : ∀ e, r.1 = .error e → r.2 = w
  /-- The adapter that is answered is a new one. -/
  another : ∀ other, r.1 = .ok other → other ≠ id ∧ w.adapters.size ≤ other.index
  bound : ∀ other, r.1 = .ok other →
    r.2.IsBound other (w.adapter id).store (w.adapter id).session name
  empty : ∀ other, r.1 = .ok other → r.2.output other = ""

/-- What binding comes to if it is the adapter itself that is bound. -/
structure BindsInPlace (w : Workspace) (id : AdapterId) (name : String)
    (r : Except MigrationError AdapterId × Workspace) : Prop where
  failed : ∀ e, r.1 = .error e → r.2 = w ∧ (r.2.adapter id).phase.name = "Unbound"
  /-- After a failure every script that can be opened then is still bound in place. -/
  usable : ∀ e, r.1 = .error e → ∀ files next handle,
    (w.store (w.adapter id).store).openScript files next = .ok handle →
    Work.runIn { r.2 with files } (Work.bind id next) =
      (.ok id, { r.2 with files }.setPhase id (.bound { handle }))
  self : ∀ other, r.1 = .ok other → other = id ∧ ∃ p, r.2 = w.setPhase id p
  bound : ∀ other, r.1 = .ok other →
    r.2.IsBound id (w.adapter id).store (w.adapter id).session name

variable {w : Workspace} {id : AdapterId}

theorem bindsApart (hid : id.index < w.adapters.size) (hp : (w.adapter id).phase ≠ .unbound)
    (name : String) : w.BindsApart id name (Work.runIn w (Work.bind id name)) := by
  rw [runIn_bind_of_ne hp, runIn_bindNew]
  cases ho : (w.store (w.adapter id).store).openScript w.files name with
  | error e =>
    exact
      { adapter := rfl
        output := rfl
        grows := .refl w
        failed := fun _ _ => rfl
        another := nofun
        bound := nofun
        empty := nofun }
  | ok handle =>
    set made := (w.newAdapter (w.adapter id).store (w.adapter id).session).2.setPhase
      ⟨w.adapters.size⟩ (.bound { handle })
    change w.BindsApart id name (.ok ⟨w.adapters.size⟩, made)
    have hgrows : w.Grows made := .newBound w _ _ _
    have hmade : made.adapter ⟨w.adapters.size⟩ =
        { store := (w.adapter id).store
          session := (w.adapter id).session
          output := (w.session (w.adapter id).session).newBuffer.1
          phase := .bound { handle } } := adapter_newBound_self ..
    refine
      { adapter := hgrows.adapter id hid
        output := hgrows.output hid
        grows := hgrows
        failed := nofun
        another := ?_
        bound := ?_
        empty := ?_ } <;> rintro other ⟨⟩
    · refine ⟨?_, Nat.le_refl _⟩
      rintro rfl
      exact Nat.lt_irrefl _ hid
    · have hbounds : w.adapters.size < made.adapters.size := by simp [made, setPhase, newAdapter]
      have hbound := isBound_of_phase made ⟨w.adapters.size⟩ hbounds (by rw [hmade])
        (ScriptStore.name_openScript ho)
      simpa only [hmade] using hbound
    · rw [Workspace.output, hmade, hgrows.text]
      exact BufferStore.text_of_not_has (BufferStore.not_has_create _)

theorem bindsInPlace (hid : id.index < w.adapters.size) (hp : (w.adapter id).phase = .unbound)
    (name : String) : w.BindsInPlace id name (Work.runIn w (Work.bind id name)) := by
  rw [runIn_bind_of_unbound hp]
  cases ho : (w.store (w.adapter id).store).openScript w.files name with
  | error e =>
    change w.BindsInPlace id name (.error e, w)
    refine
      { failed := fun _ _ => ⟨rfl, by rw [hp]; rfl⟩
        usable := fun _ _ files next handle hnext => ?_
        self := nofun
        bound := nofun }
    let later : Workspace := { w with files }
    change Work.runIn later (Work.bind id next) = (.ok id, later.setPhase id (.bound { handle }))
    have hopen : (later.store (later.adapter id).store).openScript later.files next = .ok handle :=
      hnext
    have hunbound : (later.adapter id).phase = .unbound := hp
    rw [runIn_bind_of_unbound hunbound, hopen]
  | ok handle =>
    set held := w.setPhase id (.bound { handle })
    change w.BindsInPlace id name (.ok id, held)
    refine
      { failed := nofun
        usable := nofun
        self := fun other h => ⟨(Except.ok.inj h).symm, _, rfl⟩
        bound := fun _ _ => ?_ }
    have hself : held.adapter id = { w.adapter id with phase := .bound { handle } } := by
      rw [adapter_setPhase w hid, if_pos rfl]
    have hbound := isBound_of_phase held id (by simpa [held, setPhase] using hid) (by rw [hself])
      (ScriptStore.name_openScript ho)
    simpa only [hself] using hbound

/-- An adapter that has no script and is not closed is bound itself, every other one is left as it
is and another is bound. It fails if and only if the script cannot be opened. -/
theorem bind_apart_or_inPlace (hid : id.index < w.adapters.size) (name : String) :
    ((w.adapter id).phase.handle?.isSome ∨ (w.adapter id).phase.name = "Closed" →
      w.BindsApart id name (Work.runIn w (Work.bind id name))) ∧
    ((w.adapter id).phase.handle? = none ∧ (w.adapter id).phase.name ≠ "Closed" →
      w.BindsInPlace id name (Work.runIn w (Work.bind id name))) ∧
    ∀ e, (Work.runIn w (Work.bind id name)).1 = .error e ↔
      (w.store (w.adapter id).store).openScript w.files name = .error e := by
  refine ⟨fun h => bindsApart hid ?_ name, fun h => bindsInPlace hid ?_ name, fun e => ?_⟩
  · intro hp
    simp [hp, Adapter.Phase.handle?, Adapter.Phase.binding?] at h
  · cases hp : (w.adapter id).phase <;>
      simp_all [Adapter.Phase.handle?, Adapter.Phase.binding?]
  · by_cases hp : (w.adapter id).phase = .unbound
    · rw [runIn_bind_of_unbound hp]
      cases (w.store (w.adapter id).store).openScript w.files name <;> simp
    · rw [runIn_bind_of_ne hp, runIn_bindNew]
      cases (w.store (w.adapter id).store).openScript w.files name <;> simp

/-- An adapter that rendered an entry, the second time that it was read. -/
def renderedAdapter : Workspace :=
  ((oneAdapter.after ⟨0⟩ (.bind "1_init.lua")).after ⟨0⟩ (.read "up")).after ⟨0⟩ (.read "up")

theorem bind_apart_or_inPlace_renderedAdapter :
    (renderedAdapter.adapter ⟨0⟩).phase.name = "Rendered" ∧
      renderedAdapter.BindsApart ⟨0⟩ "1_init.lua"
        (Work.runIn renderedAdapter (Work.bind ⟨0⟩ "1_init.lua")) ∧
      (Work.runIn renderedAdapter (Work.bind ⟨0⟩ "1_init.lua")).1.toOption = some ⟨1⟩ ∧
      oneAdapter.BindsInPlace ⟨0⟩ "2_more.lua"
        (Work.runIn oneAdapter (Work.bind ⟨0⟩ "2_more.lua")) ∧
      (Work.runIn oneAdapter (Work.bind ⟨0⟩ "2_more.lua")).1.toOption = none := by
  have hrendered : (⟨0⟩ : AdapterId).index < renderedAdapter.adapters.size := by decide +kernel
  have hone : (⟨0⟩ : AdapterId).index < oneAdapter.adapters.size := by decide +kernel
  have hapart := (bind_apart_or_inPlace hrendered "1_init.lua").1 (.inl (by decide +kernel))
  have hinPlace := (bind_apart_or_inPlace hone "2_more.lua").2.1 ⟨rfl, by decide +kernel⟩
  exact ⟨by decide +kernel, hapart, by decide +kernel, hinPlace, by decide +kernel⟩

end Workspace

end SchemaMigration
