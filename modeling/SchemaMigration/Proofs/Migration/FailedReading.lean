import SchemaMigration.Proofs.Migration.AdapterStatus

/-!
# Readings that fail

A reading changes its adapter and the session before it can fail. What a failure leaves behind in
the adapter is the evaluation of its script, and nothing else. Afterwards statements go to the
session's own buffer, whatever the script did to the global name that holds the buffer, unless it
saw to it that the name cannot be set: names cannot be added any more, and this one is gone.

## Main definitions

* `Workspace.KeptByFailure` — what a failed reading leaves of its adapter.
* `Workspace.read_restores` — readings that fail, and the buffer that is registered after any one.
-/

namespace SchemaMigration

namespace Workspace

variable {w : Workspace} {id : AdapterId}

/-- What a reading that fails leaves of its adapter. The status moves if and only if the reading
evaluated the script. -/
structure KeptByFailure (w : Workspace) (id : AdapterId) (w' : Workspace) : Prop where
  identifier : (w'.adapter id).state.identifier? = (w.adapter id).state.identifier?
  handle : (w'.adapter id).state.handle? = (w.adapter id).state.handle?
  lastEntry : (w'.adapter id).state.entry? = (w.adapter id).state.entry?
  status :
    match w.loading? id with
    | none => (w'.adapter id).state.status = (w.adapter id).state.status
    | some _ => (w.adapter id).state.status = .bound ∧ (w'.adapter id).state.status = .loaded

/-! ## The adapter -/

/-- Loading moves the status if and only if it evaluates the script. -/
theorem status_loaded (w : Workspace) (id : AdapterId) :
    match w.loading? id with
    | none => (w.loaded id).2.1.state.status = (w.adapter id).state.status
    | some _ =>
      (w.adapter id).state.status = .bound ∧ (w.loaded id).2.1.state.status = .loaded := by
  have hstep := w.loadStep id
  generalize hl : w.loaded id = r at hstep
  cases hstep with
  | kept hm =>
    have hloading : w.loading? id = none := by
      cases hp : (w.adapter id).phase <;> simp [hp, Adapter.Phase.module?] at hm <;>
        simp [loading?, hp]
    rw [hloading]
    rfl
  | unread =>
    have hloading : w.loading? id = none := by simp [loading?, hl]
    rw [hloading]
    rfl
  | failed hp =>
    have hloading : w.loading? id = none := by simp [loading?, hl]
    rw [hloading, Adapter.state, hp]
    rfl
  | evaluated hp hb =>
    simp only [loading?, Adapter.state, hp, hl, hb]
    exact ⟨rfl, rfl⟩

/-- Loading keeps the script and the entry that was rendered last. -/
theorem keptByFailure_loaded {w' : Workspace} (h : (w'.adapter id).phase = (w.loaded id).2.1) :
    w.KeptByFailure id w' := by
  have hsame : (w.loaded id).2.1.state.handle? = (w.adapter id).phase.state.handle? ∧
      (w.loaded id).2.1.state.identifier? = (w.adapter id).phase.state.identifier? ∧
      (w.loaded id).2.1.state.entry? = (w.adapter id).phase.state.entry? := by
    rcases w.phase_loaded id with hp | ⟨b, b', hp, hb, hp' | ⟨m, hp'⟩⟩
    · rw [hp]
      exact ⟨rfl, rfl, rfl⟩
    all_goals
      rw [hp, hp']
      simp [Adapter.Phase.state, Adapter.Binding.state, Adapter.Binding.identifier, hb]
  obtain ⟨hhandle, hidentifier, hentry⟩ := hsame
  have hstate : (w'.adapter id).state = (w.loaded id).2.1.state := congrArg Adapter.Phase.state h
  exact ⟨hstate ▸ hidentifier, hstate ▸ hhandle, hstate ▸ hentry, hstate ▸ w.status_loaded id⟩

theorem lt_of_identifier? {identifier : String}
    (h : (w.adapter id).phase.identifier? = some identifier) : id.index < w.adapters.size := by
  refine Nat.lt_of_not_le fun hle => ?_
  have hdefault : w.adapter id = default := by simp [adapter, hle]
  rw [hdefault] at h
  cases h

/-- A failed reading leaves the phase that loading left. -/
theorem phase_of_failure {method : String} {e : MigrationError} {w' : Workspace}
    (h : Work.runIn w (Work.read id method) = (.error e, w')) :
    (w'.adapter id).phase = (w.loaded id).2.1 := by
  cases hid : (w.adapter id).phase.identifier? with
  | none =>
    rw [runIn_read_of_unbound hid] at h
    cases h
    rw [loaded_of_unbound hid]
  | some identifier =>
    rcases hr : Adapter.render w.files (w.adapter id).output identifier (EntryName.ofMethod method)
      (w.adapter id).phase (w.interpreter (w.adapter id).session) with ⟨e' | sql, p, i⟩
    · rw [runIn_read hid hr] at h
      cases h
      rw [adapter_finish (lt_of_identifier? hid), if_pos rfl]
      exact phase_of_render hr
    · rw [runIn_read hid hr] at h
      cases h

/-! ## The session -/

/-- Whether a global name can be set does not change when the name for the buffer is. -/
theorem canSet_install (s : Session) (id : BufferId) :
    (s.install id).canSet Session.bufferGlobal = s.canSet Session.bufferGlobal := by
  cases hset : s.canSet Session.bufferGlobal with
  | true => exact Session.canSet_of_registered? ((s.registered?_install id).trans (if_pos hset))
  | false =>
    have hsame : s.install id = s := by simp [Session.install, Session.setGlobal, hset]
    rw [hsame, hset]

/-- Whatever comes of reading a bound adapter, afterwards statements go to the session's own buffer,
which is still the same one, or the name for it cannot be set. -/
theorem registered?_read (hid : (w.adapter id).state.handle? ≠ none)
    (hsid : (w.adapter id).session.index < w.sessions.size) (method : String) :
    let s := (Work.runIn w (Work.read id method)).2.session (w.adapter id).session
    s.ownBuffer = (w.session (w.adapter id).session).ownBuffer ∧
      s.registered? = if s.canSet Session.bufferGlobal then some s.ownBuffer else none := by
  cases hidentifier : (w.adapter id).phase.identifier? with
  | none =>
    rw [Adapter.state, Adapter.Phase.handle?_state] at hid
    cases hp : (w.adapter id).phase <;>
      simp [hp, Adapter.Phase.handle?, Adapter.Phase.identifier?, Adapter.Phase.binding?]
        at hid hidentifier
  | some identifier =>
    have hsame := Adapter.sameBuffers_render w.files (w.adapter id).output identifier
      (EntryName.ofMethod method) (w.adapter id).phase (w.interpreter (w.adapter id).session)
    rcases hr : Adapter.render w.files (w.adapter id).output identifier (EntryName.ofMethod method)
      (w.adapter id).phase (w.interpreter (w.adapter id).session) with ⟨result, p, i⟩
    rw [hr] at hsame
    rw [runIn_read hidentifier hr, session_finish hsid]
    refine ⟨hsame.ownBuffer, ?_⟩
    rw [canSet_install]
    exact Session.registered?_install _ _

/-- A reading that fails keeps the script, the handle and the entry that was rendered last, and
moves the status only by evaluating the script. After any reading of a bound adapter, statements go
to the session's own buffer, unless names cannot be added and the one for the buffer is gone. -/
theorem read_restores (hsid : (w.adapter id).session.index < w.sessions.size) (method : String) :
    match Work.runIn w (Work.read id method) with
    | (result, w') =>
      (∀ e, result = .error e → w.KeptByFailure id w') ∧
        ((w.adapter id).state.handle? ≠ none →
          let s := w'.session (w.adapter id).session
          s.ownBuffer = (w.session (w.adapter id).session).ownBuffer ∧
            (s.registered? = some s.ownBuffer ↔
              ¬(s.guarded ∧ s.global Session.bufferGlobal = .nil))) := by
  have hregistered := fun hid : (w.adapter id).state.handle? ≠ none =>
    registered?_read hid hsid method
  rcases hrun : Work.runIn w (Work.read id method) with ⟨result, w'⟩
  rw [hrun] at hregistered
  refine ⟨?_, fun hid => ?_⟩
  · rintro e rfl
    exact keptByFailure_loaded (phase_of_failure hrun)
  · obtain ⟨hown, hbuffer⟩ := hregistered hid
    refine ⟨hown, ?_⟩
    simp only [hbuffer, Session.canSet]
    grind

end Workspace

/-- A store with a script whose entry does these steps, and an adapter that is bound to the
script. -/
def boundEntry (body : List Step) : Workspace :=
  let w := (Workspace.newAdapter
    (Workspace.newSession
      { files :=
          { nodes := [(["a"], .directory), (["1_init.lua", "a"], .file ⟨0⟩)]
            contents := #[.program { entries := [("safeUp", .function body)] }] }
        stores := #[{ root := "a" }] } "main").2 ⟨0⟩ ⟨0⟩).2
  (Work.runIn w (Work.bind ⟨0⟩ "1_init.lua")).2

def dropTableStep : Step := .call "dropTable" [.text (.valid "t")] none

/-- An entry that puts a text under the name of the buffer cannot make statements any more. -/
def overwrittenBuffer : Workspace :=
  boundEntry [.setGlobal Session.bufferGlobal (.text (.valid "none")), dropTableStep]

theorem read_restores_overwrittenBuffer :
    ∃ w', ((overwrittenBuffer.adapter ⟨0⟩).session.index < overwrittenBuffer.sessions.size) ∧
      Work.runIn overwrittenBuffer (Work.read ⟨0⟩ "up") =
        (.error (.scriptEval "1_init" .missingBuffer), w') ∧
      overwrittenBuffer.KeptByFailure ⟨0⟩ w' ∧
      (overwrittenBuffer.adapter ⟨0⟩).state.status = .bound ∧
      (w'.adapter ⟨0⟩).state.status = .loaded ∧
      (w'.session ⟨0⟩).registered? = some (w'.session ⟨0⟩).ownBuffer := by
  have hsid : (overwrittenBuffer.adapter ⟨0⟩).session.index < overwrittenBuffer.sessions.size := by
    decide +kernel
  have hrestores := Workspace.read_restores hsid "up"
  have hfault : (Work.runIn overwrittenBuffer (Work.read ⟨0⟩ "up")).1 =
      .error (.scriptEval "1_init" .missingBuffer) := by decide +kernel
  have hloaded : ((Work.runIn overwrittenBuffer (Work.read ⟨0⟩ "up")).2.adapter ⟨0⟩).state.status =
      .loaded := by decide +kernel
  have hopen : ((Work.runIn overwrittenBuffer (Work.read ⟨0⟩ "up")).2.session ⟨0⟩).guarded =
      false := by decide +kernel
  rcases hrun : Work.runIn overwrittenBuffer (Work.read ⟨0⟩ "up") with ⟨result, w'⟩
  rw [hrun] at hrestores hfault hloaded hopen
  obtain rfl := hfault
  obtain ⟨hkept, hregistered⟩ := hrestores
  have hhandle : (overwrittenBuffer.adapter ⟨0⟩).state.handle? ≠ none := by rintro ⟨⟩
  refine ⟨w', hsid, rfl, hkept _ rfl, rfl, hloaded, (hregistered hhandle).2.2 fun h => ?_⟩
  exact Bool.false_ne_true (hopen.symm.trans h.1)

/-- An entry that takes the name of the buffer away for good. -/
def guardedBuffer : Workspace :=
  boundEntry [.setGlobal Session.bufferGlobal .nil, .guardGlobals]

/-- Reading it succeeds, and leaves a session where no statement can be made. -/
theorem registered?_read_guardedBuffer :
    let w' := (Work.runIn guardedBuffer (Work.read ⟨0⟩ "up")).2
    (guardedBuffer.adapter ⟨0⟩).state.status = .bound ∧
      (Work.runIn guardedBuffer (Work.read ⟨0⟩ "up")).1 = .ok ⟨"1_init", "safeUp", ""⟩ ∧
      (w'.session ⟨0⟩).registered? = none ∧
      (Eval.runIn (w'.interpreter ⟨0⟩) (Eval.steps [dropTableStep])).1 =
        .error .missingBuffer :=
  ⟨by decide +kernel, by decide +kernel, by decide +kernel, by decide +kernel⟩

end SchemaMigration
