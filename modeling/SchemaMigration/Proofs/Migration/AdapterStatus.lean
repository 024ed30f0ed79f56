import SchemaMigration.Proofs.Migration.AdapterRun

/-!
# The status of an adapter

The status of an adapter is read off fields that binding, reading, resetting and closing set and
clear one by one, and that a failure may leave half way. Whatever was done with an adapter, the
fields belong together: its status, its identifier, the handle that it holds and the entry that it
rendered last are what its history says. This is shown of the fields alone, for any surroundings in
which the actions happen, and carried over to the adapters of a workspace.

## Main definitions

* `Adapter.State.act` — what an action does to the fields.
* `Adapter.StateRun` — the runs of the fields, in any surroundings.
* `Adapter.State.Consistent` — the fields belong together.
* `Adapter.State.Settled` — what holds of fields with a history.

## Main results

* `Adapter.StateRun.settled` — it holds throughout a run of the fields.
* `AdapterRun.stateRun` — the run of an adapter in a workspace is a run of its fields.
* `AdapterRun.status_consistent` — what holds in every state of an adapter.
-/

namespace SchemaMigration

namespace Adapter

/-! ## Actions on the fields -/

/-- What an adapter meets when something is done with it. -/
structure Surroundings where
  files : FileTree
  store : ScriptStore
  output : BufferId
  interpreter : Interpreter
  /-- The adapter that is made if another one has to be bound. -/
  next : AdapterId

/-- What an action does to the fields of an adapter, and what comes of it. -/
def State.act (c : Surroundings) (id : AdapterId) (s : State) : Action → Turn × State
  | .bind name =>
    match c.store.openScript c.files name with
    | .error e => (⟨.bind name, .error e, []⟩, s)
    | .ok handle =>
      if s.isFree then (⟨.bind name, .ok (.adapter id), []⟩, s.attach handle)
      else (⟨.bind name, .ok (.adapter c.next), []⟩, s)
  | .read method =>
    let (result, x) :=
      Progress.read c.files c.output method { state := s, interpreter := c.interpreter }
    (⟨.read method, result.map .rendered, x.accesses⟩, x.state)
  | .reset => (⟨.reset, .ok .done, []⟩, s.clear)
  | .close => (⟨.close, .ok .done, []⟩, s.close)

/-- The runs of the fields of an adapter, from a new adapter on. Every action meets surroundings of
its own. -/
inductive StateRun (id : AdapterId) : List Turn → State → Prop
  | start : StateRun id [] {}
  | act {ts s} (h : StateRun id ts s) (c : Surroundings) (hc : c.next ≠ id) (a : Action) :
      StateRun id (ts ++ [(s.act c id a).1]) (s.act c id a).2

/-! ## What a reading does to the fields -/

/-- What loading the script does to the fields. -/
inductive State.LoadsTo (s : State) : State → Prop
  | kept : LoadsTo s s
  /-- The script was read, but could not be evaluated. -/
  | read (script : Script) (hs : s.script?.isSome ∨ s.handle?.isSome) :
      LoadsTo s { s with script? := some script }
  | evaluated (script : Script) (m : Module) (hs : s.script?.isSome ∨ s.handle?.isSome) :
      LoadsTo s { s with script? := some script, module := m, loaded := true }

/-- What a reading does to the fields. -/
inductive State.ReadsTo (s : State) (method : String) :
    Except MigrationError Rendered → State → Prop
  | notBound (hs : s.identifier? = none) : ReadsTo s method (.error .notBound) s
  | failed {identifier e s'} (hs : s.identifier? = some identifier) (hl : s.LoadsTo s')
      (he : e = .notBound → s.handle? = none) : ReadsTo s method (.error e) s'
  | rendered {identifier sql s'} (hs : s.identifier? = some identifier) (hl : s.LoadsTo s')
      (hloaded : s'.loaded) :
      ReadsTo s method (.ok ⟨identifier, EntryName.ofMethod method, sql⟩)
        (s'.setRendered (EntryName.ofMethod method))

namespace Progress

theorem script_cases (t : FileTree) (x : Progress) :
    (∃ e, (x.script t).1 = .error e ∧ (x.script t).2.state = x.state ∧
      (e = .notBound → x.state.handle? = none)) ∨
    ∃ s, (x.script t).1 = .ok s ∧ (x.script t).2.state = { x.state with script? := some s } ∧
      (x.state.script?.isSome ∨ x.state.handle?.isSome) := by
  unfold script
  split
  · next s hs => exact .inr ⟨s, rfl, by simp [← hs], .inl (by simp [hs])⟩
  · next hs hh => exact .inl ⟨_, rfl, rfl, fun _ => hh⟩
  · next handle hs hh =>
    cases hr : handle.read t with
    | error e =>
      refine .inl ⟨e, rfl, rfl, ?_⟩
      rintro rfl
      unfold ScriptHandle.read at hr
      split at hr <;> cases hr
    | ok s => exact .inr ⟨s, rfl, rfl, .inr (by simp [hh])⟩

theorem load_cases (t : FileTree) (identifier : String) (x : Progress) :
    x.state.LoadsTo (x.load t identifier).2.state ∧
      ((x.load t identifier).1 = .error .notBound → x.state.handle? = none) ∧
      ((x.load t identifier).1 = .ok () → (x.load t identifier).2.state.loaded) := by
  unfold load
  split
  · next hloaded => exact ⟨.kept, by simp, fun _ => hloaded⟩
  · obtain ⟨e, he, hstate, hnone⟩ | ⟨s, hs, hstate, hheld⟩ := x.script_cases t
    · rcases hx : x.script t with ⟨_ | _, y⟩
      · simp only [hx] at he hstate ⊢
        cases he
        exact ⟨hstate ▸ .kept, fun herror => hnone (Except.error.inj herror), by simp⟩
      · simp [hx] at he
    · rcases hx : x.script t with ⟨_ | _, y⟩
      · simp [hx] at hs
      · simp only [hx] at hs hstate ⊢
        cases hs
        rcases Eval.runIn y.interpreter (evaluate s) with ⟨fault | m, j⟩
        · simp only [note, hstate]
          exact ⟨.read s hheld, by simp, by simp⟩
        · simp only [note, updateState, hstate]
          exact ⟨.evaluated s m hheld, by simp, fun _ => trivial⟩

theorem ne_notBound_of_call {output : BufferId} {identifier entry : String} {x : Progress}
    {e : MigrationError} (h : (x.call output identifier entry).1 = .error e) : e ≠ .notBound := by
  rintro rfl
  unfold call at h
  extract_lets y at h
  split at h
  · cases h
  · dsimp only at h
    split at h <;> cases h

/-- What a reading does to the fields is one of the cases. -/
theorem read_cases (t : FileTree) (output : BufferId) (method : String) (x : Progress) :
    x.state.ReadsTo method (x.read t output method).1 (x.read t output method).2.state := by
  unfold read
  extract_lets entry
  cases hid : x.state.identifier? with
  | none => exact .notBound hid
  | some identifier =>
    obtain ⟨hloads, hnone, hloaded⟩ := (x.updateSession (·.install output)).load_cases t identifier
    simp only [render]
    rcases hl : (x.updateSession (·.install output)).load t identifier with ⟨e | ⟨⟩, y⟩
    · rw [hl] at hloads hnone
      exact .failed hid hloads fun he => hnone (he ▸ rfl)
    · rw [hl] at hloads hloaded
      obtain ⟨fs, hcall⟩ := y.exists_call output identifier entry
      have hne {e : MigrationError} (h : (y.call output identifier entry).1 = .error e) :
          e ≠ .notBound := ne_notBound_of_call h
      simp only [hcall] at hne ⊢
      rcases hc : callEntry identifier entry y.state.module output y.interpreter with ⟨e | sql, j⟩
      · rw [hc] at hne
        exact .failed hid hloads fun he => absurd he (hne rfl)
      · exact .rendered hid hloads (hloaded rfl)

end Progress

/-! ## What an action does to the fields -/

/-- What an action does to the fields, case by case. -/
inductive State.Acts (s : State) (c : Surroundings) (id : AdapterId) : Turn → State → Prop
  | unopened {name e} : Acts s c id ⟨.bind name, .error e, []⟩ s
  | bound {name handle} (hs : s.isFree) (hname : handle.name = name) :
      Acts s c id ⟨.bind name, .ok (.adapter id), []⟩ (s.attach handle)
  | another {name} : Acts s c id ⟨.bind name, .ok (.adapter c.next), []⟩ s
  | read {method result s' accesses} (hr : s.ReadsTo method result s') :
      Acts s c id ⟨.read method, result.map .rendered, accesses⟩ s'
  | reset : Acts s c id ⟨.reset, .ok .done, []⟩ s.clear
  | closed : Acts s c id ⟨.close, .ok .done, []⟩ s.close

/-- Every action is one of the cases. -/
theorem State.acts (s : State) (c : Surroundings) (id : AdapterId) (a : Action) :
    s.Acts c id (s.act c id a).1 (s.act c id a).2 := by
  cases a with
  | bind name =>
    simp only [act]
    cases ho : c.store.openScript c.files name with
    | error e => exact .unopened
    | ok handle =>
      dsimp only
      split
      · next hfree => exact .bound hfree (ScriptStore.name_openScript ho)
      · exact .another
  | read method => exact .read (Progress.read_cases c.files c.output method ⟨s, c.interpreter, []⟩)
  | reset => exact .reset
  | close => exact .closed

/-! ## The fields belong together -/

/-- What belongs together in the fields of an adapter. -/
structure State.Consistent (s : State) : Prop where
  identifier : s.identifier? = s.handle?.map fun handle => Path.identifier handle.name
  script : s.script?.isSome → s.handle?.isSome
  loaded : s.loaded → s.handle?.isSome
  module : s.module.isSome → s.loaded
  rendered : s.rendered → s.loaded
  entry : s.entry?.isSome ↔ s.rendered
  closed : s.closed → s.handle? = none

namespace State

variable {s s' : State} {c : Surroundings} {id : AdapterId}

theorem consistent_clear (s : State) : s.clear.Consistent := by
  constructor <;> simp [clear]

namespace Consistent

theorem attach (h : s.Consistent) (hs : s.isFree) (handle : ScriptHandle) :
    (s.attach handle).Consistent where
  identifier := rfl
  script _ := rfl
  loaded _ := rfl
  module := h.module
  rendered := h.rendered
  entry := h.entry
  closed hclosed := by
    have hopen : s.closed = false := by simpa using (Bool.and_eq_true_iff.1 hs).2
    exact absurd (hopen.symm.trans hclosed) (by simp)

theorem close (h : s.Consistent) : s.close.Consistent := by
  unfold State.close
  split
  · exact h
  · exact { consistent_clear s with closed := fun _ => rfl }

theorem loadsTo (h : s.Consistent) (hl : s.LoadsTo s') : s'.Consistent := by
  have hheld (hs : s.script?.isSome ∨ s.handle?.isSome) : s.handle?.isSome := hs.elim h.script id
  cases hl with
  | kept => exact h
  | read script hs => exact { h with script := fun _ => hheld hs }
  | evaluated script m hs =>
    exact
      { h with
        script := fun _ => hheld hs
        loaded := fun _ => hheld hs
        module := fun _ => rfl
        rendered := fun _ => rfl }

theorem readsTo {method : String} {result : Except MigrationError Rendered} (h : s.Consistent)
    (hr : s.ReadsTo method result s') : s'.Consistent := by
  cases hr with
  | notBound => exact h
  | failed _ hl => exact h.loadsTo hl
  | rendered _ hl hloaded =>
    exact { h.loadsTo hl with rendered := fun _ => hloaded, entry := by simp [setRendered] }

/-- Every action keeps together what belongs together. -/
theorem acts {t : Turn} (h : s.Consistent) (ha : s.Acts c id t s') : s'.Consistent := by
  cases ha with
  | unopened | another => exact h
  | bound hfree => exact h.attach hfree _
  | read hr => exact h.readsTo hr
  | reset => exact consistent_clear s
  | closed => exact h.close

/-- The fields that belong together are those of a phase. -/
theorem state_phase (h : s.Consistent) : s.phase.state = s := by
  obtain ⟨handle?, identifier?, script?, module, loaded, entry?, rendered, closed⟩ := s
  obtain ⟨hidentifier, hscript, hloaded, hmodule, hrendered, hentry, hclosed⟩ := h
  cases handle? with
  | none =>
    obtain rfl : loaded = false := by simpa using hloaded
    obtain rfl : rendered = false := by simpa using hrendered
    obtain rfl : entry? = none := by simpa using hentry
    obtain rfl : script? = none := by simpa using hscript
    obtain rfl : module = none := by simpa using hmodule
    cases closed <;> simp_all [phase, Phase.state]
  | some handle =>
    obtain rfl : closed = false := by simpa using hclosed
    cases hidentifier
    cases rendered with
    | true =>
      obtain rfl : loaded = true := hrendered rfl
      obtain ⟨entry, rfl⟩ : ∃ entry, entry? = some entry :=
        Option.isSome_iff_exists.1 (hentry.2 rfl)
      rfl
    | false =>
      obtain rfl : entry? = none := by simpa using hentry
      cases loaded with
      | true => rfl
      | false =>
        obtain rfl : module = none := by simpa using hmodule
        rfl

end Consistent

end State

theorem Phase.consistent_state (p : Phase) : p.state.Consistent := by
  cases p <;> constructor <;> simp [state, Binding.state, Binding.identifier]

/-! ## What the history says -/

/-- The entry that a reading rendered. -/
def Turn.entry? : Turn → Option String
  | ⟨.read method, .ok _, _⟩ => some (EntryName.ofMethod method)
  | _ => none

/-- The entry that was rendered last, since an adapter was bound. -/
def lastRendered (id : AdapterId) (ts : List Turn) : Option String :=
  ((sinceBind id ts).filterMap Turn.entry?).getLast?

theorem lastRendered_concat (id : AdapterId) (ts : List Turn) (t : Turn) :
    lastRendered id (ts ++ [t]) =
      if (t.attaches? id).isSome then none else t.entry?.or (lastRendered id ts) := by
  cases h : t.attaches? id with
  | none =>
    simp only [lastRendered, sinceBind_concat_of_none h]
    cases he : t.entry? <;> simp [he]
  | some script => simp [lastRendered, sinceBind_concat_of_some h]

namespace State

variable {s s' : State} {c : Surroundings} {id : AdapterId}

theorem status_eq_closed_iff : s.status = .closed ↔ s.closed := by
  unfold status
  split_ifs <;> simp_all

theorem Consistent.status_eq_rendered_iff (h : s.Consistent) :
    s.status = .rendered ↔ s.rendered := by
  have hopen (hr : s.rendered) : ¬ s.closed := fun hc => by
    have hheld := h.loaded (h.rendered hr)
    simp [h.closed hc] at hheld
  unfold status
  split_ifs with hc hr hl hh <;> simp_all

theorem Consistent.isSome_handle?_iff (h : s.Consistent) :
    s.handle?.isSome ↔ s.status ∈ [.bound, .loaded, .rendered] := by
  unfold status
  split_ifs with hc hr hl hh
  · simp [h.closed hc]
  · simp [h.loaded (h.rendered hr)]
  · simp [h.loaded hl]
  · simp [hh]
  · simp [hh]

namespace LoadsTo

theorem handle?_eq (h : s.LoadsTo s') : s'.handle? = s.handle? := by cases h <;> rfl

theorem entry?_eq (h : s.LoadsTo s') : s'.entry? = s.entry? := by cases h <;> rfl

theorem closed_eq (h : s.LoadsTo s') : s'.closed = s.closed := by cases h <;> rfl

end LoadsTo

namespace ReadsTo

variable {method : String} {result : Except MigrationError Rendered}

theorem handle?_eq (h : s.ReadsTo method result s') : s'.handle? = s.handle? := by
  cases h with
  | notBound => rfl
  | failed _ hl => exact hl.handle?_eq
  | rendered _ hl => exact hl.handle?_eq

theorem closed_eq (h : s.ReadsTo method result s') : s'.closed = s.closed := by
  cases h with
  | notBound => rfl
  | failed _ hl => exact hl.closed_eq
  | rendered _ hl => exact hl.closed_eq

theorem entry?_eq (h : s.ReadsTo method result s') :
    s'.entry? = (result.toOption.map fun _ => EntryName.ofMethod method).or s.entry? := by
  cases h with
  | notBound => rfl
  | failed _ hl => exact hl.entry?_eq
  | rendered => rfl

theorem notBound_iff (h : s.ReadsTo method result s') (hs : s.Consistent) :
    result = .error .notBound ↔ s.handle? = none := by
  have hheld : s.handle? = none ↔ s.identifier? = none := by simp [hs.identifier]
  rw [hheld]
  cases h with
  | notBound hs => simp [hs]
  | failed hid _ he =>
    refine ⟨fun h => hheld.1 (he (by simpa using h)), fun h => ?_⟩
    simp [hid] at h
  | rendered hid => simp [hid]

end ReadsTo

/-! ## What an action does to the status -/

variable {t : Turn}

theorem Acts.closed_iff (h : s.Acts c id t s') : s'.closed ↔ s.closed ∨ t.action = .close := by
  cases h with
  | unopened | another => simp
  | bound => simp [attach]
  | read hr => simp [hr.closed_eq]
  | reset => simp [clear]
  | closed =>
    unfold close
    split <;> simp_all

namespace Consistent

theorem entry?_eq_none (h : s.Consistent) (hs : s.handle? = none) : s.entry? = none := by
  have hloaded : ¬ s.loaded := fun hl => by simpa [hs] using h.loaded hl
  have hrendered : ¬ s.rendered := fun hr => hloaded (h.rendered hr)
  simpa using mt h.entry.1 hrendered

/-- The handle is that of the script that the action attached, if it attached one or took it
away. -/
theorem handle?_acts (h : s.Consistent) (hc : c.next ≠ id) (ha : s.Acts c id t s') :
    s'.handle?.map ScriptHandle.name =
      (t.attaches? id).getD (s.handle?.map ScriptHandle.name) := by
  cases ha with
  | unopened => rfl
  | bound _ hname => simp [Turn.attaches?, State.attach, hname]
  | another => simp [Turn.attaches?, hc]
  | @read _ result _ _ hr => cases result <;> simp [hr.handle?_eq, Turn.attaches?]
  | reset => rfl
  | closed =>
    unfold State.close
    split
    · next hclosed => simp [Turn.attaches?, h.closed hclosed]
    · rfl

/-- The entry is that of a reading that succeeds. Where a script is attached there is none yet. -/
theorem entry?_acts (h : s.Consistent) (hc : c.next ≠ id) (ha : s.Acts c id t s') :
    s'.entry? = if (t.attaches? id).isSome then none else t.entry?.or s.entry? := by
  cases ha with
  | unopened => simp [Turn.attaches?, Turn.entry?]
  | bound hfree =>
    have hnone : s.handle? = none := by simpa using (Bool.and_eq_true_iff.1 hfree).1
    simp [Turn.attaches?, State.attach, h.entry?_eq_none hnone]
  | another => simp [Turn.attaches?, Turn.entry?, hc]
  | @read _ result _ _ hr =>
    cases result <;> simp [hr.entry?_eq, Turn.attaches?, Turn.entry?, Except.map, Except.toOption]
  | reset => simp [State.clear, Turn.attaches?]
  | closed =>
    unfold State.close
    split
    · next hclosed => simp [Turn.attaches?, h.entry?_eq_none (h.closed hclosed)]
    · simp [State.clear, Turn.attaches?]

end Consistent

end State

/-! ## Runs of the fields -/

/-- What holds of the fields of an adapter with a history. -/
structure State.Settled (s : State) (id : AdapterId) (ts : List Turn) : Prop where
  identifier : s.identifier? = s.handle?.map fun handle => Path.identifier handle.name
  handle : s.handle?.isSome ↔ s.status ∈ [.bound, .loaded, .rendered]
  script : s.handle?.map ScriptHandle.name = attached id none ts
  rendered : s.status = .rendered ↔ ∃ entry, s.entry? = some entry
  lastEntry : s.entry? = lastRendered id ts
  notBound : ∀ c method,
    (s.act c id (.read method)).1.result = .error .notBound ↔ s.handle? = none
  closed : s.status = .closed ↔ ∃ t ∈ ts, t.action = .close
  final : s.status = .closed → ∀ c a, (s.act c id a).2.status = .closed

namespace StateRun

variable {id : AdapterId} {ts : List Turn} {s : State}

theorem consistent (h : StateRun id ts s) : s.Consistent := by
  induction h with
  | start => exact Phase.unbound.consistent_state
  | act _ c _ a ih => exact ih.acts (State.acts _ c id a)

theorem closed_iff (h : StateRun id ts s) : s.closed ↔ ∃ t ∈ ts, t.action = .close := by
  induction h with
  | start => simp
  | act _ c _ a ih =>
    rw [(State.acts _ c id a).closed_iff, ih]
    simp [or_and_right, exists_or]

theorem handle?_eq (h : StateRun id ts s) :
    s.handle?.map ScriptHandle.name = attached id none ts := by
  induction h with
  | start => rfl
  | act h c hc a ih =>
    rw [attached_concat, ← ih, h.consistent.handle?_acts hc (State.acts _ c id a)]

theorem entry?_eq (h : StateRun id ts s) : s.entry? = lastRendered id ts := by
  induction h with
  | start => rfl
  | act h c hc a ih =>
    rw [lastRendered_concat, ← ih, h.consistent.entry?_acts hc (State.acts _ c id a)]

/-- Whatever was done with the fields of an adapter, and wherever, they are consistent and are what
their history says. -/
theorem settled (h : StateRun id ts s) : s.Settled id ts where
  identifier := h.consistent.identifier
  handle := h.consistent.isSome_handle?_iff
  script := h.handle?_eq
  rendered := by
    rw [h.consistent.status_eq_rendered_iff, ← h.consistent.entry, Option.isSome_iff_exists]
  lastEntry := h.entry?_eq
  notBound c method := by
    have hread := Progress.read_cases c.files c.output method ⟨s, c.interpreter, []⟩
    rw [← hread.notBound_iff h.consistent]
    simp only [State.act]
    generalize (Progress.read c.files c.output method ⟨s, c.interpreter, []⟩).1 = result
    cases result <;> simp [Except.map]
  closed := by rw [State.status_eq_closed_iff, h.closed_iff]
  final hs c a := by
    rw [State.status_eq_closed_iff] at hs ⊢
    exact (s.acts c id a).closed_iff.2 (.inl hs)

end StateRun

end Adapter

/-! ## Adapters of a workspace -/

namespace Workspace

/-- What an adapter meets in a workspace. -/
def surroundings (w : Workspace) (id : AdapterId) : Adapter.Surroundings where
  files := w.files
  store := w.store (w.adapter id).store
  output := (w.adapter id).output
  interpreter := w.interpreter (w.adapter id).session
  next := ⟨w.adapters.size⟩

variable {w : Workspace} {id : AdapterId}

theorem state_setState {s : Adapter.State} (hid : id.index < w.adapters.size)
    (hs : s.Consistent) : ((w.setState id s).adapter id).state = s := by
  rw [setState, adapter_setPhase w hid, if_pos rfl, Adapter.state, hs.state_phase]

theorem runIn_read_eq (w : Workspace) (id : AdapterId) (method : String) :
    let x := Adapter.Progress.read w.files (w.adapter id).output method
      ⟨(w.adapter id).state, w.interpreter (w.adapter id).session, []⟩
    Work.runIn w (Work.read id method) =
      (x.1, (w.setInterpreter (w.adapter id).session x.2.interpreter).setState id x.2.state) := by
  simp only [Work.read, Work.runIn_bind, Work.runIn_get, Work.runIn_set, Work.runIn_lift]

/-- Binding does to the fields of an adapter what it does to the fields alone. -/
theorem act_surroundings_bind (hid : id.index < w.adapters.size) (name : String) :
    (w.adapter id).state.act (w.surroundings id) id (.bind name) =
      (w.turn id (.bind name), ((w.after id (.bind name)).adapter id).state) := by
  simp only [turn, after, runIn_act_bind, Adapter.State.act, surroundings]
  by_cases hp : (w.adapter id).phase = .unbound
  · have hfree : (w.adapter id).state.isFree := Adapter.Phase.isFree_state.2 hp
    rw [runIn_bind_of_unbound hp]
    cases (w.store (w.adapter id).store).openScript w.files name with
    | error e => rfl
    | ok handle =>
      simp only [if_pos hfree, Except.map]
      rw [adapter_setPhase w hid, if_pos rfl, Adapter.state, hp]
      rfl
  · have hfree : ¬ (w.adapter id).state.isFree := fun h => hp (Adapter.Phase.isFree_state.1 h)
    rw [runIn_bind_of_ne hp, runIn_bindNew]
    cases (w.store (w.adapter id).store).openScript w.files name with
    | error e => rfl
    | ok handle =>
      simp only [if_neg hfree, Except.map]
      rw [adapter_newBound hid]

/-- An action with an adapter does to its fields what it does to the fields alone. -/
theorem act_surroundings (hid : id.index < w.adapters.size) (a : Adapter.Action) :
    (w.adapter id).state.act (w.surroundings id) id a =
      (w.turn id a, ((w.after id a).adapter id).state) := by
  cases a with
  | bind name => exact act_surroundings_bind hid name
  | read method =>
    have hafter : ((w.adapter id).state.act (w.surroundings id) id (.read method)).2.Consistent :=
      (Adapter.Phase.consistent_state _).acts (Adapter.State.acts ..)
    simp only [turn, after, runIn_act_read, runIn_read_eq, Adapter.State.act]
    exact Prod.ext rfl (state_setState (w := w.setInterpreter _ _) hid hafter).symm
  | reset =>
    simp only [turn, runIn_act_reset, after_reset, Adapter.State.act]
    rw [adapter_updateSession, adapter_setPhase w hid, if_pos rfl]
    simp [Adapter.state]
  | close =>
    simp only [turn, runIn_act_close, Adapter.State.act]
    by_cases hp : (w.adapter id).phase = .closed
    · rw [after_close_of_closed hp, Adapter.state, hp]
      rfl
    · rw [after_close_of_ne hp, adapter_updateSession, adapter_setPhase w hid, if_pos rfl]
      simp [Adapter.state]

theorem phase_after_eq_closed_iff (hid : id.index < w.adapters.size) (a : Adapter.Action) :
    ((w.after id a).adapter id).phase = .closed ↔
      (w.adapter id).phase = .closed ∨ a = .close := by
  have hacts := Adapter.State.acts (w.adapter id).state (w.surroundings id) id a
  rw [act_surroundings hid] at hacts
  rw [← Adapter.Phase.closed_state, ← Adapter.Phase.closed_state]
  exact hacts.closed_iff

/-- Reading fails for want of a script if and only if there is none. -/
theorem read_eq_notBound_iff {w : Workspace} {id : AdapterId} (method : String) :
    (Work.runIn w (Work.read id method)).1 = .error .notBound ↔
      (w.adapter id).phase.identifier? = none := by
  have hread := Adapter.Progress.read_cases w.files (w.adapter id).output method
    ⟨(w.adapter id).state, w.interpreter (w.adapter id).session, []⟩
  have hheld := hread.notBound_iff (Adapter.Phase.consistent_state _)
  rw [runIn_read_eq, hheld]
  simp [Adapter.state, Adapter.Phase.handle?, Adapter.Phase.identifier?]

/-- What holds of an adapter with a history. -/
structure StatusConsistent (w : Workspace) (id : AdapterId) (ts : List Adapter.Turn) :
    Prop where
  /-- The fields are what the actions made of them, one after the other. -/
  reached : Adapter.StateRun id ts (w.adapter id).state
  settled : (w.adapter id).state.Settled id ts
  notBound : ∀ method, (Work.runIn w (Work.read id method)).1 = .error .notBound ↔
    (w.adapter id).state.handle? = none
  final : (w.adapter id).state.status = .closed →
    ∀ a, ((w.after id a).adapter id).state.status = .closed
  /-- Binding a closed adapter binds another one, if the script can be opened. -/
  bind : (w.adapter id).state.status = .closed → ∀ name,
    match (w.store (w.adapter id).store).openScript w.files name with
    | .error e => Work.runIn w (Work.bind id name) = (.error e, w)
    | .ok handle => ∃ other w', Work.runIn w (Work.bind id name) = (.ok other, w') ∧
        other ≠ id ∧ (w'.adapter other).state = .attach handle {}

end Workspace

namespace AdapterRun

variable {w : Workspace} {id : AdapterId} {ts : List Adapter.Turn}

/-- The run of an adapter in a workspace is a run of its fields. -/
theorem stateRun (h : AdapterRun id ts w) : Adapter.StateRun id ts (w.adapter id).state := by
  induction h with
  | start _ hp =>
    rw [Adapter.state, hp]
    exact .start
  | other _ _ hw ih => exact hw ▸ ih
  | @act ts w h a ih =>
    have hne : (w.surroundings id).next ≠ id := fun he =>
      Nat.lt_irrefl _ ((congrArg AdapterId.index he).symm ▸ h.bounds)
    have hact := ih.act (w.surroundings id) hne a
    rwa [Workspace.act_surroundings h.bounds] at hact

/-- A closed adapter makes another one for a script, if the script can be opened. -/
theorem bind_of_closed (h : AdapterRun id ts w) (hs : (w.adapter id).state.closed)
    (name : String) :
    match (w.store (w.adapter id).store).openScript w.files name with
    | .error e => Work.runIn w (Work.bind id name) = (.error e, w)
    | .ok handle => ∃ other w', Work.runIn w (Work.bind id name) = (.ok other, w') ∧
        other ≠ id ∧ (w'.adapter other).state = .attach handle {} := by
  have hp : (w.adapter id).phase = .closed := Adapter.Phase.closed_state.1 hs
  rw [Workspace.runIn_bind_of_ne (by simp [hp]), Workspace.runIn_bindNew]
  cases (w.store (w.adapter id).store).openScript w.files name with
  | error e => rfl
  | ok handle =>
    refine ⟨_, _, rfl, ?_, ?_⟩
    · rintro rfl
      exact Nat.lt_irrefl _ h.bounds
    · rw [Workspace.adapter_newBound_self]
      rfl

/-- In every state of an adapter what it says of itself is consistent, and is what its history
says. -/
theorem status_consistent (h : AdapterRun id ts w) : w.StatusConsistent id ts where
  reached := h.stateRun
  settled := h.stateRun.settled
  notBound method := by
    have hnotBound := h.stateRun.settled.notBound (w.surroundings id) method
    rw [Workspace.act_surroundings h.bounds] at hnotBound
    rw [← hnotBound, Workspace.turn, Workspace.runIn_act_read]
    cases (Work.runIn w (Work.read id method)).1 <;> simp [Except.map]
  final hs a := by
    have hfinal := h.stateRun.settled.final hs (w.surroundings id) a
    rwa [Workspace.act_surroundings h.bounds] at hfinal
  bind hs := h.bind_of_closed (Adapter.State.status_eq_closed_iff.1 hs)

end AdapterRun

theorem status_consistent_oneAdapter :
    ∃ ts w, AdapterRun ⟨0⟩ ts w ∧ w.StatusConsistent ⟨0⟩ ts ∧
      (w.adapter ⟨0⟩).state.status = .rendered ∧
      (w.adapter ⟨0⟩).state.entry? = some "safeUp" := by
  -- the evaluation fails, an entry is missing, and an entry is rendered
  have hbound := AdapterRun.start_oneAdapter.act (.bind "1_init.lua")
  have hread := ((hbound.act (.read "up")).act (.read "down")).act (.read "up")
  exact ⟨_, _, hread, hread.status_consistent, rfl, rfl⟩

end SchemaMigration
