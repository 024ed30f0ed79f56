import SchemaMigration.Proofs.Migration.AdapterStatus
import SchemaMigration.Proofs.Migration.Closing

/-!
# Closed drivers

A driver that was closed is closed for good. The adapters that it handed out are closed, whoever has
them, and it refuses to hand out others and to read, also when its directory was opened again since.
This rests on what a driver knows of its store: until somebody closes the store, it is the one that
the pool has for the key of the driver.

## Main definitions

* `DriverDeed`, `DriverUse` — what drivers were used for, and what they handed out.
* `Driver.refusal` — the error of a closed driver.
* `Workspace.Shut` — a driver has no adapters, and its store is closed.
* `Workspace.Retains` — what everything that is done keeps of a driver.
* `DriverUse.closed_for_good` — what holds after a driver was closed.
-/

namespace SchemaMigration

/-! ## Uses of drivers -/

/-- What is said of the use of drivers. -/
inductive DriverDeed where
  | opened (d : Driver)
  /-- A driver answered the adapter of a version. -/
  | handed (d : Driver) (version : Nat) (id : AdapterId)
  | closed (d : Driver)

namespace Driver

/-- What is said of opening a locator. -/
def openingDeeds : Except MigrationError Driver → List DriverDeed
  | .ok d => [.opened d]
  | .error _ => []

/-- What is said of an action of a driver. -/
def deeds (d : Driver) : DriverAction → Except MigrationError DriverResult → List DriverDeed
  | .source version, .ok (.adapter id) => [.handed d version id]
  | .close, _ => [.closed d]
  | _, _ => []

@[simp] theorem deeds_source_error (d : Driver) (version : Nat) (e : MigrationError) :
    d.deeds (.source version) (.error e) = [] := rfl

@[simp] theorem deeds_read (d : Driver) (version : Nat) (method : String)
    (r : Except MigrationError DriverResult) : d.deeds (.read version method) r = [] := by
  cases r <;> rfl

/-- Why a closed driver does not hand out the adapter of a version. -/
def refusal (d : Driver) (w : Workspace) (version : Nat) : MigrationError :=
  match d.opened? with
  | none => .configuration .notOpened
  | some o =>
    if (o.index.get? version).isSome then
      .configuration (.directoryClosed (w.store o.store).root)
    else .versionNotFound version

end Driver

/-- The uses of drivers in a workspace, in any order. Adapters may be used by everybody, and other
things may happen in sessions and to files. -/
inductive DriverUse (w₀ : Workspace) : List DriverDeed → Workspace → Prop
  | start : DriverUse w₀ [] w₀
  | openUrl {ds w} (h : DriverUse w₀ ds w) (url : String) :
      DriverUse w₀ (ds ++ Driver.openingDeeds (Work.runIn w (Driver.openUrl url)).1)
        (Work.runIn w (Driver.openUrl url)).2
  /-- A driver that was opened is asked for something, or one that never was. -/
  | ask {ds w d} (h : DriverUse w₀ ds w) (hd : d = {} ∨ .opened d ∈ ds) (a : DriverAction) :
      DriverUse w₀ (ds ++ d.deeds a (Work.runIn w (d.perform a)).1) (Work.runIn w (d.perform a)).2
  | act {ds w id} (h : DriverUse w₀ ds w) (hid : id.index < w.adapters.size)
      (a : Adapter.Action) : DriverUse w₀ ds (w.after id a)
  | direct {ds w sid} (h : DriverUse w₀ ds w) (hsid : sid.index < w.sessions.size)
      (ss : List Step) : DriverUse w₀ ds (w.setInterpreter sid (w.stepped sid ss))
  | newAdapter {ds w sid} (h : DriverUse w₀ ds w) (hsid : sid.index < w.sessions.size)
      (store : StoreId) : DriverUse w₀ ds (w.newAdapter store sid).2
  | edit {ds w} (h : DriverUse w₀ ds w) (files : FileTree) : DriverUse w₀ ds { w with files }

/-! ## What is kept of a driver -/

namespace Workspace

/-- Holds if a driver has no adapters, and its store is closed. -/
def Shut (w : Workspace) (o : OpenedSource) : Prop :=
  w.adapterSet o.adapters = [] ∧ (w.store o.store).closed = true

/-- What is kept of a driver: closed adapters stay closed, its adapters stay its own until they are
closed, and if it is shut then it stays so. -/
structure Retains (o : OpenedSource) (w w' : Workspace) : Prop where
  closed : ∀ id, (w.adapter id).phase = .closed → (w'.adapter id).phase = .closed
  adapters : ∀ p ∈ w.adapterSet o.adapters,
    p ∈ w'.adapterSet o.adapters ∨ (w'.adapter p.2).phase = .closed
  shut : w.Shut o → w'.Shut o

variable {w w' w'' : Workspace} {o : OpenedSource} {id other : AdapterId}

/-- What is not there is not closed. -/
theorem lt_of_closed (h : (w.adapter id).phase = .closed) : id.index < w.adapters.size := by
  by_contra hid
  have hnone : w.adapters[id.index]? = none := Array.getElem?_eq_none (Nat.le_of_not_lt hid)
  rw [adapter, hnone] at h
  cases h

/-- Closed adapters stay closed, whatever is done with adapters. -/
theorem closed_after (hother : other.index < w.adapters.size) (a : Adapter.Action)
    (h : (w.adapter id).phase = .closed) : ((w.after other a).adapter id).phase = .closed := by
  obtain ⟨p, -, hleaves⟩ := turned hother a
  by_cases he : id = other
  · subst he
    exact (phase_after_eq_closed_iff hother a).2 (.inl h)
  · rw [hleaves.other id he (lt_of_closed h)]
    exact h

theorem closed_after_close (hid : id.index < w.adapters.size) :
    ((w.after id .close).adapter id).phase = .closed :=
  (phase_after_eq_closed_iff hid .close).2 (.inr rfl)

section CloseAdapters

variable {set : AdapterSet} (hset : ∀ p ∈ set, p.2.index < w.adapters.size)
include hset

theorem closed_closeAdapters (h : (w.adapter id).phase = .closed) :
    ((w.closeAdapters set).adapter id).phase = .closed := by
  induction set generalizing w with
  | nil => exact h
  | cons p set ih =>
    obtain ⟨hp, hrest⟩ := List.forall_mem_cons.1 hset
    refine ih (fun q hq => ?_) (closed_after hp .close h)
    rw [size_after_close]
    exact hrest q hq

/-- Closing the adapters of a set closes each of them. -/
theorem closed_of_mem_closeAdapters {p : Nat × AdapterId} (hp : p ∈ set) :
    ((w.closeAdapters set).adapter p.2).phase = .closed := by
  induction set generalizing w with
  | nil => cases hp
  | cons q set ih =>
    obtain ⟨hq, hrest⟩ := List.forall_mem_cons.1 hset
    have hbounds : ∀ r ∈ set, r.2.index < (w.after q.2 .close).adapters.size := by
      intro r hr
      rw [size_after_close]
      exact hrest r hr
    rcases List.mem_cons.1 hp with rfl | hp
    · rw [closeAdapters]
      exact closed_closeAdapters hbounds (closed_after_close hq)
    · exact ih hbounds hp

end CloseAdapters

namespace Retains

theorem refl (o : OpenedSource) (w : Workspace) : Retains o w w :=
  ⟨fun _ h => h, fun _ h => .inl h, fun h => h⟩

theorem trans (h : Retains o w w') (h' : Retains o w' w'') : Retains o w w'' where
  closed id hid := h'.closed id (h.closed id hid)
  adapters p hp := by
    rcases h.adapters p hp with hp | hp
    · exact h'.adapters p hp
    · exact .inr (h'.closed _ hp)
  shut hs := h'.shut (h.shut hs)

/-- What leaves the adapters that there are, the set of the driver and its store as they are. -/
theorem frame (hadapter : ∀ id, id.index < w.adapters.size → w'.adapter id = w.adapter id)
    (hset : w'.adapterSet o.adapters = w.adapterSet o.adapters)
    (hstore : w'.store o.store = w.store o.store) : Retains o w w' where
  closed id hid := by rw [hadapter id (lt_of_closed hid)]; exact hid
  adapters p hp := .inl (hset ▸ hp)
  shut hs := ⟨hset.trans hs.1, hstore ▸ hs.2⟩

theorem act (hid : id.index < w.adapters.size) (a : Adapter.Action) :
    Retains o w (w.after id a) := by
  obtain ⟨p, -, hleaves⟩ := turned hid a
  have hset : (w.after id a).adapterSet o.adapters = w.adapterSet o.adapters := by
    rw [adapterSet, hleaves.adapterSets, adapterSet]
  have hstore : (w.after id a).store o.store = w.store o.store := by
    rw [store, hleaves.stores, store]
  exact ⟨fun _ => closed_after hid a, fun p hp => .inl (hset ▸ hp),
    fun hs => ⟨hset.trans hs.1, hstore ▸ hs.2⟩⟩

end Retains

end Workspace

/-! ## Steps -/

theorem ScriptStore.openScript_of_closed {s : ScriptStore} (h : s.closed = true) (t : FileTree)
    (name : String) : s.openScript t name = .error (.configuration (.directoryClosed s.root)) := by
  simp [openScript, ensureOpen, h, bind, Except.bind]

namespace Driver

/-- A driver that is shut hands out no adapter. -/
theorem runIn_source_of_shut {w : Workspace} {o : OpenedSource} (h : w.Shut o) (version : Nat) :
    Work.runIn w (source ⟨some o⟩ version) = (.error (refusal ⟨some o⟩ w version), w) := by
  obtain ⟨hset, hclosed⟩ := h
  rw [runIn_source, refusal]
  cases hname : o.index.get? version with
  | none => simp [hname]
  | some name => simp [hname, hset, ScriptStore.openScript_of_closed hclosed]

end Driver

namespace DriverRun

variable {w₀ w w' : Workspace} {es : List DriverEvent} {o other : OpenedSource}

theorem retains_openUrl (h : DriverRun w₀ es w) (hw₀ : w₀.Unused) (ho : .opened o ∈ es)
    (url : String) : w.Retains o (Work.runIn w (Driver.openUrl url)).2 := by
  have hstore := (h.provided hw₀).store o ho
  rcases hrun : Work.runIn w (Driver.openUrl url) with ⟨r, u⟩
  have hextended {u : Workspace} (hu : w.Extends u) : w.Retains o u := by
    refine .frame (fun id _ => ?_) ?_ (hu.store _ hstore).2
    · rw [Workspace.adapter, hu.adapters, Workspace.adapter]
    · rw [Workspace.adapterSet, hu.adapterSets, Workspace.adapterSet]
  cases Driver.openStep hrun with
  | failed hextends => exact hextended hextends
  | @opened o' u hextends =>
    have hset : o.adapters.index < u.adapterSets.size := hextends.adapterSets ▸ h.sources.sets o ho
    refine (hextended hextends).trans (.frame (fun _ _ => rfl) ?_ rfl)
    simp [Workspace.adapterSet, Workspace.newAdapterSet, Array.getElem?_push, Nat.ne_of_lt hset]

theorem retains_source (h : DriverRun w₀ es w) (ho : .opened o ∈ es) (hother : .opened other ∈ es)
    (version : Nat) : w.Retains o (Work.runIn w (Driver.source ⟨some other⟩ version)).2 := by
  by_cases hshut : w.Shut other
  · rw [Driver.runIn_source_of_shut hshut]
    exact .refl o w
  · rw [Driver.runIn_source]
    split
    · exact .refl o w
    · split
      · exact .refl o w
      · split
        · exact .refl o w
        · next handle _ =>
          have hadapter (id : AdapterId) (hid : id.index < w.adapters.size) :
              (w.addSource other version handle).adapter id = w.adapter id :=
            Workspace.adapter_addSource_of_lt hid
          have hset : (w.addSource other version handle).adapterSet o.adapters = _ :=
            Workspace.adapterSet_addSource (h.sources.sets other hother) o.adapters
          by_cases he : other = o
          · subst he
            rw [if_pos rfl] at hset
            exact {
              closed := fun id hid => by rw [hadapter id (Workspace.lt_of_closed hid)]; exact hid
              adapters := fun p hp => .inl (by rw [hset]; exact List.mem_cons_of_mem _ hp)
              shut := fun hs => absurd hs hshut }
          · rw [if_neg (h.adapters_ne ho hother he)] at hset
            exact .frame hadapter hset rfl

/-- Closing a driver shuts it, and keeps what there is of others. -/
theorem retains_close (h : DriverRun w₀ es w) (hw₀ : w₀.Unused) (ho : .opened o ∈ es)
    (hother : .opened other ∈ es) :
    w.Retains o (w.closeDriver other) ∧ (w.closeDriver other).Shut other := by
  have hbounds := h.bounds hother
  have hclosed {id : AdapterId} (hid : (w.adapter id).phase = .closed) :
      ((w.closeDriver other).adapter id).phase = .closed := by
    simp only [Workspace.closeDriver, Workspace.adapter_removeStore]
    exact Workspace.closed_closeAdapters hbounds hid
  have hset (hne : other ≠ o) :
      (w.closeDriver other).adapterSet o.adapters = w.adapterSet o.adapters := by
    rw [h.sources.adapterSet_closeDriver hother, if_neg (h.adapters_ne ho hother hne)]
  refine ⟨⟨fun _ => hclosed, fun p hp => ?_, fun hs => ?_⟩, ?_, ?_⟩
  · by_cases he : other = o
    · subst he
      refine .inr ?_
      simp only [Workspace.closeDriver, Workspace.adapter_removeStore]
      exact Workspace.closed_of_mem_closeAdapters hbounds hp
    · exact .inl (hset he ▸ hp)
  · refine ⟨?_, ?_⟩
    · by_cases he : other = o
      · exact he ▸ w.adapterSet_closeDriver other
      · exact (hset he).trans hs.1
    · rw [Workspace.store_closeDriver_of_closed hbounds hs.2]
      exact hs.2
  · exact w.adapterSet_closeDriver other
  · rw [Workspace.store_closeDriver hbounds]
    rcases h.registered_or_closed hw₀ hother with hkey | hclosed
    · rw [if_pos ⟨hkey, (h.provided hw₀).store other hother⟩]
    · split
      · rfl
      · exact hclosed

theorem retains_perform (h : DriverRun w₀ es w) (hw₀ : w₀.Unused) (ho : .opened o ∈ es)
    (hother : .opened other ∈ es) (a : DriverAction) :
    w.Retains o (Work.runIn w (Driver.perform ⟨some other⟩ a)).2 := by
  cases a with
  | source version =>
    rw [Driver.perform, Work.runIn_map]
    exact h.retains_source ho hother version
  | close =>
    rw [Driver.runIn_perform_close]
    exact (h.retains_close hw₀ ho hother).1
  | read version method =>
    have hretains := h.retains_source ho hother version
    have hrun' := h.source hother version
    rw [Driver.perform, Work.runIn_map, Driver.runIn_read_snd]
    rcases hrun : Work.runIn w (Driver.source ⟨some other⟩ version) with ⟨e | id, u⟩
    · rw [hrun] at hretains
      exact hretains
    · rw [hrun] at hretains hrun'
      have hmem := mem_of_source (h.sources.sets other hother) hrun
      exact hretains.trans (.act (hrun'.bounds hother _ hmem) (.read method))

end DriverRun

/-! ## Runs -/

namespace DriverUse

variable {w₀ w w' : Workspace} {ds : List DriverDeed}

/-- What holds of the drivers that were used. -/
structure Kept (w₀ : Workspace) (ds : List DriverDeed) (w : Workspace) : Prop where
  run : ∃ es, DriverRun w₀ es w ∧ ∀ o, .opened ⟨some o⟩ ∈ ds → .opened o ∈ es
  opened : ∀ d, .opened d ∈ ds → ∃ o, d = ⟨some o⟩
  handed : ∀ d version id, .handed d version id ∈ ds → ∃ o, d = ⟨some o⟩ ∧ .opened d ∈ ds ∧
    ((version, id) ∈ w.adapterSet o.adapters ∨ (w.adapter id).phase = .closed)
  closed : ∀ o, .closed ⟨some o⟩ ∈ ds → .opened ⟨some o⟩ ∈ ds ∧ w.Shut o

namespace Kept

/-- Something happens that says nothing of drivers. -/
theorem follow (h : Kept w₀ ds w)
    (hrun : ∃ es, DriverRun w₀ es w' ∧ ∀ o, .opened ⟨some o⟩ ∈ ds → .opened o ∈ es)
    (hretains : ∀ o, .opened ⟨some o⟩ ∈ ds → w.Retains o w') : Kept w₀ ds w' where
  run := hrun
  opened := h.opened
  handed d version id hd := by
    obtain ⟨o, rfl, ho, hid⟩ := h.handed d version id hd
    refine ⟨o, rfl, ho, ?_⟩
    rcases hid with hid | hid
    · exact (hretains o ho).adapters _ hid
    · exact .inr ((hretains o ho).closed _ hid)
  closed o hd := (h.closed o hd).imp id fun hshut => (hretains o (h.closed o hd).1).shut hshut

theorem opening {o : OpenedSource} (h : Kept w₀ ds w)
    (hrun : ∃ es, DriverRun w₀ es w ∧
      ∀ o', .opened ⟨some o'⟩ ∈ ds ++ [.opened ⟨some o⟩] → .opened o' ∈ es) :
    Kept w₀ (ds ++ [.opened ⟨some o⟩]) w where
  run := hrun
  opened d hd := by
    rcases List.mem_append.1 hd with hd | hd
    · exact h.opened d hd
    · cases List.mem_singleton.1 hd
      exact ⟨o, rfl⟩
  handed d version id hd := by
    obtain ⟨o', rfl, ho', hid⟩ := h.handed d version id (by simpa using hd)
    exact ⟨o', rfl, List.mem_append_left _ ho', hid⟩
  closed o' hd := by
    obtain ⟨ho', hshut⟩ := h.closed o' (by simpa using hd)
    exact ⟨List.mem_append_left _ ho', hshut⟩

theorem handing {o : OpenedSource} {version : Nat} {id : AdapterId} (h : Kept w₀ ds w)
    (ho : .opened ⟨some o⟩ ∈ ds) (hid : (version, id) ∈ w.adapterSet o.adapters) :
    Kept w₀ (ds ++ [.handed ⟨some o⟩ version id]) w where
  run := by simpa using h.run
  opened d hd := h.opened d (by simpa using hd)
  handed d version' id' hd := by
    rcases List.mem_append.1 hd with hd | hd
    · obtain ⟨o', rfl, ho', hid'⟩ := h.handed d version' id' hd
      exact ⟨o', rfl, List.mem_append_left _ ho', hid'⟩
    · cases List.mem_singleton.1 hd
      exact ⟨o, rfl, List.mem_append_left _ ho, .inl hid⟩
  closed o' hd := by
    obtain ⟨ho', hshut⟩ := h.closed o' (by simpa using hd)
    exact ⟨List.mem_append_left _ ho', hshut⟩

theorem closing {d : Driver} (h : Kept w₀ ds w)
    (hd : ∀ o, d = ⟨some o⟩ → .opened d ∈ ds ∧ w.Shut o) : Kept w₀ (ds ++ [.closed d]) w where
  run := by simpa using h.run
  opened d' hd' := h.opened d' (by simpa using hd')
  handed d' version id hd' := by
    obtain ⟨o, rfl, ho, hid⟩ := h.handed d' version id (by simpa using hd')
    exact ⟨o, rfl, List.mem_append_left _ ho, hid⟩
  closed o hd' := by
    rcases List.mem_append.1 hd' with hd' | hd'
    · obtain ⟨ho, hshut⟩ := h.closed o hd'
      exact ⟨List.mem_append_left _ ho, hshut⟩
    · cases List.mem_singleton.1 hd'
      exact ⟨List.mem_append_left _ (hd o rfl).1, (hd o rfl).2⟩

end Kept

section Steps

variable (h : Kept w₀ ds w) (hw₀ : w₀.Unused)
include h hw₀

theorem kept_openUrl (url : String) :
    Kept w₀ (ds ++ Driver.openingDeeds (Work.runIn w (Driver.openUrl url)).1)
      (Work.runIn w (Driver.openUrl url)).2 := by
  obtain ⟨es, hrun, hes⟩ := h.run
  have hretains (o : OpenedSource) (ho : .opened ⟨some o⟩ ∈ ds) :=
    hrun.retains_openUrl hw₀ (hes o ho) url
  rcases hopen : Work.runIn w (Driver.openUrl url) with ⟨r, u⟩
  rw [hopen] at hretains
  cases Driver.openStep hopen with
  | failed => simpa [Driver.openingDeeds] using h.follow ⟨es, hrun.notOpened hopen, hes⟩ hretains
  | @opened o u =>
    have hall (o' : OpenedSource) (ho' : .opened ⟨some o'⟩ ∈ ds ++ [.opened ⟨some o⟩]) :
        .opened o' ∈ es ++ [.opened o] := by
      rcases List.mem_append.1 ho' with ho' | ho'
      · exact List.mem_append_left _ (hes o' ho')
      · cases List.mem_singleton.1 ho'
        exact List.mem_append_right _ (List.mem_singleton.2 rfl)
    have hrun' := hrun.opened hopen
    exact (h.follow ⟨_, hrun', fun o' ho' => hall o' (List.mem_append_left _ ho')⟩ hretains).opening
      ⟨_, hrun', hall⟩

theorem kept_ask {d : Driver} (hd : d = {} ∨ .opened d ∈ ds) (a : DriverAction) :
    Kept w₀ (ds ++ d.deeds a (Work.runIn w (d.perform a)).1) (Work.runIn w (d.perform a)).2 := by
  rcases hd with rfl | hd
  · cases a with
    | source version =>
      have hrun : Work.runIn w (Driver.perform {} (.source version)) =
          (.error (.configuration .notOpened), w) := rfl
      simpa [hrun] using h
    | read version method =>
      have hrun : Work.runIn w (Driver.perform {} (.read version method)) =
          (.error (.configuration .notOpened), w) := rfl
      simpa [hrun] using h
    | close => exact h.closing nofun
  · obtain ⟨o, rfl⟩ := h.opened d hd
    obtain ⟨es, hrun, hes⟩ := h.run
    have ho := hes o hd
    obtain ⟨es', hrun', hes', -⟩ := hrun.perform ho a
    have hafter := h.follow ⟨es', hrun', fun o' ho' => hes' _ (hes o' ho')⟩
      fun o' ho' => hrun.retains_perform hw₀ (hes o' ho') ho a
    cases a with
    | read version method => simpa using hafter
    | close =>
      rw [Driver.runIn_perform_close] at hafter ⊢
      refine hafter.closing fun o' he => ?_
      cases he
      exact ⟨hd, (hrun.retains_close hw₀ ho ho).2⟩
    | source version =>
      rw [Driver.perform, Work.runIn_map] at hafter ⊢
      rcases hsource : Work.runIn w (Driver.source ⟨some o⟩ version) with ⟨e | id, u⟩
      · rw [hsource] at hafter
        simpa [Except.map] using hafter
      · rw [hsource] at hafter
        exact hafter.handing hd (DriverRun.mem_of_source (hrun.sources.sets o ho) hsource)

end Steps

theorem kept (h : DriverUse w₀ ds w) (hw₀ : w₀.Unused) : Kept w₀ ds w := by
  induction h with
  | start => exact ⟨⟨[], .start, nofun⟩, nofun, nofun, nofun⟩
  | openUrl _ url ih => exact kept_openUrl ih hw₀ url
  | ask _ hd a ih => exact kept_ask ih hw₀ hd a
  | act _ hid a ih =>
    obtain ⟨es, hrun, hes⟩ := ih.run
    exact ih.follow ⟨_, hrun.act hid a, fun o ho => List.mem_append_left _ (hes o ho)⟩
      fun o _ => .act hid a
  | direct _ hsid ss ih =>
    obtain ⟨es, hrun, hes⟩ := ih.run
    exact ih.follow ⟨es, hrun.direct hsid ss, hes⟩ fun o _ => .frame (fun _ _ => rfl) rfl rfl
  | newAdapter _ hsid store ih =>
    obtain ⟨es, hrun, hes⟩ := ih.run
    refine ih.follow ⟨es, hrun.newAdapter hsid store, hes⟩ fun o _ =>
      .frame (fun id hid => ?_) rfl rfl
    rw [Workspace.adapter_newAdapter, if_neg (Nat.ne_of_lt hid)]
  | edit _ files ih =>
    obtain ⟨es, hrun, hes⟩ := ih.run
    exact ih.follow ⟨es, hrun.edit files, hes⟩ fun o _ => .frame (fun _ _ => rfl) rfl rfl

/-- After a driver was closed the adapters that it handed out are closed, and it hands out no others
and reads nothing, whatever was opened since. -/
theorem closed_for_good {d : Driver} (h : DriverUse w₀ ds w) (hw₀ : w₀.Unused)
    (hd : .closed d ∈ ds) :
    (∀ version id, .handed d version id ∈ ds → (w.adapter id).phase = .closed) ∧
      ∀ version, Work.runIn w (d.source version) = (.error (d.refusal w version), w) ∧
        ∀ method, Work.runIn w (d.read version method) = (.error (d.refusal w version), w) := by
  have hkept := h.kept hw₀
  have hsource (version : Nat) :
      Work.runIn w (d.source version) = (.error (d.refusal w version), w) := by
    rcases d with ⟨_ | o⟩
    · rfl
    · exact Driver.runIn_source_of_shut (hkept.closed o hd).2 version
  refine ⟨fun version id hid => ?_, fun version => ⟨hsource version, fun method => ?_⟩⟩
  · obtain ⟨o, rfl, -, hmem | hclosed⟩ := hkept.handed d version id hid
    · rw [(hkept.closed o hd).2.1] at hmem
      cases hmem
    · exact hclosed
  · rw [Driver.read, Work.runIn_bind, hsource]

end DriverUse

/-- What is opened on the directory of two scripts when it is opened again after closing. -/
def reopenedTwoVersions : OpenedSource := { twoVersionsSource with store := ⟨1⟩, adapters := ⟨1⟩ }

/-- The directory after its first version was asked for, and its driver was closed. -/
def closedTwoVersions : Workspace :=
  (Work.runIn openedTwoVersions (Driver.source ⟨some twoVersionsSource⟩ 1)).2.closeDriver
    twoVersionsSource

theorem unused_twoVersions : twoVersions.Unused where
  adapters := rfl
  own _ hid := absurd hid (Nat.not_lt_zero _)
  registered := ⟨nofun, nofun, nofun⟩

theorem openUrl_closedTwoVersions :
    (Work.runIn closedTwoVersions (Driver.openUrl "lua://m")).1 =
      .ok ⟨some reopenedTwoVersions⟩ := by
  have hlocator : Locator.parse "lua://m" = .ok ⟨"m", []⟩ := by rfl
  have hsession : closedTwoVersions.sessionOf "default" = (⟨0⟩, closedTwoVersions) :=
    Workspace.sessionOf_of_session?_eq_some (by decide +kernel)
  have hstore : closedTwoVersions.store? (Driver.storeKey "m") = none := by decide +kernel
  have hfind : closedTwoVersions.files.find "m" = .ok (["m"], .directory) := by decide +kernel
  have hnames : closedTwoVersions.files.list ["m"] = .ok ["1_a.lua", "2_b.lua"] := by
    have hnodes : closedTwoVersions.files.nodes = twoVersions.files.nodes := by decide +kernel
    have hunlisted : closedTwoVersions.files.unlisted = [] := by decide +kernel
    rw [FileTree.list, hunlisted, FileTree.fileNames, hnodes]
    exact congrArg Except.ok (List.mergeSort_of_pairwise (by decide))
  have hindex : VersionIndex.ofNames ["1_a.lua", "2_b.lua"] =
      .ok [(1, "1_a.lua"), (2, "2_b.lua")] := by rfl
  rw [Driver.runIn_openUrl_anew hlocator hsession hstore hfind hnames hindex]
  decide +kernel

theorem DriverUse.reopenedTwoVersions :
    DriverUse twoVersions
      [.opened ⟨some twoVersionsSource⟩, .handed ⟨some twoVersionsSource⟩ 1 ⟨0⟩,
        .closed ⟨some twoVersionsSource⟩, .opened ⟨some SchemaMigration.reopenedTwoVersions⟩]
      (Work.runIn closedTwoVersions (Driver.openUrl "lua://m")).2 := by
  have hsource :
      Work.runIn openedTwoVersions (Driver.perform ⟨some twoVersionsSource⟩ (.source 1)) =
        (.ok (.adapter ⟨0⟩),
          (Work.runIn openedTwoVersions (Driver.source ⟨some twoVersionsSource⟩ 1)).2) := by
    rw [Driver.perform, Work.runIn_map]
    rfl
  have hopened := (@DriverUse.start twoVersions).openUrl "lua://m"
  rw [openUrl_twoVersions] at hopened
  have hhanded := hopened.ask (.inr List.mem_cons_self) (.source 1)
  rw [hsource] at hhanded
  have hclosed := hhanded.ask (.inr List.mem_cons_self) .close
  rw [Driver.runIn_perform_close] at hclosed
  have hreopened := hclosed.openUrl "lua://m"
  change DriverUse _ (_ ++ Driver.openingDeeds (Work.runIn closedTwoVersions _).1) _ at hreopened
  rw [openUrl_closedTwoVersions] at hreopened
  exact hreopened

theorem closed_for_good_twoVersions :
    ∃ w, DriverUse twoVersions
        [.opened ⟨some twoVersionsSource⟩, .handed ⟨some twoVersionsSource⟩ 1 ⟨0⟩,
          .closed ⟨some twoVersionsSource⟩, .opened ⟨some reopenedTwoVersions⟩] w ∧
      twoVersions.Unused ∧ (w.adapter ⟨0⟩).phase = .closed ∧
      ∀ version, ∃ e, Work.runIn w (Driver.source ⟨some twoVersionsSource⟩ version) =
          (.error e, w) ∧
        ∀ method, Work.runIn w (Driver.read ⟨some twoVersionsSource⟩ version method) =
          (.error e, w) := by
  obtain ⟨hadapters, hrefused⟩ :=
    DriverUse.reopenedTwoVersions.closed_for_good (d := ⟨some twoVersionsSource⟩)
      unused_twoVersions (by simp)
  exact ⟨_, DriverUse.reopenedTwoVersions, unused_twoVersions, hadapters 1 ⟨0⟩ (by simp),
    fun version => ⟨_, hrefused version⟩⟩

end SchemaMigration
