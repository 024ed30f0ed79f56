import SchemaMigration.Proofs.Migration.AdapterStatus
import SchemaMigration.Proofs.Migration.DriverRun

/-!
# The script of a version

A driver keeps one adapter for each version and hands it out. What it renders for the version is
what that adapter is bound to, whoever bound it.

## Main definitions

* `Cached`, `Sources` — what holds of the adapters that drivers keep.
* `DriverRun.read_version` — which script a driver reads for a version.
-/

namespace SchemaMigration

open Adapter (attached)

/-- What holds of an adapter that a driver keeps for a version. -/
structure Cached (es : List DriverEvent) (w : Workspace) (o : OpenedSource) (version : Nat)
    (id : AdapterId) : Prop where
  bounds : id.index < w.adapters.size
  store : (w.adapter id).store = o.store
  session : (w.adapter id).session = o.session
  script : ∀ name, o.index.get? version = some name →
    (w.adapter id).phase.binding?.map (·.handle.name) = attached id (some name) (turns id es)
  /-- The script stays as long as the adapter is not reset or closed. -/
  own : ∀ name, o.index.get? version = some name →
    (∀ t ∈ turns id es, t.action ≠ .reset ∧ t.action ≠ .close) →
    attached id (some name) (turns id es) = some name

/-- What holds of the adapters that drivers keep. -/
structure Sources (es : List DriverEvent) (w : Workspace) : Prop where
  sets : ∀ o, .opened o ∈ es → o.adapters.index < w.adapterSets.size
  distinct : ∀ o o', .opened o ∈ es → .opened o' ∈ es → o.adapters = o'.adapters → o = o'
  turned : ∀ id t, .turned id t ∈ es → id.index < w.adapters.size
  cached : ∀ o version id, .opened o ∈ es → (version, id) ∈ w.adapterSet o.adapters →
    Cached es w o version id
  disjoint : ∀ o o' version version' id, .opened o ∈ es → .opened o' ∈ es →
    (version, id) ∈ w.adapterSet o.adapters → (version', id) ∈ w.adapterSet o'.adapters → o = o'

theorem turns_eq_nil {id : AdapterId} {es : List DriverEvent}
    (h : ∀ t, .turned id t ∉ es) : turns id es = [] := by
  simp only [turns, List.filterMap_eq_nil_iff]
  intro e he
  cases e with
  | opened => rfl
  | turned other t =>
    have hne : other ≠ id := by
      rintro rfl
      exact h t he
    simp [hne]

/-- The script of an adapter that has one goes when the adapter is reset or closed. -/
theorem Turned.attaches?_eq_none {w : Workspace} {id : AdapterId} {t : Adapter.Turn}
    {p : Adapter.Phase} (h : Turned w id t p) (hbound : (w.adapter id).phase.binding?.isSome)
    (hreset : t.action ≠ .reset) (hclose : t.action ≠ .close) : t.attaches? id = none := by
  cases h with
  | bound hp => simp [hp, Adapter.Phase.binding?] at hbound
  | another _ hne => exact if_neg hne
  | notBound | rendered | notRendered => rfl
  | reset => exact absurd rfl hreset
  | closed => exact absurd rfl hclose

namespace Sources

variable {es : List DriverEvent} {w w' : Workspace} {o : OpenedSource} {id : AdapterId}

/-- What adds no adapters to the sets, and changes none in them, keeps what holds of them. -/
theorem frame (h : Sources es w) (hsets : w.adapterSets.size ≤ w'.adapterSets.size)
    (hadapters : w.adapters.size ≤ w'.adapters.size)
    (hset : ∀ o, .opened o ∈ es → w'.adapterSet o.adapters ⊆ w.adapterSet o.adapters)
    (hsame : ∀ o version id, .opened o ∈ es → (version, id) ∈ w'.adapterSet o.adapters →
      w'.adapter id = w.adapter id) : Sources es w' where
  sets o ho := Nat.lt_of_lt_of_le (h.sets o ho) hsets
  distinct := h.distinct
  turned id t ht := Nat.lt_of_lt_of_le (h.turned id t ht) hadapters
  cached o version id ho hid := by
    obtain ⟨hbounds, hstore, hsession, hscript, hown⟩ := h.cached o version id ho (hset o ho hid)
    have hid := hsame o version id ho hid
    exact ⟨Nat.lt_of_lt_of_le hbounds hadapters, hid ▸ hstore, hid ▸ hsession, hid ▸ hscript, hown⟩
  disjoint o o' version version' id ho ho' hid hid' :=
    h.disjoint o o' version version' id ho ho' (hset o ho hid) (hset o' ho' hid')

theorem extend (h : Sources es w) (hw : w.Extends w') : Sources es w' := by
  refine h.frame (by rw [hw.adapterSets]) (by rw [hw.adapters]) (fun o _ => ?_)
    fun _ _ id _ _ => ?_
  · simp [Workspace.adapterSet, hw.adapterSets]
  · simp [Workspace.adapter, hw.adapters]

/-- A driver that was just opened keeps no adapters. -/
theorem opened (h : Sources es w) (ho : o.adapters = w.newAdapterSet.1) :
    Sources (es ++ [.opened o]) w.newAdapterSet.2 := by
  have hindex : o.adapters.index = w.adapterSets.size := by rw [ho]; rfl
  have hsize : w.newAdapterSet.2.adapterSets.size = w.adapterSets.size + 1 := by
    simp [Workspace.newAdapterSet]
  have hold (o' : OpenedSource) (ho' : .opened o' ∈ es) :
      w.newAdapterSet.2.adapterSet o'.adapters = w.adapterSet o'.adapters := by
    have hlt := h.sets o' ho'
    simp [Workspace.adapterSet, Workspace.newAdapterSet, Array.getElem?_push, Nat.ne_of_lt hlt]
  have hnew : w.newAdapterSet.2.adapterSet o.adapters = [] := by
    simp [Workspace.adapterSet, Workspace.newAdapterSet, hindex]
  have hmem {o' : OpenedSource} (ho' : .opened o' ∈ es ++ [.opened o]) :
      .opened o' ∈ es ∨ o' = o := by
    simpa using ho'
  refine {
    sets := fun o' ho' => ?_
    distinct := fun o₁ o₂ h₁ h₂ he => ?_
    turned := fun id t ht => h.turned id t (by simpa using ht)
    cached := fun o' version id ho' hid => ?_
    disjoint := fun o₁ o₂ version version' id h₁ h₂ hid hid' => ?_ }
  · rcases hmem ho' with ho' | rfl
    · have hlt := h.sets o' ho'
      omega
    · omega
  · rcases hmem h₁ with hold₁ | rfl <;> rcases hmem h₂ with hold₂ | rfl
    · exact h.distinct o₁ o₂ hold₁ hold₂ he
    · exact absurd (h.sets o₁ hold₁) (by rw [he]; omega)
    · exact absurd (h.sets o₂ hold₂) (by rw [← he]; omega)
    · rfl
  · rcases hmem ho' with ho' | rfl
    · obtain ⟨hbounds, hstore, hsession, hscript, hown⟩ :=
        h.cached o' version id ho' (hold o' ho' ▸ hid)
      rw [← turns_concat_opened id es o] at hscript hown
      exact ⟨hbounds, hstore, hsession, hscript, hown⟩
    · rw [hnew] at hid
      cases hid
  · rcases hmem h₁ with h₁ | rfl
    · rcases hmem h₂ with h₂ | rfl
      · exact h.disjoint o₁ o₂ version version' id h₁ h₂ (hold o₁ h₁ ▸ hid) (hold o₂ h₂ ▸ hid')
      · rw [hnew] at hid'
        cases hid'
    · rw [hnew] at hid
      cases hid

/-- A new adapter for a version is bound to its script. -/
theorem addSource (h : Sources es w) (ho : .opened o ∈ es) {version : Nat} {name : String}
    (hname : o.index.get? version = some name) {handle : ScriptHandle}
    (hopen : (w.store o.store).openScript w.files name = .ok handle) :
    Sources es (w.addSource o version handle) := by
  have hset (other : AdapterSetId) : (w.addSource o version handle).adapterSet other = _ :=
    Workspace.adapterSet_addSource (h.sets o ho) other
  have hsize : (w.addSource o version handle).adapters.size = w.adapters.size + 1 := by
    simp [Workspace.addSource, Workspace.setAdapterSet, Workspace.setPhase, Workspace.newAdapter]
  have hfresh (o' : OpenedSource) (version' : Nat) (ho' : .opened o' ∈ es) :
      (version', ⟨w.adapters.size⟩) ∉ w.adapterSet o'.adapters :=
    fun hid => Nat.lt_irrefl _ (h.cached o' version' _ ho' hid).bounds
  -- an adapter in a set was there before, or it is the new one
  have hmem {o' : OpenedSource} {version' : Nat} {id : AdapterId} (ho' : .opened o' ∈ es)
      (hid : (version', id) ∈ (w.addSource o version handle).adapterSet o'.adapters) :
      (version', id) ∈ w.adapterSet o'.adapters ∨
        o' = o ∧ version' = version ∧ id = ⟨w.adapters.size⟩ := by
    rw [hset] at hid
    split at hid
    · next he =>
      obtain rfl := h.distinct o o' ho ho' he
      rcases List.mem_cons.1 hid with heq | hid
      · cases heq
        exact .inr ⟨rfl, rfl, rfl⟩
      · exact .inl hid
    · exact .inl hid
  refine {
    sets := fun o' ho' => by simpa [Workspace.addSource, Workspace.setAdapterSet,
      Workspace.setPhase, Workspace.newAdapter] using h.sets o' ho'
    distinct := h.distinct
    turned := fun id t ht => by have := h.turned id t ht; omega
    cached := fun o' version' id ho' hid => ?_
    disjoint := fun o₁ o₂ v₁ v₂ id h₁ h₂ hid hid' => ?_ }
  · rcases hmem ho' hid with hid | ⟨rfl, rfl, rfl⟩
    · obtain ⟨hbounds, hstore, hsession, hscript, hown⟩ := h.cached o' version' id ho' hid
      have hsame : (w.addSource o version handle).adapter id = w.adapter id :=
        Workspace.adapter_addSource_of_lt hbounds
      exact ⟨by omega, hsame ▸ hstore, hsame ▸ hsession, hsame ▸ hscript, hown⟩
    · have hself : (w.addSource o' version' handle).adapter ⟨w.adapters.size⟩ = _ :=
        Workspace.adapter_addSource_self
      have hturns : turns ⟨w.adapters.size⟩ es = [] :=
        turns_eq_nil fun t ht => Nat.lt_irrefl _ (h.turned _ t ht)
      refine ⟨hsize ▸ Nat.lt_succ_self _, by rw [hself], by rw [hself], fun other hother => ?_,
        fun _ _ _ => by rw [hturns]; rfl⟩
      obtain rfl : name = other := Option.some.inj (hname.symm.trans hother)
      rw [hself, hturns]
      exact congrArg some (ScriptStore.name_openScript hopen)
  · rcases hmem h₁ hid with hold₁ | ⟨rfl, rfl, rfl⟩
    · rcases hmem h₂ hid' with hold₂ | ⟨rfl, rfl, rfl⟩
      · exact h.disjoint o₁ o₂ v₁ v₂ id h₁ h₂ hold₁ hold₂
      · exact absurd hold₁ (hfresh o₁ v₁ h₁)
    · rcases hmem h₂ hid' with hold₂ | ⟨rfl, -, -⟩
      · exact absurd hold₂ (hfresh o₂ v₂ h₂)
      · rfl

theorem source (h : Sources es w) (ho : .opened o ∈ es) (version : Nat) :
    Sources es (Work.runIn w (Driver.source ⟨some o⟩ version)).2 := by
  rw [Driver.runIn_source]
  split
  · exact h
  · next name hname =>
    split
    · exact h
    · split
      · exact h
      · next hopen => exact h.addSource ho hname hopen

theorem adapterSet_closeDriver (h : Sources es w) (ho : .opened o ∈ es) (other : AdapterSetId) :
    (w.closeDriver o).adapterSet other =
      if o.adapters = other then [] else w.adapterSet other := by
  have hclosed := Workspace.leavesOutside_closeAdapters
    fun p hp => (h.cached o p.1 p.2 ho hp).bounds
  have hlt : o.adapters.index < (w.closeAdapters (w.adapterSet o.adapters)).adapterSets.size := by
    rw [hclosed.adapterSets]
    exact h.sets o ho
  have hsame : (w.closeAdapters (w.adapterSet o.adapters)).adapterSet other =
      w.adapterSet other := by
    rw [Workspace.adapterSet, hclosed.adapterSets]
    rfl
  simp only [Workspace.closeDriver, Workspace.adapterSet_removeStore]
  rw [Workspace.adapterSet_setAdapterSet _ hlt, hsame]

/-- Closing a driver changes no adapter of another. -/
theorem closeDriver (h : Sources es w) (ho : .opened o ∈ es) : Sources es (w.closeDriver o) := by
  have hclosed := Workspace.leavesOutside_closeAdapters
    fun p hp => (h.cached o p.1 p.2 ho hp).bounds
  have hset := h.adapterSet_closeDriver ho
  refine h.frame ?_ ?_ (fun o' ho' p hp => ?_) fun o' version id ho' hid => ?_
  · simp [Workspace.closeDriver, Workspace.setAdapterSet, hclosed.adapterSets]
  · simp [Workspace.closeDriver, Workspace.setAdapterSet, hclosed.size]
  · rw [hset] at hp
    split at hp
    · cases hp
    · exact hp
  · rw [hset] at hid
    split at hid
    · cases hid
    · next hne =>
      have hother (version' : Nat) : (version', id) ∉ w.adapterSet o.adapters := by
        intro hid'
        obtain rfl := h.disjoint o o' version' version id ho ho' hid' hid
        exact hne rfl
      simp only [Workspace.closeDriver, Workspace.adapter_removeStore]
      exact hclosed.other id (h.cached o' version id ho' hid).bounds hother

/-- What is done with an adapter is in the history. -/
theorem act (h : Sources es w) (hid : id.index < w.adapters.size) (a : Adapter.Action) :
    Sources (es ++ [.turned id (w.turn id a)]) (w.after id a) := by
  obtain ⟨p, hturned, hleaves⟩ := Workspace.turned hid a
  have hmem {o' : OpenedSource} (ho' : .opened o' ∈ es ++ [.turned id (w.turn id a)]) :
      .opened o' ∈ es := by
    simpa using ho'
  have hset (o' : OpenedSource) :
      (w.after id a).adapterSet o'.adapters = w.adapterSet o'.adapters := by
    rw [Workspace.adapterSet, hleaves.adapterSets]
    rfl
  refine {
    sets := fun o' ho' => hleaves.adapterSets ▸ h.sets o' (hmem ho')
    distinct := fun o₁ o₂ h₁ h₂ he => h.distinct o₁ o₂ (hmem h₁) (hmem h₂) he
    turned := fun other t ht => ?_
    cached := fun o' version other ho' hother => ?_
    disjoint := fun o₁ o₂ v₁ v₂ other h₁ h₂ hother hother' =>
      h.disjoint o₁ o₂ v₁ v₂ other (hmem h₁) (hmem h₂) (hset o₁ ▸ hother) (hset o₂ ▸ hother') }
  · have hsize := hleaves.size
    rcases List.mem_append.1 ht with ht | ht
    · exact Nat.lt_of_lt_of_le (h.turned other t ht) hsize
    · cases List.mem_singleton.1 ht
      exact Nat.lt_of_lt_of_le hid hsize
  · obtain ⟨hbounds, hstore, hsession, hscript, hown⟩ :=
      h.cached o' version other (hmem ho') (hset o' ▸ hother)
    have hbounds' := Nat.lt_of_lt_of_le hbounds hleaves.size
    by_cases he : id = other
    · subst he
      have hself := hleaves.self
      refine ⟨hbounds', by rw [hself]; exact hstore, by rw [hself]; exact hsession,
        fun name hname => ?_, fun name hname hturns => ?_⟩
      · rw [hself, turns_concat_turned, if_pos rfl, Adapter.attached_concat, ← hscript name hname]
        exact hturned.attached
      · rw [turns_concat_turned, if_pos rfl] at hturns ⊢
        have hbefore := hown name hname fun t ht => hturns t (List.mem_append_left _ ht)
        obtain ⟨hreset, hclose⟩ := hturns _ (List.mem_append_right _ (List.mem_singleton.2 rfl))
        have hbound : (w.adapter id).phase.binding?.isSome := by
          rw [← Option.isSome_map, hscript name hname, hbefore]
          rfl
        rw [Adapter.attached_concat, hturned.attaches?_eq_none hbound hreset hclose]
        exact hbefore
    · have hsame := hleaves.other other (Ne.symm he) hbounds
      rw [← hsame] at hstore hsession hscript
      have hturns : turns other (es ++ [.turned id (w.turn id a)]) = turns other es := by
        rw [turns_concat_turned, if_neg he]
      rw [← hturns] at hscript hown
      exact ⟨hbounds', hstore, hsession, hscript, hown⟩

end Sources

/-! ## Runs -/

theorem DriverRun.sources {w₀ w : Workspace} {es : List DriverEvent} (h : DriverRun w₀ es w) :
    Sources es w := by
  induction h with
  | start => exact ⟨nofun, nofun, nofun, nofun, nofun⟩
  | opened _ ho ih =>
    cases Driver.openStep ho with
    | opened hextends hset => exact (ih.extend hextends).opened hset
  | notOpened _ he ih =>
    cases Driver.openStep he with
    | failed hextends => exact ih.extend hextends
  | source _ ho version ih => exact ih.source ho version
  | act _ hid a ih => exact ih.act hid a
  | close _ ho ih =>
    rw [Driver.runIn_close]
    exact ih.closeDriver ho
  | direct _ hsid ss ih =>
    exact ih.frame (Nat.le_refl _) (Nat.le_refl _) (fun _ _ _ h => h) fun _ _ _ _ _ => rfl
  | @newAdapter es w sid _ hsid store ih =>
    refine ih.frame (Nat.le_refl _) ?_ (fun _ _ _ h => h) fun o version id ho hid => ?_
    · simp [Workspace.newAdapter]
    · have hlt := (ih.cached o version id ho hid).bounds
      rw [Workspace.adapter_newAdapter, if_neg (by omega)]
  | edit _ files ih =>
    exact ih.frame (Nat.le_refl _) (Nat.le_refl _) (fun _ _ _ h => h) fun _ _ _ _ _ => rfl

/-- How the reading of a version goes, whose script has a name. -/
inductive VersionRead (es : List DriverEvent) (w : Workspace) (o : OpenedSource) (version : Nat)
    (name method : String) : Except MigrationError Rendered × Workspace → Prop
  /-- The script cannot be opened. -/
  | failed {e} (hnone : (w.adapterSet o.adapters).lookup version = none)
      (he : (w.store o.store).openScript w.files name = .error e) (hne : e ≠ .notBound) :
      VersionRead es w o version name method (.error e, w)
  /-- The first reading binds an adapter to the script. -/
  | first {handle} (hnone : (w.adapterSet o.adapters).lookup version = none)
      (hopen : (w.store o.store).openScript w.files name = .ok handle) (hname : handle.name = name)
      (hbound : ((w.addSource o version handle).adapter ⟨w.adapters.size⟩).phase =
        .bound { handle })
      (hne : (Work.runIn (w.addSource o version handle)
        (Work.read ⟨w.adapters.size⟩ method)).1 ≠ .error .notBound) :
      VersionRead es w o version name method
        (Work.runIn (w.addSource o version handle) (Work.read ⟨w.adapters.size⟩ method))
  /-- Later readings go to that adapter, and to the script that its history has attached to it. -/
  | kept {id} (hid : (w.adapterSet o.adapters).lookup version = some id)
      (hscript : (w.adapter id).phase.handle?.map ScriptHandle.name =
        attached id (some name) (turns id es))
      (hown : (∀ t ∈ turns id es, t.action ≠ .reset ∧ t.action ≠ .close) →
        attached id (some name) (turns id es) = some name)
      (hnotBound : (Work.runIn w (Work.read id method)).1 = .error .notBound ↔
        attached id (some name) (turns id es) = none)
      (hok : ∀ r, (Work.runIn w (Work.read id method)).1 = .ok r →
        (attached id (some name) (turns id es)).map Path.identifier = some r.identifier ∧
          ∃ m p i f, w.loaded id = (.ok m, p, i) ∧
            Adapter.entryFunction? i.session r.identifier r.entry m = some f) :
      VersionRead es w o version name method (Work.runIn w (Work.read id method))

theorem ScriptStore.openScript_ne_notBound {t : FileTree} {s : ScriptStore} {name : String}
    {e : MigrationError} (h : s.openScript t name = .error e) : e ≠ .notBound := by
  rintro rfl
  simp only [openScript, ensureOpen] at h
  split at h
  · cases h
  · simp only [bind, Except.bind] at h
    split at h <;> cases h

/-- A reading that succeeds has called a function of its entry table. -/
theorem Workspace.exists_called_of_read {w : Workspace} {id : AdapterId} {method : String}
    {r : Rendered} (h : (Work.runIn w (Work.read id method)).1 = .ok r) :
    (w.adapter id).phase.identifier? = some r.identifier ∧
      ∃ m p i f, w.loaded id = (.ok m, p, i) ∧
        Adapter.entryFunction? i.session r.identifier r.entry m = some f := by
  cases hid : (w.adapter id).phase.identifier? with
  | none =>
    rw [runIn_read_of_unbound hid] at h
    cases h
  | some identifier =>
    have hrender := w.render_eq id identifier (EntryName.ofMethod method)
    rcases hl : w.loaded id with ⟨e | m, p, i⟩
    · rw [hl] at hrender
      rw [runIn_read hid hrender] at h
      cases h
    · rw [hl] at hrender
      simp only [callEntry_eq] at hrender
      cases hf : Adapter.entryFunction? i.session identifier (EntryName.ofMethod method) m with
      | none =>
        rw [hf] at hrender
        rw [runIn_read hid hrender] at h
        cases h
      | some f =>
        rw [hf] at hrender
        rcases hc : w.call id i f with ⟨fault | v, j⟩
        · simp only [hc] at hrender
          rw [runIn_read hid hrender] at h
          cases h
        · simp only [hc] at hrender
          rw [runIn_read hid hrender] at h
          simp only [Except.map, Except.ok.injEq] at h
          subst h
          dsimp only
          exact ⟨rfl, m, p, i, f, rfl, hf⟩

/-- What a driver renders for a version. It reads the script that the index has for the version as
long as nobody resets or closes the adapter that it hands out; else it reads the script that the
adapter was bound to again, and has none if there is none. -/
theorem DriverRun.read_version {w₀ w : Workspace} {es : List DriverEvent} {o : OpenedSource}
    {version : Nat} {name : String} (h : DriverRun w₀ es w) (ho : .opened o ∈ es)
    (hname : o.index.get? version = some name) (method : String) :
    VersionRead es w o version name method
      (Work.runIn w (Driver.read ⟨some o⟩ version method)) := by
  have hsources := h.sources
  simp only [Driver.read, Work.runIn_bind, Driver.runIn_source, hname]
  cases hlookup : (w.adapterSet o.adapters).lookup version with
  | none =>
    cases hopen : (w.store o.store).openScript w.files name with
    | error e => exact .failed hlookup hopen (ScriptStore.openScript_ne_notBound hopen)
    | ok handle =>
      have hself : (w.addSource o version handle).adapter ⟨w.adapters.size⟩ = _ :=
        Workspace.adapter_addSource_self
      have hbounds : w.adapters.size < (w.addSource o version handle).adapters.size := by
        simp [Workspace.addSource, Workspace.setAdapterSet, Workspace.setPhase,
          Workspace.newAdapter]
      have hne : (Work.runIn (w.addSource o version handle)
          (Work.read ⟨w.adapters.size⟩ method)).1 ≠ .error .notBound := by
        intro he
        have hnone := (Workspace.read_eq_notBound_iff method).1 he
        rw [hself] at hnone
        cases hnone
      exact .first hlookup hopen (ScriptStore.name_openScript hopen) (by rw [hself]) hne
  | some id =>
    obtain ⟨before, after, hset, -⟩ := List.lookup_eq_some_iff.1 hlookup
    obtain ⟨hbounds, -, -, hscript, hown⟩ :=
      hsources.cached o version id ho (hset ▸ List.mem_append_right _ List.mem_cons_self)
    have hscript := hscript name hname
    refine .kept hlookup ?_ (hown name hname) ?_ fun r hr => ?_
    · rw [← hscript, Adapter.Phase.handle?, Option.map_map]
      rfl
    · rw [Workspace.read_eq_notBound_iff, ← hscript]
      simp [Adapter.Phase.identifier?]
    · obtain ⟨hidentifier, hcalled⟩ := Workspace.exists_called_of_read hr
      refine ⟨?_, hcalled⟩
      rw [← hscript, ← hidentifier, Option.map_map]
      rfl

/-- A script whose entry drops a table, and which gives its entry table the name `1_a`. -/
def publishedScript (table : String) (answer : Answer) : Script :=
  .program
    { entries := [("safeUp", .function [.call "dropTable" [.text (.valid table)] none])]
      global? := some "1_a"
      answer }

/-- A directory with two such scripts. The first one answers nothing. -/
def twoVersions : Workspace :=
  { files :=
      { nodes :=
          [(["m"], .directory), (["1_a.lua", "m"], .file ⟨0⟩), (["2_b.lua", "m"], .file ⟨1⟩)]
        contents := #[publishedScript "from_1" .nothing, publishedScript "from_2" .entries] } }

/-- What is opened on it. -/
def twoVersionsSource : OpenedSource :=
  ⟨"lua://m", ⟨0⟩, ⟨0⟩, [(1, "1_a.lua"), (2, "2_b.lua")], ⟨0⟩⟩

/-- The directory after it was opened. -/
def openedTwoVersions : Workspace :=
  { twoVersions with
    sessions := #[.create "default"]
    stores := #[{ root := "m" }]
    adapterSets := #[[]]
    sessionPool := { registered := [("default", ⟨0⟩)], created := 1 }
    storePool := [("lua://m", ⟨0⟩)] }

theorem openUrl_twoVersions :
    Work.runIn twoVersions (Driver.openUrl "lua://m") =
      (.ok ⟨some twoVersionsSource⟩, openedTwoVersions) := by
  have hsorted : ["1_a.lua", "2_b.lua"].mergeSort = ["1_a.lua", "2_b.lua"] :=
    List.mergeSort_of_pairwise (by decide)
  have hlist : ScriptStore.list twoVersions.files { root := "m" } =
      .ok ["1_a.lua", "2_b.lua"] := congrArg Except.ok hsorted
  have hlocator : Locator.parse "lua://m" = .ok ⟨"m", []⟩ := by rfl
  have hkey : Driver.storeKey "m" = "lua://m" := by rfl
  have hindex : VersionIndex.ofNames ["1_a.lua", "2_b.lua"] =
      .ok [(1, "1_a.lua"), (2, "2_b.lua")] := by rfl
  have hstore : Work.runIn (twoVersions.sessionOf "default").2 (Work.storeOf "lua://m" "m") =
      (.ok ⟨0⟩, { openedTwoVersions with adapterSets := #[] }) := by rfl
  have hname : (({ path := "m" } : Locator).query.get? Driver.sessionParameter).getD
      Driver.defaultSession = "default" := rfl
  have hsession : twoVersions.sessionOf "default" =
      (⟨0⟩, (twoVersions.sessionOf "default").2) := rfl
  exact Driver.runIn_openUrl hlocator hname hsession hkey hstore hlist hindex

theorem DriverRun.openedTwoVersions :
    DriverRun twoVersions [.opened twoVersionsSource] openedTwoVersions :=
  .opened .start openUrl_twoVersions

theorem read_version_twoVersions :
    ∃ es w, DriverRun twoVersions es w ∧ .opened twoVersionsSource ∈ es ∧
      twoVersionsSource.index.get? 1 = some "1_a.lua" ∧
      (w.adapterSet twoVersionsSource.adapters).lookup 1 = some ⟨0⟩ ∧
      attached ⟨0⟩ (some "1_a.lua") (turns ⟨0⟩ es) = some "2_b.lua" ∧
      VersionRead es w twoVersionsSource 1 "1_a.lua" "up"
        (Work.runIn w (Driver.read ⟨some twoVersionsSource⟩ 1 "up")) := by
  have hsource := DriverRun.openedTwoVersions.source (List.mem_singleton.2 rfl) 1
  have hreset := hsource.act (show AdapterId.index ⟨0⟩ < _ by decide +kernel) .reset
  have hbound := hreset.act (show AdapterId.index ⟨0⟩ < _ by decide +kernel) (.bind "2_b.lua")
  exact ⟨_, _, hbound, by simp, rfl, rfl, rfl, hbound.read_version (by simp) rfl "up"⟩

/-- Reading a version after its adapter was reset, after it was bound to another script then, and
after a script was read that gives its entry table the same name. -/
theorem foreign_script_twoVersions :
    twoVersionsSource.index.get? 1 = some "1_a.lua" ∧
    (∃ es w, DriverRun twoVersions es w ∧ .opened twoVersionsSource ∈ es ∧
      (Work.runIn w (Driver.read ⟨some twoVersionsSource⟩ 1 "up")).1 = .error .notBound) ∧
    (∃ es w, DriverRun twoVersions es w ∧ .opened twoVersionsSource ∈ es ∧
      (Work.runIn w (Driver.read ⟨some twoVersionsSource⟩ 1 "up")).1 =
        .ok ⟨"2_b", "safeUp", "DROP TABLE \x60from_2\x60;\n"⟩) ∧
    ∃ es w, DriverRun twoVersions es w ∧ .opened twoVersionsSource ∈ es ∧
      (Work.runIn w (Driver.read ⟨some twoVersionsSource⟩ 1 "up")).1 =
        .ok ⟨"1_a", "safeUp", "DROP TABLE \x60from_2\x60;\n"⟩ := by
  have hsource := DriverRun.openedTwoVersions.source (List.mem_singleton.2 rfl) 1
  have hreset := hsource.act (show AdapterId.index ⟨0⟩ < _ by decide +kernel) .reset
  have hbound := hreset.act (show AdapterId.index ⟨0⟩ < _ by decide +kernel) (.bind "2_b.lua")
  have hread := hsource.act (show AdapterId.index ⟨0⟩ < _ by decide +kernel) (.read "up")
  have hother := (hread.source (List.mem_append_left _ (List.mem_singleton.2 rfl)) 2).act
    (show AdapterId.index ⟨1⟩ < _ by decide +kernel) (.read "up")
  exact ⟨rfl, ⟨_, _, hreset, by simp, rfl⟩, ⟨_, _, hbound, by simp, rfl⟩,
    ⟨_, _, hother, by simp, rfl⟩⟩

end SchemaMigration
