import SchemaMigration.Migration.Driver
import SchemaMigration.Proofs.Migration.AdapterRun

/-!
# Runs of drivers

Drivers are opened on locators, any number of them and again after closing, and share sessions and
stores. Their versions are read through adapters that everybody can get hold of, and bind, reset and
close.

## Main definitions

* `DriverEvent`, `turns` — what a history says, and what it says of one adapter.
* `DriverRun` — the runs of drivers in a workspace, with their histories.
* `Workspace.addSource`, `Workspace.closeDriver` — the workspace after a version was read for the
  first time, and after closing a driver.
-/

namespace SchemaMigration

/-- What a history of drivers is made of. -/
inductive DriverEvent where
  | opened (o : OpenedSource)
  | turned (id : AdapterId) (t : Adapter.Turn)

def turns (id : AdapterId) (es : List DriverEvent) : List Adapter.Turn :=
  es.filterMap fun
    | .turned other t => if other = id then some t else none
    | .opened _ => none

/-- The runs of drivers from a workspace on. A reading by a driver is getting the adapter of the
version and reading that. -/
inductive DriverRun (w₀ : Workspace) : List DriverEvent → Workspace → Prop
  | start : DriverRun w₀ [] w₀
  | opened {es w w' url o} (h : DriverRun w₀ es w)
      (ho : Work.runIn w (Driver.openUrl url) = (.ok ⟨some o⟩, w')) :
      DriverRun w₀ (es ++ [.opened o]) w'
  | notOpened {es w w' url e} (h : DriverRun w₀ es w)
      (he : Work.runIn w (Driver.openUrl url) = (.error e, w')) : DriverRun w₀ es w'
  | source {es w o} (h : DriverRun w₀ es w) (ho : .opened o ∈ es) (version : Nat) :
      DriverRun w₀ es (Work.runIn w (Driver.source ⟨some o⟩ version)).2
  | act {es w id} (h : DriverRun w₀ es w) (hid : id.index < w.adapters.size)
      (a : Adapter.Action) : DriverRun w₀ (es ++ [.turned id (w.turn id a)]) (w.after id a)
  | close {es w o} (h : DriverRun w₀ es w) (ho : .opened o ∈ es) :
      DriverRun w₀ es (Work.runIn w (Driver.close ⟨some o⟩)).2
  /-- Steps in a session itself. -/
  | direct {es w sid} (h : DriverRun w₀ es w) (hsid : sid.index < w.sessions.size)
      (ss : List Step) : DriverRun w₀ es (w.setInterpreter sid (w.stepped sid ss))
  | newAdapter {es w sid} (h : DriverRun w₀ es w) (hsid : sid.index < w.sessions.size)
      (store : StoreId) : DriverRun w₀ es (w.newAdapter store sid).2
  | edit {es w} (h : DriverRun w₀ es w) (files : FileTree) : DriverRun w₀ es { w with files }

theorem turns_concat_turned (id other : AdapterId) (es : List DriverEvent) (t : Adapter.Turn) :
    turns id (es ++ [.turned other t]) =
      if other = id then turns id es ++ [t] else turns id es := by
  by_cases h : other = id <;> simp [turns, h]

@[simp] theorem turns_concat_opened (id : AdapterId) (es : List DriverEvent) (o : OpenedSource) :
    turns id (es ++ [.opened o]) = turns id es := by
  simp [turns]

/-! ## Getting an adapter -/

namespace Workspace

/-- The workspace after an adapter was made for a version. -/
def addSource (w : Workspace) (o : OpenedSource) (version : Nat) (handle : ScriptHandle) :
    Workspace :=
  ((w.newAdapter o.store o.session).2.setPhase ⟨w.adapters.size⟩ (.bound { handle })).setAdapterSet
    o.adapters ((version, ⟨w.adapters.size⟩) :: w.adapterSet o.adapters)

theorem adapterSet_setAdapterSet (w : Workspace) {id : AdapterSetId}
    (h : id.index < w.adapterSets.size) (set : AdapterSet) (other : AdapterSetId) :
    (w.setAdapterSet id set).adapterSet other = if id = other then set else w.adapterSet other := by
  by_cases ho : id = other
  · subst ho
    simp [adapterSet, setAdapterSet, h]
  · have hne : id.index ≠ other.index := fun he => ho (by cases id; cases other; simp_all)
    simp [adapterSet, setAdapterSet, ho, hne]

variable {w : Workspace} {o : OpenedSource} {version : Nat} {handle : ScriptHandle}

theorem adapter_addSource_of_lt {id : AdapterId} (h : id.index < w.adapters.size) :
    (w.addSource o version handle).adapter id = w.adapter id :=
  adapter_newBound h

theorem adapter_addSource_self :
    (w.addSource o version handle).adapter ⟨w.adapters.size⟩ =
      { store := o.store
        session := o.session
        output := (w.session o.session).newBuffer.1
        phase := .bound { handle } } :=
  adapter_newBound_self w o.store o.session _

theorem adapterSet_addSource (h : o.adapters.index < w.adapterSets.size) (other : AdapterSetId) :
    (w.addSource o version handle).adapterSet other =
      if o.adapters = other then (version, ⟨w.adapters.size⟩) :: w.adapterSet o.adapters
      else w.adapterSet other :=
  adapterSet_setAdapterSet _ h _ other

end Workspace

/-- The adapter of a version is the one in the set, or else a new one. -/
theorem Driver.runIn_source (w : Workspace) (o : OpenedSource) (version : Nat) :
    Work.runIn w (Driver.source ⟨some o⟩ version) =
      match o.index.get? version with
      | none => (.error (.versionNotFound version), w)
      | some name =>
        match (w.adapterSet o.adapters).lookup version with
        | some id => (.ok id, w)
        | none =>
          match (w.store o.store).openScript w.files name with
          | .error e => (.error e, w)
          | .ok handle => (.ok ⟨w.adapters.size⟩, w.addSource o version handle) := by
  simp only [source, opened, Work.runIn_bind, Work.runIn_lift]
  cases o.index.get? version with
  | none => rfl
  | some name =>
    simp only [Work.runIn_bind, Work.runIn_get]
    cases (w.adapterSet o.adapters).lookup version with
    | some id => rfl
    | none =>
      simp only [Work.runIn_bind, Workspace.runIn_bindNew]
      cases (w.store o.store).openScript w.files name <;> rfl

/-! ## Closing -/

namespace Workspace

variable {w : Workspace} {id : AdapterId} {o : OpenedSource}

theorem runIn_close (w : Workspace) (id : AdapterId) :
    Work.runIn w (Work.close id) = (.ok (), w.after id .close) := by
  simp only [after, Work.act, Work.runIn_bind]
  by_cases hp : (w.adapter id).phase = .closed
  · rw [runIn_close_of_closed hp]
    rfl
  · rw [runIn_close_of_ne hp, runIn_emptyOutput]
    rfl

def closeAdapters (w : Workspace) : AdapterSet → Workspace
  | [] => w
  | (_, id) :: set => (w.after id .close).closeAdapters set

theorem runIn_closeAll (w : Workspace) (set : AdapterSet) :
    Work.runIn w (Work.closeAll set) = (.ok (), w.closeAdapters set) := by
  induction set generalizing w with
  | nil => rfl
  | cons p set ih =>
    simp only [Work.closeAll, Work.runIn_bind, runIn_close, ih]
    rfl

def closeDriver (w : Workspace) (o : OpenedSource) : Workspace :=
  ((w.closeAdapters (w.adapterSet o.adapters)).setAdapterSet o.adapters []).removeStore o.key

/-- What closing an adapter preserves, closing the adapters of a set preserves. -/
theorem closeAdapters_induction {P : Workspace → Prop} {set : AdapterSet} (hp : P w)
    (h : ∀ u, P u → ∀ p ∈ set, P (u.after p.2 .close)) : P (w.closeAdapters set) := by
  induction set generalizing w with
  | nil => exact hp
  | cons p set ih =>
    exact ih (h w hp p List.mem_cons_self) fun u hu q hq => h u hu q (List.mem_cons_of_mem _ hq)

theorem size_after_close (w : Workspace) (id : AdapterId) :
    (w.after id .close).adapters.size = w.adapters.size := by
  by_cases hp : (w.adapter id).phase = .closed
  · rw [after_close_of_closed hp]
  · simp [after_close_of_ne hp, setPhase, updateSession]

/-- Closing the adapters of a set leaves everything else but the sessions as it is. -/
structure LeavesOutside (w : Workspace) (set : AdapterSet) (w' : Workspace) : Prop where
  size : w'.adapters.size = w.adapters.size
  other : ∀ id, id.index < w.adapters.size → (∀ version, (version, id) ∉ set) →
    w'.adapter id = w.adapter id
  files : w'.files = w.files
  sessions : w'.sessions.size = w.sessions.size
  stores : w'.stores = w.stores
  adapterSets : w'.adapterSets = w.adapterSets
  sessionPool : w'.sessionPool = w.sessionPool
  storePool : w'.storePool = w.storePool

theorem leavesOutside_closeAdapters {set : AdapterSet}
    (h : ∀ p ∈ set, p.2.index < w.adapters.size) :
    w.LeavesOutside set (w.closeAdapters set) := by
  refine closeAdapters_induction ⟨rfl, fun _ _ _ => rfl, rfl, rfl, rfl, rfl, rfl, rfl⟩ ?_
  intro u hu p hp
  have hbounds : p.2.index < u.adapters.size := hu.size ▸ h p hp
  obtain ⟨q, -, hleaves⟩ := turned hbounds .close
  refine {
    size := (size_after_close u p.2).trans hu.size
    other := fun id hid hset => ?_
    files := hleaves.files.trans hu.files
    sessions := hleaves.sessions.trans hu.sessions
    stores := hleaves.stores.trans hu.stores
    adapterSets := hleaves.adapterSets.trans hu.adapterSets
    sessionPool := hleaves.sessionPool.trans hu.sessionPool
    storePool := hleaves.storePool.trans hu.storePool }
  have hne : id ≠ p.2 := by
    rintro rfl
    exact hset p.1 hp
  rw [hleaves.other id hne (hu.size ▸ hid), hu.other id hid hset]

theorem store_closeStore (w : Workspace) (id other : StoreId) :
    (w.closeStore id).store other =
      if id = other ∧ id.index < w.stores.size then { w.store other with closed := true }
      else w.store other := by
  by_cases he : id = other
  · subst he
    by_cases hlt : id.index < w.stores.size
    · simp [store, closeStore, hlt, Array.getElem_modify]
    · simp [store, closeStore, hlt]
  · have hne : id.index ≠ other.index := fun h => he (by cases id; cases other; simp_all)
    simp [store, closeStore, Array.getElem?_modify, he, hne]

section RemoveStore

variable (w : Workspace) (key : String)

theorem removeStore_eq : ∃ stores storePool, stores.size = w.stores.size ∧
    w.removeStore key = { w with stores, storePool } := by
  unfold removeStore
  split
  · exact ⟨_, _, by simp, rfl⟩
  · exact ⟨w.stores, w.storePool, rfl, rfl⟩

@[simp] theorem adapters_removeStore : (w.removeStore key).adapters = w.adapters := by
  obtain ⟨_, _, -, h⟩ := w.removeStore_eq key
  rw [h]

@[simp] theorem adapter_removeStore (id : AdapterId) :
    (w.removeStore key).adapter id = w.adapter id := by
  simp [adapter]

@[simp] theorem adapterSets_removeStore : (w.removeStore key).adapterSets = w.adapterSets := by
  obtain ⟨_, _, -, h⟩ := w.removeStore_eq key
  rw [h]

@[simp] theorem adapterSet_removeStore (id : AdapterSetId) :
    (w.removeStore key).adapterSet id = w.adapterSet id := by
  simp [adapterSet]

@[simp] theorem sessions_removeStore : (w.removeStore key).sessions = w.sessions := by
  obtain ⟨_, _, -, h⟩ := w.removeStore_eq key
  rw [h]

@[simp] theorem sessionPool_removeStore : (w.removeStore key).sessionPool = w.sessionPool := by
  obtain ⟨_, _, -, h⟩ := w.removeStore_eq key
  rw [h]

@[simp] theorem size_stores_removeStore :
    (w.removeStore key).stores.size = w.stores.size := by
  obtain ⟨_, _, hsize, h⟩ := w.removeStore_eq key
  rw [h]
  exact hsize

theorem removeStore_of_none {key : String} (h : w.store? key = none) : w.removeStore key = w := by
  rw [removeStore, h]

theorem store?_removeStore (other : String) :
    (w.removeStore key).store? other = if key = other then none else w.store? other := by
  unfold removeStore
  split
  · exact Dict.get?_erase _ _ _
  · next hnone =>
    split
    · next he => rw [← he, hnone]
    · rfl

theorem store_removeStore (id : StoreId) :
    (w.removeStore key).store id =
      if w.store? key = some id ∧ id.index < w.stores.size then { w.store id with closed := true }
      else w.store id := by
  unfold removeStore
  split
  · next other hother =>
    refine (store_closeStore _ other id).trans ?_
    by_cases he : other = id
    · subst he
      simp [hother, store]
    · simp [hother, he, store]
  · next hnone => simp [hnone]

end RemoveStore

section CloseDriver

variable (h : ∀ p ∈ w.adapterSet o.adapters, p.2.index < w.adapters.size)
include h

theorem store?_closeDriver (key : String) :
    (w.closeDriver o).store? key = if o.key = key then none else w.store? key := by
  rw [closeDriver, store?_removeStore]
  simp only [store?, setAdapterSet, (leavesOutside_closeAdapters h).storePool]

theorem store_closeDriver (id : StoreId) :
    (w.closeDriver o).store id =
      if w.store? o.key = some id ∧ id.index < w.stores.size then { w.store id with closed := true }
      else w.store id := by
  have hclosed := leavesOutside_closeAdapters h
  rw [closeDriver, store_removeStore]
  simp only [store?, store, setAdapterSet, hclosed.storePool, hclosed.stores]
  rfl

theorem store_closeDriver_of_closed {id : StoreId} (hclosed : (w.store id).closed = true) :
    (w.closeDriver o).store id = w.store id := by
  rw [store_closeDriver h]
  split
  · rw [← hclosed]
  · rfl

end CloseDriver

end Workspace

theorem Driver.runIn_close (w : Workspace) (o : OpenedSource) :
    Work.runIn w (Driver.close ⟨some o⟩) = (.ok (), w.closeDriver o) := by
  simp only [close, Work.runIn_bind, Work.runIn_get, Workspace.runIn_closeAll]
  rfl

/-! ## Opening -/

theorem Driver.storeKey_injective {path other : String} (h : storeKey path = storeKey other) :
    path = other := by
  have hlist := congrArg String.toList h
  simp only [storeKey, String.toList_append, List.append_cancel_left_eq] at hlist
  exact String.toList_inj.1 hlist

/-- Holds if what is registered is there, and a store is open on the directory of its key. -/
structure Workspace.Registered (w : Workspace) : Prop where
  session : ∀ key id, w.session? key = some id → id.index < w.sessions.size
  store : ∀ key id, w.store? key = some id → id.index < w.stores.size
  root : ∀ key id, w.store? key = some id → ∃ root, key = Driver.storeKey root ∧
    w.store id = { root }

/-- Holds if the sessions have a buffer of their own. -/
def Workspace.HasOwn (w : Workspace) : Prop :=
  ∀ id, id.index < w.sessions.size → (w.session id).buffers.Has (w.session id).ownBuffer

/-- New sessions and stores were made, and perhaps registered. -/
structure Workspace.Extends (w w' : Workspace) : Prop where
  adapters : w'.adapters = w.adapters
  adapterSets : w'.adapterSets = w.adapterSets
  session : ∀ id, id.index < w.sessions.size →
    id.index < w'.sessions.size ∧ w'.session id = w.session id
  store : ∀ id, id.index < w.stores.size →
    id.index < w'.stores.size ∧ w'.store id = w.store id
  kept : ∀ key id, w.store? key = some id → w'.store? key = some id
  registered : w.Registered → w'.Registered
  own : w.HasOwn → w'.HasOwn

theorem Workspace.session_newSession (w : Workspace) (name : String) (sid : SessionId) :
    (w.newSession name).2.session sid =
      if sid.index = w.sessions.size then .create name (w.orders sid) else w.session sid := by
  simp only [session, newSession, Array.getElem?_push]
  split
  · next hsid =>
    rw [← hsid]
    rfl
  · rfl

theorem Workspace.store_addStore (w : Workspace) (s : ScriptStore) (id : StoreId) :
    (w.addStore s).2.store id = if id.index = w.stores.size then s else w.store id := by
  simp only [store, Workspace.addStore, Array.getElem?_push]
  split <;> rfl

/-- A store is registered for one key. -/
theorem Workspace.Registered.key_eq {w : Workspace} (h : w.Registered) {key other : String}
    {id : StoreId} (hkey : w.store? key = some id) (hother : w.store? other = some id) :
    key = other := by
  obtain ⟨root, rfl, hroot⟩ := h.root key id hkey
  obtain ⟨root', rfl, hroot'⟩ := h.root other id hother
  cases hroot.symm.trans hroot'
  rfl

namespace Workspace.Extends

variable {w w' w'' : Workspace}

theorem refl (w : Workspace) : w.Extends w :=
  ⟨rfl, rfl, fun _ h => ⟨h, rfl⟩, fun _ h => ⟨h, rfl⟩, fun _ _ h => h, id, id⟩

theorem trans (h : w.Extends w') (h' : w'.Extends w'') : w.Extends w'' where
  adapters := h'.adapters.trans h.adapters
  adapterSets := h'.adapterSets.trans h.adapterSets
  session id hid := by
    obtain ⟨hid', hs⟩ := h.session id hid
    obtain ⟨hid'', hs'⟩ := h'.session id hid'
    exact ⟨hid'', hs'.trans hs⟩
  store id hid := by
    obtain ⟨hid', hs⟩ := h.store id hid
    obtain ⟨hid'', hs'⟩ := h'.store id hid'
    exact ⟨hid'', hs'.trans hs⟩
  kept key id hid := h'.kept key id (h.kept key id hid)
  registered hr := h'.registered (h.registered hr)
  own ho := h'.own (h.own ho)

theorem sessionOf (w : Workspace) (key : String) : w.Extends (w.sessionOf key).2 := by
  unfold Workspace.sessionOf
  split
  · exact refl w
  · have hold (id : SessionId) (hid : id.index < w.sessions.size) :
        (w.newSession key).2.session id = w.session id := by
      rw [session_newSession, if_neg (Nat.ne_of_lt hid)]
    refine ⟨rfl, rfl, fun id hid => ⟨?_, hold id hid⟩, fun _ h => ⟨h, rfl⟩, fun _ _ h => h,
      fun hr => ⟨?_, hr.store, hr.root⟩, fun ho id hid => ?_⟩
    · simp only [newSession, Array.size_push]
      omega
    · intro other id hid
      simp only [session?, newSession, Dict.get?_insert, Array.size_push] at hid ⊢
      split at hid
      · cases hid
        exact Nat.lt_succ_self _
      · exact Nat.lt_succ_of_lt (hr.session other id hid)
    · change (Workspace.session (w.newSession key).2 id).buffers.Has
        (Workspace.session (w.newSession key).2 id).ownBuffer
      simp only [newSession, Array.size_push] at hid
      rw [session_newSession]
      split
      · exact Nat.one_pos
      · exact ho id (by omega)

theorem addStore (w : Workspace) (s : ScriptStore) : w.Extends (w.addStore s).2 where
  adapters := rfl
  adapterSets := rfl
  session _ h := ⟨h, rfl⟩
  store id hid := by
    refine ⟨by simp [Workspace.addStore]; omega, ?_⟩
    rw [store_addStore, if_neg (Nat.ne_of_lt hid)]
  kept _ _ h := h
  registered hr := by
    refine ⟨hr.session, fun key id hid => ?_, fun key id hid => ?_⟩
    · have hlt := hr.store key id hid
      simp only [Workspace.addStore, Array.size_push]
      omega
    · rw [store_addStore, if_neg (Nat.ne_of_lt (hr.store key id hid))]
      exact hr.root key id hid
  own := id

theorem addStoreAs (w : Workspace) {root : String} {id : StoreId} (hid : id.index < w.stores.size)
    (hroot : w.store id = { root }) : w.Extends (w.addStoreAs (Driver.storeKey root) id).2 := by
  unfold Workspace.addStoreAs
  split
  · exact refl w
  · next hnone =>
    have hcases {other : String} {id' : StoreId}
        (h : (w.storePool.insert (Driver.storeKey root) id).get? other = some id') :
        other = Driver.storeKey root ∧ id' = id ∨ w.store? other = some id' := by
      rw [Dict.get?_insert] at h
      split at h
      · next he => exact .inl ⟨he.symm, (Option.some.inj h).symm⟩
      · exact .inr h
    refine ⟨rfl, rfl, fun _ h => ⟨h, rfl⟩, fun _ h => ⟨h, rfl⟩, fun other id' hid' => ?_,
      fun hr => ⟨hr.session, fun other id' hid' => ?_, fun other id' hid' => ?_⟩, fun ho => ho⟩
    · have hne : Driver.storeKey root ≠ other := by
        rintro rfl
        simp [hid'] at hnone
      exact (Dict.get?_insert_of_ne _ _ hne).trans hid'
    · rcases hcases hid' with ⟨-, rfl⟩ | hold
      · exact hid
      · exact hr.store other id' hold
    · rcases hcases hid' with ⟨rfl, rfl⟩ | hold
      · exact ⟨root, rfl, hroot⟩
      · exact hr.root other id' hold

end Workspace.Extends

theorem ScriptStore.eq_of_openAt {t : FileTree} {root : String} {s : ScriptStore}
    (h : openAt t root = .ok s) : s = { root } := by
  unfold openAt at h
  split at h
  · cases h
    rfl
  · cases h

/-- The store of a key is the registered one, or else a new one. -/
theorem Work.runIn_storeOf (w : Workspace) (key root : String) :
    Work.runIn w (Work.storeOf key root) =
      match w.store? key with
      | some id => (.ok id, w)
      | none =>
        match ScriptStore.openAt w.files root with
        | .error e => (.error e, w)
        | .ok s =>
          (.ok ⟨w.stores.size⟩, ((w.addStore s).2.addStoreAs key ⟨w.stores.size⟩).2) := by
  simp only [storeOf, runIn_bind, runIn_get]
  cases w.store? key with
  | some id => rfl
  | none =>
    simp only [openStore, runIn_bind, runIn_get, runIn_lift]
    cases ScriptStore.openAt w.files root <;> rfl

/-- A new store gets a key that no store is registered for. -/
theorem Workspace.addStoreAs_addStore {w : Workspace} {key : String} (h : w.store? key = none)
    (s : ScriptStore) :
    ((w.addStore s).2.addStoreAs key ⟨w.stores.size⟩).2 =
      { w with
        stores := w.stores.push s
        storePool := w.storePool.insert key ⟨w.stores.size⟩ } := by
  have hnone : (w.addStore s).2.store? key = none := h
  rw [addStoreAs, hnone]
  rfl

theorem Workspace.Extends.storeOf {w w' : Workspace} {r : Except MigrationError StoreId}
    {root : String} (h : Work.runIn w (Work.storeOf (Driver.storeKey root) root) = (r, w')) :
    w.Extends w' ∧ ∀ id, r = .ok id → w'.store? (Driver.storeKey root) = some id := by
  rw [Work.runIn_storeOf] at h
  cases hkey : w.store? (Driver.storeKey root) with
  | some id =>
    simp only [hkey, Prod.mk.injEq] at h
    obtain ⟨rfl, rfl⟩ := h
    exact ⟨refl w, fun id' hid => by cases hid; exact hkey⟩
  | none =>
    rw [hkey] at h
    cases hopen : ScriptStore.openAt w.files root with
    | error e =>
      simp only [hopen, Prod.mk.injEq] at h
      obtain ⟨rfl, rfl⟩ := h
      exact ⟨refl w, fun id' hid => by cases hid⟩
    | ok s =>
      simp only [hopen, Prod.mk.injEq] at h
      obtain ⟨rfl, rfl⟩ := h
      have hnew : w.stores.size < (w.addStore s).2.stores.size := by simp [Workspace.addStore]
      have hroot : (w.addStore s).2.store ⟨w.stores.size⟩ = { root } := by
        rw [store_addStore, if_pos rfl]
        exact ScriptStore.eq_of_openAt hopen
      refine ⟨(addStore w s).trans (addStoreAs _ hnew hroot), fun id' hid => ?_⟩
      cases hid
      have hnone : (w.addStore s).2.store? (Driver.storeKey root) = none := hkey
      simp only [Workspace.addStoreAs, hnone, Option.isSome_none, Bool.false_eq_true, if_false]
      exact Dict.get?_insert_self _ _ _

theorem Workspace.runIn_list (w : Workspace) (id : StoreId) :
    Work.runIn w (Work.list id) = ((w.store id).list w.files, w) := by
  simp [Work.list, Work.runIn_bind]

/-- Opening makes sessions, stores, and at last an empty set of adapters. -/
inductive Driver.OpenStep (w : Workspace) : Except MigrationError Driver → Workspace → Prop
  | failed {e w'} (h : w.Extends w') : OpenStep w (.error e) w'
  | opened {o w'} (h : w.Extends w') (hset : o.adapters = w'.newAdapterSet.1)
      (hsession : w.Registered → o.session.index < w'.sessions.size)
      (hstore : w'.store? o.key = some o.store) :
      OpenStep w (.ok ⟨some o⟩) w'.newAdapterSet.2

/-- Opening a locator registers the session, then gets the store and lists it. -/
theorem Driver.runIn_openUrl_eq {url : String} {locator : Locator}
    (hlocator : Locator.parse url = .ok locator) (w : Workspace) :
    Work.runIn w (openUrl url) =
      let session := w.sessionOf ((locator.query.get? sessionParameter).getD defaultSession)
      match Work.runIn session.2 (Work.storeOf (storeKey locator.path) locator.path) with
      | (.error e, u) => (.error e, u)
      | (.ok store, u) =>
        match (u.store store).list u.files with
        | .error e => (.error e, u)
        | .ok names =>
          match VersionIndex.ofNames names with
          | .error e => (.error (.configuration e), u)
          | .ok index =>
            (.ok ⟨some ⟨storeKey locator.path, store, session.1, index, u.newAdapterSet.1⟩⟩,
              u.newAdapterSet.2) := by
  simp only [openUrl, Work.runIn_bind, Work.orConfiguration, hlocator, Work.runIn_pure,
    Work.runIn_make]
  rcases Work.runIn _ (Work.storeOf _ _) with ⟨e | store, u⟩
  · rfl
  · simp only [Workspace.runIn_list]
    cases (u.store store).list u.files with
    | error e => rfl
    | ok names =>
      dsimp only
      cases VersionIndex.ofNames names <;> rfl

theorem Driver.runIn_openUrl_of_error {url : String} {e : ConfigurationError}
    (h : Locator.parse url = .error e) (w : Workspace) :
    Work.runIn w (openUrl url) = (.error (.configuration e), w) := by
  simp only [openUrl, Work.runIn_bind, Work.orConfiguration, h, Work.runIn_throw]

theorem Driver.openStep {w w' : Workspace} {url : String} {r : Except MigrationError Driver}
    (h : Work.runIn w (Driver.openUrl url) = (r, w')) : Driver.OpenStep w r w' := by
  cases hlocator : Locator.parse url with
  | error e =>
    rw [runIn_openUrl_of_error hlocator] at h
    cases h
    exact .failed (.refl w)
  | ok locator =>
    rw [runIn_openUrl_eq hlocator] at h
    extract_lets session at h
    have hsession : w.Extends session.2 := .sessionOf w _
    rcases hstore : Work.runIn session.2 (Work.storeOf (storeKey locator.path) locator.path) with
      ⟨e | store, u⟩
    · rw [hstore] at h
      cases h
      exact .failed (hsession.trans (Workspace.Extends.storeOf hstore).1)
    · obtain ⟨hextends, hregistered⟩ := Workspace.Extends.storeOf hstore
      have hall := hsession.trans hextends
      simp only [hstore] at h
      split at h
      · cases h
        exact .failed hall
      · split at h
        · cases h
          exact .failed hall
        · cases h
          refine .opened hall rfl (fun hr => ?_) (hregistered store rfl)
          have hnew := (hsession.registered hr).session _ _ (Workspace.session?_sessionOf w _)
          exact (hextends.session _ hnew).1

/-- Opening a directory, step by step. -/
theorem Driver.runIn_openUrl {w w₁ w₂ : Workspace} {url name key : String} {locator : Locator}
    {session : SessionId} {store : StoreId} {names : List String} {index : VersionIndex}
    (hlocator : Locator.parse url = .ok locator)
    (hname : (locator.query.get? sessionParameter).getD defaultSession = name)
    (hsession : w.sessionOf name = (session, w₁)) (hkey : storeKey locator.path = key)
    (hstore : Work.runIn w₁ (Work.storeOf key locator.path) = (.ok store, w₂))
    (hlist : (w₂.store store).list w₂.files = .ok names)
    (hindex : VersionIndex.ofNames names = .ok index) :
    Work.runIn w (openUrl url) =
      (.ok ⟨some ⟨key, store, session, index, w₂.newAdapterSet.1⟩⟩, w₂.newAdapterSet.2) := by
  simp only [runIn_openUrl_eq hlocator, hname, hsession, hkey, hstore, hlist, hindex]

/-- Opening a directory that no store is registered for. -/
theorem Driver.runIn_openUrl_anew {w w₁ : Workspace} {url : String} {locator : Locator}
    {session : SessionId} {at' : Location} {names : List String} {index : VersionIndex}
    (hlocator : Locator.parse url = .ok locator)
    (hsession : w.sessionOf ((locator.query.get? sessionParameter).getD defaultSession) =
      (session, w₁))
    (hstore : w₁.store? (storeKey locator.path) = none)
    (hfind : w₁.files.find locator.path = .ok (at', .directory))
    (hnames : w₁.files.list at' = .ok names) (hindex : VersionIndex.ofNames names = .ok index) :
    Work.runIn w (openUrl url) =
      (.ok ⟨some ⟨storeKey locator.path, ⟨w₁.stores.size⟩, session, index,
        ⟨w₁.adapterSets.size⟩⟩⟩,
        { w₁ with
          stores := w₁.stores.push { root := locator.path }
          storePool := w₁.storePool.insert (storeKey locator.path) ⟨w₁.stores.size⟩
          adapterSets := w₁.adapterSets.push [] }) := by
  have hopen : ScriptStore.openAt w₁.files locator.path = .ok { root := locator.path } := by
    simp [ScriptStore.openAt, FileTree.isDirectory, hfind]
  have hrun := Work.runIn_storeOf w₁ (storeKey locator.path) locator.path
  simp only [hstore, hopen, Workspace.addStoreAs_addStore hstore] at hrun
  have hlist : ScriptStore.list w₁.files { root := locator.path } = .ok names := by
    simp only [ScriptStore.list, hfind, hnames]
    rfl
  refine runIn_openUrl hlocator rfl hsession rfl hrun ?_ hindex
  rw [← hlist]
  simp [Workspace.store]

end SchemaMigration
