import SchemaMigration.Proofs.Migration.Apart
import SchemaMigration.Proofs.Migration.Client

/-!
# Closing a driver

Closing a driver empties and closes its adapters and closes its store. Other drivers see this in two
ways only: if they share the store and have a script still to open, and if scripts got hold of the
buffer of one of the adapters.

A driver is closed here while its key has its own store, and again while its key has none. What
happens if the key was given to another store in between is left open.

## Main definitions

* `Client.sharing`, `Client.repliesRefusing` — the drivers that share a store, and what comes of
  requests if these open no script any more.
* `Client.Alongside` — two clients of which one closes a driver.
* `Client.repliesClosing_eq_repliesRefusing` — what closing a driver changes for others.
-/

namespace SchemaMigration

/-- Holds if a variable, a global name or a table of a session holds a buffer. -/
def Session.Holds (s : Session) (id : BufferId) : Prop :=
  (∃ p ∈ s.vars, p.2 = .buffer id) ∨ (∃ p ∈ s.globals, p.2 = .buffer id) ∨
    ∃ t ∈ s.tables.toList, ∃ p ∈ t, p.2 = .buffer id

instance (s : Session) (id : BufferId) : Decidable (s.Holds id) :=
  inferInstanceAs (Decidable (_ ∨ _ ∨ _))

theorem Dict.mem_of_get?_eq_some {α : Type} {d : Dict α} {name : String} {a : α}
    (h : d.get? name = some a) : (name, a) ∈ d := by
  induction d with
  | nil => cases h
  | cons p rest ih =>
    obtain ⟨n, b⟩ := p
    simp only [get?] at h
    split at h
    · next he =>
      cases h
      exact he ▸ List.mem_cons_self
    · exact List.mem_cons_of_mem _ (ih h)

/-- What scripts find in a session that does not hold buffers leads to none of them. -/
theorem Session.clean_without {hidden : BufferId → Prop} {s : Session}
    (h : ∀ id, hidden id → ¬ s.Holds id) : s.Clean (.without hidden) := by
  have hdict {d : Dict ScriptValue} {name : String} {id : BufferId}
      (he : ScriptValue.ofOption (d.get? name) = .buffer id) : ∃ p ∈ d, p.2 = .buffer id := by
    cases hv : d.get? name with
    | none => simp [hv, ScriptValue.ofOption] at he
    | some v =>
      rw [hv] at he
      exact ⟨_, Dict.mem_of_get?_eq_some hv, he⟩
  refine {
    vars := fun name id hid he => h id hid (.inl (hdict he))
    globals := fun name _ id hid he => h id hid (.inr (.inl (hdict he)))
    tables := fun place kv hkv id hid he => h id hid (.inr (.inr ⟨s.table place, ?_, kv, hkv, he⟩))
    fresh := fun _ _ _ _ he => by cases he
    bodies := fun _ _ _ => trivial }
  unfold table at hkv ⊢
  cases ht : s.tables[place]? with
  | none => simp [ht] at hkv
  | some t => exact Array.mem_toList_iff.2 (Array.mem_of_getElem? ht)

/-! ## Closing, seen from one side -/

namespace Workspace

theorem adapterSet_setAdapterSet_nil (w : Workspace) (set : AdapterSetId) :
    (w.setAdapterSet set []).adapterSet set = [] := by
  simp only [adapterSet, setAdapterSet, Array.getElem?_setIfInBounds_self]
  split <;> rfl

theorem adapterSet_closeDriver (w : Workspace) (o : OpenedSource) :
    (w.closeDriver o).adapterSet o.adapters = [] := by
  rw [closeDriver, adapterSet_removeStore, adapterSet_setAdapterSet_nil]

theorem setAdapterSet_self (w : Workspace) (id : AdapterSetId) :
    w.setAdapterSet id (w.adapterSet id) = w := by
  have hsame : w.adapterSets.setIfInBounds id.index (w.adapterSet id) = w.adapterSets := by
    refine Array.ext_getElem? fun i => ?_
    rw [Array.getElem?_setIfInBounds]
    split
    · next he =>
      subst he
      by_cases hlt : id.index < w.adapterSets.size <;> simp [adapterSet, hlt]
    · rfl
  rw [setAdapterSet, hsame]

/-- Closing a driver again changes nothing. -/
theorem closeDriver_closeDriver (w : Workspace) (o : OpenedSource) :
    (w.closeDriver o).closeDriver o = w.closeDriver o := by
  have hset := w.adapterSet_closeDriver o
  have hstore : (w.closeDriver o).store? o.key = none := by
    rw [closeDriver, store?_removeStore, if_pos rfl]
  generalize w.closeDriver o = u at hset hstore ⊢
  have hself := u.setAdapterSet_self o.adapters
  rw [hset] at hself
  rw [closeDriver, hset, closeAdapters, hself, u.removeStore_of_none hstore]

theorem Outputs.not_outputOf {w : Workspace} {set : AdapterSetId} {id : AdapterId}
    (h : w.Outputs) (hid : id.index < w.adapters.size) (houtside : w.Outside set id)
    (hbounds : ∀ p ∈ w.adapterSet set, p.2.index < w.adapters.size) :
    ¬ w.OutputOf set (w.adapter id).session (w.adapter id).output := by
  rintro ⟨p, hp, hsession, houtput⟩
  obtain rfl := h.injective p.2 id (hbounds p hp) hid hsession houtput
  exact houtside p.1 hp

namespace SameStore

variable {w w' u u' : Workspace} {o closing : OpenedSource} {store' : StoreId}

theorem keep (h : w.SameStore w' o store') (hu : w.KeepsStores u) (hu' : w'.KeepsStores u')
    (hlt : o.store.index < w.stores.size) (hlt' : store'.index < w'.stores.size) :
    u.SameStore u' o store' := by
  rcases h with ⟨hkey, hkey'⟩ | ⟨hclosed, hsame⟩
  · exact .inl ⟨hu.registered _ _ hkey, hu'.registered _ _ hkey'⟩
  · rw [← hu.store _ hlt] at hclosed hsame
    rw [← hu'.store _ hlt'] at hsame
    exact .inr ⟨hclosed, hsame⟩

/-- Closing a driver on both sides. -/
theorem closeDriver (h : w.SameStore w' o store') (hw : w.Registered) (hw' : w'.Registered)
    (hbounds : ∀ p ∈ w.adapterSet closing.adapters, p.2.index < w.adapters.size)
    (hbounds' : ∀ p ∈ w'.adapterSet closing.adapters, p.2.index < w'.adapters.size)
    (hlt : o.store.index < w.stores.size) (hlt' : store'.index < w'.stores.size) :
    (w.closeDriver closing).SameStore (w'.closeDriver closing) o store' := by
  have hsame := h.eq hw hw'
  rcases h with ⟨hkey, hkey'⟩ | ⟨hclosed, -⟩
  · by_cases he : closing.key = o.key
    · refine .inr ?_
      rw [store_closeDriver hbounds, store_closeDriver hbounds', he, if_pos ⟨hkey, hlt⟩,
        if_pos ⟨hkey', hlt'⟩, hsame]
      exact ⟨rfl, rfl⟩
    · refine .inl ?_
      rw [store?_closeDriver hbounds, store?_closeDriver hbounds', if_neg he, if_neg he]
      exact ⟨hkey, hkey'⟩
  · refine .inr ?_
    rw [store_closeDriver_of_closed hbounds hclosed,
      store_closeDriver_of_closed hbounds' (hsame ▸ hclosed)]
    exact ⟨hclosed, hsame⟩

/-- Closing a driver on one side, which frees another key. -/
theorem closeDriver_right (h : w.SameStore w' o store') (hsame : w'.store store' = w.store o.store)
    (hbounds' : ∀ p ∈ w'.adapterSet closing.adapters, p.2.index < w'.adapters.size)
    (hne : w'.store? closing.key ≠ some store') :
    w.SameStore (w'.closeDriver closing) o store' := by
  rcases h with ⟨hkey, hkey'⟩ | ⟨hclosed, -⟩
  · refine .inl ⟨hkey, ?_⟩
    rw [store?_closeDriver hbounds', if_neg]
    · exact hkey'
    · rintro he
      exact hne (he ▸ hkey')
  · refine .inr ⟨hclosed, ?_⟩
    rw [store_closeDriver_of_closed hbounds' (hsame ▸ hclosed), hsame]

end SameStore

end Workspace

namespace Apart

variable {set : AdapterSetId} {w w' : Workspace} {id : AdapterId}

/-- The phase of an adapter in the set. -/
theorem setPhase_right (h : Apart set w w') {version : Nat}
    (hid : (version, id) ∈ w.adapterSet set) (p : Adapter.Phase) :
    Apart set w (w'.setPhase id p) := by
  have hlt : id.index < w'.adapters.size := h.adapters ▸ (h.bounds _ hid).1
  refine { h with
    adapters := by simpa [Workspace.setPhase] using h.adapters
    adapter := fun other => ?_
    phase := fun other hother => ?_ }
  · have hsame := w'.sameOutput_setPhase hlt p other
    exact ⟨hsame.session.trans (h.adapter other).session,
      hsame.output.trans (h.adapter other).output⟩
  · have hne : id ≠ other := by
      rintro rfl
      exact hother version hid
    rw [Workspace.adapter_setPhase w' hlt, if_neg hne]
    exact h.phase other hother

/-- The buffer of such an adapter. -/
theorem reset_right (h : Apart set w w') {sid : SessionId} {output : BufferId}
    (hout : w.OutputOf set sid output) :
    Apart set w (w'.updateSession sid (·.updateBuffers (·.reset output))) := by
  refine { h with
    sessions := by simpa [Workspace.updateSession] using h.sessions
    session := fun other hother => ?_ }
  by_cases he : sid = other
  · subst he
    rw [Workspace.session_updateSession w' (h.sessions ▸ hother)]
    exact (h.session sid hother).hide hout
  · rw [Workspace.session_updateSession_of_ne w' he]
    exact h.session other hother

/-- Such an adapter as a whole. -/
theorem close_right (h : Apart set w w') {version : Nat} (hid : (version, id) ∈ w.adapterSet set) :
    Apart set w (w'.after id .close) := by
  by_cases hp : (w'.adapter id).phase = .closed
  · rwa [Workspace.after_close_of_closed hp]
  · have hclosed := h.setPhase_right hid .closed
    obtain ⟨hsession, houtput⟩ := hclosed.adapter id
    rw [Workspace.after_close_of_ne hp, hsession, houtput]
    exact hclosed.reset_right ⟨_, hid, rfl, rfl⟩

/-- The set itself. -/
theorem empty_right (h : Apart set w w') : Apart set w (w'.setAdapterSet set []) := by
  refine { h with
    adapterSets := by simpa [Workspace.setAdapterSet] using h.adapterSets
    adapterSet := fun other hother => ?_
    subset := ?_ }
  · have hne : set.index ≠ other.index := fun he => hother (by cases set; cases other; simp_all)
    have hsame : (w'.setAdapterSet set []).adapterSet other = w'.adapterSet other := by
      simp [Workspace.adapterSet, Workspace.setAdapterSet, hne]
    rw [hsame]
    exact h.adapterSet other hother
  · rw [Workspace.adapterSet_setAdapterSet_nil]
    exact List.nil_subset _

/-- The driver of the set. -/
theorem closeDriver_right {o : OpenedSource} (h : Apart o.adapters w w') :
    Apart o.adapters w (w'.closeDriver o) := by
  have hclosed : Apart o.adapters w (w'.closeAdapters (w'.adapterSet o.adapters)) :=
    Workspace.closeAdapters_induction h fun u hu p hp => hu.close_right (h.subset hp)
  obtain ⟨stores, storePool, -, hremove⟩ :=
    ((w'.closeAdapters (w'.adapterSet o.adapters)).setAdapterSet o.adapters []).removeStore_eq o.key
  rw [Workspace.closeDriver, hremove]
  exact hclosed.empty_right.ofStores w.stores stores w.storePool storePool

end Apart

namespace DriverRun

variable {w₀ w w' : Workspace} {es : List DriverEvent} {o other : OpenedSource}

theorem bounds (h : DriverRun w₀ es w) (ho : .opened o ∈ es) :
    ∀ p ∈ w.adapterSet o.adapters, p.2.index < w.adapters.size :=
  fun p hp => (h.sources.cached o p.1 p.2 ho hp).bounds

/-- Adapters of other drivers are outside of a driver's set. -/
theorem outside (h : DriverRun w₀ es w) (ho : .opened o ∈ es) (hother : .opened other ∈ es)
    (hne : other ≠ o) {p : Nat × AdapterId} (hp : p ∈ w.adapterSet other.adapters) :
    p.2.index < w.adapters.size ∧ w.Outside o.adapters p.2 := by
  refine ⟨h.bounds hother p hp, fun version hversion => ?_⟩
  exact hne (h.sources.disjoint other o p.1 version p.2 hother ho hp hversion)

theorem adapters_ne (h : DriverRun w₀ es w) (ho : .opened o ∈ es) (hother : .opened other ∈ es)
    (hne : other ≠ o) : other.adapters ≠ o.adapters :=
  fun he => hne (h.sources.distinct other o hother ho he)

/-- A workspace is apart from itself, if scripts did not get hold of the buffers. -/
theorem apart_self (h : DriverRun w₀ es w) (hw₀ : w₀.Unused) (ho : .opened o ∈ es)
    (hheld : ∀ p ∈ w.adapterSet o.adapters, ¬ (w.session o.session).Holds (w.adapter p.2).output) :
    Apart o.adapters w w := by
  have hcached {p : Nat × AdapterId} (hp : p ∈ w.adapterSet o.adapters) :=
    h.sources.cached o p.1 p.2 ho hp
  have houtputs := h.outputs hw₀
  refine {
    files := rfl
    context := rfl
    orders := rfl
    adapters := rfl
    adapter := fun _ => ⟨rfl, rfl⟩
    phase := fun _ _ => rfl
    adapterSets := rfl
    adapterSet := fun _ _ => rfl
    subset := List.Subset.refl _
    sessions := rfl
    session := fun sid _ => .refl (Session.clean_without ?_) ?_
    sessionPool := rfl
    bounds := fun p hp => ⟨(hcached hp).bounds, houtputs.session _ (hcached hp).bounds⟩ }
  · rintro b ⟨p, hp, rfl, rfl⟩
    rw [(hcached hp).session]
    exact hheld p hp
  · rintro ⟨p, hp, rfl, houtput⟩
    exact houtputs.ne_own p.2 (hcached hp).bounds houtput

/-- What another driver is asked for comes to the same, if it does not need its store or the stores
are alike. -/
theorem agree_perform (h : DriverRun w₀ es w) (hw₀ : w₀.Unused) (ho : .opened o ∈ es)
    (hother : .opened other ∈ es) (hne : other ≠ o) (ha : Apart o.adapters w w')
    {store' : StoreId} (a : DriverAction)
    (hstore : (∀ version ∈ a.version?, w.OpensNone other version) ∨
      w'.store store' = w.store other.store) :
    Agree o.adapters w w' (Driver.perform ⟨some other⟩ a)
      (Driver.perform ⟨some { other with store := store' }⟩ a) := by
  have hsets := h.sources.sets other hother
  have hadapters := h.adapters_ne ho hother hne
  have hsource {version : Nat} (hv : a.version? = some version) :
      Agree o.adapters w w' (Driver.source ⟨some other⟩ version)
        (Driver.source ⟨some { other with store := store' }⟩ version) :=
    ha.source hadapters hsets ((h.provided hw₀).session other hother)
      (hstore.imp_left fun hnone => hnone version hv)
  cases a with
  | source version => exact (hsource rfl).bind fun id u u' _ hu => ⟨_, _, _, rfl, rfl, hu⟩
  | read version method =>
    refine Agree.bind ((hsource rfl).bind fun id u u' hrun hu => ?_)
      fun r u u' _ hu => ⟨_, _, _, rfl, rfl, hu⟩
    have hu' : DriverRun w₀ es u := by
      have hrun' := h.source hother version
      rwa [hrun] at hrun'
    obtain ⟨hid, houtside⟩ := hu'.outside ho hother hne (mem_of_source hsets hrun)
    have houtputs := hu'.outputs hw₀
    have hout := houtputs.not_outputOf hid houtside (hu'.bounds ho)
    exact hu.read houtside hid (houtputs.session _ hid) hout method
  | close =>
    have hclosed := ha.closeDriver (h.outputs hw₀) hadapters hsets
      fun p hp => h.outside ho hother hne hp
    have hagree : Agree o.adapters w w' (Driver.close ⟨some other⟩)
        (Driver.close ⟨some { other with store := store' }⟩) :=
      ⟨_, _, _, Driver.runIn_close w other, Driver.runIn_close w' _, hclosed⟩
    exact hagree.bind fun _ u u' _ hu => ⟨_, _, _, rfl, rfl, hu⟩

/-- The store of a driver is registered for its key until it is closed. -/
theorem registered_or_closed (h : DriverRun w₀ es w) (hw₀ : w₀.Unused) (ho : .opened o ∈ es) :
    w.store? o.key = some o.store ∨ (w.store o.store).closed = true := by
  have hkeeps {u u' : Workspace} (hk : u.KeepsStores u') (hlt : o.store.index < u.stores.size)
      (hu : u.store? o.key = some o.store ∨ (u.store o.store).closed = true) :
      u'.store? o.key = some o.store ∨ (u'.store o.store).closed = true := by
    rw [hk.store _ hlt]
    exact hu.imp_left (hk.registered _ _)
  induction h with
  | start => cases ho
  | @opened es w w' url o' h hrun ih =>
    rcases List.mem_append.1 ho with hold | hnew
    · exact hkeeps (Driver.keepsStores_openUrl hrun) ((h.provided hw₀).store o hold) (ih hold)
    · cases List.mem_singleton.1 hnew
      cases Driver.openStep hrun with
      | opened _ _ _ hstore => exact .inl hstore
  | notOpened h hrun ih =>
    exact hkeeps (Driver.keepsStores_openUrl hrun) ((h.provided hw₀).store o ho) (ih ho)
  | source h _ version ih =>
    exact hkeeps (keepsStores_source _ _ version) ((h.provided hw₀).store o ho) (ih ho)
  | @act es w id h hid a ih =>
    have ho' : .opened o ∈ es := by simpa using ho
    obtain ⟨p, -, hleaves⟩ := Workspace.turned hid a
    exact hkeeps (.of_eq hleaves.stores hleaves.storePool) ((h.provided hw₀).store o ho') (ih ho')
  | @close es w closing h hclosing ih =>
    rw [Driver.runIn_close]
    have hbounds := h.bounds hclosing
    rcases ih ho with hkey | hclosed
    · rw [Workspace.store?_closeDriver hbounds, Workspace.store_closeDriver hbounds]
      split
      · next he =>
        rw [he, if_pos ⟨hkey, (h.provided hw₀).store o ho⟩]
        exact .inr rfl
      · exact .inl hkey
    · rw [Workspace.store_closeDriver_of_closed hbounds hclosed]
      exact .inr hclosed
  | direct _ _ _ ih | newAdapter _ _ _ ih | edit _ _ ih => exact ih ho

end DriverRun

/-- A script that is to be opened in a closed store. -/
theorem Workspace.runIn_perform_of_closed {w : Workspace} {d : OpenedSource} {a : DriverAction}
    {version : Nat} {root : String}
    (hv : a.version? = some version) (hopens : ¬ w.OpensNone d version)
    (hclosed : w.store d.store = { root, closed := true }) :
    Work.runIn w (Driver.perform ⟨some d⟩ a) =
      (.error (.configuration (.directoryClosed root)), w) := by
  obtain ⟨name, hname⟩ := Option.ne_none_iff_exists'.1 fun hnone => hopens (.inl hnone)
  have hlookup : (w.adapterSet d.adapters).lookup version = none :=
    Option.not_isSome_iff_eq_none.1 fun hsome => hopens (.inr hsome)
  have hopen : (w.store d.store).openScript w.files name =
      .error (.configuration (.directoryClosed root)) := by
    simp [hclosed, ScriptStore.openScript, ScriptStore.ensureOpen, bind, Except.bind]
  have hsource : Work.runIn w (Driver.source ⟨some d⟩ version) =
      (.error (.configuration (.directoryClosed root)), w) := by
    simp only [Driver.runIn_source, hname, hlookup, hopen]
  cases a with
  | source v =>
    cases hv
    rw [Driver.perform, Work.runIn_map, hsource]
    rfl
  | read v method =>
    cases hv
    simp only [Driver.perform, Driver.read, Work.runIn_bind, hsource]
  | close => cases hv

/-! ## Closing in between -/

namespace Client

/-- The drivers that share the store of a driver. -/
def sharing (c : Client) (o : OpenedSource) : List OpenedSource :=
  c.drivers.filter (·.store = o.store)

/-- Holds if a request makes one of some drivers open a script. -/
def Opens (c : Client) (sharing : List OpenedSource) : DriverRequest → Prop
  | .openUrl _ => False
  | .ask i a => ∃ d ∈ c.drivers[i]?, d ∈ sharing ∧
    ∃ version ∈ a.version?, ¬ c.workspace.OpensNone d version

instance (c : Client) (sharing : List OpenedSource) (r : DriverRequest) :
    Decidable (c.Opens sharing r) :=
  match r with
  | .openUrl _ => inferInstanceAs (Decidable False)
  | .ask i a => inferInstanceAs (Decidable (∃ d ∈ c.drivers[i]?, _ ∧ ∃ version ∈ a.version?, _))

/-- What comes of requests if some drivers open no script: a request that needs one is refused, and
nothing else is done for it. -/
def repliesRefusing (c : Client) (sharing : List OpenedSource) (root : String) :
    List DriverRequest → List DriverReply
  | [] => []
  | r :: rs =>
    if c.Opens sharing r then
      .answered (.error (.configuration (.directoryClosed root))) ::
        c.repliesRefusing sharing root rs
    else (c.serve r).1 :: (c.serve r).2.repliesRefusing sharing root rs

/-- Holds of requests that do not go to a driver. -/
def Other (c : Client) (o : OpenedSource) : DriverRequest → Prop
  | .openUrl _ => True
  | .ask i _ => c.drivers[i]? ≠ some o

instance (c : Client) (o : OpenedSource) (r : DriverRequest) : Decidable (c.Other o r) :=
  match r with
  | .openUrl _ => inferInstanceAs (Decidable True)
  | .ask _ _ => inferInstanceAs (Decidable (_ ≠ _))

/-- The same of requests one after the other, while the driver is closed in between. That happens
only while its key has no store. -/
def Others (c : Client) (o : OpenedSource) : List (Nat × DriverRequest) → Prop
  | [] => True
  | (n, r) :: rs =>
    (n ≠ 0 → c.workspace.store? o.key = none) ∧ c.Other o r ∧
      ((c.closed o n).serve r).2.Others o rs

instance decidableOthers (c : Client) (o : OpenedSource) :
    (rs : List (Nat × DriverRequest)) → Decidable (c.Others o rs)
  | [] => isTrue trivial
  | (n, r) :: rs =>
    have := decidableOthers ((c.closed o n).serve r).2 o rs
    inferInstanceAs (Decidable (_ ∧ _ ∧ _))

theorem closed_succ (c : Client) (o : OpenedSource) (n : Nat) :
    c.closed o (n + 1) = { c with workspace := c.workspace.closeDriver o } := by
  induction n with
  | zero => simp only [closed, Driver.runIn_close]
  | succ n ih =>
    rw [closed, ih]
    simp only [Driver.runIn_close, Workspace.closeDriver_closeDriver]

theorem drivers_closed (c : Client) (o : OpenedSource) (n : Nat) :
    (c.closed o n).drivers = c.drivers := by
  induction n with
  | zero => rfl
  | succ n ih => exact ih

/-- Two clients with the same drivers, of which the second closed one. Drivers that share its store
have a closed store in the second; the stores of all others are alike. -/
structure Alongside (o : OpenedSource) (sharing : List OpenedSource) (root : String)
    (c c' : Client) : Prop where
  apart : Apart o.adapters c.workspace c'.workspace
  length : c'.drivers.length = c.drivers.length
  store : c'.workspace.store o.store = { root, closed := true }
  driver : ∀ p ∈ c.drivers.zip c'.drivers, p.2 = { p.1 with store := p.2.store } ∧
    (p.1 ∈ sharing → p.2.store = o.store) ∧
    (p.1 ∉ sharing → c.workspace.SameStore c'.workspace p.1 p.2.store)

namespace Alongside

variable {w₀ : Workspace} {es es' : List DriverEvent} {o : OpenedSource}
  {sharing : List OpenedSource} {root : String} {c c' : Client} {u u' : Workspace}

/-- Closing a driver whose key has its own store, or none. -/
theorem closed_self (hc : c.Ran w₀ es) (hw₀ : w₀.Unused) (ho : .opened o ∈ es)
    (hself : Apart o.adapters c.workspace c.workspace)
    (hkey : c.workspace.store? o.key = some o.store ∨ c.workspace.store? o.key = none) :
    Alongside o (c.sharing o) (c.workspace.store o.store).root c (c.closed o 1) := by
  have hlt := (hc.run.provided hw₀).store o ho
  have hbounds := hc.run.bounds ho
  rw [closed_succ]
  refine ⟨hself.closeDriver_right, rfl, ?_, fun p hp => ?_⟩
  · rw [Workspace.store_closeDriver hbounds]
    rcases hkey with hown | hnone
    · rw [if_pos ⟨hown, hlt⟩]
    · have hclosed : (c.workspace.store o.store).closed = true :=
        (hc.run.registered_or_closed hw₀ ho).resolve_left (by simp [hnone])
      rw [if_neg (by simp [hnone]), ← hclosed]
  · obtain ⟨i, hi⟩ := List.mem_iff_getElem?.1 hp
    obtain ⟨hfst, hsnd⟩ := List.getElem?_zip_eq_some.1 hi
    have he : p.2 = p.1 := Option.some.inj (hsnd.symm.trans hfst)
    have hmem : p.1 ∈ c.drivers := List.mem_of_getElem? hfst
    rw [he]
    refine ⟨rfl, fun hsharing => by simpa using (List.mem_filter.1 hsharing).2,
      fun hsharing => ?_⟩
    have hne : p.1.store ≠ o.store :=
      fun he => hsharing (List.mem_filter.2 ⟨hmem, by simpa using he⟩)
    have hsame : c.workspace.SameStore c.workspace p.1 p.1.store := by
      rcases hc.run.registered_or_closed hw₀ (hc.opened p.1 hmem) with hkey | hclosed
      · exact .inl ⟨hkey, hkey⟩
      · exact .inr ⟨hclosed, rfl⟩
    refine hsame.closeDriver_right rfl hbounds fun hregistered => hne ?_
    rcases hkey with hown | hnone
    · exact Option.some.inj (hregistered.symm.trans hown)
    · simp [hnone] at hregistered

/-- The workspaces go on. -/
theorem follow (h : Alongside o sharing root c c') (hu : Apart o.adapters u u')
    (hclosed : u'.store o.store = c'.workspace.store o.store)
    (hstore : ∀ p ∈ c.drivers.zip c'.drivers,
      c.workspace.SameStore c'.workspace p.1 p.2.store → u.SameStore u' p.1 p.2.store) :
    Alongside o sharing root { c with workspace := u } { c' with workspace := u' } where
  apart := hu
  length := h.length
  store := hclosed.trans h.store
  driver p hp := by
    obtain ⟨hdriver, hshared, hsame⟩ := h.driver p hp
    exact ⟨hdriver, hshared, fun hother => hstore p hp (hsame hother)⟩

/-- The drivers at a place. -/
theorem getElem? (h : Alongside o sharing root c c') (i : Nat) :
    c.drivers[i]? = none ∧ c'.drivers[i]? = none ∨
      ∃ d store', c.drivers[i]? = some d ∧ c'.drivers[i]? = some { d with store := store' } ∧
        (d ∈ sharing → store' = o.store) ∧
        (d ∉ sharing → c.workspace.SameStore c'.workspace d store') := by
  cases hi : c.drivers[i]? with
  | none =>
    have hi' : c'.drivers[i]? = none := by
      rw [List.getElem?_eq_none_iff] at hi ⊢
      exact h.length ▸ hi
    exact .inl ⟨rfl, hi'⟩
  | some d =>
    have hlt : i < c'.drivers.length := h.length ▸ (List.getElem?_eq_some_iff.1 hi).1
    have hi' : c'.drivers[i]? = some c'.drivers[i] := List.getElem?_eq_getElem hlt
    have hpair : (d, c'.drivers[i]) ∈ c.drivers.zip c'.drivers :=
      List.mem_of_getElem? (List.getElem?_zip_eq_some.2 ⟨hi, hi'⟩)
    obtain ⟨hd, hshared, hsame⟩ := h.driver _ hpair
    dsimp only at hd hshared hsame
    rw [hd] at hi'
    exact .inr ⟨d, _, rfl, hi', hshared, hsame⟩

section Step

variable (h : Alongside o sharing root c c') (hc : c.Ran w₀ es) (hc' : c'.Ran w₀ es')
  (hw₀ : w₀.Unused) (ho' : .opened o ∈ es')
include h hc hc' hw₀ ho'

/-- Stores stay alike as long as none is closed. -/
theorem keep (hu : Apart o.adapters u u') (hk : c.workspace.KeepsStores u)
    (hk' : c'.workspace.KeepsStores u') :
    Alongside o sharing root { c with workspace := u } { c' with workspace := u' } := by
  have hprovided := hc.run.provided hw₀
  have hprovided' := hc'.run.provided hw₀
  refine h.follow hu (hk'.store _ (hprovided'.store o ho')) fun p hp hsame =>
    hsame.keep hk hk' ?_ ?_
  · exact hprovided.store _ (hc.opened _ (List.of_mem_zip hp).1)
  · exact hprovided'.store _ (hc'.opened _ (List.of_mem_zip hp).2)

/-- Closing the driver once more in the second workspace. -/
theorem closed {n : Nat} (hkey : n ≠ 0 → c'.workspace.store? o.key = none) :
    Alongside o sharing root c (c'.closed o n) := by
  cases n with
  | zero => exact h
  | succ n =>
    have hnone := hkey (Nat.succ_ne_zero n)
    have hbounds' := hc'.run.bounds ho'
    have hclosed : (c'.workspace.store o.store).closed = true := by rw [h.store]
    rw [closed_succ]
    refine h.follow h.apart.closeDriver_right
      (Workspace.store_closeDriver_of_closed hbounds' hclosed) fun p hp hsame => ?_
    have heq := hsame.eq (hc.run.provided hw₀).registered (hc'.run.provided hw₀).registered
    exact hsame.closeDriver_right heq hbounds' (by simp [hnone])

/-- What another driver does. -/
theorem perform (ho : .opened o ∈ es) {d : OpenedSource} {store' : StoreId}
    (hd : d ∈ c.drivers) (hd' : { d with store := store' } ∈ c'.drivers) (hne : d ≠ o)
    (a : DriverAction)
    (hstore : (∀ version ∈ a.version?, c.workspace.OpensNone d version) ∨
      c'.workspace.store store' = c.workspace.store d.store) :
    ∃ r u u', Work.runIn c.workspace (Driver.perform ⟨some d⟩ a) = (r, u) ∧
      Work.runIn c'.workspace (Driver.perform ⟨some { d with store := store' }⟩ a) = (r, u') ∧
      Alongside o sharing root { c with workspace := u } { c' with workspace := u' } := by
  have hopened := hc.opened d hd
  have hopened' := hc'.opened _ hd'
  obtain ⟨r, u, u', hrun, hrun', hu⟩ := hc.run.agree_perform hw₀ ho hopened hne h.apart a hstore
  refine ⟨r, u, u', hrun, hrun', ?_⟩
  by_cases hclose : a = .close
  · subst hclose
    rw [Driver.runIn_perform_close] at hrun hrun'
    cases hrun
    cases hrun'
    have hprovided := hc.run.provided hw₀
    have hprovided' := hc'.run.provided hw₀
    have hbounds' := hc'.run.bounds hopened'
    have hclosed : (c'.workspace.store o.store).closed = true := by rw [h.store]
    refine h.follow hu (Workspace.store_closeDriver_of_closed hbounds' hclosed)
      fun p hp hsame => ?_
    exact hsame.closeDriver hprovided.registered hprovided'.registered (hc.run.bounds hopened)
      hbounds' (hprovided.store _ (hc.opened _ (List.of_mem_zip hp).1))
      (hprovided'.store _ (hc'.opened _ (List.of_mem_zip hp).2))
  · obtain ⟨-, -, -, hkeeps⟩ := hc.run.perform hopened a
    obtain ⟨-, -, -, hkeeps'⟩ := hc'.run.perform hopened' a
    rw [hrun] at hkeeps
    rw [hrun'] at hkeeps'
    exact h.keep hc hc' hw₀ ho' hu (hkeeps hclose) (hkeeps' hclose)

omit hc hw₀ in
/-- A request that needs the closed store. -/
theorem refused {r : DriverRequest} (hother : c'.Other o r)
    (hopens : c.Opens sharing r) :
    c'.serve r = (.answered (.error (.configuration (.directoryClosed root))), c') := by
  cases r with
  | openUrl url => exact hopens.elim
  | ask i a =>
    obtain ⟨d, hd, hsharing, version, hv, hopens⟩ := hopens
    rcases h.getElem? i with ⟨hi, -⟩ | ⟨d', store', hi, hi', hshared, -⟩
    · simp [hi] at hd
    · obtain rfl : d' = d := Option.some.inj (hi.symm.trans hd)
      obtain rfl := hshared hsharing
      have hne' : ({ d' with store := o.store } : OpenedSource) ≠ o :=
        fun he => hother (hi'.trans (congrArg some he))
      have hadapters := hc'.run.adapters_ne ho' (hc'.opened _ (List.mem_of_getElem? hi')) hne'
      have hopens' : ¬ c'.workspace.OpensNone { d' with store := o.store } version := by
        rwa [Workspace.OpensNone, h.apart.adapterSet _ hadapters]
      rw [Client.serve, hi', Workspace.runIn_perform_of_closed hv hopens' h.store]

/-- A locator is opened in both workspaces, or in neither. -/
theorem openUrl (hsharing : ∀ d ∈ sharing, .opened d ∈ es) (url : String) :
    (c'.serve (.openUrl url)).1 = (c.serve (.openUrl url)).1 ∧
      Alongside o sharing root (c.serve (.openUrl url)).2 (c'.serve (.openUrl url)).2 := by
  obtain ⟨r, r', u, u', hrun, hrun', hu, halike⟩ :=
    h.apart.openUrl (hc.run.provided hw₀).registered (hc'.run.provided hw₀).registered url
  have hkept := h.keep hc hc' hw₀ ho' hu (Driver.keepsStores_openUrl hrun)
    (Driver.keepsStores_openUrl hrun')
  have hstep := Driver.openStep hrun
  rw [Client.serve, Client.serve, hrun, hrun']
  cases halike with
  | failed => exact ⟨rfl, hkept⟩
  | @opened d store' hstore =>
    -- a new driver has a new set of adapters, so it is none that shares the closed store
    have hnew : d ∉ sharing := by
      intro hold
      have hlt := hc.run.sources.sets d (hsharing d hold)
      cases hstep with
      | opened hextends hset =>
        rw [hset, Workspace.newAdapterSet, hextends.adapterSets] at hlt
        exact Nat.lt_irrefl _ hlt
    refine ⟨rfl, hu, by simp [h.length], hkept.store, fun p hp => ?_⟩
    rw [List.zip_append h.length.symm, List.mem_append] at hp
    rcases hp with hp | hp
    · exact hkept.driver p hp
    · cases List.mem_singleton.1 hp
      exact ⟨rfl, fun hold => absurd hold hnew, fun _ => hstore⟩

/-- Another driver answers the same, unless it needs the closed store. -/
theorem ask (ho : .opened o ∈ es) {i : Nat} {a : DriverAction} (hother : c'.Other o (.ask i a))
    (hopens : ¬ c.Opens sharing (.ask i a)) :
    (c'.serve (.ask i a)).1 = (c.serve (.ask i a)).1 ∧
      Alongside o sharing root (c.serve (.ask i a)).2 (c'.serve (.ask i a)).2 := by
  rw [Client.serve, Client.serve]
  rcases h.getElem? i with ⟨hi, hi'⟩ | ⟨d, store', hi, hi', hshared, hsame⟩
  · obtain ⟨r, hrun⟩ := Driver.runIn_perform_none a
    rw [hi, hi', hrun, hrun]
    exact ⟨rfl, h⟩
  · have hne' : ({ d with store := store' } : OpenedSource) ≠ o :=
      fun he => hother (hi'.trans (congrArg some he))
    have hd := List.mem_of_getElem? hi
    have hd' := List.mem_of_getElem? hi'
    have hadapters := hc'.run.adapters_ne ho' (hc'.opened _ hd') hne'
    change d.adapters ≠ o.adapters at hadapters
    have hne : d ≠ o := fun he => hadapters (congrArg OpenedSource.adapters he)
    have hstore : (∀ version ∈ a.version?, c.workspace.OpensNone d version) ∨
        c'.workspace.store store' = c.workspace.store d.store := by
      by_cases hmem : d ∈ sharing
      · refine .inl fun version hv => ?_
        by_contra hnone
        exact hopens ⟨d, hi, hmem, version, hv, hnone⟩
      · exact .inr ((hsame hmem).eq (hc.run.provided hw₀).registered
          (hc'.run.provided hw₀).registered)
    obtain ⟨r, u, u', hrun, hrun', hu⟩ := h.perform hc hc' hw₀ ho' ho hd hd' hne a hstore
    rw [hi, hi', hrun, hrun']
    exact ⟨rfl, hu⟩

/-- A request to another driver is answered the same, unless it needs the closed store. -/
theorem serve (ho : .opened o ∈ es) (hsharing : ∀ d ∈ sharing, .opened d ∈ es)
    {r : DriverRequest} (hother : c'.Other o r)
    (hopens : ¬ c.Opens sharing r) :
    (c'.serve r).1 = (c.serve r).1 ∧ Alongside o sharing root (c.serve r).2 (c'.serve r).2 := by
  cases r with
  | openUrl url => exact h.openUrl hc hc' hw₀ ho' hsharing url
  | ask i a => exact h.ask hc hc' hw₀ ho' ho hother hopens

end Step

/-- Requests to other drivers, one after the other. -/
theorem repliesClosing_eq {rs : List (Nat × DriverRequest)} (h : Alongside o sharing root c c')
    (hc : c.Ran w₀ es) (hc' : c'.Ran w₀ es') (hw₀ : w₀.Unused) (ho : .opened o ∈ es)
    (ho' : .opened o ∈ es') (hsharing : ∀ d ∈ sharing, .opened d ∈ es) (hs : c'.Others o rs) :
    c'.repliesClosing o rs = c.repliesRefusing sharing root (rs.map Prod.snd) := by
  induction rs generalizing c c' es es' with
  | nil => rfl
  | cons p rs ih =>
    obtain ⟨n, r⟩ := p
    obtain ⟨hkey, hother, hothers⟩ := hs
    have hran := hc'.closed ho' n
    have hclosed := h.closed hc hc' hw₀ ho' hkey
    have hother : (c'.closed o n).Other o r := by rwa [Other.eq_def, drivers_closed]
    rw [repliesClosing, List.map_cons, repliesRefusing]
    by_cases hopens : c.Opens sharing r
    · rw [if_pos hopens]
      rw [hclosed.refused hran ho' hother hopens] at hothers ⊢
      rw [ih hclosed hc hran ho ho' hsharing hothers]
    · rw [if_neg hopens]
      obtain ⟨hreply, hserved⟩ :=
        hclosed.serve hc hran hw₀ ho' ho hsharing hother hopens
      obtain ⟨es₁, hc₁, hes₁⟩ := hc.serve r
      obtain ⟨es₁', hc₁', hes₁'⟩ := hran.serve r
      rw [hreply, ih hserved hc₁ hc₁' (hes₁ o ho) (hes₁' o ho')
        (fun d hd => hes₁ d (hsharing d hd)) hothers]

end Alongside

/-- What closing a driver changes for others, as long as scripts did not get hold of the buffers of
its adapters. The drivers that share its store open no script any more; apart from that requests to
other drivers are answered as if it had not been closed, also if it is closed again. -/
theorem repliesClosing_eq_repliesRefusing {w₀ : Workspace} {es : List DriverEvent} {c : Client}
    {o : OpenedSource} (h : c.Ran w₀ es) (hw₀ : w₀.Unused) (ho : .opened o ∈ es)
    (hkey : c.workspace.store? o.key = some o.store ∨ c.workspace.store? o.key = none)
    (hheld : ∀ p ∈ c.workspace.adapterSet o.adapters,
      ¬ (c.workspace.session o.session).Holds (c.workspace.adapter p.2).output)
    {rs : List (Nat × DriverRequest)} (hs : (c.closed o 1).Others o rs) :
    (c.closed o 1).repliesClosing o rs =
      c.repliesRefusing (c.sharing o) (c.workspace.store o.store).root (rs.map Prod.snd) := by
  have hclosed := Alongside.closed_self h hw₀ ho (h.run.apart_self hw₀ ho hheld) hkey
  exact hclosed.repliesClosing_eq h (h.closed ho 1) hw₀ ho ho
    (fun d hd => h.opened d (List.mem_filter.1 hd).1) hs

end Client

/-! ## Three drivers -/

/-- Two directories. The first script keeps the buffer that statements go to while it is evaluated,
and the last one drops a table that is named for how much that buffer holds. -/
def keptBuffer : Workspace :=
  { files :=
      { nodes :=
          [(["m"], .directory), (["1_a.lua", "m"], .file ⟨0⟩), (["2_b.lua", "m"], .file ⟨1⟩),
            (["n"], .directory), (["3_c.lua", "n"], .file ⟨2⟩)]
        contents := #[
          .program
            { entries := [("safeUp", .function [.call "dropTable" [.text (.valid "t")] none])]
              top := [.value (.global Session.bufferGlobal) (some "kept")] },
          .program
            { entries := [("safeUp", .function [.call "dropTable" [.text (.valid "u")] none])] },
          .program
            { entries := [("safeUp", .function [
                .method "len" (.var "kept") [] (some "size"),
                .call "dropTable" [.var "size"] none])] }] } }

def sharedSource (adapters : Nat) : OpenedSource :=
  ⟨"lua://m", ⟨0⟩, ⟨0⟩, [(1, "1_a.lua"), (2, "2_b.lua")], ⟨adapters⟩⟩

def otherSource : OpenedSource := ⟨"lua://n", ⟨1⟩, ⟨0⟩, [(3, "3_c.lua")], ⟨2⟩⟩

/-- The directories after so many drivers were opened on the first. -/
def openedShared (drivers : Nat) : Workspace :=
  { keptBuffer with
    sessions := #[.create "default"]
    stores := #[{ root := "m" }]
    adapterSets := .replicate drivers []
    sessionPool := { registered := [("default", ⟨0⟩)], created := 1 }
    storePool := [("lua://m", ⟨0⟩)] }

def openedThree : Workspace :=
  { openedShared 3 with
    stores := #[{ root := "m" }, { root := "n" }]
    storePool := [("lua://m", ⟨0⟩), ("lua://n", ⟨1⟩)] }

theorem unused_keptBuffer : keptBuffer.Unused where
  adapters := rfl
  own _ hid := absurd hid (Nat.not_lt_zero _)
  registered := ⟨nofun, nofun, nofun⟩

theorem DriverRun.openedThree :
    DriverRun keptBuffer
      [.opened (sharedSource 0), .opened (sharedSource 1), .opened otherSource] openedThree := by
  have hsorted : ["1_a.lua", "2_b.lua"].mergeSort = ["1_a.lua", "2_b.lua"] :=
    List.mergeSort_of_pairwise (by decide)
  have hlist : ScriptStore.list keptBuffer.files { root := "m" } =
      .ok ["1_a.lua", "2_b.lua"] := congrArg Except.ok hsorted
  have hindex : VersionIndex.ofNames ["1_a.lua", "2_b.lua"] =
      .ok [(1, "1_a.lua"), (2, "2_b.lua")] := by rfl
  have hlocator : Locator.parse "lua://m" = .ok ⟨"m", []⟩ := by rfl
  have hkey : Driver.storeKey "m" = "lua://m" := by rfl
  have hname (path : String) : (({ path } : Locator).query.get? Driver.sessionParameter).getD
      Driver.defaultSession = "default" := rfl
  have hfirst : Work.runIn keptBuffer (Driver.openUrl "lua://m") =
      (.ok ⟨some (sharedSource 0)⟩, openedShared 1) := by
    have hsession : keptBuffer.sessionOf "default" =
        (⟨0⟩, (keptBuffer.sessionOf "default").2) := rfl
    have hstore : Work.runIn (keptBuffer.sessionOf "default").2 (Work.storeOf "lua://m" "m") =
        (.ok ⟨0⟩, openedShared 0) := by rfl
    exact Driver.runIn_openUrl hlocator (hname "m") hsession hkey hstore hlist hindex
  have hsecond : Work.runIn (openedShared 1) (Driver.openUrl "lua://m") =
      (.ok ⟨some (sharedSource 1)⟩, openedShared 2) := by
    have hsession : (openedShared 1).sessionOf "default" = (⟨0⟩, openedShared 1) := by rfl
    have hstore : Work.runIn (openedShared 1) (Work.storeOf "lua://m" "m") =
        (.ok ⟨0⟩, openedShared 1) := by rfl
    exact Driver.runIn_openUrl hlocator (hname "m") hsession hkey hstore hlist hindex
  have hthird : Work.runIn (openedShared 2) (Driver.openUrl "lua://n") =
      (.ok ⟨some otherSource⟩, SchemaMigration.openedThree) := by
    have hlist : ScriptStore.list keptBuffer.files { root := "n" } = .ok ["3_c.lua"] :=
      congrArg Except.ok (List.mergeSort_of_pairwise (by decide))
    have hindex : VersionIndex.ofNames ["3_c.lua"] = .ok [(3, "3_c.lua")] := by rfl
    have hlocator : Locator.parse "lua://n" = .ok ⟨"n", []⟩ := by rfl
    have hkey : Driver.storeKey "n" = "lua://n" := by rfl
    have hsession : (openedShared 2).sessionOf "default" = (⟨0⟩, openedShared 2) := by rfl
    have hstore : Work.runIn (openedShared 2) (Work.storeOf "lua://n" "n") =
        (.ok ⟨1⟩, { SchemaMigration.openedThree with adapterSets := .replicate 2 [] }) := by rfl
    exact Driver.runIn_openUrl hlocator (hname "n") hsession hkey hstore hlist hindex
  exact ((DriverRun.start.opened hfirst).opened hsecond).opened hthird

def threeDrivers : Client := ⟨openedThree, [sharedSource 0, sharedSource 1, otherSource]⟩

theorem ran_threeDrivers : threeDrivers.Ran keptBuffer
    [.opened (sharedSource 0), .opened (sharedSource 1), .opened otherSource] :=
  ⟨.openedThree, by simp [threeDrivers]⟩

/-- The client after both drivers on the first directory read its second script, which leaves the
buffer alone. -/
def bothRead : Client :=
  ((threeDrivers.serve (.ask 0 (.read 2 "up"))).2.serve (.ask 1 (.read 2 "up"))).2

def firstRead : Client := (threeDrivers.serve (.ask 0 (.read 1 "up"))).2

def firstClosed : Client := bothRead.closed (sharedSource 0) 1

/-- The client after the first driver was closed and its directory was opened again, which makes a
store. -/
def reopened : Client :=
  let w := ((firstClosed.workspace.addStore { root := "m" }).2.addStoreAs "lua://m" ⟨2⟩).2
  ⟨w.newAdapterSet.2, [sharedSource 0, sharedSource 1, otherSource,
    { sharedSource 3 with store := ⟨2⟩ }]⟩

/-- The second driver has lost its store. -/
theorem serve_read_firstClosed :
    firstClosed.serve (.ask 1 (.read 1 "up")) =
      (.answered (.error (.configuration (.directoryClosed "m"))), firstClosed) := by
  have hdriver : firstClosed.drivers[1]? = some (sharedSource 1) := by decide +kernel
  have hopens : ¬ firstClosed.workspace.OpensNone (sharedSource 1) 1 := by decide +kernel
  have hclosed : firstClosed.workspace.store (sharedSource 1).store =
      { root := "m", closed := true } := by decide +kernel
  rw [Client.serve, hdriver, Workspace.runIn_perform_of_closed rfl hopens hclosed]

theorem serve_openUrl_firstClosed : (firstClosed.serve (.openUrl "lua://m")).2 = reopened := by
  let w₂ := ((firstClosed.workspace.addStore { root := "m" }).2.addStoreAs "lua://m" ⟨2⟩).2
  have hlocator : Locator.parse "lua://m" = .ok ⟨"m", []⟩ := by rfl
  have hkey : Driver.storeKey "m" = "lua://m" := by rfl
  have hname : (({ path := "m" } : Locator).query.get? Driver.sessionParameter).getD
      Driver.defaultSession = "default" := rfl
  have hsession : firstClosed.workspace.sessionOf "default" = (⟨0⟩, firstClosed.workspace) :=
    Workspace.sessionOf_of_session?_eq_some (by decide +kernel)
  have hstore : Work.runIn firstClosed.workspace (Work.storeOf "lua://m" "m") = (.ok ⟨2⟩, w₂) := by
    have hkey : firstClosed.workspace.store? "lua://m" = none := by decide +kernel
    have hopen : ScriptStore.openAt firstClosed.workspace.files "m" = .ok { root := "m" } := by
      decide +kernel
    have hsize : firstClosed.workspace.stores.size = 2 := by decide +kernel
    rw [Work.runIn_storeOf, hkey, hopen]
    simp only [hsize, w₂]
  have hlist : (w₂.store ⟨2⟩).list w₂.files = .ok ["1_a.lua", "2_b.lua"] := by
    have hroot : w₂.store ⟨2⟩ = { root := "m" } := by decide +kernel
    have hfind : w₂.files.find "m" = .ok (["m"], .directory) := by decide +kernel
    have hnodes : w₂.files.nodes = keptBuffer.files.nodes := by decide +kernel
    have hunlisted : w₂.files.unlisted = [] := by decide +kernel
    have hnames : w₂.files.list ["m"] = .ok ["1_a.lua", "2_b.lua"] := by
      rw [FileTree.list, hunlisted, FileTree.fileNames, hnodes]
      exact congrArg Except.ok (List.mergeSort_of_pairwise (by decide))
    simp only [hroot, ScriptStore.list, ScriptStore.ensureOpen, hfind, hnames]
    rfl
  have hindex : VersionIndex.ofNames ["1_a.lua", "2_b.lua"] =
      .ok [(1, "1_a.lua"), (2, "2_b.lua")] := by rfl
  have hadapters : w₂.newAdapterSet.1 = ⟨3⟩ := by decide +kernel
  have hrun := Driver.runIn_openUrl hlocator hname hsession hkey hstore hlist hindex
  rw [hadapters] at hrun
  have hdrivers : firstClosed.drivers = [sharedSource 0, sharedSource 1, otherSource] := by
    decide +kernel
  rw [Client.serve_openUrl hrun, hdrivers]
  rfl

/-- The first driver is closed, and closed twice again after the second one was refused a script.
The directory is opened anew then, and that driver reads the script. -/
theorem repliesClosing_bothRead :
    ∃ es rs, bothRead.Ran keptBuffer es ∧ keptBuffer.Unused ∧ .opened (sharedSource 0) ∈ es ∧
      bothRead.workspace.store? (sharedSource 0).key = some (sharedSource 0).store ∧
      (∀ p ∈ bothRead.workspace.adapterSet (sharedSource 0).adapters,
        ¬ (bothRead.workspace.session (sharedSource 0).session).Holds
          (bothRead.workspace.adapter p.2).output) ∧
      bothRead.workspace.adapterSet (sharedSource 0).adapters = [(2, ⟨0⟩)] ∧
      rs = [(0, .ask 1 (.read 1 "up")), (2, .openUrl "lua://m"), (0, .ask 3 (.read 1 "up")),
        (0, .ask 1 (.read 2 "up")), (0, .ask 2 .close)] ∧
      firstClosed.Others (sharedSource 0) rs ∧
      bothRead.sharing (sharedSource 0) = [sharedSource 0, sharedSource 1] ∧
      firstClosed.repliesClosing (sharedSource 0) rs =
        bothRead.repliesRefusing [sharedSource 0, sharedSource 1] "m" (rs.map Prod.snd) ∧
      (firstClosed.repliesClosing (sharedSource 0) rs).head? =
        some (.answered (.error (.configuration (.directoryClosed "m")))) := by
  obtain ⟨es₁, hfirst, hes₁⟩ := ran_threeDrivers.serve (.ask 0 (.read 2 "up"))
  obtain ⟨es, hboth, hes⟩ := hfirst.serve (.ask 1 (.read 2 "up"))
  change bothRead.Ran keptBuffer es at hboth
  have ho : .opened (sharedSource 0) ∈ es := hes _ (hes₁ _ (by simp))
  have hkey : bothRead.workspace.store? (sharedSource 0).key = some (sharedSource 0).store := by
    decide +kernel
  have hheld : ∀ p ∈ bothRead.workspace.adapterSet (sharedSource 0).adapters,
      ¬ (bothRead.workspace.session (sharedSource 0).session).Holds
        (bothRead.workspace.adapter p.2).output := by
    decide +kernel
  have hagain : firstClosed.closed (sharedSource 0) 2 = firstClosed := by
    simp only [firstClosed, Client.closed_succ, Workspace.closeDriver_closeDriver]
  have hothers : firstClosed.Others (sharedSource 0) [(0, .ask 1 (.read 1 "up")),
      (2, .openUrl "lua://m"), (0, .ask 3 (.read 1 "up")), (0, .ask 1 (.read 2 "up")),
      (0, .ask 2 .close)] := by
    refine ⟨by decide, by decide +kernel, ?_⟩
    rw [Client.closed, serve_read_firstClosed]
    refine ⟨fun _ => by decide +kernel, trivial, ?_⟩
    rw [hagain, serve_openUrl_firstClosed]
    decide +kernel
  have hsharing : bothRead.sharing (sharedSource 0) = [sharedSource 0, sharedSource 1] := by
    decide +kernel
  have hroot : (bothRead.workspace.store (sharedSource 0).store).root = "m" := by decide +kernel
  have hreplies := Client.repliesClosing_eq_repliesRefusing hboth unused_keptBuffer ho (.inl hkey)
    hheld hothers
  rw [hsharing, hroot] at hreplies
  refine ⟨es, _, hboth, unused_keptBuffer, ho, hkey, hheld, by decide +kernel, rfl, hothers,
    hsharing, hreplies, ?_⟩
  rw [Client.repliesClosing, Client.closed, serve_read_firstClosed]
  rfl

/-- Closing a driver makes a version that another one on the directory has not read yet fail, and
changes the length of a buffer that a script kept. -/
theorem read_changes_of_close :
    ∃ es, firstRead.Ran keptBuffer es ∧
      firstRead.drivers = [sharedSource 0, sharedSource 1, otherSource] ∧
      (Work.runIn firstRead.workspace (Driver.read ⟨some (sharedSource 1)⟩ 2 "up")).1 =
        .ok ⟨"2_b", "safeUp", "DROP TABLE \x60u\x60;\n"⟩ ∧
      (Work.runIn (firstRead.closed (sharedSource 0) 1).workspace
          (Driver.read ⟨some (sharedSource 1)⟩ 2 "up")).1 =
        .error (.configuration (.directoryClosed "m")) ∧
      (Work.runIn firstRead.workspace (Driver.read ⟨some otherSource⟩ 3 "up")).1 =
        .ok ⟨"3_c", "safeUp", "DROP TABLE \x6016\x60;\n"⟩ ∧
      (Work.runIn (firstRead.closed (sharedSource 0) 1).workspace
          (Driver.read ⟨some otherSource⟩ 3 "up")).1 =
        .ok ⟨"3_c", "safeUp", "DROP TABLE \x600\x60;\n"⟩ := by
  obtain ⟨es, hran, -⟩ := ran_threeDrivers.serve (.ask 0 (.read 1 "up"))
  exact ⟨es, hran, rfl, by decide +kernel, by decide +kernel, by decide +kernel, by decide +kernel⟩

end SchemaMigration
