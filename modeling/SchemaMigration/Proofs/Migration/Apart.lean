import SchemaMigration.Proofs.Migration.MirroredReading
import SchemaMigration.Proofs.Migration.OutputBuffers
import SchemaMigration.Proofs.Script.HiddenBuffers

/-!
# Workspaces apart from one driver

Two workspaces that differ in nothing but the adapters of one driver, what the buffers of these
hold, and the stores. What other drivers do comes to the same in both, if their stores are alike.

## Main definitions

* `Session.Alike`, `Interpreter.Alike` — the same but for what hidden buffers hold.
* `Apart` — the relation of the workspaces.
* `Workspace.SameStore` — the stores of two drivers, one in each workspace, are alike.
* `Agree` — two computations come to the same, and the workspaces stay apart.
* `Apart.openUrl`, `Apart.source`, `Apart.read`, `Apart.closeDriver` — what other drivers do agrees.
-/

namespace SchemaMigration

/-! ## Sessions -/

/-- Two states of a session that differ in nothing but what hidden buffers hold, and do not lead to
these. -/
structure Session.Alike (hidden : BufferId → Prop) (s s' : Session) : Prop where
  clean : s.Clean (.without hidden)
  own : ¬ hidden s.ownBuffer
  same : ∃ b, s' = { s with buffers := b } ∧ s.buffers.SameOutside hidden b

/-- Statements may go to a buffer that is not hidden. -/
theorem Session.clean_install_without {hidden : BufferId → Prop} {s : Session} {id : BufferId}
    (hid : ¬ hidden id) (h : s.Clean (.without hidden)) :
    (s.install id).Clean (.without hidden) := by
  have hvalue : (Reach.without hidden).value s.tables.size (.buffer id) := by
    rintro other hother ⟨⟩
    exact hid hother
  have hchange : s.Change (.without hidden) (s.setGlobal Session.bufferGlobal (.buffer id)) :=
    .setGlobal trivial hvalue
  exact hchange.clean h

namespace Session.Alike

variable {hidden : BufferId → Prop} {s s' : Session}

theorem refl (hclean : s.Clean (.without hidden)) (hown : ¬ hidden s.ownBuffer) :
    s.Alike hidden s :=
  ⟨hclean, hown, _, rfl, .refl _⟩

theorem install (h : s.Alike hidden s') {id : BufferId} (hid : ¬ hidden id) :
    (s.install id).Alike hidden (s'.install id) := by
  obtain ⟨hclean, hown, b, rfl, hb⟩ := h
  exact ⟨Session.clean_install_without hid hclean, hown, b, rfl, hb⟩

theorem reset (h : s.Alike hidden s') (id : BufferId) :
    (s.updateBuffers (·.reset id)).Alike hidden (s'.updateBuffers (·.reset id)) := by
  obtain ⟨hclean, hown, b, rfl, hb⟩ := h
  exact ⟨{ hclean with }, hown, _, rfl, hb.modify id _⟩

/-- Emptying a hidden buffer in one of them. -/
theorem hide (h : s.Alike hidden s') {id : BufferId} (hid : hidden id) :
    s.Alike hidden (s'.updateBuffers (·.reset id)) := by
  obtain ⟨hclean, hown, b, rfl, hb⟩ := h
  exact ⟨hclean, hown, _, rfl, hb.trans (.modify_hidden hid b _)⟩

theorem newBuffer (h : s.Alike hidden s') :
    s'.newBuffer.1 = s.newBuffer.1 ∧ s.newBuffer.2.Alike hidden s'.newBuffer.2 := by
  obtain ⟨hclean, hown, b, rfl, hb⟩ := h
  obtain ⟨hid, hcreate⟩ := hb.create
  exact ⟨hid, { hclean with }, hown, _, rfl, hcreate⟩

theorem ownBuffer (h : s.Alike hidden s') : s'.ownBuffer = s.ownBuffer := by
  obtain ⟨-, -, b, rfl, -⟩ := h
  rfl

end Session.Alike

/-- The same for interpreters. -/
structure Interpreter.Alike (hidden : BufferId → Prop) (i j : Interpreter) : Prop where
  context : j.context = i.context
  session : i.session.Alike hidden j.session

namespace Interpreter.Alike

variable {hidden : BufferId → Prop} {i j : Interpreter}

theorem mirrors (h : i.Alike hidden j) : i.Mirrors (.hiding hidden) j := by
  obtain ⟨hcontext, hclean, -, b, hsession, hb⟩ := h
  refine ⟨hclean, ⟨i.session.name, i.session.globals, b⟩, ?_, rfl, rfl, hb⟩
  obtain ⟨context, session⟩ := j
  simp_all [Interpreter.withOutlets, Session.withOutlets]

theorem of_mirrors (h : i.Mirrors (.hiding hidden) j) (hown : ¬ hidden i.session.ownBuffer) :
    i.Alike hidden j := by
  obtain ⟨hclean, ⟨name, globals, buffers⟩, rfl, hname, hglobals, hb⟩ := h
  obtain rfl : name = i.session.name := hname
  obtain rfl : globals = i.session.globals := hglobals
  exact ⟨rfl, hclean, hown, buffers, rfl, hb⟩

end Interpreter.Alike

/-- Output may go to a buffer that is not hidden. -/
theorem Mirror.pairs_hiding {hidden : BufferId → Prop} {output : BufferId} (h : ¬ hidden output) :
    (Mirror.hiding hidden).Pairs output output where
  clean hs := Session.clean_install_without h hs
  install ho := ⟨ho.1, Outlets.globals_setGlobal_congr ho.2.1 _ _ _, ho.2.2⟩
  modify ho := ⟨ho.1, ho.2.1, ho.2.2.modify _ _⟩
  text ho := ho.2.2.text output h

theorem Adapter.render_alike {hidden : BufferId → Prop} {i j : Interpreter} (t : FileTree)
    (identifier entry : String) (p : Phase) {output : BufferId} (hout : ¬ hidden output)
    (h : i.Alike hidden j) :
    ∃ r p' i' j', render t output identifier entry p i = (r, p', i') ∧
      render t output identifier entry p j = (r, p', j') ∧ i'.Alike hidden j' := by
  have hwithin : p.Within (.without hidden) t :=
    fun _ _ _ _ _ => ⟨fun _ _ => trivial, fun _ _ => trivial⟩
  obtain ⟨r, p', i', j', hi, hj, h'⟩ :=
    render_mirrors (Mirror.pairs_hiding hout) hwithin identifier entry h.mirrors
  have hsame := sameBuffers_render t output identifier entry p i
  rw [hi] at hsame
  exact ⟨r, p', i', j', hi, hj, .of_mirrors h' (hsame.ownBuffer ▸ h.session.own)⟩

/-! ## Workspaces -/

/-- Adapters on the same session that have the same buffer. -/
structure Adapter.SameOutput (a a' : Adapter) : Prop where
  session : a'.session = a.session
  output : a'.output = a.output

namespace Workspace

/-- The buffers that the adapters of a set have in a session. -/
def OutputOf (w : Workspace) (set : AdapterSetId) (sid : SessionId) (b : BufferId) : Prop :=
  ∃ p ∈ w.adapterSet set, (w.adapter p.2).session = sid ∧ (w.adapter p.2).output = b

/-- Holds for adapters that are not in a set. -/
def Outside (w : Workspace) (set : AdapterSetId) (id : AdapterId) : Prop :=
  ∀ version, (version, id) ∉ w.adapterSet set

theorem outputOf_congr {set : AdapterSetId} (w w' : Workspace)
    (hset : w'.adapterSet set = w.adapterSet set)
    (h : ∀ p ∈ w.adapterSet set, (w.adapter p.2).SameOutput (w'.adapter p.2)) (sid : SessionId) :
    w'.OutputOf set sid = w.OutputOf set sid := by
  funext b
  rw [OutputOf, OutputOf, hset]
  refine propext (exists_congr fun p => and_congr_right fun hp => ?_)
  rw [(h p hp).session, (h p hp).output]

theorem sameOutput_setPhase (w : Workspace) {id : AdapterId} (hid : id.index < w.adapters.size)
    (p : Adapter.Phase) (other : AdapterId) :
    (w.adapter other).SameOutput ((w.setPhase id p).adapter other) := by
  rw [adapter_setPhase w hid]
  split
  · exact ⟨rfl, rfl⟩
  · exact ⟨rfl, rfl⟩

/-- Holds if getting the adapter of a version opens no script. -/
def OpensNone (w : Workspace) (o : OpenedSource) (version : Nat) : Prop :=
  o.index.get? version = none ∨ ((w.adapterSet o.adapters).lookup version).isSome

instance (w : Workspace) (o : OpenedSource) (version : Nat) : Decidable (w.OpensNone o version) :=
  inferInstanceAs (Decidable (_ ∨ _))

/-- Holds if the store of a driver and another one in another workspace are alike: registered for
the key of the driver, or closed. -/
def SameStore (w w' : Workspace) (o : OpenedSource) (store' : StoreId) : Prop :=
  w.store? o.key = some o.store ∧ w'.store? o.key = some store' ∨
    (w.store o.store).closed = true ∧ w'.store store' = w.store o.store

theorem SameStore.eq {w w' : Workspace} {o : OpenedSource} {store' : StoreId}
    (h : w.SameStore w' o store') (hw : w.Registered) (hw' : w'.Registered) :
    w'.store store' = w.store o.store := by
  rcases h with ⟨hkey, hkey'⟩ | ⟨-, hsame⟩
  · obtain ⟨root, hroot, hstore⟩ := hw.root _ _ hkey
    obtain ⟨root', hroot', hstore'⟩ := hw'.root _ _ hkey'
    rw [hstore, hstore', Driver.storeKey_injective (hroot.symm.trans hroot')]
  · exact hsame

end Workspace

/-- Two workspaces that differ in nothing but the adapters of a set, what their buffers hold, and
stores. In one of them the set may have got empty. -/
structure Apart (set : AdapterSetId) (w w' : Workspace) : Prop where
  files : w'.files = w.files
  context : w'.context = w.context
  orders : w'.orders = w.orders
  adapters : w'.adapters.size = w.adapters.size
  adapter : ∀ id, (w.adapter id).SameOutput (w'.adapter id)
  phase : ∀ id, w.Outside set id → (w'.adapter id).phase = (w.adapter id).phase
  adapterSets : w'.adapterSets.size = w.adapterSets.size
  adapterSet : ∀ other, other ≠ set → w'.adapterSet other = w.adapterSet other
  subset : w'.adapterSet set ⊆ w.adapterSet set
  sessions : w'.sessions.size = w.sessions.size
  session : ∀ sid, sid.index < w.sessions.size →
    (w.session sid).Alike (w.OutputOf set sid) (w'.session sid)
  sessionPool : w'.sessionPool = w.sessionPool
  bounds : ∀ p ∈ w.adapterSet set,
    p.2.index < w.adapters.size ∧ (w.adapter p.2).session.index < w.sessions.size

namespace Apart

variable {set : AdapterSetId} {w w' : Workspace} {id : AdapterId}
  {sid : SessionId}

theorem interpreter (h : Apart set w w') (hsid : sid.index < w.sessions.size) :
    (w.interpreter sid).Alike (w.OutputOf set sid) (w'.interpreter sid) :=
  ⟨h.context, h.session sid hsid⟩

theorem setPhase (h : Apart set w w') (hid : id.index < w.adapters.size)
    (p : Adapter.Phase) : Apart set (w.setPhase id p) (w'.setPhase id p) := by
  have hid' : id.index < w'.adapters.size := h.adapters ▸ hid
  refine { h with
    adapters := by simpa [Workspace.setPhase] using h.adapters
    adapter := fun other => ?_
    phase := fun other ho => ?_
    session := fun sid hsid => ?_
    bounds := fun q hq => ?_ }
  · have hsame := w.sameOutput_setPhase hid p other
    have hsame' := w'.sameOutput_setPhase hid' p other
    exact ⟨by rw [hsame'.session, (h.adapter other).session, hsame.session],
      by rw [hsame'.output, (h.adapter other).output, hsame.output]⟩
  · rw [Workspace.adapter_setPhase w hid, Workspace.adapter_setPhase w' hid']
    split
    · rfl
    · exact h.phase other ho
  · have houtput : (w.setPhase id p).OutputOf set sid = w.OutputOf set sid :=
      Workspace.outputOf_congr w (w.setPhase id p) rfl
        (fun q _ => w.sameOutput_setPhase hid p q.2) sid
    rw [houtput]
    exact h.session sid hsid
  · rw [(w.sameOutput_setPhase hid p q.2).session]
    simpa [Workspace.setPhase] using h.bounds q hq

theorem setInterpreter (h : Apart set w w') {i j : Interpreter}
    (hij : i.Alike (w.OutputOf set sid) j) :
    Apart set (w.setInterpreter sid i) (w'.setInterpreter sid j) := by
  have hsize : (w.setInterpreter sid i).sessions.size = w.sessions.size := by
    simp [Workspace.setInterpreter]
  refine { h with
    context := hij.context
    sessions := by simpa [Workspace.setInterpreter] using h.sessions
    session := fun other hother => ?_
    bounds := fun q hq => hsize ▸ h.bounds q hq }
  have hlt : other.index < w.sessions.size := hsize ▸ hother
  by_cases he : sid = other
  · subst he
    rw [Workspace.session_setInterpreter w hlt,
      Workspace.session_setInterpreter w' (h.sessions ▸ hlt)]
    exact hij.session
  · rw [Workspace.session_setInterpreter_of_ne w he, Workspace.session_setInterpreter_of_ne w' he]
    exact h.session other hlt

theorem newAdapter (h : Apart set w w') (hsid : sid.index < w.sessions.size)
    (store store' : StoreId) :
    Apart set (w.newAdapter store sid).2 (w'.newAdapter store' sid).2 := by
  obtain ⟨houtput, hbuffer⟩ := (h.session sid hsid).newBuffer
  have hold (other : AdapterId) (ho : other.index < w.adapters.size) :
      (w.newAdapter store sid).2.adapter other = w.adapter other := by
    rw [Workspace.adapter_newAdapter, if_neg (Nat.ne_of_lt ho)]
  refine { h with
    adapters := by simpa [Workspace.newAdapter] using h.adapters
    adapter := fun other => ?_
    phase := fun other ho => ?_
    sessions := by simpa [Workspace.newAdapter] using h.sessions
    session := fun other hother => ?_
    bounds := fun q hq => ?_ }
  · rw [Workspace.adapter_newAdapter, Workspace.adapter_newAdapter, h.adapters]
    split
    · exact ⟨rfl, houtput⟩
    · exact h.adapter other
  · rw [Workspace.adapter_newAdapter, Workspace.adapter_newAdapter, h.adapters]
    split
    · rfl
    · exact h.phase other ho
  · have hsame : (w.newAdapter store sid).2.OutputOf set other = w.OutputOf set other := by
      refine Workspace.outputOf_congr w (w.newAdapter store sid).2 rfl (fun q hq => ?_) other
      rw [hold q.2 (h.bounds q hq).1]
      exact ⟨rfl, rfl⟩
    rw [hsame]
    have hlt : other.index < w.sessions.size := by simpa [Workspace.newAdapter] using hother
    by_cases he : sid = other
    · subst he
      rw [Workspace.session_newAdapter w hlt, Workspace.session_newAdapter w' (h.sessions ▸ hlt)]
      exact hbuffer
    · rw [Workspace.session_newAdapter_of_ne w he, Workspace.session_newAdapter_of_ne w' he]
      exact h.session other hlt
  · obtain ⟨hq, hs⟩ := h.bounds q hq
    rw [hold q.2 hq]
    simp only [Workspace.newAdapter, Array.size_push, Array.size_setIfInBounds]
    exact ⟨by omega, hs⟩

/-- The sets of adapters may change, but for the one. -/
theorem ofAdapterSets (h : Apart set w w') {adapterSets adapterSets' : Array AdapterSet}
    (hsize : adapterSets'.size = adapterSets.size)
    (hset : ({ w with adapterSets } : Workspace).adapterSet set = w.adapterSet set)
    (hset' : ({ w' with adapterSets := adapterSets' } : Workspace).adapterSet set =
      w'.adapterSet set)
    (hother : ∀ other, other ≠ set →
      ({ w' with adapterSets := adapterSets' } : Workspace).adapterSet other =
        ({ w with adapterSets } : Workspace).adapterSet other) :
    Apart set { w with adapterSets } { w' with adapterSets := adapterSets' } := by
  have houtput (sid : SessionId) :
      ({ w with adapterSets } : Workspace).OutputOf set sid = w.OutputOf set sid :=
    Workspace.outputOf_congr w _ hset (fun _ _ => ⟨rfl, rfl⟩) sid
  exact { h with
    phase := fun id hid => h.phase id fun version => hset ▸ hid version
    adapterSets := hsize
    adapterSet := hother
    subset := hset ▸ hset' ▸ h.subset
    session := fun sid hsid => houtput sid ▸ h.session sid hsid
    bounds := fun p hp => h.bounds p (hset ▸ hp) }

theorem setAdapterSet (h : Apart set w w') {other : AdapterSetId} (hne : other ≠ set)
    (hlt : other.index < w.adapterSets.size) (s : AdapterSet) :
    Apart set (w.setAdapterSet other s) (w'.setAdapterSet other s) := by
  refine h.ofAdapterSets (by simp [h.adapterSets]) ?_ ?_ fun third hthird => ?_
  · exact (Workspace.adapterSet_setAdapterSet w hlt s set).trans (if_neg hne)
  · exact (Workspace.adapterSet_setAdapterSet w' (h.adapterSets ▸ hlt) s set).trans (if_neg hne)
  · refine (Workspace.adapterSet_setAdapterSet w' (h.adapterSets ▸ hlt) s third).trans ?_
    rw [h.adapterSet third hthird]
    exact (Workspace.adapterSet_setAdapterSet w hlt s third).symm

theorem newAdapterSet (h : Apart set w w') :
    w'.newAdapterSet.1 = w.newAdapterSet.1 ∧
      Apart set w.newAdapterSet.2 w'.newAdapterSet.2 := by
  have hset (u : Workspace) (other : AdapterSetId) :
      u.newAdapterSet.2.adapterSet other = u.adapterSet other := by
    simp only [Workspace.adapterSet, Workspace.newAdapterSet, Array.getElem?_push]
    split
    · next he => simp [he]
    · rfl
  have hsize : w'.newAdapterSet.2.adapterSets.size = w.newAdapterSet.2.adapterSets.size := by
    simp [Workspace.newAdapterSet, h.adapterSets]
  refine ⟨congrArg AdapterSetId.mk h.adapterSets,
    h.ofAdapterSets hsize (hset w set) (hset w' set) fun other hother => ?_⟩
  exact (hset w' other).trans ((h.adapterSet other hother).trans (hset w other).symm)

theorem sessionOf (h : Apart set w w') (name : String) :
    (w'.sessionOf name).1 = (w.sessionOf name).1 ∧
      Apart set (w.sessionOf name).2 (w'.sessionOf name).2 := by
  have hpool : w'.session? name = w.session? name := by
    rw [Workspace.session?, h.sessionPool]
    rfl
  cases hkey : w.session? name with
  | some id =>
    rw [hkey] at hpool
    rw [Workspace.sessionOf_of_session?_eq_some hkey,
      Workspace.sessionOf_of_session?_eq_some hpool]
    exact ⟨rfl, h⟩
  | none =>
    rw [hkey] at hpool
    simp only [Workspace.sessionOf, hkey, hpool]
    refine ⟨congrArg SessionId.mk h.sessions, { h with
      sessions := by simp [Workspace.newSession, h.sessions]
      session := fun sid hsid => ?_
      sessionPool := by simp [Workspace.newSession, h.sessionPool, h.sessions]
      bounds := fun q hq => ?_ }⟩
    · change Session.Alike _ ((w.newSession name).2.session sid)
        ((w'.newSession name).2.session sid)
      rw [Workspace.session_newSession, Workspace.session_newSession, h.sessions, h.orders]
      simp only [Workspace.newSession, Array.size_push] at hsid
      split
      · next hindex =>
        -- no adapter is on a session that is new
        have hnone (b : BufferId) : ¬ w.OutputOf set sid b := by
          rintro ⟨p, hp, rfl, -⟩
          exact absurd (h.bounds p hp).2 (by omega)
        refine .refl (Session.clean_create name _ (fun other _ => ?_) fun _ _ b hb => ?_) (hnone _)
        · exact fun b hb => absurd hb (hnone b)
        · exact absurd hb (hnone b)
      · exact h.session sid (by omega)
    · obtain ⟨hq, hs⟩ := h.bounds q hq
      simp only [Workspace.newSession, Array.size_push]
      exact ⟨hq, Nat.lt_succ_of_lt hs⟩

/-- The stores may change. -/
theorem ofStores (h : Apart set w w') (stores stores' : Array ScriptStore)
    (storePool storePool' : Dict StoreId) :
    Apart set { w with stores, storePool } { w' with stores := stores', storePool := storePool' } :=
  { h with }

theorem removeStore (h : Apart set w w') (key : String) :
    Apart set (w.removeStore key) (w'.removeStore key) := by
  obtain ⟨stores, storePool, -, hw⟩ := w.removeStore_eq key
  obtain ⟨stores', storePool', -, hw'⟩ := w'.removeStore_eq key
  rw [hw, hw']
  exact h.ofStores stores stores' storePool storePool'

end Apart

/-! ## Computations -/

/-- Two computations come to the same in two workspaces, which stay apart. -/
def Agree (set : AdapterSetId) (w w' : Workspace) {α : Type} (x x' : Work α) : Prop :=
  ∃ r u u', Work.runIn w x = (r, u) ∧ Work.runIn w' x' = (r, u') ∧ Apart set u u'

theorem Agree.bind {set : AdapterSetId} {w w' : Workspace} {α β : Type} {x x' : Work α}
    {f : α → Work β} (hx : Agree set w w' x x')
    (hf : ∀ a u u', Work.runIn w x = (.ok a, u) → Apart set u u' → Agree set u u' (f a) (f a)) :
    Agree set w w' (x >>= f) (x' >>= f) := by
  obtain ⟨r, u, u', hr, hr', hu⟩ := hx
  simp only [Agree, Work.runIn_bind, hr, hr']
  cases r with
  | error e => exact ⟨_, _, _, rfl, rfl, hu⟩
  | ok a => exact hf a u u' hr hu

namespace Apart

variable {set : AdapterSetId} {w w' : Workspace} {id : AdapterId} {sid : SessionId}
  {o : OpenedSource}

/-- Reading an adapter outside of the set. -/
theorem read (h : Apart set w w') (houtside : w.Outside set id)
    (hid : id.index < w.adapters.size)
    (hsid : (w.adapter id).session.index < w.sessions.size)
    (hout : ¬ w.OutputOf set (w.adapter id).session (w.adapter id).output) (method : String) :
    Agree set w w' (Work.read id method) (Work.read id method) := by
  obtain ⟨hsession, houtput⟩ := h.adapter id
  have hphase := h.phase id houtside
  cases hidentifier : (w.adapter id).phase.identifier? with
  | none =>
    have hidentifier' : (w'.adapter id).phase.identifier? = none := by rw [hphase, hidentifier]
    exact ⟨_, _, _, Workspace.runIn_read_of_unbound hidentifier method,
      Workspace.runIn_read_of_unbound hidentifier' method, h⟩
  | some identifier =>
    have hidentifier' : (w'.adapter id).phase.identifier? = some identifier := by
      rw [hphase, hidentifier]
    obtain ⟨r, p, i, j, hi, hj, hij⟩ := Adapter.render_alike w.files identifier
      (EntryName.ofMethod method) (w.adapter id).phase hout (h.interpreter hsid)
    have hj' : Adapter.render w'.files (w'.adapter id).output identifier
        (EntryName.ofMethod method) (w'.adapter id).phase
        (w'.interpreter (w'.adapter id).session) = (r, p, j) := by
      rw [h.files, hsession, houtput, hphase]
      exact hj
    refine ⟨_, _, _, Workspace.runIn_read hidentifier hi, Workspace.runIn_read hidentifier' hj', ?_⟩
    have hinstall : Interpreter.Alike (w.OutputOf set (w.adapter id).session)
        { i with session := i.session.install i.session.ownBuffer }
        { j with session := j.session.install j.session.ownBuffer } := by
      rw [hij.session.ownBuffer]
      exact ⟨hij.context, hij.session.install hij.session.own⟩
    have hset := h.setInterpreter hinstall
    rw [Workspace.finish, Workspace.finish, hsession]
    exact hset.setPhase hid p

/-- Closing an adapter outside of the set. -/
theorem close (h : Apart set w w') (houtside : w.Outside set id)
    (hid : id.index < w.adapters.size)
    (hsid : (w.adapter id).session.index < w.sessions.size) :
    Apart set (w.after id .close) (w'.after id .close) := by
  have hphase := h.phase id houtside
  by_cases hp : (w.adapter id).phase = .closed
  · rw [Workspace.after_close_of_closed hp, Workspace.after_close_of_closed (hphase.trans hp)]
    exact h
  · have hclosed := h.setPhase hid .closed
    obtain ⟨hsession', houtput'⟩ := hclosed.adapter id
    have hsession : ((w.setPhase id .closed).adapter id).session = (w.adapter id).session := by
      rw [Workspace.adapter_setPhase w hid, if_pos rfl]
    have hsid' : ((w.setPhase id .closed).adapter id).session.index <
        (w.setPhase id .closed).sessions.size := hsession ▸ hsid
    rw [Workspace.after_close_of_ne hp, Workspace.after_close_of_ne (hphase ▸ hp),
      Workspace.updateSession_eq, Workspace.updateSession_eq, hsession', houtput']
    exact hclosed.setInterpreter ⟨hclosed.context, (hclosed.session _ hsid').reset _⟩

theorem closeAdapters (h : Apart set w w') (houtputs : w.Outputs) {s : AdapterSet}
    (hs : ∀ p ∈ s, p.2.index < w.adapters.size ∧ w.Outside set p.2) :
    Apart set (w.closeAdapters s) (w'.closeAdapters s) := by
  induction s generalizing w w' with
  | nil => exact h
  | cons p s ih =>
    obtain ⟨⟨hid, houtside⟩, hrest⟩ := List.forall_mem_cons.1 hs
    obtain ⟨_, -, hleaves⟩ := Workspace.turned hid .close
    have hclosed := h.close houtside hid (houtputs.session _ hid)
    refine ih hclosed (houtputs.act hid .close) fun q hq => ?_
    obtain ⟨hid', houtside'⟩ := hrest q hq
    refine ⟨Nat.lt_of_lt_of_le hid' hleaves.size, fun version => ?_⟩
    rw [Workspace.adapterSet, hleaves.adapterSets]
    exact houtside' version

/-- Closing another driver. -/
theorem closeDriver (h : Apart set w w') (houtputs : w.Outputs) (hne : o.adapters ≠ set)
    (hlt : o.adapters.index < w.adapterSets.size)
    (hs : ∀ p ∈ w.adapterSet o.adapters, p.2.index < w.adapters.size ∧ w.Outside set p.2) :
    Apart set (w.closeDriver o) (w'.closeDriver o) := by
  have hclosed := h.closeAdapters houtputs hs
  have hleaves := Workspace.leavesOutside_closeAdapters fun p hp => (hs p hp).1
  rw [Workspace.closeDriver, Workspace.closeDriver, h.adapterSet _ hne]
  refine (hclosed.setAdapterSet hne ?_ []).removeStore o.key
  rw [hleaves.adapterSets]
  exact hlt

theorem addSource (h : Apart set w w') (hne : o.adapters ≠ set)
    (hlt : o.adapters.index < w.adapterSets.size) (hsid : o.session.index < w.sessions.size)
    (store' : StoreId) (version : Nat) (handle : ScriptHandle) :
    Apart set (w.addSource o version handle)
      (w'.addSource { o with store := store' } version handle) := by
  have hnew : (⟨w.adapters.size⟩ : AdapterId).index <
      (w.newAdapter o.store o.session).2.adapters.size := by
    simp [Workspace.newAdapter]
  have hbound := (h.newAdapter hsid o.store store').setPhase hnew (.bound { handle })
  rw [Workspace.addSource, Workspace.addSource, h.adapters, h.adapterSet _ hne]
  exact hbound.setAdapterSet hne hlt _

/-- Getting the adapter of a version of another driver. -/
theorem source (h : Apart set w w') (hne : o.adapters ≠ set)
    (hlt : o.adapters.index < w.adapterSets.size) (hsid : o.session.index < w.sessions.size)
    {store' : StoreId} {version : Nat}
    (hstore : w.OpensNone o version ∨ w'.store store' = w.store o.store) :
    Agree set w w' (Driver.source ⟨some o⟩ version)
      (Driver.source ⟨some { o with store := store' }⟩ version) := by
  rw [Agree, Driver.runIn_source, Driver.runIn_source, h.adapterSet _ hne]
  cases hname : o.index.get? version with
  | none => exact ⟨_, _, _, rfl, rfl, h⟩
  | some name =>
    cases hlookup : (w.adapterSet o.adapters).lookup version with
    | some id => exact ⟨_, _, _, rfl, rfl, h⟩
    | none =>
      have hsame : w'.store store' = w.store o.store := by
        simpa [Workspace.OpensNone, hname, hlookup] using hstore
      dsimp only
      rw [hsame, h.files, h.adapters]
      cases (w.store o.store).openScript w.files name with
      | error e => exact ⟨_, _, _, rfl, rfl, h⟩
      | ok handle => exact ⟨_, _, _, rfl, rfl, h.addSource hne hlt hsid store' version handle⟩

end Apart

/-! ## Opening -/

/-- The versions in a directory, if opening it works. -/
def ScriptStore.index? (t : FileTree) (root : String) : Option VersionIndex :=
  match list t { root } with
  | .error _ => none
  | .ok names => (VersionIndex.ofNames names).toOption

/-- What cannot be opened cannot be listed. -/
theorem ScriptStore.index?_of_openAt {t : FileTree} {root : String} {e : MigrationError}
    (h : openAt t root = .error e) : index? t root = none := by
  have hdirectory : t.isDirectory root = false := by
    unfold openAt at h
    split at h
    · cases h
    · next hfalse => exact eq_false_of_ne_true hfalse
  unfold index? list
  unfold FileTree.isDirectory at hdirectory
  cases hfind : t.find root with
  | error e' => rfl
  | ok found =>
    obtain ⟨at', node⟩ := found
    cases node with
    | directory => simp [hfind] at hdirectory
    | file id => rfl

/-- Getting a store changes nothing but the stores. -/
theorem Work.storeOf_eq (w : Workspace) (key root : String) :
    ∃ r stores storePool,
      runIn w (storeOf key root) = (r, { w with stores, storePool }) ∧
        ((∃ e, r = .error e) → ScriptStore.index? w.files root = none) := by
  rw [runIn_storeOf]
  cases w.store? key with
  | some id => exact ⟨_, w.stores, w.storePool, rfl, by simp⟩
  | none =>
    cases hopen : ScriptStore.openAt w.files root with
    | error e => exact ⟨_, w.stores, w.storePool, rfl, fun _ => ScriptStore.index?_of_openAt hopen⟩
    | ok s =>
      simp only [Workspace.addStoreAs]
      split
      · exact ⟨_, _, _, rfl, by simp⟩
      · exact ⟨_, _, _, rfl, by simp⟩

/-- What comes of opening a locator depends on the directory only, and not on the stores. -/
theorem Driver.runIn_openUrl_index? {w : Workspace} {url : String} {locator : Locator}
    (hlocator : Locator.parse url = .ok locator) (hw : w.Registered) :
    let session := w.sessionOf ((locator.query.get? sessionParameter).getD defaultSession)
    ∃ stores storePool,
      let u : Workspace := { session.2 with stores, storePool }
      match ScriptStore.index? w.files locator.path with
      | none => ∃ e, Work.runIn w (openUrl url) = (.error e, u)
      | some index => ∃ store,
        Work.runIn w (openUrl url) =
          (.ok ⟨some ⟨storeKey locator.path, store, session.1, index, u.newAdapterSet.1⟩⟩,
            u.newAdapterSet.2) ∧
        u.store? (storeKey locator.path) = some store := by
  intro session
  have hsession : w.Extends session.2 := .sessionOf w _
  have hfiles : session.2.files = w.files := by
    simp only [session, Workspace.sessionOf]
    split <;> rfl
  obtain ⟨r, stores, storePool, hrun, herror⟩ :=
    Work.storeOf_eq session.2 (storeKey locator.path) locator.path
  rw [hfiles] at herror
  refine ⟨stores, storePool, ?_⟩
  intro u
  change Work.runIn session.2 _ = (r, u) at hrun
  have hu : u.files = w.files := hfiles
  clear_value u
  obtain ⟨hextends, hkey⟩ := Workspace.Extends.storeOf hrun
  have hopen := runIn_openUrl_eq hlocator w
  extract_lets at hopen
  rw [hrun] at hopen
  cases r with
  | error e =>
    rw [herror ⟨e, rfl⟩]
    exact ⟨e, hopen⟩
  | ok store =>
    -- the store is on the directory, whoever registered it
    obtain ⟨root, hroot, hstore⟩ := (hextends.registered (hsession.registered hw)).root _ _
      (hkey store rfl)
    cases storeKey_injective hroot
    dsimp only at hopen
    rw [hstore, hu] at hopen
    unfold ScriptStore.index?
    cases hlist : ScriptStore.list w.files { root := locator.path } with
    | error e =>
      rw [hlist] at hopen
      exact ⟨e, hopen⟩
    | ok names =>
      rw [hlist] at hopen
      dsimp only at hopen ⊢
      cases hindex : VersionIndex.ofNames names with
      | error e =>
        rw [hindex] at hopen
        exact ⟨_, hopen⟩
      | ok index =>
        rw [hindex] at hopen
        exact ⟨store, hopen, hkey store rfl⟩

/-- Opening fails in both of two workspaces, or opens the same but for stores that are alike. -/
inductive OpenedAlike (w w' : Workspace) :
    Except MigrationError Driver → Except MigrationError Driver → Prop
  | failed {e e'} : OpenedAlike w w' (.error e) (.error e')
  | opened {o store'} (hstore : w.SameStore w' o store') :
      OpenedAlike w w' (.ok ⟨some o⟩) (.ok ⟨some { o with store := store' }⟩)

/-- Opening a locator. -/
theorem Apart.openUrl {set : AdapterSetId} {w w' : Workspace} (h : Apart set w w')
    (hw : w.Registered) (hw' : w'.Registered) (url : String) :
    ∃ r r' u u', Work.runIn w (Driver.openUrl url) = (r, u) ∧
      Work.runIn w' (Driver.openUrl url) = (r', u') ∧ Apart set u u' ∧ OpenedAlike u u' r r' := by
  cases hlocator : Locator.parse url with
  | error e =>
    exact ⟨_, _, _, _, Driver.runIn_openUrl_of_error hlocator w,
      Driver.runIn_openUrl_of_error hlocator w', h, .failed⟩
  | ok locator =>
    obtain ⟨stores, storePool, hrun⟩ := Driver.runIn_openUrl_index? hlocator hw
    obtain ⟨stores', storePool', hrun'⟩ := Driver.runIn_openUrl_index? hlocator hw'
    obtain ⟨hid, hsession⟩ := h.sessionOf
      ((locator.query.get? Driver.sessionParameter).getD Driver.defaultSession)
    have hu := hsession.ofStores stores stores' storePool storePool'
    rw [h.files, hid] at hrun'
    cases hindex : ScriptStore.index? w.files locator.path with
    | none =>
      rw [hindex] at hrun hrun'
      obtain ⟨e, hrun⟩ := hrun
      obtain ⟨e', hrun'⟩ := hrun'
      exact ⟨_, _, _, _, hrun, hrun', hu, .failed⟩
    | some index =>
      rw [hindex] at hrun hrun'
      obtain ⟨store, hrun, hkey⟩ := hrun
      obtain ⟨store', hrun', hkey'⟩ := hrun'
      obtain ⟨hset, hsets⟩ := hu.newAdapterSet
      rw [hset] at hrun'
      exact ⟨_, _, _, _, hrun, hrun', hsets, .opened (.inl ⟨hkey, hkey'⟩)⟩

end SchemaMigration
