import Mathlib.Data.List.Dedup
import Mathlib.Data.List.Pairwise
import Mathlib.Logic.Relation
import SchemaMigration.Proofs.Migration.OutputBuffers
import SchemaMigration.Proofs.Value.Dictionary

/-!
# Sessions are registered once

A pool of sessions answers calls while the rest of the workspace changes. The first call that adds a
session for a key, or asks for one that must be there, settles the session of the key. Every later
one finds it and changes nothing. A session that the pool makes itself is a new one, in which
nothing is written by what is done in another.

## Main definitions

* `SessionPool.Call`, `SessionPool.Turn` — a call, and what came of it.
* `PoolRun` — the calls of a pool, with whatever else happens in between.
* `Workspace.WorksIn` — what is done in one session.

## Main results

* `PoolRun.recalls` — the pool has what its history says.
* `PoolRun.registers_once` — what follows for the calls of a history and for the next one.
-/

namespace SchemaMigration

/-! ## Calls -/

namespace SessionPool

inductive Call where
  | add (key : String) (id : SessionId)
  | get (key : String)
  /-- Asks for a session that is made if the key has none. -/
  | getMust (key : String)

inductive Reply where
  | added (done : Bool)
  | found (id? : Option SessionId)
  | session (id : SessionId)
deriving DecidableEq

namespace Call

def key : Call → String
  | add key _ | get key | getMust key => key

/-- The key that has a session after the call, whether it had one or not. -/
def registers? : Call → Option String
  | add key _ | getMust key => some key
  | get _ => none

def answer (id : SessionId) : Call → Reply
  | add _ _ => .added false
  | get _ => .found (some id)
  | getMust _ => .session id

/-- Holds if a session that is handed over is there. -/
def Given (w : Workspace) : Call → Prop
  | add _ id => id.index < w.sessions.size
  | get _ | getMust _ => True

end Call

/-- A call, the workspaces before and after it, and what it answered. -/
structure Turn where
  call : Call
  before : Workspace
  reply : Reply
  after : Workspace

/-- Holds if a call asked for a session that had to be made. -/
def Turn.missed (t : Turn) : Bool :=
  match t.call with
  | .getMust key => (t.before.session? key).isNone
  | .add _ _ | .get _ => false

/-- Holds unless both calls made a session, and the same one. -/
def Turn.MakesOther (t t' : Turn) : Prop :=
  t.missed → t'.missed → ∀ id id', t.reply = .session id → t'.reply = .session id' → id ≠ id'

instance : Std.Symm Turn.MakesOther where
  symm _ _ h hmissed hmissed' id id' hid hid' := (h hmissed' hmissed id' id hid' hid).symm

end SessionPool

open SessionPool (Call Reply Turn)

namespace Workspace

def ask (w : Workspace) : Call → Reply × Workspace
  | .add key id =>
    let (done, w) := w.addSession key id
    (.added done, w)
  | .get key => (.found (w.session? key), w)
  | .getMust key =>
    let (id, w) := w.sessionOf key
    (.session id, w)

def poolTurn (w : Workspace) (c : Call) : Turn := ⟨c, w, (w.ask c).1, (w.ask c).2⟩

/-- What is done in a session: running steps, making an adapter on it, and using one. -/
inductive WorksIn (sid : SessionId) (w : Workspace) : Workspace → Prop
  | direct (ss : List Step) : WorksIn sid w (w.setInterpreter sid (w.stepped sid ss))
  | newAdapter (store : StoreId) : WorksIn sid w (w.newAdapter store sid).2
  | act {id : AdapterId} (hid : w.IsOn sid id) (a : Adapter.Action) : WorksIn sid w (w.after id a)

end Workspace

/-- The calls of a pool from its making on. Between two calls anything may happen that leaves the
pool alone and loses no session. -/
inductive PoolRun : List Turn → Workspace → Prop
  | start {w} (h : w.sessionPool = {}) : PoolRun [] w
  | call {ts w} (h : PoolRun ts w) (c : Call) (hc : c.Given w) :
      PoolRun (ts ++ [w.poolTurn c]) (w.ask c).2
  | other {ts w w'} (h : PoolRun ts w) (hpool : w'.sessionPool = w.sessionPool)
      (hsize : w.sessions.size ≤ w'.sessions.size) : PoolRun ts w'

/-! ## What a call does -/

/-- The workspace with a session for a key, and so many more made by the pool. -/
def Workspace.register (w : Workspace) (key : String) (id : SessionId) (made : Nat) : Workspace :=
  { w with
    sessionPool :=
      { registered := w.sessionPool.registered.insert key id
        created := w.sessionPool.created + made } }

/-- How a call goes. -/
inductive SessionPool.AskStep (w : Workspace) : Call → Reply → Workspace → Prop
  | again {c : Call} {id} (h : w.session? c.key = some id) : AskStep w c (c.answer id) w
  | notFound {key} (h : w.session? key = none) : AskStep w (.get key) (.found none) w
  | added {key id} (h : w.session? key = none) :
      AskStep w (.add key id) (.added true) (w.register key id 0)
  | made {key} (h : w.session? key = none) :
      AskStep w (.getMust key) (.session ⟨w.sessions.size⟩)
        ((w.newSession key).2.register key ⟨w.sessions.size⟩ 1)

open SessionPool (AskStep)

namespace Workspace

variable {w w' : Workspace} {c : Call} {id sid other : SessionId}

theorem session?_register (w : Workspace) (key : String) (id : SessionId) (made : Nat)
    (other : String) :
    (w.register key id made).session? other = if key = other then some id else w.session? other :=
  Dict.get?_insert _ _ _ _

/-- A call for a key that has a session changes nothing. -/
theorem ask_of_session?_eq_some (h : w.session? c.key = some id) : w.ask c = (c.answer id, w) := by
  cases c with
  | add key _ =>
    have hsome : w.session? key = some id := h
    simp only [ask, addSession, hsome, Option.isSome_some, if_true]
    rfl
  | get key =>
    have hsome : w.session? key = some id := h
    rw [ask, hsome]
    rfl
  | getMust key =>
    have hsome : w.session? key = some id := h
    rw [ask, sessionOf_of_session?_eq_some hsome]
    rfl

theorem ask_add_of_session?_eq_none {key : String} (h : w.session? key = none) (id : SessionId) :
    w.ask (.add key id) = (.added true, w.register key id 0) := by
  simp only [ask, addSession, h, Option.isSome_none, Bool.false_eq_true, if_false]
  rfl

theorem ask_getMust_of_session?_eq_none {key : String} (h : w.session? key = none) :
    w.ask (.getMust key) =
      (.session ⟨w.sessions.size⟩, (w.newSession key).2.register key ⟨w.sessions.size⟩ 1) := by
  simp only [ask, sessionOf, h]
  rfl

theorem askStep (w : Workspace) (c : Call) : AskStep w c (w.ask c).1 (w.ask c).2 := by
  cases h : w.session? c.key with
  | some id =>
    rw [ask_of_session?_eq_some h]
    exact .again h
  | none =>
    cases c with
    | add key id =>
      have hnone : w.session? key = none := h
      rw [ask_add_of_session?_eq_none hnone]
      exact .added hnone
    | get key =>
      have hnone : w.session? key = none := h
      rw [ask, hnone]
      exact .notFound hnone
    | getMust key =>
      have hnone : w.session? key = none := h
      rw [ask_getMust_of_session?_eq_none hnone]
      exact .made hnone

theorem missed_poolTurn_iff :
    (w.poolTurn c).missed ↔ ∃ key, c = .getMust key ∧ w.session? key = none := by
  cases c <;> simp [poolTurn, Turn.missed]

/-- Using an adapter changes no session but its own. -/
theorem session_after_of_ne {id : AdapterId} (hid : id.index < w.adapters.size)
    (h : (w.adapter id).session ≠ other) (a : Adapter.Action) :
    (w.after id a).session other = w.session other := by
  have hemptied (p : Adapter.Phase) (f : Session → Session) :
      ((w.setPhase id p).updateSession ((w.setPhase id p).adapter id).session f).session other =
        w.session other := by
    rw [adapter_setPhase w hid, if_pos rfl, session_updateSession_of_ne _ h, session_setPhase]
  cases a with
  | bind name =>
    rw [after, runIn_act_bind]
    by_cases hp : (w.adapter id).phase = .unbound
    · rw [runIn_bind_of_unbound hp]
      split <;> simp only [session_setPhase]
    · rw [runIn_bind_of_ne hp, runIn_bindNew]
      split
      · rw [session_setPhase, session_newAdapter_of_ne w h]
      · rfl
  | read method =>
    rw [after, runIn_act_read]
    cases hidentifier : (w.adapter id).phase.identifier? with
    | none => rw [runIn_read_of_unbound hidentifier]
    | some identifier =>
      rw [runIn_read hidentifier rfl, finish, session_setPhase, session_setInterpreter_of_ne w h]
  | reset =>
    rw [after_reset]
    exact hemptied _ _
  | close =>
    by_cases hp : (w.adapter id).phase = .closed
    · rw [after_close_of_closed hp]
    · rw [after_close_of_ne hp]
      exact hemptied _ _

/-- What is done in a session leaves the others as they are, with their buffers. -/
theorem WorksIn.session_of_ne (h : WorksIn sid w w') (hne : sid ≠ other) :
    w'.session other = w.session other := by
  cases h with
  | direct ss => exact session_setInterpreter_of_ne w hne _
  | newAdapter store => exact session_newAdapter_of_ne w hne store
  | act hid a =>
    obtain ⟨hlt, rfl⟩ := hid
    exact session_after_of_ne hlt hne a

theorem session_of_worksIn (h : Relation.ReflTransGen (WorksIn sid) w w') (hne : sid ≠ other) :
    w'.session other = w.session other := by
  induction h with
  | refl => rfl
  | tail _ hstep ih => exact (hstep.session_of_ne hne).trans ih

end Workspace

/-! ## What a pool recalls -/

namespace SessionPool

/-- What a pool has, its history says. -/
structure Recalls (ts : List Turn) (w : Workspace) : Prop where
  sorted : w.sessionPool.registered.Sorted
  isSome_iff : ∀ key, (w.session? key).isSome ↔ ∃ t ∈ ts, t.call.registers? = some key
  bounds : ∀ key id, w.session? key = some id → id.index < w.sessions.size
  created : w.sessionPool.created = ts.countP Turn.missed
  kept : ∀ t ∈ ts, ∀ key id, t.after.session? key = some id → w.session? key = some id
  /-- The sessions that were made are older than those to come. -/
  older : ∀ t ∈ ts, t.missed → ∀ id, t.reply = .session id → id.index < w.sessions.size

namespace Recalls

variable {ts : List Turn} {w w' : Workspace}

theorem exists_registers_concat {t : Turn} {key : String} :
    (∃ u ∈ ts ++ [t], u.call.registers? = some key) ↔
      (∃ u ∈ ts, u.call.registers? = some key) ∨ t.call.registers? = some key := by
  simp [or_and_right, exists_or]

theorem start (h : w.sessionPool = {}) : Recalls [] w where
  sorted := by simp [h, Dict.Sorted]
  isSome_iff key := by simp [Workspace.session?, h]
  bounds key id hid := by simp [Workspace.session?, h] at hid
  created := by simp [h]
  kept := by simp
  older := by simp

theorem other (h : Recalls ts w) (hpool : w'.sessionPool = w.sessionPool)
    (hsize : w.sessions.size ≤ w'.sessions.size) : Recalls ts w' := by
  have hsession (key : String) : w'.session? key = w.session? key := by
    rw [Workspace.session?, hpool]
    rfl
  refine ⟨hpool ▸ h.sorted, fun key => ?_, fun key id hid => ?_, hpool ▸ h.created,
    fun t ht key id hid => ?_, fun t ht hmissed id hid => ?_⟩
  · rw [hsession, h.isSome_iff]
  · exact (h.bounds key id (hsession key ▸ hid)).trans_le hsize
  · rw [hsession, h.kept t ht key id hid]
  · exact (h.older t ht hmissed id hid).trans_le hsize

/-- A call that changes nothing, for a key that has a session or without need of one. -/
theorem unchanged {t : Turn} (h : Recalls ts w) (hafter : t.after = w) (hmissed : t.missed = false)
    (hregisters : ∀ key, t.call.registers? = some key → (w.session? key).isSome) :
    Recalls (ts ++ [t]) w where
  sorted := h.sorted
  isSome_iff key := by
    rw [exists_registers_concat, ← h.isSome_iff]
    exact ⟨.inl, fun hsome => hsome.elim id (hregisters key)⟩
  bounds := h.bounds
  created := by simp [h.created, hmissed]
  kept u hu key id hid := by
    rcases List.mem_append.1 hu with hu | hu
    · exact h.kept u hu key id hid
    · rwa [List.mem_singleton.1 hu, hafter] at hid
  older u hu hmissed' id hid := by
    rcases List.mem_append.1 hu with hu | hu
    · exact h.older u hu hmissed' id hid
    · rw [List.mem_singleton.1 hu, hmissed] at hmissed'
      cases hmissed'

/-- A call that settles the session of its key. -/
theorem settled {t : Turn} {id : SessionId} {made : Nat} (h : Recalls ts w)
    (hnone : w.session? t.call.key = none) (hregisters : t.call.registers? = some t.call.key)
    (hid : id.index < w.sessions.size) (hmade : made = if t.missed then 1 else 0)
    (hafter : t.after = w.register t.call.key id made)
    (hreply : ∀ other, t.reply = .session other → other = id) :
    Recalls (ts ++ [t]) (w.register t.call.key id made) where
  sorted := h.sorted.insert _ _
  isSome_iff key := by
    rw [exists_registers_concat, ← h.isSome_iff, Workspace.session?_register, hregisters,
      Option.some_inj]
    split
    · next heq => simp [heq]
    · next hne => simp [hne]
  bounds key other hother := by
    rw [Workspace.session?_register] at hother
    split at hother
    · cases hother
      exact hid
    · exact h.bounds key other hother
  created := by
    rw [List.countP_append, List.countP_singleton, ← h.created, ← hmade]
    rfl
  kept u hu key other hother := by
    rcases List.mem_append.1 hu with hu | hu
    · have hkept := h.kept u hu key other hother
      rw [Workspace.session?_register, if_neg, hkept]
      rintro rfl
      rw [hnone] at hkept
      cases hkept
    · rwa [List.mem_singleton.1 hu, hafter] at hother
  older u hu hmissed other hother := by
    rcases List.mem_append.1 hu with hu | hu
    · exact h.older u hu hmissed other hother
    · rw [List.mem_singleton.1 hu] at hother
      rwa [hreply other hother]

theorem call (h : Recalls ts w) (c : Call) (hc : c.Given w) :
    Recalls (ts ++ [w.poolTurn c]) (w.ask c).2 := by
  rw [Workspace.poolTurn]
  have hstep := w.askStep c
  generalize (w.ask c).1 = r at hstep ⊢
  generalize (w.ask c).2 = w' at hstep ⊢
  cases hstep with
  | again hsome =>
    refine h.unchanged rfl ?_ fun key hkey => ?_
    · cases c with
      | getMust key => simp [Turn.missed, show w.session? key = some _ from hsome]
      | add | get => rfl
    · cases c <;> cases hkey <;> exact Option.isSome_of_eq_some hsome
  | notFound hnone => exact h.unchanged rfl rfl (by simp [Call.registers?])
  | added hnone => exact h.settled hnone rfl hc rfl rfl (by simp)
  | @made key hnone =>
    have hsize : w.sessions.size < (w.newSession key).2.sessions.size := by
      simp [Workspace.newSession]
    have hnew : Recalls ts (w.newSession key).2 := h.other rfl hsize.le
    exact hnew.settled hnone rfl hsize (by simp [Turn.missed, hnone]) rfl (by simp)

end Recalls

end SessionPool

open SessionPool (Recalls)

theorem PoolRun.recalls {ts : List Turn} {w : Workspace} (h : PoolRun ts w) : Recalls ts w := by
  induction h with
  | start h => exact .start h
  | call _ c hc ih => exact ih.call c hc
  | other _ hpool hsize ih => exact ih.other hpool hsize

/-! ## One session for a key -/

/-- What holds of a pool with a history. -/
structure SessionPool.RegistersOnce (ts : List Turn) (w : Workspace) : Prop where
  /-- Once a key has a session, later calls find it and change nothing. -/
  repeated : ts.Pairwise fun t t' => ∀ id, t.after.session? t'.call.key = some id →
    t'.reply = t'.call.answer id ∧ t'.after = t'.before
  /-- The same of calls that are still to come. -/
  recalled : ∀ t ∈ ts, ∀ id c, t.after.session? c.key = some id → w.ask c = (c.answer id, w)
  added : ∀ t ∈ ts, ∀ key id, t.call = .add key id → t.before.session? key = none →
    t.reply = .added true ∧ t.after.session? key = some id
  notFound : ∀ t ∈ ts, ∀ key, t.call = .get key → t.before.session? key = none →
    t.reply = .found none ∧ t.after = t.before
  /-- A session that the pool makes was not there before. -/
  made : ∀ t ∈ ts, t.missed → ∃ id, t.reply = .session id ∧
    t.after.session? t.call.key = some id ∧
    t.after.session id = .create t.call.key (t.before.orders id) ∧
    id.index = t.before.sessions.size ∧ ∀ key, t.before.session? key ≠ some id
  registered_iff : ∀ key, (w.session? key).isSome ↔ ∃ t ∈ ts, t.call.registers? = some key
  created : w.sessionPool.created = ts.countP Turn.missed
  length : w.sessionPool.registered.length = (ts.filterMap (·.call.registers?)).dedup.length
  /-- The sessions that it makes for two keys are two, and nothing that is done in one of them
  reaches the other with its buffers. -/
  apart : ∀ t ∈ ts, ∀ t' ∈ ts, t.missed → t'.missed → t.call.key ≠ t'.call.key →
    ∀ id id', t.reply = .session id → t'.reply = .session id' →
      id ≠ id' ∧ ∀ u u', Relation.ReflTransGen (Workspace.WorksIn id) u u' →
        u'.session id' = u.session id'

namespace PoolRun

variable {ts : List Turn} {w : Workspace}

/-- What is done in a session is no matter of the pool. -/
theorem worksIn {sid : SessionId} {w' : Workspace} (h : PoolRun ts w)
    (hw : Workspace.WorksIn sid w w') : PoolRun ts w' := by
  cases hw with
  | direct ss => exact h.other rfl (by simp [Workspace.setInterpreter])
  | newAdapter store => exact h.other rfl (by simp [Workspace.newAdapter])
  | act hid a =>
    obtain ⟨_, -, hleaves⟩ := Workspace.turned hid.1 a
    exact h.other hleaves.sessionPool hleaves.sessions.ge

/-- What holds of every call in every run, holds of the turns of a run. -/
theorem forall_mem {P : Turn → Prop} (h : PoolRun ts w)
    (hP : ∀ ts w c, PoolRun ts w → P (w.poolTurn c)) : ∀ t ∈ ts, P t := by
  induction h with
  | start => simp
  | call h c hc ih =>
    intro t ht
    rcases List.mem_append.1 ht with ht | ht
    · exact ih t ht
    · rw [List.mem_singleton.1 ht]
      exact hP _ _ c h
  | other _ _ _ ih => exact ih

/-- What holds of the turns of every run and the next call, holds of earlier and later turns. -/
theorem pairwise {R : Turn → Turn → Prop} (h : PoolRun ts w)
    (hR : ∀ ts w c, PoolRun ts w → ∀ t ∈ ts, R t (w.poolTurn c)) : ts.Pairwise R := by
  induction h with
  | start => exact .nil
  | call h c hc ih =>
    refine List.pairwise_append.2 ⟨ih, List.pairwise_singleton _ _, fun t ht t' ht' => ?_⟩
    rw [List.mem_singleton.1 ht']
    exact hR _ _ c h t ht
  | other _ _ _ ih => exact ih

theorem ask_again (h : PoolRun ts w) {t : Turn} (ht : t ∈ ts) {id : SessionId} {c : Call}
    (hid : t.after.session? c.key = some id) : w.ask c = (c.answer id, w) :=
  Workspace.ask_of_session?_eq_some (h.recalls.kept t ht c.key id hid)

theorem length_registered (h : PoolRun ts w) :
    w.sessionPool.registered.length = (ts.filterMap (·.call.registers?)).dedup.length := by
  have hr := h.recalls
  have hperm : w.sessionPool.registered.names.Perm (ts.filterMap (·.call.registers?)).dedup := by
    refine (List.perm_ext_iff_of_nodup hr.sorted.nodup_names (List.nodup_dedup _)).2 fun key => ?_
    rw [List.mem_dedup, List.mem_filterMap, ← Dict.isSome_get?_iff]
    exact hr.isSome_iff key
  rw [← hperm.length_eq, Dict.names, List.length_map]

/-- A session is made once. -/
theorem pairwise_makesOther (h : PoolRun ts w) : ts.Pairwise Turn.MakesOther := by
  refine h.pairwise fun ts w c h t ht hmissed hmissed' id id' hid hid' => ?_
  obtain ⟨key, rfl, hnone⟩ := Workspace.missed_poolTurn_iff.1 hmissed'
  have hlt := h.recalls.older t ht hmissed id hid
  rw [Workspace.poolTurn, Workspace.ask_getMust_of_session?_eq_none hnone] at hid'
  cases hid'
  rintro rfl
  exact Nat.lt_irrefl _ hlt

/-- Whatever a pool is asked, a key has one session, from the first call that settles it on. -/
theorem registers_once (h : PoolRun ts w) : SessionPool.RegistersOnce ts w where
  repeated := by
    refine h.pairwise fun ts w c h t ht id hid => ?_
    have hagain : w.ask c = (c.answer id, w) := h.ask_again ht hid
    rw [Workspace.poolTurn, hagain]
    exact ⟨rfl, rfl⟩
  recalled t ht id c hid := h.ask_again ht hid
  added := by
    refine h.forall_mem fun ts w c h key id hcall hnone => ?_
    obtain rfl : c = .add key id := hcall
    have hask := Workspace.ask_add_of_session?_eq_none (w := w) hnone id
    rw [Workspace.poolTurn, hask]
    exact ⟨rfl, Dict.get?_insert_self _ _ _⟩
  notFound := by
    refine h.forall_mem fun ts w c h key hcall hnone => ?_
    obtain rfl : c = .get key := hcall
    exact ⟨congrArg Reply.found hnone, rfl⟩
  made := by
    refine h.forall_mem fun ts w c h hmissed => ?_
    obtain ⟨key, rfl, hnone⟩ := Workspace.missed_poolTurn_iff.1 hmissed
    rw [Workspace.poolTurn, Workspace.ask_getMust_of_session?_eq_none hnone]
    refine ⟨⟨w.sessions.size⟩, rfl, Dict.get?_insert_self _ _ _, ?_, rfl, fun other hother => ?_⟩
    · exact (w.session_newSession key _).trans (if_pos rfl)
    · exact Nat.lt_irrefl _ (h.recalls.bounds other _ hother)
  registered_iff := h.recalls.isSome_iff
  created := h.recalls.created
  length := h.length_registered
  apart t ht t' ht' hmissed hmissed' hkey id id' hid hid' := by
    have hturns : t ≠ t' := fun heq => hkey (heq ▸ rfl)
    have hne : id ≠ id' :=
      h.pairwise_makesOther.forall ht ht' hturns hmissed hmissed' id id' hid hid'
    exact ⟨hne, fun u u' hu => Workspace.session_of_worksIn hu hne⟩

end PoolRun

/-- A session that was made outside the pool is added twice, and two more are made. The first of
them is asked for again after a statement was made in the second. -/
theorem PoolRun.registers_once_droppedTable :
    ∃ ts w, PoolRun ts w ∧ SessionPool.RegistersOnce ts w ∧
      ts.map (·.reply) = [.found none, .added true, .added false, .session ⟨1⟩, .session ⟨2⟩,
        .session ⟨1⟩, .found (some ⟨0⟩)] ∧
      ts.map (·.missed) = [false, false, false, true, true, false, false] ∧
      w.sessionPool.created = 2 ∧ w.sessionPool.registered.length = 3 ∧
      w.sessions.toList.map (·.output) = ["", "", "DROP TABLE `t`;\n"] := by
  have hstart : PoolRun [] (Workspace.newSession {} "mine").2 := .start rfl
  have hnone := hstart.call (.get "mine") trivial
  have hadded := hnone.call (.add "mine" ⟨0⟩) Nat.one_pos
  have hrefused := hadded.call (.add "mine" ⟨0⟩) Nat.one_pos
  have hfirst := hrefused.call (.getMust "a") trivial
  have hsecond := hfirst.call (.getMust "b") trivial
  have hran := hsecond.worksIn
    (@Workspace.WorksIn.direct ⟨2⟩ _ [.call "dropTable" [.text (.valid "t")] none])
  have hagain := hran.call (.getMust "a") trivial
  have hfound := hagain.call (.get "mine") trivial
  exact ⟨_, _, hfound, hfound.registers_once, by decide +kernel, by decide +kernel,
    by decide +kernel, by decide +kernel, by decide +kernel⟩

end SchemaMigration
