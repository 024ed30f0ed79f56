import SchemaMigration.Proofs.Migration.Soundness
import SchemaMigration.Proofs.Script.EntryTable

/-!
# Whose entry function is called

A reading calls a function of the table that the adapter's script answered. If the script answered
none, the table is looked up under the identifier of the script among the global names of the
session, where the scripts of all adapters put theirs. What is found is the table of the last script
that was published under that name, which need not be the script of the adapter.

## Main definitions

* `lastLoading`, `lastPublisher` — the last evaluation for an adapter, and under a global name.
* `Owned` — the tables that are kept aside in a session, and whose they are.
* `SessionRun.own_entry_iff` — when a reading calls a function of its own script.
-/

namespace SchemaMigration

/-! ## Evaluations in a history -/

def Event.loaded? : Event → Option Loading
  | .direct _ => none
  | .read r => r.loaded?

def loadings (es : List Event) : List Loading := es.filterMap Event.loaded?

def lastLoading (ls : List Loading) (id : AdapterId) : Option Loading :=
  ls.reverse.find? (·.adapter = id)

/-- The last evaluation that gave its entry table a global name. -/
def lastPublisher (ls : List Loading) (name : String) : Option Loading :=
  ls.reverse.find? (·.script.publishes? = some name)

/-- Holds for the functions that were made while a script was evaluated. -/
def Loading.Made (L : Loading) (f : Function) : Prop := f.MadeIn L.first L.limit

/-- Holds for the functions of an evaluation, or for those of no script. -/
def Loading.Owns : Option Loading → Function → Prop
  | some L, f => L.Made f
  | none, f => ∀ place, f ≠ .script place

theorem loadings_concat (es : List Event) (e : Event) :
    loadings (es ++ [e]) = loadings es ++ e.loaded?.toList := by
  cases h : e.loaded? <;> simp [loadings, h]

theorem lastLoading_concat (ls : List Loading) (L : Loading) (id : AdapterId) :
    lastLoading (ls ++ [L]) id = if L.adapter = id then some L else lastLoading ls id := by
  by_cases h : L.adapter = id <;> simp [lastLoading, h]

theorem lastPublisher_concat (ls : List Loading) (L : Loading) (name : String) :
    lastPublisher (ls ++ [L]) name =
      if L.script.publishes? = some name then some L else lastPublisher ls name := by
  by_cases h : L.script.publishes? = some name <;> simp [lastPublisher, h]

theorem mem_of_lastLoading {ls : List Loading} {id : AdapterId} {L : Loading}
    (h : lastLoading ls id = some L) : L ∈ ls :=
  List.mem_reverse.1 (List.mem_of_find?_eq_some h)

theorem mem_of_lastPublisher {ls : List Loading} {name : String} {L : Loading}
    (h : lastPublisher ls name = some L) : L ∈ ls :=
  List.mem_reverse.1 (List.mem_of_find?_eq_some h)

/-! ## Tables and their owners -/

/-- The tables that are kept aside in a session after these evaluations. Each has an owner: the
evaluation that made it, or none if it is a module of the session. -/
structure Owned (owner : Nat → Option Loading → Prop) (shared : String → Prop)
    (ls : List Loading) (s : Session) : Prop where
  clean : s.Clean (.aside (fun place => ∃ L?, owner place L?) shared)
  limits : ∀ L ∈ ls, L.limit ≤ s.functions.size
  unique : ∀ L ∈ ls, ∀ L' ∈ ls, ∀ f, L.Made f → L'.Made f → L = L'
  calls : ∀ place L?, owner place L? → (s.table place).Calls (Loading.Owns L?)
  published : ∀ name, ¬ shared name → ∀ place, s.global name = .table place →
    owner place (lastPublisher ls name)

theorem calls_functionTable {P : Function → Prop} {functions : List (String × Function)}
    (h : ∀ f ∈ functions, P f.2) : (Session.functionTable functions).Calls P := by
  intro kv hkv f hf
  obtain ⟨g, hg, rfl⟩ := List.mem_map.1 hkv
  cases hf
  exact h g hg

namespace Owned

variable {owner : Nat → Option Loading → Prop} {shared : String → Prop} {ls : List Loading}
  {s s' : Session}

/-- What happens within reach leaves the tables that are kept aside to their owners. -/
theorem changes (h : Owned owner shared ls s)
    (hc : s.Changes (.aside (fun place => ∃ L?, owner place L?) shared) s') :
    Owned owner shared ls s' := by
  have hpreserves := hc.preserves h.clean
  refine {
    clean := hc.clean h.clean
    limits := fun L hL => Nat.le_trans (h.limits L hL) hpreserves.functions
    unique := h.unique
    calls := fun place L? ho => ?_
    published := fun name hn place hp => ?_ }
  · rw [hpreserves.tables place ⟨L?, ho⟩]
    exact h.calls place L? ho
  · rw [hpreserves.globals name hn] at hp
    exact h.published name hn place hp

theorem withBuffers (h : Owned owner shared ls s) (buffers : BufferStore) :
    Owned owner shared ls { s with buffers } :=
  { h with clean := { h.clean with } }

/-- A buffer is no table, whatever name it is put under. -/
theorem install (h : Owned owner shared ls s) (id : BufferId) :
    Owned owner shared ls (s.install id) := by
  refine { h with
    clean := { h.clean with globals := fun name hn => ?_ }
    published := fun name hn place hp => ?_ }
  · rw [Session.install, Session.global_setGlobal]
    split
    · rintro _ ⟨⟩
    · exact h.clean.globals name hn
  · rw [Session.install, Session.global_setGlobal] at hp
    split at hp
    · cases hp
    · exact h.published name hn place hp

/-- The tables of a fresh session are the modules. Their functions belong to no script. -/
theorem create (name : String) (order : TableOrder) (hmigrate : ¬ shared Session.migrateGlobal)
    (hlogger : ¬ shared Session.loggerGlobal) :
    Owned (fun place L? => place < 2 ∧ L? = none) shared [] (.create name order) where
  clean := by
    refine Session.clean_create name order (fun other ho => ?_) fun place hle other he => ?_
    · rw [Session.global_create]
      repeat' split
      · rintro _ ⟨⟩
      · rintro _ ⟨⟩
      · next he => exact absurd (he ▸ ho) hlogger
      · next he => exact absurd (he ▸ ho) hmigrate
      · rintro _ ⟨⟩
    · cases he
      refine ⟨Nat.lt_succ_self place, ?_⟩
      rintro ⟨_, hlt, _⟩
      exact Nat.not_lt_of_le hle hlt
  limits _ hL := by cases hL
  unique _ hL := by cases hL
  calls place L? ho := by
    obtain ⟨_, rfl⟩ := ho
    rw [Session.table_create]
    repeat' split
    · refine calls_functionTable (List.forall_mem_append.2 ⟨List.forall_mem_append.2 ⟨?_, ?_⟩, ?_⟩)
      · exact List.forall_mem_map.2 fun _ _ => by simp [Loading.Owns]
      · simp [Loading.Owns]
      · exact List.forall_mem_map.2 fun _ _ => by simp [Loading.Owns]
    · exact calls_functionTable (List.forall_mem_map.2 fun _ _ => by simp [Loading.Owns])
    · exact Table.values_nil
  published name hn place hp := by
    rw [Session.global_create] at hp
    refine ⟨?_, rfl⟩
    repeat' split at hp
    · cases hp
    · cases hp
    · cases hp
      decide
    · cases hp
      decide
    · cases hp

/-- Evaluating a self-contained script adds its entry table, which it owns. -/
theorem evaluated (h : Owned owner shared ls s) {new : Nat → Prop} {L : Loading}
    (he : Evaluated (fun place => ∃ L?, owner place L?) new shared L.script L.module s s')
    (hfirst : L.first = s.functions.size) (hlimit : L.limit = s'.functions.size) :
    Owned (fun place L? => owner place L? ∨ new place ∧ L? = some L) shared (ls ++ [L]) s' := by
  have hkept : (fun place => ∃ L?, owner place L? ∨ new place ∧ L? = some L) =
      fun place => (∃ L?, owner place L?) ∨ new place := by
    funext place
    simp [exists_or]
  -- the functions of earlier evaluations are older
  have hold : ∀ L' ∈ ls, ∀ f, L'.Made f → ¬ L.Made f := by
    rintro L' hL' f ⟨place, hf, _, hlt⟩ ⟨place', hf', hle, _⟩
    rw [hf] at hf'
    cases hf'
    have := h.limits L' hL'
    omega
  refine {
    clean := hkept ▸ he.clean
    limits := fun L' hL' => ?_
    unique := fun L₁ h₁ L₂ h₂ f hf₁ hf₂ => ?_
    calls := fun place L? ho => ?_
    published := fun name hn place hp => ?_ }
  · rcases List.mem_append.1 hL' with hL' | hL'
    · exact Nat.le_trans (h.limits L' hL') he.functions
    · cases List.mem_singleton.1 hL'
      exact Nat.le_of_eq hlimit
  · rcases List.mem_append.1 h₁ with h₁ | h₁ <;> rcases List.mem_append.1 h₂ with h₂ | h₂
    · exact h.unique L₁ h₁ L₂ h₂ f hf₁ hf₂
    · cases List.mem_singleton.1 h₂
      exact absurd hf₂ (hold L₁ h₁ f hf₁)
    · cases List.mem_singleton.1 h₁
      exact absurd hf₁ (hold L₂ h₂ f hf₂)
    · cases List.mem_singleton.1 h₁
      cases List.mem_singleton.1 h₂
      rfl
  · rcases ho with ho | ⟨hnew, rfl⟩
    · rw [he.tables place ⟨L?, ho⟩]
      exact h.calls place L? ho
    · have hcalls := he.calls place hnew
      rwa [← hfirst, ← hlimit] at hcalls
  · rw [lastPublisher_concat]
    split
    · next hpublishes =>
      exact .inr ⟨he.published name hpublishes place hp, rfl⟩
    · next hne =>
      rw [he.globals name hn hne] at hp
      exact .inl (h.published name hn place hp)

/-- A function that is in the script's own table, or else in that of the last publisher, is a
function of the script if there is such a table, or if the script is that publisher. -/
theorem made_iff (h : Owned owner shared ls s) {L : Loading} {name : String} {f : Function}
    (hL : L ∈ ls) (hmade : L.module.isSome → L.Made f)
    (howns : L.module = none → Loading.Owns (lastPublisher ls name) f) :
    L.Made f ↔ L.module.isSome ∨ lastPublisher ls name = some L := by
  cases hm : L.module with
  | some place =>
    have hown : L.Made f := hmade (by rw [hm]; rfl)
    simp [hown]
  | none =>
    have howns := howns hm
    cases hpublisher : lastPublisher ls name with
    | none =>
      -- a function of no script is not one of this script
      rw [hpublisher] at howns
      have hnot : ¬ L.Made f := by
        rintro ⟨place, hf, _⟩
        exact howns place hf
      simp [hnot]
    | some L' =>
      rw [hpublisher] at howns
      have hiff : L.Made f ↔ L' = L :=
        ⟨fun hown => h.unique L' (mem_of_lastPublisher hpublisher) L hL f howns hown,
          fun he => he ▸ howns⟩
      simp [hiff]

end Owned

/-! ## Adapters and their modules -/

/-- The function of an entry is what the table with the entries has under its name. -/
theorem Adapter.entryTable?_of_entryFunction? {s : Session} {identifier entry : String} {m : Module}
    {f : Function} (h : entryFunction? s identifier entry m = some f) :
    ∃ t, entryTable? s identifier m = some t ∧ t.get (.ofString entry) = .function f := by
  unfold entryFunction? at h
  split at h
  · next t ht =>
    split at h
    · next hget =>
      cases h
      exact ⟨t, ht, hget⟩
    · cases h
  · cases h

theorem Adapter.global_of_entryTable? {s : Session} {identifier : String} {t : Table}
    (h : entryTable? s identifier none = some t) :
    ∃ place, s.global identifier = .table place ∧ s.table place = t := by
  simp only [entryTable?] at h
  split at h
  · next place hglobal =>
    cases h
    exact ⟨place, hglobal, rfl⟩
  · cases h

theorem Workspace.adapter_of_loading? {w : Workspace} {id : AdapterId} {L : Loading}
    (h : w.loading? id = some L) : L.adapter = id := by
  unfold loading? at h
  split at h
  · split at h
    · cases h
      rfl
    · cases h
  · cases h

/-- What adapters hold after a history: the table that the last evaluation answered, which owns
it. -/
structure Attributed (owner : Nat → Option Loading → Prop) (shared : String → Prop)
    (sid : SessionId) (ls : List Loading) (w : Workspace) : Prop where
  session : Owned owner shared ls (w.session sid)
  modules : ∀ id, w.IsOn sid id → ∀ m, (w.adapter id).phase.module? = some m →
    ∃ L, lastLoading ls id = some L ∧ L.module = m ∧ ∀ place, m = some place → owner place (some L)

namespace Attributed

variable {owner : Nat → Option Loading → Prop} {shared : String → Prop} {sid : SessionId}
  {ls : List Loading} {w w' : Workspace} {id : AdapterId}

theorem fresh {scripts : Script → Prop} (h : w.Fresh scripts sid)
    (hmigrate : ¬ shared Session.migrateGlobal) (hlogger : ¬ shared Session.loggerGlobal) :
    Attributed (fun place L? => place < 2 ∧ L? = none) shared sid [] w where
  session := by
    obtain ⟨name, order, hname⟩ := h.created
    rw [hname]
    exact .create name order hmigrate hlogger
  modules id hid := absurd hid (h.unused id)

theorem chore (h : Attributed owner shared sid ls w) {scripts : Script → Prop}
    (hs : w.Sound scripts sid) (hc : Chore scripts sid w w') :
    Attributed owner shared sid ls w' := by
  obtain ⟨buffers, hsession, _⟩ := hs.session_chore hc
  refine ⟨hsession ▸ h.session.withBuffers buffers, fun id hid m hm => ?_⟩
  cases hc with
  | edit | empty => exact h.modules id hid m hm
  | newAdapter store =>
    obtain ⟨hlt, hsid⟩ := hid
    rw [Workspace.adapter_newAdapter] at hm hsid
    split at hm
    · cases hm
    · next hne =>
      rw [if_neg hne] at hsid
      simp only [Workspace.newAdapter, Array.size_push] at hlt
      exact h.modules id ⟨by omega, hsid⟩ m hm
  | setPhase hother hp =>
    rw [Workspace.isOn_setPhase w _ hother.1] at hid
    rw [Workspace.adapter_setPhase w hother.1] at hm
    split at hm
    · cases hp <;> cases hm
    · exact h.modules id hid m hm

theorem direct (h : Attributed owner shared sid ls w) {scripts : Script → Prop}
    (hs : w.Sound scripts sid) {ss : List Step} (hss : ∀ name ∈ stepGlobals ss, shared name) :
    Attributed owner shared sid ls (w.setInterpreter sid (w.stepped sid ss)) where
  session := by
    rw [Workspace.session_setInterpreter w hs.bounds]
    exact h.session.changes (Workspace.changes_stepped hss h.session.clean)
  modules := h.modules

/-- Loading a script adds its entry table, unless it was loaded before. -/
theorem loaded (h : Attributed owner shared sid ls w)
    (hs : w.Sound (Script.SelfContained shared) sid) (hid : w.IsOn sid id) :
    ∃ owner' : Nat → Option Loading → Prop, (∀ place L?, owner place L? → owner' place L?) ∧
      Owned owner' shared (ls ++ (w.loading? id).toList) (w.loaded id).2.2.session ∧
      ∀ m, (w.loaded id).2.1.module? = some m →
        ∃ L, lastLoading (ls ++ (w.loading? id).toList) id = some L ∧ L.module = m ∧
          ∀ place, m = some place → owner' place (some L) := by
  have hstart : Owned owner shared ls (w.readingInterpreter id).session := by
    rw [Workspace.session_readingInterpreter hid]
    exact h.session.install _
  have hstep := w.loadStep id
  rcases hl : w.loaded id with ⟨m, p, i⟩
  rw [hl] at hstep
  cases hstep with
  | kept hm =>
    have hnone : w.loading? id = none := by
      unfold Workspace.loading?
      split
      · next hp _ => simp [hp, Adapter.Phase.module?] at hm
      · rfl
    refine ⟨owner, fun _ _ ho => ho, ?_⟩
    simp only [hnone, Option.toList_none, List.append_nil]
    exact ⟨hstart, h.modules id hid⟩
  | unread =>
    have hnone : w.loading? id = none := by simp [Workspace.loading?, hl]
    refine ⟨owner, fun _ _ ho => ho, ?_⟩
    simp only [hnone, Option.toList_none, List.append_nil]
    exact ⟨hstart, h.modules id hid⟩
  | failed hp hb hr =>
    have hnone : w.loading? id = none := by simp [Workspace.loading?, hl]
    have hscript := (hs.keeps_read hid hp hb).1
    have hchanges := (Adapter.evaluated_evaluate hscript hstart.clean hr).1 _ rfl
    refine ⟨owner, fun _ _ ho => ho, ?_⟩
    simp only [hnone, Option.toList_none, List.append_nil]
    exact ⟨hstart.changes hchanges, fun m hm => by cases hm⟩
  | @evaluated b script b' m i hp hb hr =>
    let L : Loading :=
      { adapter := id
        script
        module := m
        first := (w.readingInterpreter id).session.functions.size
        limit := i.session.functions.size }
    have hL : w.loading? id = some L := by simp only [Workspace.loading?, hp, hl, hb, L]
    have hself := (hs.keeps_read hid hp hb).1
    obtain ⟨new, hnew⟩ := (Adapter.evaluated_evaluate hself hstart.clean hr).2 m rfl
    have howned := hstart.evaluated (L := L) hnew rfl rfl
    refine ⟨fun place L? => owner place L? ∨ new place ∧ L? = some L, fun _ _ => Or.inl, ?_⟩
    simp only [hL, Option.toList_some]
    refine ⟨howned, fun m' hm' => ⟨L, ?_, ?_, fun place hplace => ?_⟩⟩
    · rw [lastLoading_concat, if_pos rfl]
    · cases hm'
      rfl
    · cases hm'
      exact .inr ⟨hnew.module place hplace, rfl⟩

/-- After a reading the adapter holds what was loaded, and other adapters hold what they held. -/
theorem finish (h : Attributed owner shared sid ls w) {scripts : Script → Prop}
    (hs : w.Sound scripts sid) (hid : w.IsOn sid id) {owner' : Nat → Option Loading → Prop}
    (hmono : ∀ place L?, owner place L? → owner' place L?) {p : Adapter.Phase} {i : Interpreter}
    (howned : Owned owner' shared (ls ++ (w.loading? id).toList) i.session)
    (hmodule : ∀ m, p.module? = some m →
      ∃ L, lastLoading (ls ++ (w.loading? id).toList) id = some L ∧ L.module = m ∧
        ∀ place, m = some place → owner' place (some L)) :
    Attributed owner' shared sid (ls ++ (w.loading? id).toList) (w.finish id p i) := by
  have hsession := hs.session_finish hid p i
  refine ⟨hsession ▸ howned.install _, fun other ho m hm => ?_⟩
  have hother := (Workspace.isOn_finish hid.1 p i other).1 ho
  rw [Workspace.adapter_finish hid.1] at hm
  split at hm
  · next he => exact he ▸ hmodule m hm
  · next hne =>
    obtain ⟨L, hL, hLm, hplace⟩ := h.modules other hother m hm
    refine ⟨L, ?_, hLm, fun place hp => hmono place _ (hplace place hp)⟩
    cases hloading : w.loading? id with
    | none => simpa using hL
    | some L' =>
      rw [Option.toList_some, lastLoading_concat, if_neg, hL]
      rw [Workspace.adapter_of_loading? hloading]
      exact hne

/-- The function of an entry is in the table that is owned by the last evaluation for the adapter,
or else by the last one under the identifier. -/
theorem owns_entryFunction? {s : Session} (h : Owned owner shared ls s) {identifier entry : String}
    (hn : ¬ shared identifier) {L : Loading}
    (hL : ∀ place, L.module = some place → owner place (some L)) {f : Function}
    (hf : Adapter.entryFunction? s identifier entry L.module = some f) :
    (L.module.isSome → L.Made f) ∧
      (L.module = none → Loading.Owns (lastPublisher ls identifier) f) := by
  obtain ⟨t, ht, hget⟩ := Adapter.entryTable?_of_entryFunction? hf
  cases hm : L.module with
  | some place =>
    rw [hm] at ht
    cases ht
    refine ⟨fun _ => ?_, by rintro ⟨⟩⟩
    exact Table.Calls.get (h.calls place (some L) (hL place hm)) hget
  | none =>
    rw [hm] at ht
    obtain ⟨place, hglobal, rfl⟩ := Adapter.global_of_entryTable? ht
    refine ⟨by rintro ⟨⟩, fun _ => ?_⟩
    exact Table.Calls.get (h.calls place _ (h.published identifier hn place hglobal)) hget

end Attributed

/-- What a reading calls if it succeeds: a function of the last evaluation for its adapter, if that
answered a table, and else one of the last evaluation that was published under the identifier. -/
def Reading.CallsOwner (r : Reading) (shared : String → Prop) (ls : List Loading) : Prop :=
  ∀ rendered, r.result = .ok rendered → ¬ shared rendered.identifier →
    ∃ f L, r.called? = some f ∧ lastLoading ls r.adapter = some L ∧
      (L.Made f ↔ L.module.isSome ∨ lastPublisher ls rendered.identifier = some L) ∧
      (L.module = none → Loading.Owns (lastPublisher ls rendered.identifier) f)

namespace Attributed

variable {owner : Nat → Option Loading → Prop} {shared : String → Prop} {sid : SessionId}
  {ls : List Loading} {w w' : Workspace} {id : AdapterId}

theorem readStep (h : Attributed owner shared sid ls w)
    (hs : w.Sound (Script.SelfContained shared) sid) (hid : w.IsOn sid id) {entry : String}
    {r : Reading} (hr : ReadStep w id entry r w') :
    ∃ owner', Attributed owner' shared sid (ls ++ r.loaded?.toList) w' ∧
      r.CallsOwner shared (ls ++ r.loaded?.toList) := by
  obtain ⟨owner', hmono, howned, hmodule⟩ := h.loaded hs hid
  have hempty {i : Interpreter}
      (ho : Owned owner' shared (ls ++ (w.loading? id).toList) i.session) :
      Owned owner' shared (ls ++ (w.loading? id).toList) (w.emptied id i).session :=
    ho.withBuffers _
  have hcall {i j : Interpreter} {f : Function} (hc : (w.call id i f).2 = j)
      (ho : Owned owner' shared (ls ++ (w.loading? id).toList) i.session) :
      Owned owner' shared (ls ++ (w.loading? id).toList) j.session :=
    hc ▸ (hempty ho).changes (Workspace.changes_call (hempty ho).clean f)
  cases hr with
  | unbound =>
    refine ⟨owner, ?_, fun _ hok => by cases hok⟩
    simpa using h
  | @notLoaded e p i hl =>
    have hnone : w.loading? id = none := by simp [Workspace.loading?, hl]
    rw [hl] at howned hmodule
    refine ⟨owner', ?_, fun _ hok => by cases hok⟩
    have hfinish := h.finish hs hid hmono howned hmodule
    rwa [hnone] at hfinish
  | notFound hl =>
    rw [hl] at howned hmodule
    exact ⟨owner', h.finish hs hid hmono (hempty howned) hmodule, fun _ hok => by cases hok⟩
  | failed hl hc =>
    rw [hl] at howned hmodule
    exact ⟨owner', h.finish hs hid hmono (hcall hc howned) hmodule, fun _ hok => by cases hok⟩
  | @done identifier m p i f j _ hl hf hc =>
    have hm := Workspace.module?_of_loaded hl
    rw [hl] at howned hmodule
    have hmodule' : ∀ m, (p.render entry).module? = some m → p.module? = some m := by
      cases p <;> exact fun _ h => h
    refine ⟨owner', h.finish hs hid hmono (hcall hc howned) fun m h => hmodule m (hmodule' m h), ?_⟩
    intro rendered hok hn
    cases hok
    obtain ⟨L, hL, hLm, hplace⟩ := hmodule m hm
    subst hLm
    obtain ⟨hmade, howns⟩ := owns_entryFunction? howned hn hplace hf
    exact ⟨f, L, rfl, hL, howned.made_iff (mem_of_lastLoading hL) hmade howns, howns⟩

theorem upkeep (h : Attributed owner shared sid ls w)
    (hs : w.Sound (Script.SelfContained shared) sid)
    (hw : Upkeep (Script.SelfContained shared) sid w w') : Attributed owner shared sid ls w' :=
  hs.upkeep_induction h (fun _ _ hs h hc => h.chore hs hc) hw

end Attributed

/-! ## Runs -/

section Run

variable {shared : String → Prop} {sid : SessionId} {w₀ w : Workspace} {es : List Event}

/-- After every run of self-contained scripts the tables have owners, and every reading so far
called a function of the owner of a table. -/
theorem SessionRun.attributed
    (h : SessionRun shared (Script.SelfContained shared) sid w₀ es w)
    (hfresh : w₀.Fresh (Script.SelfContained shared) sid)
    (hmigrate : ¬ shared Session.migrateGlobal) (hlogger : ¬ shared Session.loggerGlobal) :
    (∃ owner, Attributed owner shared sid (loadings es) w) ∧
      ∀ pre r, pre ++ [.read r] <+: es → r.CallsOwner shared (loadings (pre ++ [.read r])) := by
  induction h with
  | start =>
    refine ⟨⟨_, .fresh hfresh hmigrate hlogger⟩, fun pre r hpre => ?_⟩
    simp at hpre
  | upkeep h hw ih =>
    obtain ⟨⟨owner, howner⟩, hcalls⟩ := ih
    exact ⟨⟨owner, howner.upkeep (h.sound hfresh) hw⟩, hcalls⟩
  | direct h hss ih =>
    obtain ⟨⟨owner, howner⟩, hcalls⟩ := ih
    refine ⟨⟨owner, ?_⟩, fun pre r hpre => ?_⟩
    · rw [loadings_concat]
      simpa [Event.loaded?] using howner.direct (h.sound hfresh) hss
    · rcases List.prefix_concat_iff.1 hpre with heq | hpre
      · cases (List.append_inj' heq rfl).2
      · exact hcalls pre r hpre
  | @read es w id h hid method ih =>
    obtain ⟨⟨owner, howner⟩, hcalls⟩ := ih
    have hs := h.sound hfresh
    have hstep := Workspace.readStep (hid.2 ▸ hs.bounds) method
    obtain ⟨owner', howner', hcall⟩ := howner.readStep hs hid hstep
    have hloadings : loadings (es ++ [.read (w.reading id method)]) =
        loadings es ++ (w.reading id method).loaded?.toList := loadings_concat _ _
    refine ⟨⟨owner', hloadings ▸ howner'⟩, fun pre r hpre => ?_⟩
    rcases List.prefix_concat_iff.1 hpre with heq | hpre
    · obtain ⟨rfl, hr⟩ := List.append_inj' heq rfl
      cases hr
      rwa [hloadings]
    · exact hcalls pre r hpre

/-- When a reading calls a function of its own script. It does so if the script answered its entry
table. If not, it calls a function of the last script that was published under the identifier, so
that its own script must be that one. -/
theorem SessionRun.own_entry_iff
    (h : SessionRun shared (Script.SelfContained shared) sid w₀ es w)
    (hfresh : w₀.Fresh (Script.SelfContained shared) sid)
    (hmigrate : ¬ shared Session.migrateGlobal) (hlogger : ¬ shared Session.loggerGlobal)
    {pre : List Event} {r : Reading} (hpre : pre ++ [.read r] <+: es) {rendered : Rendered}
    (hok : r.result = .ok rendered) (hid : ¬ shared rendered.identifier) :
    let ls := loadings (pre ++ [.read r])
    ∃ f L, r.called? = some f ∧ lastLoading ls r.adapter = some L ∧
      (L.Made f ↔ L.module.isSome ∨ lastPublisher ls rendered.identifier = some L) ∧
      (L.module = none → Loading.Owns (lastPublisher ls rendered.identifier) f) := by
  intro ls
  exact (h.attributed hfresh hmigrate hlogger).2 pre r hpre rendered hok hid

end Run

/-- A script whose entry drops a table, and which gives its entry table the name `1_init`. -/
def dropScript (table : String) (answer : Answer) : Script :=
  .program
    { entries := [("safeUp", .function [.call "dropTable" [.text (.valid table)] none])]
      global? := some "1_init"
      answer }

/-- A session and two stores, each with a script of the same name. What the first script answers is
open, the second one answers nothing. -/
def twoStores (answer : Answer) : Workspace :=
  (Workspace.newSession
    { files :=
        { nodes :=
            [(["a"], .directory), (["1_init.lua", "a"], .file ⟨0⟩),
              (["b"], .directory), (["1_init.lua", "b"], .file ⟨1⟩)]
          contents := #[dropScript "from_a" answer, dropScript "from_b" .nothing] }
      stores := #[{ root := "a" }, { root := "b" }] } "main").2

theorem selfContained_dropScript (table : String) {answer : Answer} (hown : answer.isOwn)
    (hglobals : answer.globals = []) :
    (dropScript table answer).SelfContained fun _ => False where
  names name hn := by
    simp [dropScript, Script.globals, Program.globals, Entry.globals, stepGlobals, Step.globals,
      itemGlobals, Term.globals, hglobals] at hn
  publishes _ _ h := h
  program p hp := by
    cases hp
    exact ⟨by simp [Entry.isOwn], hown⟩

theorem fresh_twoStores {answer : Answer} (hown : answer.isOwn) (hglobals : answer.globals = []) :
    (twoStores answer).Fresh (Script.SelfContained fun _ => False) ⟨0⟩ where
  bounds := Nat.one_pos
  created := ⟨"main", _, rfl⟩
  unused id h := absurd h.1 (Nat.not_lt_zero _)
  files file := by
    obtain ⟨_ | _ | index⟩ := file
    · exact selfContained_dropScript "from_a" hown hglobals
    · exact selfContained_dropScript "from_b" rfl rfl
    · exact ⟨nofun, nofun, nofun⟩

theorem own_entry_twoStores :
    ∃ es w r, SessionRun (fun _ => False) (Script.SelfContained fun _ => False) ⟨0⟩
        (twoStores .entries) (es ++ [.read r]) w ∧
      (twoStores .entries).Fresh (Script.SelfContained fun _ => False) ⟨0⟩ ∧
      r.adapter = ⟨0⟩ ∧ r.result = .ok ⟨"1_init", "safeUp", "DROP TABLE \x60from_a\x60;\n"⟩ ∧
      ∃ f L, r.called? = some f ∧ lastLoading (loadings (es ++ [.read r])) ⟨0⟩ = some L ∧
        L.Made f := by
  have hfresh : (twoStores .entries).Fresh (Script.SelfContained fun _ => False) ⟨0⟩ :=
    fresh_twoStores rfl rfl
  have hstart : SessionRun (fun _ => False) (Script.SelfContained fun _ => False) ⟨0⟩
      (twoStores .entries) _ _ := .start
  have hmade := (hstart.upkeep (.newAdapter ⟨0⟩)).upkeep (.newAdapter ⟨1⟩)
  have hfirst := hmade.upkeep (.bind
    (show Workspace.IsOn _ ⟨0⟩ ⟨0⟩ from ⟨by decide +kernel, by decide +kernel⟩) "1_init.lua")
  have hbound := hfirst.upkeep (.bind
    (show Workspace.IsOn _ ⟨0⟩ ⟨1⟩ from ⟨by decide +kernel, by decide +kernel⟩) "1_init.lua")
  have hread := ((hbound.read
    (show Workspace.IsOn _ ⟨0⟩ ⟨0⟩ from ⟨by decide +kernel, by decide +kernel⟩) "up").read
    (show Workspace.IsOn _ ⟨0⟩ ⟨1⟩ from ⟨by decide +kernel, by decide +kernel⟩) "up").read
    (show Workspace.IsOn _ ⟨0⟩ ⟨0⟩ from ⟨by decide +kernel, by decide +kernel⟩) "up"
  obtain ⟨f, L, hf, hL, hiff, _⟩ :=
    hread.own_entry_iff hfresh not_false not_false (List.prefix_refl _)
      (show _ = Except.ok (Rendered.mk "1_init" "safeUp" "DROP TABLE \x60from_a\x60;\n") from rfl)
      not_false
  -- the first script answered the third table, after the modules
  obtain rfl : L = ⟨⟨0⟩, dropScript "from_a" .entries, some 2, 0, 1⟩ := Option.some.inj hL.symm
  exact ⟨_, _, _, hread, hfresh, rfl, rfl, f, _, hf, hL, hiff.2 (.inl rfl)⟩

/-- The entry function of another script is called under the same identifier. -/
theorem foreign_entry_twoStores :
    ∃ es w r, SessionRun (fun _ => False) (Script.SelfContained fun _ => False) ⟨0⟩
        (twoStores .nothing) (es ++ [.read r]) w ∧
      (twoStores .nothing).Fresh (Script.SelfContained fun _ => False) ⟨0⟩ ∧
      r.adapter = ⟨0⟩ ∧ r.result = .ok ⟨"1_init", "safeUp", "DROP TABLE \x60from_b\x60;\n"⟩ ∧
      ∃ f L L', r.called? = some f ∧
        lastLoading (loadings (es ++ [.read r])) ⟨0⟩ = some L ∧ ¬ L.Made f ∧
        lastLoading (loadings (es ++ [.read r])) ⟨1⟩ = some L' ∧ L'.Made f := by
  have hstart : SessionRun (fun _ => False) (Script.SelfContained fun _ => False) ⟨0⟩
      (twoStores .nothing) _ _ := .start
  have hmade := (hstart.upkeep (.newAdapter ⟨0⟩)).upkeep (.newAdapter ⟨1⟩)
  have hfirst := hmade.upkeep (.bind
    (show Workspace.IsOn _ ⟨0⟩ ⟨0⟩ from ⟨by decide +kernel, by decide +kernel⟩) "1_init.lua")
  have hbound := hfirst.upkeep (.bind
    (show Workspace.IsOn _ ⟨0⟩ ⟨1⟩ from ⟨by decide +kernel, by decide +kernel⟩) "1_init.lua")
  have hread := ((hbound.read
    (show Workspace.IsOn _ ⟨0⟩ ⟨0⟩ from ⟨by decide +kernel, by decide +kernel⟩) "up").read
    (show Workspace.IsOn _ ⟨0⟩ ⟨1⟩ from ⟨by decide +kernel, by decide +kernel⟩) "up").read
    (show Workspace.IsOn _ ⟨0⟩ ⟨0⟩ from ⟨by decide +kernel, by decide +kernel⟩) "up"
  refine ⟨_, _, _, hread, fresh_twoStores rfl rfl, rfl, rfl, .script 1,
    ⟨⟨0⟩, dropScript "from_a" .nothing, none, 0, 1⟩,
    ⟨⟨1⟩, dropScript "from_b" .nothing, none, 1, 2⟩, rfl, rfl, ?_, rfl, ⟨1, rfl, by decide⟩⟩
  rintro ⟨place, hplace, _, hlt⟩
  cases hplace
  exact absurd hlt (by decide)

end SchemaMigration
