import SchemaMigration.Proofs.Migration.AdapterRun

/-!
# Scripts are evaluated once

From the binding of a script on, its file is read until that succeeds, then the text is evaluated
until that succeeds, and from then on entries are called and nothing else.

## Main definitions

* `Adapter.InOrder` — the order of what is done with a script.
* `Adapter.Loads` — the phase that this leads to.
* `Workspace.Accessed` — that a trace tells what a reading does.
* `AdapterRun.evaluates_once` — the order is kept throughout a run, and by the next reading.
-/

namespace SchemaMigration

namespace Adapter

/-- Readings of the file that failed. -/
def unreadable (es : List MigrationError) : List Access := es.map fun e => .file (.error e)

/-- Evaluations that failed. -/
def failures (s : Script) (faults : List ScriptFault) : List Access :=
  faults.map fun fault => .evaluation s (.error fault)

/-- The order of what is done with a script that is bound. -/
inductive InOrder : List Access → Prop
  | unread (es : List MigrationError) : InOrder (unreadable es)
  | failing (es : List MigrationError) (s : Script) (faults : List ScriptFault) :
      InOrder (unreadable es ++ .file (.ok s) :: failures s faults)
  | evaluated (es : List MigrationError) (s : Script) (faults : List ScriptFault) (m : Module)
      (fs : List Function) :
      InOrder (unreadable es ++ .file (.ok s) :: (failures s faults ++
        .evaluation s (.ok m) :: calls fs))

/-- The phase of an adapter, after so much was done with its script. -/
inductive Loads : List Access → Phase → Prop
  | unbound {p : Phase} (hp : p.binding? = none) : Loads [] p
  | unread {b : Binding} (es : List MigrationError) (hb : b.script? = none) :
      Loads (unreadable es) (.bound b)
  | failing {b : Binding} (es : List MigrationError) {s : Script} (faults : List ScriptFault)
      (hb : b.script? = some s) :
      Loads (unreadable es ++ .file (.ok s) :: failures s faults) (.bound b)
  | evaluated {p : Phase} (es : List MigrationError) (s : Script) (faults : List ScriptFault)
      {m : Module} (fs : List Function) (hm : p.module? = some m) :
      Loads (unreadable es ++ .file (.ok s) :: (failures s faults ++
        .evaluation s (.ok m) :: calls fs)) p

/-! ## One reading -/

/-- What loading does is what it notes. -/
structure LoadNoted (t : FileTree) (p : Phase) (i : Interpreter) : Prop where
  files : (∀ r, .file r ∉ (loading t p i).2.accesses) → ∀ t', loading t' p i = loading t p i
  evaluation : ∀ s r, .evaluation s r ∈ (loading t p i).2.accesses →
    Eval.runIn i (evaluate s) = (r, (loading t p i).2.interpreter)
  kept : (∀ s r, .evaluation s r ∉ (loading t p i).2.accesses) →
    (loading t p i).2.interpreter = i

theorem loadNoted_of_script? {b : Binding} {s : Script} (hb : b.script? = some s) (t : FileTree)
    (i : Interpreter) : LoadNoted t (.bound b) i where
  files _ t' := by rw [loading_of_script? hb, loading_of_script? hb]
  evaluation s' r hr := by
    rw [loading_of_script? hb] at hr ⊢
    rcases hrun : Eval.runIn i (evaluate s) with ⟨fault | m, j⟩
    · rw [hrun] at hr
      obtain ⟨rfl, rfl⟩ : s' = s ∧ r = .error fault := by simpa using hr
      exact hrun
    · rw [hrun] at hr
      obtain ⟨rfl, rfl⟩ : s' = s ∧ r = .ok m := by simpa using hr
      exact hrun
  kept hnone := by
    rw [loading_of_script? hb] at hnone
    rcases hrun : Eval.runIn i (evaluate s) with ⟨fault | m, j⟩
    · rw [hrun] at hnone
      exact absurd (List.mem_singleton.2 rfl) (hnone s (.error fault))
    · rw [hrun] at hnone
      exact absurd (List.mem_singleton.2 rfl) (hnone s (.ok m))

theorem loadNoted (t : FileTree) (p : Phase) (i : Interpreter) : LoadNoted t p i := by
  cases p with
  | unbound | closed =>
    exact ⟨fun _ _ => rfl, fun _ _ h => absurd h List.not_mem_nil, fun _ => rfl⟩
  | loaded b m | rendered b m =>
    refine ⟨fun _ t' => ?_, fun s r h => ?_, fun _ => ?_⟩
    · rw [loading_of_module? rfl, loading_of_module? rfl]
    · rw [loading_of_module? rfl] at h
      exact absurd h List.not_mem_nil
    · rw [loading_of_module? rfl]
  | bound b =>
    cases hb : b.script? with
    | some s => exact loadNoted_of_script? hb t i
    | none =>
      cases hr : b.handle.read t with
      | error e =>
        have hload := loading_of_read_eq_error hb hr i
        refine ⟨fun h => ?_, fun s r h => ?_, fun _ => by rw [hload]⟩
        · rw [hload] at h
          exact absurd (List.mem_singleton.2 rfl) (h (.error e))
        · simp [hload] at h
      | ok s =>
        have hload := loading_of_read_eq_ok hb hr i
        have hkept : ({ b with script? := some s } : Binding).script? = some s := rfl
        obtain ⟨-, hevaluation, hnone⟩ := loadNoted_of_script? hkept t i
        refine ⟨fun h => ?_, fun s' r h => ?_, fun h => ?_⟩
        · rw [hload] at h
          exact absurd List.mem_cons_self (h (.ok s))
        · rw [hload] at h ⊢
          exact hevaluation s' r (by simpa using h)
        · rw [hload] at h ⊢
          exact hnone fun s' r hr => h s' r (List.mem_cons_of_mem _ hr)

namespace Loads

variable {as : List Access} {p : Phase} {m : Module}

theorem inOrder (h : Loads as p) : InOrder as := by
  cases h with
  | unbound => exact .unread []
  | unread es => exact .unread es
  | failing es faults => exact .failing es _ faults
  | evaluated es s faults fs => exact .evaluated es s faults _ fs

theorem entries (h : Loads as p) (hm : p.module? = some m) (fs : List Function) :
    Loads (as ++ calls fs) p := by
  cases h with
  | unbound hp => cases p <;> cases hm <;> cases hp
  | unread | failing => cases hm
  | evaluated es s faults gs hm =>
    have hmore := Loads.evaluated es s faults (gs ++ fs) hm
    simpa [calls] using hmore

theorem render (h : Loads as p) (entry : String) : Loads as (p.render entry) := by
  cases h with
  | unbound hp => exact .unbound (by rw [Phase.binding?_render, hp])
  | unread es hb => exact .unread es hb
  | failing es faults hb => exact .failing es faults hb
  | evaluated es s faults fs hm =>
    refine .evaluated es s faults fs (hm ▸ ?_)
    cases p <;> rfl

/-- Evaluating the text goes on where it failed before. -/
theorem evaluation (es : List MigrationError) {s : Script} (faults : List ScriptFault)
    {b : Binding} (hb : b.script? = some s) (t : FileTree) (i : Interpreter) :
    Loads (unreadable es ++ .file (.ok s) ::
        (failures s faults ++ (loading t (.bound b) i).2.accesses))
      (load t (.bound b) i).2.1 := by
  rw [load, loading_of_script? hb]
  rcases Eval.runIn i (evaluate s) with ⟨fault | m, j⟩
  · have hmore := Loads.failing es (faults ++ [fault]) hb
    simpa [failures] using hmore
  · exact .evaluated es s faults [] rfl

/-- Loading goes on where it stopped before. -/
theorem load (h : Loads as p) (t : FileTree) (i : Interpreter) :
    Loads (as ++ (loading t p i).2.accesses) (Adapter.load t p i).2.1 := by
  cases h with
  | unbound hp =>
    rw [load_of_binding?_eq_none hp, loading_of_binding?_eq_none hp]
    exact .unbound hp
  | @unread b es hb =>
    cases hr : b.handle.read t with
    | error e =>
      have hmore := Loads.unread (es ++ [e]) hb
      rw [Adapter.load, loading_of_read_eq_error hb hr]
      simpa [unreadable] using hmore
    | ok s =>
      rw [Adapter.load, loading_of_read_eq_ok hb hr]
      exact evaluation es (s := s) [] rfl t i
  | @failing b es s faults hb =>
    simpa using evaluation es faults hb t i
  | evaluated es s faults fs hm =>
    rw [load_of_module? hm, loading_of_module? hm]
    simpa using Loads.evaluated es s faults fs hm

/-- A text that was read is kept as long as its evaluation fails. -/
theorem exists_bound (h : Loads as p) {s : Script} (hs : .file (.ok s) ∈ as)
    (hm : ∀ m, .evaluation s (.ok m) ∉ as) : ∃ b, p = .bound b ∧ b.script? = some s := by
  cases h with
  | unbound => cases hs
  | unread => simp [unreadable] at hs
  | failing es faults hb =>
    obtain rfl : s = _ := by simpa [unreadable, failures] using hs
    exact ⟨_, rfl, hb⟩
  | @evaluated _ es s' faults m fs =>
    obtain rfl : s = s' := by simpa [unreadable, failures, calls] using hs
    exact absurd (by simp) (hm m)

/-- What a script answered is kept. -/
theorem module?_eq (h : Loads as p) {s : Script} (hm : .evaluation s (.ok m) ∈ as) :
    p.module? = some m := by
  cases h with
  | unbound => cases hm
  | unread => simp [unreadable] at hm
  | failing => simp [unreadable, failures] at hm
  | evaluated es s' faults fs hmodule =>
    obtain ⟨-, rfl⟩ : s = s' ∧ m = _ := by simpa [unreadable, failures, calls] using hm
    exact hmodule

end Loads

/-! ## How often -/

/-- Holds if a file was read. -/
def Access.hasRead : Access → Bool
  | .file (.ok _) => true
  | _ => false

/-- Holds if a script was evaluated. -/
def Access.hasEvaluated : Access → Bool
  | .evaluation _ (.ok _) => true
  | _ => false

namespace InOrder

variable {as : List Access}

theorem countP_hasRead_le (h : InOrder as) : as.countP Access.hasRead ≤ 1 := by
  cases h <;>
    simp [unreadable, failures, calls, Access.hasRead, List.countP_cons, List.countP_map,
      Function.comp_def]

theorem countP_hasEvaluated_le (h : InOrder as) : as.countP Access.hasEvaluated ≤ 1 := by
  cases h <;>
    simp [unreadable, failures, calls, Access.hasEvaluated, List.countP_cons, List.countP_map,
      Function.comp_def]

end InOrder

end Adapter

/-! ## Readings of a workspace -/

/-- What a reading does is what its trace says. -/
structure Workspace.Accessed (w : Workspace) (id : AdapterId) (method : String)
    (as : List Adapter.Access) : Prop where
  /-- Without a reading of the file it does not matter what is in the files. -/
  files : (∀ r, .file r ∉ as) → ∀ files,
    Work.runIn { w with files } (Work.read id method) =
      ((Work.runIn w (Work.read id method)).1,
        { (Work.runIn w (Work.read id method)).2 with files })
  evaluation : ∀ s r, .evaluation s r ∈ as →
    Eval.runIn (w.readingInterpreter id) (Adapter.evaluate s) = (r, (w.loaded id).2.2)
  /-- Without an evaluation loading does nothing in the session. -/
  kept : (∀ s r, .evaluation s r ∉ as) → (w.loaded id).2.2 = w.readingInterpreter id

namespace Workspace

variable {w : Workspace} {id : AdapterId}

/-- A reading loads the script, and calls an entry if that succeeds. -/
theorem exists_accesses (w : Workspace) (id : AdapterId) (method : String) :
    ∃ fs, w.accesses id method =
        (Adapter.loading w.files (w.adapter id).phase (w.readingInterpreter id)).2.accesses ++
          Adapter.calls fs ∧
      (fs ≠ [] → ∃ m, (w.loaded id).2.1.module? = some m) := by
  cases hid : (w.adapter id).phase.identifier? with
  | none =>
    have hp : (w.adapter id).phase.binding? = none := by
      simpa [Adapter.Phase.identifier?] using hid
    refine ⟨[], ?_, fun h => absurd rfl h⟩
    rw [accesses, Adapter.state, Adapter.Progress.read_of_identifier?_eq_none hid,
      Adapter.loading_of_binding?_eq_none hp]
    rfl
  | some identifier =>
    rcases hr : Adapter.render w.files (w.adapter id).output identifier
      (EntryName.ofMethod method) (w.adapter id).phase
      (w.interpreter (w.adapter id).session) with ⟨result, p, i⟩
    have hreading : { w.interpreter (w.adapter id).session with
        session := (w.session (w.adapter id).session).install (w.adapter id).output } =
          w.readingInterpreter id := rfl
    obtain ⟨fs, hread, hfs⟩ := Adapter.Progress.exists_read hid hreading hr
    refine ⟨fs, ?_, fun hne => ?_⟩
    · rw [accesses, Adapter.state, hread]
    · obtain ⟨m, hm⟩ := hfs hne
      rcases hl : w.loaded id with ⟨e | m', p, i⟩
      · cases hm.symm.trans (congrArg Prod.fst hl)
      · exact ⟨m', module?_of_loaded hl⟩

/-- A reading goes on with a script where earlier ones stopped. -/
theorem loads_accesses {as : List Adapter.Access} (h : Adapter.Loads as (w.adapter id).phase)
    (method : String) : Adapter.Loads (as ++ w.accesses id method) (w.loaded id).2.1 := by
  obtain ⟨fs, has, hfs⟩ := w.exists_accesses id method
  have hload : Adapter.Loads (as ++ (Adapter.loading w.files (w.adapter id).phase
      (w.readingInterpreter id)).2.accesses) (w.loaded id).2.1 :=
    h.load w.files (w.readingInterpreter id)
  rw [has, ← List.append_assoc]
  cases fs with
  | nil => simpa [Adapter.calls] using hload
  | cons f fs =>
    obtain ⟨m, hm⟩ := hfs (List.cons_ne_nil f fs)
    exact hload.entries hm (f :: fs)

end Workspace

/-- A run keeps the order of what is done with a script, from its binding on. -/
theorem AdapterRun.loads {w : Workspace} {id : AdapterId} {ts : List Adapter.Turn}
    (h : AdapterRun id ts w) :
    Adapter.Loads ((Adapter.sinceBind id ts).flatMap Adapter.Turn.accesses)
      (w.adapter id).phase := by
  refine h.preserves (motive := fun ts a =>
    Adapter.Loads ((Adapter.sinceBind id ts).flatMap Adapter.Turn.accesses) a.phase) ?_ ?_
  · intro a hp
    rw [hp]
    exact .unbound rfl
  · intro w ts t p _ ih ht
    cases ht with
    | @bound name =>
      have hscript : Adapter.Turn.attaches? id ⟨.bind name, .ok (.adapter id), []⟩ =
          some (some name) := if_pos rfl
      rw [Adapter.sinceBind_concat_of_some hscript]
      exact .unread [] rfl
    | another _ hne =>
      rw [Adapter.sinceBind_concat_of_none (by simp [Adapter.Turn.attaches?, hne])]
      simpa using ih
    | notBound =>
      rw [Adapter.sinceBind_concat_of_none rfl]
      simpa using ih
    | @rendered method _ _ _ _ _ hl =>
      rw [Adapter.sinceBind_concat_of_none rfl]
      have hread := Workspace.loads_accesses ih method
      rw [hl] at hread
      simpa using hread.render _
    | @notRendered method =>
      rw [Adapter.sinceBind_concat_of_none rfl]
      simpa using Workspace.loads_accesses ih method
    | reset =>
      rw [Adapter.sinceBind_concat_of_some rfl]
      exact .unbound (by cases (w.adapter id).phase <;> rfl)
    | closed =>
      rw [Adapter.sinceBind_concat_of_some rfl]
      exact .unbound rfl

namespace Workspace

variable {w : Workspace} {id : AdapterId}

theorem runIn_read_files (files : FileTree)
    (hl : ({ w with files } : Workspace).loaded id = w.loaded id) (method : String) :
    Work.runIn { w with files } (Work.read id method) =
      ((Work.runIn w (Work.read id method)).1,
        { (Work.runIn w (Work.read id method)).2 with files }) := by
  cases hid : (w.adapter id).phase.identifier? with
  | none =>
    have hread := @runIn_read_of_unbound { w with files } id hid method
    rw [hread, runIn_read_of_unbound hid]
  | some identifier =>
    have hrender := ({ w with files } : Workspace).render_eq id identifier
      (EntryName.ofMethod method)
    rw [hl] at hrender
    have hsame := hrender.trans (w.render_eq id identifier (EntryName.ofMethod method)).symm
    rcases hr : Adapter.render w.files (w.adapter id).output identifier
      (EntryName.ofMethod method) (w.adapter id).phase
      (w.interpreter (w.adapter id).session) with ⟨result, p, i⟩
    have hread := @runIn_read { w with files } id identifier method _ _ _ hid (hsame.trans hr)
    rw [hread, runIn_read hid hr]
    rfl

/-- What a reading notes is what it does. -/
theorem accessed (w : Workspace) (id : AdapterId) (method : String) :
    w.Accessed id method (w.accesses id method) := by
  obtain ⟨fs, has, -⟩ := w.exists_accesses id method
  have hnoted := Adapter.loadNoted w.files (w.adapter id).phase (w.readingInterpreter id)
  rw [has]
  refine ⟨fun hnone files => runIn_read_files files ?_ method, fun s r hr => ?_, fun hnone => ?_⟩
  · have hload := hnoted.files (fun r hr => hnone r (List.mem_append_left _ hr)) files
    exact congrArg (fun l => (l.1.map fun _ => l.2.state.module, l.2.state.phase, l.2.interpreter))
      hload
  · exact hnoted.evaluation s r (by simpa [Adapter.calls] using hr)
  · exact hnoted.kept fun s r hr => hnone s r (List.mem_append_left _ hr)

end Workspace

/-- What is done with a script from its binding on, and what the next reading does with it. -/
structure Workspace.EvaluatesOnce (w : Workspace) (id : AdapterId) (as : List Adapter.Access) :
    Prop where
  inOrder : Adapter.InOrder as
  reads : as.countP Adapter.Access.hasRead ≤ 1
  evaluations : as.countP Adapter.Access.hasEvaluated ≤ 1
  /-- After a failed evaluation the next reading evaluates the text again, and reads no file. -/
  retries : ∀ s, .file (.ok s) ∈ as → (∀ m, .evaluation s (.ok m) ∉ as) → ∀ method,
    ∃ r fs, w.accesses id method = .evaluation s r :: Adapter.calls fs
  /-- After a successful one it evaluates nothing. -/
  keeps : ∀ s m, .evaluation s (.ok m) ∈ as → ∀ method,
    ∃ fs, w.accesses id method = Adapter.calls fs
  accessed : ∀ method, w.Accessed id method (w.accesses id method)

/-- From its binding on, the file of a script is read once and the script is evaluated once, however
many readings there are and whatever they come to. -/
theorem AdapterRun.evaluates_once {w : Workspace} {id : AdapterId} {ts : List Adapter.Turn}
    (h : AdapterRun id ts w) :
    w.EvaluatesOnce id ((Adapter.sinceBind id ts).flatMap Adapter.Turn.accesses) where
  inOrder := h.loads.inOrder
  reads := h.loads.inOrder.countP_hasRead_le
  evaluations := h.loads.inOrder.countP_hasEvaluated_le
  retries s hs hm method := by
    obtain ⟨b, hp, hb⟩ := h.loads.exists_bound hs hm
    obtain ⟨fs, has, -⟩ := w.exists_accesses id method
    rw [has, hp, Adapter.loading_of_script? hb]
    rcases Eval.runIn (w.readingInterpreter id) (Adapter.evaluate s) with ⟨fault | m, j⟩
    · exact ⟨.error fault, fs, rfl⟩
    · exact ⟨.ok m, fs, rfl⟩
  keeps s m hm method := by
    obtain ⟨fs, has, -⟩ := w.exists_accesses id method
    rw [has, Adapter.loading_of_module? (h.loads.module?_eq hm)]
    exact ⟨fs, rfl⟩
  accessed := w.accessed id

theorem evaluates_once_oneAdapter :
    ∃ ts w e m f, AdapterRun ⟨0⟩ ts w ∧
      (Adapter.sinceBind ⟨0⟩ ts).flatMap Adapter.Turn.accesses =
        [.file (.ok retriedScript), .evaluation retriedScript (.error e),
          .evaluation retriedScript (.ok m), .entry f] ∧
      w.EvaluatesOnce ⟨0⟩ ((Adapter.sinceBind ⟨0⟩ ts).flatMap Adapter.Turn.accesses) := by
  -- the evaluation fails, an entry is missing, and an entry is rendered
  have hbound := AdapterRun.start_oneAdapter.act (.bind "1_init.lua")
  have hread := ((hbound.act (.read "up")).act (.read "down")).act (.read "up")
  exact ⟨_, _, .operation, some 4, .script 1, hread, rfl, hread.evaluates_once⟩

end SchemaMigration
