import SchemaMigration.Proofs.Migration.Soundness

/-!
# Output goes where it belongs

Statements go to the buffer that one global name holds, and reading an adapter changes what it
holds. As long as scripts do not touch that name, the session's own buffer has the statements that
were made outside readings and no others, and a reading answers the statements that calling its
entry made. What is made while a script is evaluated goes to neither.

## Main definitions

* `Session.Issues` — making statements, seen from outside.
* `Script.AvoidsBuffer` — scripts that write to buffers by making statements only.
* `SessionRun.output_separated` — where the statements of a run are in the end.
-/

namespace SchemaMigration

open Session (bufferGlobal)

/-- What statements leave in an empty buffer. -/
def BufferStore.statementsText (sqls : List String) : String :=
  String.join (sqls.map statementText)

open BufferStore (statementsText)

@[simp] theorem BufferStore.statementsText_nil : statementsText [] = "" := rfl

theorem BufferStore.statementsText_append (sqls others : List String) :
    statementsText (sqls ++ others) = statementsText sqls ++ statementsText others := by
  simp [statementsText, String.join_append]

/-! ## Making statements -/

/-- The reach of scripts that write to buffers by making statements only. -/
def Reach.statementsOnly : Reach where
  value _ v := ∀ id, v ≠ .buffer id
  name n := n ≠ bufferGlobal
  value_data _ _ _ h := h
  value_mono _ h := h

/-- Holds if a script leaves the global name alone that holds the buffer. -/
def Script.AvoidsBuffer (s : Script) : Prop :=
  bufferGlobal ∉ s.globals ∧ s.publishes? ≠ some bufferGlobal

theorem Script.AvoidsBuffer.within {s : Script} (h : s.AvoidsBuffer) :
    s.Within .statementsOnly :=
  ⟨fun _ hn he => h.1 (he ▸ hn), fun _ hn he => h.2 (he ▸ hn)⟩

/-- A session made these statements, which went to the registered buffer. -/
structure Session.Issues (s : Session) (sqls : List String) (s' : Session) : Prop where
  ownBuffer : s'.ownBuffer = s.ownBuffer
  registered : s'.registered? = s.registered?
  issued : s'.issued = s.issued ++ sqls
  has : ∀ id, s'.buffers.Has id ↔ s.buffers.Has id
  text : ∀ id, s.buffers.Has id → s'.buffers.text id =
    s.buffers.text id ++ if s.registered? = some id then statementsText sqls else ""

namespace Session.Issues

variable {s s' s'' : Session} {sqls sqls' : List String}

theorem refl (s : Session) : s.Issues [] s where
  ownBuffer := rfl
  registered := rfl
  issued := (List.append_nil _).symm
  has _ := Iff.rfl
  text _ _ := by simp

theorem trans (h : s.Issues sqls s') (h' : s'.Issues sqls' s'') :
    s.Issues (sqls ++ sqls') s'' where
  ownBuffer := h'.ownBuffer.trans h.ownBuffer
  registered := h'.registered.trans h.registered
  issued := by rw [h'.issued, h.issued, List.append_assoc]
  has id := (h'.has id).trans (h.has id)
  text id hid := by
    rw [h'.text id ((h.has id).2 hid), h.text id hid, h.registered,
      BufferStore.statementsText_append]
    split <;> simp [String.append_assoc]

theorem issuedSince (h : s.Issues sqls s') : s'.issuedSince s = sqls := by
  simp [Session.issuedSince, h.issued]

/-- One statement. -/
theorem issue {id : BufferId} (sql : String) (hr : s.registered? = some id) :
    s.Issues [sql] (s.issue id sql) where
  ownBuffer := rfl
  registered := rfl
  issued := rfl
  has _ := BufferStore.has_modify
  text other hother := by
    have htext : (s.issue id sql).buffers.text other =
        (s.buffers.writeStatement id sql).text other := rfl
    rw [htext, hr, BufferStore.writeStatement]
    by_cases ho : id = other
    · subst ho
      simp [BufferStore.text_write_self hother, statementsText]
    · simp [BufferStore.text_write_of_ne _ ho, ho]

/-- Within its reach a script only makes statements. -/
theorem of_change (h : s.Change .statementsOnly s') : ∃ sqls, s.Issues sqls s' := by
  cases h with
  | issue sql hr => exact ⟨[sql], issue sql hr⟩
  | write hid => exact absurd rfl (hid _)
  | reset hid => exact absurd rfl (hid _)
  | @setGlobal name v hn =>
    have hr : (s.setGlobal name v).registered? = s.registered? := by
      simp [Session.registered?, show ¬ name = bufferGlobal from hn]
    exact ⟨[], { refl s with registered := hr }⟩
  | _ => exact ⟨[], { refl s with }⟩

theorem of_changes (h : s.Changes .statementsOnly s') : ∃ sqls, s.Issues sqls s' := by
  induction h with
  | refl => exact ⟨[], refl s⟩
  | tail _ hc ih =>
    obtain ⟨sqls, hs⟩ := ih
    obtain ⟨sqls', hs'⟩ := of_change hc
    exact ⟨sqls ++ sqls', hs.trans hs'⟩

end Session.Issues

/-- Installing a buffer puts it under a name that scripts do not use. -/
theorem Session.clean_install {s : Session} (h : s.Clean .statementsOnly) (id : BufferId) :
    (s.install id).Clean .statementsOnly := by
  refine { h with globals := fun name hn => ?_ }
  rw [install, global_setGlobal, if_neg fun he => hn he.2.symm]
  exact h.globals name hn

/-! ## Separation -/

/-- The statements that an event made outside readings. -/
def Event.outside : Event → List String
  | .direct issued => issued
  | .read _ => []

/-- The statements that an event made. -/
def Event.issued : Event → List String
  | .direct issued => issued
  | .read r => r.loading ++ r.calling

/-- Where the statements of a history are. -/
structure Separated (sid : SessionId) (es : List Event) (w : Workspace) : Prop where
  clean : (w.session sid).Clean .statementsOnly
  registered : (w.session sid).registered? = some (w.session sid).ownBuffer
  output : (w.session sid).output = statementsText (es.flatMap Event.outside)
  issued : (w.session sid).issued = es.flatMap Event.issued
  sql : ∀ r, .read r ∈ es → ∀ rendered, r.result = .ok rendered →
    rendered.sql = statementsText r.calling

namespace Separated

variable {sid : SessionId} {es : List Event} {w w' : Workspace} {id : AdapterId}

theorem fresh {scripts : Script → Prop} (h : w.Fresh scripts sid) : Separated sid [] w := by
  obtain ⟨name, order, hname⟩ := h.created
  refine {
    clean := ?_
    registered := by rw [hname]; rfl
    output := by rw [hname]; rfl
    issued := by rw [hname]; rfl
    sql := fun r hr => by cases hr }
  rw [hname]
  refine Session.clean_create name order (fun other ho => ?_) fun _ _ _ => by simp
  rw [Session.global_create, if_neg ho]
  repeat' split
  all_goals exact fun _ => by simp

theorem chore (h : Separated sid es w) (hs : w.Sound Script.AvoidsBuffer sid)
    (hc : Chore Script.AvoidsBuffer sid w w') : Separated sid es w' := by
  obtain ⟨buffers, hsession, htext⟩ := hs.session_chore hc
  refine {
    clean := ?_
    registered := ?_
    output := ?_
    issued := ?_
    sql := h.sql }
  all_goals rw [hsession]
  · exact { h.clean with }
  · exact h.registered
  · exact htext.trans h.output
  · exact h.issued

theorem upkeep (h : Separated sid es w) (hs : w.Sound Script.AvoidsBuffer sid)
    (hw : Upkeep Script.AvoidsBuffer sid w w') : Separated sid es w' :=
  hs.upkeep_induction h (fun _ _ hs h hc => h.chore hs hc) hw

/-- Statements made in the session itself go to its own buffer. -/
theorem direct (h : Separated sid es w) (hs : w.Sound Script.AvoidsBuffer sid) {ss : List Step}
    (hss : ∀ name ∈ stepGlobals ss, name ≠ bufferGlobal) :
    Separated sid (es ++ [.direct ((w.stepped sid ss).session.issuedSince (w.session sid))])
      (w.setInterpreter sid (w.stepped sid ss)) := by
  have hchanges := Workspace.changes_stepped (R := .statementsOnly) hss h.clean
  obtain ⟨sqls, hi⟩ := Session.Issues.of_changes hchanges
  have hsession := Workspace.session_setInterpreter w hs.bounds (w.stepped sid ss)
  rw [hi.issuedSince]
  refine {
    clean := ?_
    registered := ?_
    output := ?_
    issued := ?_
    sql := fun r hr => h.sql r (by simpa using hr) }
  all_goals rw [hsession]
  · exact hchanges.clean h.clean
  · rw [hi.registered, hi.ownBuffer, h.registered]
  · have hout : (w.stepped sid ss).session.output =
        (w.session sid).output ++ statementsText sqls := by
      rw [Session.output, hi.ownBuffer, hi.text _ hs.own, if_pos h.registered]
      rfl
    simp [hout, h.output, Event.outside, BufferStore.statementsText_append]
  · simp [hi.issued, h.issued, Event.issued]

/-- After a reading the session has what it had, and the statements that the reading made are
traced. -/
theorem finish (h : Separated sid es w) (hs : w.Sound Script.AvoidsBuffer sid)
    (hid : w.IsOn sid id) {r : Reading} {p : Adapter.Phase} {i : Interpreter} {b : BufferId}
    (hclean : i.session.Clean .statementsOnly) (hregistered : i.session.registered? = some b)
    (hown : i.session.ownBuffer = (w.session sid).ownBuffer)
    (htext : i.session.buffers.text (w.session sid).ownBuffer = (w.session sid).output)
    (hissued : i.session.issued = (w.session sid).issued ++ (r.loading ++ r.calling))
    (hsql : ∀ rendered, r.result = .ok rendered → rendered.sql = statementsText r.calling) :
    Separated sid (es ++ [.read r]) (w.finish id p i) := by
  have hsession := hs.session_finish hid p i
  refine {
    clean := ?_
    registered := ?_
    output := ?_
    issued := ?_
    sql := fun r' hr => ?_ }
  · rw [hsession]
    exact Session.clean_install hclean _
  · rw [hsession]
    exact (Session.registered?_install _ _).trans
      (if_pos (Session.canSet_of_registered? hregistered))
  · rw [hsession]
    have hout : (i.session.install i.session.ownBuffer).output = (w.session sid).output := by
      rw [← htext, ← hown]
      rfl
    simp [hout, h.output, Event.outside]
  · rw [hsession]
    have hi : (i.session.install i.session.ownBuffer).issued = i.session.issued := rfl
    simp [hi, hissued, h.issued, Event.issued]
  · rcases List.mem_append.1 hr with hr | hr
    · exact h.sql r' hr
    · cases List.mem_singleton.1 hr
      exact hsql

/-- Evaluating a script for an adapter makes statements, none of them in the session's own
buffer. -/
theorem loaded (h : Separated sid es w) (hs : w.Sound Script.AvoidsBuffer sid)
    (hid : w.IsOn sid id) :
    let s := (w.loaded id).2.2.session
    s.Clean .statementsOnly ∧ s.registered? = some (w.adapter id).output ∧
      s.buffers.text (w.session sid).ownBuffer = (w.session sid).output ∧
      s.issued = (w.session sid).issued ++ s.issuedSince (w.readingInterpreter id).session := by
  intro s
  obtain ⟨_, hne⟩ := hs.output id hid
  have hstart := Workspace.session_readingInterpreter hid
  have hregistered : (w.readingInterpreter id).session.registered? =
      some (w.adapter id).output := by
    rw [hstart, Session.registered?_install,
      if_pos (Session.canSet_of_registered? h.registered)]
  have hclean : (w.readingInterpreter id).session.Clean .statementsOnly :=
    hstart ▸ Session.clean_install h.clean _
  have hchanges := hs.changes_loaded hid (fun _ => Script.AvoidsBuffer.within) hclean
  obtain ⟨sqls, hi⟩ := Session.Issues.of_changes hchanges
  refine ⟨hchanges.clean hclean, hi.registered.trans hregistered, ?_, ?_⟩
  · have htext := hi.text (w.session sid).ownBuffer (hstart ▸ hs.own)
    rw [hregistered, if_neg (by simpa using hne), String.append_empty] at htext
    rw [htext, hstart]
    rfl
  · rw [hi.issuedSince, hi.issued, hstart]
    rfl

/-- Calling an entry function makes statements, which are then what the adapter's buffer holds. -/
theorem call (hs : w.Sound Script.AvoidsBuffer sid) (hid : w.IsOn sid id) {i : Interpreter}
    (hsame : (w.session sid).SameBuffers i.session) (hclean : i.session.Clean .statementsOnly)
    (hregistered : i.session.registered? = some (w.adapter id).output) (f : Function) :
    let s := (w.call id i f).2.session
    s.Clean .statementsOnly ∧
      s.registered? = some (w.adapter id).output ∧
      s.buffers.text (w.session sid).ownBuffer =
        i.session.buffers.text (w.session sid).ownBuffer ∧
      s.issued = i.session.issued ++ s.issuedSince i.session ∧
      s.buffers.text (w.adapter id).output = statementsText (s.issuedSince i.session) := by
  intro s
  obtain ⟨hhas, hne⟩ := hs.output id hid
  have hclean' : (w.emptied id i).session.Clean .statementsOnly := { hclean with }
  have hchanges := Workspace.changes_call hclean' f
  obtain ⟨sqls, hi⟩ := Session.Issues.of_changes hchanges
  have hreg : (w.emptied id i).session.registered? = some (w.adapter id).output := hregistered
  have hsince : s.issuedSince i.session = sqls := hi.issuedSince
  refine ⟨hchanges.clean hclean', hi.registered.trans hreg, ?_, ?_, ?_⟩
  · have hown : (w.emptied id i).session.buffers.Has (w.session sid).ownBuffer :=
      BufferStore.has_modify.2 ((hsame.has _).2 hs.own)
    have htext := hi.text _ hown
    rw [hreg, if_neg (by simpa using hne), String.append_empty] at htext
    exact htext.trans (BufferStore.text_reset_of_ne _ hne)
  · rw [hsince]
    exact hi.issued
  · have hout : i.session.buffers.Has (w.adapter id).output := (hsame.has _).2 hhas
    have htext := hi.text _ (BufferStore.has_modify.2 hout)
    rw [hreg, if_pos rfl] at htext
    have hempty : (w.emptied id i).session.buffers.text (w.adapter id).output = "" :=
      BufferStore.text_reset_self hout
    rw [htext, hempty, hsince, String.empty_append]

/-- A reading answers the statements of its entry, and leaves none in the session's own buffer. -/
theorem readStep (h : Separated sid es w) (hs : w.Sound Script.AvoidsBuffer sid)
    (hid : w.IsOn sid id) {entry : String} {r : Reading} (hr : ReadStep w id entry r w') :
    Separated sid (es ++ [.read r]) w' := by
  have hsame := Workspace.sameBuffers_loaded hid
  have hloaded := h.loaded hs hid
  have hne := (hs.output id hid).2
  cases hr with
  | unbound =>
    refine {
      clean := h.clean
      registered := h.registered
      output := by simp [h.output, Event.outside]
      issued := by simp [h.issued, Event.issued]
      sql := fun r' hr' => ?_ }
    rcases List.mem_append.1 hr' with hr' | hr'
    · exact h.sql r' hr'
    · cases List.mem_singleton.1 hr'
      rintro _ ⟨⟩
  | notLoaded hl =>
    rw [hl] at hsame hloaded
    obtain ⟨hclean, hregistered, htext, hissued⟩ := hloaded
    exact h.finish hs hid hclean hregistered hsame.ownBuffer htext (by simpa using hissued)
      fun _ hr => by cases hr
  | notFound hl =>
    rw [hl] at hsame hloaded
    obtain ⟨hclean, hregistered, htext, hissued⟩ := hloaded
    refine h.finish hs hid { hclean with } hregistered hsame.ownBuffer ?_ ?_
      fun _ hr => by cases hr
    · exact (BufferStore.text_reset_of_ne _ hne).trans htext
    · rw [List.append_nil]
      exact hissued
  | @failed m p i f j e hl hc =>
    rw [hl] at hsame hloaded
    obtain ⟨hclean, hregistered, htext, hissued⟩ := hloaded
    obtain ⟨hclean', hregistered', htext', hissued', _⟩ := call hs hid hsame hclean hregistered f
    rw [hc] at hclean' hregistered' htext' hissued'
    refine h.finish hs hid hclean' hregistered' ?_ (htext'.trans htext) ?_ fun _ hr => by cases hr
    · exact (hsame.trans (hc ▸ Workspace.sameBuffers_call f)).ownBuffer
    · rw [hissued', hissued, List.append_assoc]
  | @done identifier m p i f j _ hl _ hc =>
    rw [hl] at hsame hloaded
    obtain ⟨hclean, hregistered, htext, hissued⟩ := hloaded
    obtain ⟨hclean', hregistered', htext', hissued', hsql⟩ :=
      call hs hid hsame hclean hregistered f
    rw [hc] at hclean' hregistered' htext' hissued' hsql
    refine h.finish hs hid hclean' hregistered' ?_ (htext'.trans htext) ?_ fun _ hr => ?_
    · exact (hsame.trans (hc ▸ Workspace.sameBuffers_call f)).ownBuffer
    · rw [hissued', hissued, List.append_assoc]
    · cases hr
      exact hsql

end Separated

/-- Separation holds throughout a run. -/
theorem SessionRun.separated {sid : SessionId} {w₀ w : Workspace} {es : List Event}
    (h : SessionRun (· ≠ bufferGlobal) Script.AvoidsBuffer sid w₀ es w)
    (hfresh : w₀.Fresh Script.AvoidsBuffer sid) : Separated sid es w := by
  induction h with
  | start => exact .fresh hfresh
  | upkeep h hw ih => exact ih.upkeep (h.sound hfresh) hw
  | direct h hss ih => exact ih.direct (h.sound hfresh) hss
  | read h hid method ih =>
    have hs := h.sound hfresh
    exact ih.readStep hs hid (Workspace.readStep (hid.2 ▸ hs.bounds) method)

/-- Where the statements of a run are. The session's own buffer has those that were made outside
readings. Every reading that succeeds answers those that calling its entry made. These, and those
that evaluating scripts made, are all there are. -/
theorem SessionRun.output_separated {sid : SessionId} {w₀ w : Workspace} {es : List Event}
    (h : SessionRun (· ≠ bufferGlobal) Script.AvoidsBuffer sid w₀ es w)
    (hfresh : w₀.Fresh Script.AvoidsBuffer sid) :
    (w.session sid).output = statementsText (es.flatMap Event.outside) ∧
      (∀ r, .read r ∈ es → ∀ rendered, r.result = .ok rendered →
        rendered.sql = statementsText r.calling) ∧
      (w.session sid).issued = es.flatMap Event.issued := by
  have hseparated := h.separated hfresh
  exact ⟨hseparated.output, hseparated.sql, hseparated.issued⟩

def dropStep (table : String) : Step := .call "dropTable" [.text (.valid table)] none

/-- A session and a store with one script, which makes a statement while it is evaluated and another
one in its entry. -/
def separationWorkspace : Workspace :=
  (Workspace.newSession
    { files :=
        { nodes := [(["a"], .directory), (["1_init.lua", "a"], .file ⟨0⟩)]
          contents := #[.program
            { entries := [("safeUp", .function [dropStep "entry"])], top := [dropStep "loaded"] }] }
      stores := #[{ root := "a" }] } "main").2

theorem fresh_separationWorkspace : separationWorkspace.Fresh Script.AvoidsBuffer ⟨0⟩ where
  bounds := by decide
  created := ⟨"main", _, rfl⟩
  unused id h := absurd h.1 (Nat.not_lt_zero _)
  files file := by
    obtain ⟨_ | index⟩ := file
    · exact ⟨by decide, by decide⟩
    · exact ⟨by simp [separationWorkspace, Workspace.newSession, FileTree.read, Script.globals],
        by simp [separationWorkspace, Workspace.newSession, FileTree.read, Script.publishes?]⟩

theorem output_separated_separationWorkspace :
    ∃ es w, SessionRun (· ≠ bufferGlobal) Script.AvoidsBuffer ⟨0⟩ separationWorkspace es w ∧
      separationWorkspace.Fresh Script.AvoidsBuffer ⟨0⟩ ∧
      (w.session ⟨0⟩).issued = ["DROP TABLE \x60x\x60", "DROP TABLE \x60loaded\x60",
        "DROP TABLE \x60entry\x60"] ∧
      (w.session ⟨0⟩).output = "DROP TABLE \x60x\x60;\n" ∧
      (w.session ⟨0⟩).output = statementsText (es.flatMap Event.outside) := by
  have hstep : ∀ name ∈ stepGlobals [dropStep "x"], name ≠ bufferGlobal := by decide
  have hdirect : SessionRun (· ≠ bufferGlobal) Script.AvoidsBuffer ⟨0⟩ separationWorkspace _ _ :=
    .direct .start hstep
  have hmade := hdirect.upkeep (.newAdapter ⟨0⟩)
  have hbound := hmade.upkeep (.bind
    (show Workspace.IsOn _ ⟨0⟩ ⟨0⟩ from ⟨by decide +kernel, by decide +kernel⟩) "1_init.lua")
  have hread := hbound.read
    (show Workspace.IsOn _ ⟨0⟩ ⟨0⟩ from ⟨by decide +kernel, by decide +kernel⟩) "up"
  have hout := hread.output_separated fresh_separationWorkspace
  exact ⟨_, _, hread, fresh_separationWorkspace, by decide +kernel, by decide +kernel, hout.1⟩

end SchemaMigration
