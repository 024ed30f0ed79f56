import Mathlib.Data.List.DropRight
import Mathlib.Data.List.Induction
import Mathlib.Logic.Relation
import SchemaMigration.Buffer

/-!
# Families of handles

Cloning the handle of a buffer makes another handle of that buffer. So handles come in families,
which clone steps connect, and each family has a buffer of its own. A handle shows what was written
through the handles of its family since one of these was last reset, and nothing else.

## Main definitions

* `HandleRun` — the calls of handles, one after the other.
* `BufferHandles.Related` — the handles that clone steps of a history connect.
* `BufferHandles.through`, `BufferHandles.written` — the calls through some handles, and what they
  have written since the last reset.

The main results are `HandleRun.tracks` and `HandleRun.families_share`.
-/

namespace SchemaMigration

namespace BufferHandles

/-! ## Histories -/

namespace Call

/-- What a call writes. -/
def text? : Call → Option String
  | write _ s => some s
  | writeStatement _ sql => some (sql ++ ";\n")
  | new | clone _ | reset _ => none

/-- Holds for calls that make a handle. -/
def makes : Call → Bool
  | new | clone _ => true
  | write .. | writeStatement .. | reset _ => false

/-- Holds for calls that empty a buffer. -/
def isReset : Call → Bool
  | reset _ => true
  | new | clone _ | write .. | writeStatement .. => false

end Call

def made (cs : List Call) : Nat := cs.countP Call.makes

/-- Holds if the second handle was made as a clone of the first. -/
def Cloned (cs : List Call) (h h' : Nat) : Prop :=
  ∃ before after, cs = before ++ .clone h :: after ∧ h' = made before

/-- Holds for the handles of one family: clone steps connect them. -/
def Related (cs : List Call) : Nat → Nat → Prop := Relation.EqvGen (Cloned cs)

/-- The calls through some handles. -/
def through (p : Nat → Prop) [DecidablePred p] (cs : List Call) : List Call :=
  cs.filter fun c => c.handle?.any (p ·)

/-- What calls have written since the last reset. -/
def written (cs : List Call) : List String :=
  (cs.rtakeWhile (!·.isReset)).filterMap Call.text?

end BufferHandles

open BufferHandles

/-- The calls of handles, one after the other. -/
inductive HandleRun : List Call → BufferHandles → Prop
  | start : HandleRun [] {}
  | call {cs s} (h : HandleRun cs s) (c : Call) (hc : s.Given c) :
      HandleRun (cs ++ [c]) (s.after c)

namespace BufferHandles

variable {s : BufferHandles} {cs : List Call} {c : Call} {h h' : Nat} {id : BufferId}

theorem made_concat (cs : List Call) (c : Call) :
    made (cs ++ [c]) = made cs + if c.makes then 1 else 0 := by
  rw [made, List.countP_append, List.countP_singleton]
  rfl

theorem cloned_concat :
    Cloned (cs ++ [c]) h h' ↔ Cloned cs h h' ∨ c = .clone h ∧ h' = made cs := by
  constructor
  · rintro ⟨before, after, heq, rfl⟩
    cases after using List.reverseRecOn with
    | nil =>
      obtain ⟨rfl, hc⟩ := List.append_inj' heq rfl
      exact .inr ⟨(List.cons.inj hc).1, rfl⟩
    | append_singleton after c' =>
      have heq' : cs ++ [c] = (before ++ .clone h :: after) ++ [c'] := by simp [heq]
      exact .inl ⟨before, after, (List.append_inj' heq' rfl).1, rfl⟩
  · rintro (⟨before, after, rfl, rfl⟩ | ⟨rfl, rfl⟩)
    · exact ⟨before, after ++ [c], by simp, rfl⟩
    · exact ⟨cs, [], rfl, rfl⟩

/-- Handles of one family stay together. -/
theorem Related.concat (hr : Related cs h h') (c : Call) : Related (cs ++ [c]) h h' :=
  Relation.EqvGen.mono (fun _ _ hcloned => cloned_concat.2 (.inl hcloned)) _ _ hr

theorem through_append (p : Nat → Prop) [DecidablePred p] (cs ds : List Call) :
    through p (cs ++ ds) = through p cs ++ through p ds :=
  List.filter_append cs ds

theorem through_singleton (p : Nat → Prop) [DecidablePred p] (c : Call) :
    through p [c] = if c.handle?.any (p ·) then [c] else [] := by
  simp only [through, List.filter_singleton, Bool.cond_eq_ite]

theorem through_congr {p p' : Nat → Prop} [DecidablePred p] [DecidablePred p']
    (hp : ∀ c ∈ cs, ∀ h ∈ c.handle?, p h ↔ p' h) : through p cs = through p' cs := by
  refine List.filter_congr fun c hc => ?_
  cases hhandle : c.handle? with
  | none => rfl
  | some h => simp [hp c hc h hhandle]

theorem through_eq_nil {p : Nat → Prop} [DecidablePred p]
    (hp : ∀ c ∈ cs, ∀ h ∈ c.handle?, ¬p h) : through p cs = [] := by
  refine List.filter_eq_nil_iff.2 fun c hc hany => ?_
  obtain ⟨h, hh, hph⟩ := (Option.any_eq_true _ _).1 hany
  exact hp c hc h hh (of_decide_eq_true hph)

theorem written_concat (cs : List Call) (c : Call) :
    written (cs ++ [c]) = if c.isReset then [] else written cs ++ c.text?.toList := by
  by_cases hreset : c.isReset = true
  · simp [written, hreset]
  · cases htext : c.text? <;> simp [written, hreset, htext]

/-! ## What a call does -/

theorem size_after (s : BufferHandles) (c : Call) :
    (s.after c).buffers.size = s.buffers.size + if c.makes then 1 else 0 := by
  cases c <;> simp [after, Call.makes]

/-- A handle is of one buffer for good. -/
theorem buffer_after (hlt : h < s.buffers.size) (c : Call) :
    (s.after c).buffer h = s.buffer h := by
  cases c <;> simp [after, buffer, Array.getElem?_push, Nat.ne_of_lt hlt]

theorem buffer_after_new (s : BufferHandles) :
    (s.after .new).buffer s.buffers.size = s.store.create.1 := by
  simp [after, buffer]

theorem buffer_after_clone (s : BufferHandles) (h : Nat) :
    (s.after (.clone h)).buffer s.buffers.size = s.buffer h := by
  simp [after, buffer]

theorem has_after (hid : s.store.Has id) (c : Call) : (s.after c).store.Has id := by
  cases c with
  | new => exact BufferStore.has_create.2 (.inl hid)
  | clone => exact hid
  | write | writeStatement | reset => exact BufferStore.has_modify.2 hid

/-- A call changes the buffer of its handle and no other. -/
theorem text_after (hc : ∀ h ∈ c.handle?, s.store.Has (s.buffer h)) (id : BufferId) :
    (s.after c).store.text id =
      if c.handle?.any (s.buffer · = id) then
        if c.isReset then "" else s.store.text id ++ String.join c.text?.toList
      else s.store.text id := by
  cases c with
  | new => simp [after, Call.handle?, BufferStore.text_create]
  | clone h => simp [after, Call.text?, Call.isReset]
  | write h text =>
    simp [after, Call.handle?, Call.text?, Call.isReset, BufferStore.write,
      BufferStore.text_modify (hc h rfl)]
  | writeStatement h sql =>
    simp [after, Call.handle?, Call.text?, Call.isReset, BufferStore.writeStatement,
      BufferStore.statementText, BufferStore.write, BufferStore.text_modify (hc h rfl)]
  | reset h =>
    simp [after, Call.handle?, Call.isReset, BufferStore.reset, BufferStore.text_modify (hc h rfl)]

/-! ## What a history says -/

/-- What handles are of, and what their buffers hold, their history says. -/
structure Tracks (cs : List Call) (s : BufferHandles) : Prop where
  size : s.buffers.size = made cs
  given : ∀ c ∈ cs, s.Given c
  has : ∀ h < s.buffers.size, s.store.Has (s.buffer h)
  cloned : ∀ h h', Cloned cs h h' →
    h < s.buffers.size ∧ h' < s.buffers.size ∧ s.buffer h = s.buffer h'
  related : ∀ h < s.buffers.size, ∀ h' < s.buffers.size, s.SameAs h h' → Related cs h h'
  text : ∀ id, s.store.text id = String.join (written (through (s.buffer · = id) cs))

namespace Tracks

theorem start : Tracks [] {} where
  size := rfl
  given := by simp
  has h hlt := absurd hlt (Nat.not_lt_zero h)
  cloned h h' := by
    rintro ⟨before, after, heq, -⟩
    simp at heq
  related h hlt := absurd hlt (Nat.not_lt_zero h)
  text id := by simp [BufferStore.text, through, written]

theorem buffer_eq (ht : Tracks cs s) (hr : Related cs h h') : s.buffer h = s.buffer h' := by
  induction hr with
  | rel _ _ hcloned => exact (ht.cloned _ _ hcloned).2.2
  | refl => rfl
  | symm _ _ _ ih => exact ih.symm
  | trans _ _ _ _ _ ih ih' => exact ih.trans ih'

theorem given_concat (ht : Tracks cs s) (hc : s.Given c) : ∀ c' ∈ cs ++ [c], s.Given c' := by
  intro c' hc'
  rcases List.mem_append.1 hc' with hc' | hc'
  · exact ht.given c' hc'
  · exact List.mem_singleton.1 hc' ▸ hc

/-- After a call a handle is of a buffer that a related handle had before, unless it is new. -/
theorem source_or_new (ht : Tracks cs s) (hc : s.Given c) (hlt : h < (s.after c).buffers.size) :
    (∃ k < s.buffers.size, (s.after c).buffer h = s.buffer k ∧ Related (cs ++ [c]) k h) ∨
      c = .new ∧ h = s.buffers.size ∧ (s.after c).buffer h = s.store.create.1 := by
  by_cases hold : h < s.buffers.size
  · exact .inl ⟨h, hold, buffer_after hold c, .refl h⟩
  · rw [size_after] at hlt
    cases c with
    | new =>
      obtain rfl : h = s.buffers.size := by simp [Call.makes] at hlt; omega
      exact .inr ⟨rfl, rfl, buffer_after_new s⟩
    | clone k =>
      obtain rfl : h = s.buffers.size := by simp [Call.makes] at hlt; omega
      refine .inl ⟨k, hc k rfl, buffer_after_clone s k, .rel _ _ (cloned_concat.2 (.inr ?_))⟩
      exact ⟨rfl, ht.size⟩
    | write | writeStatement | reset => exact absurd hlt hold

theorem call (ht : Tracks cs s) (hc : s.Given c) : Tracks (cs ++ [c]) (s.after c) where
  size := by rw [size_after, made_concat, ht.size]
  given c' hc' h hh := by
    have hlt := ht.given_concat hc c' hc' h hh
    rw [size_after]
    omega
  has h hlt := by
    rcases ht.source_or_new hc hlt with ⟨k, hk, hbuffer, -⟩ | ⟨rfl, -, hbuffer⟩
    · exact hbuffer ▸ has_after (ht.has k hk) c
    · exact hbuffer ▸ BufferStore.has_create.2 (.inr rfl)
  cloned h h' hcloned := by
    rw [size_after]
    rcases cloned_concat.1 hcloned with hcloned | ⟨rfl, rfl⟩
    · obtain ⟨hlt, hlt', heq⟩ := ht.cloned h h' hcloned
      exact ⟨by omega, by omega, by rw [buffer_after hlt, buffer_after hlt', heq]⟩
    · have hlt := hc h rfl
      rw [← ht.size]
      refine ⟨by omega, by simp [Call.makes], ?_⟩
      rw [buffer_after hlt, buffer_after_clone]
  related h hlt h' hlt' hsame := by
    have hsame : (s.after c).buffer h = (s.after c).buffer h' := hsame
    have hnew {k : Nat} (hk : k < s.buffers.size) : s.buffer k ≠ s.store.create.1 :=
      fun heq => BufferStore.not_has_create s.store (heq ▸ ht.has k hk)
    rcases ht.source_or_new hc hlt, ht.source_or_new hc hlt' with
      ⟨⟨k, hk, hbuffer, hr⟩ | ⟨-, rfl, hbuffer⟩, ⟨k', hk', hbuffer', hr'⟩ | ⟨-, rfl, hbuffer'⟩⟩
    · rw [hbuffer, hbuffer'] at hsame
      have hkk : Related (cs ++ [c]) k k' := (ht.related k hk k' hk' hsame).concat c
      exact (hr.symm.trans _ _ _ hkk).trans _ _ _ hr'
    · exact absurd (hbuffer.symm.trans (hsame.trans hbuffer')) (hnew hk)
    · exact absurd (hbuffer'.symm.trans (hsame.symm.trans hbuffer)) (hnew hk')
    · exact .refl _
  text id := by
    have hbuffer : ∀ c' ∈ cs ++ [c], ∀ h ∈ c'.handle?,
        (s.after c).buffer h = id ↔ s.buffer h = id := fun c' hc' h hh => by
      rw [buffer_after (ht.given_concat hc c' hc' h hh)]
    rw [through_congr hbuffer, through_append, through_singleton,
      text_after fun h hh => ht.has h (hc h hh), ht.text]
    split
    · rw [written_concat]
      split
      · rfl
      · rw [String.join_append]
    · rw [List.append_nil]

end Tracks

end BufferHandles

namespace HandleRun

variable {s s' : BufferHandles} {cs more : List Call} {c : Call} {h : Nat}

theorem tracks (hrun : HandleRun cs s) : Tracks cs s := by
  induction hrun with
  | start => exact .start
  | call _ c hc ih => exact ih.call hc

/-! ## More calls -/

theorem exists_before (hrun : HandleRun (cs ++ [c]) s') :
    ∃ s, HandleRun cs s ∧ s' = s.after c := by
  generalize hcs : cs ++ [c] = cs' at hrun
  cases hrun with
  | start => simp at hcs
  | call hrun c' hc =>
    obtain ⟨rfl, hc'⟩ := List.append_inj' hcs rfl
    exact ⟨_, hrun, by rw [(List.cons.inj hc').1]⟩

theorem unique (hrun : HandleRun cs s) (hrun' : HandleRun cs s') : s = s' := by
  induction hrun generalizing s' with
  | start =>
    generalize hcs : [] = cs at hrun'
    cases hrun' with
    | start => rfl
    | call => simp at hcs
  | call _ c _ ih =>
    obtain ⟨s, hbefore, rfl⟩ := exists_before hrun'
    rw [ih hbefore]

/-- More calls leave the handles that are there with their buffers. -/
theorem buffer_append (hrun : HandleRun cs s) (hlt : h < s.buffers.size)
    (hrun' : HandleRun (cs ++ more) s') : h < s'.buffers.size ∧ s'.buffer h = s.buffer h := by
  induction more using List.reverseRecOn generalizing s' with
  | nil =>
    obtain rfl := hrun.unique (List.append_nil cs ▸ hrun')
    exact ⟨hlt, rfl⟩
  | append_singleton more c ih =>
    obtain ⟨t, hbefore, rfl⟩ := exists_before (List.append_assoc cs more [c] ▸ hrun')
    obtain ⟨hlt', hbuffer⟩ := ih hbefore
    rw [size_after, buffer_after hlt', hbuffer]
    exact ⟨by omega, rfl⟩

end HandleRun

/-! ## Families -/

/-- What holds of handles with a history. -/
structure BufferHandles.SharesFamilies (cs : List Call) (s : BufferHandles) : Prop where
  size : s.buffers.size = made cs
  same_iff : ∀ h < made cs, ∀ h' < made cs, s.SameAs h h' ↔ Related cs h h'
  contents : ∀ h < made cs, ∀ [DecidablePred (Related cs h)],
    s.contents h = String.join (written (through (Related cs h) cs))
  /-- Calls through handles of other families, and those that make new ones, change nothing. -/
  apart : ∀ h < made cs, ∀ more s', HandleRun (cs ++ more) s' →
    (∀ c ∈ more, ∀ h' ∈ c.handle?, ¬Related (cs ++ more) h h') → s'.contents h = s.contents h

/-- Two handles are of one buffer if and only if clone steps connect them. A handle shows what was
written through any of its family since any of these was last reset, and what is done with other
families does not change that. -/
theorem HandleRun.families_share {cs : List Call} {s : BufferHandles} (hrun : HandleRun cs s) :
    SharesFamilies cs s := by
  have ht := hrun.tracks
  have hsame {h h' : Nat} (hlt : h < made cs) (hlt' : h' < made cs) :
      s.buffer h = s.buffer h' ↔ Related cs h h' :=
    ⟨ht.related h (ht.size ▸ hlt) h' (ht.size ▸ hlt'), ht.buffer_eq⟩
  refine ⟨ht.size, fun h hlt h' hlt' => hsame hlt hlt', fun h hlt _ => ?_,
    fun h hlt more s' hrun' hother => ?_⟩
  · rw [contents, ht.text]
    refine congrArg (fun cs => String.join (written cs)) (through_congr fun c hc h' hh => ?_)
    rw [eq_comm, hsame hlt (ht.size ▸ ht.given c hc h' hh)]
  · have ht' := hrun'.tracks
    obtain ⟨hlt', hbuffer⟩ := hrun.buffer_append (ht.size ▸ hlt) hrun'
    have hnone : through (s'.buffer · = s.buffer h) more = [] := by
      refine through_eq_nil fun c hc h' hh heq => ?_
      have hgiven := ht'.given c (List.mem_append_right cs hc) h' hh
      exact hother c hc h' hh (ht'.related h hlt' h' hgiven (hbuffer.trans heq.symm))
    rw [contents, contents, hbuffer, ht.text, ht'.text, through_append, hnone, List.append_nil]
    refine congrArg (fun cs => String.join (written cs)) (through_congr fun c hc h' hh => ?_)
    rw [(hrun.buffer_append (ht.given c hc h' hh) hrun').2]

/-- Four handles in two families. One family is written through three of its handles, and reset
through one of them. -/
theorem HandleRun.families_share_resetClone :
    ∃ cs s, HandleRun cs s ∧ SharesFamilies cs s ∧ made cs = 4 ∧ s.SameAs 0 3 ∧ ¬s.SameAs 2 3 ∧
      s.contents 0 = "b\nDROP TABLE t;\n" ∧ s.contents 1 = s.contents 0 ∧ s.contents 2 = "x" ∧
      s.contents 3 = s.contents 0 := by
  have hfirst := HandleRun.start.call .new (by decide)
  have hclone := hfirst.call (.clone 0) (by decide)
  have hother := hclone.call .new (by decide)
  have hlost := hother.call (.writeStatement 0 "lost") (by decide)
  have hkept := hlost.call (.write 2 "x") (by decide)
  have hreset := hkept.call (.reset 1) (by decide)
  have hline := hreset.call (.write 0 "b\n") (by decide)
  have hlate := hline.call (.clone 1) (by decide)
  have hrun := hlate.call (.writeStatement 3 "DROP TABLE t") (by decide)
  exact ⟨_, _, hrun, hrun.families_share, by decide, by decide, by decide, by decide, by decide,
    by decide, by decide⟩

end SchemaMigration
