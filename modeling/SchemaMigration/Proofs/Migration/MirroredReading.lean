import SchemaMigration.Proofs.Migration.Soundness
import SchemaMigration.Proofs.Script.Mirror

/-!
# Readings in two sessions

Rendering an entry comes to the same in two sessions that scripts cannot tell apart, also where the
output goes to another buffer in one than in the other.

## Main definitions

* `Mirror.Pairs` — buffers for output, one in each session.
* `Interpreter.Mirrors` — the relation of the two sessions.
* `Adapter.render_mirrors` — rendering an entry in both.
-/

namespace SchemaMigration

variable {R : Reach} {M : Mirror R} {i j : Interpreter} {output output' : BufferId}

/-- Holds for two buffers if output may go to the one in one session and to the other in the other
session. -/
structure Mirror.Pairs (M : Mirror R) (output output' : BufferId) : Prop where
  clean : ∀ {s : Session}, s.Clean R → (s.install output).Clean R
  install : ∀ {o o' guarded}, M.Rel o o' →
    M.Rel (o.install guarded output) (o'.install guarded output')
  modify : ∀ {o o' f}, M.Rel o o' → M.Rel (o.modify output f) (o'.modify output' f)
  text : ∀ {o o'}, M.Rel o o' → o'.buffers.text output' = o.buffers.text output

/-- Two states of an interpreter that differ in nothing but outlets, which are related. -/
structure Interpreter.Mirrors (M : Mirror R) (i j : Interpreter) : Prop where
  clean : i.session.Clean R
  same : ∃ o, j = i.withOutlets o ∧ M.Rel i.session.outlets o

/-- Mirrored computations come to the same. -/
theorem Eval.Mirrored.run {α : Type} {P : Nat → α → Prop} {x : Eval α} (hx : Mirrored M 0 x)
    (hc : Confined R 0 P x) (h : i.Mirrors M j) :
    ∃ r i' j', runIn i x = (r, i') ∧ runIn j x = (r, j') ∧ i'.Mirrors M j' := by
  obtain ⟨hclean, o, rfl, ho⟩ := h
  obtain ⟨o', he, ho'⟩ := hx i o (Nat.zero_le _) hclean ho
  obtain ⟨hchanges, -⟩ := hc i (Nat.zero_le _) hclean
  exact ⟨_, _, _, rfl, he, hchanges.clean hclean, o', rfl, ho'⟩

namespace Interpreter.Mirrors

theorem install (h : i.Mirrors M j) (hpair : M.Pairs output output') :
    Interpreter.Mirrors M { i with session := i.session.install output }
      { j with session := j.session.install output' } := by
  obtain ⟨hclean, o, rfl, ho⟩ := h
  exact ⟨hpair.clean hclean, _, rfl, hpair.install ho⟩

theorem reset (h : i.Mirrors M j) (hpair : M.Pairs output output') :
    Interpreter.Mirrors M { i with session := i.session.updateBuffers (·.reset output) }
      { j with session := j.session.updateBuffers (·.reset output') } := by
  obtain ⟨hclean, o, rfl, ho⟩ := h
  exact ⟨{ hclean with }, _, rfl, hpair.modify ho⟩

theorem text (h : i.Mirrors M j) (hpair : M.Pairs output output') :
    j.session.buffers.text output' = i.session.buffers.text output := by
  obtain ⟨-, o, rfl, ho⟩ := h
  exact hpair.text ho

/-- The entry that is called is found in the same table. -/
theorem entryFunction? (h : i.Mirrors M j) (identifier entry : String) (m : Adapter.Module) :
    Adapter.entryFunction? j.session identifier entry m =
      Adapter.entryFunction? i.session identifier entry m := by
  obtain ⟨-, o, rfl, ho⟩ := h
  have htable : Adapter.entryTable? (i.session.withOutlets o) identifier m =
      Adapter.entryTable? i.session identifier m := by
    cases m with
    | some place => rfl
    | none =>
      have hplace (place : Nat) : (i.session.withOutlets o).global identifier = .table place ↔
          i.session.global identifier = .table place := M.table ho
      cases hglobal : i.session.global identifier with
      | table place => simp only [Adapter.entryTable?, hglobal, (hplace place).2 hglobal]; rfl
      | _ =>
        have hnone (place : Nat) : (i.session.withOutlets o).global identifier ≠ .table place :=
          fun he => by simp [(hplace place).1 he] at hglobal
        simp only [Adapter.entryTable?, hglobal]
  have hsession : (i.withOutlets o).session = i.session.withOutlets o := rfl
  rw [Adapter.entryFunction?, Adapter.entryFunction?, hsession, htable]

end Interpreter.Mirrors

namespace Adapter

theorem mirrored_evaluate {s : Script} (hs : s.Within R) : Eval.Mirrored M 0 (evaluate s) := by
  have hc : Eval.Confined R 0 R.value (Eval.script s) := Eval.confined_script hs.1 hs.2
  refine (Eval.mirrored_script hs.1 hs.2).bind hc fun _ v _ _ => ?_
  cases v <;> exact .pure _

/-- Holds if the script that loading evaluates, if any, is confined to a reach. -/
def Phase.Within (R : Reach) (t : FileTree) (p : Phase) : Prop :=
  ∀ b s b', p = .bound b → b.read t = .ok (s, b') → s.Within R

theorem load_mirrors {t : FileTree} {p : Phase} (hp : p.Within R t) (h : i.Mirrors M j) :
    ∃ r p' i' j', load t p i = (r, p', i') ∧ load t p j = (r, p', j') ∧ i'.Mirrors M j' := by
  cases p with
  | unbound | closed | loaded | rendered => exact ⟨_, _, _, _, rfl, rfl, h⟩
  | bound b =>
    simp only [load_bound]
    cases hb : b.read t with
    | error e => exact ⟨_, _, _, _, rfl, rfl, h⟩
    | ok sb =>
      obtain ⟨s, b'⟩ := sb
      have hs : s.Within R := hp b s b' rfl hb
      obtain ⟨r, i', j', hi, hj, h'⟩ := (mirrored_evaluate hs).run (confined_evaluate hs) h
      cases r with
      | error fault =>
        simp only [hi, hj]
        exact ⟨_, _, _, _, rfl, rfl, h'⟩
      | ok m =>
        simp only [hi, hj]
        exact ⟨_, _, _, _, rfl, rfl, h'⟩

theorem callEntry_mirrors (hpair : M.Pairs output output') (identifier entry : String) (m : Module)
    (h : i.Mirrors M j) :
    ∃ r i' j', callEntry identifier entry m output i = (r, i') ∧
      callEntry identifier entry m output' j = (r, j') ∧ i'.Mirrors M j' := by
  have hreset := h.reset hpair
  simp -zeta only [callEntry_eq]
  extract_lets i₁ j₁
  have hfunction : entryFunction? j₁.session identifier entry m =
      entryFunction? i₁.session identifier entry m := hreset.entryFunction? identifier entry m
  rw [hfunction]
  cases entryFunction? i₁.session identifier entry m with
  | none => exact ⟨_, _, _, rfl, rfl, hreset⟩
  | some f =>
    obtain ⟨r, i', j', hi, hj, h'⟩ := (Eval.mirrored_run f).run (Eval.confined_run f) hreset
    cases r with
    | error fault =>
      simp only [i₁, j₁, hi, hj]
      exact ⟨_, _, _, rfl, rfl, h'⟩
    | ok v =>
      simp only [i₁, j₁, hi, hj, h'.text hpair]
      exact ⟨_, _, _, rfl, rfl, h'⟩

/-- Rendering an entry answers the same in both sessions, although the outputs are different
buffers. -/
theorem render_mirrors (hpair : M.Pairs output output') {t : FileTree} {p : Phase}
    (hp : p.Within R t) (identifier entry : String) (h : i.Mirrors M j) :
    ∃ r p' i' j', render t output identifier entry p i = (r, p', i') ∧
      render t output' identifier entry p j = (r, p', j') ∧ i'.Mirrors M j' := by
  obtain ⟨r, p', i', j', hi, hj, h'⟩ := load_mirrors hp (h.install hpair)
  cases r with
  | error e =>
    simp only [render, hi, hj]
    exact ⟨_, _, _, _, rfl, rfl, h'⟩
  | ok m =>
    obtain ⟨r, i₂, j₂, hi₂, hj₂, h₂⟩ := callEntry_mirrors hpair identifier entry m h'
    cases r with
    | error e =>
      simp only [render, hi, hj, hi₂, hj₂]
      exact ⟨_, _, _, _, rfl, rfl, h₂⟩
    | ok sql =>
      simp only [render, hi, hj, hi₂, hj₂]
      exact ⟨_, _, _, _, rfl, rfl, h₂⟩

end Adapter

end SchemaMigration
