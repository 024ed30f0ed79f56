import SchemaMigration.Proofs.Column.LastSettings
import SchemaMigration.Proofs.Script.Invariance

/-!
# Column handles

Scripts hold columns by handles, and change them through any of these. What a handle renders to is
settled by the call that made the column and by the last setter call for each of its fields. No
other call makes a difference, and neither does the order in which the fields were set.

## Main definitions

* `FunctionCall`, `CallRun` — the calls of a session, with anything in between that leaves columns
  alone.
* `FunctionCall.made?`, `FunctionCall.changed?` — the column that a call makes, and what it changes.
* `CallRun.madeAt?`, `CallRun.settingsAt` — what a history says of a column.
* `CallRun.columnAt?` — the column that follows from it.

The main results are `CallRun.tracks` and `CallRun.handles_settled`.
-/

namespace SchemaMigration

/-! ## Calls -/

/-- A call of a function of a module or of an object, and the state that it is made in. -/
structure FunctionCall where
  state : Interpreter
  function : Function
  args : List ScriptValue

namespace FunctionCall

def run (c : FunctionCall) : Except ScriptFault ScriptValue × Interpreter :=
  Eval.runIn c.state (Eval.apply (Eval.invoke Eval.maxCalls) c.args c.function)

/-- The type name and the arguments of the column that a call makes. -/
def made? (c : FunctionCall) : Option (String × List Value) :=
  let a := c.state.session.arguments {} none c.args
  match c.function with
  | .factory tag => some (tag, a.values)
  | .column => some (a.text 0, a.rest 1)
  | _ => none

/-- The place of the column that a call changes, and the change. The arguments are converted while
the column is hidden. -/
def changed? (c : FunctionCall) : Option (Nat × Column.Setting) :=
  match c.function, c.args with
  | .setColumn setter, .column place :: rest =>
    if place < c.state.session.columns.size then
      some (place, setter.setting (c.state.session.arguments {} (some place) rest))
    else none
  | _, _ => none

end FunctionCall

/-- Calls of a session from a state on, one after the other. In between anything may happen that
makes and changes no columns: variables and tables are set, buffers are registered, and other
sessions have their turn. -/
inductive CallRun (i₀ : Interpreter) : List FunctionCall → Interpreter → Prop
  | start : CallRun i₀ [] i₀
  | call {cs i f} (h : CallRun i₀ cs i) (hf : f.isPrimitive = true) (args : List ScriptValue) :
      CallRun i₀ (cs ++ [⟨i, f, args⟩]) (FunctionCall.run ⟨i, f, args⟩).2
  | work {cs i j} (h : CallRun i₀ cs i) (hcolumns : j.session.columns = i.session.columns) :
      CallRun i₀ cs j

namespace CallRun

variable {i₀ i : Interpreter} {cs : List FunctionCall} {place : Nat}

/-- More calls after those of a history. -/
theorem stable (i₀ : Interpreter) (cs : List FunctionCall) :
    Interpreter.Stable fun i => ∃ more, CallRun i₀ (cs ++ more) i where
  work hcolumns _ := fun ⟨more, h⟩ => ⟨more, h.work hcolumns⟩
  call {f} hf invoke args := by
    rintro i ⟨more, h⟩
    have hsame : Eval.apply invoke args f = Eval.apply (Eval.invoke Eval.maxCalls) args f := by
      cases f with
      | script => cases hf
      | _ => rfl
    rw [hsame]
    exact ⟨more ++ [⟨i, f, args⟩], List.append_assoc cs _ _ ▸ h.call hf args⟩

/-- What keeps all stable properties makes calls, with work in between. -/
theorem continues (h : CallRun i₀ cs i) {α : Type} {x : Eval α}
    (hx : ∀ {P : Interpreter → Prop}, Interpreter.Stable P → Eval.Keeps P x) :
    ∃ more, CallRun i₀ (cs ++ more) (Eval.runIn i x).2 :=
  hx (stable i₀ cs) i ⟨[], (List.append_nil cs).symm ▸ h⟩

end CallRun

/-! ## What calls do to columns -/

namespace FunctionCall

variable {c : FunctionCall}

theorem columns_run_of_made? {tag : String} {args : List Value} (h : c.made? = some (tag, args)) :
    c.run.2.session.columns = c.state.session.columns.push (.ofArgs tag args) := by
  obtain ⟨i, f, vs⟩ := c
  cases f <;> cases h <;> rfl

/-- Columns are changed by setters, and only those that are there. -/
theorem setter_of_changed? {place : Nat} {s : Column.Setting} (h : c.changed? = some (place, s)) :
    place < c.state.session.columns.size ∧
      ∃ setter, c.function = .setColumn setter ∧ c.args.head? = some (.column place) := by
  unfold changed? at h
  split at h
  next setter _ _ hf hargs =>
    split at h
    next hlt =>
      cases h
      exact ⟨hlt, setter, hf, by rw [hargs, List.head?_cons]⟩
    next => cases h
  next => cases h

/-- A setter changes the column of its handle. -/
theorem columns_run_of_changed? {place : Nat} {s : Column.Setting}
    (h : c.changed? = some (place, s)) :
    c.run.2.session.columns = c.state.session.columns.modify place (·.set s) := by
  obtain ⟨i, f, vs⟩ := c
  unfold changed? at h
  split at h
  next setter place' rest hf hargs =>
    dsimp only at hf hargs
    subst hf hargs
    dsimp only at h
    split at h
    next hlt =>
      obtain ⟨rfl, rfl⟩ := Prod.mk.inj (Option.some.inj h)
      have hcol : i.session.columns[place']? = some i.session.columns[place'] := by simp [hlt]
      simp only [run, Eval.apply, Eval.setColumn, Eval.columnSelf, Eval.runIn_bind,
        Eval.runIn_session, hcol, Eval.runIn_pure, Eval.runIn_update, Session.setColumn,
        List.tail_cons]
      refine Array.ext_getElem? fun other => ?_
      by_cases hplace : place' = other
      · subst hplace
        simp [hlt, Array.getElem_modify]
      · simp [hplace, Array.getElem?_modify]
    next => cases h
  next => cases h

/-- Any other call leaves the columns as they are. -/
theorem columns_run_of_none (hf : c.function.isPrimitive = true) (hmade : c.made? = none)
    (hchanged : c.changed? = none) : c.run.2.session.columns = c.state.session.columns := by
  obtain ⟨i, f, vs⟩ := c
  have hkeeps (hwrites : f.writesColumns = false) :
      (run ⟨i, f, vs⟩).2.session.columns = i.session.columns := by
    refine Eval.keeps_apply_of_not_writesColumns
      (P := fun j => j.session.columns = i.session.columns)
      (fun hcolumns _ hi => hcolumns.trans hi) (fun name j hj => ?_) hf hwrites _ vs i rfl
    simp only [Eval.connect, Eval.runIn_bind, Eval.runIn_get]
    split
    · exact hj
    · exact hj
  cases f with
  | script => cases hf
  | factory | column => cases hmade
  | setColumn setter =>
    -- the first argument is no handle of a column that is there
    simp only [run, Eval.apply, Eval.setColumn, Eval.columnSelf]
    split
    next place rest =>
      have hcol : i.session.columns[place]? = none := by
        by_contra hne
        have hlt : place < i.session.columns.size := by simpa using hne
        simp [changed?, hlt] at hchanged
      simp [Eval.runIn_bind, hcol]
    next => rfl
  | _ => exact hkeeps rfl

end FunctionCall

/-! ## What a history says of a column -/

namespace CallRun

variable {i₀ i : Interpreter} {cs : List FunctionCall} {c : FunctionCall} {place : Nat}

/-- The type name and the arguments of the call that made a column. -/
def madeAt? (place : Nat) (cs : List FunctionCall) : Option (String × List Value) :=
  cs.findSome? fun c => if c.state.session.columns.size = place then c.made? else none

/-- The changes of a column, in order. -/
def settingsAt (place : Nat) (cs : List FunctionCall) : List Column.Setting :=
  cs.filterMap fun c => (c.changed?.filter (·.1 = place)).map Prod.snd

theorem madeAt?_concat (place : Nat) (cs : List FunctionCall) (c : FunctionCall) :
    madeAt? place (cs ++ [c]) =
      (madeAt? place cs).or (if c.state.session.columns.size = place then c.made? else none) := by
  simp [madeAt?, List.findSome?_append]

theorem settingsAt_concat (place : Nat) (cs : List FunctionCall) (c : FunctionCall) :
    settingsAt place (cs ++ [c]) =
      settingsAt place cs ++ ((c.changed?.filter (·.1 = place)).map Prod.snd).toList := by
  rw [settingsAt, List.filterMap_append, settingsAt]
  cases hs : (c.changed?.filter (·.1 = place)).map Prod.snd <;> simp [hs]

/-- The columns of a session, as its history says. -/
structure Tracks (i₀ : Interpreter) (cs : List FunctionCall) (i : Interpreter) : Prop where
  column : ∀ place, i.session.columns[place]? =
    (((madeAt? place cs).map fun made => Column.ofArgs made.1 made.2).or
      (i₀.session.columns[place]?)).map fun c => (settingsAt place cs).foldl Column.set c
  /-- A column is changed only after it was made. -/
  later : ∀ place, i.session.columns.size ≤ place → settingsAt place cs = []

namespace Tracks

theorem start : Tracks i₀ [] i₀ where
  column place := by simp [madeAt?, settingsAt]
  later _ _ := rfl

theorem of_made? (h : Tracks i₀ cs c.state) {tag : String} {args : List Value}
    (hmade : c.made? = some (tag, args)) : Tracks i₀ (cs ++ [c]) c.run.2 := by
  have hchanged : c.changed? = none := by
    obtain ⟨i, f, vs⟩ := c
    cases f <;> first | rfl | cases hmade
  have hsettings (place : Nat) : settingsAt place (cs ++ [c]) = settingsAt place cs := by
    simp [settingsAt_concat, hchanged]
  have hcolumns := FunctionCall.columns_run_of_made? hmade
  refine ⟨fun place => ?_, fun place hplace => ?_⟩
  · rw [hcolumns, Array.getElem?_push, hsettings, madeAt?_concat, hmade]
    by_cases hplace : c.state.session.columns.size = place
    · -- the place was free, so that it has no history
      subst hplace
      have hfree := h.column c.state.session.columns.size
      rw [Array.getElem?_eq_none (Nat.le_refl _), eq_comm, Option.map_eq_none_iff,
        Option.or_eq_none_iff, Option.map_eq_none_iff] at hfree
      simp [hfree.1, h.later _ (Nat.le_refl _)]
    · simp only [if_neg hplace, if_neg (Ne.symm hplace), Option.or_none]
      exact h.column place
  · rw [hsettings]
    refine h.later place (Nat.le_trans ?_ hplace)
    simp [hcolumns]

theorem of_changed? (h : Tracks i₀ cs c.state) {place : Nat} {s : Column.Setting}
    (hchanged : c.changed? = some (place, s)) : Tracks i₀ (cs ++ [c]) c.run.2 := by
  have hmade : c.made? = none := by
    obtain ⟨i, f, vs⟩ := c
    cases f <;> first | rfl | cases hchanged
  have hcolumns := FunctionCall.columns_run_of_changed? hchanged
  refine ⟨fun other => ?_, fun other hother => ?_⟩
  · rw [hcolumns, Array.getElem?_modify, settingsAt_concat, madeAt?_concat, hmade, hchanged,
      h.column other]
    by_cases hplace : place = other
    · simp [hplace, Option.filter_some, Function.comp_def]
    · simp [hplace, Option.filter_some]
  · rw [hcolumns, Array.size_modify] at hother
    have hplace : place ≠ other := by
      have := (FunctionCall.setter_of_changed? hchanged).1
      omega
    rw [settingsAt_concat, h.later other hother, hchanged]
    simp [Option.filter_some, hplace]

/-- A call that neither makes nor changes a column is no part of the history of one. -/
theorem of_none (h : Tracks i₀ cs c.state) (hf : c.function.isPrimitive = true)
    (hmade : c.made? = none) (hchanged : c.changed? = none) : Tracks i₀ (cs ++ [c]) c.run.2 := by
  have hcolumns := FunctionCall.columns_run_of_none hf hmade hchanged
  refine ⟨fun place => ?_, fun place hplace => ?_⟩
  · simpa [hcolumns, madeAt?_concat, settingsAt_concat, hmade, hchanged] using h.column place
  · simpa [settingsAt_concat, hchanged] using h.later place (hcolumns ▸ hplace)

theorem work (h : Tracks i₀ cs i) {j : Interpreter}
    (hcolumns : j.session.columns = i.session.columns) : Tracks i₀ cs j where
  column place := hcolumns ▸ h.column place
  later place hplace := h.later place (hcolumns ▸ hplace)

end Tracks

/-- The columns of a session are those of its history. -/
theorem tracks (h : CallRun i₀ cs i) : Tracks i₀ cs i := by
  induction h with
  | start => exact .start
  | @call cs i f _ hf args ih =>
    cases hmade : FunctionCall.made? ⟨i, f, args⟩ with
    | some made => exact Tracks.of_made? (c := ⟨i, f, args⟩) ih hmade
    | none =>
      cases hchanged : FunctionCall.changed? ⟨i, f, args⟩ with
      | some changed => exact Tracks.of_changed? (c := ⟨i, f, args⟩) ih hchanged
      | none => exact Tracks.of_none (c := ⟨i, f, args⟩) ih hf hmade hchanged
  | work _ hcolumns ih => exact ih.work hcolumns

/-- The column that a history leaves: what was made, with the last change of each field. -/
def columnAt? (place : Nat) (cs : List FunctionCall) : Option Column :=
  (madeAt? place cs).map fun made =>
    (Column.ofArgs made.1 made.2).settled (Column.last? (settingsAt place cs))

theorem getElem?_columns (h : CallRun i₀ cs i) {col : Column}
    (hcol : columnAt? place cs = some col) : i.session.columns[place]? = some col := by
  obtain ⟨made, hmade, rfl⟩ := Option.map_eq_some_iff.1 hcol
  rw [h.tracks.column, hmade, ← Column.foldl_set_eq_settled]
  rfl

theorem isSome_columnAt? (h : CallRun i₀ cs i) (hstart : i₀.session.columns.size ≤ place)
    (hplace : place < i.session.columns.size) : (columnAt? place cs).isSome := by
  have hcolumn := h.tracks.column place
  rw [Array.getElem?_eq_getElem hplace, Array.getElem?_eq_none hstart, Option.or_none] at hcolumn
  cases hmade : madeAt? place cs with
  | some made => simp [columnAt?, hmade]
  | none => simp [hmade] at hcolumn

/-- Where values are converted, a handle stands for the definition of its column. A setter does not
see the column that it changes. -/
theorem toValueAt_column (h : CallRun i₀ cs i) {col : Column} (hcol : columnAt? place cs = some col)
    (q : Quoter) {hidden : Option Nat} (hhidden : hidden ≠ some place) (levels : Nat) :
    i.session.toValueAt q hidden levels (.column place) = .text (col.definition q) := by
  cases levels <;> simp [Session.toValueAt, Session.leafValue, hhidden, h.getElem?_columns hcol]

/-- A call that is no setter of a column leaves what the history says of it. -/
theorem columnAt?_concat_of_other {col : Column} (hcol : columnAt? place cs = some col)
    (hother : ∀ setter, c.function = .setColumn setter → c.args.head? ≠ some (.column place)) :
    columnAt? place (cs ++ [c]) = some col := by
  obtain ⟨made, hmade, rfl⟩ := Option.map_eq_some_iff.1 hcol
  have hsettings : settingsAt place (cs ++ [c]) = settingsAt place cs := by
    have hchanged : c.changed?.filter (·.1 = place) = none := by
      rw [Option.filter_eq_none_iff]
      rintro ⟨place', s⟩ hs
      obtain ⟨-, setter, hf, hargs⟩ := FunctionCall.setter_of_changed? hs
      simpa [hargs] using hother setter hf
    simp [settingsAt_concat, hchanged]
  simp [columnAt?, madeAt?_concat, hmade, hsettings]

/-- What a handle renders to, and what it does not depend on. -/
structure HandlesSettled (i₀ : Interpreter) (cs : List FunctionCall) (i : Interpreter) : Prop where
  /-- Scripts do nothing to columns but by calls. -/
  scripts : ∀ s, ∃ more, CallRun i₀ (cs ++ more) (Eval.runIn i (Eval.script s)).2
  steps : ∀ ss, ∃ more, CallRun i₀ (cs ++ more) (Eval.runIn i (Eval.steps ss)).2
  functions : ∀ f args, ∃ more,
    CallRun i₀ (cs ++ more) (Eval.runIn i (Eval.apply (Eval.invoke Eval.maxCalls) args f)).2
  /-- A column that was not there at the start was made by a call. -/
  made : ∀ {place}, i₀.session.columns.size ≤ place → place < i.session.columns.size →
    (columnAt? place cs).isSome
  /-- A handle stands for the definition of what was made, with the last change of each field. -/
  renders : ∀ {place col}, columnAt? place cs = some col → ∀ q levels {hidden},
    hidden ≠ some place →
      i.session.toValueAt q hidden levels (.column place) = .text (col.definition q)
  describes : ∀ {place col}, columnAt? place cs = some col →
    Eval.runIn i (Eval.describe (.column place)) = (.ok (.ofString (col.definition {})), i)
  /-- Handles of one make and with the same last changes render alike, whatever else was called and
  in whatever order. -/
  depends : ∀ {j₀ ds j}, CallRun j₀ ds j → ∀ {place place' made},
    madeAt? place cs = some made → madeAt? place' ds = some made →
    (∀ f, Column.last? (settingsAt place cs) f = Column.last? (settingsAt place' ds) f) →
      ∀ q levels, i.session.toValueAt q none levels (.column place) =
        j.session.toValueAt q none levels (.column place')
  /-- Calls other than the setters of a handle leave it alone. -/
  others : ∀ {place f args}, (columnAt? place cs).isSome → f.isPrimitive = true →
    (∀ setter, f = .setColumn setter → args.head? ≠ some (.column place)) →
      ∀ q levels, (FunctionCall.run ⟨i, f, args⟩).2.session.toValueAt q none levels
        (.column place) = i.session.toValueAt q none levels (.column place)

/-- What a column handle renders to is settled by the call that made the column and by the last
setter call for each field, each with its argument as it was converted then. -/
theorem handles_settled (h : CallRun i₀ cs i) : HandlesSettled i₀ cs i where
  scripts s := h.continues fun hP => Eval.keeps_script hP s
  steps ss := h.continues fun hP => Eval.keeps_steps hP ss
  functions f args := h.continues fun hP => Eval.keeps_run hP f args
  made hstart hplace := h.isSome_columnAt? hstart hplace
  renders hcol q levels _ hhidden := h.toValueAt_column hcol q hhidden levels
  describes hcol := by
    simp only [Eval.describe, Eval.runIn_bind, Eval.runIn_session, Eval.runIn_pure,
      h.getElem?_columns hcol, Option.map_some, Option.getD_some]
  depends {_ ds _} h' {place place' made} hmade hmade' hlast q levels := by
    have hcol' : columnAt? place' ds =
        some ((Column.ofArgs made.1 made.2).settled (Column.last? (settingsAt place cs))) := by
      rw [columnAt?, hmade', funext hlast, Option.map_some]
    have hcol : columnAt? place cs =
        some ((Column.ofArgs made.1 made.2).settled (Column.last? (settingsAt place cs))) := by
      rw [columnAt?, hmade, Option.map_some]
    rw [h.toValueAt_column hcol q (Option.some_ne_none place).symm,
      h'.toValueAt_column hcol' q (Option.some_ne_none place').symm]
  others {place f args} hmade hf hother q levels := by
    obtain ⟨col, hcol⟩ := Option.isSome_iff_exists.1 hmade
    have hcol' := columnAt?_concat_of_other (c := ⟨i, f, args⟩) hcol hother
    rw [h.toValueAt_column hcol q (Option.some_ne_none place).symm,
      (h.call hf args).toValueAt_column hcol' q (Option.some_ne_none place).symm]

/-- A column whose fields are set more than once, in between the work of others. -/
theorem handles_settled_overwritten :
    ∃ cs i, CallRun ⟨{}, Session.create "schema"⟩ cs i ∧
      cs.map FunctionCall.function = [.factory "integer", .setColumn .first, .setColumn .null,
        .factory "string", .setColumn .default, .setColumn .after, .statement .addColumn,
        .setColumn .default, .setColumn .length, .setColumn .notNull] ∧
      i.session.toValue {} (.column 0) = .text "integer(7) NOT NULL DEFAULT 1 FIRST" := by
  have h := (start : CallRun _ _ ⟨{}, Session.create "schema"⟩)
    |>.call (f := .factory "integer") rfl [.ofString "5", .ofString "none"]
    |>.call (f := .setColumn .first) rfl [.column 0]
    |>.call (f := .setColumn .null) rfl [.column 0]
    |>.call (f := .factory "string") rfl []
    |>.call (f := .setColumn .default) rfl [.column 1, .column 0]
    |>.call (f := .setColumn .after) rfl [.column 0, .ofString "id"]
    |>.call (f := .statement .addColumn) rfl [.ofString "t", .ofString "n", .column 0]
    |>.call (f := .setColumn .default) rfl [.column 0, .bool true]
    |>.call (f := .setColumn .length) rfl [.column 0, .ofString "7"]
    |>.call (f := .setColumn .notNull) rfl [.column 0]
  have hrenders := h.handles_settled.renders (show columnAt? 0 _ = some _ from rfl) {}
    Session.maxLevels (Option.some_ne_none 0).symm
  exact ⟨_, _, h, rfl, hrenders.trans (congrArg Value.text (by decide +kernel))⟩

end CallRun

end SchemaMigration
