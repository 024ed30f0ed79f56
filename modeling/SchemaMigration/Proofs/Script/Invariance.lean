import SchemaMigration.Proofs.Script.Confinement

/-!
# Invariants of evaluation

Evaluating a script calls functions of the modules and of objects, and works on variables, tables
and functions of its own in between. What neither spoils holds after every evaluation, whatever it
comes to.

## Main definitions

* `Eval.Keeps` — computations that keep a property.
* `Function.isPrimitive` — the functions that are not a script's.
* `Interpreter.Stable` — properties that calls of these and the work in between keep.
* `Interpreter.Invariant` — properties that hold on when connections are made, and do not speak of
  anything else in a session.
* `Eval.keeps_script`, `Eval.keeps_steps`, `Eval.keeps_run` — evaluation keeps stable properties.
-/

namespace SchemaMigration

/-- Holds for the functions of the modules and of objects, but not for those of scripts. -/
def Function.isPrimitive : Function → Bool
  | .script _ => false
  | _ => true

/-- Holds for the functions that make or change columns. -/
def Function.writesColumns : Function → Bool
  | .factory _ | .column | .setColumn _ => true
  | _ => false

namespace Eval

variable {α β : Type} {P : Interpreter → Prop}

/-- A computation after which a property holds if it held before. -/
def Keeps (P : Interpreter → Prop) (x : Eval α) : Prop := ∀ i, P i → P (runIn i x).2

namespace Keeps

theorem pure (a : α) : Keeps P (Pure.pure a : Eval α) := fun _ hi => hi

theorem throw (e : ScriptFault) : Keeps P (MonadExcept.throw e : Eval α) := fun _ hi => hi

theorem session : Keeps P Eval.session := fun _ hi => hi

theorem get : Keeps P (MonadState.get : Eval Interpreter) := fun _ hi => hi

theorem bind {x : Eval α} {f : α → Eval β} (hx : Keeps P x) (hf : ∀ a, Keeps P (f a)) :
    Keeps P (x >>= f) := by
  intro i hi
  have hj := hx i hi
  rw [runIn_bind]
  generalize runIn i x = r at hj ⊢
  obtain ⟨e | a, j⟩ := r
  · exact hj
  · exact hf a j hj

theorem tryCatch {x : Eval α} {handle : ScriptFault → Eval α} (hx : Keeps P x)
    (hh : ∀ e, Keeps P (handle e)) : Keeps P (MonadExcept.tryCatch x handle) := by
  intro i hi
  have hj := hx i hi
  rw [runIn_tryCatch]
  generalize runIn i x = r at hj ⊢
  obtain ⟨e | a, j⟩ := r
  · exact hh e j hj
  · exact hj

end Keeps

end Eval

/-- Holds for properties that changes of a session keep which leave its columns and connections. -/
def Interpreter.KeptByWork (P : Interpreter → Prop) : Prop :=
  ∀ {i : Interpreter} {s : Session}, s.columns = i.session.columns →
    s.connections = i.session.connections → P i → P { i with session := s }

/-- A property of interpreters that the work of scripts on tables and variables keeps, and every
call of a function that is not a script's. -/
structure Interpreter.Stable (P : Interpreter → Prop) : Prop where
  work : Interpreter.KeptByWork P
  call : ∀ {f : Function}, f.isPrimitive = true → ∀ invoke args,
    Eval.Keeps P (Eval.apply invoke args f)

/-- A property of interpreters that speaks of the connections in the session only, and holds on when
one is made. -/
structure Interpreter.Invariant (P : Interpreter → Prop) : Prop where
  session : ∀ {i : Interpreter} {s : Session}, s.connections = i.session.connections → P i →
    P { i with session := s }
  connect : ∀ name, Eval.Keeps P (Eval.connect name)

namespace Eval

variable {P : Interpreter → Prop}

/-- Changing the session, but neither its columns nor its connections. -/
theorem Keeps.update (hP : Interpreter.KeptByWork P) {f : Session → Session}
    (hcolumns : ∀ s, (f s).columns = s.columns)
    (hconnections : ∀ s, (f s).connections = s.connections) : Keeps P (Eval.update f) :=
  fun i hi => hP (hcolumns i.session) (hconnections i.session) hi

theorem Keeps.update_then {α : Type} (hP : Interpreter.KeptByWork P) {f : Session → Session}
    (a : α) (hcolumns : ∀ s, (f s).columns = s.columns)
    (hconnections : ∀ s, (f s).connections = s.connections) :
    Keeps P (do Eval.update f; return a) :=
  (Keeps.update hP hcolumns hconnections).bind fun _ => .pure a

theorem Keeps.make {α : Type} (hP : Interpreter.KeptByWork P) {f : Session → α × Session}
    (hcolumns : ∀ s, (f s).2.columns = s.columns)
    (hconnections : ∀ s, (f s).2.connections = s.connections) : Keeps P (Eval.make f) :=
  fun i hi => hP (hcolumns i.session) (hconnections i.session) hi

/-! ## Functions -/

section Functions

theorem keeps_arguments (q : Quoter) (args : List ScriptValue) : Keeps P (arguments q args) :=
  Keeps.session.bind fun _ => .pure _

theorem keeps_textArgument (v : ScriptValue) : Keeps P (textArgument v) := by
  unfold textArgument
  split
  · exact .pure _
  · exact .pure _
  · exact .pure _
  · exact .throw _

theorem keeps_columnSelf (args : List ScriptValue) : Keeps P (columnSelf args) := by
  unfold columnSelf
  split
  · refine Keeps.session.bind fun s => ?_
    split
    · exact .pure _
    · exact .throw _
  · exact .throw _

theorem keeps_connectionSelf (args : List ScriptValue) : Keeps P (connectionSelf args) := by
  unfold connectionSelf
  split
  · refine Keeps.session.bind fun s => ?_
    split
    · exact .pure _
    · exact .throw _
  · exact .throw _

theorem keeps_bufferSelf (args : List ScriptValue) : Keeps P (bufferSelf args) := by
  unfold bufferSelf
  split
  · exact .pure _
  · exact .throw _

theorem keeps_statement (hP : Interpreter.KeptByWork P) (b : StatementBuilder) (op : Operation)
    (args : List ScriptValue) : Keeps P (statement b op args) := by
  refine Keeps.session.bind fun s => ?_
  split
  · exact .throw _
  · split
    · exact .throw _
    · split
      · exact .pure _
      · exact .update_then hP _ (fun _ => rfl) fun _ => rfl

/-- Functions that write no columns change nothing but buffers and messages, and make
connections. -/
theorem keeps_apply_of_not_writesColumns (hP : Interpreter.KeptByWork P)
    (hconnect : ∀ name, Keeps P (connect name)) {f : Function} (hf : f.isPrimitive = true)
    (hcolumns : f.writesColumns = false) (invoke : List Step → Eval Unit)
    (args : List ScriptValue) : Keeps P (apply invoke args f) := by
  cases f with
  | script => cases hf
  | factory | column | setColumn => cases hcolumns
  | print => exact .pure _
  | statement op =>
    exact Keeps.get.bind fun _ => (keeps_statement hP _ op args).bind fun _ => .pure _
  | comment => exact (keeps_textArgument _).bind fun _ => .pure _
  | connection =>
    simp only [apply]
    split
    · exact hconnect _
    · exact (keeps_textArgument _).bind fun _ => hconnect _
  | log level =>
    refine (keeps_arguments {} args).bind fun _ => ?_
    exact .update_then hP _ (fun _ => rfl) fun _ => rfl
  | columnCategory => exact (keeps_columnSelf args).bind fun _ => .pure _
  | connectionStatement op =>
    refine (keeps_connectionSelf args).bind fun _ => ?_
    exact (keeps_statement hP _ op _).bind fun _ => .pure _
  | connectionName => exact (keeps_connectionSelf args).bind fun _ => .pure _
  | bufferWrite =>
    refine (keeps_bufferSelf args).bind fun _ => (keeps_textArgument _).bind fun _ => ?_
    exact .update_then hP _ (fun _ => rfl) fun _ => rfl
  | bufferString => exact (keeps_bufferSelf args).bind fun _ => Keeps.session.bind fun _ => .pure _
  | bufferReset =>
    refine (keeps_bufferSelf args).bind fun _ => ?_
    exact .update_then hP _ (fun _ => rfl) fun _ => rfl
  | bufferLen => exact (keeps_bufferSelf args).bind fun _ => Keeps.session.bind fun _ => .pure _

variable {invoke : List Step → Eval Unit}

theorem keeps_apply (hP : Interpreter.Stable P) (hinv : ∀ body, Keeps P (invoke body))
    (args : List ScriptValue) (f : Function) : Keeps P (apply invoke args f) := by
  cases f with
  | script place => exact Keeps.session.bind fun _ => (hinv _).bind fun _ => .pure _
  | _ => exact hP.call rfl invoke args

theorem keeps_call (hP : Interpreter.Stable P) (hinv : ∀ body, Keeps P (invoke body))
    (f : ScriptValue) (args : List ScriptValue) : Keeps P (call invoke f args) := by
  unfold call
  split
  · exact keeps_apply hP hinv args _
  · exact .throw _

end Functions

/-! ## Members, tables and variables -/

theorem keeps_member (v : ScriptValue) (name : String) : Keeps P (member v name) := by
  unfold member
  split
  · exact Keeps.session.bind fun _ => .pure _
  · exact .pure _
  · exact .pure _
  · exact .pure _
  · exact .pure _
  · exact .throw _

theorem keeps_setEntry (t : Table) (key value : ScriptValue) : Keeps P (setEntry t key value) := by
  unfold setEntry
  split
  · exact .pure _
  · exact .throw _

theorem keeps_tableOf (entries : List (ScriptValue × ScriptValue)) (t : Table) :
    Keeps P (tableOf entries t) := by
  induction entries generalizing t with
  | nil => exact .pure _
  | cons kv entries ih => exact (keeps_setEntry t kv.1 kv.2).bind fun t => ih t

theorem keeps_put (hP : Interpreter.Stable P) (table key value : ScriptValue) :
    Keeps P (put table key value) := by
  unfold put
  split
  · exact Keeps.session.bind fun _ => (keeps_setEntry _ key value).bind fun _ =>
      .update hP.work (fun _ => rfl) fun _ => rfl
  · exact .throw _

theorem keeps_keep (hP : Interpreter.Stable P) (target : Option String) (v : ScriptValue) :
    Keeps P (keep target v) := by
  cases target with
  | none => exact .pure _
  | some name => exact .update_then hP.work _ (fun _ => rfl) fun _ => rfl

theorem keeps_successor (v : ScriptValue) : Keeps P (successor v) := by
  unfold successor
  split
  · exact .pure _
  · exact .pure _
  · exact .pure _
  · exact .pure _
  · dsimp only
    split
    · exact .pure _
    · split
      · exact .pure _
      · exact .throw _
    · exact .throw _
  · exact .throw _

theorem keeps_describe (v : ScriptValue) : Keeps P (describe v) := by
  refine Keeps.session.bind fun s => ?_
  cases v <;> exact .pure _

end Eval

open Eval

/-- Columns do not matter to a property of connections. -/
theorem Interpreter.Invariant.stable {P : Interpreter → Prop} (hP : Interpreter.Invariant P) :
    Interpreter.Stable P where
  work _ hconnections hi := hP.session hconnections hi
  call {f} hf invoke args := by
    cases f with
    | factory tag => exact (keeps_arguments {} args).bind fun _ _ hi => hP.session rfl hi
    | column => exact (keeps_arguments {} args).bind fun _ _ hi => hP.session rfl hi
    | setColumn setter =>
      refine (keeps_columnSelf args).bind fun (place, c) => Keeps.session.bind fun s => ?_
      exact Keeps.bind (fun _ hi => hP.session rfl hi) fun _ => .pure _
    | _ =>
      refine keeps_apply_of_not_writesColumns (fun _ hconnections => hP.session hconnections)
        hP.connect hf rfl invoke args

/-! ## Terms and steps -/

section Terms

variable {P : Interpreter → Prop} {invoke : List Step → Eval Unit}

mutual

theorem Term.keeps_eval (hP : Interpreter.Stable P) (hinv : ∀ body, Keeps P (invoke body))
    (t : Term) : Keeps P (t.eval invoke) := by
  cases t with
  | nil | bool | int | float | text => exact .pure _
  | function =>
    rw [Term.eval]
    exact .make hP.work (fun _ => rfl) fun _ => rfl
  | var | global => exact Keeps.session.bind fun _ => .pure _
  | array items =>
    refine (keeps_evalItems hP hinv items).bind fun _ => ?_
    exact .make hP.work (fun _ => rfl) fun _ => rfl
  | table entries =>
    refine (keeps_evalEntries hP hinv entries).bind fun kvs => ?_
    exact (keeps_tableOf kvs []).bind fun _ => .make hP.work (fun _ => rfl) fun _ => rfl
  | column factory args settings =>
    refine Keeps.session.bind fun s => (keeps_member _ factory).bind fun f => ?_
    refine (keeps_evalItems hP hinv args).bind fun vs => (keeps_call hP hinv f vs).bind fun v => ?_
    exact keeps_evalSettings hP hinv v settings

theorem keeps_evalItems (hP : Interpreter.Stable P) (hinv : ∀ body, Keeps P (invoke body))
    (ts : List Term) : Keeps P (evalItems invoke ts) := by
  cases ts with
  | nil => exact .pure _
  | cons t ts =>
    exact (t.keeps_eval hP hinv).bind fun _ => (keeps_evalItems hP hinv ts).bind fun _ => .pure _

theorem keeps_evalEntries (hP : Interpreter.Stable P) (hinv : ∀ body, Keeps P (invoke body))
    (entries : List (Term × Term)) : Keeps P (evalEntries invoke entries) := by
  cases entries with
  | nil => exact .pure _
  | cons entry entries =>
    refine (entry.1.keeps_eval hP hinv).bind fun _ => (entry.2.keeps_eval hP hinv).bind fun _ => ?_
    exact (keeps_evalEntries hP hinv entries).bind fun _ => .pure _

theorem keeps_evalSettings (hP : Interpreter.Stable P) (hinv : ∀ body, Keeps P (invoke body))
    (v : ScriptValue) (settings : List (String × List Term)) :
    Keeps P (evalSettings invoke v settings) := by
  cases settings with
  | nil => exact .pure _
  | cons setting settings =>
    refine (keeps_member v setting.1).bind fun f => ?_
    refine (keeps_evalItems hP hinv setting.2).bind fun vs => ?_
    exact (keeps_call hP hinv f (v :: vs)).bind fun r => keeps_evalSettings hP hinv r settings

end

mutual

theorem Step.keeps_eval (hP : Interpreter.Stable P) (hinv : ∀ body, Keeps P (invoke body))
    (s : Step) : Keeps P (s.eval invoke) := by
  cases s with
  | call function args target =>
    refine Keeps.session.bind fun s => (keeps_member _ function).bind fun f => ?_
    refine (keeps_evalItems hP hinv args).bind fun vs => (keeps_call hP hinv f vs).bind fun r => ?_
    exact keeps_keep hP target r
  | method name on args target =>
    refine (on.keeps_eval hP hinv).bind fun v => (keeps_member v name).bind fun f => ?_
    refine (keeps_evalItems hP hinv args).bind fun vs => ?_
    exact (keeps_call hP hinv f (v :: vs)).bind fun r => keeps_keep hP target r
  | member name on args target =>
    refine (on.keeps_eval hP hinv).bind fun v => (keeps_member v name).bind fun f => ?_
    refine (keeps_evalItems hP hinv args).bind fun vs => ?_
    exact (keeps_call hP hinv f vs).bind fun r => keeps_keep hP target r
  | value term target => exact (term.keeps_eval hP hinv).bind fun v => keeps_keep hP target v
  | setGlobal name term =>
    refine (term.keeps_eval hP hinv).bind fun v => ?_
    exact .update_then hP.work _ (fun _ => rfl) fun _ => rfl
  | guardGlobals => exact .update_then hP.work _ (fun _ => rfl) fun _ => rfl
  | put table key value =>
    refine (table.keeps_eval hP hinv).bind fun t => (key.keeps_eval hP hinv).bind fun k => ?_
    refine (value.keeps_eval hP hinv).bind fun v => ?_
    exact (keeps_put hP t k v).bind fun _ => .pure _
  | increment name =>
    refine Keeps.session.bind fun s => (keeps_successor _).bind fun v => ?_
    exact keeps_keep hP (some name) v
  | describe term => exact (term.keeps_eval hP hinv).bind fun v => keeps_describe v
  | log level args =>
    refine Keeps.session.bind fun s => (keeps_member _ level).bind fun f => ?_
    refine (keeps_evalItems hP hinv args).bind fun vs => ?_
    exact (keeps_call hP hinv f vs).bind fun _ => .pure _
  | fail message => exact .throw _
  | attempt steps =>
    refine .tryCatch ?_ fun _ => .pure _
    exact (keeps_evalSteps hP hinv steps).bind fun _ => .pure _

theorem keeps_evalSteps (hP : Interpreter.Stable P) (hinv : ∀ body, Keeps P (invoke body))
    (ss : List Step) : Keeps P (evalSteps invoke ss) := by
  cases ss with
  | nil => exact .pure _
  | cons s ss => exact (s.keeps_eval hP hinv).bind fun _ => keeps_evalSteps hP hinv ss

end

end Terms

/-! ## Scripts -/

namespace Eval

variable {P : Interpreter → Prop} (hP : Interpreter.Stable P)

include hP

theorem keeps_invoke (calls : Nat) (body : List Step) : Keeps P (invoke calls body) := by
  induction calls generalizing body with
  | zero => exact .throw _
  | succ calls ih => exact keeps_evalSteps hP ih body

theorem keeps_steps (ss : List Step) : Keeps P (steps ss) :=
  keeps_evalSteps hP (keeps_invoke hP maxCalls) ss

theorem keeps_term (t : Term) : Keeps P (term t) := t.keeps_eval hP (keeps_invoke hP maxCalls)

theorem keeps_entry (e : Entry) : Keeps P (entry e) := by
  cases e with
  | function body =>
    rw [entry]
    exact .make hP.work (fun _ => rfl) fun _ => rfl
  | value t => exact keeps_term hP t

theorem keeps_entries (es : List (String × Entry)) (t : Table) : Keeps P (entries es t) := by
  induction es generalizing t with
  | nil => exact .pure _
  | cons e es ih => exact (keeps_entry hP e.2).bind fun v => ih _

theorem keeps_publish (v : ScriptValue) (name? : Option String) : Keeps P (publish v name?) := by
  cases name? with
  | none => exact .pure _
  | some name => exact .update hP.work (fun _ => rfl) fun _ => rfl

theorem keeps_answer (v : ScriptValue) (a : Answer) : Keeps P (answer v a) := by
  cases a with
  | entries | nothing => exact .pure _
  | value t => exact keeps_term hP t

/-- Calling a function keeps stable properties. -/
theorem keeps_run (f : Function) (args : List ScriptValue) :
    Keeps P (apply (invoke maxCalls) args f) :=
  keeps_apply hP (keeps_invoke hP maxCalls) args f

/-- Evaluating a script keeps stable properties. -/
theorem keeps_script (s : Script) : Keeps P (script s) := by
  cases s with
  | empty => exact .pure _
  | malformed => exact .throw _
  | program p =>
    refine (keeps_entries hP p.entries []).bind fun t => ?_
    refine (Keeps.make hP.work (fun _ => rfl) fun _ => rfl).bind fun v => ?_
    refine (keeps_steps hP p.top).bind fun _ => ?_
    exact (keeps_publish hP v p.global?).bind fun _ => keeps_answer hP v p.answer

end Eval

end SchemaMigration
