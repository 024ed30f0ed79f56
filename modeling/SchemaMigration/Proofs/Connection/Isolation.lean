import Mathlib.Data.Set.Lattice
import Mathlib.Order.CompletePartialOrder
import SchemaMigration.Proofs.Script.DefaultConnection

/-!
# Connections in one environment

The variables of a connection start with its name in capitals and end in a setting. Names may hold
underscores, as settings do, but no setting ends in an underscore and another setting. So a variable
belongs to one name only, and a connection depends on no variable but its own.

## Main definitions

* `ConnectionOption.stem`, `ConnectionOption.settings` — what the variables of a name are made of.
* `ConnectionOption.ownKeys` — what may be looked up for a name.
* `Eval.callNamed` — a statement function called on a connection that is asked for by name.

## Main results

* `ConnectionOption.disjoint_ownKeys_iff` — when two names have no variable in common.
* `ConnectionOption.isolated` — what the variables of other names cannot change.
-/

namespace SchemaMigration

variable {env env' : Environment} {name other setting setting' : String}

namespace ConnectionOption

/-! ## Variables -/

/-- What the variables of a name start with. -/
def stem (name : String) : String := Text.upper (Text.trim name)

/-- What the variables of a name end in, in the order in which they are looked up. -/
def settings : List String :=
  ["SOURCE", "DB_CONN", "CONN_URL", "TABLE_PREFIX", "TABLE_SUFFIX", "EXTRAS"]

/-- The variables that are looked up for a name in some environment. -/
def ownKeys (name : String) : Set String := {k | ∃ env, k ∈ (read env name).2}

/-- The options of a name are the values of its variables. The second variable of the URL is looked
up where the first gives none. -/
theorem read_eq (env : Environment) (name : String) :
    read env name =
      ({ name
         source := (value? env (key name "SOURCE")).getD ""
         url := ((value? env (key name "DB_CONN")).or (value? env (key name "CONN_URL"))).getD ""
         tablePrefix := (value? env (key name "TABLE_PREFIX")).getD ""
         tableSuffix := (value? env (key name "TABLE_SUFFIX")).getD ""
         properties := ((value? env (key name "EXTRAS")).map parseExtras).getD [] },
        (match value? env (key name "DB_CONN") with
        | some _ => settings.erase "CONN_URL"
        | none => settings).map (key name)) := by
  simp only [read, lookups, StateT.run_bind, run_look]
  cases value? env (key name "DB_CONN") <;> rfl

theorem mem_ownKeys_iff {k : String} :
    k ∈ ownKeys name ↔ ∃ setting ∈ settings, k = key name setting := by
  constructor
  · rintro ⟨env, hk⟩
    rw [read_eq] at hk
    obtain ⟨setting, hsetting, rfl⟩ := List.mem_map.1 hk
    refine ⟨setting, ?_, rfl⟩
    split at hsetting
    · exact List.mem_of_mem_erase hsetting
    · exact hsetting
  · rintro ⟨setting, hsetting, rfl⟩
    -- without a first variable of the URL all of them are looked up
    exact ⟨[], List.mem_map_of_mem hsetting⟩

/-! ## One name for a variable -/

theorem toList_key (name setting : String) :
    (key name setting).toList = (stem name).toList ++ '_' :: setting.toList := by
  simp [key, stem]

/-- No setting ends in an underscore and another setting. -/
theorem eq_of_isSuffix : ∀ s ∈ settings, ∀ s' ∈ settings,
    '_' :: s.toList <:+ '_' :: s'.toList → s = s' := by
  decide +kernel

/-- Whichever underscore the name ends at, a variable has one name and one setting. -/
theorem eq_of_key_eq (hsetting : setting ∈ settings) (hsetting' : setting' ∈ settings)
    (h : key name setting = key other setting') : stem name = stem other ∧ setting = setting' := by
  have hlist := congrArg String.toList h
  rw [toList_key, toList_key] at hlist
  have heq : setting = setting' := by
    obtain ⟨_, -, htail⟩ | ⟨_, -, htail⟩ := List.append_eq_append_iff.1 hlist
    · exact (eq_of_isSuffix _ hsetting' _ hsetting ⟨_, htail.symm⟩).symm
    · exact eq_of_isSuffix _ hsetting _ hsetting' ⟨_, htail.symm⟩
  rw [heq] at hlist
  exact ⟨String.toList_injective (List.append_cancel_right hlist), heq⟩

theorem disjoint_ownKeys_iff : Disjoint (ownKeys name) (ownKeys other) ↔
    stem name ≠ stem other := by
  rw [Set.disjoint_left]
  constructor
  · intro h hstem
    have hsource : "SOURCE" ∈ settings := by decide
    have hkey : key name "SOURCE" = key other "SOURCE" :=
      String.toList_injective (by rw [toList_key, toList_key, hstem])
    exact h (mem_ownKeys_iff.2 ⟨_, hsource, rfl⟩) (mem_ownKeys_iff.2 ⟨_, hsource, hkey⟩)
  · intro hstem k hk hk'
    obtain ⟨setting, hsetting, rfl⟩ := mem_ownKeys_iff.1 hk
    obtain ⟨setting', hsetting', heq⟩ := mem_ownKeys_iff.1 hk'
    exact hstem (eq_of_key_eq hsetting hsetting' heq).1

/-! ## What a connection depends on -/

/-- Environments with the same variables of a name give it the same options, by the same lookups. -/
theorem read_congr (h : ∀ k ∈ ownKeys name, env.get? k = env'.get? k) :
    read env name = read env' name := by
  have hvalue : ∀ setting ∈ settings,
      value? env (key name setting) = value? env' (key name setting) := by
    intro setting hsetting
    rw [value?, value?, h _ (mem_ownKeys_iff.2 ⟨setting, hsetting, rfl⟩)]
  simp only [settings, List.forall_mem_cons] at hvalue
  obtain ⟨hsource, hfirst, hsecond, hbefore, hafter, hextras, -⟩ := hvalue
  rw [read_eq, read_eq, hsource, hfirst, hsecond, hbefore, hafter, hextras]

end ConnectionOption

open ConnectionOption

/-- The interpreter in another environment. -/
def Interpreter.inEnvironment (i : Interpreter) (env : Environment) : Interpreter :=
  { i with context := { i.context with environment := env } }

theorem ConnectionRegistry.get_congr (r : ConnectionRegistry)
    (h : ∀ k ∈ ownKeys name, env.get? k = env'.get? k) : r.get env name = r.get env' name := by
  simp only [get, read_congr h]

namespace Eval

variable {i : Interpreter}

/-- Asks for a connection by name and calls a statement function as its method. -/
def callNamed (invoke : List Step → Eval Unit) (name : String) (op : Operation)
    (args : List ScriptValue) : Eval ScriptValue := do
  let c ← apply invoke [.ofString name] .connection
  apply invoke (c :: args) (.connectionStatement op)

/-- The environment decides which connection it is, and then the statement is made without it. -/
theorem runIn_callNamed (invoke : List Step → Eval Unit) (op : Operation)
    (args : List ScriptValue) :
    runIn (i.inEnvironment env) (callNamed invoke name op args) =
      match i.context.registry.get env name with
      | (.error e, _, _) => (.error (.configuration e), i.inEnvironment env)
      | (.ok c, registry, _) =>
        let answer := runIn i (statement c.builder op args)
        (answer.1.map .ofString,
          ⟨{ i.context with environment := env, registry },
            (answer.2.session.newConnection c).2⟩) := by
  have hask : runIn (i.inEnvironment env) (apply invoke [.ofString name] .connection) =
      runIn (i.inEnvironment env) (connect name) := rfl
  rw [callNamed, runIn_bind, hask, runIn_connect]
  simp only [Interpreter.inEnvironment]
  generalize i.context.registry.get env name = r
  obtain ⟨e | c, registry, keys⟩ := r
  · rfl
  · have hc : (i.session.newConnection c).2.connections[i.session.connections.size]? = some c := by
      simp [Session.newConnection]
    simp only [apply, runIn_bind, runIn_connectionSelf, hc, List.tail_cons,
      runIn_statement_newConnection]
    generalize runIn i (statement c.builder op args) = answer
    obtain ⟨e | sql, j⟩ := answer <;> rfl

end Eval

/-! ## Isolation -/

/-- What two environments give to a name is the same. -/
structure Environment.Alike (env env' : Environment) (name : String) : Prop where
  /-- The options, and the keys that are looked up for them. -/
  options : ConnectionOption.read env name = ConnectionOption.read env' name
  connection : ∀ expressions,
    Connection.ofEnvironment env expressions name = .ofEnvironment env' expressions name
  registry : ∀ r : ConnectionRegistry, r.get env name = r.get env' name
  /-- What a script gets that asks for the connection and makes a statement by it, and what it
  leaves in the session. -/
  statements : ∀ (i : Interpreter) (invoke : List Step → Eval Unit) (op : Operation)
      (args : List ScriptValue),
    let asked := Eval.runIn (i.inEnvironment env) (Eval.callNamed invoke name op args)
    Eval.runIn (i.inEnvironment env') (Eval.callNamed invoke name op args) =
      (asked.1, asked.2.inEnvironment env')

theorem Environment.Alike.of_agree (h : ∀ k ∈ ownKeys name, env.get? k = env'.get? k) :
    env.Alike env' name where
  options := read_congr h
  connection expressions := by rw [Connection.ofEnvironment, Connection.ofEnvironment, read_congr h]
  registry r := r.get_congr h
  statements i invoke op args := by
    dsimp only
    rw [Eval.runIn_callNamed, Eval.runIn_callNamed, i.context.registry.get_congr h]
    obtain ⟨e | c, registry, keys⟩ := i.context.registry.get env' name <;> rfl

/-- Two names have no key in common unless they are the same in capitals, and a name is given the
same by all environments that agree on its own keys, whatever they set for other names. -/
theorem ConnectionOption.isolated (name : String) :
    (∀ other, Disjoint (ownKeys name) (ownKeys other) ↔ stem name ≠ stem other) ∧
      (∀ env env' : Environment, (∀ k ∈ ownKeys name, env.get? k = env'.get? k) →
        env.Alike env' name) ∧
      ∀ other, stem name ≠ stem other → ∀ env env' : Environment,
        (∀ k ∉ ownKeys other, env.get? k = env'.get? k) → env.Alike env' name := by
  refine ⟨fun other => disjoint_ownKeys_iff, fun env env' h => .of_agree h, ?_⟩
  intro other hstem env env' h
  have hdisjoint := Set.disjoint_left.1 (disjoint_ownKeys_iff.2 hstem)
  exact .of_agree fun k hk => h k (hdisjoint hk)

/-- An environment for the connection `a`, and one that has a connection `a_table` as well. -/
def nestedNames : Environment × Environment :=
  let own := [("A_DB_CONN", "mysql://h/a"), ("A_TABLE_PREFIX", "p_")]
  (.ofList own,
    .ofList (own ++ [("A_TABLE_DB_CONN", "mysql://h/b"), ("A_TABLE_TABLE_PREFIX", "q_"),
      ("A_TABLE_EXTRAS", "tableMap.p_t=b")]))

/-- Keys of `a_table` start as keys of `a` do, and still do not change what `a` is; nor do keys of
`a` change what `a_table` is. -/
theorem isolated_nestedNames :
    let i : Interpreter := ⟨.make [] .usual .usual, .create "main"⟩
    let drop (env : Environment) (name : String) :=
      (Eval.runIn (i.inEnvironment env) (Eval.callNamed (Eval.invoke Eval.maxCalls) name .dropTable
        [.ofString "\x7b\x7b%t\x7d\x7d"])).2.session.output
    let changed := nestedNames.2.insert "A_TABLE_PREFIX" "r_"
    Disjoint (ownKeys " a") (ownKeys "a_table") ∧ nestedNames.1.Alike nestedNames.2 " a" ∧
      nestedNames.2.Alike changed "a_table" ∧
      drop nestedNames.1 " a" = "DROP TABLE \x60p_t\x60;\n" ∧
      drop nestedNames.2 " a" = "DROP TABLE \x60p_t\x60;\n" ∧
      drop nestedNames.2 "a_table" = "DROP TABLE \x60q_t\x60;\n" ∧
      drop changed "a_table" = "DROP TABLE \x60q_t\x60;\n" := by
  intro i drop changed
  have hstem : stem " a" ≠ stem "a_table" := by decide +kernel
  have hagree : ∀ setting ∈ settings,
      nestedNames.1.get? (key " a" setting) = nestedNames.2.get? (key " a" setting) := by
    decide +kernel
  have halike : nestedNames.1.Alike nestedNames.2 " a" := by
    refine (ConnectionOption.isolated " a").2.1 _ _ fun k hk => ?_
    obtain ⟨setting, hsetting, rfl⟩ := mem_ownKeys_iff.1 hk
    exact hagree setting hsetting
  have hown : "A_TABLE_PREFIX" ∈ ownKeys " a" :=
    mem_ownKeys_iff.2 ⟨"TABLE_PREFIX", by decide, by decide +kernel⟩
  have halike' : nestedNames.2.Alike changed "a_table" := by
    refine (ConnectionOption.isolated "a_table").2.2 " a" hstem.symm _ _ fun k hk => ?_
    have hne : "A_TABLE_PREFIX" ≠ k := by
      rintro rfl
      exact hk hown
    exact (Dict.get?_insert_of_ne _ _ hne).symm
  refine ⟨((ConnectionOption.isolated " a").1 "a_table").2 hstem, halike, halike', ?_⟩
  decide +kernel

end SchemaMigration
