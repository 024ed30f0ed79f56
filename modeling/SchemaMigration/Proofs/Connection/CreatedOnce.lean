import SchemaMigration.Connection.Registry
import SchemaMigration.Proofs.Value.Dictionary

/-!
# Connections are made once

A registry answers calls while the environment changes. The first call that gets a connection makes
it with the options that the environment has at that moment. Every later one gets the same
connection, whatever the environment has become, and looks up nothing. All other calls leave no
trace in the registry.

## Main definitions

* `Connection.ofEnvironment`, `Environment.SuppliesUrl` — what an environment gives to a name.
* `ConnectionRegistry.Turn` — a call, its environment, and what came of it.
* `RegistryRun` — the calls of a registry, each in an environment of its own.
* `ConnectionRegistry.origin?` — the environment that a connection is from, as the history says.

## Main results

* `RegistryRun.remembers` — what the registry has is what the history says.
* `RegistryRun.created_once` — what follows for the calls of a history and for the next one.
-/

namespace SchemaMigration

variable {env : Environment} {expressions : ExpressionRegistry} {name : String}

/-! ## What an environment gives -/

/-- The connection that an environment gives to a name. -/
def Connection.ofEnvironment (env : Environment) (expressions : ExpressionRegistry)
    (name : String) : Connection :=
  ConnectionRegistry.connect { expressions } name (ConnectionOption.read env name).1

/-- Holds if a variable for the URL of a name is there and is not blank. -/
def Environment.SuppliesUrl (env : Environment) (name : String) : Prop :=
  ∃ setting ∈ ["DB_CONN", "CONN_URL"], ∃ value,
    env.get? (ConnectionOption.key name setting) = some value ∧ Text.trim value ≠ ""

namespace ConnectionOption

/-- What looking up a key answers. -/
def value? (env : Environment) (key : String) : Option String :=
  ((env.get? key).map Text.trim).filter (!·.isEmpty)

theorem value?_eq_some_iff {key s : String} :
    value? env key = some s ↔
      ∃ value, env.get? key = some value ∧ Text.trim value = s ∧ s ≠ "" := by
  simp only [value?, Option.filter_eq_some_iff, Option.map_eq_some_iff, Bool.not_eq_true',
    String.isEmpty_eq_false_iff]
  grind

theorem run_look (env : Environment) (key : String) (keys : List String) :
    (look env key).run keys = (value? env key, keys ++ [key]) := rfl

theorem name_read (env : Environment) (name : String) : (read env name).1.name = name := by
  simp only [read, lookups, StateT.run_bind, run_look]
  cases value? env (key name "DB_CONN") <;> rfl

/-- The first of the two variables of the URL wins, unless it is blank. -/
theorem url_read (env : Environment) (name : String) :
    (read env name).1.url =
      ((value? env (key name "DB_CONN")).or (value? env (key name "CONN_URL"))).getD "" := by
  simp only [read, lookups, StateT.run_bind, run_look]
  cases value? env (key name "DB_CONN") <;> rfl

theorem error?_read_eq_none_iff : (read env name).1.error? = none ↔ env.SuppliesUrl name := by
  have hsupplies : env.SuppliesUrl name ↔
      ∃ s, value? env (key name "DB_CONN") = some s ∨
        value? env (key name "CONN_URL") = some s := by
    simp only [Environment.SuppliesUrl, value?_eq_some_iff]
    grind
  rw [error?, url_read, hsupplies]
  have hne {setting s : String} (h : value? env (key name setting) = some s) : s ≠ "" := by
    obtain ⟨_, _, _, hs⟩ := value?_eq_some_iff.1 h
    exact hs
  cases hfirst : value? env (key name "DB_CONN") with
  | some s => simp [hne hfirst]
  | none =>
    cases hsecond : value? env (key name "CONN_URL") with
    | some s => simp [hne hsecond]
    | none => simp

theorem error?_read_eq_some (h : ¬ env.SuppliesUrl name) :
    (read env name).1.error? = some (.connectionWithoutUrl name) := by
  cases herror : (read env name).1.error? with
  | none => exact absurd (error?_read_eq_none_iff.1 herror) h
  | some e =>
    rw [error?, name_read] at herror
    split at herror
    · exact herror.symm
    · cases herror

end ConnectionOption

namespace ConnectionRegistry

/-! ## Histories -/

inductive Call where
  | get (name : String)
  | option (name : String)

inductive Reply where
  | connection (c : Connection)
  | failure (e : ConfigurationError)
  | option (o : ConnectionOption)

/-- A call, the environment that it was made in, what it answered, and the keys that it looked
up. -/
structure Turn where
  call : Call
  environment : Environment
  reply : Reply
  keys : List String

def Turn.connected? (t : Turn) : Option String :=
  match t.call, t.reply with
  | .get name, .connection _ => some name
  | _, _ => none

def turn (r : ConnectionRegistry) (env : Environment) : Call → Turn
  | .get name =>
    match r.get env name with
    | (.ok c, _, keys) => ⟨.get name, env, .connection c, keys⟩
    | (.error e, _, keys) => ⟨.get name, env, .failure e, keys⟩
  | .option name =>
    let (option, keys) := ConnectionOption.read env name
    ⟨.option name, env, .option option, keys⟩

def after (r : ConnectionRegistry) (env : Environment) : Call → ConnectionRegistry
  | .get name => (r.get env name).2.1
  | .option _ => r

/-- The environment of the first call that got the connection of a name. -/
def origin? (ts : List Turn) (name : String) : Option Environment :=
  (ts.find? fun t => t.connected? = some name).map Turn.environment

end ConnectionRegistry

open ConnectionRegistry

/-- The calls of a registry from its making on. Between two calls the environment may have become
any other. -/
inductive RegistryRun (expressions : ExpressionRegistry) : List Turn → ConnectionRegistry → Prop
  | start : RegistryRun expressions [] { expressions }
  | call {ts r} (h : RegistryRun expressions ts r) (env : Environment) (c : Call) :
      RegistryRun expressions (ts ++ [r.turn env c]) (r.after env c)

namespace ConnectionRegistry

variable {r : ConnectionRegistry} {ts : List Turn} {t : Turn}

theorem origin?_concat (ts : List Turn) (t : Turn) (name : String) :
    origin? (ts ++ [t]) name =
      (origin? ts name).or (if t.connected? = some name then some t.environment else none) := by
  rw [origin?, List.find?_append, origin?]
  cases ts.find? fun t => t.connected? = some name with
  | some t' => rfl
  | none => by_cases h : t.connected? = some name <;> simp [h]

theorem origin?_append {before rest : List Turn} (ht : t.connected? = some name) :
    origin? (before ++ t :: rest) name = some ((origin? before name).getD t.environment) := by
  rw [origin?, List.find?_append, origin?, List.find?_cons_of_pos (by simp [ht])]
  cases before.find? fun t => t.connected? = some name <;> rfl

theorem isSome_origin?_iff : (origin? ts name).isSome ↔ ∃ t ∈ ts, t.connected? = some name := by
  simp [origin?]

/-! ## What is remembered -/

/-- A registry connects names with its own builders of expressions. -/
theorem connect_read (h : r.expressions = expressions) (env : Environment) (name : String) :
    r.connect name (ConnectionOption.read env name).1 = .ofEnvironment env expressions name := by
  simp only [connect, Connection.ofEnvironment, h]

/-- A registry has a connection for every name that was got, from the environment of the first
time. -/
structure Remembers (expressions : ExpressionRegistry) (ts : List Turn) (r : ConnectionRegistry) :
    Prop where
  expressions_eq : r.expressions = expressions
  sorted : r.connections.Sorted
  get?_eq : ∀ name, r.connections.get? name =
    (origin? ts name).map fun env => .ofEnvironment env expressions name

namespace Remembers

theorem start : Remembers expressions [] { expressions } := ⟨rfl, List.Pairwise.nil, fun _ => rfl⟩

/-- What was got once is found again, in every environment. -/
theorem get_of_origin {first : Environment} (h : r.Remembers expressions ts)
    (horigin : origin? ts name = some first) (env : Environment) :
    r.get env name = (.ok (.ofEnvironment first expressions name), r, []) :=
  get_of_get?_eq_some (by rw [h.get?_eq, horigin]; rfl)

/-- What was never got is made, if there is a URL for it. -/
theorem get_of_suppliesUrl (h : r.Remembers expressions ts) (horigin : origin? ts name = none)
    (hurl : env.SuppliesUrl name) :
    r.get env name =
      (.ok (.ofEnvironment env expressions name),
        { r with connections :=
            r.connections.insert name (.ofEnvironment env expressions name) },
        (ConnectionOption.read env name).2) := by
  have hnone : r.connections.get? name = none := by rw [h.get?_eq, horigin]; rfl
  simp only [get, hnone, ConnectionOption.error?_read_eq_none_iff.2 hurl,
    connect_read h.expressions_eq]

theorem get_of_not_suppliesUrl (h : r.Remembers expressions ts) (horigin : origin? ts name = none)
    (hurl : ¬ env.SuppliesUrl name) :
    r.get env name =
      (.error (.connectionWithoutUrl name), r, (ConnectionOption.read env name).2) := by
  have hnone : r.connections.get? name = none := by rw [h.get?_eq, horigin]; rfl
  simp only [get, hnone, ConnectionOption.error?_read_eq_some hurl]

/-- Calls that get no connection make no difference. -/
theorem after_of_connected?_eq_none (h : r.Remembers expressions ts) {c : Call}
    (hc : (r.turn env c).connected? = none) : r.after env c = r := by
  cases c with
  | option name => rfl
  | get name =>
    cases horigin : origin? ts name with
    | some first => rw [after, h.get_of_origin horigin]
    | none =>
      by_cases hurl : env.SuppliesUrl name
      · simp [turn, h.get_of_suppliesUrl horigin hurl, Turn.connected?] at hc
      · rw [after, h.get_of_not_suppliesUrl horigin hurl]

/-- One more turn that tells nothing new of the names. -/
theorem concat (h : r.Remembers expressions ts)
    (ht : ∀ name, t.connected? = some name → (origin? ts name).isSome) :
    r.Remembers expressions (ts ++ [t]) where
  expressions_eq := h.expressions_eq
  sorted := h.sorted
  get?_eq name := by
    rw [h.get?_eq, origin?_concat]
    by_cases hname : t.connected? = some name
    · obtain ⟨first, hfirst⟩ := Option.isSome_iff_exists.1 (ht name hname)
      rw [hfirst]
      rfl
    · rw [if_neg hname, Option.or_none]

/-- Every call adds to the history what it leaves in the registry. -/
theorem call (h : r.Remembers expressions ts) (env : Environment) (c : Call) :
    (r.after env c).Remembers expressions (ts ++ [r.turn env c]) := by
  cases c with
  | option name => exact h.concat (by simp [turn, Turn.connected?])
  | get name =>
    cases horigin : origin? ts name with
    | some first =>
      rw [after, turn, h.get_of_origin horigin]
      exact h.concat (by simp [Turn.connected?, horigin])
    | none =>
      by_cases hurl : env.SuppliesUrl name
      · rw [after, turn, h.get_of_suppliesUrl horigin hurl]
        refine ⟨h.expressions_eq, h.sorted.insert _ _, fun other => ?_⟩
        rw [Dict.get?_insert, origin?_concat]
        by_cases hother : name = other
        · subst hother
          simp [Turn.connected?, horigin]
        · simp [Turn.connected?, hother, h.get?_eq]
      · rw [after, turn, h.get_of_not_suppliesUrl horigin hurl]
        exact h.concat (by simp [Turn.connected?])

end Remembers

end ConnectionRegistry

namespace RegistryRun

variable {r : ConnectionRegistry} {ts : List Turn}

theorem remembers (h : RegistryRun expressions ts r) : r.Remembers expressions ts := by
  induction h with
  | start => exact .start
  | call _ env c ih => exact ih.call env c

/-- Every turn of a history is a call in some state of the registry. -/
theorem of_append (h : RegistryRun expressions ts r) {before rest : List Turn} {t : Turn}
    (hts : ts = before ++ t :: rest) :
    ∃ r', RegistryRun expressions before r' ∧ t = r'.turn t.environment t.call := by
  induction h generalizing rest with
  | start => simp at hts
  | @call ts r h env c ih =>
    obtain rfl | ⟨rest, last, rfl⟩ := rest.eq_nil_or_concat'
    · obtain ⟨rfl, rfl⟩ := List.append_singleton_inj.1 hts
      refine ⟨r, h, ?_⟩
      cases c with
      | option name => rfl
      | get name =>
        rw [turn]
        split <;> rename_i hget <;> simp only [turn, hget]
    · rw [← List.cons_append, ← List.append_assoc] at hts
      exact ih (List.append_singleton_inj.1 hts).1

/-- Without the calls that got no connection, the registry comes out as it is. -/
theorem filter_connected (h : RegistryRun expressions ts r) :
    RegistryRun expressions (ts.filter (·.connected?.isSome)) r := by
  induction h with
  | start => exact .start
  | @call ts r h env c ih =>
    rw [List.filter_append]
    cases hc : (r.turn env c).connected? with
    | none =>
      rw [h.remembers.after_of_connected?_eq_none hc, List.filter_cons_of_neg (by simp [hc]),
        List.filter_nil, List.append_nil]
      exact ih
    | some name =>
      rw [List.filter_cons_of_pos (by simp [hc]), List.filter_nil]
      exact ih.call env c

end RegistryRun

/-! ## One connection for a name -/

/-- What holds of a registry with a history. -/
structure ConnectionRegistry.CreatedOnce (expressions : ExpressionRegistry) (ts : List Turn)
    (r : ConnectionRegistry) : Prop where
  /-- The first time the connection is made, from the environment of that moment. -/
  created : ∀ before t rest name c, ts = before ++ t :: rest →
    t.call = .get name → t.reply = .connection c →
    (∀ t' ∈ before, t'.connected? ≠ some name) →
    c.name = name ∧ c.option = (ConnectionOption.read t.environment name).1 ∧
      c = .ofEnvironment t.environment expressions name
  repeated : ∀ before t between t' rest name c, ts = before ++ t :: (between ++ t' :: rest) →
    t.call = .get name → t.reply = .connection c → t'.call = .get name →
    t'.reply = .connection c ∧ t'.keys = []
  /-- The same of calls that are still to come. -/
  remembered : ∀ t ∈ ts, ∀ name c, t.call = .get name → t.reply = .connection c →
    ∀ env, r.get env name = (.ok c, r, [])
  fails_iff : ∀ env name e, (r.get env name).1 = .error e ↔
    e = .connectionWithoutUrl name ∧ ¬ env.SuppliesUrl name ∧
      ∀ t ∈ ts, t.connected? ≠ some name
  failed : ∀ env name e, (r.get env name).1 = .error e → r.after env (.get name) = r
  /-- Whatever failed before. -/
  supplied : ∀ env name, env.SuppliesUrl name → ∃ c, (r.get env name).1 = .ok c
  option : ∀ env name, r.after env (.option name) = r ∧
    (r.turn env (.option name)).reply = .option (ConnectionOption.read env name).1
  /-- Calls of `option` and calls that failed can be left out of the history. -/
  silent : RegistryRun expressions (ts.filter (·.connected?.isSome)) r
  sorted : r.names.Pairwise (· < ·)
  names : ∀ name, name ∈ r.names ↔
    ∃ t ∈ ts, t.call = .get name ∧ ∃ c, t.reply = .connection c

namespace ConnectionRegistry

variable {r : ConnectionRegistry} {ts : List Turn} {t : Turn} {c : Connection}

theorem Turn.connected?_eq_some_iff :
    t.connected? = some name ↔ t.call = .get name ∧ ∃ c, t.reply = .connection c := by
  obtain ⟨call, env, reply, keys⟩ := t
  cases call <;> cases reply <;> simp [connected?]

theorem turn_get (r : ConnectionRegistry) (env : Environment) (name : String) :
    (r.turn env (.get name)).reply =
        (match (r.get env name).1 with
        | .ok c => .connection c
        | .error e => .failure e) ∧
      (r.turn env (.get name)).keys = (r.get env name).2.2 := by
  rw [turn]
  split <;> rename_i hget <;> simp [hget]

theorem ok_of_reply_turn (h : (r.turn env (.get name)).reply = .connection c) :
    (r.get env name).1 = .ok c := by
  rw [(turn_get r env name).1] at h
  split at h <;> cases h
  assumption

end ConnectionRegistry

namespace RegistryRun

variable {r : ConnectionRegistry} {ts : List Turn}

/-- A call got the connection that the first of them made. -/
theorem eq_ofEnvironment (h : RegistryRun expressions ts r) {before rest : List Turn} {t : Turn}
    {c : Connection} (hts : ts = before ++ t :: rest) (hcall : t.call = .get name)
    (hreply : t.reply = .connection c) :
    c = .ofEnvironment ((origin? before name).getD t.environment) expressions name := by
  obtain ⟨r', hbefore, ht⟩ := h.of_append hts
  rw [hcall] at ht
  rw [ht] at hreply
  have hok := ok_of_reply_turn hreply
  have hr' := hbefore.remembers
  cases horigin : origin? before name with
  | some first =>
    rw [hr'.get_of_origin horigin] at hok
    exact (Except.ok.inj hok).symm
  | none =>
    by_cases hurl : t.environment.SuppliesUrl name
    · rw [hr'.get_of_suppliesUrl horigin hurl] at hok
      exact (Except.ok.inj hok).symm
    · rw [hr'.get_of_not_suppliesUrl horigin hurl] at hok
      cases hok

/-- After a call got a connection, the next gets it again. -/
theorem get_again (h : RegistryRun expressions ts r) {t : Turn} {c : Connection} (ht : t ∈ ts)
    (hcall : t.call = .get name) (hreply : t.reply = .connection c) (env : Environment) :
    r.get env name = (.ok c, r, []) := by
  obtain ⟨before, rest, hts⟩ := List.append_of_mem ht
  have hconnected : t.connected? = some name :=
    Turn.connected?_eq_some_iff.2 ⟨hcall, c, hreply⟩
  have horigin : origin? ts name = some ((origin? before name).getD t.environment) := by
    rw [hts, origin?_append hconnected]
  rw [h.remembers.get_of_origin horigin, h.eq_ofEnvironment hts hcall hreply]

/-- Whatever is called while the environment changes, a name has one connection, from the first call
that got it on. -/
theorem created_once (h : RegistryRun expressions ts r) : CreatedOnce expressions ts r where
  created before t rest name c hts hcall hreply hfirst := by
    have hnone : origin? before name = none := by
      rw [← Option.not_isSome_iff_eq_none, isSome_origin?_iff]
      rintro ⟨t', ht', hconnected⟩
      exact hfirst t' ht' hconnected
    have hc := h.eq_ofEnvironment hts hcall hreply
    rw [hnone, Option.getD_none] at hc
    subst hc
    exact ⟨rfl, rfl, rfl⟩
  repeated before t between t' rest name c hts hcall hreply hcall' := by
    rw [← List.cons_append, ← List.append_assoc] at hts
    obtain ⟨r', hbefore, ht'⟩ := h.of_append hts
    have hget := hbefore.get_again (by simp) hcall hreply t'.environment
    obtain ⟨hreply', hkeys'⟩ := r'.turn_get t'.environment name
    rw [hcall'] at ht'
    rw [ht', hreply', hkeys', hget]
    exact ⟨rfl, rfl⟩
  remembered t ht name c hcall hreply env := h.get_again ht hcall hreply env
  fails_iff env name e := by
    have hnever : (∀ t ∈ ts, t.connected? ≠ some name) ↔ origin? ts name = none := by
      rw [← Option.not_isSome_iff_eq_none, isSome_origin?_iff]
      simp
    rw [hnever]
    cases horigin : origin? ts name with
    | some first => simp [h.remembers.get_of_origin horigin]
    | none =>
      by_cases hurl : env.SuppliesUrl name
      · simp [h.remembers.get_of_suppliesUrl horigin hurl, hurl]
      · simp [h.remembers.get_of_not_suppliesUrl horigin hurl, hurl, eq_comm]
  failed env name e he := by
    refine h.remembers.after_of_connected?_eq_none ?_
    have hreply := (r.turn_get env name).1
    rw [he] at hreply
    rw [Option.eq_none_iff_forall_ne_some]
    intro other hother
    obtain ⟨_, c, hc⟩ := Turn.connected?_eq_some_iff.1 hother
    rw [hreply] at hc
    cases hc
  supplied env name hurl := by
    cases horigin : origin? ts name with
    | some first => exact ⟨_, by rw [h.remembers.get_of_origin horigin]⟩
    | none => exact ⟨_, by rw [h.remembers.get_of_suppliesUrl horigin hurl]⟩
  option env name := ⟨rfl, rfl⟩
  silent := h.filter_connected
  sorted := List.pairwise_map.2 h.remembers.sorted
  names name := by
    rw [ConnectionRegistry.names, ← Dict.isSome_get?_iff, h.remembers.get?_eq, Option.isSome_map,
      isSome_origin?_iff]
    simp only [Turn.connected?_eq_some_iff]

end RegistryRun

/-- Two environments that give the same name different connections. -/
def changedEnvironments : Environment × Environment :=
  (.ofList [("MAIN_DB_CONN", "mysql://h/one"), ("MAIN_TABLE_PREFIX", "p_")],
    .ofList [("MAIN_CONN_URL", "mysql://h/two")])

/-- The first call fails for want of a URL, the third makes the connection, and the last gets it
again. -/
theorem created_once_changedEnvironments :
    ∃ ts r, RegistryRun .usual ts r ∧ CreatedOnce .usual ts r ∧
      ts.map (fun t => t.connected?) = [none, none, some "main", some "main"] ∧
      ts.map (fun t => t.keys.length) = [6, 5, 5, 0] ∧
      r.connections.map (fun p => (p.1, p.2.option.url)) = [("main", "mysql://h/one")] := by
  have hstart : RegistryRun .usual [] {} := .start
  have hfailed := hstart.call [] (.get "main")
  have hasked := hfailed.call changedEnvironments.1 (.option "main")
  have hgot := hasked.call changedEnvironments.1 (.get "main")
  have hagain := hgot.call changedEnvironments.2 (.get "main")
  exact ⟨_, _, hagain, hagain.created_once, by decide +kernel, by decide +kernel, by decide +kernel⟩

end SchemaMigration
