import SchemaMigration.Connection.Option
import SchemaMigration.Statement.Basic

/-!
# Connections

A registry makes each named connection at most once. A connection keeps the options that the
environment had when it was made; a name that cannot be connected is not remembered.
-/

namespace SchemaMigration

/-- The name of the connection that scripts use without naming one. -/
def defaultConnection : String := "default"

/-- A named connection: its options and what writes its statements. -/
structure Connection where
  name : String
  option : ConnectionOption
  builder : StatementBuilder
deriving Inhabited

/-- The connections made so far, which share their expression builders. -/
structure ConnectionRegistry where
  expressions : ExpressionRegistry := .usual
  connections : Dict Connection := []
deriving Inhabited

namespace ConnectionRegistry

def connect (r : ConnectionRegistry) (name : String) (option : ConnectionOption) : Connection where
  name
  option
  builder := { quoter := option.quoter, expressions := r.expressions }

/-- The connection of a name, made on first use. The answer has the registry afterwards and the
keys that were looked up. -/
def get (r : ConnectionRegistry) (env : Environment) (name : String) :
    Except ConfigurationError Connection × ConnectionRegistry × List String :=
  match r.connections.get? name with
  | some c => (.ok c, r, [])
  | none =>
    let (option, keys) := ConnectionOption.read env name
    match option.error? with
    | some e => (.error e, r, keys)
    | none =>
      let c := r.connect name option
      (.ok c, { r with connections := r.connections.insert name c }, keys)

def names (r : ConnectionRegistry) : List String := r.connections.names

/-- The registry as a short text: the names of its connections, and its expression builders. -/
def describe (r : ConnectionRegistry) : String :=
  Text.openRecord "ConnectionRegistry"
    [("connections", Text.listing (r.names.map Text.quoted)),
      ("expressions", r.expressions.describe)]

/-- A connection that was made is found again, without a look at the environment. -/
theorem get_of_get?_eq_some {r : ConnectionRegistry} {env : Environment} {name : String}
    {c : Connection} (h : r.connections.get? name = some c) : r.get env name = (.ok c, r, []) := by
  simp [get, h]

end ConnectionRegistry

end SchemaMigration
