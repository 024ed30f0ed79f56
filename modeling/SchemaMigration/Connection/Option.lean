import SchemaMigration.Error
import SchemaMigration.FormEncoding
import SchemaMigration.Identifier
import SchemaMigration.Json.Printer
import SchemaMigration.Json.Reader

/-!
# Connection options

The settings of a named connection come from environment variables whose names start with the
connection's name in capitals.

## Main definitions

* `parseExtras` — further properties, as a JSON object or form encoded.
* `ConnectionOption.read` — the options of a name, and the keys that were looked up for them.
* `ConnectionOption.quoter` — the quoter of a connection.
-/

namespace SchemaMigration

abbrev Environment := Dict String

/-! ## Properties -/

/-- The text of a property: a text as it is, anything else as JSON. -/
def propertyText : Json → String
  | .text s => s
  | j => j.compact

/-- Adds a value to a property. Further values of one property follow a comma. -/
def addProperty (d : Dict String) (name value : String) : Dict String :=
  match d.get? name with
  | some before => d.insert name (before ++ "," ++ value)
  | none => d.insert name value

/-- The properties of form encoded pairs. The empty name does not count. -/
def formProperties (pairs : List (String × String)) : Dict String :=
  (pairs.filter (!·.1.isEmpty)).foldl (fun d (name, value) => addProperty d name value) []

/-- The properties of a text: those of a JSON object, or else of form encoded pairs, of which at
least one has an equals sign. Anything else has none. -/
def parseExtras (raw : String) : Dict String :=
  let s := Text.trim raw
  match Json.read s with
  | some (.object members) => members.map fun (name, j) => (name, propertyText j)
  | _ => if Text.has '=' s then formProperties (FormEncoding.read s) else []

/-! ## Options -/

structure ConnectionOption where
  /-- The name as given. -/
  name : String
  /-- The locator of its migrations. -/
  source : String := ""
  url : String := ""
  tablePrefix : String := ""
  tableSuffix : String := ""
  properties : Dict String := []
deriving DecidableEq, Repr, Inhabited

namespace ConnectionOption

/-- A computation that looks up environment variables. It keeps the keys in order. -/
abbrev Lookups := StateM (List String)

/-- The variable of a key, without white space at its ends. A blank one does not count. -/
def look (env : Environment) (key : String) : Lookups (Option String) := do
  modify (· ++ [key])
  return ((env.get? key).map Text.trim).filter (!·.isEmpty)

def key (name setting : String) : String := Text.upper (Text.trim name) ++ "_" ++ setting

/-- Looks up the options of a name. The second key of the URL is for when the first has none. -/
def lookups (env : Environment) (name : String) : Lookups ConnectionOption := do
  let source ← look env (key name "SOURCE")
  let url ← match ← look env (key name "DB_CONN") with
    | some url => pure (some url)
    | none => look env (key name "CONN_URL")
  let tablePrefix ← look env (key name "TABLE_PREFIX")
  let tableSuffix ← look env (key name "TABLE_SUFFIX")
  let extras ← look env (key name "EXTRAS")
  return {
    name
    source := source.getD ""
    url := url.getD ""
    tablePrefix := tablePrefix.getD ""
    tableSuffix := tableSuffix.getD ""
    properties := (extras.map parseExtras).getD [] }

/-- The options of a name, and the keys that were looked up for them. -/
def read (env : Environment) (name : String) : ConnectionOption × List String :=
  (lookups env name).run []

/-- Why no connection can be made with these options. -/
def error? (o : ConnectionOption) : Option ConfigurationError :=
  if o.url.isEmpty then some (.connectionWithoutUrl o.name) else none

def setUnlessEmpty (q : Quoter) (key value : String) : Quoter :=
  if value.isEmpty then q else q.set key value

/-- The quoter of a connection. The texts before and after table names win over properties of the
same name. -/
def quoter (o : ConnectionOption) : Quoter :=
  let q := setUnlessEmpty ⟨o.properties⟩ NameKind.table.beforeKey o.tablePrefix
  setUnlessEmpty q NameKind.table.afterKey o.tableSuffix

end ConnectionOption

end SchemaMigration
