import SchemaMigration.Column.Definition
import SchemaMigration.Connection.Registry
import SchemaMigration.Script.Value
import SchemaMigration.Text.Quoted

/-!
# Sessions

A session is what scripts run in: its objects, its global names and variables, its own output
buffer, the messages that were logged and a trace of the statements that were made. The modules
`migrate` and `logger` are tables under these names. Statements go to the buffer that the name
`__GBuffer` holds at that moment.

## Main definitions

* `Context` — what the sessions of one pool share.
* `TableOrder` — the order in which a session goes through its tables.
* `Session`, `Session.create` — a session and a fresh one.
* `Session.registered?`, `Session.install` — the buffer that statements go to.
* `Session.toValue` — the value that an object of the session stands for.
-/

namespace SchemaMigration

/-- What sessions share: the environment, the connections made so far, and what writes the
statements of the module. -/
structure Context where
  environment : Environment := []
  registry : ConnectionRegistry := {}
  builder : StatementBuilder := {}
deriving Inhabited

/-- The context of an environment. Statements of the module use the options of the default
connection, which needs no URL for them. -/
def Context.make (env : Environment) (expressions : ExpressionRegistry) (types : TypeMap) :
    Context where
  environment := env
  registry := { expressions }
  builder :=
    { quoter := (ConnectionOption.read env defaultConnection).1.quoter
      types
      expressions }

structure LogEvent where
  level : String
  message : String
deriving DecidableEq, Repr

/-- The order in which the entries of each table are met. An interpreter hashes keys with a seed
that it draws when it starts, so no order is fixed beforehand. -/
structure TableOrder where
  entries : Nat → Table → Table
  perm : ∀ place t, (entries place t).Perm t

/-- The order in which texts are met after the other keys. -/
def TableOrder.textsLast : TableOrder where
  entries _ t := t.filter (fun e => !e.1.isText) ++ t.filter (·.1.isText)
  perm _ t := List.perm_append_comm.trans (List.filter_append_perm _ t)

instance : Inhabited TableOrder := ⟨.textsLast⟩

/-- What scripts run in. -/
structure Session where
  name : String
  order : TableOrder := .textsLast
  /-- The buffer that statements go to unless another is installed. -/
  ownBuffer : BufferId
  buffers : BufferStore
  tables : Array Table
  columns : Array Column := #[]
  connections : Array Connection := #[]
  functions : Array (List Step) := #[]
  globals : Dict ScriptValue
  /-- Holds if setting a global name that is not there does nothing. -/
  guarded : Bool := false
  vars : Dict ScriptValue := []
  events : List LogEvent := []
  /-- The statements that were made, whichever buffers they went to. -/
  issued : List String := []
deriving Inhabited

namespace Session

/-! ## Modules -/

/-- The name of the module of statement functions. -/
def migrateGlobal : String := "migrate"

def loggerGlobal : String := "logger"

/-- The name that holds the buffer that statements go to. -/
def bufferGlobal : String := "__GBuffer"

/-- The types that the module has a factory for, with the name of each. -/
def factories : List (String × String) :=
  ColumnType.all.map (fun t => (t.tag, t.tag)) ++ [("boolean", "bool")]

def levels : List String := ["trace", "debug", "info", "warn", "error"]

def functionTable (functions : List (String × Function)) : Table :=
  functions.map fun (name, f) => (.ofString name, .function f)

def migrateTable : Table :=
  functionTable ((factories.map fun (name, tag) => (name, .factory tag)) ++
    [("column", .column), ("comment", .comment), ("connection", .connection)] ++
    Operation.all.map fun op => (op.name, .statement op))

def loggerTable : Table := functionTable (levels.map fun level => (level, .log level))

/-- A fresh session with an empty buffer of its own. -/
def create (name : String) (order : TableOrder := .textsLast) : Session :=
  let (own, buffers) := BufferStore.create {}
  { name
    order
    ownBuffer := own
    buffers
    tables := #[migrateTable, loggerTable]
    globals := Dict.ofList [
      (migrateGlobal, .table 0),
      (loggerGlobal, .table 1),
      ("print", .function .print),
      (bufferGlobal, .buffer own)] }

/-! ## Names and buffers -/

def global (s : Session) (name : String) : ScriptValue := .ofOption (s.globals.get? name)

/-- Holds if a global name can be set. -/
def canSet (s : Session) (name : String) : Bool := !s.guarded || s.global name ≠ .nil

theorem global_of_canSet_eq_false {s : Session} {name : String} (h : s.canSet name = false) :
    s.global name = .nil := by
  simp only [canSet, Bool.or_eq_false_iff, decide_eq_false_iff_not] at h
  exact Decidable.not_not.1 h.2

/-- Sets a global name, if it can be set. -/
def setGlobal (s : Session) (name : String) (v : ScriptValue) : Session :=
  { s with globals := if s.canSet name then s.globals.insert name v else s.globals }

/-- From now on, no global names are added. -/
def guardGlobals (s : Session) : Session := { s with guarded := true }

def var (s : Session) (name : String) : ScriptValue := .ofOption (s.vars.get? name)

def setVar (s : Session) (name : String) (v : ScriptValue) : Session :=
  { s with vars := s.vars.insert name v }

/-- The buffer that statements go to, if the name for it holds one. -/
def registered? (s : Session) : Option BufferId :=
  match s.global bufferGlobal with
  | .buffer id => some id
  | _ => none

/-- Lets statements go to a buffer, if the name for it can be set. There is no error: metatables
whose functions fail are left out. -/
def install (s : Session) (id : BufferId) : Session := s.setGlobal bufferGlobal (.buffer id)

@[simp] theorem registered?_install (s : Session) (id : BufferId) :
    (s.install id).registered? = if s.canSet bufferGlobal then some id else none := by
  cases h : s.canSet bufferGlobal with
  | true => simp [registered?, install, setGlobal, h, global, ScriptValue.ofOption]
  | false => simp [registered?, install, setGlobal, h, global_of_canSet_eq_false h]

/-- A session that can make statements can change where they go. -/
theorem canSet_of_registered? {s : Session} {id : BufferId} (h : s.registered? = some id) :
    s.canSet bufferGlobal := by
  have hsome : s.global bufferGlobal ≠ .nil := by
    intro hnil
    simp [registered?, hnil] at h
  simp [canSet, hsome]

def output (s : Session) : String := s.buffers.text s.ownBuffer

/-! ## Objects -/

def table (s : Session) (place : Nat) : Table := s.tables[place]?.getD []

/-- The contents of a table as they are met. -/
def entries (s : Session) (place : Nat) : Table := s.order.entries place (s.table place)

def setTable (s : Session) (place : Nat) (t : Table) : Session :=
  { s with tables := s.tables.setIfInBounds place t }

def newTable (s : Session) (t : Table) : ScriptValue × Session :=
  (.table s.tables.size, { s with tables := s.tables.push t })

def newColumn (s : Session) (c : Column) : ScriptValue × Session :=
  (.column s.columns.size, { s with columns := s.columns.push c })

def setColumn (s : Session) (place : Nat) (c : Column) : Session :=
  { s with columns := s.columns.setIfInBounds place c }

def newConnection (s : Session) (c : Connection) : ScriptValue × Session :=
  (.connection s.connections.size, { s with connections := s.connections.push c })

def newFunction (s : Session) (body : List Step) : ScriptValue × Session :=
  (.function (.script s.functions.size), { s with functions := s.functions.push body })

def addEvent (s : Session) (e : LogEvent) : Session := { s with events := s.events ++ [e] }

/-- Makes a buffer. -/
def newBuffer (s : Session) : BufferId × Session :=
  let (id, buffers) := s.buffers.create
  (id, { s with buffers })

/-! ## Conversion -/

/-- A number of keys 1, 2, … of a table after which the next is not there. -/
def border (t : Table) : Nat :=
  ((List.range' 1 t.length).takeWhile fun (i : Nat) => t.get (.int i) ≠ .nil).length

/-- Holds if a table with a border has as many keys, and all of them are from 1 to the border. -/
def isSequence (t : Table) (border : Nat) : Bool :=
  t.length = border && t.all fun
    | (.int i, _) => 1 ≤ i && i ≤ border
    | _ => false

/-- The fields of the entries whose keys have a text, as they are met. -/
def tableFields (item : ScriptValue → Value) (es : Table) : List (String × Value) :=
  es.filterMap fun (k, v) => k.keyText?.map (·, item v)

/-- The value of a table whose entries are met in some order: a list if its keys are 1 to some
number, or else a map of the keys that have a text. Of several keys with one text the one that is
met last counts. -/
def tableValue (item : ScriptValue → Value) (t es : Table) (border : Nat) : Value :=
  if isSequence t border then
    .list ((List.range' 1 border).map fun (i : Nat) => item (t.get (.int i)))
  else .ofFields (tableFields item es)

/-- The value of what is no table. A column is its definition; a column that is being changed
(`hidden`) and any other object is absent. -/
def leafValue (s : Session) (q : Quoter) (hidden : Option Nat) : ScriptValue → Value
  | .bool b => .bool b
  | .int n => .number (Value.numberOfInt n)
  | .float x => .number x
  | .text t => .text t.lossy
  | .column place =>
    if hidden = some place then .null
    else
      match s.columns[place]? with
      | some c => .text (c.definition q)
      | none => .null
  | _ => .null

/-- How deep tables are converted. -/
def maxLevels : Nat := 16

/-- The value that a value of the session stands for, tables converted so many levels deep. -/
def toValueAt (s : Session) (q : Quoter) (hidden : Option Nat) : Nat → ScriptValue → Value
  | 0, v => s.leafValue q hidden v
  | levels + 1, .table place =>
    tableValue (toValueAt s q hidden levels) (s.table place) (s.entries place)
      (border (s.table place))
  | _ + 1, v => s.leafValue q hidden v

/-- The value that a value of the session stands for. Definitions are quoted by `q`. -/
def toValue (s : Session) (q : Quoter) (v : ScriptValue) : Value := s.toValueAt q none maxLevels v

/-- The arguments of a call, converted while a column is hidden. -/
def arguments (s : Session) (q : Quoter) (hidden : Option Nat) (args : List ScriptValue) :
    Arguments :=
  ⟨args.map (s.toValueAt q hidden maxLevels)⟩

section Congruence

variable {s t : Session} {q : Quoter} {hidden : Option Nat}

/-- Values depend on the tables and the columns of a session only, and on the order of entries. -/
theorem toValueAt_congr (horder : t.order = s.order) (htables : t.tables = s.tables)
    (hcolumns : t.columns = s.columns) (levels : Nat) (v : ScriptValue) :
    t.toValueAt q hidden levels v = s.toValueAt q hidden levels v := by
  induction levels generalizing v with
  | zero => cases v <;> simp [toValueAt, leafValue, hcolumns]
  | succ levels ih =>
    cases v with
    | table place => simp [toValueAt, entries, table, horder, htables, funext ih]
    | _ => simp [toValueAt, leafValue, hcolumns]

theorem arguments_congr {args : List ScriptValue} (horder : t.order = s.order)
    (htables : t.tables = s.tables) (hcolumns : t.columns = s.columns) :
    t.arguments q hidden args = s.arguments q hidden args := by
  simp [arguments, funext (toValueAt_congr horder htables hcolumns maxLevels)]

end Congruence

def updateBuffers (s : Session) (f : BufferStore → BufferStore) : Session :=
  { s with buffers := f s.buffers }

/-- Writes a statement to a buffer, and to the trace. -/
def issue (s : Session) (id : BufferId) (sql : String) : Session :=
  { s with buffers := s.buffers.writeStatement id sql, issued := s.issued ++ [sql] }

def describe (s : Session) : String :=
  Text.openRecord "Session"
    [("name", Text.quoted s.name), ("buffered", toString s.output.utf8ByteSize)]

end Session

end SchemaMigration
