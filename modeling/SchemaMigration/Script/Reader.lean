import SchemaMigration.Decimal.Reader
import SchemaMigration.Json.Reader
import SchemaMigration.Script.Step
import SchemaMigration.Value.Json

/-!
# Reading scripts

Scripts are written as JSON: a step or a term is an object whose members say what it is. Every
reader is a recursion on the document.

## Main definitions

* `Term.ofJson?`, `Step.ofJson?` — a term and a step.
* `Program.ofJson?` — a script with its entry table.
* `Script.ofJson?` — the script of a file.
-/

namespace SchemaMigration

def Term.intOfText? (s : String) : Option Int :=
  match s.toList with
  | '-' :: cs => (Decimal.nat? (.ofList cs)).map fun n => -(n : Int)
  | _ => (Decimal.nat? s).map fun n => (n : Int)

def ScriptText.bytesOfHex? : List Char → Option (List UInt8)
  | [] => some []
  | high :: low :: cs => do
    let n := (← Json.hexValue? high) * 16 + (← Json.hexValue? low)
    return UInt8.ofNat n :: (← bytesOfHex? cs)
  | [_] => none

def Json.text? (j : Json) (name : String) : Option String :=
  match j.member? name with
  | some (.text s) => some s
  | _ => none

namespace Term

/-- The term of a member that has one form only: a number, bytes, a variable, a global name. -/
def ofLeaf? (name : String) (j : Json) : Option Term :=
  match name, j with
  | "num", .text s => (Decimal.float? s).map .float
  | "int", .text s => (intOfText? s).map .int
  | "bytes", .text s => (ScriptText.bytesOfHex? s.toList).map fun bs => .text (.ofBytes bs)
  | "fn", .bool true => some .function
  | "var", .text s => some (.var s)
  | "glob", .text s => some (.global s)
  | _, _ => none

/-- What the members of an object of a term say, gathered. -/
structure Parts where
  leaf? : Option Term := none
  table? : Option (List (Term × Term)) := none
  factory? : Option String := none
  args : List Term := []
  settings : List (String × List Term) := []

def Parts.term? (p : Parts) : Option Term :=
  match p.leaf?, p.table?, p.factory? with
  | some t, _, _ => some t
  | none, some entries, _ => some (.table entries)
  | none, none, some factory => some (.column factory p.args p.settings)
  | none, none, none => none

mutual

def ofJson? : Json → Option Term
  | .null => some .nil
  | .bool b => some (.bool b)
  | .int n => some (if n < 0x8000000000000000 then .int n else .float (Value.numberOfInt n))
  | .float x => some (.float x)
  | .text s => some (.text (.valid s))
  | .array items => (listOfJson? items).map .array
  | .object members => (partsOfJson? members).bind Parts.term?

def listOfJson? : List Json → Option (List Term)
  | [] => some []
  | j :: js => do
    let t ← ofJson? j
    let ts ← listOfJson? js
    return t :: ts

/-- The members of the object of a term. -/
def partsOfJson? : List (String × Json) → Option Parts
  | [] => some {}
  | (name, j) :: members => do
    let p ← partsOfJson? members
    match name, j with
    | "table", .array entries => return { p with table? := some (← entriesOfJson? entries) }
    | "args", .array args => return { p with args := ← listOfJson? args }
    | "set", .array settings => return { p with settings := ← settingsOfJson? settings }
    | "col", .text factory => return { p with factory? := some factory }
    | name, j => return { p with leaf? := some (← ofLeaf? name j) }

def entriesOfJson? : List Json → Option (List (Term × Term))
  | [] => some []
  | .array [key, value] :: js => do
    let k ← ofJson? key
    let v ← ofJson? value
    let kvs ← entriesOfJson? js
    return (k, v) :: kvs
  | _ :: _ => none

def settingsOfJson? : List Json → Option (List (String × List Term))
  | [] => some []
  | .array (.text name :: args) :: js => do
    let ts ← listOfJson? args
    let rest ← settingsOfJson? js
    return (name, ts) :: rest
  | _ :: _ => none

end

end Term

namespace Step

/-- The term of a member, nil if there is none. -/
def term? (j : Json) (name : String) : Option Term :=
  match j.member? name with
  | some t => Term.ofJson? t
  | none => some .nil

/-- The terms of a member that is a list, none if there is none. -/
def terms? (j : Json) (name : String) : Option (List Term) :=
  match j.member? name with
  | some (.array items) => Term.listOfJson? items
  | some .null | none => some []
  | _ => none

/-- The step that calls a method. On the table of global names, the function that gives a table its
metatable counts only if names that are not there can no longer be set then. -/
def ofMethod (name : String) (on : Term) (args : List Term) (target : Option String) : Step :=
  match name, on, args, target with
  | "setmetatable", .global "_G", [.table [(.text (.valid "__newindex"), .function)]], none =>
    .guardGlobals
  | _, _, _, _ => .method name on args target

/-- The step of an object without steps inside it. The first member in this order that it has says
what it is. -/
def ofMembers? (j : Json) : Option Step :=
  let target := j.text? "let"
  if let some function := j.text? "call" then do
    return .call function (← terms? j "args") target
  else if let some name := j.text? "method" then do
    return ofMethod name (← term? j "on") (← terms? j "args") target
  else if let some name := j.text? "dot" then do
    return .member name (← term? j "on") (← terms? j "args") target
  else if let some name := j.text? "global" then do
    return .setGlobal name (← term? j "value")
  else if let some name := j.text? "incr" then
    some (.increment name)
  else if let some level := j.text? "log" then do
    return .log level (← terms? j "args")
  else if let some message := j.text? "fail" then
    some (.fail message)
  else if let some (.array [t, k, v]) := j.member? "put" then do
    return .put (← Term.ofJson? t) (← Term.ofJson? k) (← Term.ofJson? v)
  else if let some term := j.member? "tostring" then
    (Term.ofJson? term).map .describe
  else if let some term := j.member? "value" then
    (Term.ofJson? term).map fun t => .value t target
  else none

mutual

def ofJson? : Json → Option Step
  | .object members =>
    match attemptOfJson? members with
    | some step => some step
    | none => ofMembers? (.object members)
  | _ => none

/-- The step of an object that holds steps. -/
def attemptOfJson? : List (String × Json) → Option Step
  | [] => none
  | (name, .array steps) :: members =>
    if name = "pcall" then (listOfJson? steps).map .attempt else attemptOfJson? members
  | _ :: members => attemptOfJson? members

def listOfJson? : List Json → Option (List Step)
  | [] => some []
  | j :: js => do
    let s ← ofJson? j
    let ss ← listOfJson? js
    return s :: ss

end

end Step

/-- The entry of a document: the steps of a function, or a value. -/
def Entry.ofJson? (j : Json) : Option Entry :=
  match j with
  | .array steps => (Step.listOfJson? steps).map .function
  | j => (Step.term? j "value").map .value

def Answer.ofJson? : Option Json → Option Answer
  | none | some .null => some .entries
  | some (.text "nothing") => some .nothing
  | some j => (Step.term? j "value").map .value

def Program.ofJson? (j : Json) : Option Program := do
  let entries ← match j.member? "entries" with
    | some (.object members) => members.mapM fun (name, e) => return (name, ← Entry.ofJson? e)
    | some .null | none => some []
    | _ => none
  let top ← match j.member? "top" with
    | some (.array steps) => Step.listOfJson? steps
    | some .null | none => some []
    | _ => none
  let answer ← Answer.ofJson? (j.member? "return")
  return { entries, top, global? := j.text? "global", answer }

/-- The script of a file's text. Only the empty text is a script. -/
def Script.ofText (s : String) : Script := if s.isEmpty then .empty else .malformed s

/-- The script of a document: one with a text, or a program. -/
def Script.ofJson? (j : Json) : Option Script :=
  match j.text? "raw" with
  | some text => some (.ofText text)
  | none => (Program.ofJson? j).map .program

end SchemaMigration
