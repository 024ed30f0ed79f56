import SchemaMigration.Proofs.Column.PhysicalType
import SchemaMigration.Proofs.Script.Confinement

/-!
# Positional arguments and setters

A factory takes the length, the default and the comment of a column by position. Setters take them
one by one. For most values both ways come to the same column. They do not for a boolean default,
which a factory writes as a word and the setter as a number, for a default that is no value, which a
factory leaves out, and for a comment that is an empty map.

## Main definitions

* `Column.ofSetters` — the column that setters make.
* `Eval.positional`, `Eval.bySetters` — the two ways as calls.
* `Eval.rendered` — what the handle that was made renders to.

The main result is `Eval.rendered_positional_eq_iff`.
-/

namespace SchemaMigration

/-! ## Columns -/

namespace Column

/-- A column without arguments whose length, default and comment are set one by one. -/
def ofSetters (tag : String) (l d c : Value) : Column :=
  (((ofArgs tag []).set (.length l)).set (.default (Setter.defaultText d))).set (.comment c.asText)

theorem ofSetters_eq (tag : String) (l d c : Value) :
    ofSetters tag l d c =
      { ofArgs tag [l, d, c] with
        default? := some (Setter.defaultText d)
        comment? := some c.asText } := rfl

variable (tag : String) (l d c : Value)

theorem defaultClause_ofArgs :
    (ofArgs tag [l, d, c]).defaultClause = if d.isNull then "" else " DEFAULT " ++ d.asText := by
  cases d <;> rfl

theorem defaultClause_ofSetters :
    (ofSetters tag l d c).defaultClause = " DEFAULT " ++ Setter.defaultText d := rfl

/-- Only booleans and the absent value are written in two ways. -/
theorem defaultClause_ofArgs_eq_iff :
    (ofArgs tag [l, d, c]).defaultClause = (ofSetters tag l d c).defaultClause ↔
      d ≠ .null ∧ ∀ b, d ≠ .bool b := by
  rw [defaultClause_ofArgs, defaultClause_ofSetters]
  cases d with
  | null => simp [Value.isNull, Setter.defaultText]
  | bool b => cases b <;> simp [Value.isNull, Setter.defaultText, Value.asText, Value.literal]
  | _ => simp [Value.isNull, Setter.defaultText]

/-- An empty text is no comment, wherever it comes from. -/
theorem commentClause_ofArgs_of_ne (hc : c ≠ .map []) :
    (ofArgs tag [l, d, c]).commentClause = (ofSetters tag l d c).commentClause := by
  have hpresent : present ((some c).filter (!·.isEmpty) |>.map Value.asText) =
      present (some c.asText) := by
    cases hempty : c.isEmpty with
    | false => simp [hempty, Option.filter_some]
    | true =>
      have htext : c.asText = "" := by
        cases c with
        | null => rfl
        | text s => simpa [Value.isEmpty, Value.asText] using hempty
        | list items =>
          obtain rfl : items = [] := by simpa [Value.isEmpty] using hempty
          rfl
        | map fields => simp_all [Value.isEmpty]
        | bool | number => cases hempty
      simp [hempty, Option.filter_some, htext, present]
  simp only [commentClause, ofSetters_eq, ← hpresent]
  rfl

theorem commentClause_emptyMap :
    (ofArgs tag [l, d, .map []]).commentClause = "" ∧
      (ofSetters tag l d (.map [])).commentClause = " COMMENT \"\x7b\x7d\"" := by
  have htext : (Value.map []).asText = "\x7b\x7d" := by decide
  refine ⟨rfl, ?_⟩
  simp only [commentClause, ofSetters_eq, htext]
  decide

/-- A comment of the setter only is not made up for by a default of the other column. -/
theorem defaultClause_ne_append :
    (ofArgs tag [l, d, c]).defaultClause.toList ≠
      (ofSetters tag l d c).defaultClause.toList ++ " COMMENT \"\x7b\x7d\"".toList := by
  rw [defaultClause_ofArgs, defaultClause_ofSetters]
  cases d with
  | null => decide
  | bool b => cases b <;> decide
  | _ => simp [Value.isNull, Setter.defaultText]

variable (t : ColumnType) (q : Quoter)

/-- Both ways come to one definition if neither the default nor the comment tells them apart. A
primary key has no default. -/
theorem definition_ofArgs_eq_iff :
    (ofArgs t.tag [l, d, c]).definition q = (ofSetters t.tag l d c).definition q ↔
      c ≠ .map [] ∧ (t.isPk = true ∨ d ≠ .null ∧ ∀ b, d ≠ .bool b) := by
  have htype (c : Column) (htag : c.tag = t.tag) (hsigned : c.isUnsigned = false) :
      c.type? = some t := by
    simp [type?, declaredType?, htag, hsigned, ColumnType.ofTag?_tag]
  have hclause {name : String} (hd : name ≠ "default") (hc : name ≠ "comment") :
      (ofSetters t.tag l d c).clause q t name = (ofArgs t.tag [l, d, c]).clause q t name := by
    unfold clause
    split <;> first | rfl | contradiction
  have hdefault (c : Column) : c.clause q t "default" = c.defaultClause := rfl
  have hcomment (c : Column) : c.clause q t "comment" = c.commentClause := rfl
  have hcheck : (ofArgs t.tag [l, d, c]).clause q t "check" = "" := rfl
  have hpos : (ofArgs t.tag [l, d, c]).clause q t "pos" = "" := rfl
  have happend : (ofArgs t.tag [l, d, c]).clause q t "append" = "" := rfl
  rw [← String.toList_inj, toList_definition (htype _ rfl rfl), toList_definition (htype _ rfl rfl),
    clauseNames]
  by_cases hc : c = .map []
  · -- only the setter writes the comment, and it is longer by that
    subst hc
    obtain ⟨hargs, hsetters⟩ := commentClause_emptyMap t.tag l d
    cases hpk : t.isPk with
    | true => simp [hclause, hcomment, hargs, hsetters, happend]
    | false =>
      have hne := defaultClause_ne_append t.tag l d (.map [])
      simpa [hclause, hcomment, hargs, hsetters, hdefault, hcheck, hpos, happend] using hne
  · have hsame := commentClause_ofArgs_of_ne t.tag l d c hc
    have hiff := String.toList_inj.trans (defaultClause_ofArgs_eq_iff t.tag l d c)
    cases hpk : t.isPk with
    | true => simp [hclause, hcomment, hsame, hc]
    | false => simpa [hclause, hcomment, hsame, hc, hdefault] using hiff

end Column

/-! ## New columns -/

namespace Session

variable {s : Session}

theorem setColumn_newColumn (c c' : Column) :
    (s.newColumn c).2.setColumn s.columns.size c' = (s.newColumn c').2 := by
  simp [setColumn, newColumn, Array.setIfInBounds, Array.set_push]

/-- While a new column is hidden, values stand for what they stood for before. -/
theorem toValueAt_newColumn (c : Column) (q : Quoter) (levels : Nat) (v : ScriptValue) :
    (s.newColumn c).2.toValueAt q (some s.columns.size) levels v = s.toValueAt q none levels v := by
  have hleaf (v : ScriptValue) :
      (s.newColumn c).2.leafValue q (some s.columns.size) v = s.leafValue q none v := by
    cases v with
    | column place =>
      by_cases hplace : place = s.columns.size
      · simp [leafValue, hplace]
      · simp [leafValue, newColumn, Array.getElem?_push, hplace, Ne.symm hplace]
    | _ => rfl
  induction levels generalizing v with
  | zero => exact hleaf v
  | succ levels ih =>
    cases v with
    | table place =>
      rw [toValueAt, toValueAt, funext ih]
      rfl
    | _ => exact hleaf _

theorem arguments_newColumn (c : Column) (args : List ScriptValue) :
    (s.newColumn c).2.arguments {} (some s.columns.size) args = s.arguments {} none args := by
  simp [arguments, toValueAt_newColumn]

theorem toValue_newColumn (c : Column) (q : Quoter) :
    (s.newColumn c).2.toValue q (s.newColumn c).1 = .text (c.definition q) := by
  have hcol : (s.newColumn c).2.columns[s.columns.size]? = some c := by simp [newColumn]
  change (s.newColumn c).2.leafValue q none (.column s.columns.size) = _
  simp [leafValue, hcol]

end Session

/-! ## Calls -/

namespace Eval

/-- A column with its arguments given by position. -/
def positional (tag : String) (l d c : ScriptValue) : Eval ScriptValue :=
  apply (invoke maxCalls) [l, d, c] (.factory tag)

/-- A column without arguments, and then the setters. -/
def bySetters (tag : String) (l d c : ScriptValue) : Eval ScriptValue := do
  let column ← apply (invoke maxCalls) [] (.factory tag)
  let column ← apply (invoke maxCalls) [column, l] (.setColumn .length)
  let column ← apply (invoke maxCalls) [column, d] (.setColumn .default)
  apply (invoke maxCalls) [column, c] (.setColumn .comment)

/-- What the handle that a computation answers renders to. -/
def rendered (q : Quoter) (i : Interpreter) (x : Eval ScriptValue) : Except ScriptFault Value :=
  (runIn i do
    let v ← x
    return (← session).toValue q v).1

variable {i : Interpreter} {tag : String}

theorem rendered_of_runIn {x : Eval ScriptValue} {c : Column}
    (h : runIn i x =
      (.ok (i.session.newColumn c).1, { i with session := (i.session.newColumn c).2 }))
    (q : Quoter) : rendered q i x = .ok (.text (c.definition q)) := by
  simp only [rendered, runIn_bind, h, runIn_session, runIn_pure, Session.toValue_newColumn]

theorem runIn_factory (invoke : List Step → Eval Unit) (args : List ScriptValue) :
    runIn i (apply invoke args (.factory tag)) =
      let c := Column.ofArgs tag (i.session.arguments {} none args).values
      (.ok (i.session.newColumn c).1, { i with session := (i.session.newColumn c).2 }) := rfl

/-- A setter of a new column makes it another new column. -/
theorem runIn_setColumn_newColumn (invoke : List Step → Eval Unit) (c : Column) (setter : Setter)
    (args : List ScriptValue) :
    runIn { i with session := (i.session.newColumn c).2 }
        (apply invoke ((i.session.newColumn c).1 :: args) (.setColumn setter)) =
      let c' := c.set (setter.setting (i.session.arguments {} none args))
      (.ok (i.session.newColumn c').1, { i with session := (i.session.newColumn c').2 }) := by
  have hcol : (i.session.newColumn c).2.columns[i.session.columns.size]? = some c := by
    simp [Session.newColumn]
  have hplace (c : Column) : (i.session.newColumn c).1 = .column i.session.columns.size := rfl
  simp only [apply, setColumn, columnSelf, hplace, runIn_bind, runIn_session, hcol, runIn_pure,
    runIn_update, List.tail_cons, Session.arguments_newColumn, Session.setColumn_newColumn]

theorem runIn_bySetters (l d c : ScriptValue) :
    runIn i (bySetters tag l d c) =
      let col := Column.ofSetters tag (i.session.toValue {} l) (i.session.toValue {} d)
        (i.session.toValue {} c)
      (.ok (i.session.newColumn col).1, { i with session := (i.session.newColumn col).2 }) := by
  simp only [bySetters, runIn_bind, runIn_factory, runIn_setColumn_newColumn]
  rfl

/-- Both ways make a column of any type from any values. For every quoter the definitions are the
same iff the comment is not an empty map and the default is neither absent nor a boolean. The
default does not matter for a primary key. -/
theorem rendered_positional_eq_iff (q : Quoter) (i : Interpreter) (t : ColumnType)
    (l d c : ScriptValue) :
    ∃ args setters, rendered q i (positional t.tag l d c) = .ok (.text args) ∧
      rendered q i (bySetters t.tag l d c) = .ok (.text setters) ∧
      (args = setters ↔ i.session.toValue {} c ≠ .map [] ∧
        (t.isPk = true ∨
          i.session.toValue {} d ≠ .null ∧ ∀ b, i.session.toValue {} d ≠ .bool b)) :=
  ⟨_, _, rendered_of_runIn (runIn_factory _ [l, d, c]) q,
    rendered_of_runIn (runIn_bySetters l d c) q, Column.definition_ofArgs_eq_iff _ _ _ t q⟩

/-- A boolean column whose default is true. -/
theorem rendered_positional_trueDefault :
    let i : Interpreter := ⟨{}, Session.create "schema"⟩
    rendered {} i (positional "bool" .nil (.bool true) (.ofString "c")) =
        .ok (.text "bool NOT NULL DEFAULT true COMMENT \"c\"") ∧
      rendered {} i (bySetters "bool" .nil (.bool true) (.ofString "c")) =
        .ok (.text "bool NOT NULL DEFAULT 1 COMMENT \"c\"") := by
  intro i
  constructor
  · rw [positional, rendered_of_runIn (runIn_factory _ _)]
    exact congrArg (Except.ok <| Value.text ·) (by decide +kernel)
  · rw [rendered_of_runIn (runIn_bySetters _ _ _)]
    exact congrArg (Except.ok <| Value.text ·) (by decide +kernel)

end Eval

end SchemaMigration
