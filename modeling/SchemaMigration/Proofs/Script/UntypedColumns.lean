import SchemaMigration.Proofs.Script.ColumnHandles
import SchemaMigration.Proofs.Script.KeyedColumns
import SchemaMigration.Proofs.Script.StatementCalls

/-!
# Columns without a type

A column whose type name is no type has no definition, whatever was set. A table is created without
such a column. The statements that add or change a column are made all the same: where the
definition belongs, nothing stands.

## Main definitions

* `TableLine.Undefined`, `TableLine.UndefinedField` — columns without a definition in what is given
  to `createTable`.
* `Operation.frame?` — what stands around the definition in a statement that changes a column.
* `DefinitionUses` — what the statements make of the definition of a handle.

The main result is `CallRun.definition_uses`.
-/

namespace SchemaMigration

theorem Column.definition_eq_empty_iff (c : Column) (q : Quoter) :
    c.definition q = "" ↔ ColumnType.ofTag? c.tag = none := by
  cases htype : ColumnType.ofTag? c.tag with
  | none => simp [definition, type?, declaredType?, htype]
  | some t =>
    obtain ⟨t', ht'⟩ : ∃ t', c.type? = some t' := by simp [type?, declaredType?, htype]
    obtain ⟨d, hd, -⟩ := exists_mem_definition ht' q
    simp only [reduceCtorEq, iff_false]
    intro hempty
    simp [hempty] at hd

/-! ## Creating a table -/

/-- What gives nothing can be left out. -/
theorem filterMap_filter_of_none {α β : Type} {f : α → Option β} {l : List α} {keep : α → Bool}
    (h : ∀ a ∈ l, keep a = false → f a = none) : (l.filter keep).filterMap f = l.filterMap f := by
  rw [List.filterMap_filter]
  refine List.filterMap_congr fun a ha => ?_
  cases hkeep : keep a with
  | true => rfl
  | false => simp [h a ha hkeep]

namespace TableLine

/-- The items of a list that are columns without a definition. -/
inductive Undefined : Value → Prop
  | line : Undefined (.text "")
  | pair (name : Value) (more : List Value) : Undefined (.list (name :: .text "" :: more))

/-- The fields of a map that are columns without a definition. -/
inductive UndefinedField : String × Value → Prop
  | column (name : String) : UndefinedField (name, .text "")
  | item {key : String} {n : Nat} {v : Value} (hkey : IndexText key n) (hv : Undefined v) :
    UndefinedField (key, v)

variable {fields named numbered : List (String × Value)}

/-- An arrangement is still one when fields are left out. -/
theorem Arranged.filter (h : Arranged fields named numbered) (keep : String × Value → Bool) :
    Arranged (fields.filter keep) (named.filter keep) (numbered.filter keep) where
  perm := by
    rw [← List.filter_append]
    exact h.perm.filter keep
  isName p hp := h.isName p (List.mem_of_mem_filter hp)
  isNumber p hp := h.isNumber p (List.mem_of_mem_filter hp)
  names := h.names.filter keep
  numbers := h.numbers.filter keep

end TableLine

namespace StatementBuilder

open TableLine

variable (b : StatementBuilder)

@[simp] theorem columnType_empty : b.columnType "" = "" := by
  have hempty : dropSeparators "" = "" := by decide
  simp [columnType, hempty, TypeMap.resolve]

theorem tableLine?_column_empty (name : String) : b.tableLine? (.column name "") = none := by
  have hempty : Text.trim "" = "" := by decide
  simp [tableLine?, hempty]

theorem bind_lineOf?_of_undefined {v : Value} (hv : Undefined v) :
    (lineOf? v).bind b.tableLine? = none := by
  cases hv with
  | line => rfl
  | pair name more => exact b.tableLine?_column_empty name.asText

theorem lines_list_filter {items : List Value} {keep : Value → Bool}
    (h : ∀ v ∈ items, keep v = false → Undefined v) :
    (ofValue (.list (items.filter keep))).filterMap b.tableLine? =
      (ofValue (.list items)).filterMap b.tableLine? := by
  simp only [ofValue, List.filterMap_filterMap]
  exact filterMap_filter_of_none fun v hv hkeep => b.bind_lineOf?_of_undefined (h v hv hkeep)

theorem lines_map_filter {fields : List (String × Value)} (hfields : Dict.Sorted fields)
    {keep : String × Value → Bool} (h : ∀ p ∈ fields, keep p = false → UndefinedField p) :
    (ofValue (.map (fields.filter keep))).filterMap b.tableLine? =
      (ofValue (.map fields)).filterMap b.tableLine? := by
  have harranged := arranged hfields
  have hmem (p : String × Value) (hp : p ∈ arrangedNames fields ++ arrangedNumbers fields) :
      p ∈ fields := harranged.perm.mem_iff.1 hp
  have hnames (p : String × Value) (hp : p ∈ arrangedNames fields) (hkeep : keep p = false) :
      b.tableLine? (.column p.1 p.2.asText) = none := by
    cases h p (hmem p (List.mem_append_left _ hp)) hkeep with
    | column name => exact b.tableLine?_column_empty name
    | item hkey => exact absurd hkey (harranged.isName _ hp _)
  have hnumbers (p : String × Value) (hp : p ∈ arrangedNumbers fields) (hkeep : keep p = false) :
      (lineOf? p.2).bind b.tableLine? = none := by
    cases h p (hmem p (List.mem_append_right _ hp)) hkeep with
    | column => exact b.bind_lineOf?_of_undefined .line
    | item _ hv => exact b.bind_lineOf?_of_undefined hv
  rw [ofValue_of_arranged (List.Pairwise.filter keep hfields) (harranged.filter keep),
    ofValue_map, List.filterMap_append, List.filterMap_append, List.filterMap_map,
    List.filterMap_map, List.filterMap_filterMap, List.filterMap_filterMap, Function.comp_def,
    filterMap_filter_of_none hnames, filterMap_filter_of_none hnumbers]

theorem statement_createTable_congr (table : Value) (more : List Value) {v w : Value}
    (h : (ofValue v).filterMap b.tableLine? = (ofValue w).filterMap b.tableLine?) :
    Operation.statement b ⟨table :: v :: more⟩ .createTable =
      Operation.statement b ⟨table :: w :: more⟩ .createTable := by
  change Except.ok (b.createTable _ (ofValue v) _) = Except.ok (b.createTable _ (ofValue w) _)
  rw [createTable, h]
  rfl

end StatementBuilder

/-! ## Changing a column -/

namespace Operation

/-- What stands before and after the definition in a statement that adds or changes a column. -/
def frame? (b : StatementBuilder) (a : Arguments) : Operation → Option (String × String)
  | .addColumn =>
    some (b.write ["ALTER TABLE ", .table (a.text 0), " ADD ", .column (a.text 1), " "], "")
  | .alterColumn => some (change, "")
  | .alterColumnComment => some (change, " COMMENT " ++ StatementBuilder.quoteValue (a.text 3))
  | _ => none
where
  change : String :=
    b.write ["ALTER TABLE ", .table (a.text 0), " CHANGE ", .column (a.text 1), " ",
      .column (a.text 1), " "]

variable {b : StatementBuilder} {a : Arguments} {op : Operation} {head tail : String}

theorem statement_of_frame (h : op.frame? b a = some (head, tail)) :
    op.statement b a = .ok (head ++ b.columnType (a.text 2) ++ tail) := by
  cases op with
  | addColumn | alterColumn | alterColumnComment =>
    cases h
    simp [statement, StatementBuilder.addColumn, StatementBuilder.alterColumn,
      StatementBuilder.alterColumnComment, frame?.change, StatementBuilder.write, Part.write,
      String.join, String.append_assoc]
  | _ => cases h

theorem head_ne_empty (h : op.frame? b a = some (head, tail)) : head ≠ "" := by
  cases op with
  | addColumn | alterColumn | alterColumnComment =>
    cases h
    simp [frame?.change, StatementBuilder.write, Part.write, String.join]
  | _ => cases h

end Operation

/-! ## Handles -/

open TableLine

/-- What statements make of the definition of a column with a type name. -/
structure DefinitionUses (i : Interpreter) (place : Nat) (tag : String) (b : StatementBuilder) :
    Prop where
  /-- The handle stands for an empty text exactly if the name is no type. -/
  value : ∀ levels, ∃ d, i.session.toValueAt b.quoter none levels (.column place) = .text d ∧
    (d = "" ↔ ColumnType.ofTag? tag = none)
  /-- A table is created as if its columns without a definition had not been listed. -/
  items : ∀ table items more keep, (∀ v ∈ items, keep v = false → Undefined v) →
    Operation.statement b ⟨table :: .list items :: more⟩ .createTable =
      Operation.statement b ⟨table :: .list (items.filter keep) :: more⟩ .createTable
  fields : ∀ table fields more keep, Dict.Sorted fields →
    (∀ p ∈ fields, keep p = false → UndefinedField p) →
      Operation.statement b ⟨table :: .map fields :: more⟩ .createTable =
        Operation.statement b ⟨table :: .map (fields.filter keep) :: more⟩ .createTable
  /-- A column is added or changed in any case, and its definition is blank if the name is no type.
  The definition of a type is not, unless the map of types has a blank one. -/
  altered : ∀ {f op args rest id head tail}, f.operation? = some op →
    i.request? args f = some (b, rest) → i.session.registered? = some id →
    op.frame? b (i.session.arguments b.quoter none rest) = some (head, tail) →
    rest[2]? = some (.column place) →
      ∃ physical, Eval.runIn i (Eval.apply (Eval.invoke Eval.maxCalls) args f) =
          (.ok (.ofString (head ++ physical ++ tail)),
            { i with session := i.session.issue id (head ++ physical ++ tail) }) ∧
        (ColumnType.ofTag? tag = none → physical = "") ∧
        (ColumnType.ofTag? tag ≠ none → b.types.Visible → Text.trim physical ≠ "")

namespace CallRun

variable {i₀ i : Interpreter} {cs : List FunctionCall} {place : Nat} {tag : String}
  {args : List Value}

/-- A type name that is no type leaves a column out of a table, and a blank in the statements that
add or change it, whatever was set. -/
theorem definition_uses (h : CallRun i₀ cs i) (hmade : madeAt? place cs = some (tag, args))
    (b : StatementBuilder) : DefinitionUses i place tag b := by
  obtain ⟨col, hcol, htag⟩ : ∃ col, columnAt? place cs = some col ∧ col.tag = tag := by
    simp [columnAt?, hmade, Column.ofArgs]
  have hvalue := h.toValueAt_column hcol b.quoter (Option.some_ne_none place).symm
  refine ⟨fun levels => ⟨_, hvalue levels, htag ▸ col.definition_eq_empty_iff b.quoter⟩,
    fun table items more keep hkeep => ?_, fun table fields more keep hsorted hkeep => ?_,
    fun {f op args rest id head tail} hf hreq hid hframe hplace => ?_⟩
  · exact b.statement_createTable_congr table more (b.lines_list_filter hkeep).symm
  · exact b.statement_createTable_congr table more (b.lines_map_filter hsorted hkeep).symm
  · have hdefinition :
        (i.session.arguments b.quoter none rest).text 2 = col.definition b.quoter := by
      simp [Arguments.text, Arguments.get, Session.arguments, hplace, hvalue, Value.asText]
    have hstatement : i.statementOf op b rest =
        .ok (head ++ b.columnType (col.definition b.quoter) ++ tail) := by
      rw [Interpreter.statementOf, Operation.statement_of_frame hframe, hdefinition]
    refine ⟨b.columnType (col.definition b.quoter), ?_, fun hnone => ?_, fun hsome hm => ?_⟩
    · have hne : head ++ b.columnType (col.definition b.quoter) ++ tail ≠ "" := by
        simp [Operation.head_ne_empty hframe]
      exact (Eval.statementCall hf _ args).eq_of_statementOf hreq hid hstatement hne
    · rw [(col.definition_eq_empty_iff b.quoter).2 (htag ▸ hnone), b.columnType_empty]
    · obtain ⟨t, ht⟩ : ∃ t, col.type? = some t := by
        obtain ⟨t, ht⟩ := Option.ne_none_iff_exists'.1 hsome
        simp [Column.type?, Column.declaredType?, htag, ht]
      exact b.trim_columnType_ne_empty hm ht

/-- A column whose type name is no type, added to a table. What is set makes no difference. -/
theorem definition_uses_geometry :
    ∃ cs i, CallRun ⟨{}, Session.create "schema"⟩ cs i ∧
      cs.map FunctionCall.function = [.column, .setColumn .default, .setColumn .first] ∧
      (∃ args, madeAt? 0 cs = some ("geometry", args)) ∧
      (Eval.runIn i (Eval.apply (Eval.invoke Eval.maxCalls)
        [.ofString "t", .ofString "c", .column 0] (.statement .addColumn))).1 =
          .ok (.ofString "ALTER TABLE \x60t\x60 ADD \x60c\x60 ") := by
  have h := (start : CallRun _ _ ⟨{}, Session.create "schema"⟩)
    |>.call (f := .column) rfl [.ofString "geometry"]
    |>.call (f := .setColumn .default) rfl [.column 0, .ofString "x"]
    |>.call (f := .setColumn .first) rfl [.column 0]
  refine ⟨_, _, h, rfl, ⟨_, rfl⟩, ?_⟩
  have huses := h.definition_uses (show madeAt? 0 _ = some ("geometry", _) from rfl) {}
  have hreq (i : Interpreter) : i.request? [.ofString "t", .ofString "c", .column 0]
      (.statement .addColumn) = some (i.context.builder, _) := rfl
  obtain ⟨physical, hrun, hblank, -⟩ := huses.altered rfl (hreq _) rfl rfl rfl
  rw [hrun, hblank (by decide)]
  exact congrArg (Except.ok <| ScriptValue.ofString ·) (by decide +kernel)

/-- A session with a column whose type name is no type. -/
def geometry : Interpreter :=
  (FunctionCall.run ⟨⟨{}, Session.create "schema"⟩, .column, [.ofString "geometry"]⟩).2

/-- Each of the statements is written, with nothing in the place of the definition. -/
theorem output_of_geometry :
    let output op args := (FunctionCall.run ⟨geometry, .statement op, args⟩).2.session.output
    output .addColumn [.ofString "t", .ofString "c", .column 0] =
        "ALTER TABLE \x60t\x60 ADD \x60c\x60 ;\n" ∧
      output .alterColumn [.ofString "t", .ofString "c", .column 0] =
        "ALTER TABLE \x60t\x60 CHANGE \x60c\x60 \x60c\x60 ;\n" ∧
      output .alterColumnComment [.ofString "t", .ofString "c", .column 0, .ofString "x"] =
        "ALTER TABLE \x60t\x60 CHANGE \x60c\x60 \x60c\x60  COMMENT 'x';\n" := by
  decide +kernel

end CallRun

end SchemaMigration
