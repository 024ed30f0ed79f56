import Mathlib.Data.List.Perm.Basic
import SchemaMigration.Proofs.Script.TableOrder
import SchemaMigration.Proofs.Statement.BodyOrder
import SchemaMigration.Proofs.Statement.Separators

/-!
# Columns under keys

A table that is given to `createTable` lists columns under their names. It becomes a map by the
texts of its keys, and each field of the map gives lines of its own. What stands under a text that
is no number is a column of that name. What stands under the text of a number is a line without a
name, whether the key was a number or a text.

## Main definitions

* `Table.lastUnder?` — the entry of a text that is met last.
* `StatementBuilder.fieldLines` — the lines of one field.
* `TypeMap.Visible` — maps of words to types that are not blank.

The main result is `Session.keyed_column_lines`.
-/

namespace SchemaMigration

open Chars

/-! ## The last entry of a text -/

namespace Table

/-- The entry with a text as its key that is met last. -/
def lastUnder? (es : Table) (name : String) : Option (ScriptValue × ScriptValue) :=
  es.reverse.find? (·.1.keyText? = some name)

/-- The map of a table has the value of the last entry under each text. -/
theorem get?_ofList_fields (item : ScriptValue → Value) (es : Table) (name : String) :
    (Dict.ofList (fields item es)).get? name = (es.lastUnder? name).map fun e => item e.2 := by
  induction es using List.reverseRecOn with
  | nil => rfl
  | append_singleton es e ih =>
    rw [lastUnder?, List.reverse_concat, List.find?_cons, ← lastUnder?]
    cases hkey : e.1.keyText? with
    | none => simpa [fields, List.filterMap_append, hkey] using ih
    | some text =>
      have hfields : fields item (es ++ [e]) = fields item es ++ [(text, item e.2)] := by
        simp [fields, List.filterMap_append, hkey]
      rw [hfields, Dict.ofList_concat, Dict.get?_insert, ih]
      by_cases htext : text = name <;> simp [htext]

end Table

/-! ## Lines of fields -/

namespace TableLine

variable {fields : List (String × Value)} {key : String} {v : Value}

theorem ofValue_name (h : ∀ n, ¬IndexText key n) :
    ofValue (.map [(key, v)]) = [.column key v.asText] := by
  have harranged : Arranged [(key, v)] [(key, v)] [] :=
    ⟨.refl _, by simpa using h, by simp, List.pairwise_singleton _ _, List.Pairwise.nil⟩
  rw [ofValue_of_arranged (List.pairwise_singleton _ _) harranged]
  rfl

theorem ofValue_number (h : ∃ n, IndexText key n) :
    ofValue (.map [(key, v)]) = (lineOf? v).toList := by
  have harranged : Arranged [(key, v)] [] [(key, v)] :=
    ⟨.refl _, by simp, by simpa using h, List.Pairwise.nil, List.pairwise_singleton _ _⟩
  rw [ofValue_of_arranged (List.pairwise_singleton _ _) harranged]
  cases hline : lineOf? v <;> simp [hline]

/-- The lines of a map are those of its fields, each by itself, in another order. -/
theorem ofValue_perm (hfields : Dict.Sorted fields) :
    (ofValue (.map fields)).Perm (fields.flatMap fun p => ofValue (.map [p])) := by
  obtain ⟨hperm, hname, hnumber, -, -⟩ := arranged hfields
  refine .trans (.of_eq ?_) (hperm.flatMap_right _)
  have hnames : (arrangedNames fields).flatMap (fun p => ofValue (.map [p])) =
      (arrangedNames fields).map fun p => .column p.1 p.2.asText := by
    rw [← List.flatMap_pure_eq_map]
    exact List.flatMap_congr fun p hp => ofValue_name (hname p hp)
  have hnumbers : (arrangedNumbers fields).flatMap (fun p => ofValue (.map [p])) =
      (arrangedNumbers fields).filterMap (lineOf? ·.2) := by
    rw [List.filterMap_eq_flatMap_toList]
    exact List.flatMap_congr fun p hp => ofValue_number (hnumber p hp)
  rw [List.flatMap_append, hnames, hnumbers, ofValue_map]

end TableLine

/-! ## Definitions that are not blank -/

namespace TypeMap

variable {m : TypeMap} {cs physical : List Char}

/-- A map of words to types, none of which is blank. -/
def Visible (m : TypeMap) : Prop :=
  ∀ word physical, m.get? word = some physical → Chars.Visible physical.toList

theorem Visible.chars? (hm : m.Visible) {word : List Char} (h : m.chars? word = some physical) :
    Chars.Visible physical := by
  obtain ⟨text, htext, rfl⟩ := Option.map_eq_some_iff.1 h
  exact hm _ text htext

theorem visible_resize (length : List Char) (physical : List Char) :
    Chars.Visible (resize ('(' :: length) physical) := by
  have hmem : '(' ∈ resize ('(' :: length) physical := by
    unfold resize
    split
    · simp
    · split <;> simp
  exact ⟨'(', hmem, by decide⟩

/-- A definition that is not blank has a physical type that is not blank. -/
theorem Visible.resolveChars (hm : m.Visible) (hcs : Chars.Visible cs) :
    Chars.Visible (m.resolveChars cs) := by
  unfold TypeMap.resolveChars
  split
  next physical hp => exact hm.chars? hp
  next =>
    split
    next word length trailer hsized =>
      split
      next => exact (visible_resize _ _).append_left trailer
      next => exact hcs
    next =>
      split
      next word rest hspaced =>
        cases hp : m.chars? word with
        | some physical => exact (hm.chars? hp).append_left rest
        | none =>
          rw [(reads_of_spaced? hspaced).eq, List.append_nil] at hcs
          exact hcs
      next => exact hcs

theorem visible_usual : usual.Visible := by
  intro word physical h
  have hall : usual.types.all (fun p => p.2.toList.any (!isBlank ·)) = true := by decide +kernel
  have hany := List.all_eq_true.1 hall (word, physical) ((Dict.sorted_ofList _).mem_iff.2 h)
  simpa [Chars.Visible] using hany

end TypeMap

namespace Column

/-- The definition of a column of a type has more than white space and separators. -/
theorem exists_mem_definition {c : Column} {t : ColumnType} (h : c.type? = some t) (q : Quoter) :
    ∃ d ∈ (c.definition q).toList, isBlank d = false ∧ d ≠ ',' := by
  obtain ⟨d, ds, htag⟩ := List.exists_cons_of_ne_nil t.tag_ne_nil
  have hword : isWord d = true := t.isWord_of_mem_tag d (htag ▸ List.mem_cons_self)
  refine ⟨d, ?_, ?_, ?_⟩
  · simp [c.toList_definition_eq_append h q, htag]
  · by_contra hblank
    simp [isWord_of_isBlank (by simpa using hblank)] at hword
  · rintro rfl
    exact absurd hword (by decide)

end Column

/-! ## Lines of column entries -/

namespace StatementBuilder

variable {b : StatementBuilder} {c : Column} {t : ColumnType} {key : String}

/-- The lines in the body of a table that a field gives. -/
def fieldLines (b : StatementBuilder) (p : String × Value) : List String :=
  (TableLine.ofValue (.map [p])).filterMap b.tableLine?

/-- The line of a column: its quoted name and its physical type. -/
def columnLine (b : StatementBuilder) (name definition : String) : String :=
  "\t" ++ b.quoter.column name ++ " " ++ Text.trim (b.columnType definition)

theorem visible_dropSeparators (h : c.type? = some t) (q : Quoter) :
    Visible (dropSeparators (c.definition q)).toList := by
  obtain ⟨d, hd, hblank, hcomma⟩ := c.exists_mem_definition h q
  rw [toList_dropSeparators]
  exact ⟨d, mem_stripped hd hblank hcomma, hblank⟩

theorem dropSeparators_ne_empty (h : c.type? = some t) (q : Quoter) :
    dropSeparators (c.definition q) ≠ "" := by
  rw [ne_eq, ← String.toList_eq_nil_iff]
  exact (visible_dropSeparators h q).ne_nil

theorem trim_columnType_ne_empty (hm : b.types.Visible) (h : c.type? = some t) :
    Text.trim (b.columnType (c.definition b.quoter)) ≠ "" := by
  have hphysical := hm.resolveChars (visible_dropSeparators h b.quoter)
  rw [toList_dropSeparators, ← toList_columnType] at hphysical
  · exact Text.trim_ne_empty_iff.2 hphysical
  · rw [String.isEmpty_iff]
    exact dropSeparators_ne_empty h b.quoter

/-- Under the text of a number, the definition is a line as it stands. -/
theorem fieldLines_number (h : c.type? = some t) (hkey : ∃ n, TableLine.IndexText key n) :
    b.fieldLines (key, .text (c.definition b.quoter)) =
      ["\t" ++ dropSeparators (c.definition b.quoter)] := by
  obtain ⟨d, hd, hblank, -⟩ := c.exists_mem_definition h b.quoter
  have hline : TableLine.lineOf? (.text (c.definition b.quoter)) =
      some (.raw (c.definition b.quoter)) :=
    TableLine.lineOf?_eq_some_iff.2 (.raw _ ⟨d, hd, hblank⟩)
  simp [fieldLines, TableLine.ofValue_number hkey, hline, tableLine?_raw,
    dropSeparators_ne_empty h b.quoter]

/-- Under any other text, it is a column. -/
theorem fieldLines_name (hkey : ∀ n, ¬TableLine.IndexText key n) (definition : String) :
    b.fieldLines (key, .text definition) =
      if Text.trim (b.columnType definition) = "" then [] else [b.columnLine key definition] := by
  rw [fieldLines, TableLine.ofValue_name hkey]
  split
  next hempty => simp [tableLine?, Value.asText, hempty]
  next hne =>
    have hline : b.tableLine? (.column key definition) = some (b.columnLine key definition) :=
      tableLine?_column_eq_some_iff.2 ⟨hne, rfl⟩
    simp [Value.asText, hline]

end StatementBuilder

namespace Session

/-- A column under a text in a table that is given to `createTable`. The table becomes a map, which
has under each text the value of the last entry of that text, whatever the order in which the
entries are met, and the lines of the statement are those of the fields of the map. Where the text
is no number, the lines of the column are one line with its name and its physical type, unless the
type is blank; no usual type is. Where the text is a number, they are one line with the definition
as it stands, without the name and the physical type. -/
theorem keyed_column_lines {s : Session} {place at' : Nat} {key : ScriptText} {c : Column}
    {t : ColumnType} (hentry : (.text key, .column at') ∈ s.table place)
    (hcolumn : s.columns[at']? = some c) (htype : c.type? = some t) (l : s.Listing)
    (b : StatementBuilder) (levels : Nat) :
    ∃ fields : Dict Value, l.value b.quoter none (levels + 1) (.table place) = .map fields ∧
      Dict.Sorted fields ∧
      (∀ name, fields.get? name = ((l.entries levels place).lastUnder? name).map fun e =>
        l.value b.quoter none levels e.2) ∧
      l.value b.quoter none levels (.column at') = .text (c.definition b.quoter) ∧
      (∀ a : Arguments, a.get 1 = .map fields → ∃ lines tail,
        Operation.statement b a .createTable = .ok ("CREATE TABLE " ++ b.quoter.table (a.text 0) ++
          " (\n" ++ ",\n".intercalate lines ++ "\n)" ++ tail) ∧
        lines.Perm (fields.flatMap b.fieldLines)) ∧
      ((∀ n, ¬TableLine.IndexText key.lossy n) →
        b.fieldLines (key.lossy, .text (c.definition b.quoter)) =
          if Text.trim (b.columnType (c.definition b.quoter)) = "" then []
          else [b.columnLine key.lossy (c.definition b.quoter)]) ∧
      (b.types.Visible → Text.trim (b.columnType (c.definition b.quoter)) ≠ "") ∧
      ((∃ n, TableLine.IndexText key.lossy n) →
        b.fieldLines (key.lossy, .text (c.definition b.quoter)) =
          ["\t" ++ StatementBuilder.dropSeparators (c.definition b.quoter)]) := by
  have hnot : ¬isSequence (s.table place) (border (s.table place)) = true := by
    intro hseq
    obtain ⟨i, hi⟩ := Table.key_of_isSequence hseq hentry
    cases hi
  have hmap : l.value b.quoter none (levels + 1) (.table place) =
      .map (Dict.ofList (Table.fields (l.value b.quoter none levels) (l.entries levels place))) :=
    Table.listedValue_of_not_isSequence (l.perm levels place) hnot
  have hsorted := Dict.sorted_ofList
    (Table.fields (l.value b.quoter none levels) (l.entries levels place))
  have hvalue : l.value b.quoter none levels (.column at') = .text (c.definition b.quoter) := by
    cases levels <;> simp [Listing.value, leafValue, hcolumn]
  refine ⟨_, hmap, hsorted, Table.get?_ofList_fields _ _, hvalue, fun a ha => ?_,
    fun hname => StatementBuilder.fieldLines_name hname _,
    fun hm => StatementBuilder.trim_columnType_ne_empty hm htype,
    StatementBuilder.fieldLines_number htype⟩
  obtain ⟨tail, htail⟩ := b.exists_createTable (a.text 0) (TableLine.ofValue (a.get 1)) (a.text? 2)
  refine ⟨_, tail, congrArg Except.ok htail, ?_⟩
  rw [ha]
  have hlines := (TableLine.ofValue_perm hsorted).filterMap b.tableLine?
  rwa [List.filterMap_flatMap] at hlines

/-- A session with a table of two columns, one of which stands under a text of digits. -/
def yearTable : Session :=
  ((((create "default").newColumn (.ofTag "text")).2.newColumn (.ofTag "integer")).2.newTable
    [(.ofString "body", .column 0), (.ofString "2024", .column 1),
      (.int 1, .ofString "KEY k (body)")]).2

/-- A column under a name that is no number has a line with its name. -/
theorem keyed_column_lines_yearTable :
    (.ofString "body", .column 0) ∈ yearTable.table 2 ∧
      yearTable.columns[0]? = some (.ofTag "text") ∧
      (Column.ofTag "text").type? = some .text ∧
      ∃ fields : Dict Value, yearTable.toValue {} (.table 2) = .map fields ∧
        fields.get? "body" = some (.text "text NOT NULL") ∧
        ({} : StatementBuilder).fieldLines ("body", .text "text NOT NULL") =
          ["\t\x60body\x60 text NOT NULL"] := by
  have hentry : (.text (.valid "body"), .column 0) ∈ yearTable.table 2 := by decide
  have hcolumn : yearTable.columns[0]? = some (.ofTag "text") := by rfl
  have htype : (Column.ofTag "text").type? = some .text := by decide
  obtain ⟨fields, hvalue, -, hget, hdefinition, -, hname, hvisible, -⟩ :=
    keyed_column_lines hentry hcolumn htype (.own _) {} 15
  have hkey : TableLine.indexOf? "body" = none := by decide +kernel
  have hlast : (((Listing.own yearTable).entries 15 2).lastUnder? "body") =
      some (.ofString "body", .column 0) := by decide +kernel
  have htext : (Column.ofTag "text").definition {} = "text NOT NULL" := by decide +kernel
  have hvalue' : yearTable.toValue {} (.table 2) = .map fields := by
    rw [← hvalue, Listing.value_own]
    rfl
  refine ⟨hentry, hcolumn, htype, fields, hvalue', ?_, ?_⟩
  · rw [hget, hlast, Option.map_some, hdefinition, htext]
  · have hlines := hname (TableLine.indexOf?_eq_none_iff.1 hkey)
    rw [if_neg (hvisible TypeMap.visible_usual), htext] at hlines
    exact hlines.trans (by decide +kernel)

/-- A session with a table of one column under a text of digits. -/
def numericName : Session :=
  (((create "default").newColumn (.ofTag "integer")).2.newTable
    [(.ofString "2024", .column 0)]).2

/-- A column under the text of a number loses its name, and its abstract type is written. -/
theorem statement_of_numericName :
    (.ofString "2024", .column 0) ∈ numericName.table 2 ∧
      numericName.columns[0]? = some (.ofTag "integer") ∧
      (Column.ofTag "integer").type? = some .integer ∧
      Operation.statement {} (numericName.arguments {} none [.ofString "t", .table 2])
        .createTable = .ok "CREATE TABLE \x60t\x60 (\n\tinteger(12) NOT NULL\n)" := by
  refine ⟨by decide, by rfl, by decide, ?_⟩
  have hvalue : numericName.toValueAt {} none maxLevels (.table 2) =
      .map [("2024", .text "integer(12) NOT NULL")] := by
    rfl
  have hkey : TableLine.indexOf? "2024" = some 2024 := by decide +kernel
  have hlines : TableLine.ofValue (.map [("2024", .text "integer(12) NOT NULL")]) =
      [.raw "integer(12) NOT NULL"] := by
    rw [TableLine.ofValue_number ⟨2024, TableLine.indexOf?_eq_some_iff.1 hkey⟩]
    decide +kernel
  simp only [Operation.statement, arguments, List.map_cons, hvalue, Arguments.get,
    List.getElem?_cons_succ, List.getElem?_cons_zero, Option.getD_some, hlines]
  decide +kernel

end Session

end SchemaMigration
