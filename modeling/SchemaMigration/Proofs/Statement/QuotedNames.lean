import SchemaMigration.Proofs.Statement.Lexeme
import SchemaMigration.Statement.Table

/-!
# Quoted names in statements

Some statements hold nothing but fixed words and names. A reader who knows only backticks finds the
words and one token for each name, unless a name has a backtick of its own: the filter of names lets
it through, and then the reader sees another statement.

## Main definitions

* `NameStatement` — the statements of names, each with its text and its slots.
* `Slot.lexemes` — what a reader should find.
* `Quoter.fullName` — a name with its template filled in.

The main result is `read_nameStatement_iff`.
-/

namespace SchemaMigration

open Chars

/-! ## Names -/

namespace Identifier

theorem backtick_mem_guard {c : Char} : '\x60' ∈ guard c ↔ c = '\x60' := by
  unfold guard
  split
  next h => simp [h]
  · split
    next h => simp [eq_comm]
    next h => simp [eq_comm]

theorem backtick_mem_markup {c : Char} : '\x60' ∈ markup c ↔ c = '\x60' := by
  by_cases hc : c = '\x60'
  · subst hc
    decide
  · refine iff_of_false ?_ hc
    unfold markup
    repeat' split
    case isFalse => simpa [eq_comm] using hc
    all_goals decide

/-- The filter adds no backtick and drops none. -/
theorem backtick_mem_escape {cs : List Char} : '\x60' ∈ escape cs ↔ '\x60' ∈ cs := by
  simp [escape, backtick_mem_guard, backtick_mem_markup]

end Identifier

namespace Quoter

/-- A name with its template filled in, before it is made safe. -/
def fullName (q : Quoter) (kind : NameKind) (name : String) : List Char :=
  Identifier.resolve (q.option kind.beforeKey).toList (q.option kind.afterKey).toList name.toList

/-- No option gives the full text of a name. -/
def NoOverrides (q : Quoter) : Prop :=
  ∀ kind ∈ [NameKind.table, NameKind.column], ∀ safe, q.override? kind safe = none

theorem backtick_mem_safeName {q : Quoter} {kind : NameKind} {name : String} :
    '\x60' ∈ (q.safeName kind name).toList ↔ '\x60' ∈ q.fullName kind name := by
  simp [safeName, fullName, Identifier.backtick_mem_escape]

end Quoter

/-! ## Slots -/

/-- A part of a statement of names. -/
inductive Slot where
  | words (s : String)
  | name (kind : NameKind) (name : String)
deriving DecidableEq, Repr

namespace Slot

/-- A name in the list of tables, indexes and constraints. -/
abbrev table (name : String) : Slot := .name .table name

abbrev column (name : String) : Slot := .name .column name

def columns : List String → List Slot
  | [] => []
  | [c] => [column c]
  | c :: cs => column c :: .words ", " :: columns cs

def names : List Slot → List (NameKind × String)
  | [] => []
  | .words _ :: slots => names slots
  | .name kind n :: slots => (kind, n) :: names slots

/-- What a reader should find: the words, and for each name one token with its safe form. -/
def lexemes (q : Quoter) : List Slot → List Lexeme
  | [] => []
  | .words s :: slots => Lexeme.prepend s.toList (lexemes q slots)
  | .name kind n :: slots => .name (q.safeName kind n).toList :: lexemes q slots

/-- The text of slots, with every name between backticks. -/
def text (q : Quoter) : List Slot → List Char
  | [] => []
  | .words s :: slots => s.toList ++ text q slots
  | .name kind n :: slots =>
    '\x60' :: ((q.safeName kind n).toList ++ '\x60' :: text q slots)

/-- A slot as a quoter writes it. -/
def quoted (q : Quoter) : Slot → List Char
  | .words s => s.toList
  | .name kind n => (q.quote kind n).toList

/-- Holds if the fixed words have no backtick. -/
def Plain : Slot → Prop
  | .words s => '\x60' ∉ s.toList
  | .name _ _ => True

@[simp] theorem plain_words (s : String) : (words s).Plain ↔ '\x60' ∉ s.toList := Iff.rfl

@[simp] theorem plain_name (kind : NameKind) (n : String) : (name kind n).Plain := trivial

variable {q : Quoter}

/-- Names that are not empty and have no override are written between backticks. -/
theorem flatMap_quoted (ho : q.NoOverrides) {slots : List Slot}
    (hk : ∀ p ∈ names slots, p.1 ∈ [NameKind.table, .column] ∧ p.2 ≠ "") :
    slots.flatMap (quoted q) = text q slots := by
  induction slots with
  | nil => rfl
  | cons slot slots ih =>
    cases slot with
    | words s => simp [text, quoted, ih hk]
    | name kind n =>
      obtain ⟨⟨hkind, hn⟩, hrest⟩ := List.forall_mem_cons.1 hk
      have hempty : n.isEmpty = false := by simpa [String.isEmpty_iff] using hn
      have hq := Quoter.quote_of_override?_eq_none hempty (ho kind hkind _)
      simp [text, quoted, hq, ih hrest]

theorem names_append (slots others : List Slot) :
    names (slots ++ others) = names slots ++ names others := by
  fun_induction names slots <;> simp_all [names]

@[simp] theorem names_columns (cs : List String) :
    names (columns cs) = cs.map fun c => (NameKind.column, c) := by
  fun_induction columns cs <;> simp_all [names]

theorem plain_columns (cs : List String) : ∀ slot ∈ columns cs, slot.Plain := by
  fun_induction columns cs <;> simp_all

/-- A list of columns that are not empty is written slot by slot. -/
theorem toList_columns {cs : List String} (h : ∀ c ∈ cs, c ≠ "") :
    (q.columns cs).toList = (columns cs).flatMap (quoted q) := by
  have hf : cs.filter (!·.isEmpty) = cs := by simpa [String.isEmpty_iff] using h
  rw [Quoter.columns, hf]
  clear hf h
  fun_induction columns cs with
  | case1 => simp
  | case2 c => simp [quoted, Quoter.column]
  | case3 c cs hne ih =>
    rw [List.map_cons, String.intercalate_cons_of_ne_nil (by simpa using hne)]
    simp_all [quoted, Quoter.column]

/-- A reader finds what it should if no safe name has a backtick. -/
theorem read_text {slots : List Slot} (hp : ∀ slot ∈ slots, slot.Plain)
    (h : ∀ p ∈ names slots, '\x60' ∉ (q.safeName p.1 p.2).toList) :
    Lexeme.read (text q slots) = lexemes q slots := by
  induction slots with
  | nil => rfl
  | cons slot slots ih =>
    obtain ⟨hslot, hp'⟩ := List.forall_mem_cons.1 hp
    cases slot with
    | words s =>
      simp only [text, lexemes]
      rw [Lexeme.read_append hslot, ih hp' h]
    | name kind n =>
      obtain ⟨hn, hrest⟩ := List.forall_mem_cons.1 h
      simp only [text, lexemes]
      rw [Lexeme.read_token hn, ih hp' hrest]

/-- The backticks that a reader should find. -/
theorem countTicks_lexemes (slots : List Slot) :
    Lexeme.countTicks (lexemes q slots) = 2 * (names slots).length := by
  induction slots with
  | nil => rfl
  | cons slot slots ih =>
    cases slot with
    | words s => simpa [lexemes, names] using ih
    | name kind n =>
      simp only [lexemes, names, Lexeme.countTicks, Lexeme.ticks, List.length_cons, ih]
      omega

/-- The backticks that are there: two around each name, and those of the names themselves. -/
theorem count_text {slots : List Slot} (hp : ∀ slot ∈ slots, slot.Plain) :
    (text q slots).count '\x60' =
      2 * (names slots).length +
        ((names slots).flatMap fun p => (q.safeName p.1 p.2).toList).count '\x60' := by
  induction slots with
  | nil => rfl
  | cons slot slots ih =>
    obtain ⟨hslot, hp'⟩ := List.forall_mem_cons.1 hp
    cases slot with
    | words s =>
      have hs : s.toList.count '\x60' = 0 := List.count_eq_zero.2 hslot
      simp [text, names, hs, ih hp']
    | name kind n =>
      simp [text, names, ih hp']
      omega

/-- The shape that a reader finds is right exactly if no name has a backtick. -/
theorem blank_read_text_iff {slots : List Slot} (hp : ∀ slot ∈ slots, slot.Plain) :
    (Lexeme.read (text q slots)).map Lexeme.blank = (lexemes q slots).map Lexeme.blank ↔
      ∀ p ∈ names slots, '\x60' ∉ q.fullName p.1 p.2 := by
  simp only [← Quoter.backtick_mem_safeName]
  refine ⟨fun h => ?_, fun h => by rw [read_text hp h]⟩
  have hcount := congrArg Lexeme.countTicks h
  rw [Lexeme.countTicks_map_blank, Lexeme.countTicks_map_blank, Lexeme.countTicks_read,
    countTicks_lexemes, count_text hp] at hcount
  have hnone := List.count_eq_zero.1 (Nat.add_eq_left.1 hcount)
  intro p hmem hb
  exact hnone (List.mem_flatMap.2 ⟨p, hmem, hb⟩)

end Slot

/-! ## Statements -/

/-- A statement whose arguments are names, apart from what selects its fixed words. -/
inductive NameStatement where
  | renameTable (old new : String)
  | dropTable (table : String)
  | truncateTable (table : String)
  | dropColumn (table column : String)
  | renameColumn (table old new : String)
  | createIndex (name table : String) (columns : List String) (unique : Bool)
  | dropIndex (name table : String)
  | addPrimaryKey (name table : String) (columns : List String)
  | dropPrimaryKey (name table : String)
  | addUnique (name table : String) (columns : List String)
  | dropUnique (name table : String)
  | dropCheck (name table : String)
  | addForeignKey (name table : String) (columns : List String) (refTable : String)
      (refColumns : List String) (onDelete onUpdate : Option ForeignKeyAction)
  | dropForeignKey (name table : String)
  | dropCommentFromTable (table : String)
  | dropCommentFromColumn (table column : String)
deriving DecidableEq, Repr

namespace NameStatement

def text (b : StatementBuilder) : NameStatement → String
  | .renameTable old new => b.renameTable old new
  | .dropTable table => b.dropTable table
  | .truncateTable table => b.truncateTable table
  | .dropColumn table column => b.dropColumn table column
  | .renameColumn table old new => b.renameColumn table old new
  | .createIndex name table columns unique => b.createIndex name table columns unique
  | .dropIndex name table => b.dropIndex name table
  | .addPrimaryKey name table columns => b.addPrimaryKey name table columns
  | .dropPrimaryKey name table | .dropUnique name table | .dropCheck name table =>
    b.dropConstraint name table
  | .addUnique name table columns => b.addUnique name table columns
  | .addForeignKey name table columns refTable refColumns onDelete onUpdate =>
    b.addForeignKey name table columns refTable refColumns onDelete onUpdate
  | .dropForeignKey name table => b.dropForeignKey name table
  | .dropCommentFromTable table => b.dropCommentFromTable table
  | .dropCommentFromColumn table column => b.dropCommentFromColumn table column

/-- The words of an action. -/
def actionWords (event : String) : Option ForeignKeyAction → List Slot
  | some action => [.words (event ++ action.sql)]
  | none => []

/-- The fixed words of a statement and the places of its names. -/
def slots : NameStatement → List Slot
  | .renameTable old new => [.words "RENAME TABLE ", .table old, .words " TO ", .table new]
  | .dropTable t => [.words "DROP TABLE ", .table t]
  | .truncateTable t => [.words "TRUNCATE TABLE ", .table t]
  | .dropColumn t c => [.words "ALTER TABLE ", .table t, .words " DROP COLUMN ", .column c]
  | .renameColumn t old new =>
    [.words "ALTER TABLE ", .table t, .words " RENAME COLUMN ", .column old, .words " TO ",
      .column new]
  | .createIndex name t cs unique =>
    [.words (if unique then "CREATE UNIQUE INDEX " else "CREATE INDEX "), .table name,
      .words " ON ", .table t, .words " ("] ++ Slot.columns cs ++ [.words ")"]
  | .dropIndex name t => [.words "DROP INDEX ", .table name, .words " ON ", .table t]
  | .addPrimaryKey name t cs =>
    [.words "ALTER TABLE ", .table t, .words " ADD CONSTRAINT ", .column name,
      .words " PRIMARY KEY ("] ++ Slot.columns cs ++ [.words ")"]
  | .addUnique name t cs =>
    [.words "ALTER TABLE ", .table t, .words " ADD CONSTRAINT ", .column name,
      .words " UNIQUE ("] ++ Slot.columns cs ++ [.words ")"]
  | .dropPrimaryKey name t | .dropUnique name t | .dropCheck name t =>
    [.words "ALTER TABLE ", .table t, .words " DROP CONSTRAINT ", .column name]
  | .addForeignKey name t cs refTable refColumns onDelete onUpdate =>
    [.words "ALTER TABLE ", .table t, .words " ADD CONSTRAINT ", .table name,
      .words " FOREIGN KEY ("] ++ Slot.columns cs ++ [.words ") REFERENCES ", .table refTable,
      .words " ("] ++ Slot.columns refColumns ++ [.words ")"] ++
      actionWords " ON DELETE " onDelete ++ actionWords " ON UPDATE " onUpdate
  | .dropForeignKey name t =>
    [.words "ALTER TABLE ", .table t, .words " DROP CONSTRAINT ", .table name]
  | .dropCommentFromTable t => [.words "COMMENT ON TABLE ", .table t, .words " IS NULL"]
  | .dropCommentFromColumn t c =>
    [.words "COMMENT ON COLUMN ", .table t, .words ".", .column c, .words " IS NULL"]

def names (op : NameStatement) : List (NameKind × String) := Slot.names op.slots

/-- The text of a statement is its slots, one after the other. -/
theorem toList_text (b : StatementBuilder) (op : NameStatement) (h : ∀ p ∈ op.names, p.2 ≠ "") :
    (op.text b).toList = op.slots.flatMap (Slot.quoted b.quoter) := by
  have hcolumn : ∀ cs : List String, (∀ c ∈ cs, (.column, c) ∈ op.names) →
      (b.quoter.columns cs).toList = (Slot.columns cs).flatMap (Slot.quoted b.quoter) :=
    fun cs hcs => Slot.toList_columns fun c hc => h _ (hcs c hc)
  cases op with
  | createIndex name table columns unique =>
    have hc := hcolumn columns fun c hc => by simp [names, slots, Slot.names, Slot.names_append, hc]
    cases unique <;>
      simp [text, slots, StatementBuilder.createIndex, StatementBuilder.write, Part.write,
        Slot.quoted, Quoter.table, hc]
  | addPrimaryKey name table columns | addUnique name table columns =>
    have hc := hcolumn columns fun c hc => by simp [names, slots, Slot.names, Slot.names_append, hc]
    simp [text, slots, StatementBuilder.addPrimaryKey, StatementBuilder.addUnique,
      StatementBuilder.addConstraint, StatementBuilder.write, Part.write, Slot.quoted,
      Quoter.table, Quoter.column, hc]
  | addForeignKey name table columns refTable refColumns onDelete onUpdate =>
    have hc := hcolumn columns fun c hc => by simp [names, slots, Slot.names, Slot.names_append, hc]
    have hr := hcolumn refColumns fun c hc => by
      simp [names, slots, Slot.names, Slot.names_append, hc]
    cases onDelete <;> cases onUpdate <;>
      simp [text, slots, StatementBuilder.addForeignKey, StatementBuilder.actionClause,
        actionWords, StatementBuilder.write, Part.write, Slot.quoted, Quoter.table, hc, hr]
  | _ =>
    simp [text, slots, StatementBuilder.renameTable, StatementBuilder.dropTable,
      StatementBuilder.truncateTable, StatementBuilder.dropColumn, StatementBuilder.renameColumn,
      StatementBuilder.dropIndex, StatementBuilder.dropConstraint, StatementBuilder.dropForeignKey,
      StatementBuilder.dropCommentFromTable, StatementBuilder.dropCommentFromColumn,
      StatementBuilder.write, Part.write, Slot.quoted, Quoter.table, Quoter.column]

theorem plain_slots (op : NameStatement) : ∀ slot ∈ op.slots, slot.Plain := by
  have haction : ∀ event, '\x60' ∉ event.toList → ∀ action, ∀ slot ∈ actionWords event action,
      slot.Plain := by
    intro event he action
    cases action with
    | none => simp [actionWords]
    | some action => cases action <;> simp [actionWords, ForeignKeyAction.sql, he]
  cases op with
  | createIndex name table columns unique =>
    cases unique <;> simpa [slots, or_imp, forall_and] using Slot.plain_columns columns
  | addPrimaryKey name table columns | addUnique name table columns =>
    simpa [slots, or_imp, forall_and] using Slot.plain_columns columns
  | addForeignKey name table columns refTable refColumns onDelete onUpdate =>
    have hd := haction " ON DELETE " (by decide) onDelete
    have hu := haction " ON UPDATE " (by decide) onUpdate
    simpa [slots, or_imp, forall_and] using
      ⟨Slot.plain_columns columns, Slot.plain_columns refColumns, hd, hu⟩
  | _ => simp [slots]

theorem kind_of_mem_names (op : NameStatement) :
    ∀ p ∈ op.names, p.1 ∈ [NameKind.table, .column] := by
  have haction : ∀ event action, Slot.names (actionWords event action) = [] := by
    intro event action
    cases action <;> rfl
  cases op <;>
    simp [names, slots, Slot.names, Slot.names_append, haction, or_imp, forall_and]

end NameStatement

/-- Reading a statement of names that are not empty, by a builder without overrides. The shape is
that of the statement, with one token for each name, exactly if no name has a backtick when its
template is filled in; and then the tokens are the safe names. -/
theorem read_nameStatement_iff (b : StatementBuilder) (op : NameStatement)
    (ho : b.quoter.NoOverrides) (hn : ∀ p ∈ op.names, p.2 ≠ "") :
    ((Lexeme.read (op.text b).toList).map Lexeme.blank =
        (Slot.lexemes b.quoter op.slots).map Lexeme.blank ↔
      ∀ p ∈ op.names, '\x60' ∉ b.quoter.fullName p.1 p.2) ∧
    ((∀ p ∈ op.names, '\x60' ∉ b.quoter.fullName p.1 p.2) →
      Lexeme.read (op.text b).toList = Slot.lexemes b.quoter op.slots) := by
  have htext : (op.text b).toList = Slot.text b.quoter op.slots := by
    rw [op.toList_text b hn]
    exact Slot.flatMap_quoted ho fun p hp => ⟨op.kind_of_mem_names p hp, hn p hp⟩
  rw [htext]
  refine ⟨Slot.blank_read_text_iff op.plain_slots, fun h => ?_⟩
  refine Slot.read_text op.plain_slots fun p hp => ?_
  simpa [Quoter.backtick_mem_safeName] using h p hp

/-- A builder with a text before the names of tables. -/
def prefixedBuilder : StatementBuilder := { quoter := ⟨[("table_prefix", "wp_")]⟩ }

theorem noOverrides_prefixedBuilder : prefixedBuilder.quoter.NoOverrides := by
  intro kind hk safe
  have hne : "table_prefix" ≠ kind.group ++ "." ++ safe := by
    intro h
    have hl := congrArg String.toList h
    obtain rfl | rfl : kind = .table ∨ kind = .column := by simpa using hk
    all_goals simp [NameKind.table, NameKind.column] at hl
  simp [Quoter.override?, prefixedBuilder, Dict.get?, hne]

theorem read_nameStatement_createIndex :
    let op := NameStatement.createIndex "i; --" "\x7b\x7b%it's\x7d\x7d" ["a) (", "\"b\", c"] true
    prefixedBuilder.quoter.NoOverrides ∧ (∀ p ∈ op.names, p.2 ≠ "") ∧
      (∀ p ∈ op.names, '\x60' ∉ prefixedBuilder.quoter.fullName p.1 p.2) ∧
      Lexeme.read (op.text prefixedBuilder).toList =
        Slot.lexemes prefixedBuilder.quoter op.slots := by
  intro op
  have hn : ∀ p ∈ op.names, p.2 ≠ "" := by decide
  have hb : ∀ p ∈ op.names, '\x60' ∉ prefixedBuilder.quoter.fullName p.1 p.2 := by decide +kernel
  have h := read_nameStatement_iff prefixedBuilder op noOverrides_prefixedBuilder hn
  exact ⟨noOverrides_prefixedBuilder, hn, hb, h.2 hb⟩

/-- A backtick in a name ends its token, and the rest of the name is read as words and as another
token. -/
theorem read_dropTable_of_backtick :
    let op := NameStatement.dropTable "a\x60b\x60c"
    Lexeme.read (op.text {}).toList =
        [.words "DROP TABLE ".toList, .name ['a'], .words ['b'], .name ['c']] ∧
      (Lexeme.read (op.text {}).toList).map Lexeme.blank ≠
        (Slot.lexemes {} op.slots).map Lexeme.blank := by
  decide +kernel

end SchemaMigration
