import SchemaMigration.Buffer
import SchemaMigration.Proofs.Column.SettledDefinition
import SchemaMigration.Proofs.Text.Ends
import SchemaMigration.Script.Operation

/-!
# Separators at the end of texts

A definition, a raw line of a table and literal SQL lose the separators at their end, and the white
space around these. This is done once: white space goes, then separators, then white space. A text
in which separators stand on both sides of white space keeps the first of them, and another
separator is written right behind it.

## Main definitions

* `Chars.stripped` — a text without the separators at its end.
* `Chars.Interrupted` — texts that end in separators, white space and separators.
* `TypeMap.Unseparated` — maps of words to types that end in no comma.

The main result is `separator_left_iff`.
-/

namespace SchemaMigration

open Chars

namespace Chars

variable {sep c : Char} {cs ds : List Char}

/-- A text without white space at its ends, and then without separators and white space behind
them. -/
def stripped (sep : Char) (cs : List Char) : List Char :=
  trimEnd (dropEndWhile (· == sep) (trim cs))

/-- Holds if a text ends in a separator, white space and more separators, perhaps with white space
behind them. -/
def Interrupted (sep : Char) (cs : List Char) : Prop :=
  ∃ front blanks seps tail, cs = front ++ sep :: (blanks ++ (seps ++ tail)) ∧
    blanks ≠ [] ∧ Blank blanks ∧ seps ≠ [] ∧ (∀ c ∈ seps, c = sep) ∧ Blank tail

/-! ## What stripping leaves -/

theorem getLast?_stripped (sep : Char) (cs : List Char) :
    ∀ c ∈ (stripped sep cs).getLast?, isBlank c = false :=
  getLast?_dropEndWhile isBlank _

/-- Only separators and white space are dropped. -/
theorem mem_stripped (hc : c ∈ cs) (hblank : isBlank c = false) (hsep : c ≠ sep) :
    c ∈ stripped sep cs :=
  mem_dropEndWhile (mem_dropEndWhile (mem_trim hc hblank) (by simpa using hsep)) hblank

/-- A separator that is left at the end is parted from others by white space. -/
theorem interrupted_of_getLast?_stripped (hlast : (stripped sep cs).getLast? = some sep) :
    Interrupted sep cs := by
  obtain ⟨lead, tail, hcs, -, htail⟩ := exists_trim_eq cs
  obtain ⟨seps, hseps, hallseps⟩ := exists_append_dropEndWhile (· == sep) (trim cs)
  obtain ⟨blanks, hblanks, hallblanks⟩ :=
    exists_append_dropEndWhile isBlank (dropEndWhile (· == sep) (trim cs))
  obtain ⟨front, hfront⟩ : ∃ front, stripped sep cs = front ++ [sep] :=
    List.getLast?_eq_some_iff.1 hlast
  have hkept : dropEndWhile (· == sep) (trim cs) = front ++ sep :: blanks := by
    rw [hblanks, ← trimEnd, ← stripped, hfront, List.append_assoc, List.singleton_append]
  have hblank : blanks ≠ [] := by
    -- otherwise the separator would have been dropped with the others
    rintro rfl
    have hnot := getLast?_dropEndWhile (· == sep) (trim cs) sep (by simp [hkept])
    simp at hnot
  have hsep : seps ≠ [] := by
    -- otherwise the white space would have been at the end of the trimmed text
    rintro rfl
    have htrim : trim cs = front ++ [sep] ++ blanks := by simpa [hkept] using hseps
    have hlast : (trim cs).getLast? = some (blanks.getLast hblank) := by
      rw [htrim, List.getLast?_append_of_ne_nil _ hblank, List.getLast?_eq_some_getLast hblank]
    have hnot := getLast?_trim cs _ hlast
    simp [hallblanks _ (List.getLast_mem hblank)] at hnot
  refine ⟨lead ++ front, blanks, seps, tail, ?_, hblank, hallblanks, hsep, ?_, htail⟩
  · rw [hcs, hseps, hkept]
    simp
  · intro c hc
    simpa using hallseps c hc

/-- White space keeps the separators before it. -/
theorem exists_stripped_of_interrupted (hsep : isBlank sep = false) (h : Interrupted sep cs) :
    ∃ front, stripped sep cs = front ++ [sep] := by
  obtain ⟨front, blanks, seps, tail, rfl, hblanks, hallblanks, hseps, hallseps, htail⟩ := h
  obtain ⟨front', htrim⟩ := exists_trim_append_cons hsep front (blanks ++ (seps ++ tail))
  have hnotBlank : ∀ c ∈ (front' ++ sep :: blanks ++ seps).getLast?, isBlank c = false :=
    forall_getLast?_append hseps fun c hc => hallseps c hc ▸ hsep
  have hnotSep : ∀ c ∈ (front' ++ [sep] ++ blanks).getLast?, (c == sep) = false := by
    refine forall_getLast?_append hblanks fun c hc => beq_eq_false_iff_ne.2 ?_
    rintro rfl
    simp [hallblanks c hc] at hsep
  have hseps' : ∀ c ∈ seps, (c == sep) = true := by simpa using hallseps
  refine ⟨front', ?_⟩
  calc stripped sep (front ++ sep :: (blanks ++ (seps ++ tail)))
      = trimEnd (dropEndWhile (· == sep)
          (trimEnd (front' ++ sep :: blanks ++ seps ++ tail))) := by
        simp [stripped, htrim]
    _ = trimEnd (dropEndWhile (· == sep) (front' ++ [sep] ++ blanks ++ seps)) := by
        rw [trimEnd_append hnotBlank htail]
        simp
    _ = trimEnd (front' ++ [sep] ++ blanks) := by rw [dropEndWhile_append hnotSep hseps']
    _ = front' ++ [sep] := trimEnd_append (by simp [hsep]) hallblanks

/-- A separator is left at the end exactly if white space parts it from the others. -/
theorem getLast?_stripped_iff (hsep : isBlank sep = false) :
    (stripped sep cs).getLast? = some sep ↔ Interrupted sep cs := by
  refine ⟨interrupted_of_getLast?_stripped, fun h => ?_⟩
  obtain ⟨front, hfront⟩ := exists_stripped_of_interrupted hsep h
  rw [hfront, List.getLast?_concat]

theorem lastVisible_stripped (sep : Char) (cs : List Char) :
    lastVisible (stripped sep cs) = (stripped sep cs).getLast? :=
  (getLast?_eq_lastVisible (getLast?_stripped sep cs)).symm

/-- A text behind one that ends in no separator ends in separators and white space if and only if it
does so by itself. -/
theorem interrupted_append_iff (hds : lastVisible ds ≠ some sep) (hsep : isBlank sep = false) :
    Interrupted sep (ds ++ cs) ↔ Interrupted sep cs := by
  constructor
  · rintro ⟨front, blanks, seps, tail, heq, hne, hblanks, hne', hseps, htail⟩
    obtain ⟨x, rfl, hcs⟩ | ⟨x, rfl, hx⟩ := List.append_eq_append_iff.1 heq
    · exact ⟨x, blanks, seps, tail, hcs, hne, hblanks, hne', hseps, htail⟩
    · cases x with
      | nil =>
        exact ⟨[], blanks, seps, tail, by simpa using hx.symm, hne, hblanks, hne', hseps, htail⟩
      | cons c x =>
        obtain ⟨rfl, hrest⟩ : sep = c ∧ blanks ++ (seps ++ tail) = x ++ cs := by simpa using hx
        refine absurd (lastVisible_append_cons hsep front fun c hc => ?_) hds
        have hmem : c ∈ blanks ++ (seps ++ tail) := hrest ▸ List.mem_append_left cs hc
        simp only [List.mem_append] at hmem
        obtain hmem | hmem | hmem := hmem
        · exact .inl (hblanks c hmem)
        · exact .inr (hseps c hmem)
        · exact .inl (htail c hmem)
  · rintro ⟨front, blanks, seps, tail, rfl, h⟩
    exact ⟨ds ++ front, blanks, seps, tail, by simp, h⟩

end Chars

/-! ## Physical types -/

namespace TypeMap

/-- A map of words to types, none of which ends in a comma. -/
structure Unseparated (m : TypeMap) : Prop where
  wordKeys : m.WordKeys
  chars?_nil : m.chars? [] = none
  lastVisible_ne : ∀ word physical, m.chars? word = some physical →
    lastVisible physical ≠ some ','

variable {m : TypeMap} {cs size rest physical sized : List Char}

theorem Tail.lastVisible_size (h : Tail size rest) (hsize : size ≠ []) :
    lastVisible size = some ')' := by
  cases h with
  | alone | blank => exact absurd rfl hsize
  | sized c hl rest => exact lastVisible_concat (by decide) ('(' :: c :: _)

/-- A type with a length ends in the parenthesis of the length, or as the type by itself. -/
theorem Resized.lastVisible_ne (h : Resized size physical sized)
    (hsize : size ≠ [] → lastVisible size = some ')')
    (hphysical : lastVisible physical ≠ some ',') : lastVisible sized ≠ some ',' := by
  cases h with
  | unsized => exact hphysical
  | @replaced _ before inside after hl _ _ =>
    have hgroup : before ++ '(' :: (inside ++ ')' :: after) =
        before ++ '(' :: inside ++ ([')'] ++ after) := by simp
    rw [hgroup, lastVisible_append, lastVisible_append] at hphysical
    rw [lastVisible_append, lastVisible_append, hsize hl]
    cases hafter : lastVisible after with
    | none => simp
    | some c => simpa [hafter] using hphysical
  | appended hl _ => simp [hsize hl]

/-- A definition with its physical type ends in a comma if and only if it did so before. -/
theorem Unseparated.lastVisible_resolveChars (hm : m.Unseparated) (cs : List Char) :
    lastVisible (m.resolveChars cs) = some ',' ↔ lastVisible cs = some ',' := by
  obtain ⟨word, size, rest, physical, h, hp, hres⟩ | ⟨-, hself⟩ :=
    resolveChars_cases hm.wordKeys hm.chars?_nil cs
  · have hword : lastVisible word ≠ some ',' := by
      intro hcomma
      have := h.isWord ',' (mem_of_lastVisible hcomma).1
      exact absurd this (by decide)
    have hhead : lastVisible (word ++ size) ≠ some ',' := by
      by_cases hsize : size = []
      · simpa [hsize] using hword
      · simp [h.tail.lastVisible_size hsize]
    have hsized : lastVisible (withSize size physical) ≠ some ',' :=
      (resized_iff.2 rfl).lastVisible_ne h.tail.lastVisible_size
        (hm.lastVisible_ne word physical hp)
    rw [hres, h.eq, lastVisible_append, lastVisible_append]
    cases lastVisible rest with
    | none => simp only [Option.none_or, hhead, hsized]
    | some c => simp
  · rw [hself]

theorem unseparated_usual : usual.Unseparated where
  wordKeys := wordKeys_usual
  chars?_nil := closed_usual.chars?_nil
  lastVisible_ne word physical h := by
    have hall : ∀ p ∈ usual.types, lastVisible p.2.toList ≠ some ',' := by decide +kernel
    obtain ⟨text, htext, rfl⟩ := Option.map_eq_some_iff.1 h
    exact hall (_, text) ((Dict.sorted_ofList _).mem_iff.2 htext)

end TypeMap

/-! ## Lines of a table -/

namespace Column

/-- No clause but that of the text at the end depends on this text. -/
theorem clause_without_append (c : Column) (q : Quoter) (t : ColumnType) {name : String}
    (h : name ≠ "append") :
    ({ c with append? := none } : Column).clause q t name = c.clause q t name := by
  unfold clause
  split
  case h_9 => exact absurd rfl h
  all_goals rfl

theorem exists_clauseNames_append (t : ColumnType) :
    ∃ names, clauseNames t = names ++ ["append"] ∧ "append" ∉ names := by
  unfold clauseNames
  split
  · exact ⟨["type", "check", "comment"], rfl, by decide⟩
  · exact ⟨["type", "length", "notnull", "unique", "default", "check", "comment", "pos"], rfl,
      by decide⟩

/-- The text at the end stands behind the definition without it. -/
theorem toList_definition_append {c : Column} {t : ColumnType} (h : c.type? = some t)
    (q : Quoter) :
    (c.definition q).toList =
      (({ c with append? := none } : Column).definition q).toList ++ c.appendClause.toList := by
  obtain ⟨names, heq, hn⟩ := exists_clauseNames_append t
  have hbare : ({ c with append? := none } : Column).type? = some t := h
  rw [toList_definition_around h q heq hn (by simp) fun _ _ => rfl,
    toList_definition_around hbare q heq hn (by simp) fun _ => clause_without_append c q t]
  simp [clause, appendClause, present]

end Column

namespace StatementBuilder

variable {b : StatementBuilder} {name definition line : String}

@[simp] theorem toList_dropSeparators (s : String) :
    (dropSeparators s).toList = stripped ',' s.toList := by
  simp [dropSeparators, stripped]

theorem tableLine?_raw (b : StatementBuilder) (line : String) :
    b.tableLine? (.raw line) =
      if dropSeparators line = "" then none else some ("\t" ++ dropSeparators line) := by
  simp [tableLine?]

/-- A line of a column is its quoted name and its physical type, trimmed. -/
theorem tableLine?_column_eq_some_iff :
    b.tableLine? (.column name definition) = some line ↔
      Text.trim (b.columnType definition) ≠ "" ∧
        line = "\t" ++ b.quoter.column name ++ " " ++ Text.trim (b.columnType definition) := by
  generalize htext : Text.trim (b.columnType definition) = text
  by_cases hempty : text = ""
  · simp [tableLine?, htext, hempty]
  · have hline : b.tableLine? (.column name definition) =
        some ("\t" ++ b.quoter.column name ++ " " ++ text) := by
      simp [tableLine?, htext, hempty]
    rw [hline, Option.some_inj]
    exact ⟨fun h => ⟨hempty, h.symm⟩, fun h => h.2.symm⟩

/-- The line of a column ends as its physical type does, white space left out. -/
theorem getLast?_columnLine (h : b.tableLine? (.column name definition) = some line) :
    line.toList.getLast? = (trim (b.columnType definition).toList).getLast? := by
  obtain ⟨hne, rfl⟩ := tableLine?_column_eq_some_iff.1 h
  have hphysical : (Text.trim (b.columnType definition)).toList ≠ [] :=
    fun hnil => hne (String.toList_eq_nil_iff.1 hnil)
  rw [String.toList_append, List.getLast?_append_of_ne_nil _ hphysical, Text.toList_trim]

theorem toList_columnType (h : ¬(dropSeparators definition).isEmpty) :
    (b.columnType definition).toList = b.types.resolveChars (stripped ',' definition.toList) := by
  rw [columnType, TypeMap.resolve, if_neg h, String.toList_ofList, toList_dropSeparators]

/-- The line of a column ends in a comma if and only if one is left of its definition. -/
theorem comma_columnLine_iff (hm : b.types.Unseparated)
    (h : b.tableLine? (.column name definition) = some line) :
    line.toList.getLast? = some ',' ↔ Interrupted ',' definition.toList := by
  have hne : ¬(dropSeparators definition).isEmpty := by
    rw [String.isEmpty_iff]
    intro hempty
    have hphysical := (tableLine?_column_eq_some_iff.1 h).1
    simp [columnType, hempty, TypeMap.resolve, Text.trim, trim, trimStart, trimEnd] at hphysical
  rw [getLast?_columnLine h, getLast?_eq_lastVisible (getLast?_trim _), lastVisible_trim,
    toList_columnType hne]
  calc lastVisible (b.types.resolveChars (stripped ',' definition.toList)) = some ','
      ↔ lastVisible (stripped ',' definition.toList) = some ',' := hm.lastVisible_resolveChars _
    _ ↔ Interrupted ',' definition.toList := by
        rw [lastVisible_stripped, getLast?_stripped_iff (by decide)]

theorem exists_createTable (b : StatementBuilder) (table : String) (lines : List TableLine)
    (options : Option String) : ∃ tail, b.createTable table lines options =
      "CREATE TABLE " ++ b.quoter.table table ++ " (\n" ++
        ",\n".intercalate (lines.filterMap b.tableLine?) ++ "\n)" ++ tail := by
  refine ⟨(((options.map Text.trim).filter (!·.isEmpty)).map (" " ++ ·)).getD "", ?_⟩
  simp [createTable, write, Part.write, String.join, String.append_assoc]

end StatementBuilder

@[simp] theorem Operation.toList_bareSql (s : String) :
    (bareSql s).toList = stripped ';' s.toList := by
  simp [bareSql, stripped]

/-- No definition, raw line or literal SQL ends in white space when it is written, but a separator
is left at its end exactly if white space parts it from more separators behind it. The lines of a
table are written with a comma between each two, and a line of a column ends in a comma on account
of the text at the end of its definition exactly if that text is so interrupted. -/
theorem separator_left_iff (b : StatementBuilder) :
    (∀ text, b.columnType text = b.types.resolve (StatementBuilder.dropSeparators text) ∧
      b.tableLine? (.raw text) = (if StatementBuilder.dropSeparators text = "" then none
        else some ("\t" ++ StatementBuilder.dropSeparators text)) ∧
      (∀ c ∈ (StatementBuilder.dropSeparators text).toList.getLast?, isBlank c = false) ∧
      ((StatementBuilder.dropSeparators text).toList.getLast? = some ',' ↔
        Interrupted ',' text.toList)) ∧
    (∀ table lines options, ∃ tail, b.createTable table lines options =
      "CREATE TABLE " ++ b.quoter.table table ++ " (\n" ++
        ",\n".intercalate (lines.filterMap b.tableLine?) ++ "\n)" ++ tail) ∧
    (∀ (c : Column) t q name line, b.types.Unseparated → c.type? = some t →
      lastVisible (({ c with append? := none } : Column).definition q).toList ≠ some ',' →
      b.tableLine? (.column name (c.definition q)) = some line →
      (∀ d ∈ line.toList.getLast?, isBlank d = false) ∧
        (line.toList.getLast? = some ',' ↔ Interrupted ',' c.appendClause.toList)) ∧
    ∀ a, ∃ sql, Operation.statement b a .execute = .ok sql ∧
      (∀ c ∈ sql.toList.getLast?, isBlank c = false) ∧
      (sql.toList.getLast? = some ';' ↔ Interrupted ';' (a.text 0).toList) := by
  refine ⟨fun text => ⟨rfl, b.tableLine?_raw text, ?_, ?_⟩, b.exists_createTable, ?_, ?_⟩
  · rw [StatementBuilder.toList_dropSeparators]
    exact getLast?_stripped ',' text.toList
  · rw [StatementBuilder.toList_dropSeparators]
    exact getLast?_stripped_iff (by decide)
  · intro c t q name line hm ht hbefore hline
    constructor
    · rw [StatementBuilder.getLast?_columnLine hline]
      exact getLast?_trim _
    · rw [StatementBuilder.comma_columnLine_iff hm hline, Column.toList_definition_append ht,
        interrupted_append_iff hbefore (by decide)]
  · intro a
    refine ⟨Operation.bareSql (a.text 0), rfl, ?_, ?_⟩
    · rw [Operation.toList_bareSql]
      exact getLast?_stripped ';' (a.text 0).toList
    · rw [Operation.toList_bareSql]
      exact getLast?_stripped_iff (by decide)

/-- A column with commas and white space at the end of its appended text. -/
def appendedColumn : Column where
  tag := "string"
  length := [64]
  default? := some "'a, '"
  append? := some "COLLATE x,, "

/-- The comma that the appended text gets of its own stands behind white space, so the commas before
it are kept. -/
theorem separator_left_appendedColumn :
    let line := "\t\x60a\x60 varchar(64) NOT NULL DEFAULT 'a, ' COLLATE x,,"
    TypeMap.usual.Unseparated ∧ appendedColumn.type? = some .string ∧
      lastVisible (({ appendedColumn with append? := none } : Column).definition {}).toList =
        some '\'' ∧
      ({} : StatementBuilder).tableLine? (.column "a" (appendedColumn.definition {})) = some line ∧
      line.toList.getLast? = some ',' ∧ Interrupted ',' appendedColumn.appendClause.toList := by
  intro line
  have ht : appendedColumn.type? = some .string := by decide
  have hbefore : lastVisible (({ appendedColumn with append? := none } : Column).definition
      {}).toList = some '\'' := by decide +kernel
  have hline : ({} : StatementBuilder).tableLine? (.column "a" (appendedColumn.definition {})) =
      some line := by decide +kernel
  have hlast : line.toList.getLast? = some ',' := by decide +kernel
  obtain ⟨-, -, hcolumn, -⟩ := separator_left_iff {}
  have hiff := (hcolumn appendedColumn .string {} "a" line TypeMap.unseparated_usual ht
    (by simp [hbefore]) hline).2
  exact ⟨TypeMap.unseparated_usual, ht, hbefore, hline, hlast, hiff.1 hlast⟩

/-- Separators on both sides of white space are not all dropped: a line of a table ends in two
commas, a comma stands before the closing parenthesis, and literal SQL ends in two semicolons. -/
theorem separators_left_of_blank :
    let append := (Column.ofTag "text").set (.append "x, ")
    ({} : StatementBuilder).createTable "t"
        [.column "a" (append.definition {}), .raw "KEY k (a), ,"] none =
      "CREATE TABLE \x60t\x60 (\n\t\x60a\x60 text NOT NULL x,,\n\tKEY k (a),\n)" ∧
    Operation.statement {} ⟨[.text "SELECT 1; ;"]⟩ .execute = .ok "SELECT 1;" ∧
    BufferStore.statementText "SELECT 1;" = "SELECT 1;;\n" := by
  decide +kernel

end SchemaMigration
