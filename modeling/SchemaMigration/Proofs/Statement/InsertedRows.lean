import SchemaMigration.Proofs.Statement.ValueList
import SchemaMigration.Statement.Row

/-!
# Reading inserted rows

A reader who knows only parentheses, commas and single quotes finds in the text behind `VALUES` the
rows that were inserted, field by field, whatever the texts among them hold.

## Main definitions

* `Field` — what the reader finds between commas, a word or the text of a literal.
* `readRows?` — the reader.
* `Scalar` — a null, a boolean, a number or a text, with the field that it should be read as.

The main result is `readRows_batchInsert`.
-/

namespace SchemaMigration

open Chars Position

/-! ## The reader -/

/-- The text of a literal, read from behind its opening quote to its end. A quote inside is written
twice. -/
def unquote? : List Char → Option (List Char)
  | [] => none
  | ['\''] => some []
  | '\'' :: '\'' :: cs => (unquote? cs).map ('\'' :: ·)
  | c :: cs => if c = '\'' then none else (unquote? cs).map (c :: ·)

inductive Field where
  | word (s : String)
  /-- The text that a literal stands for. -/
  | text (s : String)
deriving DecidableEq, Repr

/-- A field starts with a quote, or has neither quotes nor parentheses. -/
def Field.read? : List Char → Option Field
  | '\'' :: cs => (unquote? cs).map fun s => .text (.ofList s)
  | cs => if cs.any ['\'', '(', ')'].contains then none else some (.word (.ofList cs))

/-- The items between the commas outside of quotes and parentheses. Blanks before one do not
count. -/
def readItems? {α : Type} (read? : List Char → Option α) (cs : List Char) : Option (List α) :=
  (Nesting.split false [','] cs).bind fun pieces => pieces.mapM fun cs => read? (trimStart cs)

/-- The fields of a row, which stands in parentheses. -/
def readRow? (cs : List Char) : Option (List Field) :=
  (ItemList.between? '(' ')' cs).bind (readItems? Field.read?)

def readRows? (cs : List Char) : Option (List (List Field)) := readItems? readRow? cs

/-! ## Values and their fields -/

/-- A value that is no list and no map. -/
inductive Scalar where
  | null
  | bool (b : Bool)
  | number (x : Float)
  | text (s : String)

namespace Scalar

def value : Scalar → Value
  | null => .null
  | bool b => .bool b
  | number x => .number x
  | text s => .text s

/-- What a reader should find. -/
def field : Scalar → Field
  | null => .word "NULL"
  | bool b => .word (if b then "1" else "0")
  | number x => .word (Value.numberText x)
  | text s => .text s

def literal (a : Scalar) : List Char := a.value.literal.toList

theorem scan_literal (a : Scalar) : scan false (some ',') top a.literal = some top :=
  scan_scalar (by cases a <;> simp [value]) (by decide)

/-- Reading undoes the doubling of quotes. -/
theorem unquote_doubled (cs : List Char) :
    unquote? (replace '\'' ['\'', '\''] cs ++ ['\'']) = some cs := by
  induction cs with
  | nil => rfl
  | cons c cs ih =>
    rw [replace_cons]
    by_cases hc : c = '\''
    · simp [hc, unquote?, ih]
    · have hstep : unquote? (c :: (replace '\'' ['\'', '\''] cs ++ ['\''])) =
          (unquote? (replace '\'' ['\'', '\''] cs ++ ['\''])).map (c :: ·) := by
        rw [unquote?.eq_def]
        split <;> simp_all
      simp [hc, hstep, ih]

/-- A text that starts with no blank keeps its start. -/
theorem trimStart_of_head {cs : List Char} (h : ∀ c ∈ cs.head?, isBlank c = false) :
    trimStart cs = cs := by
  cases cs with
  | nil => rfl
  | cons c cs => simp [trimStart, h c rfl]

/-- A literal is read as the field of its value, and starts with no blank. -/
theorem read_literal (a : Scalar) :
    Field.read? a.literal = some a.field ∧ trimStart a.literal = a.literal := by
  cases a with
  | null => decide
  | bool b => cases b <;> decide
  | number x =>
    have hplain : (Value.numberText x).toList.any ['\'', '(', ')'].contains = false := by
      have hnot : ['\'', '(', ')'].all (fun c => !Value.isNumberChar c) = true := by decide
      refine List.any_eq_false.2 fun c hc hmem => ?_
      have := List.all_eq_true.1 hnot c (by simpa using hmem)
      simp [Value.isNumberChar_of_mem hc] at this
    refine ⟨?_, trimStart_of_head fun c hc =>
      Value.isBlank_of_isNumberChar (Value.isNumberChar_of_mem (List.mem_of_mem_head? hc))⟩
    have hword : Field.read? (Value.numberText x).toList =
        some (.word (.ofList (Value.numberText x).toList)) := by
      unfold Field.read?
      split
      next cs hcs =>
        have hmem : '\'' ∈ (Value.numberText x).toList := by simp [hcs]
        exact absurd (Value.isNumberChar_of_mem hmem) (by decide)
      · rw [hplain]
        rfl
    simpa [literal, value, Value.literal, field] using hword
  | text s =>
    have hlit : literal (.text s) = '\'' :: (replace '\'' ['\'', '\''] s.toList ++ ['\'']) := by
      simp [literal, value, Value.literal, Value.quoteText]
    rw [hlit]
    exact ⟨by simp [Field.read?, unquote_doubled, field], trimStart_of_head (by simp; decide)⟩

end Scalar

/-! ## Reading what is written -/

theorem mapM_eq_some_map {α β : Type} {f : α → Option β} {g : α → β} {xs : List α}
    (h : ∀ x ∈ xs, f x = some (g x)) : xs.mapM f = some (xs.map g) := by
  induction xs with
  | nil => rfl
  | cons x xs ih =>
    obtain ⟨hx, hxs⟩ := List.forall_mem_cons.1 h
    simp [hx, ih hxs]

/-- Items that a reader passes are read one by one, in order. -/
theorem readItems_intercalate {α β : Type} {read? : List Char → Option β} {text : α → List Char}
    {result : α → β} {xs : List α} (hne : xs ≠ [])
    (hscan : ∀ x ∈ xs, scan false (some ',') top (text x) = some top)
    (hread : ∀ x ∈ xs, read? (text x) = some (result x) ∧ trimStart (text x) = text x) :
    readItems? read? ([',', ' '].intercalate (xs.map text)) = some (xs.map result) := by
  obtain ⟨x, xs, rfl⟩ := List.exists_cons_of_ne_nil hne
  obtain ⟨hx, hxs⟩ := List.forall_mem_cons.1 hscan
  obtain ⟨⟨hreadx, htrimx⟩, hreads⟩ := List.forall_mem_cons.1 hread
  have hsplit : Nesting.split false [','] ([',', ' '].intercalate (text x :: xs.map text)) =
      some (text x :: (xs.map text).map ([' '] ++ ·)) :=
    Nesting.split_intercalate (scan_words rfl (by decide)) hx (List.forall_mem_map.2 hxs)
  have hrest : xs.mapM (fun x => read? (trimStart (' ' :: text x))) = some (xs.map result) := by
    refine mapM_eq_some_map fun y hy => ?_
    obtain ⟨hready, htrimy⟩ := hreads y hy
    calc read? (trimStart (' ' :: text y)) = read? (trimStart (text y)) := rfl
      _ = some (result y) := by rw [htrimy, hready]
  simp [readItems?, hsplit, htrimx, hreadx, Function.comp_def, hrest]

/-- A row of values as it is inserted. -/
def rowText (row : List Scalar) : String :=
  "(" ++ ", ".intercalate (row.map fun a => a.value.literal) ++ ")"

theorem toList_rowText (row : List Scalar) :
    (rowText row).toList = '(' :: ([',', ' '].intercalate (row.map Scalar.literal) ++ [')']) := by
  have hliteral : Scalar.literal = fun a => a.value.literal.toList := rfl
  simp [rowText, Function.comp_def, hliteral]

theorem readRow_rowText {row : List Scalar} (h : row ≠ []) :
    readRow? (rowText row).toList = some (row.map Scalar.field) := by
  have hbody : ItemList.between? '(' ')' (rowText row).toList =
      some ([',', ' '].intercalate (row.map Scalar.literal)) := by
    simp [toList_rowText, ItemList.between?, stripStart?, stripEnd?_append]
  simp only [readRow?, hbody, Option.bind_some]
  exact readItems_intercalate h (fun a _ => a.scan_literal) fun a _ => a.read_literal

theorem scan_rowText (row : List Scalar) :
    scan false (some ',') top (rowText row).toList = some top := by
  have hbody := @scan_literals false (row.map Scalar.value)
  rw [List.map_map] at hbody
  rw [toList_rowText]
  exact scan_parentheses hbody (by decide)

namespace StatementBuilder

variable {b : StatementBuilder}

/-- No value of a row is spread out. -/
theorem listText_row (h : b.expressions.BuildsLists) (row : List Scalar) :
    b.expressions.listText (row.map Scalar.value) =
      .ok (", ".intercalate (row.map fun a => a.value.literal)) := by
  have hone : ∀ a : Scalar, ExpressionBuilder.spread a.value = [a.value] := by
    intro a
    cases a <;> rfl
  have hspread : (row.map Scalar.value).flatMap ExpressionBuilder.spread =
      row.map Scalar.value := by
    simp [List.flatMap_map, hone, ← List.map_eq_flatMap]
  rw [ExpressionRegistry.listText_eq h, hspread, List.map_map]
  rfl

theorem rowTexts_eq (h : b.expressions.BuildsLists) (rows : List (List Scalar)) :
    b.rowTexts (rows.map (·.map Scalar.value)) = .ok (rows.map rowText) := by
  induction rows with
  | nil => rfl
  | cons row rows ih => simp [rowTexts, listText_row h, ih, rowText]; rfl

/-- An insertion writes the rows that are not empty, if there is one. -/
theorem batchInsert_eq (table : String) (columns : List String) {rows : List (List Value)}
    (h : ∃ row ∈ rows, row ≠ []) :
    b.batchInsert table columns rows = (b.rowTexts (rows.filter (!·.isEmpty))).map fun texts =>
      "INSERT INTO " ++ b.quoter.table table ++ b.insertColumns columns ++ " VALUES " ++
        ", ".intercalate texts := by
  obtain ⟨row, hrow, hne⟩ := h
  have hmem : row ∈ rows.filter (!·.isEmpty) := by simpa [hrow] using hne
  unfold batchInsert
  split
  next hnil => simp [hnil] at hmem
  next hcons =>
    cases b.rowTexts (rows.filter (!·.isEmpty)) with
    | error e => rfl
    | ok texts =>
      simp [bind, Except.bind, pure, Except.pure, Except.map, write, Part.write,
        String.append_assoc]

theorem buildsLists_of_rowTexts (hlists : b.expressions.GuardsLists) {row : List Value}
    {rows : List (List Value)} {texts : List String} (h : b.rowTexts (row :: rows) = .ok texts) :
    b.expressions.BuildsLists := by
  obtain ⟨text, htext, -⟩ := bind_eq_ok_iff.1 h
  exact ExpressionRegistry.buildsLists_of_listText hlists htext

end StatementBuilder

/-- The rows of an insertion are read back. -/
theorem readRows_rowTexts {rows : List (List Scalar)} (hne : rows ≠ [])
    (h : ∀ row ∈ rows, row ≠ []) :
    readRows? (", ".intercalate (rows.map rowText)).toList =
      some (rows.map (·.map Scalar.field)) := by
  have htext : (", ".intercalate (rows.map rowText)).toList =
      [',', ' '].intercalate (rows.map fun row => (rowText row).toList) := by
    simp [Function.comp_def]
  rw [htext]
  refine readItems_intercalate hne (fun row _ => scan_rowText row) fun row hrow => ?_
  refine ⟨readRow_rowText (h row hrow), ?_⟩
  rw [toList_rowText]
  rfl

/-- Rows of values are inserted if lists have their builder, and only then, unless another builder
takes lists. What is written behind `VALUES` is read as the rows that are not empty, in order, each
with the fields of its values. -/
theorem readRows_batchInsert (b : StatementBuilder) (hlists : b.expressions.GuardsLists)
    (table : String) (columns : List String) {rows : List (List Scalar)}
    (h : ∃ row ∈ rows, row ≠ []) :
    ((∃ sql, b.batchInsert table columns (rows.map (·.map Scalar.value)) = .ok sql) ↔
      b.expressions.BuildsLists) ∧
    ∀ sql, b.batchInsert table columns (rows.map (·.map Scalar.value)) = .ok sql →
      ∃ text, sql = "INSERT INTO " ++ b.quoter.table table ++ b.insertColumns columns ++
          " VALUES " ++ text ∧
        readRows? text.toList =
          some ((rows.filter (!·.isEmpty)).map (·.map Scalar.field)) := by
  have hne : ∃ row ∈ rows.map (·.map Scalar.value), row ≠ [] := by
    obtain ⟨row, hrow, hne⟩ := h
    exact ⟨_, List.mem_map_of_mem hrow, by simpa using hne⟩
  have hfilter : (rows.map (·.map Scalar.value)).filter (!·.isEmpty) =
      (rows.filter (!·.isEmpty)).map (·.map Scalar.value) := by
    simp [List.filter_map, Function.comp_def]
  obtain ⟨row, rest, hrows⟩ : ∃ row rest, rows.filter (!·.isEmpty) = row :: rest := by
    obtain ⟨row, hrow, hne⟩ := h
    refine List.exists_cons_of_ne_nil (List.ne_nil_of_mem (a := row) ?_)
    simpa [hrow] using hne
  have hfull : ∀ row ∈ rows.filter (!·.isEmpty), row ≠ [] := by simp
  rw [StatementBuilder.batchInsert_eq table columns hne, hfilter]
  cases htexts : b.rowTexts ((rows.filter (!·.isEmpty)).map (·.map Scalar.value)) with
  | error e =>
    have hb : ¬b.expressions.BuildsLists := by
      intro hb
      simp [StatementBuilder.rowTexts_eq hb] at htexts
    simp [Except.map, hb]
  | ok texts =>
    have hb : b.expressions.BuildsLists := by
      rw [hrows] at htexts
      exact StatementBuilder.buildsLists_of_rowTexts hlists htexts
    obtain rfl : (rows.filter (!·.isEmpty)).map rowText = texts := by
      rw [StatementBuilder.rowTexts_eq hb] at htexts
      exact Except.ok.inj htexts
    refine ⟨iff_of_true ⟨_, rfl⟩ hb, ?_⟩
    intro sql hsql
    obtain rfl := Except.ok.inj hsql
    exact ⟨_, rfl, readRows_rowTexts (by simp [hrows]) hfull⟩

/-- Texts that look like the end of a row stay in their fields. -/
theorem readRows_batchInsert_hostileTexts :
    let rows := [[], [.text "'), ('", .null], [.bool true, .text "?"]]
    ({} : StatementBuilder).expressions.GuardsLists ∧ (∃ row ∈ rows, row ≠ []) ∧
      ∃ text, StatementBuilder.batchInsert {} "t" ["a", "b"] (rows.map (·.map Scalar.value)) =
          .ok ("INSERT INTO \x60t\x60 (\x60a\x60, \x60b\x60) VALUES " ++ text) ∧
        readRows? text.toList =
          some [[.text "'), ('", .word "NULL"], [.word "1", .text "?"]] := by
  intro rows
  have h : ∃ row ∈ rows, row ≠ [] := ⟨[.bool true, .text "?"], by simp [rows], by simp⟩
  have hlists : ({} : StatementBuilder).expressions.GuardsLists :=
    ExpressionRegistry.guardsLists_usual
  obtain ⟨hok, hread⟩ := readRows_batchInsert {} hlists "t" ["a", "b"] h
  obtain ⟨sql, hsql⟩ := hok.2 ExpressionRegistry.buildsLists_usual
  obtain ⟨text, rfl, htext⟩ := hread sql hsql
  have hhead : "INSERT INTO " ++ ({} : Quoter).table "t" ++
      ({} : StatementBuilder).insertColumns ["a", "b"] ++ " VALUES " =
        "INSERT INTO \x60t\x60 (\x60a\x60, \x60b\x60) VALUES " := by decide +kernel
  exact ⟨hlists, h, text, hhead ▸ hsql, htext⟩

end SchemaMigration
