import Mathlib.Data.List.Nodup
import SchemaMigration.Proofs.Column.PhysicalType

/-!
# Texts in a definition

A definition is filled from a template, which has a placeholder for each clause. The clauses come
out one after the other, in the order of the template. What is put in is not read again: around a
text that the column holds the definition is the same, whatever the text is.

## Main definitions

* `Column.TextField` — the fields of a column that hold a text.
* `Column.TextField.clauseText` — the clause that a text makes.
* `Column.Shows` — whether a definition has a place for such a clause.

The main results are `Template.fill_eq_cut?` and `Column.definition_eq_clauses`.
-/

namespace SchemaMigration

open Chars

/-! ## Filling -/

namespace Template

variable (text : List Char → List Char)

/-- What stands before a placeholder stays as it is. -/
theorem fill_literal {literal : List Char} (h : '\x7b' ∉ literal) (rest : List Char) :
    fill text (literal ++ rest) = literal ++ fill text rest := by
  induction literal with
  | nil => rfl
  | cons c literal ih =>
    simp only [List.mem_cons, not_or] at h
    simpa [fill, fillFrom, Ne.symm h.1] using ih h.2

/-- A name that is not closed is no placeholder. -/
theorem fillFrom_unclosed (read : List Char) {cs : List Char} (h : '\x7d' ∉ cs) :
    fillFrom text (some read) cs = '\x7b' :: (read ++ cs) := by
  induction cs generalizing read with
  | nil => simp [fillFrom]
  | cons c cs ih =>
    simp only [List.mem_cons, not_or] at h
    simp [fillFrom, Ne.symm h.1, ih _ h.2]

/-- Filling takes the template apart at the next opening brace and at the next closing one behind
it. It goes on behind that, with the template and not with what it has put in. A brace that is not
closed stays with all that follows. -/
theorem fill_eq_cut? (template : List Char) :
    fill text template =
      match cut? '\x7b' template with
      | none => template
      | some (literal, tail) =>
        match cut? '\x7d' tail with
        | none => template
        | some (name, rest) => literal ++ text name ++ fill text rest := by
  split
  next hopen => simpa using fill_literal text (cut?_eq_none_iff.1 hopen) []
  next literal tail hopen =>
    obtain ⟨rfl, hliteral⟩ := eq_append_of_cut? hopen
    rw [fill_literal text hliteral]
    split
    next hclose =>
      have hunclosed := fillFrom_unclosed text [] (cut?_eq_none_iff.1 hclose)
      exact congrArg (literal ++ ·) hunclosed
    next name rest hclose =>
      obtain ⟨rfl, hname⟩ := eq_append_of_cut? hclose
      have hplaceholder := fill_placeholder text hname rest
      rw [placeholder, List.cons_append, List.append_assoc] at hplaceholder
      rw [List.append_assoc, ← hplaceholder, List.singleton_append]

end Template

/-! ## Fields with a text -/

namespace Column

/-- The fields of a column that hold a text. -/
inductive TextField where
  | default | check | comment | after | append
deriving DecidableEq, Repr

namespace TextField

def setting : TextField → String → Setting
  | default => .default
  | check => .check
  | comment => .comment
  | after => .after
  | append => .append

/-- The placeholder that the text of a field goes to. -/
def placeholder : TextField → String
  | default => "default"
  | check => "check"
  | comment => "comment"
  | after => "pos"
  | append => "append"

/-- The clause that a text makes. The text stands in it just as it is, only a comment has a
backslash before each double quote, and the name of a column is quoted. An empty text makes no
clause, unless it is a default value. -/
def clauseText (q : Quoter) : TextField → String → String
  | default, s => " DEFAULT " ++ s
  | check, s => if s = "" then "" else " CHECK (" ++ s ++ ")"
  | comment, s => if s = "" then "" else " COMMENT " ++ quoteComment s
  | after, s => if s = "" then "" else " AFTER " ++ q.column s
  | append, s => if s = "" then "" else if Text.has ';' s then " " ++ s else " " ++ s ++ ","

end TextField

/-- Holds if the definition has a place for the text of a field. The definition of a primary key has
few, and a column that stands first follows no other. -/
def Shows (c : Column) (t : ColumnType) (f : TextField) : Prop :=
  f.placeholder ∈ clauseNames t ∧ (f = .after → c.isFirst = false)

instance (c : Column) (t : ColumnType) (f : TextField) : Decidable (c.Shows t f) :=
  inferInstanceAs (Decidable (_ ∧ _))

variable {c : Column} {t : ColumnType} {f : TextField}

theorem type?_set_setting (c : Column) (f : TextField) (s : String) :
    (c.set (f.setting s)).type? = c.type? := by
  cases f <;> rfl

/-- Setting a text changes no clause but its own. -/
theorem clause_set_of_ne (c : Column) (q : Quoter) (t : ColumnType) (s : String) {name : String}
    (h : name ≠ f.placeholder) : (c.set (f.setting s)).clause q t name = c.clause q t name := by
  unfold clause
  split <;> cases f <;> first | rfl | exact absurd rfl h

/-- The clause of a text, unless the column stands first. -/
theorem clause_set_placeholder (q : Quoter) (t : ColumnType) (s : String)
    (h : f = .after → c.isFirst = false) :
    (c.set (f.setting s)).clause q t f.placeholder = f.clauseText q s := by
  by_cases hs : s = ""
  · subst hs
    cases f with
    | after =>
      simp only [TextField.setting, TextField.placeholder, TextField.clauseText, clause,
        positionClause, set, h rfl, Bool.false_eq_true, if_false, if_true]
      rfl
    | default | check | comment | append => rfl
  · have hpresent : present (some s) = some s := by simp [present, hs]
    cases f with
    | default => rfl
    | check | comment | append =>
      simp only [TextField.setting, TextField.placeholder, TextField.clauseText, clause,
        checkClause, commentClause, appendClause, set, hpresent, hs, if_false]
    | after =>
      simp only [TextField.setting, TextField.placeholder, TextField.clauseText, clause,
        positionClause, set, hpresent, hs, h rfl, Bool.false_eq_true, if_false]

/-! ## Definitions -/

theorem nodup_clauseNames (t : ColumnType) : (clauseNames t).Nodup := by
  unfold clauseNames
  split <;> decide

/-- Columns of one type with the same clauses have the same definition. -/
theorem definition_congr {c' : Column} (h : c.type? = some t) (h' : c'.type? = some t) (q : Quoter)
    (hclause : ∀ name ∈ clauseNames t, c'.clause q t name = c.clause q t name) :
    c'.definition q = c.definition q := by
  rw [← String.toList_inj, toList_definition h, toList_definition h', List.flatMap_def,
    List.flatMap_def]
  exact congrArg List.flatten
    (List.map_congr_left fun name hname => congrArg String.toList (hclause name hname))

/-- Whatever text a field has, the definition is the same around its clause. -/
theorem definition_set_setting (h : c.type? = some t) (q : Quoter) (f : TextField) :
    ∃ before after, ∀ s, (c.set (f.setting s)).definition q =
      before ++ (if c.Shows t f then f.clauseText q s else "") ++ after := by
  have htype (s : String) : (c.set (f.setting s)).type? = some t :=
    (type?_set_setting c f s).trans h
  by_cases hshows : c.Shows t f
  · obtain ⟨names, names', hnames⟩ := List.append_of_mem hshows.1
    have hnodup := hnames ▸ nodup_clauseNames t
    obtain ⟨hbefore, hafter⟩ : f.placeholder ∉ names ∧ f.placeholder ∉ names' := by
      simpa using (List.nodup_cons.1 (List.nodup_middle.1 hnodup)).1
    let text (names : List String) : List Char :=
      names.flatMap fun name => (c.clause q t name).toList
    refine ⟨.ofList (text names), .ofList (text names'), fun s => ?_⟩
    have haround := toList_definition_around (htype s) q hnames hbefore hafter
      fun _ => clause_set_of_ne c q t s
    rw [clause_set_placeholder q t s hshows.2] at haround
    simp [← String.toList_inj, haround, hshows, text]
  · refine ⟨c.definition q, "", fun s => ?_⟩
    have hclause (name : String) (hname : name ∈ clauseNames t) :
        (c.set (f.setting s)).clause q t name = c.clause q t name := by
      by_cases hne : name = f.placeholder
      · -- the field has a place, so the column stands first
        subst hne
        obtain ⟨rfl, hfirst⟩ : f = .after ∧ c.isFirst = true := by simpa [Shows, hname] using hshows
        simp [TextField.setting, TextField.placeholder, clause, positionClause, set, hfirst]
      · exact clause_set_of_ne c q t s hne
    simp [hshows, definition_congr h (htype s) q hclause]

/-- The definition of a column of a known type is its clauses in the order of the template, whatever
its texts are. Each text stands in its own clause and has no part in what is around that: a default
value, a check and an appended text just as they are, a comment with its double quotes behind
backslashes, and the name of a column as it is quoted. -/
theorem definition_eq_clauses (c : Column) (q : Quoter) {declared : ColumnType}
    (h : ColumnType.ofTag? c.tag = some declared) :
    let t := if c.isUnsigned then declared.unsigned else declared
    c.definition q =
        (if t.isPk then t.tag ++ c.checkClause ++ c.commentClause ++ c.appendClause
        else t.tag ++ c.lengthClause ++ c.nullClause ++ c.uniqueClause ++ c.defaultClause ++
          c.checkClause ++ c.commentClause ++ c.positionClause q ++ c.appendClause) ∧
      ∀ f : TextField, ∃ before after, ∀ s, (c.set (f.setting s)).definition q =
        before ++ (if c.Shows t f then f.clauseText q s else "") ++ after := by
  intro t
  have ht : c.type? = some t := by simp [type?, declaredType?, h, t]
  refine ⟨?_, definition_set_setting ht q⟩
  rw [← String.toList_inj, toList_definition ht]
  unfold clauseNames
  split <;> simp [clause, *]

/-- A column whose texts look like placeholders and parts of them. -/
def bracedColumn : Column where
  tag := "string"
  length := [64]
  default? := some "\x7btype\x7d"
  check? := some "\x7bcheck\x7d <> \x7b"
  comment? := some "\x7d \"\x7bappend\x7d\""
  after? := some "\x7bpos\x7d"
  append? := some ""

theorem definition_eq_clauses_bracedColumn :
    let c := bracedColumn
    ColumnType.ofTag? c.tag = some .string ∧
      c.definition {} = "string" ++ c.lengthClause ++ c.nullClause ++ c.uniqueClause ++
        c.defaultClause ++ c.checkClause ++ c.commentClause ++ c.positionClause {} ++
        c.appendClause ∧
      (∀ f : TextField, ∃ before after, ∀ s, (c.set (f.setting s)).definition {} =
        before ++ (if c.Shows .string f then f.clauseText {} s else "") ++ after) ∧
      c.definition {} = "string(64) NOT NULL DEFAULT \x7btype\x7d CHECK (\x7bcheck\x7d <> \x7b) " ++
        "COMMENT \"\x7d \\\"\x7bappend\x7d\\\"\" AFTER \x60\x7bpos\x7d\x60" := by
  intro c
  have htag : ColumnType.ofTag? c.tag = some .string := by decide
  obtain ⟨hdefinition, htexts⟩ := definition_eq_clauses c {} htag
  exact ⟨htag, hdefinition, htexts, by decide +kernel⟩

/-- A comment and the name of a column can come out other than they are. The double quotes of a
comment get backslashes, and a name may be a template of its own. -/
theorem definition_of_quotedTexts :
    let c := ((ofTag "string").set (.comment "a \"b\"")).set (.after "\x7b\x7b%c\x7d\x7d")
    let q : Quoter := ⟨[("column_prefix", "x_")]⟩
    ColumnType.ofTag? c.tag = some .string ∧
      c.definition q = "string(255) NOT NULL COMMENT \"a \\\"b\\\"\" AFTER \x60x_c\x60" ∧
      c.comment? = some "a \"b\"" ∧ ¬ "a \"b\"".toList <:+: (c.definition q).toList ∧
      c.after? = some "\x7b\x7b%c\x7d\x7d" ∧
      ¬ "\x7b\x7b%c\x7d\x7d".toList <:+: (c.definition q).toList := by
  decide +kernel

end Column

end SchemaMigration
