import Mathlib.Tactic.Choose
import SchemaMigration.Proofs.Statement.EmptyCondition
import SchemaMigration.Proofs.Statement.KeyedTables
import SchemaMigration.Proofs.Statement.QuotedNames

/-!
# Conjuncts of a condition

A reader who skips quoted names, literals and what stands in parentheses splits the text of a
condition on columns at its `AND`s. It finds one conjunct for each column, whatever the names and
values hold.

## Main definitions

* `conjuncts?` — the reader.

The main result is `conjuncts_hash`.
-/

namespace SchemaMigration

open Position

/-- The conjuncts of a text, if every quote and parenthesis in it is closed. The empty text has
none. -/
def conjuncts? (s : String) : Option (List String) :=
  if s = "" then some []
  else (Nesting.split true " AND ".toList s.toList).map (·.map String.ofList)

/-! ## Clauses

A clause shows its reader no `A` outside of names, literals and parentheses, and so no `AND`.
-/

namespace StatementBuilder

variable {b : StatementBuilder} {column : String}

theorem scan_clauseWords :
    ∀ words ∈ [" IS NULL", "0=1", " IN ", " = "],
      scan true (some 'A') top words.toList = some top := by
  intro words hmem
  have hall : ∀ words ∈ [" IS NULL", "0=1", " IN ", " = "],
      words.toList.all (fun c => isWordChar c && some 'A' != some c) = true := by decide
  exact scan_words rfl (hall words hmem)

theorem scan_column (hfull : b.quoter.override? .column (b.quoter.safeName .column column) = none)
    (hticks : '\x60' ∉ b.quoter.fullName .column column) :
    scan true (some 'A') top (b.quoter.column column).toList = some top := by
  cases hempty : column.isEmpty with
  | true => simp [Quoter.column, Quoter.quote, hempty]
  | false =>
    have hsafe : '\x60' ∉ (b.quoter.safeName .column column).toList := by
      rwa [Quoter.backtick_mem_safeName]
    have hquoted : scan true (some 'A') top
        ('\x60' :: ((b.quoter.safeName .column column).toList ++ ['\x60'])) = some top :=
      scan_quoted (by decide) (by decide) hsafe
    rw [Quoter.column, Quoter.quote_of_override?_eq_none hempty hfull]
    simpa using hquoted

section

variable (hcolumn : scan true (some 'A') top (b.quoter.column column).toList = some top)
include hcolumn

theorem scan_equality {v : Value} (hv : ∀ items, v ≠ .list items) :
    scan true (some 'A') top (b.quoter.column column ++ " = " ++ v.literal).toList = some top := by
  have hliteral : scan true (some 'A') top v.literal.toList = some top :=
    scan_scalar hv (by decide)
  simp only [String.toList_append, scan_append, hcolumn, Option.bind_some,
    scan_clauseWords " = " (by decide), hliteral]

theorem scan_membership (vs : List Value) :
    scan true (some 'A') top
        (b.quoter.column column ++ " IN (" ++ ", ".intercalate (vs.map Value.literal) ++
          ")").toList = some top := by
  have hlist : scan true (some 'A') top
      ('(' :: ([',', ' '].intercalate (vs.map fun v => v.literal.toList) ++ [')'])) = some top :=
    scan_parentheses (scan_literals vs) (by decide)
  have hin : (b.quoter.column column ++ " IN (" ++ ", ".intercalate (vs.map Value.literal) ++
      ")").toList = (b.quoter.column column).toList ++ (" IN ".toList ++
        ('(' :: ([',', ' '].intercalate (vs.map fun v => v.literal.toList) ++ [')']))) := by
    simp [Function.comp_def]
  rw [hin, scan_append, hcolumn, Option.bind_some, scan_append, scan_clauseWords _ (by decide)]
  exact hlist

/-- Every pair has a clause. -/
theorem scan_pairClause (hlists : b.expressions.BuildsLists) (v : Value) :
    ∃ clause, b.pairClause column v = .ok clause ∧
      scan true (some 'A') top clause.toList = some top := by
  cases v with
  | null =>
    refine ⟨_, rfl, ?_⟩
    simp only [String.toList_append, scan_append, hcolumn, Option.bind_some,
      scan_clauseWords " IS NULL" (by decide)]
  | list items =>
    cases items with
    | nil => exact ⟨_, rfl, scan_clauseWords _ (by decide)⟩
    | cons item items =>
      have htext := ExpressionRegistry.listText_eq hlists (item :: items)
      have hclause : b.pairClause column (.list (item :: items)) =
          (b.expressions.listText (item :: items)).map fun text =>
            b.quoter.column column ++ " IN (" ++ text ++ ")" := rfl
      rw [hclause, htext]
      exact ⟨_, rfl, scan_membership hcolumn _⟩
  | bool _ | number _ | text _ | map _ => exact ⟨_, rfl, scan_equality hcolumn (by simp)⟩

end

theorem pairClauses_eq {fields : List (String × Value)} {clause : String × Value → String}
    (h : ∀ f ∈ fields, b.pairClause f.1 f.2 = .ok (clause f)) :
    b.pairClauses fields = .ok (fields.map clause) := by
  rw [pairClauses_eq_ok_iff, List.map_map]
  exact List.map_congr_left h

/-- Texts in parentheses with `AND` between them are split into these. -/
theorem conjuncts_intercalate {groups : List String} (hne : groups ≠ [])
    (h : ∀ group ∈ groups, ∃ part : String, group = "(" ++ part ++ ")" ∧
      scan true none top part.toList = some top) :
    scan true none top (" AND ".intercalate groups).toList = some top ∧
      conjuncts? (" AND ".intercalate groups) = some groups := by
  have hscan : ∀ stop?, stop? ≠ some '(' → ∀ cs ∈ groups.map String.toList,
      scan true stop? top cs = some top := by
    intro stop? hstop
    refine List.forall_mem_map.2 fun group hgroup => ?_
    obtain ⟨part, rfl, hpart⟩ := h group hgroup
    simpa using scan_parentheses hpart hstop
  refine ⟨?_, ?_⟩
  · rw [String.toList_intercalate]
    exact scan_intercalate (scan_words rfl (by decide)) (hscan none (by decide))
  · obtain ⟨first, rest, rfl⟩ := List.exists_cons_of_ne_nil hne
    obtain ⟨hfirst, hrest⟩ := List.forall_mem_cons.1 (hscan (some ' ') (by decide))
    -- a blank inside of the parentheses starts no separator
    have hsplit : Nesting.split true " AND ".toList
        (" AND ".intercalate (first :: rest)).toList =
          some ((first :: rest).map String.toList) := by
      rw [String.toList_intercalate]
      simpa [Function.comp_def] using
        @Nesting.split_intercalate true ' ' "AND ".toList [] _ _ rfl hfirst hrest
    have hnonempty : " AND ".intercalate (first :: rest) ≠ "" := by
      obtain ⟨part, rfl, -⟩ := h first (by simp)
      cases rest <;> simp
    rw [conjuncts?, if_neg hnonempty, hsplit]
    simp

/-- Clauses are found again in their conjunction. -/
theorem conjuncts_conjunction {parts : List String} (hne : "" ∉ parts)
    (h : ∀ part ∈ parts, scan true (some 'A') top part.toList = some top) :
    scan true none top (conjunction parts).toList = some top ∧
      conjuncts? (conjunction parts) =
        some (parts.map fun part => if 2 ≤ parts.length then "(" ++ part ++ ")" else part) := by
  match parts with
  | [] => exact ⟨rfl, rfl⟩
  | [part] =>
    have hpart := h part (by simp)
    have hnonempty : part ≠ "" := by simpa [eq_comm] using hne
    -- a separator would show its `A`
    have hsplit : Nesting.split true " AND ".toList part.toList = some [part.toList] :=
      Nesting.pieces_of_scan (by decide) (by decide) hpart
    exact ⟨scan_none hpart, by simp only [conjuncts?, conjunction, if_neg hnonempty, hsplit]; simp⟩
  | first :: second :: rest =>
    have hmany : 2 ≤ (first :: second :: rest).length := by simp
    simp only [conjunction, if_pos hmany]
    refine conjuncts_intercalate (by simp) (List.forall_mem_map.2 fun part hpart => ?_)
    exact ⟨part, rfl, scan_none (h part hpart)⟩

end StatementBuilder

/-- Pairs of a column and a value always have a text when lists have their builder. If no column
has an override, or a backtick when its template is filled in, the parentheses of the text are
balanced, and it is split into one conjunct for each pair, in order: the text of the pair alone, in
parentheses if there are several. -/
theorem conjuncts_hash (b : StatementBuilder) {fields : List (String × Value)}
    (hlists : b.expressions.BuildsLists)
    (hfull : ∀ f ∈ fields, b.quoter.override? .column (b.quoter.safeName .column f.1) = none)
    (hticks : ∀ f ∈ fields, '\x60' ∉ b.quoter.fullName .column f.1) :
    ∃ (clause : String × Value → String) (text : String),
      (∀ f ∈ fields, b.conditionText (.hash [f]) = .ok (clause f)) ∧
      b.conditionText (.hash fields) = .ok text ∧
      scan true none top text.toList = some top ∧
      conjuncts? text =
        some (fields.map fun f =>
          if 2 ≤ fields.length then "(" ++ clause f ++ ")" else clause f) := by
  have hclause : ∀ f ∈ fields, ∃ clause, b.pairClause f.1 f.2 = .ok clause ∧
      scan true (some 'A') top clause.toList = some top := fun f hf =>
    b.scan_pairClause (b.scan_column (hfull f hf) (hticks f hf)) hlists f.2
  choose! clause hclause hscan using hclause
  have htext : ∀ fs, (∀ f ∈ fs, f ∈ fields) →
      b.conditionText (.hash fs) = .ok (StatementBuilder.conjunction (fs.map clause)) := by
    intro fs hfs
    have hclauses := b.pairClauses_eq fun f hf => hclause f (hfs f hf)
    simp only [StatementBuilder.conditionText, StatementBuilder.pairsText, hclauses]
    rfl
  have hne : "" ∉ fields.map clause := by
    simp only [List.mem_map, not_exists, not_and]
    exact fun f hf => StatementBuilder.pairClause_ne_empty (hclause f hf)
  obtain ⟨hbalanced, hsplit⟩ :=
    StatementBuilder.conjuncts_conjunction hne (List.forall_mem_map.2 hscan)
  refine ⟨clause, _, fun f hf => ?_, htext fields fun _ => id, hbalanced, ?_⟩
  · exact htext [f] (by simpa using hf)
  · rw [List.map_map] at hsplit
    simpa [Function.comp_def] using hsplit

/-- Neither names nor values that look like the end of a conjunct change the conjuncts. -/
theorem conjuncts_hash_hostileTexts :
    let fields := [("a) AND (b", Value.text "' AND ('"), ("it's", .map [(")", .text "' OR (")]),
      ("n", .list [.list [.text ")"], .null]), ("e", .list []), ("z", .null)]
    let b : StatementBuilder := {}
    b.expressions.BuildsLists ∧
      (∀ f ∈ fields, b.quoter.override? .column (b.quoter.safeName .column f.1) = none) ∧
      (∀ f ∈ fields, '\x60' ∉ b.quoter.fullName .column f.1) ∧
      ∃ text, b.conditionText (.hash fields) = .ok text ∧
        conjuncts? text = some ["(\x60a)AND(b\x60 = ''' AND (''')",
          "(\x60it\\&#39\\;s\x60 = '\x7b\")\":\"'' OR (\"\x7d')",
          "(\x60n\x60 IN (')', NULL))", "(0=1)", "(\x60z\x60 IS NULL)"] := by
  intro fields b
  have hfull : ∀ f ∈ fields, b.quoter.override? .column (b.quoter.safeName .column f.1) = none := by
    decide +kernel
  have hticks : ∀ f ∈ fields, '\x60' ∉ b.quoter.fullName .column f.1 := by decide +kernel
  obtain ⟨clause, text, hclause, htext, -, hsplit⟩ :=
    conjuncts_hash b ExpressionRegistry.buildsLists_usual hfull hticks
  refine ⟨ExpressionRegistry.buildsLists_usual, hfull, hticks, text, htext, ?_⟩
  have hone : ∀ f ∈ fields, ∀ s, b.conditionText (.hash [f]) = .ok s → clause f = s :=
    fun f hf s hs => Except.ok.inj ((hclause f hf).symm.trans hs)
  have hclauses : fields.map clause = ["\x60a)AND(b\x60 = ''' AND ('''",
      "\x60it\\&#39\\;s\x60 = '\x7b\")\":\"'' OR (\"\x7d'", "\x60n\x60 IN (')', NULL)", "0=1",
      "\x60z\x60 IS NULL"] := by
    simp only [fields, List.forall_mem_cons] at hone
    obtain ⟨ha, hit, hn, he, hz, -⟩ := hone
    simp only [fields, List.map_cons, ha _ rfl, hit _ rfl, hn _ rfl, he _ rfl, hz _ rfl,
      List.map_nil]
    rfl
  have hmany : 2 ≤ fields.length := by decide
  have hgroups : fields.map (fun f => "(" ++ clause f ++ ")") =
      (fields.map clause).map fun s => "(" ++ s ++ ")" := by simp
  simp only [hsplit, if_pos hmany, hgroups, hclauses]
  rfl

end SchemaMigration
