import SchemaMigration.Proofs.Column.LastSettings

/-!
# The length of a column

A column is given lengths in many spellings: numbers, texts with commas, lists and keyed tables. The
last one counts. It gives its first two components, if these are positive numbers, and otherwise the
column has the default length of its type. What was given before leaves no trace.

## Main definitions

* `Column.Components` — the components of a length, in each of its spellings.
* `Column.Gives` — the numbers that a length gives.
* `Column.Origin`, `Column.givenLengths` — how a column is made, and the lengths that it is given.

The main results are `Column.gives_iff` and `Column.length_built`.
-/

namespace SchemaMigration

open Chars

/-! ## Components -/

/-- The pieces of a text, each of which ends at a separator or at the end of the text. -/
inductive Chars.Pieces (sep : Char) : List Char → List (List Char) → Prop
  | last {piece} (h : sep ∉ piece) : Pieces sep piece [piece]
  | cons {piece rest pieces} (h : sep ∉ piece) (hrest : Pieces sep rest pieces) :
      Pieces sep (piece ++ sep :: rest) (piece :: pieces)

theorem Chars.pieces_splitOn (sep : Char) (cs : List Char) : Pieces sep cs (splitOn sep cs) := by
  cases hcut : cut? sep cs with
  | none =>
    have hsep : sep ∉ cs := cut?_eq_none_iff.1 hcut
    rw [splitOn_of_notMem hsep]
    exact .last hsep
  | some p =>
    obtain ⟨before, after⟩ := p
    obtain ⟨rfl, hsep⟩ := eq_append_of_cut? hcut
    rw [splitOn_append_cons hsep]
    exact .cons hsep (pieces_splitOn sep after)
termination_by cs.length

theorem Chars.pieces_iff {sep : Char} {cs : List Char} {pieces : List (List Char)} :
    Pieces sep cs pieces ↔ splitOn sep cs = pieces := by
  constructor
  · intro h
    induction h with
    | last h => exact splitOn_of_notMem h
    | cons h _ ih => rw [splitOn_append_cons h, ih]
  · rintro rfl
    exact pieces_splitOn sep cs

namespace Column

/-- The components of a length: the items of a list, the values of a keyed table, what stands
between the commas of a text without the white space around it, and any other value itself. -/
inductive Components : Value → List Value → Prop
  | list (items : List Value) : Components (.list items) items
  | map (fields : List (String × Value)) : Components (.map fields) (fields.map Prod.snd)
  | text {s : String} {pieces : List (List Char)} (h : Pieces ',' s.toList pieces) :
      Components (.text s) (pieces.map fun piece => .text (.ofList (trim piece)))
  | number (x : Float) : Components (.number x) [.number x]
  | bool (b : Bool) : Components (.bool b) [.bool b]
  | null : Components .null [.null]

/-- `Gives v ns` says that the value `v` gives the length `ns`: its first two components, or the
only one, which have to be positive numbers. -/
def Gives (v : Value) (ns : List Nat) : Prop :=
  ns ≠ [] ∧ ∃ parts, Components v parts ∧ (parts.take 2).map Value.asPositive? = ns.map some

variable {v : Value} {ns : List Nat}

theorem components_iff {parts : List Value} : Components v parts ↔ lengthParts v = parts := by
  constructor
  · intro h
    cases h with
    | text h =>
      simp [lengthParts, Text.split, Text.trim, pieces_iff.1 h]
    | list | map | number | bool | null => rfl
  · rintro rfl
    cases v with
    | text s =>
      have htext := Components.text (pieces_splitOn ',' s.toList)
      simpa [lengthParts, Text.split, Text.trim, Function.comp_def] using htext
    | list items => exact .list items
    | map fields => exact .map fields
    | number x => exact .number x
    | bool b => exact .bool b
    | null => exact .null

/-- All items of a list are read, or none. -/
theorem mapM_eq_some_iff {α β : Type} {f : α → Option β} {as : List α} {bs : List β} :
    as.mapM f = some bs ↔ as.map f = bs.map some := by
  induction as generalizing bs with
  | nil => cases bs <;> simp
  | cons a as ih =>
    simp only [List.mapM_cons, Option.bind_eq_bind, Option.bind_eq_some_iff, Option.pure_def,
      Option.some.injEq, List.map_cons, ih]
    cases bs with
    | nil => simp
    | cons b bs => simp [eq_comm]

theorem gives_iff : Gives v ns ↔ readLength v = ns ∧ ns ≠ [] := by
  have hread : (∃ parts, Components v parts ∧ (parts.take 2).map Value.asPositive? = ns.map some) ↔
      ((lengthParts v).take 2).mapM Value.asPositive? = some ns := by
    simp [components_iff, mapM_eq_some_iff]
  rw [Gives, hread, readLength, and_comm]
  refine and_congr_left fun hne => ?_
  cases ((lengthParts v).take 2).mapM Value.asPositive? with
  | none => simp [Ne.symm hne]
  | some ms => simp

/-- A length has two components at most. -/
theorem length_readLength_le (v : Value) : (readLength v).length ≤ 2 := by
  rw [readLength]
  cases hread : ((lengthParts v).take 2).mapM Value.asPositive? with
  | none => exact Nat.zero_le 2
  | some ns =>
    have hlength := congrArg List.length (mapM_eq_some_iff.1 hread)
    rw [List.length_map, List.length_map] at hlength
    rw [Option.getD_some, ← hlength]
    exact List.length_take_le 2 _

/-- The default length of a type name, which a name of no type does not have. -/
def defaultOf (tag : String) : List Nat :=
  ((ColumnType.ofTag? tag).map ColumnType.defaultLength).getD []

theorem length_defaultOf_le (tag : String) : (defaultOf tag).length ≤ 2 := by
  have hdefault (t : ColumnType) : t.defaultLength.length ≤ 2 := by cases t <;> decide
  rw [defaultOf]
  cases ColumnType.ofTag? tag with
  | none => exact Nat.zero_le 2
  | some t => exact hdefault t

theorem lengthFor_of_gives (tag : String) (h : Gives v ns) : lengthFor tag v = ns := by
  obtain ⟨rfl, hne⟩ := gives_iff.1 h
  simp [lengthFor, hne]

theorem lengthFor_of_not_gives (tag : String) (h : ∀ ns, ¬Gives v ns) :
    lengthFor tag v = defaultOf tag := by
  have hnil : readLength v = [] := by
    by_contra hne
    exact h _ (gives_iff.2 ⟨rfl, hne⟩)
  simp [lengthFor, hnil, defaultOf]

theorem not_gives_null (ns : List Nat) : ¬Gives .null ns := by
  have hnil : readLength .null = [] := by decide +kernel
  intro h
  obtain ⟨rfl, hne⟩ := gives_iff.1 h
  exact hne hnil

/-! ## Histories -/

/-- How a column is made: by its type name alone, or with arguments by position, the first of which
is a length. -/
inductive Origin where
  | ofTag
  | ofArgs (args : List Value)

def Origin.column (tag : String) : Origin → Column
  | .ofTag => .ofTag tag
  | .ofArgs args => .ofArgs tag args

def Origin.lengths : Origin → List Value
  | .ofTag => []
  | .ofArgs args => args.take 1

def Setting.lengths : Setting → List Value
  | .length v => [v]
  | _ => []

/-- The lengths that a column is given, in order. -/
def givenLengths (o : Origin) (ss : List Setting) : List Value :=
  o.lengths ++ ss.flatMap Setting.lengths

/-- What a column of a type name has for its length, if `last?` is the last that it was given. -/
structure LengthFrom (tag : String) (last? : Option Value) (length : List Nat) : Prop where
  le_two : length.length ≤ 2
  given : ∀ v ns, last? = some v → Gives v ns → length = ns
  /-- The default is for columns without a length, and for lengths that give nothing. -/
  default : (∀ v ns, last? = some v → ¬Gives v ns) → length = defaultOf tag

theorem LengthFrom.without (tag : String) : LengthFrom tag none (defaultOf tag) where
  le_two := length_defaultOf_le tag
  given := by simp
  default _ := rfl

theorem LengthFrom.of (tag : String) (v : Value) : LengthFrom tag (some v) (lengthFor tag v) where
  le_two := by
    unfold lengthFor
    split
    · exact length_defaultOf_le tag
    · exact length_readLength_le v
  given := by
    rintro _ ns ⟨⟩ h
    exact lengthFor_of_gives tag h
  default h := lengthFor_of_not_gives tag fun ns => h v ns rfl

theorem Origin.lengthFrom (tag : String) (o : Origin) :
    LengthFrom tag o.lengths.getLast? (o.column tag).length := by
  cases o with
  | ofTag => exact .without tag
  | ofArgs args =>
    cases args with
    | nil =>
      have hnull : lengthFor tag .null = defaultOf tag := lengthFor_of_not_gives tag not_gives_null
      have hlength : (Column.ofArgs tag []).length = lengthFor tag .null := rfl
      rw [Origin.column, hlength, hnull]
      exact .without tag
    | cons v args =>
      have hlengths : (Origin.ofArgs (v :: args)).lengths = [v] := by simp [Origin.lengths]
      rw [hlengths]
      exact .of tag v

/-- A change that gives no length leaves it as it is, and any other replaces it. -/
theorem LengthFrom.set {tag : String} {c : Column} {last? : Option Value} (htag : c.tag = tag)
    (h : LengthFrom tag last? c.length) (s : Setting) :
    LengthFrom tag (s.lengths.getLast?.or last?) (c.set s).length := by
  cases s with
  | length v => exact htag ▸ .of c.tag v
  | _ => exact h

theorem tag_foldl_set (c : Column) (ss : List Setting) : (ss.foldl set c).tag = c.tag := by
  rw [foldl_set_eq_settled, tag_settled]

theorem Origin.tag_column (tag : String) (o : Origin) : (o.column tag).tag = tag := by
  cases o <;> rfl

/-- However a column was made and changed, its length is what the last length value gives: the first
two components of that, or its only one, and the default of the type if these are no positive
numbers. -/
theorem length_built (tag : String) (o : Origin) (ss : List Setting) :
    LengthFrom tag (givenLengths o ss).getLast? (ss.foldl set (o.column tag)).length := by
  induction ss using List.reverseRecOn with
  | nil => simpa [givenLengths] using o.lengthFrom tag
  | append_singleton ss s ih =>
    have htag : (ss.foldl set (o.column tag)).tag = tag := by
      rw [tag_foldl_set, Origin.tag_column]
    have hlast : (givenLengths o (ss ++ [s])).getLast? =
        s.lengths.getLast?.or (givenLengths o ss).getLast? := by
      simp [givenLengths, List.getLast?_append, Option.or_assoc]
    rw [List.foldl_append, hlast]
    exact ih.set htag s

/-- Two components of which one is no number give the default, and nothing of what was there. -/
example : (([.length (.text "10, 2, x"), .unique, .length (.list [.number 8, .text "x"])] :
    List Setting).foldl set (Origin.column "decimal" (.ofArgs [.number 5]))).length = [12] := by
  decide +kernel

end Column

end SchemaMigration
