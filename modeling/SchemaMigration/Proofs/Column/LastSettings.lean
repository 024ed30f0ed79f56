import Mathlib.Data.List.Induction
import SchemaMigration.Column.Basic

/-!
# Changes of a column

Every change of a column sets one of its fields, and says all there is to say of that field. So of
any number of changes the last one of each field counts, in whatever order the fields take their
turns.

## Main definitions

* `Column.Field`, `Column.Setting.field` — the fields of a column, and which one a change sets.
* `Column.last?` — the last change of each field.
* `Column.settled` — a column with the last change of each field.

The main results are `Column.foldl_set_eq_settled` and `Column.foldl_set_congr`.
-/

namespace SchemaMigration.Column

/-- What a change can set. -/
inductive Field where
  | length | nullability | unique | unsigned | first | default | check | comment | after | append
deriving DecidableEq, Repr

def Setting.field : Setting → Field
  | .length _ => .length
  | .notNull | .null => .nullability
  | .unique => .unique
  | .unsigned => .unsigned
  | .first => .first
  | .default _ => .default
  | .check _ => .check
  | .comment _ => .comment
  | .after _ => .after
  | .append _ => .append

/-- The last of some changes that sets a field. -/
def last? (ss : List Setting) (f : Field) : Option Setting := (ss.filter (·.field = f)).getLast?

@[simp] theorem last?_nil (f : Field) : last? [] f = none := rfl

theorem last?_concat (ss : List Setting) (s : Setting) (f : Field) :
    last? (ss ++ [s]) f = if s.field = f then some s else last? ss f := by
  by_cases h : s.field = f <;> simp [last?, List.filter_append, h]

/-- A column with one change of each field, or none. -/
def settled (c : Column) (last : Field → Option Setting) : Column where
  tag := c.tag
  length := match last .length with
    | some (.length v) => lengthFor c.tag v
    | _ => c.length
  nullable := match last .nullability with
    | some .null => true
    | some .notNull => false
    | _ => c.nullable
  isUnique := (last .unique).isSome || c.isUnique
  isUnsigned := (last .unsigned).isSome || c.isUnsigned
  default? := match last .default with
    | some (.default s) => some s
    | _ => c.default?
  check? := match last .check with
    | some (.check s) => some s
    | _ => c.check?
  comment? := match last .comment with
    | some (.comment s) => some s
    | _ => c.comment?
  isFirst := (last .first).isSome || c.isFirst
  after? := match last .after with
    | some (.after column) => some column
    | _ => c.after?
  append? := match last .append with
    | some (.append sql) => some sql
    | _ => c.append?

/-- One more change takes the place of the last one of its field, and leaves the other fields. -/
theorem settled_last?_concat (c : Column) (ss : List Setting) (s : Setting) :
    c.settled (last? (ss ++ [s])) = (c.settled (last? ss)).set s := by
  cases s <;> simp [settled, set, last?_concat, Setting.field]

/-- Of any number of changes the last one of each field counts. -/
theorem foldl_set_eq_settled (c : Column) (ss : List Setting) :
    ss.foldl set c = c.settled (last? ss) := by
  induction ss using List.reverseRecOn with
  | nil => simp [settled]
  | append_singleton ss s ih =>
    rw [List.foldl_append, ih, settled_last?_concat, List.foldl_cons, List.foldl_nil]

/-- Changes with the same last one of each field come to the same. -/
theorem foldl_set_congr (c : Column) {ss ts : List Setting} (h : ∀ f, last? ss f = last? ts f) :
    ss.foldl set c = ts.foldl set c := by
  rw [foldl_set_eq_settled, foldl_set_eq_settled, funext h]

@[simp] theorem tag_settled (c : Column) (last : Field → Option Setting) :
    (c.settled last).tag = c.tag := rfl

end SchemaMigration.Column
