import SchemaMigration.Text.Chars

/-!
# Templates

A template is a text with placeholders, which are names in braces. Filling it puts the text of each
placeholder in its place. What was put in is not read again, so it may hold braces of its own.

## Main definitions

* `Template.ofNames` — the template that is nothing but placeholders.
* `Template.fill` — a template with the text of every placeholder.
-/

namespace SchemaMigration.Template

def placeholder (name : List Char) : List Char := '\x7b' :: (name ++ ['\x7d'])

def ofNames (names : List (List Char)) : List Char := names.flatMap placeholder

/-- Fills from a point of the template: outside of a placeholder, or behind its opening brace and
what is read of its name. A brace that is not closed stays with what follows it. -/
def fillFrom (text : List Char → List Char) : Option (List Char) → List Char → List Char
  | none, [] => []
  | none, c :: cs =>
    if c = '\x7b' then fillFrom text (some []) cs else c :: fillFrom text none cs
  | some name, [] => '\x7b' :: name
  | some name, c :: cs =>
    if c = '\x7d' then text name ++ fillFrom text none cs else fillFrom text (some (name ++ [c])) cs

/-- A template with the text of every placeholder. -/
def fill (text : List Char → List Char) (template : List Char) : List Char :=
  fillFrom text none template

variable (text : List Char → List Char)

@[simp] theorem fill_nil : fill text [] = [] := rfl

theorem fillFrom_name (read : List Char) {name : List Char} (h : '\x7d' ∉ name)
    (rest : List Char) :
    fillFrom text (some read) (name ++ '\x7d' :: rest) = text (read ++ name) ++ fill text rest := by
  induction name generalizing read with
  | nil => simp [fillFrom, fill]
  | cons c name ih =>
    simp only [List.mem_cons, not_or] at h
    simp [fillFrom, Ne.symm h.1, ih _ h.2]

/-- A placeholder at the start is its text, and what follows is filled by itself. -/
theorem fill_placeholder {name : List Char} (h : '\x7d' ∉ name) (rest : List Char) :
    fill text (placeholder name ++ rest) = text name ++ fill text rest := by
  simp [placeholder, fill, fillFrom, fillFrom_name text [] h]

/-- Filling placeholders puts their texts one after the other. -/
theorem fill_ofNames {names : List (List Char)} (h : ∀ name ∈ names, '\x7d' ∉ name) :
    fill text (ofNames names) = names.flatMap text := by
  induction names with
  | nil => rfl
  | cons name names ih =>
    obtain ⟨hname, hnames⟩ := List.forall_mem_cons.1 h
    simp only [ofNames, List.flatMap_cons] at ih ⊢
    rw [fill_placeholder text hname, ih hnames]

end SchemaMigration.Template
