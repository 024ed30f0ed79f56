/-!
# Dictionaries

Values by name, kept in the order of the names. Names compare by code point, so the order is the
one in which a dictionary is listed and printed.

## Main definitions

* `Dict.insert`, `Dict.erase`, `Dict.get?` — writing and reading one name.
* `Dict.ofList` — the dictionary of a list of pairs, where a later pair wins.
-/

namespace SchemaMigration

/-- Values by name. -/
abbrev Dict (α : Type) := List (String × α)

namespace Dict

variable {α : Type}

/-- Sets the value of a name, at its place in the order. -/
def insert (d : Dict α) (name : String) (a : α) : Dict α :=
  match d with
  | [] => [(name, a)]
  | (n, b) :: rest =>
    if name < n then (name, a) :: (n, b) :: rest
    else if name = n then (name, a) :: rest
    else (n, b) :: insert rest name a

def get? (d : Dict α) (name : String) : Option α :=
  match d with
  | [] => none
  | (n, b) :: rest => if n = name then some b else get? rest name

def erase (d : Dict α) (name : String) : Dict α := d.filter (·.1 ≠ name)

def has (d : Dict α) (name : String) : Bool := (d.get? name).isSome

def names (d : Dict α) : List String := d.map Prod.fst

/-- The dictionary of a list of pairs. A later pair wins. -/
def ofList (pairs : List (String × α)) : Dict α := pairs.foldl (fun d (n, a) => insert d n a) []

@[simp] theorem get?_nil (name : String) : get? ([] : Dict α) name = none := rfl

theorem get?_insert (d : Dict α) (name other : String) (a : α) :
    (d.insert name a).get? other = if name = other then some a else d.get? other := by
  induction d with
  | nil => simp [insert, get?]
  | cons p rest ih =>
    obtain ⟨n, b⟩ := p
    simp only [insert]
    split
    · simp [get?]
    · split
      · subst_vars; by_cases h : n = other <;> simp [get?, h]
      · by_cases h : n = other
        · subst h; simp [get?, *]
        · simp [get?, h, ih]

@[simp] theorem get?_insert_self (d : Dict α) (name : String) (a : α) :
    (d.insert name a).get? name = some a := by simp [get?_insert]

theorem get?_insert_of_ne (d : Dict α) {name other : String} (a : α) (h : name ≠ other) :
    (d.insert name a).get? other = d.get? other := by simp [get?_insert, h]

theorem get?_erase (d : Dict α) (name other : String) :
    (d.erase name).get? other = if name = other then none else d.get? other := by
  induction d with
  | nil => simp [erase]
  | cons p rest ih =>
    obtain ⟨n, b⟩ := p
    by_cases h : n = name
    · have hr : erase ((n, b) :: rest) name = erase rest name := by simp [erase, h]
      rw [hr, ih]
      by_cases h' : name = other <;> simp [get?, h, h']
    · have hr : erase ((n, b) :: rest) name = (n, b) :: erase rest name := by simp [erase, h]
      rw [hr]
      by_cases h' : n = other
      · subst h'; simp [get?, Ne.symm h]
      · simp [get?, h', ih]

theorem isSome_get?_iff (d : Dict α) (name : String) :
    (d.get? name).isSome = true ↔ name ∈ d.names := by
  induction d with
  | nil => simp [names]
  | cons p rest ih =>
    obtain ⟨n, b⟩ := p
    by_cases h : n = name
    · simp [get?, names, h]
    · simp_all [get?, names, Ne.symm h]

theorem mem_names_insert (d : Dict α) (name other : String) (a : α) :
    other ∈ (d.insert name a).names ↔ other = name ∨ other ∈ d.names := by
  induction d with
  | nil => simp [insert, names]
  | cons p rest ih =>
    obtain ⟨n, b⟩ := p
    simp only [insert]
    split
    · simp [names]
    · split
      · subst_vars; simp [names]
      · simp only [names, List.map_cons, List.mem_cons] at ih ⊢
        rw [ih]
        constructor <;> rintro (h | h | h) <;> simp_all

theorem mem_names_ofList (pairs : List (String × α)) (name : String) :
    name ∈ (ofList pairs).names ↔ name ∈ pairs.map Prod.fst := by
  have haux : ∀ d : Dict α, name ∈ (pairs.foldl (fun d p => insert d p.1 p.2) d).names ↔
      name ∈ d.names ∨ name ∈ pairs.map Prod.fst := by
    induction pairs with
    | nil => simp
    | cons p pairs ih =>
      intro d
      rw [List.foldl_cons, ih, mem_names_insert, List.map_cons, List.mem_cons]
      grind
  refine (haux []).trans ?_
  simp [names]

end Dict

end SchemaMigration
