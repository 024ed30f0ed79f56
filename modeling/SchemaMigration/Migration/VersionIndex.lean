import SchemaMigration.Decimal.Reader
import SchemaMigration.Error

/-!
# Versions

The scripts of a directory that are migrations are called `<version>_<title>.lua`. The index has
them in the order of their versions.

## Main definitions

* `VersionIndex.version?` — the version in the name of a script.
* `VersionIndex.ofNames` — the index of the names in a directory.
* `VersionIndex.first?`, `VersionIndex.prev?`, `VersionIndex.next?` — steps through the versions.
-/

namespace SchemaMigration

/-- The names of migration scripts by version, in increasing order of the versions. -/
abbrev VersionIndex := List (Nat × String)

namespace VersionIndex

def scriptExtension : List Char := ['.', 'l', 'u', 'a']

def maxVersion : Nat := 0xFFFFFFFFFFFFFFFF

/-- The version that a text denotes: a number of decimal digits, not above the largest version. -/
def versionOfText? (s : String) : Option Nat := (Decimal.nat? s).filter (· ≤ maxVersion)

/-- The version in the name of a script, up to the first underscore. A title must follow. -/
def version? (name : String) : Option Nat := do
  let stem ← Chars.stripEnd? scriptExtension name.toList
  let (version, title) ← Chars.cut? '_' stem
  if title.isEmpty then none else versionOfText? (.ofList version)

def get? (index : VersionIndex) (version : Nat) : Option String := index.lookup version

/-- Adds a name, at its place in the order. -/
def insert (index : VersionIndex) (version : Nat) (name : String) : VersionIndex :=
  match index with
  | [] => [(version, name)]
  | (v, n) :: rest =>
    if version < v then (version, name) :: (v, n) :: rest
    else if version = v then (version, name) :: rest
    else (v, n) :: insert rest version name

/-- Adds a name if it has a version. A version belongs to one name. -/
def add (index : VersionIndex) (name : String) : Except ConfigurationError VersionIndex :=
  match version? name with
  | none => .ok index
  | some version =>
    match index.get? version with
    | some existing => .error (.duplicateVersion version existing name)
    | none => .ok (index.insert version name)

def ofNames (names : List String) : Except ConfigurationError VersionIndex := names.foldlM add []

def versions (index : VersionIndex) : List Nat := index.map Prod.fst

def first? (index : VersionIndex) : Option Nat := index.versions.head?

def prev? (index : VersionIndex) (version : Nat) : Option Nat :=
  if index.versions.contains version then (index.versions.filter (· < version)).getLast? else none

/-- The version after one of the index. The search starts at the next number, but not beyond the
largest version. -/
def next? (index : VersionIndex) (version : Nat) : Option Nat :=
  if index.versions.contains version then
    index.versions.find? (min (version + 1) maxVersion ≤ ·)
  else none

theorem mem_versions_insert (index : VersionIndex) (version other : Nat) (name : String) :
    other ∈ (index.insert version name).versions ↔ other = version ∨ other ∈ index.versions := by
  induction index with
  | nil => simp [insert, versions]
  | cons p rest ih =>
    obtain ⟨v, n⟩ := p
    simp only [insert]
    split
    · simp [versions]
    · split
      · subst_vars; simp [versions]
      · simp only [versions, List.map_cons, List.mem_cons] at ih ⊢
        rw [ih]
        constructor <;> rintro (h | h | h) <;> simp_all

end VersionIndex

end SchemaMigration
