import SchemaMigration.Text.Basic

/-!
# Entry names

A script has an entry that applies its migration and one that reverts it, and perhaps others. The
first two have short names.
-/

namespace SchemaMigration.EntryName

/-- The entry that applies a migration. -/
def safeUp : String := "safeUp"

/-- The entry that reverts a migration. -/
def safeDown : String := "safeDown"

/-- The entry that a method names: `up` and `down` are short names, in any case of letters. Any
other method is the name of an entry itself. White space at its ends does not count. -/
def ofMethod (method : String) : String :=
  let name := Text.trim method
  if Text.lower name ∈ ["up", "safeup"] then safeUp
  else if Text.lower name ∈ ["down", "safedown"] then safeDown
  else name

end SchemaMigration.EntryName
