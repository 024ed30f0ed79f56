import SchemaMigration.Expression

/-!
# Errors

What can go wrong between a locator and the SQL of a migration. Each error is its cause; the texts
are in `message`.

## Main definitions

* `ConfigurationError` — locators, connections and script directories that cannot be used.
* `ScriptFault` — why a script stopped.
* `MigrationError` — why a migration has no SQL.
-/

namespace SchemaMigration

/-- A locator, a connection or a script directory that cannot be used. -/
inductive ConfigurationError where
  | emptyLocator
  | locatorWithoutScheme (url : String)
  | unsupportedScheme (scheme : String)
  | locatorWithoutPath (url : String)
  | connectionWithoutUrl (name : String)
  | directoryNotFound (root : String)
  | directoryClosed (root : String)
  /-- Two scripts of a directory have one version. -/
  | duplicateVersion (version : Nat) (existing name : String)
  /-- A driver is used that no locator was opened on. -/
  | notOpened
deriving DecidableEq, Repr

def scriptScheme : String := "lua"

def ConfigurationError.message : ConfigurationError → String
  | .emptyLocator => "empty source locator"
  | .locatorWithoutScheme url => "source locator has no scheme: " ++ url
  | .unsupportedScheme scheme =>
    "unsupported source scheme '" ++ scheme ++ "', expected '" ++ scriptScheme ++ "'"
  | .locatorWithoutPath url => "source locator has no path: " ++ url
  | .connectionWithoutUrl name =>
    let key := Text.upper name
    "connection '" ++ name ++ "' has no URL (set " ++ key ++ "_DB_CONN or " ++ key ++ "_CONN_URL)"
  | .directoryNotFound root => "script directory not found: " ++ root
  | .directoryClosed root => "script directory closed: " ++ root
  | .duplicateVersion version existing name =>
    "version " ++ toString version ++ " is used by both '" ++ existing ++ "' and '" ++ name ++ "'"
  | .notOpened => "migration source is not opened"

/-- Why a file cannot be opened, read or listed. -/
inductive FileError where
  | notFound
  | permissionDenied
  | notDirectory
  | isDirectory
  | nameTooLong
  | invalidName
deriving DecidableEq, Repr

def FileError.message : FileError → String
  | .notFound => "No such file or directory (os error 2)"
  | .permissionDenied => "Permission denied (os error 13)"
  | .notDirectory => "Not a directory (os error 20)"
  | .isDirectory => "Is a directory (os error 21)"
  | .nameTooLong => "File name too long (os error 36)"
  | .invalidName => "file name contained an unexpected NUL byte"

/-- Why a script stopped. -/
inductive ScriptFault where
  /-- The script itself raised a text. -/
  | failure (text : String)
  /-- The text of the script is not valid. -/
  | malformed
  /-- A function got an argument that it cannot convert. -/
  | argument
  /-- An operation that its operands do not have, such as calling what is no function. -/
  | operation
  /-- A statement was made while no output buffer was registered. -/
  | missingBuffer
  | configuration (e : ConfigurationError)
  | query (e : QueryError)
deriving DecidableEq, Repr

/-- Why a migration has no SQL. -/
inductive MigrationError where
  | configuration (e : ConfigurationError)
  /-- The script at a path cannot be opened or read. -/
  | scriptLoad (path : String) (e : FileError)
  /-- The script of a migration stopped. -/
  | scriptEval (identifier : String) (fault : ScriptFault)
  /-- The script of a migration has no function of a name. -/
  | entryNotFound (identifier entry : String)
  /-- An adapter is read that no script is bound to. -/
  | notBound
  | versionNotFound (version : Nat)
  | file (e : FileError)
deriving DecidableEq, Repr

namespace MigrationError

def missingBufferMessage : String := "No output buffer registered in the script session"

def configurationMessage (e : ConfigurationError) : String := "Configuration error: " ++ e.message

def queryMessage (e : QueryError) : String := "Query error: " ++ e.message

def faultMessage : ScriptFault → String
  | .failure text => "fail: " ++ text
  | .malformed => "malformed script"
  | .argument => "bad argument"
  | .operation => "invalid operation"
  | .missingBuffer => missingBufferMessage
  | .configuration e => configurationMessage e
  | .query e => queryMessage e

def message : MigrationError → String
  | .configuration e => configurationMessage e
  | .scriptLoad path e => "Failed to load script '" ++ path ++ "': " ++ e.message
  | .scriptEval identifier fault => "Script '" ++ identifier ++ "' failed: " ++ faultMessage fault
  | .entryNotFound identifier entry =>
    "Script '" ++ identifier ++ "' has no entry function '" ++ entry ++ "'"
  | .notBound => "No migration script is bound to this source"
  | .versionNotFound version => "Migration version " ++ toString version ++ " not found"
  | .file e => "IO error: " ++ e.message

end MigrationError

end SchemaMigration
