import ShardScan.Catalog.Name
import ShardScan.Coercion.Error
import ShardScan.Store.Status

/-!
# Catalog failures

Why an operation of a catalog fails, and the changes of tables that an engine
can ask for.
-/

namespace ShardScan

/-- A change of a table that an engine asks for. -/
inductive TableChange
  | addColumn (name : String) (type : EngineType)
  | dropColumn (name : String)
  | setProperty (key value : String)
  | removeProperty (key : String)
  | renameColumn (source target : String)
  | retypeColumn (name : String) (type : EngineType)
deriving DecidableEq

/-- What a catalog never does. -/
inductive Refusal
  | alterNamespace (space : List String)
  | removeRecursively
  | createIndex (table : TableName)
  | alterIndex (table : TableName)
  | dropIndex (table : TableName)
  | renameIndex (table : TableName)
  | renameToIndex (table : TableName)
  | renameColumn (source target : String)
  | retypeColumn (name : String) (type : EngineType)
deriving DecidableEq

/-- The components of a namespace with full stops between them. -/
def displayNamespace (space : List String) : String := String.intercalate "." space

namespace Refusal

/-- The text of a refusal. -/
def message : Refusal → String
  | alterNamespace space => "altering namespace " ++ displayNamespace space
  | removeRecursively => "recursive namespace removal"
  | createIndex table => "direct index table creation, identifier " ++ table.display
  | alterIndex table => "index table alteration, identifier " ++ table.display
  | dropIndex table => "dropping index table " ++ table.display
  | renameIndex table => "renaming index table " ++ table.display
  | renameToIndex table => "renaming table to index " ++ table.display
  | renameColumn source target =>
    "table alter operation RenameColumn \x7b from: " ++ Text.quoted source ++ ", to: " ++
      Text.quoted target ++ " \x7d"
  | retypeColumn name type =>
    "table alter operation UpdateColumnType \x7b name: " ++ Text.quoted name ++ ", data_type: " ++
      type.name ++ " \x7d"

end Refusal

/-- Why an operation of a catalog fails. -/
inductive CatalogError
  /-- The catalog has no connection yet. -/
  | notInitialized (catalog : String)
  | noSuchNamespace (space : List String)
  | noSuchTable (table : TableName)
  | namespaceAlreadyExists (space : List String)
  | tableAlreadyExists (table : TableName)
  | unsupported (refusal : Refusal)
  | store (cause : StoreError)
  | coercion (cause : CoercionError)
deriving DecidableEq

namespace CatalogError

/-- The name of a kind of failure. -/
def kind : CatalogError → String
  | notInitialized .. => "NotInitialized"
  | noSuchNamespace .. => "NoSuchNamespace"
  | noSuchTable .. => "NoSuchTable"
  | namespaceAlreadyExists .. => "NamespaceAlreadyExists"
  | tableAlreadyExists .. => "TableAlreadyExists"
  | unsupported .. => "Unsupported"
  | store .. => "Store"
  | coercion .. => "Coercion"

/-- The text of a failure. -/
def message : CatalogError → String
  | notInitialized catalog => "Catalog " ++ catalog ++ " is not initialized"
  | noSuchNamespace space => "Namespace not found: " ++ displayNamespace space
  | noSuchTable table => "Table not found: " ++ table.display
  | namespaceAlreadyExists space => "Namespace already exists: " ++ displayNamespace space
  | tableAlreadyExists table => "Table already exists: " ++ table.display
  | unsupported refusal => "Unsupported operation: " ++ refusal.message
  | store cause => "Store error: " ++ cause.message
  | coercion cause => "Type conversion failed: " ++ cause.message

end CatalogError
end ShardScan
