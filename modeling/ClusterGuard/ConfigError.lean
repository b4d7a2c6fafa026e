/-!
# Configuration errors

Model of `ConfigError`: `Invalid`, `Parse`.

A configuration is refused because one of its fields holds an invalid value, or because its
document cannot be read at all.
-/

namespace ClusterGuard

/-- Why a configuration is refused. -/
inductive ConfigError where
  /-- A field holds a value it must not hold. -/
  | invalid (field : String) (reason : String)
  /-- The document is not a configuration. -/
  | unreadable (reason : String)
deriving DecidableEq

/-- The text of a configuration error. -/
def ConfigError.message : ConfigError → String
  | invalid field reason => "Invalid configuration for '" ++ field ++ "': " ++ reason
  | unreadable reason => "Failed to parse configuration: " ++ reason

end ClusterGuard
