import UrlRouting.Text.Quoted

/-!
Settings of a router.
-/

namespace UrlRouting

/-- Settings that a router and its parts share: scheme and host of absolute links, the start of
the parameter names that never reach a query, and whether a batch of links fails with its first
failing one. -/
structure Config where
  baseUrl : String
  internalPrefix : String
  strict : Bool
  deriving DecidableEq, Repr

namespace Config

def standard : Config := ⟨"", "_", false⟩

def shown (config : Config) : String :=
  "RouterConfig(base_url=" ++ Text.quoted config.baseUrl ++ ", internal_prefix=" ++
    Text.quoted config.internalPrefix ++ ", strict_generation=" ++
    (if config.strict then "True" else "False") ++ ")"

end Config

end UrlRouting
