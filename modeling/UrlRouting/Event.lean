import UrlRouting.Failure

/-!
What routing reports while it works, for whoever wants to follow it.
-/

namespace UrlRouting

inductive Event where
  | routeAdded (name path : String)
  | matched (method path name : String)
  | methodRefused (path method : String) (allowed : MethodSet)
  | nothingMatched (method path : String)
  | linkSkipped (name : String) (failure : Failure)
  | fileLoaded (count : Nat) (path : String)
  deriving DecidableEq, Repr

inductive Channel where
  | routing
  | loader
  deriving DecidableEq, Repr

namespace Channel

def name : Channel → String
  | routing => "waypoint.routing"
  | loader => "waypoint.loader"

end Channel

namespace Event

def channel : Event → Channel
  | fileLoaded .. => .loader
  | _ => .routing

def message : Event → String
  | routeAdded name path => "Route " ++ Text.quoted name ++ " added: " ++ path
  | matched method path name =>
      s!"Matched {method} " ++ Text.quoted path ++ " to route " ++ Text.quoted name
  | methodRefused path method allowed =>
      "Path " ++ Text.quoted path ++ s!" matched, method {method} not in " ++
        (Value.list (allowed.names.map Value.text)).shown
  | nothingMatched method path => s!"No route found for {method} " ++ Text.quoted path
  | linkSkipped name failure =>
      "Skipping route " ++ Text.quoted name ++ " in batch generation: " ++ failure.message
  | fileLoaded count path => s!"Loaded {count} routes from {path}"

end Event

/-- A computation that may fail and reports events; those reported before a failure are kept. -/
abbrev Reported (α : Type) := ExceptT Failure (StateM (List Event)) α

namespace Reported

def report (event : Event) : Reported Unit := modify (· ++ [event])

def run {α : Type} (computation : Reported α) : List Event × Except Failure α :=
  let (result, events) := (ExceptT.run computation).run []
  (events, result)

end Reported

end UrlRouting
