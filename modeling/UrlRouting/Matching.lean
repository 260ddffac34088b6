import UrlRouting.RouteTable

/-!
From a path and a method to a route: the routes are tried in order and the first one that takes
the request wins.
-/

namespace UrlRouting

/-- What becomes of a request: the route that takes it with its parameters, the methods that the
path allows instead, or nothing. -/
inductive Resolution where
  | found (name : String) (parameters : Attributes)
  | refused (allowed : MethodSet)
  | missed
  deriving Repr

namespace Resolution

/-- Tries routes in order; `allowed` holds the methods of those whose path fits. -/
def among (path method : String) (allowed : MethodSet) : List (String × Route) → Resolution
  | [] => if allowed.isEmpty then missed else refused allowed
  | (name, route) :: rest =>
      match route.takes path method (some name) with
      | .ok parameters => found name parameters
      | .error .path => among path method allowed rest
      | .error .method => among path method (allowed.union route.methods) rest

def event (path method : String) : Resolution → Event
  | found name _ => .matched method path name
  | refused allowed => .methodRefused path method allowed
  | missed => .nothingMatched method path

/-- The name of the route and the parameters, or the failure that tells why there are none. -/
def result (path : String) : Resolution → Except Failure (String × Attributes)
  | found name parameters => .ok (name, parameters)
  | refused allowed => .error (.otherMethods allowed)
  | missed => .error (.unmatchedPath path)

end Resolution

namespace RouteTable

def resolve (table : RouteTable Route) (path method : String) : Resolution :=
  Resolution.among path method .empty table.entries

def resolveParameters (table : RouteTable Route) (path method : String) : Reported Attributes := do
  let resolution := table.resolve path method
  Reported.report (resolution.event path method)
  match resolution.result path with
  | .ok (_, parameters) => return parameters
  | .error failure => throw failure

def resolveName (table : RouteTable Route) (path method : String) : Reported Value := do
  let parameters ← table.resolveParameters path method
  return (parameters.named? Route.nameKey).getD .null

def hasMatch (table : RouteTable Route) (path method : String) : Reported Bool := do
  let resolution := table.resolve path method
  Reported.report (resolution.event path method)
  return match resolution with
    | .found .. => true
    | _ => false

end RouteTable

end UrlRouting
