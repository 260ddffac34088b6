import UrlRouting.Failure

/-!
The public names: what users of the library can ask for, and the part that each comes from.
-/

namespace UrlRouting.Catalogue

def version : String := "0.1.0"

structure Entry where
  name : String
  home : String
  deriving DecidableEq, Repr

def routingEntries : List Entry := [
  ⟨"Route", "waypoint.routing.route"⟩,
  ⟨"RouteCollection", "waypoint.routing.collection"⟩,
  ⟨"Router", "waypoint.routing.router"⟩,
  ⟨"RouterConfig", "waypoint.config"⟩,
  ⟨"RouterHelper", "waypoint.templating"⟩,
  ⟨"UrlGenerator", "waypoint.routing.generator"⟩,
  ⟨"UrlMatcher", "waypoint.routing.matcher"⟩]

def failureEntries : List Entry :=
  FailureKind.family.map fun kind => ⟨kind.name, "waypoint.errors"⟩

def entries : List Entry :=
  (failureEntries ++ routingEntries).mergeSort fun a b => decide (a.name ≤ b.name)

def find (name : String) : Except Failure Entry :=
  match entries.find? (·.name == name) with
  | some entry => .ok entry
  | none => .error (.notExported name)

def templateNames : List String := ["absolute_url_for", "url_for"]

end UrlRouting.Catalogue
