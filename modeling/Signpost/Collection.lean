import Signpost.Group
import Signpost.Pattern.Parser
import Signpost.Word

/-!
# Collections

Routes in the order in which they were added, which is their order of precedence: of two routes
for the same request, the first one gets it.  Groups nest, and a route that is added inside of
groups takes on what they say.

* `Collection.sort_perm` — sorting keeps the routes.
-/

namespace Signpost

/-- What can be added to a collection: a route, or a group of items. -/
inductive Item where
  | route (route : Route)
  | group (group : Group) (items : List Item)
  deriving Inhabited

structure Collection where
  routes     : List Route := []
  /-- The groups around what is added next, the innermost first. -/
  openGroups : List Group := []

namespace Collection

/-- Adds a route inside of the open groups. -/
def add (c : Collection) (r : Route) : Collection :=
  { c with routes := c.routes ++ [c.openGroups.foldl (fun r g => g.apply r) r] }

/-- Opens a group. -/
def enter (c : Collection) (g : Group) : Collection :=
  { c with openGroups := g :: c.openGroups }

/-- Closes the innermost group. -/
def leave (c : Collection) : Collection := { c with openGroups := c.openGroups.tail }

mutual

/-- Adds an item inside of the open groups. -/
def addItem (c : Collection) : Item → Collection
  | .route r       => c.add r
  | .group g items => ((c.enter g).addItems items).leave

/-- Adds items, one after the other. -/
def addItems (c : Collection) : List Item → Collection
  | []            => c
  | item :: items => (c.addItem item).addItems items

end

def size (c : Collection) : Nat := c.routes.length

def isEmpty (c : Collection) : Bool := c.routes.isEmpty

/-- The route with the given index. -/
def route? (c : Collection) (id : Nat) : Option Route := c.routes[id]?

/-- The first route with the given name. -/
def find? (c : Collection) (name : String) : Option Route :=
  c.routes.find? fun r => r.name = some name

/-- The rank of a pattern that cannot be read: after all others. -/
def lastRank : Nat := wordSize - 1

/-- The order of routes by how much of them varies: routes without variables and optional
segments in their paths come first, then fewer of them before more, in the path and then in the
host. -/
def rank (r : Route) : List Nat :=
  let path := match Pattern.parse r.path with
    | .ok p    => p.dynamism
    | .error _ => (lastRank, lastRank)
  let host := match r.domain.map Pattern.parse with
    | some (.ok p) => p.dynamism
    | _            => (0, 0)
  [if path = (0, 0) then 0 else 1, path.1, path.2, host.1, host.2]

/-- Whether a rank does not come after another one. -/
def rankLe : List Nat → List Nat → Bool
  | a :: as, b :: bs => a < b || (a = b && rankLe as bs)
  | as, _            => as.isEmpty

/-- Sorts the routes by rank; routes of one rank keep their order. -/
def sort (c : Collection) : Collection :=
  let ranked := c.routes.map fun r => (rank r, r)
  { c with routes := (ranked.mergeSort fun a b => rankLe a.1 b.1).map Prod.snd }

theorem sort_perm (c : Collection) : c.sort.routes.Perm c.routes := by
  have h := (List.mergeSort_perm (c.routes.map fun r => (rank r, r)) fun a b => rankLe a.1 b.1).map
    Prod.snd
  simpa [sort, Function.comp_def] using h

end Collection

end Signpost
