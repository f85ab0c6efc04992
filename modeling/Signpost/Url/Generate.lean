import Signpost.Pattern.Fragment
import Signpost.Route.Compile
import Signpost.Url.Form

/-!
# URLs — Generation

The URL of a route, given values for its variables.  A variable without a value gets its default;
an optional segment is written if a value is given for one of the variables in it.  What is given
for no variable of the route becomes the query.

* `Writer.write_unmentioned` — an optional segment for which nothing is given leaves no trace.
-/

namespace Signpost

/-- What the variables of a route are written with. -/
structure Writer where
  route    : Route
  given    : List (String × String)
  defaults : Dict String

namespace Writer

/-- Whether a value is given for a variable of the token. -/
def mentions (w : Writer) (t : Token) : Bool :=
  (t.vars 0).any fun v => (w.given.lookup v.name).isSome

/-- The value of a variable: the first one given for it, or its default. -/
def value? (w : Writer) (name : String) : Option String :=
  (w.given.lookup name).or (w.defaults.get? name)

variable [Regex.Engine]

/-- The value of a variable, which has to match the constraint. -/
def writeVariable (w : Writer) (segment name : String) (own : Option String) :
    Except Error String :=
  match w.value? name with
  | none       => .error (.url (.missing name w.route.describe))
  | some value =>
    let constraint := effectiveConstraint w.route.patterns segment name own
    match Regex.compile (anchoredConstraint constraint) Regex.defaultSizeLimit with
    | .error _ => .error (.constraint w.route.path name)
    | .ok r    =>
      if r.isMatch value then .ok value else .error (.url (.mismatch name value constraint))

/-- Writes a token, where `segment` constrains the variables without a constraint. -/
def write (w : Writer) (segment : String) : Token → Except Error String
  | .text content   => .ok content
  | .var name own _ => w.writeVariable segment name own
  | .optional inner =>
    if inner.any w.mentions then String.join <$> inner.mapM (w.write segment) else .ok ""

/-- Writes a pattern. -/
def writePattern (w : Writer) (segment : String) (p : Pattern) : Except Error String :=
  String.join <$> p.tokens.mapM (w.write segment)

theorem write_unmentioned {w : Writer} {segment : String} {inner : List Token}
    (h : inner.any w.mentions = false) : w.write segment (.optional inner) = .ok "" := by
  simp [write, h]

end Writer

namespace Route

variable [Regex.Engine]

/-- The URL of the route for the given values.  It has a host if the route has one, and then a
scheme if the route is bound to one. -/
def url (r : Route) (given : List (String × String)) : Except Error String := do
  let patterns ← Patterns.ofRoute r
  let w : Writer := ⟨r, given, patterns.defaults r.defaults⟩
  let host ← match patterns.host with
    | some host => do
      let text ← w.writePattern hostSegment host
      pure (r.schemes.head?.elim "" (· ++ ":") ++ "//" ++ text)
    | none => pure ""
  let path ← w.writePattern pathSegment patterns.path
  let extra := given.filter fun g => !patterns.hasVariable g.1
  return host ++ path ++ if extra.isEmpty then "" else "?" ++ Form.encode extra

end Route

end Signpost
