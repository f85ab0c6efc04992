import Signpost.Distinct
import Signpost.Matcher.Basic
import Signpost.Matcher.Context

/-!
# Matching — Lookup

Which route a request goes to.  A route accepts a request if its path, its host, its scheme and its
method fit; of the routes that do, the one that was registered first gets the request.  If only
methods are in the way, the lookup says which ones would do.

The path is searched for in the index of literal paths, and then in the merged expressions.  A
match of a merged expression tells the first leaf that fits; the leaves after it are tried on their
own, as long as one of their routes could come before what has been found.
-/

namespace Signpost.Matcher

/-- A route for a request, and what it takes from the request. -/
structure Match where
  route  : Nat
  params : Params
  deriving DecidableEq, Repr

/-- The outcome of a lookup. -/
inductive Resolution where
  | found (m : Match)
  /-- Some routes fit but for their methods, which are listed. -/
  | methodNotAllowed (methods : List String)
  | notFound
  deriving DecidableEq, Repr

/-- Whether a route with these methods serves a request.  `HEAD` is served where `GET` is. -/
def serves (methods : List String) (method : String) : Bool :=
  methods.contains method || (method = "HEAD" && methods.contains "GET")

/-- A host without the number that may follow its last colon. -/
def hostName (host : List Char) : List Char :=
  let number := (host.reverse.takeWhile (· != ':')).reverse
  if number.length < host.length && !number.isEmpty && number.all Char.isDigit then
    host.take (host.length - number.length - 1)
  else host

/-- What a match of an expression gives to its variables. -/
def valuesOf (captures : Regex.Captures) (bindings : List Binding) :
    List (String × Option String) :=
  bindings.map fun b => (b.name, captures.get? b.group)

/-- Sets variables to what a match gives them, or else to their defaults. -/
def bindAll (defaults : Dict String) (params : Params) (values : List (String × Option String)) :
    Params :=
  values.foldl (fun params v =>
    match v.2.or (defaults.get? v.1) with
    | some value => params.insert v.1 value
    | none       => params) params

/-- What a route whose path fits says to a request. -/
inductive Verdict where
  /-- The host or the scheme does not fit. -/
  | rejected
  /-- Only the method does not fit. -/
  | wrongMethod (methods : List String)
  | accepted (params : Params)
  deriving DecidableEq, Repr

/-- The parameters from the path and the host, if the host fits. -/
def hostParams? (rule : Requirements) (host : Option Regex) (params : Params) (c : Context) :
    Option Params :=
  match rule.host, host with
  | some hostRule, some expression =>
    (expression.captures? (String.ofList (hostName c.host.toList))).map fun captures =>
      bindAll rule.defaults params (valuesOf captures hostRule.bindings)
  | _, _ => some params

/-- Judges a request by what a route asks for besides its path. -/
def Requirements.judge (rule : Requirements) (host : Option Regex)
    (values : List (String × Option String)) (c : Context) : Verdict :=
  match hostParams? rule host (bindAll rule.defaults .empty values) c with
  | none        => .rejected
  | some params =>
    if !rule.schemes.isEmpty && !rule.schemes.any fun s => s.toLower = c.scheme.toLower then
      .rejected
    else if serves rule.methods c.method then .accepted params
    else .wrongMethod rule.methods

/-- What has come of the search so far: a route, and the methods of the routes that fit but for
them. -/
structure Tally where
  found?  : Option Match := none
  allowed : List String := []
  deriving DecidableEq, Repr

namespace Tally

/-- Adds methods that are not there yet. -/
def allow (t : Tally) (methods : List String) : Tally :=
  { t with allowed := distinct (t.allowed ++ methods) }

/-- Whether a route could still come before what has been found. -/
def isOpen (t : Tally) (id : Nat) : Bool := t.found?.all fun m => id < m.route

/-- The outcome of the search. -/
def resolution (t : Tally) : Resolution :=
  match t.found? with
  | some m => .found m
  | none   => if t.allowed.isEmpty then .notFound else .methodNotAllowed t.allowed

end Tally

/-- Judges a request by what route `id` asks for. -/
def judge (m : Matcher) (c : Context) (values : List (String × Option String)) (id : Nat) :
    Verdict :=
  match m.data.routes[id]? with
  | some rule => rule.judge ((m.hosts[id]?).join) values c
  | none      => .rejected

/-- Tries routes in turn, up to the first one that accepts the request or could not come before
what has been found. -/
def tryRoutes (m : Matcher) (c : Context) (values : List (String × Option String)) :
    Tally → List Nat → Tally
  | t, []        => t
  | t, id :: ids =>
    if t.isOpen id then
      match m.judge c values id with
      | .accepted params     => { t with found? := some ⟨id, params⟩ }
      | .wrongMethod methods => tryRoutes m c values (t.allow methods) ids
      | .rejected            => tryRoutes m c values t ids
    else t

/-- Tries leaves on their own, as long as their routes could come before what has been found. -/
def tryLeaves (m : Matcher) (c : Context) : Tally → List (Leaf × Regex) → Tally
  | t, []                           => t
  | t, (leaf, expression) :: leaves =>
    if leaf.routes.head?.all t.isOpen then
      match expression.captures? c.path with
      | some captures =>
        tryLeaves m c (m.tryRoutes c (valuesOf captures leaf.standalone) t leaf.routes) leaves
      | none          => tryLeaves m c t leaves
    else t

/-- The first chunk that matches a path: the index of its first leaf, the leaves that it claims,
and the match. -/
def firstMatch? (path : String) : (offset : Nat) → List (Chunk × Regex) →
    Option (Nat × Nat × Regex.Captures)
  | _, []                                => none
  | offset, (chunk, expression) :: chunks =>
    match expression.captures? path with
    | some captures => some (offset, chunk.leafCount, captures)
    | none          => firstMatch? path ((offset + chunk.leafCount) % wordSize) chunks

/-- Searches the merged expressions. -/
def searchLeaves (m : Matcher) (c : Context) (t : Tally) : Except Error Tally :=
  match firstMatch? c.path 0 (m.data.chunks.zip m.chunks) with
  | none                             => .ok t
  | some (offset, count, captures) =>
    let stop := (offset + count) % wordSize
    if stop < offset ∨ m.data.leaves.length < stop then .error .outOfRange
    else
      let leaves := ((m.data.leaves.zip m.leaves).drop offset)
      match (leaves.take (stop - offset)).findIdx? fun l => (captures.get? l.1.marker).isSome with
      | none   => .ok t
      | some i =>
        match leaves.drop i with
        | []              => .ok t
        | (leaf, _) :: rest =>
          .ok (m.tryLeaves c (m.tryRoutes c (valuesOf captures leaf.bindings) t leaf.routes) rest)

/-- Resolves a request to at most one route. -/
def lookup (m : Matcher) (c : Context) : Except Error Resolution := do
  let t := m.tryRoutes c [] {} ((m.data.staticPaths.get? c.path).getD [])
  let first? := m.data.leaves.head?.bind fun l => l.routes.head?
  let t ← if first?.any t.isOpen then m.searchLeaves c t else pure t
  return t.resolution

/-- The methods of all routes that fit but for them. -/
def allowed (m : Matcher) (c : Context) : Except Error (List String) := do
  match ← m.lookup c.withoutMethod with
  | .methodNotAllowed methods => return methods
  | _                         => return []

end Signpost.Matcher
