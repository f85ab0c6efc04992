import Signpost.Matcher.Stored
import Signpost.Regex.Estimate
import Signpost.Router.Files
import Signpost.Router.Serve

/-!
# Routers — Sites

A router with the files around it.  A question to the router compiles its routes, unless it keeps
their matcher; a router with a file for the matcher reads it from there if it is for the same
routes, and writes it there otherwise.  What is wrong with the file is never an error.

A site that is run has the engine of `Signpost.Regex.Estimate` for its expressions.

* `Site.compile_memo` — a matcher that is kept is neither compiled again nor read from a file.
-/

namespace Signpost

structure Site where
  router : Router := {}
  files  : Files := {}

namespace Site

variable [Regex.Engine]

/-- The matcher in the file for it, if it is for the routes of the router. -/
def load (s : Site) (path : String) : Except Error (Option Matcher) := do
  Matcher.load (← s.files.read path) s.router.fingerprint

/-- The files once a matcher has been written, if it can be. -/
def save (s : Site) (path : String) (m : Matcher) : Files :=
  match s.files.replace path (m.store s.router.fingerprint) with
  | .ok files => files
  | .error _  => s.files

/-- Compiles the routes, whatever there is already. -/
def compileRoutes (s : Site) : Except Error Matcher :=
  s.router.collection.compile s.router.config.compile

/-- The matcher of a router that keeps none, and the files afterwards. -/
def obtain (s : Site) : Except Error (Matcher × Files) :=
  match s.router.config.cachePath with
  | none      => do return (← s.compileRoutes, s.files)
  | some path =>
    match s.load path with
    | .ok (some m) => .ok (m, s.files)
    | _            => do
      let m ← s.compileRoutes
      return (m, s.save path m)

/-- Compiles the routes, unless their matcher is kept. -/
def compile (s : Site) : Except Error Matcher × Site :=
  match s.router.memo with
  | some m => (.ok m, s)
  | none   =>
    match s.obtain with
    | .ok (m, files) => (.ok m, ⟨{ s.router with memo := some m }, files⟩)
    | .error e       => (.error e, s)

/-- Asks the matcher of the router. -/
def ask {α : Type} (s : Site) (f : Matcher → Except Error α) : Except Error α × Site :=
  let (m, s) := s.compile
  (m.bind f, s)

def lookup (s : Site) (c : Context) : Except Error Matcher.Resolution × Site :=
  s.ask fun m => m.lookup c

/-- The methods for a path; an asterisk stands for the server as a whole. -/
def allowed (s : Site) (c : Context) : Except Error (List String) × Site :=
  if c.path = "*" then (.ok (Router.addOptions s.router.declaredMethods), s)
  else s.ask fun m => Router.addOptions <$> m.allowed c

/-- The job that answers a request. -/
def serve (s : Site) (req : Request) : Except Error (Job Reply) × Site :=
  s.ask fun m => s.router.answer m req

theorem compile_memo {s : Site} {m : Matcher} (h : s.router.memo = some m) :
    s.compile = (.ok m, s) := by
  simp [compile, h]

end Site

end Signpost
