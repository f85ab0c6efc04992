import Signpost.Proofs.Router.Decisions
import Signpost.Regex.Estimate

/-!
# Routers — the matcher that is kept

A router is built and asked in any order.  Whatever changes its routes drops the matcher that it
keeps; whatever else is changed leaves alone what the matcher is compiled from
(`Router.change_cases`).  A question leaves the matcher of the routes behind, or nothing
(`Site.after_cases`).

* `Site.IsFresh.step`: after each step the matcher that is kept is that of the routes.
* `Site.isCurrent_run`: a site without a file for its matcher never answers from a stale one.
-/

namespace Signpost

namespace Router

/-- A change to a router that is being built. -/
inductive Change where
  | handle (method path : String) (h : Handler)
  | route (route : Route)
  /-- A group, and whatever is done to the routes while it is open. -/
  | group (g : Group) (build : Collection → Collection)
  | routes (c : Collection)
  | registry (registry : Registry)
  | redirects (enabled : Bool)
  | methodCheck (enabled : Bool)
  | options (enabled : Bool)
  | globalOptions (h : Handler)
  | notFound (h : Handler)
  | methodNotAllowed (h : Handler)

/-- The router with what is done to its routes inside of a group. -/
def withGroup (r : Router) (g : Group) (build : Collection → Collection) : Router :=
  r.withCollection (build (r.collection.enter g)).leave

def change (r : Router) : Change → Router
  | .handle method path h => r.withHandler method path h
  | .route route          => r.withRoute route
  | .group g build        => r.withGroup g build
  | .routes c             => r.withCollection c
  | .registry registry    => r.withRegistry registry
  | .redirects enabled    => r.withRedirects enabled
  | .methodCheck enabled  => r.withMethodCheck enabled
  | .options enabled      => r.withOptions enabled
  | .globalOptions h      => r.withGlobalOptions h
  | .notFound h           => r.withNotFound h
  | .methodNotAllowed h   => r.withMethodNotAllowed h

/-- A change drops the matcher, or leaves it with all that it is compiled from. -/
theorem change_cases (r : Router) (c : Change) :
    (r.change c).memo = none ∨
      ((r.change c).memo = r.memo ∧ (r.change c).collection = r.collection ∧
        (r.change c).config.compile = r.config.compile) := by
  cases c with
  | handle | route | group | routes => exact .inl rfl
  | registry | redirects | methodCheck | options | globalOptions | notFound | methodNotAllowed =>
      exact .inr ⟨rfl, rfl, rfl⟩

/-- No change gives the matcher another file. -/
theorem cachePath_change (r : Router) (c : Change) :
    (r.change c).config.cachePath = r.config.cachePath := by
  cases c <;> rfl

end Router

namespace Site

inductive Question where
  | compile
  | lookup (c : Context)
  | allowed (c : Context)
  | url (name : String) (given : List (String × String))
  | serve (req : Request)

/-- A step of the life of a site. -/
inductive Step where
  | change (c : Router.Change)
  | question (q : Question)

variable {s : Site}

variable [Regex.Engine]

/-- The site once a question has been answered. -/
def after (s : Site) : Question → Site
  | .compile   => s.compile.2
  | .lookup c  => (s.lookup c).2
  | .allowed c => (s.allowed c).2
  | .url _ _   => s
  | .serve req => (s.serve req).2

def step (s : Site) : Step → Site
  | .change c   => { s with router := s.router.change c }
  | .question q => s.after q

def run (s : Site) (steps : List Step) : Site := steps.foldl step s

/-- A site without a file for its matcher, which keeps no matcher but that of its routes. -/
structure IsFresh (s : Site) : Prop where
  path : s.router.config.cachePath = none
  memo : ∀ m, s.router.memo = some m → s.compileRoutes = .ok m

theorem ask_eq {α : Type} (f : Matcher → Except Error α) :
    s.ask f = (s.compile.1.bind f, s.compile.2) := rfl

/-- A question is answered from the site as it is, or it compiles the routes. -/
theorem after_cases (s : Site) (q : Question) : s.after q = s ∨ s.after q = s.compile.2 := by
  cases q with
  | compile | lookup | serve => exact .inr rfl
  | url => exact .inl rfl
  | allowed c =>
      rw [after, allowed]
      split
      · exact .inl rfl
      · exact .inr rfl

namespace IsFresh

/-- Compiling gives what the routes are compiled to and keeps it; an error is not kept. -/
theorem compile_cases (h : s.IsFresh) :
    (∃ m, s.compileRoutes = .ok m ∧
      s.compile = (.ok m, { s with router := { s.router with memo := some m } })) ∨
    (∃ e, s.compileRoutes = .error e ∧ s.router.memo = none ∧ s.compile = (.error e, s)) := by
  cases hmemo : s.router.memo with
  | some m =>
      refine .inl ⟨m, h.memo m hmemo, ?_⟩
      rw [compile_memo hmemo, ← hmemo]
  | none =>
      have hcompile : s.compile = match s.compileRoutes with
          | .ok m    => (.ok m, { s with router := { s.router with memo := some m } })
          | .error e => (.error e, s) := by
        rw [compile, hmemo, obtain, h.path]
        cases s.compileRoutes <;> rfl
      rw [hcompile]
      cases hroutes : s.compileRoutes with
      | ok m => exact .inl ⟨m, rfl, rfl⟩
      | error e => exact .inr ⟨e, rfl, rfl, rfl⟩

theorem compile_fst (h : s.IsFresh) : s.compile.1 = s.compileRoutes := by
  rcases h.compile_cases with ⟨m, hroutes, hcompile⟩ | ⟨e, hroutes, -, hcompile⟩
  · rw [hroutes, hcompile]
  · rw [hroutes, hcompile]

theorem ask_fst {α : Type} (h : s.IsFresh) (f : Matcher → Except Error α) :
    (s.ask f).1 = s.compileRoutes.bind f := by
  rw [ask_eq, h.compile_fst]

/-- **The matcher that is kept is that of the routes**, after each step. -/
theorem step (h : s.IsFresh) (st : Step) : (s.step st).IsFresh := by
  cases st with
  | change c =>
      refine ⟨(s.router.cachePath_change c).trans h.path, fun m hm => ?_⟩
      rcases s.router.change_cases c with hmemo | ⟨hmemo, hcollection, hoptions⟩
      · cases hmemo.symm.trans hm
      · have hroutes := h.memo m (hmemo.symm.trans hm)
        simpa only [Site.step, compileRoutes, hcollection, hoptions] using hroutes
  | question q =>
      rcases s.after_cases q with hq | hq
      · rwa [Site.step, hq]
      · rw [Site.step, hq]
        rcases h.compile_cases with ⟨m, hroutes, hcompile⟩ | ⟨e, -, -, hcompile⟩
        · rw [hcompile]
          refine ⟨h.path, fun m' hm' => ?_⟩
          cases hm'
          exact hroutes
        · rwa [hcompile]

theorem run (h : s.IsFresh) (steps : List Step) : (s.run steps).IsFresh := by
  induction steps generalizing s with
  | nil => exact h
  | cons st steps ih => exact ih (h.step st)

end IsFresh

/-- What a site without a file for its matcher says at any time: just what it would say if its
routes were compiled anew for every question. -/
structure IsCurrent (s : Site) : Prop where
  /-- The matcher that is kept is the one to which the routes are compiled. -/
  memo : ∀ m, s.router.memo = some m →
    s.router.collection.compile s.router.config.compile = .ok m
  compile : s.compile.1 = s.compileRoutes
  lookup : ∀ c, (s.lookup c).1 = s.compileRoutes.bind fun m => m.lookup c
  allowed : ∀ c, c.path ≠ "*" →
    (s.allowed c).1 = s.compileRoutes.bind fun m => Router.addOptions <$> m.allowed c
  serve : ∀ req, (s.serve req).1 = s.compileRoutes.bind fun m => s.router.answer m req
  /-- Routes that cannot be compiled leave no trace, whatever is asked. -/
  error : ∀ e, s.compileRoutes = .error e → s.router.memo = none ∧ ∀ q, s.after q = s

theorem IsFresh.isCurrent (h : s.IsFresh) : s.IsCurrent := by
  refine ⟨h.memo, h.compile_fst, fun c => h.ask_fst _, fun c hc => ?_, fun req => h.ask_fst _,
    fun e he => ?_⟩
  · rw [Site.allowed, if_neg hc]
    exact h.ask_fst _
  · rcases h.compile_cases with ⟨m, hroutes, -⟩ | ⟨_, -, hmemo, hcompile⟩
    · cases he.symm.trans hroutes
    · refine ⟨hmemo, fun q => ?_⟩
      rcases s.after_cases q with hq | hq
      · exact hq
      · rw [hq]
        exact congrArg Prod.snd hcompile

theorem isFresh_ofConfig {config : Config} (hpath : config.cachePath = none) (files : Files) :
    IsFresh ⟨.ofConfig config, files⟩ :=
  ⟨hpath, nofun⟩

/-- **The matcher that is kept is never stale.**  Take a router without a file for its matcher, and
let it be built and asked in any order.  Then it keeps no matcher but that of its routes as they
are, and answers, or fails, as if they were compiled anew for every question.  Routes that cannot
be compiled leave no trace. -/
theorem isCurrent_run {config : Config} (hpath : config.cachePath = none) (files : Files)
    (steps : List Step) : (run ⟨.ofConfig config, files⟩ steps).IsCurrent :=
  ((isFresh_ofConfig hpath files).run steps).isCurrent

end Site

namespace Site

/-- A router whose first route cannot be compiled, and then gets others. -/
def sampleSteps : List Step :=
  [.change (.handle "GET" "/\x7b" fun _ => pure (.ok {})), .question .compile,
    .change (.routes Collection.sample)]

/-- The first routes of the sample cannot be compiled, which is forgotten with the next ones. -/
theorem isCurrent_run_sample :
    (∃ e, (run ⟨.ofConfig {}, {}⟩ (sampleSteps.take 2)).compile.1 = .error e) ∧
      ∃ m, Matcher.ofData Collection.sampleData = .ok m ∧
        (run ⟨.ofConfig {}, {}⟩ sampleSteps).compile.1 = .ok m := by
  have hnone : (run ⟨.ofConfig {}, {}⟩ (sampleSteps.take 2)).compileRoutes.toOption = none := by
    rfl
  refine ⟨?_, ?_⟩
  · rw [(@isCurrent_run _ {} rfl {} (sampleSteps.take 2)).compile]
    cases hroutes : (run ⟨.ofConfig {}, {}⟩ (sampleSteps.take 2)).compileRoutes with
    | ok m =>
        rw [hroutes] at hnone
        cases hnone
    | error e => exact ⟨e, rfl⟩
  · rw [(@isCurrent_run _ {} rfl {} sampleSteps).compile]
    obtain ⟨m, hdata, -, -⟩ := compileRoutes_sample
    exact ⟨m, hdata, Collection.compile_sample.trans hdata⟩

end Site

end Signpost
