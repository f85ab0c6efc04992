import Signpost.Pipeline.Script
import Signpost.Proofs.Collection.Faults
import Signpost.Proofs.Collection.Groups
import Signpost.Proofs.Router.Decisions
import Signpost.Regex.Estimate

/-!
# Routers — the chain of a request

A request that is found a route is either sent through all of the middlewares of the route to its
handler, or to none of them: what the route refers to is looked up first, the handler before the
middlewares and these from the outermost one in, and the first one that is missing is the error.
That error does not depend on what any handler or middleware does (`Router.Resembles`).

A name stands for what has been registered under it last (`Registration`).  The middlewares of a
route are those of the groups around it, from the outermost group in, and then its own.

* `Registry.ofAll_eq`: what is in a registry after a number of registrations.
* `Group.middlewares_applyAll`: the middlewares of a route in groups.
* `Registry.resolveMiddlewares_eq_error_iff`: which middleware is missed.
* `Site.dispatches_of_found`: what becomes of a request that is found a route.
-/

namespace Signpost

/-! ### Registrations -/

theorem Dict.get?_insertAll_reverse {α : Type} (d : Dict α) (es : List (String × α))
    (key : String) : (d.insertAll es).get? key = (es.reverse.lookup key).or (d.get? key) := by
  induction es generalizing d with
  | nil => rfl
  | cons e es ih =>
      rw [List.reverse_cons, List.lookup_append, Option.or_assoc]
      refine (ih (d.insert e.1 e.2)).trans ?_
      rw [get?_insert, lookup_cons]
      by_cases hkey : key = e.1 <;> simp [hkey]

theorem Dict.get?_ofList_reverse {α : Type} (es : List (String × α)) (key : String) :
    (ofList es).get? key = es.reverse.lookup key := by
  rw [ofList, get?_insertAll_reverse, get?_empty, Option.or_none]

/-- A handler or a middleware that is put under a name. -/
inductive Registration where
  | handler (name : String) (h : Handler)
  | middleware (name : String) (m : Middleware)

namespace Registration

def handler? : Registration → Option (String × Handler)
  | .handler name h => some (name, h)
  | .middleware ..  => none

def middleware? : Registration → Option (String × Middleware)
  | .handler ..        => none
  | .middleware name m => some (name, m)

/-- The registry after one more registration. -/
def enter (g : Registry) : Registration → Registry
  | .handler name h    => g.withHandler name h
  | .middleware name m => g.withMiddleware name m

/-- What has been put under a name last, of the kind that `pick` picks out. -/
def last? {α : Type} (pick : Registration → Option (String × α)) (rs : List Registration)
    (name : String) : Option α :=
  (rs.filterMap pick).reverse.lookup name

def lastHandler? : List Registration → String → Option Handler := last? handler?

def lastMiddleware? : List Registration → String → Option Middleware := last? middleware?

end Registration

open Registration (lastHandler? lastMiddleware?)

namespace Registry

/-- The registry after a number of registrations. -/
def ofAll (rs : List Registration) : Registry := rs.foldl Registration.enter {}

theorem foldl_enter (g : Registry) (rs : List Registration) :
    rs.foldl Registration.enter g =
      ⟨g.handlers.insertAll (rs.filterMap Registration.handler?),
        g.middlewares.insertAll (rs.filterMap Registration.middleware?)⟩ := by
  induction rs generalizing g with
  | nil => rfl
  | cons r rs ih => cases r <;> exact ih _

theorem ofAll_eq (rs : List Registration) :
    ofAll rs = ⟨.ofList (rs.filterMap Registration.handler?),
      .ofList (rs.filterMap Registration.middleware?)⟩ :=
  foldl_enter {} rs

theorem get?_handlers_ofAll (rs : List Registration) (name : String) :
    (ofAll rs).handlers.get? name = lastHandler? rs name := by
  rw [ofAll_eq]
  exact Dict.get?_ofList_reverse _ name

theorem get?_middlewares_ofAll (rs : List Registration) (name : String) :
    (ofAll rs).middlewares.get? name = lastMiddleware? rs name := by
  rw [ofAll_eq]
  exact Dict.get?_ofList_reverse _ name

end Registry

/-! ### What a route refers to -/

namespace HandlerRef

variable (rs : List Registration) (verbs : Dict String) (method : String)

/-- The handler that a route refers to, for a request with a method. -/
inductive Means : HandlerRef → Handler → Prop
  | callable (h : Handler) : Means (.callable h) h
  | named {name : String} {h : Handler} (last : lastHandler? rs name = some h) :
      Means (.named name) h
  | resource {target action : String} {h : Handler} (verb : verbs.get? method = some action)
      (last : lastHandler? rs s!"{target}@{action}" = some h) : Means (.resource target) h

/-- How it is said that the handler is missing. -/
inductive IsMissed : HandlerRef → Error → Prop
  | named {name : String} (last : lastHandler? rs name = none) :
      IsMissed (.named name) (.unresolvedHandler name)
  | resource {target action : String} (verb : verbs.get? method = some action)
      (last : lastHandler? rs s!"{target}@{action}" = none) :
      IsMissed (.resource target) (.unresolvedHandler s!"{target}@{action}")
  | action {target : String} (verb : verbs.get? method = none) :
      IsMissed (.resource target) (.unresolvedHandler s!"{target} (no action for {method})")

theorem means_or_isMissed (ref : HandlerRef) :
    (∃ h, ref.Means rs verbs method h) ∨ ∃ e, ref.IsMissed rs verbs method e := by
  cases ref with
  | callable h => exact .inl ⟨h, .callable h⟩
  | named name =>
      cases hlast : lastHandler? rs name with
      | some h => exact .inl ⟨h, .named hlast⟩
      | none => exact .inr ⟨_, .named hlast⟩
  | resource target =>
      cases hverb : verbs.get? method with
      | none => exact .inr ⟨_, .action hverb⟩
      | some action =>
          cases hlast : lastHandler? rs s!"{target}@{action}" with
          | some h => exact .inl ⟨h, .resource hverb hlast⟩
          | none => exact .inr ⟨_, .resource hverb hlast⟩

end HandlerRef

namespace MiddlewareRef

variable (rs : List Registration)

/-- The middleware that a route refers to. -/
inductive Means : MiddlewareRef → Middleware → Prop
  | direct (m : Middleware) : Means (.direct m) m
  | named {name : String} {m : Middleware} (last : lastMiddleware? rs name = some m) :
      Means (.named name) m

/-- The name of the first middleware that is missing. -/
def FirstMissed (refs : List MiddlewareRef) (name : String) : Prop :=
  ∃ before after, refs = before ++ .named name :: after ∧ (∀ ref ∈ before, ∃ m, ref.Means rs m) ∧
    lastMiddleware? rs name = none

variable {rs} {ref : MiddlewareRef} {refs : List MiddlewareRef} {name : String}

theorem not_firstMissed_nil : ¬FirstMissed rs [] name := by
  rintro ⟨before, after, hrefs, -⟩
  simp at hrefs

theorem firstMissed_cons : FirstMissed rs (ref :: refs) name ↔
    (ref = .named name ∧ lastMiddleware? rs name = none) ∨
      (∃ m, ref.Means rs m) ∧ FirstMissed rs refs name := by
  constructor
  · rintro ⟨before, after, hrefs, hbefore, hlast⟩
    cases before with
    | nil => exact .inl ⟨(List.cons.inj hrefs).1, hlast⟩
    | cons ref' before =>
        obtain ⟨rfl, rfl⟩ := List.cons.inj hrefs
        obtain ⟨hfirst, hbefore⟩ := List.forall_mem_cons.1 hbefore
        exact .inr ⟨hfirst, before, after, rfl, hbefore, hlast⟩
  · rintro (⟨rfl, hlast⟩ | ⟨hfirst, before, after, rfl, hbefore, hlast⟩)
    · exact ⟨[], refs, rfl, by simp, hlast⟩
    · exact ⟨ref :: before, after, rfl, List.forall_mem_cons.2 ⟨hfirst, hbefore⟩, hlast⟩

end MiddlewareRef

namespace Registry

variable {rs : List Registration} {verbs : Dict String} {method : String}

theorem namedHandler_ofAll (rs : List Registration) (name : String) :
    (ofAll rs).namedHandler name =
      (lastHandler? rs name).elim (.error (.unresolvedHandler name)) .ok := by
  rw [namedHandler, get?_handlers_ofAll]
  cases lastHandler? rs name <;> rfl

theorem resolveHandler_of_means {ref : HandlerRef} {h : Handler}
    (hmeans : ref.Means rs verbs method h) :
    (ofAll rs).resolveHandler verbs method ref = .ok h := by
  cases hmeans with
  | callable => rfl
  | named hlast => rw [resolveHandler, namedHandler_ofAll, hlast, Option.elim_some]
  | resource hverb hlast =>
      simp only [resolveHandler, hverb, namedHandler_ofAll, hlast, Option.elim_some]

theorem resolveHandler_of_isMissed {ref : HandlerRef} {e : Error}
    (hmissed : ref.IsMissed rs verbs method e) :
    (ofAll rs).resolveHandler verbs method ref = .error e := by
  cases hmissed with
  | named hlast => rw [resolveHandler, namedHandler_ofAll, hlast, Option.elim_none]
  | resource hverb hlast =>
      simp only [resolveHandler, hverb, namedHandler_ofAll, hlast, Option.elim_none]
  | action hverb => simp only [resolveHandler, hverb]

theorem resolveMiddleware_eq_ok_iff {ref : MiddlewareRef} {m : Middleware} :
    (ofAll rs).resolveMiddleware ref = .ok m ↔ ref.Means rs m := by
  cases ref with
  | direct m' =>
      constructor
      · rintro ⟨⟩
        exact .direct m
      · rintro ⟨⟩
        rfl
  | named name =>
      rw [resolveMiddleware, get?_middlewares_ofAll]
      constructor
      · intro h
        cases hlast : lastMiddleware? rs name with
        | some m' =>
            rw [hlast] at h
            obtain rfl := Except.ok.inj h
            exact .named hlast
        | none =>
            rw [hlast] at h
            cases h
      · rintro ⟨⟩
        simp only [*]

/-- All of the middlewares are found. -/
theorem resolveMiddlewares_eq_ok_iff {refs : List MiddlewareRef} {chain : List Middleware} :
    (ofAll rs).resolveMiddlewares refs = .ok chain ↔
      List.Forall₂ (MiddlewareRef.Means rs) refs chain := by
  simp only [resolveMiddlewares, mapM_eq_ok, resolveMiddleware_eq_ok_iff]

theorem resolveMiddleware_eq_error_iff {ref : MiddlewareRef} {e : Error} :
    (ofAll rs).resolveMiddleware ref = .error e ↔
      ∃ name, ref = .named name ∧ lastMiddleware? rs name = none ∧
        e = .unresolvedMiddleware name := by
  cases ref with
  | direct m => simp [resolveMiddleware]
  | named name =>
      rw [resolveMiddleware, get?_middlewares_ofAll]
      cases hlast : lastMiddleware? rs name with
      | some m => simp [hlast]
      | none => simp [hlast, eq_comm]

/-- **The first middleware that is missing** is the one that is missed. -/
theorem resolveMiddlewares_eq_error_iff {refs : List MiddlewareRef} {e : Error} :
    (ofAll rs).resolveMiddlewares refs = .error e ↔
      ∃ name, MiddlewareRef.FirstMissed rs refs name ∧ e = .unresolvedMiddleware name := by
  induction refs with
  | nil =>
      refine iff_of_false (fun h => nomatch h) ?_
      rintro ⟨name, hname, -⟩
      exact MiddlewareRef.not_firstMissed_nil hname
  | cons ref refs ih =>
      simp only [resolveMiddlewares, List.mapM_cons, bind_eq_error, MiddlewareRef.firstMissed_cons,
        resolveMiddleware_eq_error_iff, resolveMiddleware_eq_ok_iff] at ih ⊢
      constructor
      · rintro (⟨name, rfl, hlast, rfl⟩ | ⟨m, hm, hrest | ⟨ms, -, hpure⟩⟩)
        · exact ⟨name, .inl ⟨rfl, hlast⟩, rfl⟩
        · obtain ⟨name, hname, rfl⟩ := ih.1 hrest
          exact ⟨name, .inr ⟨⟨m, hm⟩, hname⟩, rfl⟩
        · cases hpure
      · rintro ⟨name, ⟨rfl, hlast⟩ | ⟨⟨m, hm⟩, hname⟩, rfl⟩
        · exact .inl ⟨name, rfl, hlast, rfl⟩
        · exact .inr ⟨m, hm, .inl (ih.2 ⟨name, hname, rfl⟩)⟩

end Registry

/-! ### Other instances under the same names -/

/-- Whether two registrations are for the same name. -/
inductive Registration.Alike : Registration → Registration → Prop
  | handler (name : String) (h h' : Handler) : Alike (.handler name h) (.handler name h')
  | middleware (name : String) (m m' : Middleware) :
      Alike (.middleware name m) (.middleware name m')

/-- Whether two references are the same, but for the handler that is held. -/
inductive HandlerRef.Alike : HandlerRef → HandlerRef → Prop
  | callable (h h' : Handler) : Alike (.callable h) (.callable h')
  | refl (ref : HandlerRef) : Alike ref ref

/-- Whether two references are the same, but for the middleware that is held. -/
inductive MiddlewareRef.Alike : MiddlewareRef → MiddlewareRef → Prop
  | direct (m m' : Middleware) : Alike (.direct m) (.direct m')
  | named (name : String) : Alike (.named name) (.named name)

section Alike

variable {rs rs' : List Registration}

theorem Registration.last?_eq_none_iff {α : Type} {pick : Registration → Option (String × α)}
    {name : String} : last? pick rs name = none ↔ name ∉ (rs.filterMap pick).map Prod.fst := by
  rw [last?, List.lookup_eq_none_iff, List.mem_map]
  constructor
  · rintro h ⟨entry, hentry, rfl⟩
    simpa using h entry (List.mem_reverse.2 hentry)
  · intro h entry hentry
    rw [bne_iff_ne]
    rintro rfl
    exact h ⟨entry, List.mem_reverse.1 hentry, rfl⟩

/-- Registrations for the same names miss the same names. -/
theorem Registration.last?_of_alike {α : Type} {pick : Registration → Option (String × α)}
    (hpick : ∀ {r r'}, Alike r r' → (pick r).map Prod.fst = (pick r').map Prod.fst)
    (hrs : List.Forall₂ Alike rs rs') (name : String) :
    last? pick rs name = none ↔ last? pick rs' name = none := by
  have hnames : (rs.filterMap pick).map Prod.fst = (rs'.filterMap pick).map Prod.fst := by
    rw [List.map_filterMap, List.map_filterMap]
    induction hrs with
    | nil => rfl
    | cons hr _ ih => rw [List.filterMap_cons, List.filterMap_cons, hpick hr, ih]
  rw [last?_eq_none_iff, last?_eq_none_iff, hnames]

theorem Registration.lastHandler?_of_alike (hrs : List.Forall₂ Alike rs rs') (name : String) :
    lastHandler? rs name = none ↔ lastHandler? rs' name = none :=
  last?_of_alike (fun halike => by cases halike <;> rfl) hrs name

theorem Registration.lastMiddleware?_of_alike (hrs : List.Forall₂ Alike rs rs') (name : String) :
    lastMiddleware? rs name = none ↔ lastMiddleware? rs' name = none :=
  last?_of_alike (fun halike => by cases halike <;> rfl) hrs name

theorem HandlerRef.IsMissed.of_alike {verbs : Dict String} {method : String} {ref ref' : HandlerRef}
    {e : Error} (hrs : List.Forall₂ Registration.Alike rs rs') (href : ref.Alike ref')
    (h : ref.IsMissed rs verbs method e) : ref'.IsMissed rs' verbs method e := by
  cases href with
  | callable => cases h
  | refl =>
      cases h with
      | named hlast => exact .named ((Registration.lastHandler?_of_alike hrs _).1 hlast)
      | resource hverb hlast =>
          exact .resource hverb ((Registration.lastHandler?_of_alike hrs _).1 hlast)
      | action hverb => exact .action hverb

theorem HandlerRef.Means.of_alike {verbs : Dict String} {method : String} {ref ref' : HandlerRef}
    {h : Handler} (hrs : List.Forall₂ Registration.Alike rs rs') (href : ref.Alike ref')
    (hmeans : ref.Means rs verbs method h) : ∃ h', ref'.Means rs' verbs method h' := by
  have there : ∀ {name}, lastHandler? rs name = some h → ∃ h', lastHandler? rs' name = some h' := by
    intro name hlast
    refine Option.ne_none_iff_exists'.1 fun hnone => ?_
    cases hlast.symm.trans ((Registration.lastHandler?_of_alike hrs name).2 hnone)
  cases href with
  | callable _ h' => exact ⟨h', .callable h'⟩
  | refl =>
      cases hmeans with
      | callable => exact ⟨h, .callable h⟩
      | named hlast =>
          obtain ⟨h', hlast'⟩ := there hlast
          exact ⟨h', .named hlast'⟩
      | resource hverb hlast =>
          obtain ⟨h', hlast'⟩ := there hlast
          exact ⟨h', .resource hverb hlast'⟩

theorem MiddlewareRef.Means.of_alike {ref ref' : MiddlewareRef} {m : Middleware}
    (hrs : List.Forall₂ Registration.Alike rs rs') (href : ref.Alike ref')
    (hmeans : ref.Means rs m) : ∃ m', ref'.Means rs' m' := by
  cases href with
  | direct _ m' => exact ⟨m', .direct m'⟩
  | named name =>
      obtain ⟨⟩ | ⟨hlast⟩ := hmeans
      have hthere : ∃ m', lastMiddleware? rs' name = some m' := by
        refine Option.ne_none_iff_exists'.1 fun hnone => ?_
        cases hlast.symm.trans ((Registration.lastMiddleware?_of_alike hrs name).2 hnone)
      obtain ⟨m', hlast'⟩ := hthere
      exact ⟨m', .named hlast'⟩

theorem MiddlewareRef.FirstMissed.of_alike {refs refs' : List MiddlewareRef} {name : String}
    (hrs : List.Forall₂ Registration.Alike rs rs') (hrefs : List.Forall₂ Alike refs refs')
    (h : FirstMissed rs refs name) : FirstMissed rs' refs' name := by
  induction hrefs with
  | nil => exact absurd h not_firstMissed_nil
  | cons href _ ih =>
      rcases firstMissed_cons.1 h with ⟨rfl, hlast⟩ | ⟨⟨m, hm⟩, hrest⟩
      · obtain _ | _ := href
        exact firstMissed_cons.2
          (.inl ⟨rfl, (Registration.lastMiddleware?_of_alike hrs name).1 hlast⟩)
      · exact firstMissed_cons.2 (.inr ⟨hm.of_alike hrs href, ih hrest⟩)

end Alike

/-! ### Groups -/

/-- The middlewares of the groups around a route come before its own, those of the outermost group
first. -/
theorem Group.middlewares_applyAll (groups : List Group) (r : Route) :
    (applyAll groups r).middlewares =
      groups.reverse.flatMap Group.middlewares ++ r.middlewares := by
  induction groups generalizing r with
  | nil => rfl
  | cons g groups ih =>
      rw [List.reverse_cons, List.flatMap_append, List.append_assoc]
      simpa [applyAll, apply] using ih (g.apply r)

/-! ### Sites -/

/-- Whether two routers differ, for the route with an index, only in what the handlers and the
middlewares do. -/
structure Router.Resembles (r r' : Router) (rs : List Registration) (route : Route) (id : Nat) :
    Prop where
  verbs    : r'.config.resourceVerbs = r.config.resourceVerbs
  registry : ∃ rs', r'.registry = .ofAll rs' ∧ List.Forall₂ Registration.Alike rs rs'
  route    : ∃ route', r'.collection.route? id = some route' ∧
    route.handler.Alike route'.handler ∧
    List.Forall₂ MiddlewareRef.Alike route.middlewares route'.middlewares

namespace Site

variable {s : Site} {m : Matcher} {req : Request} {found : Matcher.Match} {route : Route}
  {rs : List Registration}

variable [Regex.Engine]

/-- What becomes of a request that is found a route, where `rs` has been registered. -/
structure Dispatches (s : Site) (m : Matcher) (rs : List Registration) (req : Request)
    (found : Matcher.Match) (route : Route) : Prop where
  /-- Without its handler the request fails, -/
  noHandler : ∀ e, route.handler.IsMissed rs s.router.config.resourceVerbs req.method e →
    (s.serve req).1 = .error e
  /-- and so it does without one of its middlewares, which is then the first that is missing. -/
  noMiddleware : ∀ h name, route.handler.Means rs s.router.config.resourceVerbs req.method h →
    MiddlewareRef.FirstMissed rs route.middlewares name →
    (s.serve req).1 = .error (.unresolvedMiddleware name)
  /-- If all are there, it is sent through all of the middlewares, in their order, to the
  handler. -/
  started : ∀ h chain, route.handler.Means rs s.router.config.resourceVerbs req.method h →
    List.Forall₂ (MiddlewareRef.Means rs) route.middlewares chain →
    ∃ job, (s.serve req).1 = .ok job ∧
      Pipeline.Carries chain h { req with params? := some found.params } job
  /-- One of the three is the case. -/
  total : (∃ e, route.handler.IsMissed rs s.router.config.resourceVerbs req.method e) ∨
    ∃ h, route.handler.Means rs s.router.config.resourceVerbs req.method h ∧
      ((∃ name, MiddlewareRef.FirstMissed rs route.middlewares name) ∨
        ∃ chain, List.Forall₂ (MiddlewareRef.Means rs) route.middlewares chain)
  /-- A request that fails does so whatever the handlers and the middlewares do. -/
  untouched : ∀ s' : Site, s'.compile.1 = .ok m →
    s.router.Resembles s'.router rs route found.route →
    ∀ e, (s.serve req).1 = .error e → (s'.serve req).1 = .error e

theorem serve_eq_dispatch (hkept : s.compile.1 = .ok m)
    (hfound : m.lookup (.ofRequest req) = .ok (.found found)) :
    (s.serve req).1 = s.router.dispatch found req := by
  rw [serve_eq hkept, Router.answer, Router.decide, hfound]
  rfl

section Resolving

variable (hregistry : s.router.registry = .ofAll rs) (hkept : s.compile.1 = .ok m)
  (hfound : m.lookup (.ofRequest req) = .ok (.found found))
  (hroute : s.router.collection.route? found.route = some route)
include hregistry hkept hfound hroute

theorem serve_of_isMissed {e : Error}
    (hmissed : route.handler.IsMissed rs s.router.config.resourceVerbs req.method e) :
    (s.serve req).1 = .error e :=
  (runs_of_dispatch hroute (serve_eq_dispatch hkept hfound)).noHandler e
    (hregistry ▸ Registry.resolveHandler_of_isMissed hmissed)

theorem serve_of_firstMissed {h : Handler} {name : String}
    (hmeans : route.handler.Means rs s.router.config.resourceVerbs req.method h)
    (hmissed : MiddlewareRef.FirstMissed rs route.middlewares name) :
    (s.serve req).1 = .error (.unresolvedMiddleware name) :=
  (runs_of_dispatch hroute (serve_eq_dispatch hkept hfound)).noMiddleware h _
    (hregistry ▸ Registry.resolveHandler_of_means hmeans)
    (hregistry ▸ Registry.resolveMiddlewares_eq_error_iff.2 ⟨name, hmissed, rfl⟩)

theorem serve_of_means {h : Handler} {chain : List Middleware}
    (hmeans : route.handler.Means rs s.router.config.resourceVerbs req.method h)
    (hchain : List.Forall₂ (MiddlewareRef.Means rs) route.middlewares chain) :
    ∃ job, (s.serve req).1 = .ok job ∧
      Pipeline.Carries chain h { req with params? := some found.params } job :=
  (runs_of_dispatch hroute (serve_eq_dispatch hkept hfound)).resolved h chain
    (hregistry ▸ Registry.resolveHandler_of_means hmeans)
    (hregistry ▸ Registry.resolveMiddlewares_eq_ok_iff.2 hchain)

end Resolving

theorem dispatches_of_route (hregistry : s.router.registry = .ofAll rs)
    (hkept : s.compile.1 = .ok m) (hfound : m.lookup (.ofRequest req) = .ok (.found found))
    (hroute : s.router.collection.route? found.route = some route) :
    s.Dispatches m rs req found route := by
  have htotal : (∃ e, route.handler.IsMissed rs s.router.config.resourceVerbs req.method e) ∨
      ∃ h, route.handler.Means rs s.router.config.resourceVerbs req.method h ∧
        ((∃ name, MiddlewareRef.FirstMissed rs route.middlewares name) ∨
          ∃ chain, List.Forall₂ (MiddlewareRef.Means rs) route.middlewares chain) := by
    rcases route.handler.means_or_isMissed rs s.router.config.resourceVerbs req.method with
      ⟨h, hmeans⟩ | hmissed
    · refine .inr ⟨h, hmeans, ?_⟩
      cases hchain : (Registry.ofAll rs).resolveMiddlewares route.middlewares with
      | ok chain => exact .inr ⟨chain, Registry.resolveMiddlewares_eq_ok_iff.1 hchain⟩
      | error e =>
          obtain ⟨name, hname, -⟩ := Registry.resolveMiddlewares_eq_error_iff.1 hchain
          exact .inl ⟨name, hname⟩
    · exact .inl hmissed
  refine ⟨fun e => serve_of_isMissed hregistry hkept hfound hroute,
    fun h name => serve_of_firstMissed hregistry hkept hfound hroute,
    fun h chain => serve_of_means hregistry hkept hfound hroute, htotal, ?_⟩
  intro s' hkept' hresembles e he
  obtain ⟨hverbs, ⟨rs', hregistry', hrs⟩, route', hroute', hhandler, hmiddlewares⟩ := hresembles
  rcases htotal with ⟨e', hmissed⟩ | ⟨h, hmeans, ⟨name, hmissed⟩ | ⟨chain, hchain⟩⟩
  · obtain rfl : e' = e := Except.error.inj
      ((serve_of_isMissed hregistry hkept hfound hroute hmissed).symm.trans he)
    exact serve_of_isMissed hregistry' hkept' hfound hroute'
      (hverbs ▸ hmissed.of_alike hrs hhandler)
  · obtain rfl : Error.unresolvedMiddleware name = e := Except.error.inj
      ((serve_of_firstMissed hregistry hkept hfound hroute hmeans hmissed).symm.trans he)
    obtain ⟨h', hmeans'⟩ := hmeans.of_alike hrs hhandler
    exact serve_of_firstMissed hregistry' hkept' hfound hroute' (hverbs ▸ hmeans')
      (hmissed.of_alike hrs hmiddlewares)
  · obtain ⟨job, hjob, -⟩ := serve_of_means hregistry hkept hfound hroute hmeans hchain
    cases hjob.symm.trans he

/-- **All or nothing.**  Take a site with a registry, whatever has been registered, and a request
that its matcher finds a route.  A matcher that the routes compile to knows no other routes.  If the
route is one of those that a tree of groups adds, its middlewares are those of the groups around it,
from the outermost one in, and then its own.  The request is sent through all of them to the
handler, or it fails for what is missing, and nothing has been run. -/
theorem dispatches_of_found (hregistry : s.router.registry = .ofAll rs)
    (hkept : s.compile.1 = .ok m) (hfound : m.lookup (.ofRequest req) = .ok (.found found)) :
    (s.compileRoutes = .ok m → ∃ route, s.router.collection.route? found.route = some route) ∧
    (s.router.collection.route? found.route = none →
      (s.serve req).1 = .error (.badMatcher (.unknownRoute found.route))) ∧
    ∀ route, s.router.collection.route? found.route = some route →
      (∀ items, (∀ r ∈ s.router.collection.routes,
          r ∈ ((({} : Collection).addItems items).routes)) →
        ∃ step ∈ Item.stepsOfAll items, route = Collection.stored [] step ∧
          route.middlewares = step.1.reverse.flatMap Group.middlewares ++ step.2.middlewares) ∧
      s.Dispatches m rs req found route := by
  refine ⟨fun hcompiled => exists_route hcompiled hfound, fun hunknown => ?_,
    fun route hroute => ⟨fun items hitems => ?_,
      dispatches_of_route hregistry hkept hfound hroute⟩⟩
  · rw [serve_eq_dispatch hkept hfound, Router.dispatch, hunknown]
  · have hmem := hitems route (List.mem_of_getElem? hroute)
    rw [Collection.addItems_eq] at hmem
    obtain ⟨step, hstep, rfl⟩ := List.mem_map.1 hmem
    refine ⟨step, hstep, rfl, ?_⟩
    rw [Collection.stored, List.append_nil, Group.middlewares_applyAll]

end Site

/-! ### A route in two groups -/

namespace Site

/-- A script that passes requests on. -/
def passing (id : String) : Middleware := Script.middleware { id }

def groupedItems : List Item := [
  .group { base := "/x", middlewares := [.named "outer"] } [
    .group { middlewares := [.direct (passing "inner")] } [
      .route { path := "/", methods := ["GET"], handler := .named "page"
               middlewares := [.named "own", .named "outer"] }]]]

/-- A site with a route in two groups, after some registrations. -/
def grouped (rs : List Registration) : Site :=
  { router := { collection := ({} : Collection).addItems groupedItems, registry := .ofAll rs } }

def groupedData : Matcher.Data where
  staticPaths := Dict.empty.insert "/x" [0]
  chunks := []
  leaves := []
  routes := [⟨["GET"], [], none, .empty⟩]
  sizeLimit := Regex.defaultSizeLimit

/-- The route as the groups leave it. -/
def groupedRoute : Route :=
  { path := "/x", methods := ["GET"], handler := .named "page"
    middlewares := [.named "outer", .direct (passing "inner"), .named "own", .named "outer"] }

theorem routes_grouped (rs : List Registration) :
    (grouped rs).router.collection.routes = [groupedRoute] := by
  have hpath : Group.join "/x" (Group.join "" "/") = "/x" := by decide
  have happly : Group.applyAll [{ middlewares := [.direct (passing "inner")] },
      { base := "/x", middlewares := [.named "outer"] }]
      { path := "/", methods := ["GET"], handler := .named "page"
        middlewares := [.named "own", .named "outer"] } = groupedRoute := by
    simp only [Group.applyAll, List.foldl_cons, List.foldl_nil, Group.apply, hpath]
    rfl
  rw [grouped, Collection.addItems_eq]
  exact congrArg (fun r => [r]) happly

theorem compileRoutes_grouped [Regex.Engine] (rs : List Registration) :
    (grouped rs).compileRoutes = Matcher.ofData groupedData := by
  have hcompile : groupedRoute.compile =
      .ok ⟨some "/x", [.char '/', .char 'x'], "/x", [], ⟨["GET"], [], none, .empty⟩⟩ :=
    Route.compile_of_literal _ (by decide) rfl rfl rfl rfl
  have hroutes : Collection.compileRoutes [] (grouped rs).router.collection.routes = .ok [
      (groupedRoute,
        ⟨some "/x", [.char '/', .char 'x'], "/x", [], ⟨["GET"], [], none, .empty⟩⟩)] := by
    rw [routes_grouped]
    exact Collection.compileRoutes_cons hcompile rfl
  have hnames : Collection.repeatedName? [] (grouped rs).router.collection.routes = none := by
    rw [routes_grouped]
    rfl
  exact Collection.compile_eq_ofData hnames hroutes (Collection.matcherData_of_literal {} (by simp))

theorem lookup_grouped (rs : List Registration) : ∃ m, (grouped rs).compileRoutes = .ok m ∧
    (grouped rs).compile.1 = .ok m ∧
    m.lookup (.ofRequest ⟨"GET", { path := "/x" }, [], none⟩) = .ok (.found ⟨0, .empty⟩) := by
  have hrun : ((Matcher.ofData groupedData).toOption.bind fun m =>
      (m.lookup (.ofRequest ⟨"GET", { path := "/x" }, [], none⟩)).toOption) =
        some (.found ⟨0, .empty⟩) := by
    decide +kernel
  obtain ⟨m, hm, hlookup⟩ := Option.bind_eq_some_iff.1 hrun
  have hcompiled := (compileRoutes_grouped rs).trans (toOption_eq_some.1 hm)
  exact ⟨m, hcompiled, (compile_of_new rfl rfl).trans hcompiled, toOption_eq_some.1 hlookup⟩

/-- The middleware that is registered twice is the second one, and it runs twice. -/
theorem serve_grouped :
    let rs : List Registration := [.middleware "outer" (passing "first"),
      .middleware "outer" (passing "outer"), .middleware "own" (passing "own"),
      .handler "page" (Script.handler { id := "page" })]
    ∃ m job, (grouped rs).compileRoutes = .ok m ∧ (grouped rs).compile.1 = .ok m ∧
      m.lookup (.ofRequest ⟨"GET", { path := "/x" }, [], none⟩) = .ok (.found ⟨0, .empty⟩) ∧
      ((grouped rs).serve ⟨"GET", { path := "/x" }, [], none⟩).1 = .ok job ∧
      Effect.notes job.run.1 = [
        "enter outer Next \x7b index: 1, remaining: 3 \x7d",
        "enter inner Next \x7b index: 2, remaining: 2 \x7d",
        "enter own Next \x7b index: 3, remaining: 1 \x7d",
        "enter outer Next \x7b index: 4, remaining: 0 \x7d",
        "handler page", "exit outer", "exit own", "exit inner", "exit outer"] := by
  intro rs
  obtain ⟨m, hcompiled, hkept, hfound⟩ := lookup_grouped rs
  have hroute : (grouped rs).router.collection.route? 0 = some groupedRoute := by
    rw [Collection.route?, routes_grouped]
    rfl
  have hdispatches := ((dispatches_of_found rfl hkept hfound).2.2 groupedRoute hroute).2
  obtain ⟨job, hserve, hcarries⟩ := hdispatches.started _ _ (.named rfl)
    (.cons (.named rfl) (.cons (.direct _) (.cons (.named rfl) (.cons (.named rfl) .nil))))
  refine ⟨m, job, hcompiled, hkept, hfound, hserve, ?_⟩
  rw [hcarries.first _ _ rfl]
  decide +kernel

end Site

end Signpost
