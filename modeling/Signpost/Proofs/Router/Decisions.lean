import Signpost.Proofs.Matcher.Total
import Signpost.Proofs.Pipeline.Nesting
import Signpost.Regex.Estimate
import Signpost.Router.Site

/-!
# Routers — which answer a request gets

What is found for a request decides on its answer.  A route that is found gets the request.  If
nothing is found, a path whose slash is only one too many or one too few is redirected
(`Router.Redirects`), and the request that follows is found a route.  If only the method is in the
way, the methods that would do are in the answer.

A request that goes to no route is answered by a handler that is there for it, or by the router
itself, with a status and at most one header (`Site.Answers`).

* `Router.exists_decides`: what is found, and what is decided.
* `Site.serves_of_compile`: which answer a site gives to a request.
* `Site.serve_unresolved`: a route whose handler has no name in the registry is found, but not run.
-/

namespace Signpost

open Matcher (Resolution)

namespace Router

variable {r : Router} {m : Matcher} {req : Request}

/-- A request for which nothing is found is redirected to the path with its slash toggled. -/
structure Redirects (r : Router) (m : Matcher) (c : Context) : Prop where
  enabled : r.config.redirectTrailingSlash
  path    : c.path ≠ "/"
  method  : c.method ≠ "CONNECT"
  found   : ∃ found, m.lookup (c.withPath (toggleSlash c.path)) = .ok (.found found)

/-- The other path has its last slash taken away, or else a slash more. -/
theorem toggleSlash_cases (path : String) :
    (∃ stem, path = stem ++ "/" ∧ toggleSlash path = stem) ∨
      ((∀ stem, path ≠ stem ++ "/") ∧ toggleSlash path = path ++ "/") := by
  rw [toggleSlash]
  split
  case h_1 hlast =>
      obtain ⟨stem, hstem⟩ := List.getLast?_eq_some_iff.1 hlast
      refine .inl ⟨String.ofList stem, ?_, by rw [hstem, List.dropLast_concat]⟩
      rw [← String.ofList_toList (s := path), hstem, String.ofList_append]
  case h_2 hlast =>
      refine .inr ⟨fun stem heq => hlast ?_, rfl⟩
      rw [heq, String.toList_append]
      exact List.getLast?_concat

/-- Where a request is redirected to: to the other path, with the same query. -/
def location (req : Request) : String :=
  toggleSlash (Context.ofRequest req).path ++ req.uri.query.elim "" ("?" ++ ·)

/-- What is decided, by what is found. -/
inductive Decides (r : Router) (m : Matcher) (req : Request) : Resolution → Decision → Prop
  | dispatch (found : Matcher.Match) : Decides r m req (.found found) (.dispatch found)
  | redirect (h : r.Redirects m (.ofRequest req)) :
      Decides r m req .notFound (.redirect (location req) (if req.method = "GET" then 301 else 308))
  | notFound (h : ¬r.Redirects m (.ofRequest req)) :
      Decides r m req .notFound (r.decline req.method (Context.ofRequest req).path [])
  | refuse (methods : List String) (hne : methods ≠ []) :
      Decides r m req (.methodNotAllowed methods)
        (r.decline req.method (Context.ofRequest req).path methods)

/-- The redirection of a request for which nothing is found. -/
theorem redirectOf?_cases (hm : m.IsCounted) (c : Context) :
    (r.Redirects m c ∧ r.redirectOf? m c [] = .ok (some (toggleSlash c.path))) ∨
      (¬r.Redirects m c ∧ r.redirectOf? m c [] = .ok none) := by
  rw [redirectOf?]
  by_cases henabled : r.config.redirectTrailingSlash
  · rw [if_pos (by simpa using henabled), redirect?]
    by_cases hroot : c.path = "/" ∨ c.method = "CONNECT"
    · rw [if_pos hroot]
      refine .inr ⟨fun h => ?_, rfl⟩
      exact hroot.elim h.path h.method
    · rw [if_neg hroot]
      obtain ⟨hpath, hmethod⟩ := not_or.1 hroot
      obtain ⟨res, hres, -⟩ := hm.exists_lookup (c.withPath (toggleSlash c.path))
      simp only [hres]
      cases res with
      | found found => exact .inl ⟨⟨henabled, hpath, hmethod, found, hres⟩, rfl⟩
      | methodNotAllowed methods | notFound =>
          refine .inr ⟨fun h => ?_, rfl⟩
          obtain ⟨found, hfound⟩ := h.found
          cases hres.symm.trans hfound
  · rw [if_neg (by simpa using henabled)]
    exact .inr ⟨fun h => henabled h.enabled, rfl⟩

/-- **A decision is made for every request**, by what is found for it. -/
theorem exists_decides (hm : m.IsCounted) (r : Router) (req : Request) :
    ∃ res d, m.lookup (.ofRequest req) = .ok res ∧ r.decide m req = .ok d ∧
      (∀ found, res = .found found → found.route < m.data.routes.length) ∧
      r.Decides m req res d := by
  obtain ⟨res, hres, hknown, hne⟩ := hm.exists_lookup (.ofRequest req)
  simp only [decide, hres]
  cases res with
  | found found => exact ⟨_, _, rfl, rfl, hknown, .dispatch found⟩
  | methodNotAllowed methods =>
      have hmethods := hne methods rfl
      have hredirect : r.redirectOf? m (.ofRequest req) methods = .ok none := by
        rw [redirectOf?, if_neg]
        simp [hmethods]
      refine ⟨_, _, rfl, ?_, hknown, .refuse methods hmethods⟩
      simp only [pure, Except.pure, bind, Except.bind, hredirect]
  | notFound =>
      rcases redirectOf?_cases (r := r) hm (.ofRequest req) with ⟨h, hredirect⟩ | ⟨h, hredirect⟩
      · refine ⟨_, _, rfl, ?_, hknown, .redirect h⟩
        simp only [pure, Except.pure, bind, Except.bind, hredirect]
        rfl
      · refine ⟨_, _, rfl, ?_, hknown, .notFound h⟩
        simp only [pure, Except.pure, bind, Except.bind, hredirect]

/-- A request for the path of a redirection is found a route, and is not redirected. -/
theorem decide_of_redirects {c : Context} (h : r.Redirects m c)
    (hreq : Context.ofRequest req = c.withPath (toggleSlash c.path)) :
    ∃ found, m.lookup (.ofRequest req) = .ok (.found found) ∧
      r.decide m req = .ok (.dispatch found) := by
  obtain ⟨found, hfound⟩ := h.found
  rw [← hreq] at hfound
  refine ⟨found, hfound, ?_⟩
  simp only [decide, hfound]
  rfl

/-- Where no methods would do, there is nothing to refuse. -/
theorem decline_nil (r : Router) (method : String) {path : String} (h : path ≠ "*") :
    r.decline method path [] = .notFound := by
  simp [decline, h, addOptions]

/-- Where some methods would do, they are in the answer. -/
theorem decline_of_ne_nil (hoptions : r.config.handleOptions)
    (hmethods : r.config.handleMethodNotAllowed) (method : String) {path : String} (h : path ≠ "*")
    {methods : List String} (hne : methods ≠ []) :
    r.decline method path methods = if method = "OPTIONS" then .options (addOptions methods)
      else .methodNotAllowed (addOptions methods) := by
  have hallow : (addOptions methods).isEmpty = false := by
    rw [addOptions]
    split <;> simp [hne]
  rw [decline]
  by_cases hmethod : method = "OPTIONS"
  · rw [if_pos ⟨hmethod, hoptions⟩, if_pos hmethod]
    simp only [if_neg h, hallow]
    rfl
  · rw [if_neg fun h => hmethod h.1, if_neg hmethod, if_pos ⟨hmethods, hne⟩, if_pos hoptions]

theorem decline_cases (r : Router) (method path : String) (methods : List String) :
    r.decline method path methods = .notFound ∨
      (∃ allow, r.decline method path methods = .options allow) ∨
      ∃ allow, r.decline method path methods = .methodNotAllowed allow := by
  rw [decline]
  by_cases hoptions : method = "OPTIONS" ∧ r.config.handleOptions
  · simp only [if_pos hoptions]
    by_cases hempty : (addOptions (if path = "*" then r.declaredMethods else methods)).isEmpty
    · exact .inl (if_pos hempty)
    · exact .inr (.inl ⟨_, if_neg hempty⟩)
  · rw [if_neg hoptions]
    by_cases hmethods : r.config.handleMethodNotAllowed ∧ methods ≠ []
    · rw [if_pos hmethods]
      exact .inr (.inr ⟨_, rfl⟩)
    · rw [if_neg hmethods]
      exact .inl rfl

/-- A request that is declined goes to no route and to no other path. -/
theorem decline_ne (r : Router) (method path : String) (methods : List String) :
    (∀ found, r.decline method path methods ≠ .dispatch found) ∧
      ∀ target status, r.decline method path methods ≠ .redirect target status := by
  rcases decline_cases r method path methods with h | ⟨allow, h⟩ | ⟨allow, h⟩
  all_goals
    rw [h]
    exact ⟨fun _ => Decision.noConfusion, fun _ _ => Decision.noConfusion⟩

namespace Decides

variable {res : Resolution} {d : Decision}

theorem dispatch_iff (h : r.Decides m req res d) (found : Matcher.Match) :
    d = .dispatch found ↔ res = .found found := by
  cases h with
  | dispatch found' =>
      exact ⟨fun h => congrArg Resolution.found (Decision.dispatch.inj h),
        fun h => congrArg Decision.dispatch (Resolution.found.inj h)⟩
  | redirect _ => exact iff_of_false (fun h => nomatch h) fun h => nomatch h
  | notFound _ => exact iff_of_false ((decline_ne r _ _ _).1 found) fun h => nomatch h
  | refuse methods _ => exact iff_of_false ((decline_ne r _ _ _).1 found) fun h => nomatch h

theorem redirect_iff (h : r.Decides m req res d) (target : String) (status : Nat) :
    d = .redirect target status ↔ res = .notFound ∧ r.Redirects m (.ofRequest req) ∧
      target = location req ∧ status = if req.method = "GET" then 301 else 308 := by
  cases h with
  | dispatch found => exact iff_of_false (fun h => nomatch h) fun h => nomatch h.1
  | redirect h =>
      constructor
      · intro heq
        obtain ⟨rfl, rfl⟩ := Decision.redirect.inj heq
        exact ⟨rfl, h, rfl, rfl⟩
      · rintro ⟨-, -, rfl, rfl⟩
        rfl
  | notFound h => exact iff_of_false ((decline_ne r _ _ _).2 target status) fun h' => h h'.2.1
  | refuse methods _ =>
      exact iff_of_false ((decline_ne r _ _ _).2 target status) fun h => nomatch h.1

/-- A decision that is neither for a route nor for another path. -/
theorem refused (h : r.Decides m req res d) (hoptions : r.config.handleOptions)
    (hmethods : r.config.handleMethodNotAllowed) (hpath : (Context.ofRequest req).path ≠ "*")
    (hfound : ∀ found, res ≠ .found found)
    (hredirect : ∀ target status, d ≠ .redirect target status) :
    (d = .notFound ↔ res = .notFound) ∧ ∀ methods, res = .methodNotAllowed methods →
      d = if req.method = "OPTIONS" then .options (addOptions methods)
        else .methodNotAllowed (addOptions methods) := by
  cases h with
  | dispatch found => exact absurd rfl (hfound found)
  | redirect _ => exact absurd rfl (hredirect _ _)
  | notFound _ =>
      rw [decline_nil r req.method hpath]
      exact ⟨iff_of_true rfl rfl, fun _ h => nomatch h⟩
  | refuse methods hne =>
      rw [decline_of_ne_nil hoptions hmethods req.method hpath hne]
      refine ⟨iff_of_false ?_ Resolution.noConfusion, fun methods' h => ?_⟩
      · split <;> intro h <;> cases h
      · rw [Resolution.methodNotAllowed.inj h]

/-- The methods that would do are listed only if there are any. -/
theorem methods_ne_nil (h : r.Decides m req res d) (methods : List String)
    (hres : res = .methodNotAllowed methods) : methods ≠ [] := by
  cases h with
  | refuse methods' hne => exact Resolution.methodNotAllowed.inj hres ▸ hne
  | dispatch _ | redirect _ | notFound _ => cases hres

end Decides

end Router

/-! ### Replies -/

namespace Router

/-- What the router replies itself with a status and one header: an error, if the header cannot be
sent. -/
structure IsHeaderReply (status : Nat) (name value : String) (reply : Reply) : Prop where
  sent    : isHeaderValue value → reply = .ok { status, headers := [(name, value)], body := "" }
  refused : ¬isHeaderValue value → reply = .error (.handler "failed to parse header value")

theorem isHeaderReply_headerReply (status : Nat) (name value : String) :
    IsHeaderReply status name value (headerReply status name value) where
  sent h    := if_pos h
  refused h := if_neg h

/-- The methods in an answer are those that would do, with `OPTIONS` after them unless it is one of
them. -/
theorem addOptions_of_ne_nil {methods : List String} (h : methods ≠ []) :
    addOptions methods =
      if "OPTIONS" ∈ methods then methods else methods ++ ["OPTIONS"] := by
  simp [addOptions, h]

end Router

/-! ### Sites -/

namespace Site

variable [Regex.Engine]

/-- What a site does with a request for one of its routes: it sends it through the middlewares of
the route to its handler, or says which one it does not know. -/
structure Runs (s : Site) (req : Request) (found : Matcher.Match) (route : Route) : Prop where
  resolved : ∀ handler middlewares,
    s.router.registry.resolveHandler s.router.config.resourceVerbs req.method route.handler =
      .ok handler →
    s.router.registry.resolveMiddlewares route.middlewares = .ok middlewares →
    ∃ job, (s.serve req).1 = .ok job ∧
      Pipeline.Carries middlewares handler { req with params? := some found.params } job
  noHandler : ∀ e,
    s.router.registry.resolveHandler s.router.config.resourceVerbs req.method route.handler =
      .error e → (s.serve req).1 = .error e
  noMiddleware : ∀ handler e,
    s.router.registry.resolveHandler s.router.config.resourceVerbs req.method route.handler =
      .ok handler →
    s.router.registry.resolveMiddlewares route.middlewares = .error e → (s.serve req).1 = .error e

/-- The answer to a request that goes to no route: that of the handler for such requests, or else
a reply at once. -/
structure Answers (s : Site) (req : Request) (handler? : Option Handler)
    (IsReply : Reply → Prop) : Prop where
  handled : ∀ h, handler? = some h → (s.serve req).1 = .ok (h req)
  replied : handler? = none → ∃ reply, (s.serve req).1 = .ok (.done reply) ∧ IsReply reply

/-- What a site answers that has decided so. -/
structure Replies (s : Site) (req : Request) (d : Decision) : Prop where
  redirect : ∀ target status, d = .redirect target status →
    s.Answers req none (Router.IsHeaderReply status "location" target)
  options  : ∀ allow, d = .options allow → s.Answers req s.router.globalOptions
    (Router.IsHeaderReply 200 "allow" (", ".intercalate allow))
  methodNotAllowed : ∀ allow, d = .methodNotAllowed allow →
    s.Answers req s.router.methodNotAllowed
      (Router.IsHeaderReply 405 "allow" (", ".intercalate allow))
  notFound : d = .notFound → s.Answers req s.router.notFound
    (· = .ok { status := 404, headers := [], body := "" })

/-- The answer to a request that is found no route and is not redirected, where the methods `allow`
are listed if only the method was in the way. -/
structure Refuses (s : Site) (req : Request) (res : Resolution) : Prop where
  notFound : res = .notFound → s.Answers req s.router.notFound
    (· = .ok { status := 404, headers := [], body := "" })
  options  : ∀ methods allow, res = .methodNotAllowed methods → req.method = "OPTIONS" →
    allow = (if "OPTIONS" ∈ methods then methods else methods ++ ["OPTIONS"]) →
    s.Answers req s.router.globalOptions
      (Router.IsHeaderReply 200 "allow" (", ".intercalate allow))
  methodNotAllowed : ∀ methods allow, res = .methodNotAllowed methods → req.method ≠ "OPTIONS" →
    allow = (if "OPTIONS" ∈ methods then methods else methods ++ ["OPTIONS"]) →
    s.Answers req s.router.methodNotAllowed
      (Router.IsHeaderReply 405 "allow" (", ".intercalate allow))

/-- Which answer a request gets, by what is found for it. -/
structure Serves (s : Site) (m : Matcher) (req : Request) (res : Resolution) (d : Decision) :
    Prop where
  lookup   : m.lookup (.ofRequest req) = .ok res
  decide   : s.router.decide m req = .ok d
  replies  : s.Replies req d
  /-- The request goes to a route just when one is found, -/
  dispatch : ∀ found, d = .dispatch found ↔ res = .found found
  /-- and then that route is run. -/
  runs     : ∀ found, res = .found found →
    ∃ route, s.router.collection.route? found.route = some route ∧ s.Runs req found route
  /-- It is redirected just when nothing is found, but for the other path, -/
  redirect : ∀ target status, d = .redirect target status ↔ res = .notFound ∧
    s.router.Redirects m (.ofRequest req) ∧ target = Router.location req ∧
    status = if req.method = "GET" then 301 else 308
  /-- which has its last slash taken away, or else a slash more, -/
  toggled  : (∃ stem, (Context.ofRequest req).path = stem ++ "/" ∧
      Router.toggleSlash (Context.ofRequest req).path = stem) ∨
    ((∀ stem, (Context.ofRequest req).path ≠ stem ++ "/") ∧
      Router.toggleSlash (Context.ofRequest req).path = (Context.ofRequest req).path ++ "/")
  /-- and for that path a route is found. -/
  followed : ∀ target status, d = .redirect target status → ∀ req', Context.ofRequest req' =
    (Context.ofRequest req).withPath (Router.toggleSlash (Context.ofRequest req).path) →
    ∃ found, m.lookup (.ofRequest req') = .ok (.found found) ∧
      s.router.decide m req' = .ok (.dispatch found)
  /-- Else it is not found just when nothing is; and it gets the methods that would do, if there are
  any. -/
  refused  : s.router.config.handleOptions → s.router.config.handleMethodNotAllowed →
    (Context.ofRequest req).path ≠ "*" → (∀ found, res ≠ .found found) →
    (∀ target status, d ≠ .redirect target status) →
    (d = .notFound ↔ res = .notFound) ∧ s.Refuses req res ∧
      ∀ methods, res = .methodNotAllowed methods →
        d = if req.method = "OPTIONS" then .options (Router.addOptions methods)
          else .methodNotAllowed (Router.addOptions methods)

variable {s : Site} {m : Matcher} {req : Request}

/-- A site without a file for its matcher compiles its routes when it is first asked. -/
theorem compile_of_new (hmemo : s.router.memo = none) (hpath : s.router.config.cachePath = none) :
    s.compile.1 = s.compileRoutes := by
  rw [compile, hmemo, obtain, hpath]
  cases s.compileRoutes <;> rfl

theorem serve_eq (hkept : s.compile.1 = .ok m) (req : Request) :
    (s.serve req).1 = s.router.answer m req := by
  simp only [serve, ask, hkept]
  rfl

/-- A request that is sent to its route. -/
theorem runs_of_dispatch {found : Matcher.Match} {route : Route}
    (hroute : s.router.collection.route? found.route = some route)
    (h : (s.serve req).1 = s.router.dispatch found req) : s.Runs req found route := by
  rw [Router.dispatch, hroute] at h
  constructor
  case resolved =>
    intro handler middlewares hhandler hmiddlewares
    refine ⟨_, ?_, Pipeline.carries_process ⟨middlewares⟩ handler _⟩
    simp only [h, hhandler, hmiddlewares]
    rfl
  case noHandler =>
    intro e hhandler
    simp only [h, hhandler]
    rfl
  case noMiddleware =>
    intro handler e hhandler hmiddlewares
    simp only [h, hhandler, hmiddlewares]
    rfl

/-- A matcher that the routes of a site compile to finds no other routes. -/
theorem exists_route (hcompiled : s.compileRoutes = .ok m) {found : Matcher.Match}
    (hfound : m.lookup (.ofRequest req) = .ok (.found found)) :
    ∃ route, s.router.collection.route? found.route = some route := by
  obtain ⟨compiled, runs, hmade⟩ := Collection.isMadeOf_of_compile hcompiled
  obtain ⟨res, hres, hknown, -⟩ :=
    (Matcher.isCounted_of_isMadeOf hmade).exists_lookup (.ofRequest req)
  have hrules : m.data.routes.length = compiled.length := by
    rw [hmade.data]
    exact List.length_map _
  have hlt : found.route < s.router.collection.routes.length := by
    rw [hmade.routes.length_eq, ← hrules]
    exact hknown found (Except.ok.inj (hres.symm.trans hfound))
  exact ⟨_, List.getElem?_eq_getElem hlt⟩

/-- A handler that is there for a request answers it, and else the reply is the answer. -/
theorem answers_of_handleOr {handler? : Option Handler} {reply : Reply} {IsReply : Reply → Prop}
    (hserve : (s.serve req).1 = .ok (Router.handleOr handler? req reply)) (hreply : IsReply reply) :
    s.Answers req handler? IsReply where
  handled := by
    rintro h rfl
    exact hserve
  replied := by
    rintro rfl
    exact ⟨reply, hserve, hreply⟩

/-- What is decided is carried out. -/
theorem replies_of_carryOut {d : Decision} (h : (s.serve req).1 = s.router.carryOut req d) :
    s.Replies req d where
  redirect := by
    rintro target status rfl
    exact answers_of_handleOr h (Router.isHeaderReply_headerReply _ _ _)
  options := by
    rintro allow rfl
    exact answers_of_handleOr h (Router.isHeaderReply_headerReply _ _ _)
  methodNotAllowed := by
    rintro allow rfl
    exact answers_of_handleOr h (Router.isHeaderReply_headerReply _ _ _)
  notFound := by
    rintro rfl
    exact answers_of_handleOr h rfl

/-- A request is refused as has been decided. -/
theorem Replies.refuses {res : Resolution} {d : Decision} (h : s.Replies req d)
    (hne : ∀ methods, res = .methodNotAllowed methods → methods ≠ [])
    (hnotFound : res = .notFound → d = .notFound)
    (hmethods : ∀ methods, res = .methodNotAllowed methods →
      d = if req.method = "OPTIONS" then .options (Router.addOptions methods)
        else .methodNotAllowed (Router.addOptions methods)) : s.Refuses req res where
  notFound hres := h.notFound (hnotFound hres)
  options := by
    intro methods allow hres hmethod hallow
    have hd := hmethods methods hres
    rw [if_pos hmethod, Router.addOptions_of_ne_nil (hne methods hres), ← hallow] at hd
    exact h.options allow hd
  methodNotAllowed := by
    intro methods allow hres hmethod hallow
    have hd := hmethods methods hres
    rw [if_neg hmethod, Router.addOptions_of_ne_nil (hne methods hres), ← hallow] at hd
    exact h.methodNotAllowed allow hd

/-- **The answer of a site.**  Take a site whose routes can be compiled, and which keeps what they
are compiled to.  Every request gets an answer by what is found for it. -/
theorem serves_of_compile (hcompiled : s.compileRoutes = .ok m) (hkept : s.compile.1 = .ok m)
    (req : Request) : ∃ res d, s.Serves m req res d := by
  obtain ⟨compiled, runs, hmade⟩ := Collection.isMadeOf_of_compile hcompiled
  have hm := Matcher.isCounted_of_isMadeOf hmade
  obtain ⟨res, d, hlookup, hdecide, -, hdecides⟩ := Router.exists_decides hm s.router req
  have hserve : (s.serve req).1 = s.router.carryOut req d := by
    rw [serve_eq hkept, Router.answer, hdecide]
    rfl
  have hreplies := replies_of_carryOut hserve
  refine ⟨res, d, hlookup, hdecide, hreplies, hdecides.dispatch_iff, ?_, hdecides.redirect_iff,
    Router.toggleSlash_cases _, ?_, ?_⟩
  · rintro found rfl
    obtain ⟨route, hroute⟩ := exists_route hcompiled hlookup
    rw [(hdecides.dispatch_iff found).2 rfl] at hserve
    exact ⟨route, hroute, runs_of_dispatch hroute hserve⟩
  · intro target status hd req' hreq'
    exact Router.decide_of_redirects ((hdecides.redirect_iff target status).1 hd).2.1 hreq'
  · intro hoptions hmethods hpath hfound hredirect
    obtain ⟨hnotFound, hallow⟩ := hdecides.refused hoptions hmethods hpath hfound hredirect
    exact ⟨hnotFound, hreplies.refuses hdecides.methods_ne_nil hnotFound.2 hallow, hallow⟩

end Site

/-! ### A site with a literal path and a variable -/

namespace Site

def sample : Site := { router := { collection := Collection.sample } }

theorem compileRoutes_sample : ∃ m, Matcher.ofData Collection.sampleData = .ok m ∧
    sample.compileRoutes = .ok m ∧ sample.compile.1 = .ok m := by
  have hsome : (Matcher.ofData Collection.sampleData).toOption.isSome := by
    decide +kernel
  obtain ⟨m, hm⟩ := Option.isSome_iff_exists.1 hsome
  have hdata := toOption_eq_some.1 hm
  have hcompiled : sample.compileRoutes = .ok m := Collection.compile_sample.trans hdata
  exact ⟨m, hdata, hcompiled, (compile_of_new rfl rfl).trans hcompiled⟩

theorem serves_sample :
    ∃ m res d, sample.compileRoutes = .ok m ∧ sample.compile.1 = .ok m ∧
      sample.Serves m ⟨"GET", { path := "/b/" }, [], none⟩ res d ∧ d = .redirect "/b" 301 ∧
      (sample.serve ⟨"GET", { path := "/b/" }, [], none⟩).1 =
        .ok (.done (.ok { status := 301, headers := [("location", "/b")] })) := by
  obtain ⟨m, hdata, hcompiled, hkept⟩ := compileRoutes_sample
  obtain ⟨res, d, hserves⟩ := serves_of_compile hcompiled hkept ⟨"GET", { path := "/b/" }, [], none⟩
  have hrun : ((Matcher.ofData Collection.sampleData).toOption.bind fun m =>
      (sample.router.decide m ⟨"GET", { path := "/b/" }, [], none⟩).toOption) =
        some (.redirect "/b" 301) := by
    decide +kernel
  rw [hdata] at hrun
  have hdecide := hserves.decide.symm.trans (toOption_eq_some.1 hrun)
  obtain rfl := Except.ok.inj hdecide
  obtain ⟨reply, hserve, hreply⟩ := (hserves.replies.redirect "/b" 301 rfl).replied rfl
  rw [hreply.sent (by decide)] at hserve
  exact ⟨m, res, _, hcompiled, hkept, hserves, rfl, hserve⟩

/-- **A route that is found need not be run**: its handler has no name in the registry. -/
theorem serve_unresolved :
    ∃ m found, sample.compileRoutes = .ok m ∧ sample.compile.1 = .ok m ∧
      m.lookup (.ofRequest ⟨"POST", { path := "/a" }, [], none⟩) = .ok (.found found) ∧
      (sample.serve ⟨"POST", { path := "/a" }, [], none⟩).1 =
        .error (.unresolvedHandler "literal") := by
  obtain ⟨m, hdata, hcompiled, hkept⟩ := compileRoutes_sample
  have hrun : ((Matcher.ofData Collection.sampleData).toOption.bind fun m =>
      (m.lookup (.ofRequest ⟨"POST", { path := "/a" }, [], none⟩)).toOption) =
        some (.found ⟨0, .empty⟩) := by
    decide +kernel
  rw [hdata] at hrun
  have hfound := toOption_eq_some.1 hrun
  have hdecide : sample.router.decide m ⟨"POST", { path := "/a" }, [], none⟩ =
      .ok (.dispatch ⟨0, .empty⟩) := by
    simp only [Router.decide, hfound]
    rfl
  refine ⟨m, ⟨0, .empty⟩, hcompiled, hkept, hfound, ?_⟩
  rw [serve_eq hkept, Router.answer, hdecide]
  rfl

end Site

end Signpost
