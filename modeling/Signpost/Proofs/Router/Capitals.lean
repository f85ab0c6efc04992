import Signpost.Pipeline.Script
import Signpost.Proofs.Collection.Groups
import Signpost.Proofs.Router.Decisions
import Signpost.Regex.Estimate

/-!
# Routers — the letter case of a method

The matcher reads a method in upper case, so what is found for a request does not depend on how its
method is spelled.  Three things read the method as it is written: the action of a resource, the
status of a redirection and the test for `OPTIONS`.  Requests whose spellings these read alike
(`Router.ReadsAlike`) take one branch; a resource without an action and a redirection tell other
spellings apart.

* `Site.serve_eq_branch`: an answer starts with the choice of a branch.
* `Site.branches_of_capitals`: when the spelling of a method does not change the branch.
* `Site.branch_of_smallLetters`: a method in small letters may have no action.
-/

namespace Signpost

open Matcher (Resolution)

/-- Whether two requests differ at most in the letter case of their methods. -/
structure Request.SameButCase (req req' : Request) : Prop where
  method : req'.method.toUpper = req.method.toUpper
  rest   : req' = { req with method := req'.method }

namespace Request.SameButCase

variable {req req' : Request}

theorem uri (h : req.SameButCase req') : req'.uri = req.uri := by
  rw [h.rest]

theorem host (h : req.SameButCase req') : req'.host = req.host := by
  rw [h.rest]
  rfl

theorem context (h : req.SameButCase req') : Context.ofRequest req' = Context.ofRequest req := by
  rw [Context.ofRequest, Context.ofRequest, Context.of, Context.of, h.method, h.uri, h.host]

end Request.SameButCase

/-! ### Branches -/

/-- What becomes of a request. -/
inductive Branch where
  /-- It goes through a chain to a handler, with what its path and its host have given. -/
  | run (found : Matcher.Match) (chain : List Middleware) (handler : Handler)
  /-- Something that its route refers to is missing. -/
  | miss (found : Matcher.Match) (e : Error)
  /-- A custom handler gets it. -/
  | custom (handler : Handler)
  /-- It gets an automatic reply. -/
  | automatic (reply : Reply)

namespace Branch

/-- What a request starts on a branch. -/
def start (req : Request) : Branch → Except Error (Job Reply)
  | run found chain handler =>
    .ok ((Pipeline.mk chain).process { req with params? := some found.params } handler)
  | miss _ e        => .error e
  | custom handler  => .ok (handler req)
  | automatic reply => .ok (pure reply)

/-- A custom handler, or else a reply. -/
def customOr (handler? : Option Handler) (reply : Reply) : Branch :=
  handler?.elim (automatic reply) custom

theorem start_customOr (req : Request) (handler? : Option Handler) (reply : Reply) :
    (customOr handler? reply).start req = .ok (Router.handleOr handler? req reply) := by
  cases handler? <;> rfl

end Branch

namespace Router

variable {r : Router} {m : Matcher} {req req' : Request}

/-- The chain and the handler that a route refers to, for a request with a method. -/
def resolve (r : Router) (method : String) (route : Route) :
    Except Error (List Middleware × Handler) := do
  let handler ← r.registry.resolveHandler r.config.resourceVerbs method route.handler
  let chain ← r.registry.resolveMiddlewares route.middlewares
  return (chain, handler)

/-- The branch of a request that is found a route. -/
def dispatchBranch (r : Router) (method : String) (found : Matcher.Match) : Branch :=
  match r.collection.route? found.route with
  | none       => .miss found (.badMatcher (.unknownRoute found.route))
  | some route =>
    match r.resolve method route with
    | .ok (chain, handler) => .run found chain handler
    | .error e             => .miss found e

/-- The branch that has been decided for a request. -/
def branchOf (r : Router) (method : String) : Decision → Branch
  | .dispatch found           => r.dispatchBranch method found
  | .redirect location status => .automatic (headerReply status "location" location)
  | .options allow            =>
    .customOr r.globalOptions (headerReply 200 "allow" (", ".intercalate allow))
  | .methodNotAllowed allow   =>
    .customOr r.methodNotAllowed (headerReply 405 "allow" (", ".intercalate allow))
  | .notFound                 => .customOr r.notFound (.ok { status := 404 })

/-- The branch that a request takes. -/
def branch (r : Router) (m : Matcher) (req : Request) : Except Error Branch :=
  (r.decide m req).map (r.branchOf req.method)

theorem carryOut_eq_start (r : Router) (req : Request) (d : Decision) :
    r.carryOut req d = (r.branchOf req.method d).start req := by
  cases d with
  | dispatch found =>
      rw [carryOut, branchOf, dispatch, dispatchBranch]
      cases r.collection.route? found.route with
      | none => rfl
      | some route =>
          simp only [resolve]
          cases r.registry.resolveHandler r.config.resourceVerbs req.method route.handler with
          | error e => rfl
          | ok handler =>
              cases r.registry.resolveMiddlewares route.middlewares with
              | error e => rfl
              | ok chain => rfl
  | redirect location status => rfl
  | options allow => exact (Branch.start_customOr ..).symm
  | methodNotAllowed allow => exact (Branch.start_customOr ..).symm
  | notFound => exact (Branch.start_customOr ..).symm

theorem answer_eq_branch (r : Router) (m : Matcher) (req : Request) :
    r.answer m req = (r.branch m req).bind (Branch.start req) := by
  rw [answer, branch]
  cases r.decide m req with
  | error e => rfl
  | ok d => exact carryOut_eq_start r req d

/-! ### Two requests side by side -/

/-- The methods that would do in place of the one that has been asked for. -/
def instead : Resolution → List String
  | .methodNotAllowed methods => methods
  | _                         => []

/-- What is decided for a method without a route, where `methods` would do and `target?` is the path
to redirect to. -/
def unfound (r : Router) (method : String) (uri : Uri) (path : String) (methods : List String)
    (target? : Option String) : Decision :=
  match target? with
  | some target => .redirect (target ++ uri.query.elim "" ("?" ++ ·))
      (if method = "GET" then 301 else 308)
  | none        => r.decline method path methods

/-- What is decided for two requests that differ in the case of their methods. -/
inductive DecidesBoth (r : Router) (m : Matcher) (req req' : Request) : Prop where
  | fault (e : Error) (first : r.decide m req = .error e) (second : r.decide m req' = .error e)
  | dispatch (found : Matcher.Match) (lookup : m.lookup (.ofRequest req) = .ok (.found found))
      (first : r.decide m req = .ok (.dispatch found))
      (second : r.decide m req' = .ok (.dispatch found))
  | unfound (res : Resolution) (target? : Option String)
      (lookup : m.lookup (.ofRequest req) = .ok res) (hne : ∀ found, res ≠ .found found)
      (first : r.decide m req = .ok
        (r.unfound req.method req.uri (Context.ofRequest req).path (instead res) target?))
      (second : r.decide m req' = .ok
        (r.unfound req'.method req.uri (Context.ofRequest req).path (instead res) target?))

theorem decide_eq (r : Router) (m : Matcher) (req : Request) :
    r.decide m req = (m.lookup (.ofRequest req)).bind fun
      | .found found => .ok (.dispatch found)
      | res          => (r.redirectOf? m (.ofRequest req) (instead res)).map
          (r.unfound req.method req.uri (Context.ofRequest req).path (instead res)) := by
  rw [decide]
  rcases m.lookup (.ofRequest req) with e | found | methods | _
  · rfl
  · rfl
  · simp only [instead, pure, Except.pure, bind, Except.bind]
    rcases r.redirectOf? m (.ofRequest req) methods with e | _ | target <;> rfl
  · simp only [instead, pure, Except.pure, bind, Except.bind]
    rcases r.redirectOf? m (.ofRequest req) [] with e | _ | target <;> rfl

theorem decide_of_found {found : Matcher.Match}
    (hfound : m.lookup (.ofRequest req) = .ok (.found found)) :
    r.decide m req = .ok (.dispatch found) := by
  rw [decide_eq, hfound]
  rfl

theorem decidesBoth (r : Router) (m : Matcher) (hcase : req.SameButCase req') :
    r.DecidesBoth m req req' := by
  have hfirst := decide_eq r m req
  have hsecond := decide_eq r m req'
  rw [hcase.context, hcase.uri] at hsecond
  cases hres : m.lookup (.ofRequest req) with
  | error e =>
      rw [hres] at hfirst hsecond
      exact .fault e hfirst hsecond
  | ok res =>
      rw [hres] at hfirst hsecond
      by_cases hfound : ∃ found, res = .found found
      · obtain ⟨found, rfl⟩ := hfound
        exact .dispatch found hres hfirst hsecond
      · rw [not_exists] at hfound
        have hbind : ∀ method, ((Except.ok res).bind fun
            | .found found => .ok (.dispatch found)
            | res          => (r.redirectOf? m (.ofRequest req) (instead res)).map
                (r.unfound method req.uri (Context.ofRequest req).path (instead res))) =
            (r.redirectOf? m (.ofRequest req) (instead res)).map
              (r.unfound method req.uri (Context.ofRequest req).path (instead res)) := by
          intro method
          cases res with
          | found found => exact absurd rfl (hfound found)
          | methodNotAllowed methods | notFound => rfl
        rw [hbind] at hfirst hsecond
        cases htarget : r.redirectOf? m (.ofRequest req) (instead res) with
        | error e =>
            rw [htarget] at hfirst hsecond
            exact .fault e hfirst hsecond
        | ok target? =>
            rw [htarget] at hfirst hsecond
            exact .unfound res target? hres hfound hfirst hsecond

/-! ### Spellings that are read alike -/

/-- Whether the spellings of the methods of two requests are read alike where they are read as they
are written. -/
structure ReadsAlike (r : Router) (m : Matcher) (req req' : Request) : Prop where
  /-- If the route is a resource, they have the same action, -/
  action   : ∀ found route target, m.lookup (.ofRequest req) = .ok (.found found) →
    r.collection.route? found.route = some route → route.handler = .resource target →
    req'.method = req.method ∨ ∃ action, r.config.resourceVerbs.get? req.method = some action ∧
      r.config.resourceVerbs.get? req'.method = some action
  /-- if there is a redirection, both or neither of them ask for `GET`, -/
  redirect : ∀ location status, r.decide m req = .ok (.redirect location status) →
    (req'.method = "GET" ↔ req.method = "GET")
  /-- and if other methods would do, both or neither of them ask for `OPTIONS`. -/
  options  : ∀ res, m.lookup (.ofRequest req) = .ok res → (∀ found, res ≠ .found found) →
    r.config.handleOptions → instead res ≠ [] ∨ (Context.ofRequest req).path = "*" →
    (req'.method = "OPTIONS" ↔ req.method = "OPTIONS")

theorem decline_congr {method method' path : String} {methods : List String}
    (h : r.config.handleOptions → methods ≠ [] ∨ path = "*" →
      (method' = "OPTIONS" ↔ method = "OPTIONS")) :
    r.decline method' path methods = r.decline method path methods := by
  by_cases hallow : methods ≠ [] ∨ path = "*"
  · have hoptions : (method' = "OPTIONS" ∧ r.config.handleOptions) ↔
        (method = "OPTIONS" ∧ r.config.handleOptions) :=
      and_congr_left fun henabled => h henabled hallow
    simp only [decline, hoptions]
  · obtain ⟨hnil, hpath⟩ := not_or.1 hallow
    obtain rfl := not_not.1 hnil
    rw [decline_nil r method' hpath, decline_nil r method hpath]

/-- The same handler is referred to, unless the action of a resource has to be known. -/
theorem resolve_congr {method method' : String} {route : Route}
    (h : ∀ target, route.handler = .resource target → method' = method ∨
      ∃ action, r.config.resourceVerbs.get? method = some action ∧
        r.config.resourceVerbs.get? method' = some action) :
    r.resolve method' route = r.resolve method route := by
  have hhandler : r.registry.resolveHandler r.config.resourceVerbs method' route.handler =
      r.registry.resolveHandler r.config.resourceVerbs method route.handler := by
    cases href : route.handler with
    | callable handler => rfl
    | named name => rfl
    | resource target =>
        rcases h target href with rfl | ⟨action, haction, haction'⟩
        · rfl
        · simp only [Registry.resolveHandler, haction, haction']
  rw [resolve, resolve, hhandler]

theorem branchOf_decline (r : Router) (method method' path : String) (methods : List String) :
    r.branchOf method' (r.decline method path methods) =
      r.branchOf method (r.decline method path methods) := by
  rcases decline_cases r method path methods with hd | ⟨allow, hd⟩ | ⟨allow, hd⟩ <;> rw [hd] <;> rfl

theorem branch_of_readsAlike (hcase : req.SameButCase req') (h : r.ReadsAlike m req req') :
    r.branch m req' = r.branch m req := by
  rw [branch, branch]
  rcases decidesBoth r m hcase with
    ⟨e, hfirst, hsecond⟩ | ⟨found, hlookup, hfirst, hsecond⟩ |
      ⟨res, target?, hlookup, hne, hfirst, hsecond⟩ <;> rw [hfirst, hsecond]
  case fault => rfl
  case dispatch =>
    refine congrArg Except.ok ?_
    rw [branchOf, branchOf, dispatchBranch, dispatchBranch]
    cases hroute : r.collection.route? found.route with
    | none => rfl
    | some route =>
        have hresolve := resolve_congr fun target => h.action found route target hlookup hroute
        simp only [hresolve]
  case unfound =>
    refine congrArg Except.ok ?_
    cases target? with
    | none =>
        have hdecline := decline_congr (h.options res hlookup hne)
        rw [unfound, unfound, hdecline]
        exact branchOf_decline ..
    | some target =>
        have hget := h.redirect _ _ hfirst
        simp only [unfound, hget]
        rfl

/-! ### Spellings that are told apart -/

theorem status_headerReply_inj {status status' : Nat} {name value : String}
    (hvalue : isHeaderValue value) (h : headerReply status name value =
      headerReply status' name value) : status = status' := by
  rw [headerReply, headerReply, if_pos hvalue, if_pos hvalue] at h
  exact congrArg Response.status (Except.ok.inj h)

/-- Of two spellings of `GET`, only the one in capitals is redirected as such. -/
theorem branch_ne_of_redirect (hcase : req.SameButCase req') {location : String} {status : Nat}
    (hdecide : r.decide m req = .ok (.redirect location status)) (hvalue : isHeaderValue location)
    (hget : ¬(req'.method = "GET" ↔ req.method = "GET")) : r.branch m req' ≠ r.branch m req := by
  rw [branch, branch]
  rcases decidesBoth r m hcase with
    ⟨e, hfirst, hsecond⟩ | ⟨found, hlookup, hfirst, hsecond⟩ |
      ⟨res, _ | target, hlookup, hne, hfirst, hsecond⟩
  · cases hfirst.symm.trans hdecide
  · cases hfirst.symm.trans hdecide
  · exact absurd (Except.ok.inj (hfirst.symm.trans hdecide))
      ((decline_ne r _ _ _).2 location status)
  · obtain ⟨rfl, -⟩ := Decision.redirect.inj (Except.ok.inj (hfirst.symm.trans hdecide))
    rw [hfirst, hsecond]
    intro heq
    have hstatus := status_headerReply_inj hvalue (Branch.automatic.inj (Except.ok.inj heq))
    by_cases hmethod : req.method = "GET" <;> by_cases hmethod' : req'.method = "GET"
    · exact hget (iff_of_true hmethod' hmethod)
    · rw [if_pos hmethod, if_neg hmethod'] at hstatus
      cases hstatus
    · rw [if_neg hmethod, if_pos hmethod'] at hstatus
      cases hstatus
    · exact hget (iff_of_false hmethod' hmethod)

theorem resolveMiddlewares_ne_error (g : Registry) (ms : List MiddlewareRef) (name : String) :
    g.resolveMiddlewares ms ≠ .error (.unresolvedHandler name) := by
  intro h
  rw [Registry.resolveMiddlewares] at h
  obtain ⟨ref, -, href⟩ := exists_of_mapM_eq_error h
  cases ref with
  | direct m => cases href
  | named name' =>
      rw [Registry.resolveMiddleware] at href
      split at href <;> cases href

theorem noAction_ne (target action method : String) :
    s!"{target}@{action}" ≠ s!"{target} (no action for {method})" := by
  intro h
  have htexts := congrArg String.toList h
  simp only [String.toList_append, List.append_assoc, List.append_cancel_left_eq] at htexts
  exact absurd (List.cons.inj htexts).1 (by decide)

theorem noAction_inj {target method other : String}
    (h : s!"{target} (no action for {other})" = s!"{target} (no action for {method})") :
    other = method := by
  have htexts := congrArg String.toList h
  simp only [String.toList_append, List.append_assoc, List.append_cancel_left_eq,
    List.append_cancel_right_eq] at htexts
  exact String.toList_injective htexts

/-- Another method never misses a handler in the words for a method without an action. -/
theorem resolve_ne_noAction {method method' target : String} {route : Route}
    (hresource : route.handler = .resource target) (hmethod : method' ≠ method) :
    r.resolve method' route ≠
      .error (.unresolvedHandler s!"{target} (no action for {method})") := by
  intro h
  rw [resolve, hresource, Registry.resolveHandler] at h
  cases hverb : r.config.resourceVerbs.get? method' with
  | none =>
      simp only [hverb] at h
      exact hmethod (noAction_inj (Error.unresolvedHandler.inj (Except.error.inj h)))
  | some action =>
      simp only [hverb, Registry.namedHandler] at h
      cases hhandler : r.registry.handlers.get? s!"{target}@{action}" with
      | none =>
          simp only [hhandler] at h
          exact noAction_ne _ _ _ (Error.unresolvedHandler.inj (Except.error.inj h))
      | some handler =>
          simp only [hhandler] at h
          cases hchain : r.registry.resolveMiddlewares route.middlewares with
          | ok chain =>
              rw [hchain] at h
              cases h
          | error e =>
              rw [hchain] at h
              obtain rfl := Except.error.inj h
              exact resolveMiddlewares_ne_error _ _ _ hchain

/-- A spelling without an action is told apart from every other one. -/
theorem branch_ne_of_action (hcase : req.SameButCase req') {found : Matcher.Match} {route : Route}
    {target : String} (hfound : m.lookup (.ofRequest req) = .ok (.found found))
    (hroute : r.collection.route? found.route = some route)
    (hresource : route.handler = .resource target) (hmethod : req'.method ≠ req.method)
    (hverb : r.config.resourceVerbs.get? req.method = none) :
    r.branch m req' ≠ r.branch m req := by
  have hmissed : r.resolve req.method route =
      .error (.unresolvedHandler s!"{target} (no action for {req.method})") := by
    simp only [resolve, hresource, Registry.resolveHandler, hverb]
    rfl
  have hfirst := decide_of_found (r := r) hfound
  have hsecond := decide_of_found (r := r) ((congrArg m.lookup hcase.context).trans hfound)
  rw [branch, branch, hfirst, hsecond]
  intro heq
  have hbranch : r.dispatchBranch req'.method found = r.dispatchBranch req.method found :=
    Except.ok.inj heq
  simp only [dispatchBranch, hroute, hmissed] at hbranch
  cases hresolve : r.resolve req'.method route with
  | ok resolved =>
      simp only [hresolve] at hbranch
      cases hbranch
  | error e =>
      simp only [hresolve] at hbranch
      rw [(Branch.miss.inj hbranch).2] at hresolve
      exact resolve_ne_noAction hresource hmethod hresolve

end Router

/-! ### Sites -/

namespace Site

variable {s : Site} {m : Matcher} {req req' : Request}

/-- The branch that a request takes, if there is a matcher. -/
def branch [Regex.Engine] (s : Site) (req : Request) : Except Error Branch :=
  s.compile.1.bind fun m => s.router.branch m req

theorem serve_eq_branch [Regex.Engine] (s : Site) (req : Request) :
    (s.serve req).1 = (s.branch req).bind (Branch.start req) := by
  cases hkept : s.compile.1 with
  | error e =>
      simp only [serve, ask, branch, hkept]
      rfl
  | ok m =>
      rw [serve_eq hkept, branch, hkept]
      exact Router.answer_eq_branch s.router m req

theorem branch_of_compile [Regex.Engine] (hkept : s.compile.1 = .ok m) (req : Request) :
    s.branch req = s.router.branch m req := by
  rw [branch, hkept]
  rfl

/-- What the letter case of a method changes for a site. -/
structure TellsApart [Regex.Engine] (s : Site) (m : Matcher) (req req' : Request) : Prop where
  /-- The same is found for either spelling, -/
  lookup   : m.lookup (.ofRequest req') = m.lookup (.ofRequest req)
  /-- and if the spellings are read alike, the same branch is taken. -/
  alike    : s.router.ReadsAlike m req req' → s.branch req' = s.branch req
  /-- Another branch is taken for a resource that has no action for the one, -/
  action   : ∀ found route target, m.lookup (.ofRequest req) = .ok (.found found) →
    s.router.collection.route? found.route = some route → route.handler = .resource target →
    req'.method ≠ req.method → s.router.config.resourceVerbs.get? req.method = none →
    s.branch req' ≠ s.branch req
  /-- and for a redirection if just one of the two asks for `GET`. -/
  redirect : ∀ location status, s.router.decide m req = .ok (.redirect location status) →
    isHeaderValue location → ¬(req'.method = "GET" ↔ req.method = "GET") →
    s.branch req' ≠ s.branch req

/-- **The letter case of a method.**  A site answers a request by its branch.  Take two requests
that differ only in the letter case of their methods.  Both fail if there is no matcher.  Else the
same is found for both, and they take one branch unless the action of a resource, the status of a
redirection or the test for `OPTIONS` tells the spellings apart. -/
theorem branches_of_capitals [Regex.Engine] (s : Site) (hcase : req.SameButCase req') :
    (s.serve req).1 = (s.branch req).bind (Branch.start req) ∧
    (s.serve req').1 = (s.branch req').bind (Branch.start req') ∧
    (∀ e, s.compile.1 = .error e → s.branch req = .error e ∧ s.branch req' = .error e) ∧
    ∀ m, s.compile.1 = .ok m → s.TellsApart m req req' := by
  refine ⟨serve_eq_branch s req, serve_eq_branch s req', fun e he => ?_, fun m hkept => ?_⟩
  · rw [branch, branch, he]
    exact ⟨rfl, rfl⟩
  · constructor
    case lookup => rw [hcase.context]
    all_goals rw [branch_of_compile hkept, branch_of_compile hkept]
    case alike => exact Router.branch_of_readsAlike hcase
    case action =>
      intro found route target hfound hroute hresource hmethod hverb
      exact Router.branch_ne_of_action hcase hfound hroute hresource hmethod hverb
    case redirect =>
      intro location status hdecide hvalue hget
      exact Router.branch_ne_of_redirect hcase hdecide hvalue hget

/-- A request for a path, without headers. -/
def plain (method path : String) : Request := ⟨method, { path }, [], none⟩

theorem sameButCase_plain {method method' : String}
    (h : method'.toList.map Char.toUpper = method.toList.map Char.toUpper) (path : String) :
    (plain method path).SameButCase (plain method' path) := by
  refine ⟨?_, rfl⟩
  rw [← String.toList_inj]
  exact (String.toList_map).trans (h.trans String.toList_map.symm)

/-- Two spellings of `POST` at the path of a redirection. -/
theorem branch_sample :
    let req := plain "POST" "/a/"
    let req' := plain "post" "/a/"
    ∃ m, sample.compile.1 = .ok m ∧ req.SameButCase req' ∧ sample.router.ReadsAlike m req req' ∧
      sample.branch req' = sample.branch req ∧
      sample.branch req =
        .ok (.automatic (.ok { status := 308, headers := [("location", "/a")] })) := by
  intro req req'
  obtain ⟨m, hdata, -, hkept⟩ := compileRoutes_sample
  have hcase : req.SameButCase req' := sameButCase_plain (by decide) "/a/"
  have hrun : ((Matcher.ofData Collection.sampleData).toOption.bind fun m =>
      (sample.router.decide m (plain "POST" "/a/")).toOption.bind fun d =>
        (m.lookup (.ofRequest (plain "POST" "/a/"))).toOption.map fun res => (d, res)) =
      some (.redirect "/a" 308, .notFound) := by
    decide +kernel
  rw [hdata] at hrun
  change ((sample.router.decide m req).toOption.bind fun d =>
    (m.lookup (.ofRequest req)).toOption.map fun res => (d, res)) = _ at hrun
  obtain ⟨d, hd, hrun⟩ := Option.bind_eq_some_iff.1 hrun
  obtain ⟨res, hres, heq⟩ := Option.map_eq_some_iff.1 hrun
  obtain ⟨rfl, rfl⟩ := Prod.mk.inj heq
  have hdecide := toOption_eq_some.1 hd
  have hlookup := toOption_eq_some.1 hres
  have halike : sample.router.ReadsAlike m req req' := by
    constructor
    case action =>
      intro found route target hfound
      cases hlookup.symm.trans hfound
    case redirect => exact fun _ _ _ => by decide
    case options =>
      intro res hres _ _ hinstead
      obtain rfl := Except.ok.inj (hlookup.symm.trans hres)
      exact absurd hinstead (by decide)
  refine ⟨m, hkept, hcase, halike,
    ((branches_of_capitals sample hcase).2.2.2 m hkept).alike halike, ?_⟩
  rw [branch_of_compile hkept, Router.branch, hdecide]
  rfl

/-! ### A resource -/

def resourceRoute : Route := { path := "/a", methods := ["GET"], handler := .resource "photos" }

/-- A site with a resource, for which one action is registered. -/
def resource : Site := { router := {
  collection := { routes := [resourceRoute] }
  registry   := { handlers := .ofList [("photos@get", Script.handler { id := "photos" })] } } }

def resourceData : Matcher.Data where
  staticPaths := Dict.empty.insert "/a" [0]
  chunks := []
  leaves := []
  routes := [⟨["GET"], [], none, .empty⟩]
  sizeLimit := Regex.defaultSizeLimit

theorem compileRoutes_resource : resource.compileRoutes = Matcher.ofData resourceData := by
  have hcompile : resourceRoute.compile =
      .ok ⟨some "/a", [.char '/', .char 'a'], "/a", [], ⟨["GET"], [], none, .empty⟩⟩ :=
    Route.compile_of_literal _ (by decide) rfl rfl rfl rfl
  have hroutes : Collection.compileRoutes [] resource.router.collection.routes = .ok [
      (resourceRoute,
        ⟨some "/a", [.char '/', .char 'a'], "/a", [], ⟨["GET"], [], none, .empty⟩⟩)] :=
    Collection.compileRoutes_cons hcompile rfl
  exact Collection.compile_eq_ofData rfl hroutes (Collection.matcherData_of_literal {} (by simp))

/-- **A method in small letters may have no action.**  The route is found for it, but only in
capitals does the request reach a handler. -/
theorem branch_of_smallLetters :
    let req := plain "GET" "/a"
    let req' := plain "get" "/a"
    req.SameButCase req' ∧
      resource.branch req = .ok (.run ⟨0, .empty⟩ [] (Script.handler { id := "photos" })) ∧
      resource.branch req' = .ok
        (.miss ⟨0, .empty⟩ (.unresolvedHandler "photos (no action for get)")) := by
  intro req req'
  have hcase : req.SameButCase req' := sameButCase_plain (by decide) "/a"
  have hrun : ((Matcher.ofData resourceData).toOption.bind fun m =>
      (m.lookup (.ofRequest (plain "GET" "/a"))).toOption) = some (.found ⟨0, .empty⟩) := by
    decide +kernel
  obtain ⟨m, hm, hfound⟩ := Option.bind_eq_some_iff.1 hrun
  have hkept : resource.compile.1 = .ok m :=
    (compile_of_new rfl rfl).trans (compileRoutes_resource.trans (toOption_eq_some.1 hm))
  have hfound := toOption_eq_some.1 hfound
  have hfound' := (congrArg m.lookup hcase.context).trans hfound
  rw [branch_of_compile hkept, branch_of_compile hkept, Router.branch, Router.branch,
    Router.decide_of_found hfound, Router.decide_of_found hfound']
  exact ⟨hcase, rfl, rfl⟩

end Site

end Signpost
