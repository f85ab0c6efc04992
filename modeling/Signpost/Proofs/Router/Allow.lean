import Signpost.Proofs.Matcher.Methods
import Signpost.Proofs.Pattern.Grammar
import Signpost.Proofs.Router.Decisions
import Signpost.Regex.Estimate

/-!
# Routers — the methods in an answer

A request that is refused for its method is told which methods would do.  The list is the same for
all methods that would not, and so are the answers to them: that to an `OPTIONS` request, and that
to any other one.

The path `*` is left out, for it stands for the server as a whole: an `OPTIONS` request for it gets
the methods of all routes.

* `Router.exists_of_decide`: what a decision is made of.
* `Router.allows_of_agrees`: the methods in an answer do not depend on the one that was asked for.
* `Site.allows_of_starred`: the path `*`.
-/

namespace Signpost

open Matcher (Resolution Tally)

theorem Context.agrees_ofRequest (req : Request) (method : String) :
    (ofRequest req).Agrees (ofRequest { req with method }) := ⟨rfl, rfl, rfl⟩

/-! ### What a decision is made of -/

namespace Matcher

/-- The methods that a resolution lists. -/
def Resolution.methods : Resolution → List String
  | .methodNotAllowed methods => methods
  | _                         => []

end Matcher

namespace Router

variable {r : Router} {m : Matcher} {req req' : Request} {allow allow' : List String}

/-- **What a decision is made of**: a route, another path, or the methods that would do. -/
theorem exists_of_decide {d : Decision} (h : r.decide m req = .ok d) :
    ∃ res, m.lookup (.ofRequest req) = .ok res ∧
      ((∃ found, d = .dispatch found) ∨ (∃ location status, d = .redirect location status) ∨
        d = r.decline req.method (Context.ofRequest req).path res.methods) := by
  obtain ⟨res, hres, h⟩ := bind_eq_ok.1 h
  refine ⟨res, hres, ?_⟩
  cases res with
  | found found => exact .inl ⟨found, (Except.ok.inj h).symm⟩
  | methodNotAllowed _ | notFound =>
      refine .inr ?_
      obtain ⟨allowed, hallowed, h⟩ := bind_eq_ok.1 h
      obtain rfl := Except.ok.inj hallowed
      obtain ⟨target?, -, h⟩ := bind_eq_ok.1 h
      cases target? with
      | some path => exact .inl ⟨_, _, (Except.ok.inj h).symm⟩
      | none => exact .inr (Except.ok.inj h).symm

theorem eq_of_decline_options {method path : String} {methods : List String}
    (h : r.decline method path methods = .options allow) :
    allow ≠ [] ∧ allow = addOptions (if path = "*" then r.declaredMethods else methods) := by
  rw [decline] at h
  by_cases hoptions : method = "OPTIONS" ∧ r.config.handleOptions
  · simp only [if_pos hoptions] at h
    by_cases hempty : (addOptions (if path = "*" then r.declaredMethods else methods)).isEmpty
    · cases h.symm.trans (if_pos hempty)
    · obtain rfl := Decision.options.inj (h.symm.trans (if_neg hempty))
      exact ⟨fun hnil => hempty (List.isEmpty_iff.2 hnil), rfl⟩
  · rw [if_neg hoptions] at h
    split at h
    all_goals cases h

theorem eq_of_decline_methodNotAllowed {method path : String} {methods : List String}
    (h : r.decline method path methods = .methodNotAllowed allow) :
    methods ≠ [] ∧ allow = if r.config.handleOptions then addOptions methods else methods := by
  rw [decline] at h
  by_cases hoptions : method = "OPTIONS" ∧ r.config.handleOptions
  · simp only [if_pos hoptions] at h
    by_cases hempty : (addOptions (if path = "*" then r.declaredMethods else methods)).isEmpty
    · cases h.symm.trans (if_pos hempty)
    · cases h.symm.trans (if_neg hempty)
  · rw [if_neg hoptions] at h
    split at h
    case isTrue hsome => exact ⟨hsome.2, (Decision.methodNotAllowed.inj h).symm⟩
    case isFalse => cases h

theorem exists_of_decide_options (hpath : (Context.ofRequest req).path ≠ "*")
    (h : r.decide m req = .ok (.options allow)) :
    ∃ methods, m.lookup (.ofRequest req) = .ok (.methodNotAllowed methods) ∧
      allow = addOptions methods := by
  obtain ⟨res, hres, ⟨found, heq⟩ | ⟨location, status, heq⟩ | heq⟩ := exists_of_decide h
  · cases heq
  · cases heq
  · obtain ⟨hne, hallow⟩ := eq_of_decline_options heq.symm
    rw [if_neg hpath] at hallow
    cases res with
    | methodNotAllowed methods => exact ⟨methods, hres, hallow⟩
    | found _ | notFound => exact absurd hallow hne

theorem exists_of_decide_methodNotAllowed (h : r.decide m req = .ok (.methodNotAllowed allow)) :
    ∃ methods, m.lookup (.ofRequest req) = .ok (.methodNotAllowed methods) ∧
      allow = if r.config.handleOptions then addOptions methods else methods := by
  obtain ⟨res, hres, ⟨found, heq⟩ | ⟨location, status, heq⟩ | heq⟩ := exists_of_decide h
  · cases heq
  · cases heq
  · obtain ⟨hne, hallow⟩ := eq_of_decline_methodNotAllowed heq.symm
    cases res with
    | methodNotAllowed methods => exact ⟨methods, hres, hallow⟩
    | found _ | notFound => exact absurd rfl hne

/-- What answers a request with methods in the place of a route. -/
def allowReply (status : Nat) (allow : List String) : Reply :=
  headerReply status "allow" (", ".intercalate allow)

/-- **The methods in an answer do not depend on the method that was asked for.**  Whatever the
matcher, requests that differ in their methods alone are refused with the same methods in the same
order, or found, and one is not found just when the other is not.  So the answer of a router to an
`OPTIONS` request and that to a request that it refuses for its method, both for one path other than
`*`, have the same header. -/
theorem allows_of_agrees (r : Router) (m : Matcher) :
    (∀ c c' : Context, c.Agrees c' →
      (∀ methods, m.lookup c = .ok (.methodNotAllowed methods) →
        (∃ found, m.lookup c' = .ok (.found found)) ∨
          m.lookup c' = .ok (.methodNotAllowed methods)) ∧
      (m.lookup c = .ok .notFound → m.lookup c' = .ok .notFound)) ∧
    (r.config.handleOptions → r.globalOptions = none → r.methodNotAllowed = none →
      ∀ req req' : Request, (Context.ofRequest req).Agrees (.ofRequest req') →
        (Context.ofRequest req).path ≠ "*" →
        ∀ allow allow', r.decide m req = .ok (.options allow) →
          r.decide m req' = .ok (.methodNotAllowed allow') →
          r.answer m req = .ok (pure (allowReply 200 allow)) ∧
            r.answer m req' = .ok (pure (allowReply 405 allow))) := by
  refine ⟨fun c c' hagrees => ⟨fun methods h => Matcher.methodNotAllowed_of_agrees hagrees h,
    fun h => Matcher.notFound_of_agrees hagrees h⟩, ?_⟩
  intro hoptions hglobal hcustom req req' hagrees hpath allow allow' h h'
  obtain ⟨methods, hlookup, rfl⟩ := exists_of_decide_options hpath h
  obtain ⟨methods', hlookup', rfl⟩ := exists_of_decide_methodNotAllowed h'
  obtain rfl : methods = methods' := by
    rcases Matcher.methodNotAllowed_of_agrees hagrees hlookup with ⟨found, hfound⟩ | hsame
    · cases hfound.symm.trans hlookup'
    · exact Resolution.methodNotAllowed.inj (Except.ok.inj (hsame.symm.trans hlookup'))
  rw [if_pos hoptions] at h'
  refine ⟨?_, ?_⟩
  · have hreply : handleOr r.globalOptions req (allowReply 200 (addOptions methods)) =
        pure (allowReply 200 (addOptions methods)) := by rw [hglobal]; rfl
    rw [answer, h]
    exact congrArg Except.ok hreply
  · have hreply : handleOr r.methodNotAllowed req' (allowReply 405 (addOptions methods)) =
        pure (allowReply 405 (addOptions methods)) := by rw [hcustom]; rfl
    rw [answer, h']
    exact congrArg Except.ok hreply

theorem allows_of_sample : ∃ m, Collection.sample.compile {} = .ok m ∧
    ((∃ found, m.lookup (.of "GET" "/a") = .ok (.found found)) ∨
      m.lookup (.of "GET" "/a") = .ok (.methodNotAllowed ["POST", "GET"])) ∧
    m.lookup (.of "GET" "/a/b") = .ok .notFound ∧
    Site.sample.router.answer m ⟨"OPTIONS", { path := "/a" }, [], none⟩ =
      .ok (pure (allowReply 200 ["POST", "GET", "OPTIONS"])) ∧
    Site.sample.router.answer m ⟨"PUT", { path := "/a" }, [], none⟩ =
      .ok (pure (allowReply 405 ["POST", "GET", "OPTIONS"])) := by
  have hrun : ((Matcher.ofData Collection.sampleData).toOption.map fun m =>
      ((m.lookup (.of "PUT" "/a")).toOption, (m.lookup (.of "PUT" "/a/b")).toOption,
        (Site.sample.router.decide m ⟨"OPTIONS", { path := "/a" }, [], none⟩).toOption,
        (Site.sample.router.decide m ⟨"PUT", { path := "/a" }, [], none⟩).toOption)) =
      some (some (.methodNotAllowed ["POST", "GET"]), some .notFound,
        some (.options ["POST", "GET", "OPTIONS"]),
        some (.methodNotAllowed ["POST", "GET", "OPTIONS"])) := by
    decide +kernel
  obtain ⟨m, hm, hrun⟩ := Option.map_eq_some_iff.1 hrun
  simp only [Prod.mk.injEq, toOption_eq_some] at hrun
  obtain ⟨hrefused, hmissing, hoptions, hput⟩ := hrun
  have hcompile : Collection.sample.compile {} = .ok m :=
    Collection.compile_sample.trans (toOption_eq_some.1 hm)
  obtain ⟨hlookup, hreplies⟩ := allows_of_agrees Site.sample.router m
  have hpath : ∀ method method' path,
      (Context.of method path).Agrees (.of method' path) := fun _ _ _ => ⟨rfl, rfl, rfl⟩
  have hreply := hreplies rfl rfl rfl _ _ (Context.agrees_ofRequest
    ⟨"OPTIONS", { path := "/a" }, [], none⟩ "PUT") (by decide +kernel) _ _ hoptions hput
  exact ⟨m, hcompile, (hlookup _ _ (hpath "PUT" "GET" "/a")).1 _ hrefused,
    (hlookup _ _ (hpath "PUT" "GET" "/a/b")).2 hmissing, hreply.1, hreply.2⟩

end Router

/-! ### The path of the server -/

namespace Site

/-- A site whose first route matches `*`, for its constraint leaves the parentheses around it. -/
def starred : Site := { router := { collection := { routes := [
  { path := "/{x:a)|([*]}", methods := ["GET"], handler := .named "star" },
  { path := "/y", methods := ["POST"], handler := .named "plain" }] } } }

def starredAtoms : List Atom := [.char '/', .ofVariable "x" "a)|([*]" 1]

def starredData : Matcher.Data where
  staticPaths := Dict.empty.insert "/y" [1]
  chunks := [⟨"^(?:/(a)|([*])())$", 1⟩]
  leaves := [⟨3, [⟨"x", 1⟩], "^(?:/(a)|([*])())$", [⟨"x", 1⟩], [0]⟩]
  routes := [⟨["GET"], [], none, .empty⟩, ⟨["POST"], [], none, .empty⟩]
  sizeLimit := Regex.defaultSizeLimit

theorem parse_star : Pattern.parse "/{x:a)|([*]}" =
    .ok ⟨"/{x:a)|([*]}", [.text "/", .var "x" (some "a)|([*]") none]⟩ := by
  have hvariable : Token.IsVariable "x" (some "a)|([*]") none :=
    ⟨by decide, by simp, by simp [splitDefault], by simp⟩
  exact Pattern.parse_of_isRendering
    ⟨.segment hvariable .nil, by simp [PatternReader.namesOf, Token.vars]⟩
    (.text "/" (.var (.constrained "a)|([*]") (by decide) .nil))

theorem compile_star : Route.compile
    { path := "/{x:a)|([*]}", methods := ["GET"], handler := .named "star" } =
      .ok ⟨none, starredAtoms, "/(a)|([*])", ["x"], ⟨["GET"], [], none, .empty⟩⟩ := by
  have hcheck : Pattern.checkConstraint "/{x:a)|([*]}" "x" "a)|([*]" = .ok 1 := by
    have h : (Pattern.checkConstraint "/{x:a)|([*]}" "x" "a)|([*]").toOption = some 1 := by
      decide +kernel
    exact toOption_eq_some.1 h
  have hatoms : (Pattern.mk "/{x:a)|([*]}" [.text "/", .var "x" (some "a)|([*]") none]).atoms
      pathSegment .empty = .ok starredAtoms :=
    Pattern.atoms_eq_ok.2 ⟨_, .cons (Pattern.tokenAtoms_text _)
      (.cons (Pattern.tokenAtoms_var.2 ⟨1, hcheck, rfl⟩) .nil), rfl⟩
  rw [Route.compile_of_atoms
    { path := "/{x:a)|([*]}", methods := ["GET"], handler := .named "star" }
    ⟨"/{x:a)|([*]}", [.text "/", .var "x" (some "a)|([*]") none]⟩ starredAtoms (by decide) rfl rfl
    parse_star hatoms]
  simp [Route.Patterns.defaults, Pattern.defaults, Pattern.vars, Token.vars]
  decide

theorem compile_plain : Route.compile
    { path := "/y", methods := ["POST"], handler := .named "plain" } =
      .ok ⟨some "/y", [.char '/', .char 'y'], "/y", [], ⟨["POST"], [], none, .empty⟩⟩ :=
  Route.compile_of_literal _ (by decide) rfl rfl rfl rfl

theorem compileRoutes_starred : starred.compileRoutes = Matcher.ofData starredData := by
  have hroutes : Collection.compileRoutes [] starred.router.collection.routes = .ok [
      ({ path := "/{x:a)|([*]}", methods := ["GET"], handler := .named "star" },
        ⟨none, starredAtoms, "/(a)|([*])", ["x"], ⟨["GET"], [], none, .empty⟩⟩),
      ({ path := "/y", methods := ["POST"], handler := .named "plain" },
        ⟨some "/y", [.char '/', .char 'y'], "/y", [], ⟨["POST"], [], none, .empty⟩⟩)] := by
    rw [starred, Collection.compileRoutes_cons compile_star rfl,
      Collection.compileRoutes_cons compile_plain rfl]
    rfl
  have hsome : (Regex.compile (Merged.ofFragments .segments [starredAtoms]).expression
      Regex.defaultSizeLimit).toOption.isSome := by decide +kernel
  obtain ⟨e, he⟩ := Option.isSome_iff_exists.1 hsome
  have hchunks := @Collection.mergeChunks_of_fits _ {} _ e (by simp) (toOption_eq_some.1 he)
  have hdata : Collection.matcherData {} [
      ⟨none, starredAtoms, "/(a)|([*])", ["x"], ⟨["GET"], [], none, .empty⟩⟩,
      ⟨some "/y", [.char '/', .char 'y'], "/y", [], ⟨["POST"], [], none, .empty⟩⟩] =
        .ok starredData := by
    have hshared : Collection.sharedLeaves 0 [
        ⟨none, starredAtoms, "/(a)|([*])", ["x"], ⟨["GET"], [], none, .empty⟩⟩,
        ⟨some "/y", [.char '/', .char 'y'], "/y", [], ⟨["POST"], [], none, .empty⟩⟩] [] =
          [⟨"/(a)|([*])", ["x"], starredAtoms, [0]⟩] := by rfl
    rw [Collection.matcherData_eq, hshared, List.map_singleton, hchunks]
    rfl
  exact Collection.compile_eq_ofData rfl hroutes hdata

/-- **The path `*` stands for the server**: an `OPTIONS` request for it gets the methods of all
routes, and one that is refused for its method gets those of the routes that match. -/
theorem allows_of_starred : ∃ m, starred.compileRoutes = .ok m ∧
    starred.router.decide m ⟨"OPTIONS", { path := "*" }, [], none⟩ =
      .ok (.options ["GET", "POST", "OPTIONS"]) ∧
    starred.router.decide m ⟨"PUT", { path := "*" }, [], none⟩ =
      .ok (.methodNotAllowed ["GET", "OPTIONS"]) := by
  have hrun : ((Matcher.ofData starredData).toOption.map fun m =>
      ((starred.router.decide m ⟨"OPTIONS", { path := "*" }, [], none⟩).toOption,
        (starred.router.decide m ⟨"PUT", { path := "*" }, [], none⟩).toOption)) =
      some (some (.options ["GET", "POST", "OPTIONS"]),
        some (.methodNotAllowed ["GET", "OPTIONS"])) := by
    decide +kernel
  obtain ⟨m, hm, hrun⟩ := Option.map_eq_some_iff.1 hrun
  simp only [Prod.mk.injEq, toOption_eq_some] at hrun
  exact ⟨m, compileRoutes_starred.trans (toOption_eq_some.1 hm), hrun.1, hrun.2⟩

end Site

end Signpost
