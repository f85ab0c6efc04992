import Signpost.Proofs.Collection.Competing
import Signpost.Proofs.Matcher.Methods
import Signpost.Proofs.Matcher.Scan
import Signpost.Regex.Estimate

/-!
# Matching — all methods that would do

The methods for a request are found by looking it up without a method.  No route is found, and so
the search comes to all routes that fit, as long as none of them declares the empty method.  Nothing
keeps a route from declaring it, though, and then no methods are listed at all.

* `Matcher.allowed_of_compile`: the methods of all routes that fit, or none.
* `Matcher.allowed_of_blank`: a route with an empty method.
-/

namespace Signpost

namespace Context

theorem agrees_withoutMethod (c : Context) : c.Agrees c.withoutMethod := ⟨rfl, rfl, rfl⟩

end Context

/-- Whether a route fits does not depend on the method. -/
theorem CompiledRoute.fits_withoutMethod {r : CompiledRoute} {c : Context} :
    r.Fits c.withoutMethod ↔ r.Fits c :=
  ⟨fun h => ⟨h.path, h.host, h.scheme⟩, fun h => ⟨h.path, h.host, h.scheme⟩⟩

namespace Matcher

variable {routes : List Route} {compiled : List CompiledRoute} {c : Context} {m : Matcher}

/-! ### Routes and what they are compiled to -/

/-- A route is compiled with the methods that it declares, and there are some. -/
theorem methods_of_mem_zip [Regex.Engine]
    (h : List.Forall₂ (fun r d => Route.compile r = .ok d) routes compiled)
    {p : Route × CompiledRoute} (hp : p ∈ routes.zip compiled) :
    p.2.requirements.methods = p.1.methods ∧ p.1.methods ≠ [] := by
  obtain ⟨pattern, hcompiled⟩ :=
    Route.isCompiledTo_of_compile ((List.forall₂_iff_zip.1 h).2 hp)
  exact ⟨hcompiled.methods, hcompiled.nonempty⟩

theorem exists_of_mem_compiled [Regex.Engine]
    (h : List.Forall₂ (fun r d => Route.compile r = .ok d) routes compiled) {d : CompiledRoute}
    (hd : d ∈ compiled) : ∃ r, (r, d) ∈ routes.zip compiled := by
  rw [← List.map_snd_zip (Nat.le_of_eq h.length_eq.symm), List.mem_map] at hd
  obtain ⟨⟨r, _⟩, hmem, rfl⟩ := hd
  exact ⟨r, hmem⟩

theorem mem_compiled_of_mem_zip {p : Route × CompiledRoute} (hp : p ∈ routes.zip compiled) :
    p.2 ∈ compiled := (List.of_mem_zip hp).2

/-! ### The methods for a request -/

/-- Whether a list has the declared methods of the routes that fit a request, each once. -/
structure ListsAll (routes : List (Route × CompiledRoute)) (c : Context) (methods : List String) :
    Prop where
  nodup   : methods.Nodup
  mem_iff : ∀ x, x ∈ methods ↔ ∃ p ∈ routes, p.2.Fits c ∧ x ∈ p.1.methods

/-- Whether a route that fits a request declares the empty method. -/
def FitsBlank (routes : List (Route × CompiledRoute)) (c : Context) : Prop :=
  ∃ p ∈ routes, p.2.Fits c ∧ "" ∈ p.1.methods

theorem serves_blank {methods : List String} : serves methods "" ↔ "" ∈ methods := by
  simp [serves]

/-- Only a route that declares the empty method takes a request without a method. -/
theorem fitsBlank_iff [Regex.Engine]
    (h : List.Forall₂ (fun r d => Route.compile r = .ok d) routes compiled) :
    FitsBlank (routes.zip compiled) c ↔ ∃ d ∈ compiled, d.Accepts c.withoutMethod := by
  constructor
  · rintro ⟨p, hp, hfits, hblank⟩
    refine ⟨p.2, mem_compiled_of_mem_zip hp, CompiledRoute.fits_withoutMethod.2 hfits, ?_⟩
    rw [(methods_of_mem_zip h hp).1]
    exact serves_blank.2 hblank
  · rintro ⟨d, hd, haccepts⟩
    obtain ⟨r, hmem⟩ := exists_of_mem_compiled h hd
    refine ⟨(r, d), hmem, CompiledRoute.fits_withoutMethod.1 haccepts.toFits, ?_⟩
    rw [← (methods_of_mem_zip h hmem).1]
    exact serves_blank.1 haccepts.method

/-- The list is empty when no route fits, and not otherwise. -/
theorem ListsAll.eq_nil_iff [Regex.Engine]
    (h : List.Forall₂ (fun r d => Route.compile r = .ok d) routes compiled) {methods : List String}
    (hlists : ListsAll (routes.zip compiled) c methods) :
    methods = [] ↔ ∀ p ∈ routes.zip compiled, ¬ p.2.Fits c := by
  constructor
  · rintro rfl p hp hfits
    obtain ⟨x, hx⟩ := List.exists_mem_of_ne_nil _ (methods_of_mem_zip h hp).2
    exact List.not_mem_nil ((hlists.mem_iff x).2 ⟨p, hp, hfits, hx⟩)
  · intro hmisfit
    refine List.eq_nil_iff_forall_not_mem.2 fun x hx => ?_
    obtain ⟨p, hp, hfits, -⟩ := (hlists.mem_iff x).1 hx
    exact hmisfit p hp hfits

/-- What the routes answer to a request without a method. -/
theorem listsAll_of_answers [Regex.Engine]
    (h : List.Forall₂ (fun r d => Route.compile r = .ok d) routes compiled) {res : Resolution}
    (hanswers : Answers compiled c.withoutMethod res)
    (hblank : ¬ FitsBlank (routes.zip compiled) c) :
    ∃ methods, ListsAll (routes.zip compiled) c methods ∧
      (res = .methodNotAllowed methods ∨ res = .notFound ∧ methods = []) := by
  cases hanswers with
  | found id d hd haccepts _ =>
      exact absurd ((fitsBlank_iff h).2 ⟨d, List.mem_of_getElem? hd, haccepts⟩) hblank
  | methodNotAllowed methods _ _ hnodup hmem =>
      refine ⟨methods, ⟨hnodup, fun x => (hmem x).trans ⟨?_, ?_⟩⟩, .inl rfl⟩
      · rintro ⟨d, hd, hfits, hx⟩
        obtain ⟨r, hp⟩ := exists_of_mem_compiled h hd
        refine ⟨(r, d), hp, CompiledRoute.fits_withoutMethod.1 hfits, ?_⟩
        rwa [← (methods_of_mem_zip h hp).1]
      · rintro ⟨p, hp, hfits, hx⟩
        refine ⟨p.2, mem_compiled_of_mem_zip hp, CompiledRoute.fits_withoutMethod.2 hfits, ?_⟩
        rwa [(methods_of_mem_zip h hp).1]
  | notFound hmisfit =>
      refine ⟨[], ⟨.nil, fun x => ⟨fun hx => absurd hx List.not_mem_nil, ?_⟩⟩, .inr ⟨rfl, rfl⟩⟩
      rintro ⟨p, hp, hfits, -⟩
      exact absurd (CompiledRoute.fits_withoutMethod.2 hfits)
        (hmisfit p.2 (mem_compiled_of_mem_zip hp))

/-- **All methods that would do.**  Take a collection whose constraints are complete expressions and
keep their groups.  For every request there is a list of methods.  If no route that fits declares
the empty method, the list has the declared methods of all routes that fit, each once: it is empty
when no route fits, and it is what a lookup lists that refuses the request for its method.  And
otherwise it is empty. -/
theorem allowed_of_compile [Regex.Engine] {collection : Collection} {options : CompileOptions}
    (hwhole : ∀ r ∈ collection.routes, ∀ p, Pattern.parse r.path = .ok p →
      ∀ constraint ∈ p.constraints pathSegment r.patterns, Pattern.IsWhole constraint)
    (h : collection.compile options = .ok m) :
    ∃ compiled, List.Forall₂ (fun r d => Route.compile r = .ok d) collection.routes compiled ∧
      ∀ c, ∃ methods, m.allowed c = .ok methods ∧
        (¬ FitsBlank (collection.routes.zip compiled) c →
          ListsAll (collection.routes.zip compiled) c methods ∧
          (methods = [] ↔ ∀ p ∈ collection.routes.zip compiled, ¬ p.2.Fits c) ∧
          ∀ others, m.lookup c = .ok (.methodNotAllowed others) → methods = others) ∧
        (FitsBlank (collection.routes.zip compiled) c → methods = []) := by
  obtain ⟨compiled, runs, hmade⟩ := Collection.isMadeOf_of_compile h
  have hcompiled := hmade.routes
  have hlookup := (represents_of_isMadeOf hmade hwhole).answers_lookup
  refine ⟨compiled, hcompiled, fun c => ?_⟩
  obtain ⟨res, hres, hanswers⟩ := hlookup c.withoutMethod
  by_cases hblank : FitsBlank (collection.routes.zip compiled) c
  · -- a route takes the request without a method, so that no methods are listed
    obtain ⟨d, hd, haccepts⟩ := (fitsBlank_iff hcompiled).1 hblank
    have hfound : ∃ found, res = .found found := by
      cases hanswers with
      | found id r hr haccepts _ => exact ⟨_, rfl⟩
      | methodNotAllowed methods _ hrefused _ _ => exact absurd haccepts (hrefused d hd)
      | notFound hmisfit => exact absurd haccepts.toFits (hmisfit d hd)
    obtain ⟨found, rfl⟩ := hfound
    exact ⟨[], by rw [allowed, hres]; rfl, absurd hblank, fun _ => rfl⟩
  · obtain ⟨methods, hlists, hcases⟩ := listsAll_of_answers hcompiled hanswers hblank
    refine ⟨methods, ?_, fun _ => ⟨hlists, hlists.eq_nil_iff hcompiled, fun others hothers => ?_⟩,
      fun hfits => absurd hfits hblank⟩
    · rcases hcases with rfl | ⟨rfl, rfl⟩
      · rw [allowed, hres]
        rfl
      · rw [allowed, hres]
        rfl
    · rcases methodNotAllowed_of_agrees c.agrees_withoutMethod hothers with ⟨found, hfound⟩ | hsame
      · obtain rfl := Except.ok.inj (hres.symm.trans hfound)
        rcases hcases with hres' | ⟨hres', -⟩ <;> cases hres'
      · obtain rfl := Except.ok.inj (hres.symm.trans hsame)
        rcases hcases with hres' | ⟨hres', -⟩
        · exact (Resolution.methodNotAllowed.inj hres').symm
        · cases hres'

/-- The sample: a request that both routes refuse for its method. -/
theorem allowed_of_sample : ∃ m, Collection.sample.compile {} = .ok m ∧
    m.allowed (.of "DELETE" "/a") = .ok ["POST", "GET"] ∧
    ∃ compiled,
      List.Forall₂ (fun r d => Route.compile r = .ok d) Collection.sample.routes compiled ∧
      ListsAll (Collection.sample.routes.zip compiled) (.of "DELETE" "/a") ["POST", "GET"] := by
  have hrun : ((ofData Collection.sampleData).toOption.bind fun m =>
      (m.allowed (.of "DELETE" "/a")).toOption) = some ["POST", "GET"] := by decide +kernel
  obtain ⟨m, hm, hrun⟩ := exists_ok_of_bind_toOption hrun
  have hcompile : Collection.sample.compile {} = .ok m := Collection.compile_sample.trans hm
  have hblank : ∀ compiled, ¬ FitsBlank (Collection.sample.routes.zip compiled)
      (.of "DELETE" "/a") := by
    rintro compiled ⟨p, hp, -, hmem⟩
    have hdeclared : ∀ r ∈ Collection.sample.routes, "" ∉ r.methods := by
      simp [Collection.sample]
    exact hdeclared p.1 (List.of_mem_zip hp).1 hmem
  obtain ⟨compiled, hcompiled, hallowed⟩ := allowed_of_compile Collection.isWhole_sample hcompile
  obtain ⟨methods, hmethods, hlists, -⟩ := hallowed (.of "DELETE" "/a")
  obtain rfl := Except.ok.inj (hmethods.symm.trans hrun)
  exact ⟨m, hcompile, hmethods, compiled, hcompiled, (hlists (hblank compiled)).1⟩

/-! ### A route with an empty method -/

/-- A route that declares the empty method. -/
def blank : Collection := { routes := [
  { path := "/x", methods := [""], handler := .named "page" }] }

def blankData : Data where
  staticPaths := Dict.empty.insert "/x" [0]
  chunks := []
  leaves := []
  routes := [⟨[""], [], none, .empty⟩]
  sizeLimit := Regex.defaultSizeLimit

theorem compile_blank : blank.compile {} = ofData blankData := by
  have hroutes : Collection.compileRoutes [] blank.routes = .ok [
      ({ path := "/x", methods := [""], handler := .named "page" },
        ⟨some "/x", [.char '/', .char 'x'], "/x", [], ⟨[""], [], none, .empty⟩⟩)] :=
    Collection.compileRoutes_cons (Collection.compile_head "" "page") rfl
  have hdata : Collection.matcherData {} [
      ⟨some "/x", [.char '/', .char 'x'], "/x", [], ⟨[""], [], none, .empty⟩⟩] =
        .ok blankData := Collection.matcherData_of_literal {} (by simp)
  exact Collection.compile_eq_ofData rfl hroutes hdata

/-- **A route with an empty method** hides all methods: the request is refused for its method, and
the route fits, but no methods are listed. -/
theorem allowed_of_blank : ∃ m d, blank.compile {} = .ok m ∧
    List.Forall₂ (fun r d => Route.compile r = .ok d) blank.routes [d] ∧
    d.Fits (.of "GET" "/x") ∧ m.lookup (.of "GET" "/x") = .ok (.methodNotAllowed [""]) ∧
    m.allowed (.of "GET" "/x") = .ok [] := by
  have hrun : ((ofData blankData).toOption.bind fun m =>
      (m.lookup (.of "GET" "/x")).toOption.bind fun res =>
        (m.allowed (.of "GET" "/x")).toOption.map fun methods => (res, methods)) =
          some (.methodNotAllowed [""], []) := by decide +kernel
  obtain ⟨m, hm, hrun⟩ := Option.bind_eq_some_iff.1 hrun
  obtain ⟨res, hres, hrun⟩ := Option.bind_eq_some_iff.1 hrun
  obtain ⟨methods, hmethods, heq⟩ := Option.map_eq_some_iff.1 hrun
  obtain ⟨rfl, rfl⟩ := Prod.mk.inj heq
  have hcompiled := Collection.compile_head "" "page"
  refine ⟨m, _, compile_blank.trans (toOption_eq_some.1 hm), .cons hcompiled .nil, ⟨?_, ?_, ?_⟩,
    toOption_eq_some.1 hres, toOption_eq_some.1 hmethods⟩
  · decide +kernel
  · rintro rule ⟨⟩
  · exact .inl rfl

end Matcher

end Signpost
