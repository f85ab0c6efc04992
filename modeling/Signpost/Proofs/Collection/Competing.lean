import Signpost.Proofs.Collection.Alone
import Signpost.Regex.Estimate

/-!
# Collections — routes that compete

A collection is refused if two of its routes are for one place and declare a method and a scheme in
common (`Collection.Competes`).  A request is not asked for what is declared alone: `HEAD` is served
where `GET` is, and case makes no difference to a scheme.  Where the two differ, a later route may
never get a request that it declares.

* `Collection.pairwise_of_compile`: no two routes of a compiled collection compete.
* `Collection.sharesHead_of_compile`: what two routes for one place may still have in common.
* `Collection.lookup_of_heads`: a route that gets no request.
-/

namespace Signpost

open Matcher (serves)

/-- Whether the requirements of a route leave nothing in the way of a method and a scheme. -/
structure Matcher.Requirements.Admits (rule : Matcher.Requirements) (method scheme : String) :
    Prop where
  method : serves rule.methods method = true
  scheme : rule.schemes = [] ∨ ∃ s ∈ rule.schemes, s.toLower = scheme.toLower

theorem CompiledRoute.Accepts.admits {d : CompiledRoute} {c : Context} (h : d.Accepts c) :
    d.requirements.Admits c.method c.scheme := ⟨h.method, h.scheme⟩

namespace Collection

variable {c : Collection} {options : CompileOptions} {m : Matcher} {r s : Route}
  {d e : CompiledRoute}

/-! ### Routes that are compiled together do not compete -/

/-- A route that is compiled behind others competes with none of them. -/
theorem pairwise_of_compileRoutes [Regex.Engine] {before all : List (Route × CompiledRoute)}
    {rs : List Route} (h : compileRoutes before rs = .ok all)
    (hbefore : ∀ b ∈ before, b.1.compile = .ok b.2)
    (happart : (before.map Prod.fst).Pairwise fun r s => ¬ Competes r s) :
    (before.map Prod.fst ++ rs).Pairwise fun r s => ¬ Competes r s := by
  induction rs generalizing before with
  | nil => rwa [List.append_nil]
  | cons r rs ih =>
      obtain ⟨d, hd, hrest⟩ := bind_eq_ok.1 h
      split at hrest
      case h_1 => cases hrest
      case h_2 hnone =>
        have hnew : ∀ b ∈ before, ¬ Competes b.1 r := by
          rintro b hb ⟨d', e', hd', he', hplace, hoverlaps⟩
          obtain rfl := Except.ok.inj ((hbefore b hb).symm.trans hd')
          obtain rfl := Except.ok.inj (hd.symm.trans he')
          exact List.find?_eq_none.1 hnone b hb (Bool.and_eq_true_iff.2 ⟨hplace, hoverlaps⟩)
        have hlast : ((before ++ [(r, d)]).map Prod.fst).Pairwise fun r s => ¬ Competes r s := by
          rw [List.map_append]
          refine List.pairwise_append.2
            ⟨happart, List.pairwise_singleton _ _, fun r' hr' s hs => ?_⟩
          obtain ⟨b, hb, rfl⟩ := List.mem_map.1 hr'
          obtain rfl := List.mem_singleton.1 hs
          exact hnew b hb
        have hdone := ih hrest
          (List.forall_mem_append.2 ⟨hbefore, by simpa using hd⟩) hlast
        rwa [List.map_append, List.append_assoc] at hdone

/-- **No two routes of a compiled collection compete.** -/
theorem pairwise_of_compile [Regex.Engine] (h : c.compile options = .ok m) :
    c.routes.Pairwise fun r s => ¬ Competes r s := by
  unfold compile at h
  split at h
  case h_1 => cases h
  case h_2 =>
    obtain ⟨all, hall, -⟩ := bind_eq_ok.1 h
    exact pairwise_of_compileRoutes hall (by simp) .nil

/-! ### What routes for one place have in common -/

/-- Whether two routes have no method in common, and yet both get `HEAD`: one for its own sake, and
one for that of `GET`. -/
def SharesHead (r s : Route) : Prop :=
  (∀ method ∈ r.methods, method ∉ s.methods) ∧
    ("GET" ∈ r.methods ∧ "HEAD" ∈ s.methods ∨ "HEAD" ∈ r.methods ∧ "GET" ∈ s.methods)

/-- Whether two routes have a scheme in common but for its case. -/
def DifferInCase (r s : Route) : Prop :=
  ∃ scheme ∈ r.schemes, ∃ scheme' ∈ s.schemes, scheme ≠ scheme' ∧ scheme.toLower = scheme'.toLower

theorem serves_cases {methods : List String} {method : String} (h : serves methods method = true) :
    method ∈ methods ∨ method = "HEAD" ∧ "GET" ∈ methods := by
  simpa [serves] using h

/-- A method that two routes serve which declare none in common. -/
theorem head_of_serves {method : String} (hr : serves r.methods method = true)
    (hs : serves s.methods method = true) (hnone : ∀ method ∈ r.methods, method ∉ s.methods) :
    method = "HEAD" ∧ SharesHead r s := by
  rcases serves_cases hr with hown | ⟨rfl, hget⟩
  · rcases serves_cases hs with hown' | ⟨rfl, hget'⟩
    · exact absurd hown' (hnone method hown)
    · exact ⟨rfl, hnone, .inr ⟨hown, hget'⟩⟩
  · rcases serves_cases hs with hown' | ⟨-, hget'⟩
    · exact ⟨rfl, hnone, .inl ⟨hget, hown'⟩⟩
    · exact absurd hget' (hnone "GET" hget)

/-- A scheme that two routes are for which declare none in common. -/
theorem differInCase_of_admits {scheme : String} (hr : r.schemes ≠ []) (hs : s.schemes ≠ [])
    (hnone : ∀ scheme ∈ r.schemes, scheme ∉ s.schemes)
    (hadmits : r.schemes = [] ∨ ∃ own ∈ r.schemes, own.toLower = scheme.toLower)
    (hadmits' : s.schemes = [] ∨ ∃ own ∈ s.schemes, own.toLower = scheme.toLower) :
    DifferInCase r s := by
  obtain ⟨own, hown, heq⟩ := hadmits.resolve_left hr
  obtain ⟨own', hown', heq'⟩ := hadmits'.resolve_left hs
  refine ⟨own, hown, own', hown', ?_, heq.trans heq'.symm⟩
  rintro rfl
  exact hnone own hown hown'

theorem not_overlaps_iff : ¬ overlaps r s = true ↔
    (∀ method ∈ r.methods, method ∉ s.methods) ∨
      r.schemes ≠ [] ∧ s.schemes ≠ [] ∧ ∀ scheme ∈ r.schemes, scheme ∉ s.schemes := by
  rw [overlaps, Bool.and_eq_true_iff, not_and_or]
  refine or_congr ?_ ?_
  · simp
  · simp [and_assoc]

/-- **What two routes for one place may still have in common.**  Take two routes of a compiled
collection, one after the other, with one host and one path.  There is no method and no scheme that
both admit, but for `HEAD`, where one of them is for `GET` and the other one for `HEAD`, and for a
scheme that they write in different cases.  So any request that the later one accepts, and that does
not get to it for the earlier one, is of that kind. -/
theorem sharesHead_of_compile [Regex.Engine] (hm : c.compile options = .ok m) {i j : Nat}
    (hij : i < j) (hr : c.routes[i]? = some r) (hs : c.routes[j]? = some s) (hd : r.compile = .ok d)
    (he : s.compile = .ok e) (hhost : d.hostExpression = e.hostExpression)
    (hpath : d.expression = e.expression) :
    (∀ method scheme, d.requirements.Admits method scheme → e.requirements.Admits method scheme →
      method = "HEAD" ∧ SharesHead r s ∨ DifferInCase r s) ∧
    ∀ request : Context, d.Accepts request → e.Accepts request →
      request.method = "HEAD" ∧ SharesHead r s ∨ DifferInCase r s := by
  have hrequirements : ∀ method scheme, d.requirements.Admits method scheme →
      e.requirements.Admits method scheme →
        method = "HEAD" ∧ SharesHead r s ∨ DifferInCase r s := by
    intro method scheme hadmits hadmits'
    obtain ⟨patterns, hasks⟩ := Route.exists_asks hd
    obtain ⟨patterns', hasks'⟩ := Route.exists_asks he
    obtain ⟨hserves, hscheme⟩ := hadmits
    obtain ⟨hserves', hscheme'⟩ := hadmits'
    rw [hasks.methods] at hserves
    rw [hasks.schemes] at hscheme
    rw [hasks'.methods] at hserves'
    rw [hasks'.schemes] at hscheme'
    have happart : ¬ Competes r s := by
      obtain ⟨hi, rfl⟩ := List.getElem?_eq_some_iff.1 hr
      obtain ⟨hj, rfl⟩ := List.getElem?_eq_some_iff.1 hs
      exact List.pairwise_iff_getElem.1 (pairwise_of_compile hm) i j hi hj hij
    have hplace : samePlace d e = true := by simp [samePlace, hhost, hpath]
    have hoverlaps : ¬ overlaps r s = true := fun h => happart ⟨d, e, hd, he, hplace, h⟩
    rcases not_overlaps_iff.1 hoverlaps with hnone | ⟨hr, hs, hnone⟩
    · exact .inl (head_of_serves hserves hserves' hnone)
    · exact .inr (differInCase_of_admits hr hs hnone hscheme hscheme')
  exact ⟨hrequirements, fun request h h' =>
    hrequirements request.method request.scheme h.admits h'.admits⟩

/-! ### A route that gets no request -/

/-- Two routes for one place, one of which is for `HEAD` only. -/
def heads : Collection := { routes := [
  { path := "/x", methods := ["GET"], handler := .named "page" },
  { path := "/x", methods := ["HEAD"], handler := .named "head" }] }

def headsData : Matcher.Data where
  staticPaths := (Dict.empty.insert "/x" [0]).insert "/x" [0, 1]
  chunks := []
  leaves := []
  routes := [⟨["GET"], [], none, .empty⟩, ⟨["HEAD"], [], none, .empty⟩]
  sizeLimit := Regex.defaultSizeLimit

theorem compile_head [Regex.Engine] (method handler : String) : Route.compile
    { path := "/x", methods := [method], handler := .named handler } =
      .ok ⟨some "/x", [.char '/', .char 'x'], "/x", [], ⟨[method], [], none, .empty⟩⟩ := by
  have hparse : Pattern.parse "/x" = .ok ⟨"/x", [.text "/x"]⟩ := by rfl
  have hslash : "/x".toList.head? = some '/' := by decide
  have hatoms : "/x".toList.map Atom.char = [.char '/', .char 'x'] := by rfl
  have hexpression : String.ofList (Atom.expression [.char '/', .char 'x']) = "/x" := by decide
  rw [Route.compile_of_literal { path := "/x", methods := [method], handler := .named handler }
    (List.cons_ne_nil _ _) hslash rfl rfl hparse, hatoms, hexpression]

theorem compile_heads : heads.compile {} = Matcher.ofData headsData := by
  have hroutes : compileRoutes [] heads.routes = .ok [
      ({ path := "/x", methods := ["GET"], handler := .named "page" },
        ⟨some "/x", [.char '/', .char 'x'], "/x", [], ⟨["GET"], [], none, .empty⟩⟩),
      ({ path := "/x", methods := ["HEAD"], handler := .named "head" },
        ⟨some "/x", [.char '/', .char 'x'], "/x", [], ⟨["HEAD"], [], none, .empty⟩⟩)] := by
    rw [heads, compileRoutes_cons (compile_head "GET" "page") rfl,
      compileRoutes_cons (compile_head "HEAD" "head") rfl]
    rfl
  have hdata : matcherData {} [
      ⟨some "/x", [.char '/', .char 'x'], "/x", [], ⟨["GET"], [], none, .empty⟩⟩,
      ⟨some "/x", [.char '/', .char 'x'], "/x", [], ⟨["HEAD"], [], none, .empty⟩⟩] =
        .ok headsData := matcherData_of_literal {} (by simp)
  exact compile_eq_ofData rfl hroutes hdata

/-- **A route that gets no request**: it is for `HEAD`, which the route before it gets, too. -/
theorem lookup_of_heads : ∃ m, heads.compile {} = .ok m ∧
    m.lookup (.of "HEAD" "/x") = .ok (.found ⟨0, .empty⟩) ∧
    ∃ d e, Route.compile { path := "/x", methods := ["GET"], handler := .named "page" } = .ok d ∧
      Route.compile { path := "/x", methods := ["HEAD"], handler := .named "head" } = .ok e ∧
      samePlace d e = true ∧
      ∀ method scheme, e.requirements.Admits method scheme →
        d.requirements.Admits method scheme := by
  have hrun : ((Matcher.ofData headsData).toOption.bind fun m =>
      (m.lookup (.of "HEAD" "/x")).toOption) = some (.found ⟨0, .empty⟩) := by decide +kernel
  obtain ⟨m, hm, hrun⟩ := Option.bind_eq_some_iff.1 hrun
  refine ⟨m, compile_heads.trans (toOption_eq_some.1 hm), toOption_eq_some.1 hrun, _, _,
    compile_head "GET" "page", compile_head "HEAD" "head", rfl, fun method scheme hadmits => ?_⟩
  obtain rfl : method = "HEAD" := by simpa [serves] using hadmits.method
  exact ⟨by decide, .inl rfl⟩

theorem sharesHead_of_heads : ∃ m, heads.compile {} = .ok m ∧
    ∀ r s, heads.routes[0]? = some r → heads.routes[1]? = some s → SharesHead r s := by
  have hsome : (Matcher.ofData headsData).toOption.isSome := by decide +kernel
  obtain ⟨m, hm⟩ := Option.isSome_iff_exists.1 hsome
  have hcompile : heads.compile {} = .ok m := compile_heads.trans (toOption_eq_some.1 hm)
  refine ⟨m, hcompile, ?_⟩
  rintro r s ⟨⟩ ⟨⟩
  obtain ⟨hshares, -⟩ := sharesHead_of_compile hcompile Nat.zero_lt_one (i := 0) (j := 1) rfl rfl
    (compile_head "GET" "page") (compile_head "HEAD" "head") rfl rfl
  rcases hshares "HEAD" "http" ⟨by decide, .inl rfl⟩ ⟨by decide, .inl rfl⟩ with ⟨-, h⟩ | h
  · exact h
  · obtain ⟨scheme, hscheme, -⟩ := h
    cases hscheme

end Collection

end Signpost
