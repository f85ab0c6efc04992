import Signpost.Proofs.Matcher.Order
import Signpost.Regex.Estimate

/-!
# Collections — what sorting changes

Sorting puts the routes of a collection in the order of their ranks and leaves routes of one rank in
the order in which they are.  What a request gets is told by the first route that accepts it, and so
sorting matters only for a request that several routes accept: which one of them comes first depends
on the order, but not whether there is one, nor which methods are listed if there is none.

* `Collection.SortsTo`: what a list of routes is sorted to, by the places that they come from.
* `Collection.sortsTo_sort`, `Collection.sort_sort`: a collection is sorted to such a list, and is
  sorted then.
* `Matcher.lookup_of_sort`: lookups before and after.
-/

namespace Signpost

namespace Collection

/-! ### Ranks as an order -/

theorem rankLe_total (as bs : List Nat) : (rankLe as bs || rankLe bs as) = true := by
  induction as generalizing bs with
  | nil => simp [rankLe]
  | cons a as ih =>
      cases bs with
      | nil => simp [rankLe]
      | cons b bs =>
          have hrest := ih bs
          simp only [rankLe, Bool.or_eq_true, Bool.and_eq_true, decide_eq_true_eq] at hrest ⊢
          rcases Nat.lt_trichotomy a b with hlt | rfl | hlt
          · exact .inl (.inl hlt)
          · exact hrest.imp (fun h => .inr ⟨rfl, h⟩) fun h => .inr ⟨rfl, h⟩
          · exact .inr (.inl hlt)

theorem rankLe_trans (as bs cs : List Nat) (hab : rankLe as bs = true) (hbc : rankLe bs cs = true) :
    rankLe as cs = true := by
  induction as generalizing bs cs with
  | nil => simp [rankLe]
  | cons a as ih =>
      cases bs with
      | nil => simp [rankLe] at hab
      | cons b bs =>
          cases cs with
          | nil => simp [rankLe] at hbc
          | cons c cs =>
              simp only [rankLe, Bool.or_eq_true, Bool.and_eq_true, decide_eq_true_eq] at hab hbc ⊢
              rcases hab with hab | ⟨rfl, hab⟩
              · exact .inl (hbc.elim (Nat.lt_trans hab) fun h => h.1 ▸ hab)
              · exact hbc.imp_right fun ⟨heq, hbc⟩ => ⟨heq, ih bs cs hab hbc⟩

theorem rankLe_refl (as : List Nat) : rankLe as as = true := by simpa using rankLe_total as as

/-- Whether a route need not come after another one. -/
def comesFirst (r s : Route) : Bool := rankLe (rank r) (rank s)

theorem comesFirst_total (r s : Route) : (comesFirst r s || comesFirst s r) = true :=
  rankLe_total (rank r) (rank s)

theorem comesFirst_trans (r s t : Route) (hrs : comesFirst r s = true)
    (hst : comesFirst s t = true) : comesFirst r t = true :=
  rankLe_trans (rank r) (rank s) (rank t) hrs hst

/-! ### What sorting does to the routes -/

theorem routes_sort (c : Collection) : c.sort.routes = c.routes.mergeSort comesFirst := by
  have hmap : (c.routes.mergeSort comesFirst).map (fun r => (rank r, r)) =
      (c.routes.map fun r => (rank r, r)).mergeSort fun a b => rankLe a.1 b.1 :=
    List.map_mergeSort fun _ _ _ _ => rfl
  simp only [sort, ← hmap, List.map_map, Function.comp_def, List.map_id']

/-- **Sorting twice is sorting once.** -/
theorem sort_sort (c : Collection) : c.sort.sort = c.sort := by
  have hsorted : c.sort.routes.Pairwise fun r s => comesFirst r s = true := by
    rw [routes_sort]
    exact List.pairwise_mergeSort comesFirst_trans comesFirst_total c.routes
  have hroutes : c.sort.sort.routes = c.sort.routes := by
    rw [routes_sort c.sort]
    exact List.mergeSort_of_pairwise hsorted
  exact congrArg (fun routes => ({ c.sort with routes } : Collection)) hroutes

/-- Whether routes are sorted to others, of which each comes from the place in the list of places:
by rank, and in their order where the rank is the same. -/
structure SortsTo (before after : List Route) (places : List Nat) : Prop where
  perm   : places.Perm (List.range before.length)
  routes : ∀ j : Nat, after[j]? = places[j]?.bind fun i => before[i]?
  ranked : places.Pairwise fun i j => ∀ r ∈ before[i]?, ∀ s ∈ before[j]?,
    rankLe (rank r) (rank s) = true ∧ (rank r = rank s → i < j)

/-- The routes, sorted along with their places. -/
def placed (routes : List Route) : List (Route × Nat) :=
  routes.zipIdx.mergeSort (List.zipIdxLE comesFirst)

theorem routes_sort_eq_placed (c : Collection) : c.sort.routes = (placed c.routes).map Prod.fst :=
  (routes_sort c).trans List.mergeSort_zipIdx.symm

theorem perm_placed (routes : List Route) :
    ((placed routes).map Prod.snd).Perm (List.range routes.length) := by
  have h := (List.mergeSort_perm routes.zipIdx (List.zipIdxLE comesFirst)).map Prod.snd
  rwa [List.zipIdx_map_snd, ← List.range_eq_range'] at h

theorem getElem?_of_mem_placed {routes : List Route} {p : Route × Nat} (hp : p ∈ placed routes) :
    routes[p.2]? = some p.1 :=
  List.mk_mem_zipIdx_iff_getElem?.1 (List.mem_mergeSort.1 hp)

/-- Of two routes at different places, the first one by rank, or else by its place. -/
theorem ranked_of_zipIdxLE {p q : Route × Nat} (hle : List.zipIdxLE comesFirst p q = true)
    (hne : p.2 ≠ q.2) :
    rankLe (rank p.1) (rank q.1) = true ∧ (rank p.1 = rank q.1 → p.2 < q.2) := by
  unfold List.zipIdxLE at hle
  by_cases hpq : comesFirst p.1 q.1
  · refine ⟨hpq, fun hrank => ?_⟩
    have hqp : comesFirst q.1 p.1 := by
      rw [comesFirst, hrank]
      exact rankLe_refl (rank q.1)
    rw [if_pos hpq, if_pos hqp] at hle
    exact Nat.lt_of_le_of_ne (of_decide_eq_true hle) hne
  · rw [if_neg hpq] at hle
    cases hle

/-- **Sorting is a stable permutation.** -/
theorem sortsTo_sort (c : Collection) :
    SortsTo c.routes c.sort.routes ((placed c.routes).map Prod.snd) where
  perm := perm_placed c.routes
  routes j := by
    rw [routes_sort_eq_placed, List.getElem?_map, List.getElem?_map]
    cases hp : (placed c.routes)[j]? with
    | none => rfl
    | some p => exact (getElem?_of_mem_placed (List.mem_of_getElem? hp)).symm
  ranked := by
    have hnodup : ((placed c.routes).map Prod.snd).Nodup :=
      (perm_placed c.routes).nodup_iff.2 List.nodup_range
    have hsorted : (placed c.routes).Pairwise fun p q => List.zipIdxLE comesFirst p q = true :=
      List.pairwise_mergeSort (List.zipIdxLE_trans comesFirst_trans)
        (List.zipIdxLE_total comesFirst_total) c.routes.zipIdx
    refine List.pairwise_map.2 ((hsorted.and (List.pairwise_map.1 hnodup)).imp_of_mem ?_)
    rintro p q hp hq ⟨hle, hne⟩ r hr s hs
    obtain rfl : p.1 = r := Option.some.inj ((getElem?_of_mem_placed hp).symm.trans hr)
    obtain rfl : q.1 = s := Option.some.inj ((getElem?_of_mem_placed hq).symm.trans hs)
    exact ranked_of_zipIdxLE hle hne

/-! ### What the sorted routes are compiled to -/

variable [Regex.Engine]

theorem getElem?_compiled {routes : List Route} {compiled : List CompiledRoute}
    (h : List.Forall₂ (fun r d => Route.compile r = .ok d) routes compiled) (i : Nat) :
    compiled[i]? = routes[i]?.bind fun r => r.compile.toOption := by
  induction h generalizing i with
  | nil => rfl
  | cons hcompile _ ih =>
      cases i with
      | zero =>
          rw [List.getElem?_cons_zero, List.getElem?_cons_zero, Option.bind_some, hcompile]
          rfl
      | succ i => rw [List.getElem?_cons_succ, List.getElem?_cons_succ, ih]

namespace SortsTo

variable {before after : List Route} {places : List Nat} {compiled sorted : List CompiledRoute}

/-- What a sorted route is compiled to is what the route at its place is compiled to. -/
theorem getElem?_sorted (h : SortsTo before after places)
    (hbefore : List.Forall₂ (fun r d => Route.compile r = .ok d) before compiled)
    (hafter : List.Forall₂ (fun r d => Route.compile r = .ok d) after sorted) (j : Nat) :
    sorted[j]? = places[j]?.bind fun i => compiled[i]? := by
  rw [getElem?_compiled hafter, h.routes, Option.bind_assoc]
  exact congrArg _ (funext fun i => (getElem?_compiled hbefore i).symm)

theorem mem_sorted_iff (h : SortsTo before after places)
    (hbefore : List.Forall₂ (fun r d => Route.compile r = .ok d) before compiled)
    (hafter : List.Forall₂ (fun r d => Route.compile r = .ok d) after sorted) {d : CompiledRoute} :
    d ∈ sorted ↔ d ∈ compiled := by
  have hplace := h.getElem?_sorted hbefore hafter
  constructor
  · intro hd
    obtain ⟨j, hj⟩ := List.mem_iff_getElem?.1 hd
    rw [hplace] at hj
    obtain ⟨i, -, hi⟩ := Option.bind_eq_some_iff.1 hj
    exact List.mem_of_getElem? hi
  · intro hd
    obtain ⟨i, hi⟩ := List.mem_iff_getElem?.1 hd
    have hlt : i < before.length :=
      hbefore.length_eq ▸ (List.getElem?_eq_some_iff.1 hi).1
    obtain ⟨j, hj⟩ := List.mem_iff_getElem?.1 (h.perm.mem_iff.2 (List.mem_range.2 hlt))
    refine List.mem_of_getElem? (i := j) ?_
    rw [hplace, hj, Option.bind_some, hi]

end SortsTo

end Collection

namespace Matcher

/-! ### Lookups before and after -/

/-- What the answers of routes have in common with those of the sorted routes: the same kind, the
same methods, and a route that accepts, which is the only answer if no other route does. -/
inductive Resorted (places : List Nat) (compiled : List CompiledRoute) (c : Context) :
    Resolution → Resolution → Prop
  | found (first sorted : Match) (id : Nat) (r : CompiledRoute)
      (place : places[sorted.route]? = some id) (hr : compiled[id]? = some r)
      (accepts : r.Accepts c) (params : sorted.params = r.params c)
      (only : (∀ id' r', compiled[id']? = some r' → r'.Accepts c → id' = id) →
        first = ⟨id, sorted.params⟩) :
      Resorted places compiled c (.found first) (.found sorted)
  | methodNotAllowed (methods methods' : List String) (same : ∀ x, x ∈ methods ↔ x ∈ methods') :
      Resorted places compiled c (.methodNotAllowed methods) (.methodNotAllowed methods')
  | notFound : Resorted places compiled c .notFound .notFound

variable {before after : List Route} {places : List Nat} {compiled sorted : List CompiledRoute}
  {c : Context} {res res' : Resolution}

/-- The answers of routes and of the sorted routes, whatever the request. -/
theorem resorted_of_answers [Regex.Engine] (h : Collection.SortsTo before after places)
    (hbefore : List.Forall₂ (fun r d => Route.compile r = .ok d) before compiled)
    (hafter : List.Forall₂ (fun r d => Route.compile r = .ok d) after sorted)
    (hres : Answers compiled c res) (hres' : Answers sorted c res') :
    Resorted places compiled c res res' := by
  have hmem : ∀ r, r ∈ sorted ↔ r ∈ compiled := fun r => h.mem_sorted_iff hbefore hafter
  cases hres' with
  | found j r hj haccepts' _ =>
      have hr : r ∈ compiled := (hmem r).1 (List.mem_of_getElem? hj)
      cases hres with
      | found first s hfirst haccepts _ =>
          rw [h.getElem?_sorted hbefore hafter] at hj
          obtain ⟨id, hplace, hid⟩ := Option.bind_eq_some_iff.1 hj
          refine .found _ _ id r hplace hid haccepts' rfl fun honly => ?_
          obtain rfl : first = id := honly first s hfirst haccepts
          obtain rfl : s = r := Option.some.inj (hfirst.symm.trans hid)
          rfl
      | methodNotAllowed _ _ hrefused _ _ => exact absurd haccepts' (hrefused r hr)
      | notFound hmisfit => exact absurd haccepts'.toFits (hmisfit r hr)
  | methodNotAllowed methods' hfits' hrefused' _ hiff' =>
      cases hres with
      | found _ s hs haccepts _ =>
          exact absurd haccepts (hrefused' s ((hmem s).2 (List.mem_of_getElem? hs)))
      | methodNotAllowed methods _ _ _ hiff =>
          refine .methodNotAllowed methods methods' fun x => ?_
          simp only [hiff, hiff', hmem]
      | notFound hmisfit =>
          obtain ⟨r, hr, hfits⟩ := hfits'
          exact absurd hfits (hmisfit r ((hmem r).1 hr))
  | notFound hmisfit' =>
      cases hres with
      | found _ s hs haccepts _ =>
          exact absurd haccepts.toFits (hmisfit' s ((hmem s).2 (List.mem_of_getElem? hs)))
      | methodNotAllowed _ hfits _ _ _ =>
          obtain ⟨r, hr, hfits⟩ := hfits
          exact absurd hfits (hmisfit' r ((hmem r).2 hr))
      | notFound _ => exact .notFound

/-- **Sorting changes only which of several routes wins.**  It is a stable permutation of the routes
of any collection, and doing it twice is doing it once.  Take a collection whose constraints are
complete expressions and keep their groups, and which compiles before and after, with any strategy
and any limit.  Then a request has answers of the same kind before and after, with the same methods
where they are listed; a route that is found after also accepts the request before, and where no
other route does, it is found before, too, with the same values. -/
theorem lookup_of_sort [Regex.Engine] (collection : Collection) :
    collection.sort.sort = collection.sort ∧
    ∃ places, Collection.SortsTo collection.routes collection.sort.routes places ∧
      ∀ (options : CompileOptions) (m m' : Matcher),
        (∀ r ∈ collection.routes, ∀ p, Pattern.parse r.path = .ok p →
          ∀ constraint ∈ p.constraints pathSegment r.patterns, Pattern.IsWhole constraint) →
        collection.compile options = .ok m → collection.sort.compile options = .ok m' →
        ∃ compiled,
          List.Forall₂ (fun r d => Route.compile r = .ok d) collection.routes compiled ∧
          ∀ context, ∃ res res', m.lookup context = .ok res ∧ m'.lookup context = .ok res' ∧
            Resorted places compiled context res res' := by
  have hplaces := collection.sortsTo_sort
  refine ⟨collection.sort_sort, _, hplaces, fun options m m' hwhole hm hm' => ?_⟩
  obtain ⟨compiled, runs, hmade⟩ := Collection.isMadeOf_of_compile hm
  obtain ⟨sorted, runs', hmade'⟩ := Collection.isMadeOf_of_compile hm'
  have hrepresents := represents_of_isMadeOf hmade hwhole
  have hrepresents' := represents_of_isMadeOf hmade' fun r hr =>
    hwhole r (collection.sort_perm.mem_iff.1 hr)
  refine ⟨compiled, hmade.routes, fun context => ?_⟩
  obtain ⟨res, hres, hanswers⟩ := hrepresents.answers_lookup context
  obtain ⟨res', hres', hanswers'⟩ := hrepresents'.answers_lookup context
  exact ⟨res, res', hres, hres',
    resorted_of_answers hplaces hmade.routes hmade'.routes hanswers hanswers'⟩

/-! ### A variable before a literal path -/

/-- The literal path comes first once the routes are sorted. -/
theorem sort_swapped : swapped.sort = Collection.sample := by
  have hliteral : Pattern.parse "/a" = .ok ⟨"/a", [.text "/a"]⟩ := by rfl
  have hvariable : Pattern.parse "/{y}" = .ok ⟨"/{y}", [.text "/", .var "y" none none]⟩ := by rfl
  have hroutes : swapped.routes = [
    { path := "/{y}", methods := ["GET"], handler := .named "variable" },
    { path := "/a", methods := ["POST"], handler := .named "literal" }] := rfl
  have hgroups : swapped.openGroups = [] := rfl
  simp [Collection.sort, hroutes, hgroups, Collection.rank, hliteral, hvariable, Pattern.dynamism,
    Token.dynamism, Token.total, List.mergeSort, Collection.rankLe, Collection.sample]

/-- A request that only one of the two routes accepts. -/
theorem lookup_of_sort_swapped : ∃ m m', swapped.compile {} = .ok m ∧
    swapped.sort.compile {} = .ok m' ∧
    swapped.sort.sort = swapped.sort ∧
    ∃ places, Collection.SortsTo swapped.routes swapped.sort.routes places ∧
      ∃ compiled, List.Forall₂ (fun r d => Route.compile r = .ok d) swapped.routes compiled ∧
        m.lookup (.of "GET" "/a") = .ok (.found ⟨0, Params.empty.insert "y" "a"⟩) ∧
        m'.lookup (.of "GET" "/a") = .ok (.found ⟨1, Params.empty.insert "y" "a"⟩) ∧
        Resorted places compiled (.of "GET" "/a")
          (.found ⟨0, Params.empty.insert "y" "a"⟩) (.found ⟨1, Params.empty.insert "y" "a"⟩) := by
  have hrun : ((ofData swappedData).toOption.bind fun m =>
      (m.lookup (.of "GET" "/a")).toOption) =
        some (.found ⟨0, Params.empty.insert "y" "a"⟩) := by decide +kernel
  have hrun' : ((ofData Collection.sampleData).toOption.bind fun m =>
      (m.lookup (.of "GET" "/a")).toOption) =
        some (.found ⟨1, Params.empty.insert "y" "a"⟩) := by decide +kernel
  obtain ⟨m, hm, hrun⟩ := exists_ok_of_bind_toOption hrun
  obtain ⟨m', hm', hrun'⟩ := exists_ok_of_bind_toOption hrun'
  have hcompile := compile_swapped.trans hm
  have hcompile' : swapped.sort.compile {} = .ok m' := by
    rw [sort_swapped]
    exact Collection.compile_sample.trans hm'
  obtain ⟨hsort, places, hplaces, hlookup⟩ := lookup_of_sort swapped
  obtain ⟨compiled, hcompiled, hagree⟩ := hlookup {} m m'
    (fun r hr => Collection.isWhole_sample r (List.mem_reverse.1 hr)) hcompile hcompile'
  obtain ⟨res, res', hres, hres', hresorted⟩ := hagree (.of "GET" "/a")
  obtain rfl := Except.ok.inj (hres.symm.trans hrun)
  obtain rfl := Except.ok.inj (hres'.symm.trans hrun')
  exact ⟨m, m', hcompile, hcompile', hsort, places, hplaces, compiled, hcompiled, hres, hres',
    hresorted⟩

end Matcher

end Signpost
