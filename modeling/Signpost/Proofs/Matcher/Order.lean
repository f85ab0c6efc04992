import Signpost.Proofs.Collection.Alone
import Signpost.Proofs.Collection.Ranks
import Signpost.Regex.Estimate

/-!
# Matching — in which order methods are listed

A lookup that finds no route lists the methods of the routes that fit.  It does so in the order in
which it comes to them: first those of the literal path, and then leaf by leaf
(`Collection.SearchedBefore`).  The invariant of the search (`Tally.Lists`) tells the list as long
as no route has been found.

Which routes fit does not depend on the values of their variables.  So this takes no more of the
constraints than that they stay inside of their parentheses.

* `Matcher.Searches.lists_lookup`: the routes that a lookup has come to when it finds none.
* `Matcher.order_of_compile`: the order of the methods in a compiled collection.
-/

namespace Signpost

open Matcher (Verdict Tally Leaf valuesOf)

/-! ### Verdicts without values -/

namespace CompiledRoute

/-- What a verdict says of a route, be the values of its variables right or not. -/
def IsJudged (r : CompiledRoute) (c : Context) : Verdict → Prop
  | .rejected            => ¬r.Fits c
  | .wrongMethod methods => r.Fits c ∧ methods = r.requirements.methods
  | .accepted _          => r.Fits c

instance (r : CompiledRoute) (c : Context) : Decidable (r.Fits c) :=
  decidable_of_iff ((r.values? c.path).isSome ∧
    (∀ rule ∈ r.requirements.host.toList, (hostValues? rule c.host).isSome) ∧
    (r.requirements.schemes = [] ∨ ∃ s ∈ r.requirements.schemes, s.toLower = c.scheme.toLower))
    ⟨fun h => ⟨h.1, fun rule hrule => h.2.1 rule (Option.mem_toList.2 hrule), h.2.2⟩,
      fun h => ⟨h.path, fun rule hrule => h.host rule (Option.mem_toList.1 hrule), h.scheme⟩⟩

variable {r : CompiledRoute} {c : Context} {limit : Nat} {host : Option Regex}

theorem hostParams?_cases (rule : Matcher.Requirements) (host : Option Regex) (c : Context)
    (params params' : Params) :
    Matcher.hostParams? rule host params c = none ∧ Matcher.hostParams? rule host params' c = none ∨
      ∃ all all', Matcher.hostParams? rule host params c = some all ∧
        Matcher.hostParams? rule host params' c = some all' := by
  unfold Matcher.hostParams?
  split
  case h_1 hostRule e _ =>
    cases e.captures? (String.ofList (Matcher.hostName c.host.toList)) with
    | none => exact .inl ⟨rfl, rfl⟩
    | some captures => exact .inr ⟨_, _, rfl, rfl⟩
  case h_2 => exact .inr ⟨params, params', rfl, rfl⟩

/-- The values of the variables are in what is accepted, and make no difference else. -/
theorem judge_cases (rule : Matcher.Requirements) (host : Option Regex) (c : Context)
    (values values' : List (String × Option String)) :
    (∃ params params', rule.judge host values c = .accepted params ∧
        rule.judge host values' c = .accepted params') ∨
      rule.judge host values c = rule.judge host values' c := by
  unfold Matcher.Requirements.judge
  rcases hostParams?_cases rule host c (Matcher.bindAll rule.defaults .empty values)
    (Matcher.bindAll rule.defaults .empty values') with ⟨hnone, hnone'⟩ | ⟨all, all', hall, hall'⟩
  · exact .inr (by rw [hnone, hnone'])
  · simp only [hall, hall']
    split
    case isTrue => exact .inr rfl
    case isFalse =>
      split
      case isTrue => exact .inl ⟨all, all', rfl, rfl⟩
      case isFalse => exact .inr rfl

/-- **The verdict of the matcher** on a route whose path fits, whatever its values are. -/
theorem isJudged_judge [Regex.Engine] (hhost : Matcher.IsHost limit r.requirements host)
    (hpath : (r.values? c.path).isSome) (values : List (String × Option String)) :
    r.IsJudged c (r.requirements.judge host values c) := by
  obtain ⟨own, hown⟩ := Option.isSome_iff_exists.1 hpath
  have hsays := says_judge hhost hown
  rcases judge_cases r.requirements host c own values with ⟨params, params', hjudge, hjudge'⟩ | heq
  · rw [hjudge] at hsays
    rw [hjudge']
    cases hsays with
    | accepted h => exact h.toFits
  · rw [← heq]
    generalize r.requirements.judge host own c = verdict at hsays
    cases hsays with
    | rejected h => exact h
    | wrongMethod h _ => exact ⟨h, rfl⟩
    | accepted h => exact h.toFits

end CompiledRoute

namespace Matcher

variable {rs : List CompiledRoute} {c : Context} {m : Matcher} {t : Tally} {done : List Nat}
  {values : List (String × Option String)}

/-! ### What is listed -/

/-- The methods of a route that fits. -/
def listed (rs : List CompiledRoute) (c : Context) (id : Nat) : List String :=
  match rs[id]? with
  | some r => if r.Fits c then r.requirements.methods else []
  | none   => []

/-- As long as no route has been found, the methods of some routes are listed. -/
def Tally.Lists (rs : List CompiledRoute) (c : Context) (done : List Nat) (t : Tally) : Prop :=
  t.found? = none → t.allowed = distinct (done.flatMap (listed rs c))

namespace Tally.Lists

theorem empty : ({} : Tally).Lists rs c [] := fun _ => rfl

/-- Once a route has been found, nothing more is said of the list. -/
theorem of_found (h : t.found? ≠ none) : t.Lists rs c done := fun hnone => absurd hnone h

/-- Routes that do not fit list nothing. -/
theorem reject (h : t.Lists rs c done) {ids : List Nat}
    (hids : ∀ id ∈ ids, ∃ r, rs[id]? = some r ∧ ¬r.Fits c) : t.Lists rs c (done ++ ids) := by
  intro hnone
  have hnothing : ids.flatMap (listed rs c) = [] := by
    refine List.flatMap_eq_nil_iff.2 fun id hid => ?_
    obtain ⟨r, hr, hmisfit⟩ := hids id hid
    simp only [listed, hr, if_neg hmisfit]
  rw [List.flatMap_append, hnothing, List.append_nil]
  exact h hnone

/-- A route that fits but for its method. -/
theorem allow (h : t.Lists rs c done) {id : Nat} {r : CompiledRoute} (hr : rs[id]? = some r)
    (hfits : r.Fits c) : (t.allow r.requirements.methods).Lists rs c (done ++ [id]) := by
  intro hnone
  have hlisted : listed rs c id = r.requirements.methods := by
    simp only [listed, hr, if_pos hfits]
  rw [Tally.allow, h hnone, distinct_distinct_append, List.flatMap_append, List.flatMap_singleton,
    hlisted]

end Tally.Lists

/-! ### What the search lists -/

/-- Trying routes. -/
theorem lists_tryRoutes {ids : List Nat}
    (hverdicts : ∀ id ∈ ids, ∃ r, rs[id]? = some r ∧ r.IsJudged c (m.judge c values id))
    (h : t.Lists rs c done) : (m.tryRoutes c values t ids).Lists rs c (done ++ ids) := by
  induction ids generalizing t done with
  | nil => rwa [List.append_nil]
  | cons id ids ih =>
      obtain ⟨⟨r, hr, hjudged⟩, hverdicts⟩ := List.forall_mem_cons.1 hverdicts
      rw [tryRoutes]
      split
      case isTrue =>
        generalize m.judge c values id = verdict at hjudged
        rw [List.append_cons]
        cases verdict with
        | accepted params => exact .of_found (Option.some_ne_none _)
        | wrongMethod methods =>
            obtain ⟨hfits, rfl⟩ := hjudged
            exact ih hverdicts (h.allow hr hfits)
        | rejected =>
            refine ih hverdicts (h.reject fun id' hid' => ?_)
            obtain rfl := List.mem_singleton.1 hid'
            exact ⟨r, hr, hjudged⟩
      case isFalse hclosed =>
        obtain ⟨found, hfound, -⟩ := Tally.exists_of_not_isOpen hclosed
        exact .of_found (by rw [hfound]; exact Option.some_ne_none _)

/-- Whether a leaf matches when the paths of its routes do. -/
def IsAtLeaf (rs : List CompiledRoute) (l : Leaf × Regex) : Prop :=
  ∀ id ∈ l.1.routes, ∃ r, rs[id]? = some r ∧
    ∀ path, (r.values? path).isSome = (l.2.captures? path).isSome

/-- Whether a matcher searches routes: literal paths in its index, and all others at its leaves. -/
structure Searches [Regex.Engine] (m : Matcher) (rs : List CompiledRoute) : Prop where
  routes  : m.data.routes = rs.map CompiledRoute.requirements
  hosts   : List.Forall₂ (IsHost m.data.sizeLimit) m.data.routes m.hosts
  index   : Collection.IsIndex rs m.data.staticPaths
  literal : ∀ r ∈ rs, ∀ literal, r.staticPath? = some literal →
    ∀ path, r.values? path = if path = literal then some [] else none
  leaves  : ∀ l ∈ m.data.leaves.zip m.leaves, IsAtLeaf rs l ∧ l.1.routes ≠ []
  chunks  : ∃ parts, m.Covers parts

/-- The routes in the order in which a search for a path comes to them. -/
def visited (m : Matcher) (path : String) : List Nat :=
  (m.data.staticPaths.get? path).getD [] ++
    (m.data.leaves.zip m.leaves).flatMap fun l => l.1.routes

namespace Searches

variable [Regex.Engine]

/-- The verdict of the matcher on a route whose path fits. -/
theorem isJudged_judge (h : m.Searches rs) {id : Nat} {r : CompiledRoute} (hr : rs[id]? = some r)
    (hpath : (r.values? c.path).isSome) (values : List (String × Option String)) :
    r.IsJudged c (m.judge c values id) := by
  obtain ⟨host, hhost, hjudge⟩ := exists_judge h.routes h.hosts hr c
  rw [hjudge]
  exact CompiledRoute.isJudged_judge hhost hpath values

/-- Trying a leaf that matches. -/
theorem lists_tryLeaf (h : m.Searches rs) {l : Leaf × Regex} (hl : IsAtLeaf rs l)
    (hmatch : (l.2.captures? c.path).isSome) (values : List (String × Option String))
    (hlists : t.Lists rs c done) :
    (m.tryRoutes c values t l.1.routes).Lists rs c (done ++ l.1.routes) := by
  refine lists_tryRoutes (fun id hid => ?_) hlists
  obtain ⟨r, hr, hsome⟩ := hl id hid
  exact ⟨r, hr, h.isJudged_judge hr (by rw [hsome, hmatch]) values⟩

omit [Regex.Engine] in
/-- A leaf that does not match lists nothing. -/
theorem lists_misfit {l : Leaf × Regex} (hl : IsAtLeaf rs l)
    (hnone : l.2.captures? c.path = none) (hlists : t.Lists rs c done) :
    t.Lists rs c (done ++ l.1.routes) := by
  refine hlists.reject fun id hid => ?_
  obtain ⟨r, hr, hsome⟩ := hl id hid
  refine ⟨r, hr, fun hfits => ?_⟩
  have hpath := hfits.path
  rw [hsome, hnone] at hpath
  cases hpath

/-- Trying leaves. -/
theorem lists_tryLeaves (h : m.Searches rs) {leaves : List (Leaf × Regex)}
    (hleaves : ∀ l ∈ leaves, IsAtLeaf rs l) (hlists : t.Lists rs c done) :
    (m.tryLeaves c t leaves).Lists rs c (done ++ leaves.flatMap fun l => l.1.routes) := by
  induction leaves generalizing t done with
  | nil => rwa [List.flatMap_nil, List.append_nil]
  | cons l leaves ih =>
      obtain ⟨hl, hleaves⟩ := List.forall_mem_cons.1 hleaves
      rw [tryLeaves, List.flatMap_cons, ← List.append_assoc]
      split
      case isTrue =>
        cases hown : l.2.captures? c.path with
        | some own =>
            have hfits : (l.2.captures? c.path).isSome := by rw [hown]; rfl
            exact ih hleaves (h.lists_tryLeaf hl hfits (valuesOf own l.1.standalone) hlists)
        | none => exact ih hleaves (lists_misfit hl hown hlists)
      case isFalse hclosed =>
        -- only what has been found can close a leaf
        exact .of_found fun hnone => hclosed (Tally.all_isOpen_of_none hnone _)

omit [Regex.Engine] in
/-- Leaves that do not match list nothing. -/
theorem lists_misfits {leaves : List (Leaf × Regex)} (hleaves : ∀ l ∈ leaves, IsAtLeaf rs l)
    (hnone : ∀ l ∈ leaves, l.2.captures? c.path = none) (hlists : t.Lists rs c done) :
    t.Lists rs c (done ++ leaves.flatMap fun l => l.1.routes) := by
  induction leaves generalizing done with
  | nil => rwa [List.flatMap_nil, List.append_nil]
  | cons l leaves ih =>
      obtain ⟨hl, hleaves⟩ := List.forall_mem_cons.1 hleaves
      obtain ⟨hfirst, hnone⟩ := List.forall_mem_cons.1 hnone
      rw [List.flatMap_cons, ← List.append_assoc]
      exact ih hleaves hnone (lists_misfit hl hfirst hlists)

/-- Searching the merged expressions. -/
theorem lists_searchLeaves (h : m.Searches rs) (hlists : t.Lists rs c done) :
    ∃ t', m.searchLeaves c t = .ok t' ∧
      t'.Lists rs c (done ++ (m.data.leaves.zip m.leaves).flatMap fun l => l.1.routes) := by
  obtain ⟨parts, hparts⟩ := h.chunks
  have hleaves := fun l hl => (h.leaves l hl).1
  rcases searchLeaves_eq hparts c t with ⟨hnone, heq⟩ | ⟨before, leaf, after, own, hsplit, hbefore,
    hown, heq⟩
  · exact ⟨t, heq, lists_misfits hleaves hnone hlists⟩
  · rw [hsplit] at hleaves ⊢
    obtain ⟨hfirst, hleaf, hlast⟩ : (∀ l ∈ before, IsAtLeaf rs l) ∧ IsAtLeaf rs leaf ∧
        ∀ l ∈ after, IsAtLeaf rs l := by
      simpa only [List.forall_mem_append, List.forall_mem_cons] using hleaves
    refine ⟨_, heq, ?_⟩
    rw [List.flatMap_append, List.flatMap_cons, ← List.append_assoc, ← List.append_assoc]
    exact h.lists_tryLeaves hlast
      (h.lists_tryLeaf hleaf (by rw [hown]; rfl) _ (lists_misfits hfirst hbefore hlists))

/-- Looking up the literal paths. -/
theorem lists_literals (h : m.Searches rs) (c : Context) :
    (m.tryRoutes c [] {} ((m.data.staticPaths.get? c.path).getD [])).Lists rs c
      ((m.data.staticPaths.get? c.path).getD []) := by
  refine lists_tryRoutes (fun id hid => ?_) Tally.Lists.empty
  obtain ⟨r, hr, hliteral⟩ := (h.index.mem_iff c.path id).1 hid
  refine ⟨r, hr, h.isJudged_judge hr ?_ []⟩
  rw [h.literal r (List.mem_of_getElem? hr) _ hliteral, if_pos rfl]
  rfl

/-- **What a lookup lists** when it finds no route. -/
theorem lists_lookup (h : m.Searches rs) {methods : List String}
    (hlookup : m.lookup c = .ok (.methodNotAllowed methods)) :
    methods = distinct ((m.visited c.path).flatMap (listed rs c)) := by
  have hliterals := h.lists_literals c
  have hresolution : ∀ {t' : Tally}, t'.resolution = .methodNotAllowed methods →
      t'.found? = none ∧ t'.allowed = methods := by
    intro t' ht'
    rw [Tally.resolution] at ht'
    split at ht'
    case h_1 => cases ht'
    case h_2 hnone =>
      split at ht'
      case isTrue => cases ht'
      case isFalse => exact ⟨hnone, Resolution.methodNotAllowed.inj ht'⟩
  simp only [lookup] at hlookup
  generalize m.tryRoutes c [] {} ((m.data.staticPaths.get? c.path).getD []) = t
    at hliterals hlookup
  split at hlookup
  case isTrue =>
    obtain ⟨t', ht', hlists⟩ := h.lists_searchLeaves hliterals
    rw [ht'] at hlookup
    obtain ⟨hnone, rfl⟩ := hresolution (Except.ok.inj hlookup)
    exact hlists hnone
  case isFalse hclosed =>
    obtain ⟨hnone, rfl⟩ := hresolution (Except.ok.inj hlookup)
    -- as nothing has been found, there are no leaves to skip
    have hnil : m.data.leaves.zip m.leaves = [] := by
      cases hzip : m.data.leaves.zip m.leaves with
      | nil => rfl
      | cons first rest =>
          obtain ⟨_, _, hdata, -, -⟩ := List.zip_eq_cons_iff.1 hzip
          have hne := (h.leaves first (by rw [hzip]; exact List.mem_cons_self)).2
          obtain ⟨head, ids, hroutes⟩ := List.exists_cons_of_ne_nil hne
          rw [hdata, List.head?_cons, Option.bind_some, hroutes] at hclosed
          exact absurd (Tally.isOpen_of_none hnone head) hclosed
    rw [visited, hnil, List.flatMap_nil, List.append_nil]
    exact hliterals hnone

end Searches

/-! ### Compiled collections -/

/-- **A compiled collection is searched**, provided that its constraints stay inside of their
parentheses. -/
theorem searches_of_isMadeOf [Regex.Engine] {collection : Collection} {options : CompileOptions}
    {runs : List (List Collection.SharedLeaf)} (h : collection.IsMadeOf options m rs runs)
    (hsound : ∀ r ∈ rs, ∀ a ∈ r.atoms, a.IsSound) : m.Searches rs where
  routes := by rw [h.data]
  hosts := h.ready.hosts
  index := by
    rw [h.data]
    exact Collection.isIndex_staticPaths rs
  literal := by
    intro r hr literal hliteral
    obtain ⟨route, -, hcompile⟩ := exists_of_mem_right h.routes hr
    exact CompiledRoute.values?_of_staticPath? hcompile hliteral
  leaves := by
    intro l hl
    obtain ⟨s, hs, hleaf⟩ := exists_of_mem_right (isLeafOfShared_of_isMadeOf h) hl
    have hof := (Collection.isShared_sharedLeaves rs).each s hs
    refine ⟨fun id hid => ?_, hleaf.routes ▸ hof.nonempty⟩
    rw [hleaf.routes] at hid
    obtain ⟨r, hr, -, hexpression, -⟩ := hof.routes id hid
    refine ⟨r, hr, fun path => ?_⟩
    rw [CompiledRoute.values?, Collection.standalone_of_isOf h.routes hof
      (List.mem_of_getElem? hr) hexpression, Regex.ofText?_of_compile hleaf.compile]
    exact Option.isSome_map
  chunks := covers_of_isMadeOf h hsound

section order

variable {collection : Collection} {options : CompileOptions}
  {runs : List (List Collection.SharedLeaf)}

variable [Regex.Engine]

theorem visited_eq (h : collection.IsMadeOf options m rs runs) (path : String) :
    m.visited path = (m.data.staticPaths.get? path).getD [] ++
      (Collection.sharedLeaves 0 rs []).flatMap Collection.SharedLeaf.routes := by
  rw [visited, List.flatMap_def, map_routes_of_isMadeOf h, ← List.flatMap_def]

/-- **A search comes to the routes in the order of their ranks.** -/
theorem pairwise_visited (h : collection.IsMadeOf options m rs runs) (path : String) :
    (m.visited path).Pairwise (Collection.SearchedBefore rs) := by
  have hindex : Collection.IsIndex rs m.data.staticPaths := by
    rw [h.data]
    exact Collection.isIndex_staticPaths rs
  have hliteral : ∀ id ∈ (m.data.staticPaths.get? path).getD [],
      Collection.searchRank rs id = 0 := by
    intro id hid
    obtain ⟨r, hr, hsome⟩ := (hindex.mem_iff path id).1 hid
    exact Collection.searchRank_of_literal hr (by rw [hsome]; rfl)
  rw [visited_eq h]
  refine List.pairwise_append.2 ⟨?_, Collection.pairwise_sharedLeaves rs, ?_⟩
  · refine (hindex.ascending path).imp_of_mem fun hid hid' hlt => .inr ⟨?_, hlt⟩
    rw [hliteral _ hid, hliteral _ hid']
  · intro id hid id' hid'
    obtain ⟨s, hs, hmem⟩ := List.mem_flatMap.1 hid'
    obtain ⟨head, hhead⟩ := Collection.exists_head ((Collection.isShared_sharedLeaves rs).each s hs)
    refine .inl ?_
    rw [hliteral id hid, Collection.searchRank_of_mem hs hhead hmem]
    exact Nat.succ_pos head

/-- A search comes to every route that fits. -/
theorem mem_visited_of_fits (h : collection.IsMadeOf options m rs runs) {id : Nat}
    {r : CompiledRoute} (hr : rs[id]? = some r) (hfits : r.Fits c) : id ∈ m.visited c.path := by
  rw [visited_eq h]
  cases hliteral : r.staticPath? with
  | some literal =>
      -- a literal route fits its own path only
      obtain ⟨route, -, hcompile⟩ := exists_of_mem_right h.routes (List.mem_of_getElem? hr)
      have hpath := hfits.path
      rw [CompiledRoute.values?_of_staticPath? hcompile hliteral] at hpath
      have heq : c.path = literal := by
        by_contra hne
        rw [if_neg hne] at hpath
        cases hpath
      refine List.mem_append_left _ ?_
      rw [h.data]
      exact ((Collection.isIndex_staticPaths rs).mem_iff c.path id).2 ⟨r, hr, by rw [heq, hliteral]⟩
  | none =>
      obtain ⟨s, hs, hid⟩ := (Collection.isShared_sharedLeaves rs).all id r hr hliteral
      exact List.mem_append_right _ (List.mem_flatMap.2 ⟨s, hs, hid⟩)

end order

/-- The methods that a route has been declared with. -/
def methodsOf (routes : List Route) (id : Nat) : List String :=
  routes[id]?.elim [] Route.methods

/-- Whether a route fits a request but for its method. -/
def fitsAt (rs : List CompiledRoute) (c : Context) (id : Nat) : Bool :=
  rs[id]?.any fun r => r.Fits c

theorem fitsAt_iff {id : Nat} : fitsAt rs c id ↔ ∃ r, rs[id]? = some r ∧ r.Fits c := by
  simp [fitsAt, Option.any_eq_true]

theorem listed_eq [Regex.Engine] {routes : List Route}
    (hroutes : List.Forall₂ (fun r c => Route.compile r = .ok c) routes rs) (id : Nat) :
    listed rs c id = if fitsAt rs c id then methodsOf routes id else [] := by
  cases hr : rs[id]? with
  | none => simp [listed, fitsAt, hr]
  | some r =>
      obtain ⟨hlt, rfl⟩ := List.getElem?_eq_some_iff.1 hr
      have hlt' : id < routes.length := hroutes.length_eq ▸ hlt
      obtain ⟨p, hp⟩ := Route.isCompiledTo_of_compile (hroutes.get hlt' hlt)
      have hmethods : methodsOf routes id = rs[id].requirements.methods := by
        rw [methodsOf, List.getElem?_eq_getElem hlt']
        exact hp.methods.symm
      simp [listed, fitsAt, hr, hmethods]

/-- What is listed are the declared methods of the routes that fit. -/
theorem flatMap_listed [Regex.Engine] {routes : List Route}
    (hroutes : List.Forall₂ (fun r c => Route.compile r = .ok c) routes rs) (ids : List Nat) :
    ids.flatMap (listed rs c) = (ids.filter (fitsAt rs c)).flatMap (methodsOf routes) := by
  induction ids with
  | nil => rfl
  | cons id ids ih =>
      rw [List.flatMap_cons, listed_eq hroutes, ih]
      by_cases hfits : fitsAt rs c id
      · rw [if_pos hfits, List.filter_cons_of_pos hfits, List.flatMap_cons]
      · rw [if_neg hfits, List.filter_cons_of_neg hfits, List.nil_append]

/-- **The methods are listed in the order of the search.**  Take a collection whose constraints stay
inside of their parentheses.  When a lookup lists methods, these are the declared methods of the
routes that fit, each once, route by route in the order of their ranks; and where the ranks of these
routes ascend, that is the order of the routes. -/
theorem order_of_compile [Regex.Engine] {collection : Collection} {options : CompileOptions}
    (hin : ∀ r ∈ collection.routes, ∀ p, Pattern.parse r.path = .ok p →
      ∀ constraint ∈ p.constraints pathSegment r.patterns, staysInside constraint = true)
    (h : collection.compile options = .ok m) :
    ∃ compiled, List.Forall₂ (fun r c => Route.compile r = .ok c) collection.routes compiled ∧
      ∀ context methods, m.lookup context = .ok (.methodNotAllowed methods) →
        ∃ order : List Nat,
          (∀ id, id ∈ order ↔ ∃ r, compiled[id]? = some r ∧ r.Fits context) ∧
          order.Pairwise (Collection.SearchedBefore compiled) ∧
          methods = distinct (order.flatMap (methodsOf collection.routes)) ∧
          ((∀ id ∈ order, ∀ id' ∈ order, id < id' →
            Collection.searchRank compiled id ≤ Collection.searchRank compiled id') →
              order.Pairwise (· < ·)) := by
  obtain ⟨compiled, runs, hmade⟩ := Collection.isMadeOf_of_compile h
  have hsound : ∀ r ∈ compiled, ∀ a ∈ r.atoms, a.IsSound := by
    intro r hr
    obtain ⟨route, hroute, p, hp⟩ := hmade.exists_isCompiledTo hr
    exact Pattern.isSound_of_atoms (hin route hroute p hp.parse) hp.atoms
  have hsearches := searches_of_isMadeOf hmade hsound
  refine ⟨compiled, hmade.routes, fun context methods hlookup => ?_⟩
  have hordered := (pairwise_visited hmade context.path).filter (fitsAt compiled context)
  refine ⟨(m.visited context.path).filter (fitsAt compiled context), fun id => ?_, hordered, ?_, ?_⟩
  · rw [List.mem_filter, fitsAt_iff]
    constructor
    · exact fun hid => hid.2
    · rintro ⟨r, hr, hfits⟩
      exact ⟨mem_visited_of_fits hmade hr hfits, r, hr, hfits⟩
  · rw [hsearches.lists_lookup hlookup, flatMap_listed hmade.routes]
  · intro hranks
    exact hordered.imp_of_mem fun hid hid' hbefore => hbefore.lt fun hlt => hranks _ hid' _ hid hlt

theorem order_of_sample :
    ∃ m, Collection.sample.compile {} = .ok m ∧
      m.lookup (.of "DELETE" "/a") = .ok (.methodNotAllowed ["POST", "GET"]) ∧
      ∃ compiled,
        List.Forall₂ (fun r c => Route.compile r = .ok c) Collection.sample.routes compiled ∧
        ∃ order : List Nat,
          (∀ id, id ∈ order ↔ ∃ r, compiled[id]? = some r ∧ r.Fits (.of "DELETE" "/a")) ∧
          order.Pairwise (Collection.SearchedBefore compiled) ∧
          ["POST", "GET"] = distinct (order.flatMap (methodsOf Collection.sample.routes)) := by
  have hrun : ((ofData Collection.sampleData).toOption.bind fun m =>
      (m.lookup (.of "DELETE" "/a")).toOption) = some (.methodNotAllowed ["POST", "GET"]) := by
    decide +kernel
  obtain ⟨m, hm, hrun⟩ := Option.bind_eq_some_iff.1 hrun
  have hcompile : Collection.sample.compile {} = .ok m :=
    Collection.compile_sample.trans (toOption_eq_some.1 hm)
  have hin : ∀ r ∈ Collection.sample.routes, ∀ p, Pattern.parse r.path = .ok p →
      ∀ constraint ∈ p.constraints pathSegment r.patterns, staysInside constraint = true := by
    intro r hr p hp constraint hconstraint
    rw [Collection.constraints_sample r hr p hp constraint hconstraint]
    decide
  have hlookup := toOption_eq_some.1 hrun
  obtain ⟨compiled, hcompiled, hmethods⟩ := order_of_compile hin hcompile
  obtain ⟨order, hmem, hordered, heq, -⟩ := hmethods _ _ hlookup
  exact ⟨m, hcompile, hlookup, compiled, hcompiled, order, hmem, hordered, heq⟩

/-! ### A literal path after a variable -/

def swapped : Collection := { routes := Collection.sample.routes.reverse }

def swappedData : Data where
  staticPaths := Dict.empty.insert "/a" [1]
  chunks := Collection.sampleData.chunks
  leaves := [⟨2, [⟨"y", 1⟩], "^(?:/([^/]+)())$", [⟨"y", 1⟩], [0]⟩]
  routes := Collection.sampleData.routes.reverse
  sizeLimit := Regex.defaultSizeLimit

theorem compileRoutes_swapped :
    ∃ all, Collection.compileRoutes [] swapped.routes = .ok all ∧
      all.map Prod.snd = Collection.compiledSample.reverse := by
  have hroutes : swapped.routes = [
    { path := "/{y}", methods := ["GET"], handler := .named "variable" },
    { path := "/a", methods := ["POST"], handler := .named "literal" }] := rfl
  rw [hroutes, Collection.compileRoutes_cons Collection.compile_sampleVariable rfl,
    Collection.compileRoutes_cons Collection.compile_sampleLiteral rfl]
  exact ⟨_, rfl, rfl⟩

theorem compile_swapped : swapped.compile {} = ofData swappedData := by
  obtain ⟨all, hall, hcompiled⟩ := compileRoutes_swapped
  obtain ⟨r, hfits⟩ : ∃ r, Regex.compile (Merged.ofFragments .segments
      [[.char '/', .group "([^/]+)" [some "y"] true]]).expression Regex.defaultSizeLimit =
        .ok r := ⟨_, rfl⟩
  have hchunks := @Collection.mergeChunks_of_fits _ {} _ r (by simp) hfits
  have hshared : Collection.sharedLeaves 0 Collection.compiledSample.reverse [] =
      [⟨"/([^/]+)", ["y"], [.char '/', .group "([^/]+)" [some "y"] true], [0]⟩] := by rfl
  have hdata : Collection.matcherData {} Collection.compiledSample.reverse = .ok swappedData := by
    rw [Collection.matcherData_eq, hshared, List.map_singleton, hchunks]
    rfl
  exact Collection.compile_eq_ofData rfl hall (hcompiled ▸ hdata)

/-- **The order is not that of the routes**: both routes fit, and the methods of the second one are
listed first, for its path is literal. -/
theorem order_of_swapped :
    ∃ m, swapped.compile {} = .ok m ∧
      m.lookup (.of "DELETE" "/a") = .ok (.methodNotAllowed ["POST", "GET"]) ∧
      ∃ compiled, List.Forall₂ (fun r c => Route.compile r = .ok c) swapped.routes compiled ∧
        (∀ r ∈ compiled, r.Fits (.of "DELETE" "/a")) ∧
        distinct ([0, 1].flatMap (methodsOf swapped.routes)) = ["GET", "POST"] := by
  have hrun : ((ofData swappedData).toOption.bind fun m =>
      (m.lookup (.of "DELETE" "/a")).toOption) = some (.methodNotAllowed ["POST", "GET"]) := by
    decide +kernel
  obtain ⟨m, hm, hrun⟩ := Option.bind_eq_some_iff.1 hrun
  have hcompiled : List.Forall₂ (fun r c => Route.compile r = .ok c) swapped.routes
      Collection.compiledSample.reverse :=
    .cons Collection.compile_sampleVariable (.cons Collection.compile_sampleLiteral .nil)
  refine ⟨m, compile_swapped.trans (toOption_eq_some.1 hm), toOption_eq_some.1 hrun,
    Collection.compiledSample.reverse, hcompiled, ?_, by decide⟩
  decide +kernel

end Matcher

end Signpost
