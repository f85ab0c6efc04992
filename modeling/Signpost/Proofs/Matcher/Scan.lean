import Signpost.Proofs.Matcher.Search
import Signpost.Regex.Estimate

/-!
# Matching — a lookup is a scan of the routes

A matcher that has been compiled from a collection represents its routes.  So whatever the strategy
and the limit, a lookup answers what going through the routes one after another would.

* `Matcher.represents_of_isMadeOf`: the matcher of a collection represents its routes.
* `Matcher.lookup_of_compile`: a lookup in a compiled collection.
-/

namespace Signpost.Matcher

open Collection (SharedLeaf leavesOfRun mergedRun)

variable {rs : List CompiledRoute}

section

variable [Regex.Engine]

/-- Whether a leaf is a shared leaf with some place in a merged expression. -/
structure IsLeafOfShared (limit : Nat) (s : SharedLeaf) (l : Leaf × Regex) : Prop where
  leaf    : ∃ layout, l.1 = s.leaf layout
  compile : Regex.compile (Merged.standalone s.atoms).1 limit = .ok l.2

theorem IsLeafOfShared.routes {limit : Nat} {s : SharedLeaf} {l : Leaf × Regex}
    (h : IsLeafOfShared limit s l) : l.1.routes = s.routes := by
  obtain ⟨layout, heq⟩ := h.leaf
  rw [heq]
  rfl

theorem isLeafOfShared_zipWith {limit : Nat} {shared : List SharedLeaf} {layouts : List Layout}
    (hlength : layouts.length = shared.length) {es : List Regex}
    (hes : List.Forall₂ (fun (l : Leaf) e => Regex.compile l.expression limit = .ok e)
      (List.zipWith (fun layout s => SharedLeaf.leaf s layout) layouts shared) es) :
    List.Forall₂ (IsLeafOfShared limit) shared
      ((List.zipWith (fun layout s => SharedLeaf.leaf s layout) layouts shared).zip es) := by
  induction shared generalizing layouts es with
  | nil =>
      obtain rfl := List.length_eq_zero_iff.1 hlength
      exact .nil
  | cons s shared ih =>
      obtain ⟨layout, layouts, rfl⟩ := List.exists_cons_of_length_eq_add_one hlength
      cases hes with
      | cons he hes => exact .cons ⟨⟨layout, rfl⟩, he⟩ (ih (Nat.succ.inj hlength) hes)

/-- The leaves of a matcher are the shared leaves of its collection. -/
theorem isLeafOfShared_of_isMadeOf {c : Collection} {options : CompileOptions} {m : Matcher}
    {runs : List (List SharedLeaf)} (h : c.IsMadeOf options m rs runs) :
    List.Forall₂ (IsLeafOfShared m.data.sizeLimit) (Collection.sharedLeaves 0 rs [])
      (m.data.leaves.zip m.leaves) := by
  have hlength : ((runs.map (mergedRun options.strategy)).flatMap Merged.layouts).length =
      runs.flatten.length := by
    rw [List.length_flatMap, List.length_flatten, List.map_map]
    congr 1
    exact List.map_congr_left fun run _ =>
      Collection.length_layouts_mergedRun options.strategy run
  have hleaves : m.data.leaves = List.zipWith (fun layout s => SharedLeaf.leaf s layout)
      ((runs.map (mergedRun options.strategy)).flatMap Merged.layouts) runs.flatten := by
    rw [Collection.zipWith_flatten, h.data]
  have hready := h.ready.leaves
  rw [hleaves] at hready ⊢
  rw [← h.shared]
  exact isLeafOfShared_zipWith hlength hready

/-- A leaf says what its routes say. -/
theorem isLeafFor_of_isOf {limit : Nat} {s : SharedLeaf} {l : Leaf × Regex}
    (hs : s.IsOf rs) (hl : IsLeafOfShared limit s l)
    (hexpression : ∀ r ∈ rs, r.expression = String.ofList (Atom.expression r.atoms))
    (hvars : ∀ r ∈ rs, r.vars = Atom.vars r.atoms)
    (hcomplete : ∀ r ∈ rs, ∀ a ∈ r.atoms, a.IsComplete) : IsLeafFor rs l := by
  have hroutes := hl.routes
  refine ⟨hroutes ▸ hs.nonempty, hroutes ▸ hs.ascending, fun id hid => ?_⟩
  rw [hroutes] at hid
  obtain ⟨r, hr, -, hexpr, hvar⟩ := hs.routes id hid
  obtain ⟨first, hfirst, hatoms, hexpr', hvar'⟩ := hs.atoms
  have hmem := List.mem_of_getElem? hr
  have hsame : Merged.standalone r.atoms = Merged.standalone s.atoms := by
    rw [← hatoms]
    refine Merged.standalone_eq (hcomplete r hmem) (hcomplete first hfirst) ?_ ?_
    · refine String.ofList_injective ?_
      rw [← hexpression r hmem, ← hexpression first hfirst, hexpr, hexpr']
    · rw [← hvars r hmem, ← hvars first hfirst, hvar, hvar']
  refine ⟨r, hr, fun path => ?_⟩
  obtain ⟨layout, hleaf⟩ := hl.leaf
  rw [CompiledRoute.values?_of_standalone hsame hl.compile, hleaf]
  rfl

/-- The leaves of a matcher have the routes of the shared leaves, in the same order. -/
theorem map_routes_of_isMadeOf {c : Collection} {options : CompileOptions} {m : Matcher}
    {runs : List (List SharedLeaf)} (h : c.IsMadeOf options m rs runs) :
    (m.data.leaves.zip m.leaves).map (fun l => l.1.routes) =
      (Collection.sharedLeaves 0 rs []).map SharedLeaf.routes := by
  have hroutes := (isLeafOfShared_of_isMadeOf h).imp fun _ _ hl => hl.routes
  refine List.forall₂_eq_eq_eq ▸ ?_
  exact List.forall₂_map_left_iff.2 (List.forall₂_map_right_iff.2 hroutes.flip)

/-- **A compiled collection is looked up in**, provided that its constraints are whole. -/
theorem represents_of_isMadeOf {c : Collection} {options : CompileOptions} {m : Matcher}
    {runs : List (List SharedLeaf)} (h : c.IsMadeOf options m rs runs)
    (hwhole : ∀ r ∈ c.routes, ∀ p, Pattern.parse r.path = .ok p →
      ∀ constraint ∈ p.constraints pathSegment r.patterns, Pattern.IsWhole constraint) :
    m.Represents rs := by
  have hcomplete : ∀ r ∈ rs, ∀ a ∈ r.atoms, a.IsComplete := by
    intro r hr
    obtain ⟨route, hroute, p, hp⟩ := h.exists_isCompiledTo hr
    exact (Pattern.writes_of_atoms (hwhole route hroute p hp.parse) hp.atoms).1
  have hshared := Collection.isShared_sharedLeaves rs
  have hroutes := map_routes_of_isMadeOf h
  constructor
  case methods =>
    intro r hr
    obtain ⟨route, -, p, hp⟩ := h.exists_isCompiledTo hr
    rw [hp.methods]
    exact hp.nonempty
  case routes => rw [h.data]
  case hosts => exact h.ready.hosts
  case index =>
    rw [h.data]
    exact Collection.isIndex_staticPaths rs
  case literal =>
    intro r hr literal hliteral
    obtain ⟨route, -, hcompile⟩ := exists_of_mem_right h.routes hr
    exact CompiledRoute.values?_of_staticPath? hcompile hliteral
  case leaves =>
    intro l hl
    obtain ⟨s, hs, hleaf⟩ := exists_of_mem_right (isLeafOfShared_of_isMadeOf h) hl
    refine isLeafFor_of_isOf (hshared.each s hs) hleaf (fun r hr => ?_) (fun r hr => ?_) hcomplete
    · obtain ⟨route, -, p, hp⟩ := h.exists_isCompiledTo hr
      exact hp.expression
    · obtain ⟨route, -, p, hp⟩ := h.exists_isCompiledTo hr
      exact hp.vars
  case ordered =>
    -- the order is one of the routes of the leaves, which are those of the shared leaves
    have hbefore : ((m.data.leaves.zip m.leaves).map fun l => l.1.routes).Pairwise
        fun ids ids' => ∀ head ∈ ids.head?, ∀ id ∈ ids', head < id := by
      rw [hroutes]
      exact List.pairwise_map.2 hshared.ordered
    rw [List.pairwise_map] at hbefore
    exact hbefore
  case all =>
    intro id r hr hdynamic
    obtain ⟨s, hs, hid⟩ := hshared.all id r hr hdynamic
    have hmem : s.routes ∈ (m.data.leaves.zip m.leaves).map fun l => l.1.routes := by
      rw [hroutes]
      exact List.mem_map_of_mem hs
    obtain ⟨l, hl, heq⟩ := List.mem_map.1 hmem
    exact ⟨l, hl, heq ▸ hid⟩
  case chunks => exact covers_of_isMadeOf h fun r hr a ha => (hcomplete r hr a ha).toIsSound

/-- **A lookup is a scan of the routes.**  Take a collection whose constraints are complete
expressions and keep their groups, compiled with any strategy and any limit.  A lookup always has
an answer, and it is that of the routes in their order: the first one that accepts, with what its
own expressions take from the request; or else the methods of all routes that fit, each once; or
else nothing, when no route fits. -/
theorem lookup_of_compile {c : Collection} {options : CompileOptions} {m : Matcher}
    (hwhole : ∀ r ∈ c.routes, ∀ p, Pattern.parse r.path = .ok p →
      ∀ constraint ∈ p.constraints pathSegment r.patterns, Pattern.IsWhole constraint)
    (h : c.compile options = .ok m) :
    ∃ compiled, List.Forall₂ (fun r c => Route.compile r = .ok c) c.routes compiled ∧
      ∀ context, ∃ res, m.lookup context = .ok res ∧ Answers compiled context res := by
  obtain ⟨compiled, runs, hmade⟩ := Collection.isMadeOf_of_compile h
  exact ⟨compiled, hmade.routes, (represents_of_isMadeOf hmade hwhole).answers_lookup⟩

end

theorem lookup_of_sample :
    ∃ m compiled, Collection.sample.compile {} = .ok m ∧
      List.Forall₂ (fun r c => Route.compile r = .ok c) Collection.sample.routes compiled ∧
      m.lookup (.of "GET" "/a") = .ok (.found ⟨1, Params.empty.insert "y" "a"⟩) ∧
      Answers compiled (.of "GET" "/a") (.found ⟨1, Params.empty.insert "y" "a"⟩) := by
  have hrun : ((ofData Collection.sampleData).toOption.bind fun m =>
      (m.lookup (.of "GET" "/a")).toOption) = some (.found ⟨1, Params.empty.insert "y" "a"⟩) := by
    decide +kernel
  obtain ⟨m, hm, hrun⟩ := Option.bind_eq_some_iff.1 hrun
  have hcompile : Collection.sample.compile {} = .ok m :=
    Collection.compile_sample.trans (toOption_eq_some.1 hm)
  have hwhole : ∀ r ∈ Collection.sample.routes, ∀ p, Pattern.parse r.path = .ok p →
      ∀ constraint ∈ p.constraints pathSegment r.patterns, Pattern.IsWhole constraint := by
    intro r hr p hp constraint hconstraint
    rw [Collection.constraints_sample r hr p hp constraint hconstraint]
    exact ⟨by decide, by decide⟩
  obtain ⟨compiled, hcompiled, hlookup⟩ := lookup_of_compile hwhole hcompile
  obtain ⟨res, hres, hanswers⟩ := hlookup (.of "GET" "/a")
  obtain rfl := Except.ok.inj (hres.symm.trans (toOption_eq_some.1 hrun))
  exact ⟨m, compiled, hcompile, hcompiled, hres, hanswers⟩

end Signpost.Matcher
