import Mathlib.Algebra.BigOperators.Group.List.Lemmas
import Mathlib.Data.List.Sigma
import Signpost.Proofs.Collection.Compiled
import Signpost.Proofs.Collection.Sharing
import Signpost.Regex.Estimate

/-!
# Matching — the leaf of a match

A chunk stands for some leaves in a row (`Matcher.Merges`).  It matches a path when one of them does
by itself, and the match says which one: the marker of the first leaf that matches takes part in
it, and no other.

This takes constraints that stay inside of their parentheses.  The check of a constraint does not
ask for that: `a)|(b` passes it, and in the parenthesis of its variable it is two alternatives, one
of which has no marker.

* `Matcher.marker_of_chunk_match`: a match of a chunk tells its leaf, and the search finds it.
-/

namespace Signpost

open Regex (Node)
open Collection (SharedLeaf mergedRun leavesOfRun)

theorem forall₂_append_left {α β : Type} {R : α → β → Prop} {l l' : List α} {bs : List β}
    (h : List.Forall₂ R (l ++ l') bs) :
    ∃ before after, bs = before ++ after ∧ List.Forall₂ R l before ∧ List.Forall₂ R l' after := by
  induction l generalizing bs with
  | nil => exact ⟨[], bs, rfl, .nil, h⟩
  | cons x l ih =>
      cases h with
      | @cons _ y _ bs hxy hrest =>
          obtain ⟨before, after, rfl, hl, hl'⟩ := ih hrest
          exact ⟨y :: before, after, rfl, .cons hxy hl, hl'⟩

/-- No place comes twice. -/
theorem Merged.nodup_places (strategy : Strategy) (fs : List (List Atom)) :
    (places strategy fs).Nodup := by
  refine List.Nodup.of_map Place.fragment ?_
  rw [map_fragment_places]
  exact (List.nodup_zipIdx_map_snd fs).of_map Prod.snd

/-- A match at one place leaves the markers of all others out. -/
theorem Merged.isSome_marker_eq_false {strategy : Strategy} {fs : List (List Atom)}
    (hsound : ∀ f ∈ fs, ∀ a ∈ f, a.IsSound) {before after : List Place} {p : Place}
    (hplaces : places strategy fs = before ++ p :: after) {text : Array Char} {r : Run Record}
    (hr : Atom.fullRun? text (p.spots.map Spot.atom) = some r) :
    ∀ q ∈ before ++ after, ((p.captures text r).get? (q.groups + 1)).isSome = false := by
  intro q hq
  have hmem : ∀ q ∈ p :: (before ++ after), q ∈ places strategy fs := by
    rw [hplaces]
    exact fun q hq => List.perm_middle.mem_iff.2 hq
  have hnodup := nodup_places strategy fs
  rw [hplaces, List.nodup_middle] at hnodup
  refine Bool.eq_false_iff.2 fun hmarker => ?_
  obtain rfl := eq_of_isSome_marker hsound (hmem p List.mem_cons_self)
    (hmem q (List.mem_cons_of_mem p hq)) hr hmarker
  exact (List.nodup_cons.1 hnodup).1 hq

namespace Matcher

/-! ### A chunk and its leaves -/

/-- What a match of a chunk says of its leaves: which one it is that matches. -/
structure Identifies (captures : Regex.Captures) (path : String)
    (before : List (Leaf × Regex)) (leaf : Leaf × Regex) (after : List (Leaf × Regex)) : Prop where
  marker   : (captures.get? leaf.1.marker).isSome
  unmarked : ∀ l ∈ before ++ after, (captures.get? l.1.marker).isSome = false
  earlier  : ∀ l ∈ before, l.2.captures? path = none
  /-- By itself the leaf matches, too, with the same values. -/
  own      : ∃ own, leaf.2.captures? path = some own ∧
    valuesOf captures leaf.1.bindings = valuesOf own leaf.1.standalone

/-- Whether a chunk stands for leaves. -/
structure Merges (chunk : Chunk × Regex) (leaves : List (Leaf × Regex)) : Prop where
  count  : chunk.1.leafCount = leaves.length
  misses : ∀ path, chunk.2.captures? path = none → ∀ l ∈ leaves, l.2.captures? path = none
  hits   : ∀ path captures, chunk.2.captures? path = some captures →
    ∃ before leaf after, leaves = before ++ leaf :: after ∧
      Identifies captures path before leaf after

/-- Whether a leaf is what is written at a place. -/
structure IsLeafOf (p : Place) (l : Leaf × Regex) : Prop where
  marker     : l.1.marker = p.groups + 1
  bindings   : l.1.bindings = p.bindings
  standalone : l.1.standalone = (Merged.standalone (p.spots.map Spot.atom)).2
  captures   : ∀ path, l.2.captures? path =
    (Atom.fullRun? path.toList.toArray (p.spots.map Spot.atom)).map
      ((Place.own (p.spots.map Spot.atom)).captures path.toList.toArray)

variable {strategy : Strategy} {run : List SharedLeaf} {limit : Nat}

/-- The leaves of a run are at the places of its fragments. -/
theorem isLeafOf_of_run [Regex.Engine] (hsound : ∀ s ∈ run, ∀ a ∈ s.atoms, a.IsSound)
    {rs : List Regex}
    (hrs : List.Forall₂ (fun (l : Leaf) r => Regex.compile l.expression limit = .ok r)
      (leavesOfRun strategy run) rs) :
    List.Forall₂ IsLeafOf (Merged.places strategy (run.map SharedLeaf.atoms))
      ((leavesOfRun strategy run).zip rs) := by
  have hatoms : List.Forall₂ (fun (p : Place) (s : SharedLeaf) => p.spots.map Spot.atom = s.atoms)
      (Merged.places strategy (run.map SharedLeaf.atoms)) run := by
    refine forall₂_of_map_eq ?_
    have hfragments := congrArg (List.map Prod.fst)
      (Merged.map_fragment_places strategy (run.map SharedLeaf.atoms))
    rwa [List.map_map, List.zipIdx_map_fst] at hfragments
  have hleaves : leavesOfRun strategy run = List.zipWith (fun layout s => s.leaf layout)
      ((Merged.places strategy (run.map SharedLeaf.atoms)).map (Place.layout [])) run := by
    rw [leavesOfRun, mergedRun, Merged.layouts_eq]
  rw [hleaves] at hrs ⊢
  clear hleaves
  generalize Merged.places strategy (run.map SharedLeaf.atoms) = ps at hatoms hrs
  induction hatoms generalizing rs with
  | nil => exact .nil
  | @cons p s ps run hp _ ih =>
      obtain ⟨hs, hrun⟩ := List.forall_mem_cons.1 hsound
      cases hrs with
      | @cons _ r _ rs hr hrs =>
          refine .cons ⟨rfl, List.nil_append _, ?_, fun path => ?_⟩ (ih hrun hrs)
          · rw [hp]
            rfl
          · rw [hp]
            exact Merged.captures?_standalone hs (Regex.ofText?_of_compile hr) path

/-- Where a merged expression matches, it tells the leaf whose fragment is the first to match. -/
theorem exists_identifies {fs : List (List Atom)} (hsound : ∀ f ∈ fs, ∀ a ∈ f, a.IsSound)
    {leaves : List (Leaf × Regex)}
    (hleaves : List.Forall₂ IsLeafOf (Merged.places strategy fs) leaves) {path : String}
    {captures : Regex.Captures}
    (hfirst : ((Merged.places strategy fs).findSome? fun p =>
      (Atom.fullRun? path.toList.toArray (p.spots.map Spot.atom)).map
        (p.captures path.toList.toArray)) = some captures) :
    ∃ before leaf after, leaves = before ++ leaf :: after ∧
      Identifies captures path before leaf after := by
  -- `p` is the place of the match, and the places are those of the leaves, one by one
  obtain ⟨ps, p, ps', hps, hp, hearlier⟩ := List.findSome?_eq_some_iff.1 hfirst
  obtain ⟨r, hr, rfl⟩ := Option.map_eq_some_iff.1 hp
  have hmem : p ∈ Merged.places strategy fs := by
    rw [hps]
    exact List.mem_append_right _ List.mem_cons_self
  have hnumbered := Merged.isNumbered_places strategy fs
  have hatoms := hsound _ (Merged.map_atom_mem hmem)
  have hrecords := Place.records_of_fullRun? hatoms hr
  have hother := Merged.isSome_marker_eq_false hsound hps hr
  rw [hps] at hleaves
  obtain ⟨before, rest, rfl, hbefore, hrest⟩ := forall₂_append_left hleaves
  obtain ⟨leaf, after, hleaf, hafter, rfl⟩ := List.forall₂_cons_left_iff.1 hrest
  refine ⟨before, leaf, after, rfl, ?_⟩
  constructor
  case marker =>
    rw [hleaf.marker]
    exact (Place.isSome_marker_iff hnumbered hmem hmem hrecords).2 rfl
  case unmarked =>
    intro l hl
    obtain ⟨q, hq, hqleaf⟩ := exists_of_mem_right (List.rel_append hbefore hafter) hl
    rw [hqleaf.marker]
    exact hother q hq
  case earlier =>
    intro l hl
    obtain ⟨q, hq, hqleaf⟩ := exists_of_mem_right hbefore hl
    rw [hqleaf.captures, Option.map_eq_none_iff.1 (hearlier q hq)]
    rfl
  case own =>
    refine ⟨(Place.own (p.spots.map Spot.atom)).captures path.toList.toArray r, ?_, ?_⟩
    · rw [hleaf.captures, hr]
      rfl
    · rw [hleaf.bindings, hleaf.standalone, Merged.valuesOf_standalone hatoms hr]
      exact Place.valuesOf_captures hnumbered hmem hrecords

/-- **A chunk stands for its leaves.** -/
theorem merges_run [Regex.Engine] (hne : run ≠ []) (hsound : ∀ s ∈ run, ∀ a ∈ s.atoms, a.IsSound)
    {e : Regex} (he : Regex.compile (mergedRun strategy run).expression limit = .ok e)
    {rs : List Regex}
    (hrs : List.Forall₂ (fun (l : Leaf) r => Regex.compile l.expression limit = .ok r)
      (leavesOfRun strategy run) rs) :
    Merges (⟨(mergedRun strategy run).expression, run.length⟩, e)
      ((leavesOfRun strategy run).zip rs) := by
  have hleaves := isLeafOf_of_run hsound hrs
  have hfne : run.map SharedLeaf.atoms ≠ [] := fun h => hne (List.map_eq_nil_iff.1 h)
  have hfsound : ∀ f ∈ run.map SharedLeaf.atoms, ∀ a ∈ f, a.IsSound := by
    simpa using hsound
  have hcaptures := Merged.captures?_ofFragments hfne hfsound (Regex.ofText?_of_compile he)
  constructor
  case count =>
    rw [List.length_zip, ← hrs.length_eq, Nat.min_self, Collection.length_leavesOfRun]
  case misses =>
    intro path hnone l hl
    obtain ⟨p, hp, hleaf⟩ := exists_of_mem_right hleaves hl
    have hfirst := List.findSome?_eq_none_iff.1 ((hcaptures path).symm.trans hnone) p hp
    rw [hleaf.captures, Option.map_eq_none_iff.1 hfirst]
    rfl
  case hits =>
    exact fun path captures hsome =>
      exists_identifies hfsound hleaves ((hcaptures path).symm.trans hsome)

/-! ### All chunks -/

/-- The chunk of a run. -/
def chunkOfRun (strategy : Strategy) (run : List SharedLeaf) : Chunk :=
  ⟨(mergedRun strategy run).expression, run.length⟩

/-- Chunks stand for their leaves, one after another. -/
theorem merges_runs [Regex.Engine] {runs : List (List SharedLeaf)} (hne : ∀ run ∈ runs, run ≠ [])
    (hsound : ∀ run ∈ runs, ∀ s ∈ run, ∀ a ∈ s.atoms, a.IsSound) {es rs : List Regex}
    (hes : List.Forall₂ (fun (c : Chunk) r => Regex.compile c.expression limit = .ok r)
      (runs.map (chunkOfRun strategy)) es)
    (hrs : List.Forall₂ (fun (l : Leaf) r => Regex.compile l.expression limit = .ok r)
      (runs.flatMap (leavesOfRun strategy)) rs) :
    ∃ parts, parts.flatten = (runs.flatMap (leavesOfRun strategy)).zip rs ∧
      List.Forall₂ Merges ((runs.map (chunkOfRun strategy)).zip es) parts := by
  induction runs generalizing es rs with
  | nil => exact ⟨[], by simp, .nil⟩
  | cons run runs ih =>
      obtain ⟨hrun, hruns⟩ := List.forall_mem_cons.1 hne
      obtain ⟨hatoms, hsound⟩ := List.forall_mem_cons.1 hsound
      obtain ⟨e, es, he, hrest, rfl⟩ := List.forall₂_cons_left_iff.1 hes
      obtain ⟨own, rest, rfl, hown, hleaves⟩ := forall₂_append_left hrs
      obtain ⟨parts, hparts, hmerges⟩ := ih hruns hsound hrest hleaves
      refine ⟨(leavesOfRun strategy run).zip own :: parts, ?_,
        .cons (merges_run hrun hatoms he hown) hmerges⟩
      rw [List.flatten_cons, hparts, List.flatMap_cons, List.zip_append hown.length_eq]

/-- The leaves of a chunk: those after the leaves that the chunks before it claim. -/
def leavesOfChunk (m : Matcher) (i : Nat) : List (Leaf × Regex) :=
  ((m.data.leaves.zip m.leaves).take ((m.data.chunks.map Chunk.leafCount).take (i + 1)).sum).drop
    ((m.data.chunks.map Chunk.leafCount).take i).sum

/-- What the search looks at: chunks, each with its leaves, and few enough of them to be counted in
a machine word. -/
structure Covers (m : Matcher) (parts : List (List (Leaf × Regex))) : Prop where
  merges  : List.Forall₂ Merges (m.data.chunks.zip m.chunks) parts
  flatten : parts.flatten = m.data.leaves.zip m.leaves
  length  : parts.flatten.length = m.data.leaves.length
  small   : parts.flatten.length < wordSize

/-- The atoms of the leaves are those of the routes. -/
theorem forall_mem_atoms [Regex.Engine] {c : Collection} {options : CompileOptions} {m : Matcher}
    {compiled : List CompiledRoute} {runs : List (List SharedLeaf)}
    (h : c.IsMadeOf options m compiled runs) {P : List Atom → Prop}
    (hP : ∀ r ∈ compiled, P r.atoms) : ∀ run ∈ runs, ∀ s ∈ run, P s.atoms := by
  intro run hrun s hs
  have hshared : s ∈ Collection.sharedLeaves 0 compiled [] := by
    rw [← h.shared]
    exact List.mem_flatten.2 ⟨run, hrun, hs⟩
  obtain ⟨r, hr, heq, -⟩ := ((Collection.isShared_sharedLeaves compiled).each s hshared).atoms
  exact heq ▸ hP r hr

theorem covers_of_isMadeOf [Regex.Engine] {c : Collection} {options : CompileOptions} {m : Matcher}
    {compiled : List CompiledRoute} {runs : List (List SharedLeaf)}
    (h : c.IsMadeOf options m compiled runs) (hsound : ∀ r ∈ compiled, ∀ a ∈ r.atoms, a.IsSound) :
    ∃ parts, m.Covers parts := by
  have hchunks := h.ready.chunks
  have hleaves := h.ready.leaves
  have hfault := h.ready.noFault
  have hlength := hleaves.length_eq
  rw [h.data] at hchunks hleaves
  obtain ⟨parts, hflatten, hmerges⟩ := merges_runs h.nonempty
    (forall_mem_atoms h (P := fun as => ∀ a ∈ as, a.IsSound) hsound) hchunks hleaves
  have hzip : parts.flatten = m.data.leaves.zip m.leaves := by
    rw [hflatten, h.data]
  have hcount : parts.flatten.length = m.data.leaves.length := by
    rw [hzip, List.length_zip, ← hlength, Nat.min_self]
  refine ⟨parts, ?_, hzip, hcount, ?_⟩
  · rw [h.data]
    exact hmerges
  · rw [hcount, ← covered_of_fault? hfault]
    exact Nat.mod_lt _ (by decide)

theorem Covers.leavesOfChunk [Regex.Engine] {m : Matcher} {parts : List (List (Leaf × Regex))}
    (h : m.Covers parts) (hready : m.IsReady) {i : Nat} {e : Regex} (he : m.chunks[i]? = some e) :
    ∃ chunk, Merges (chunk, e) (m.leavesOfChunk i) := by
  have hcounts : m.data.chunks.map Chunk.leafCount = parts.map List.length := by
    have hcounts : (m.data.chunks.zip m.chunks).map (Chunk.leafCount ∘ Prod.fst) =
        parts.map List.length := by
      refine List.forall₂_eq_eq_eq ▸ ?_
      exact List.forall₂_map_left_iff.2 (List.forall₂_map_right_iff.2
        (h.merges.imp fun _ _ hmerges => hmerges.count))
    rwa [← List.map_map, List.map_fst_zip hready.chunks.length_eq.le] at hcounts
  obtain ⟨hi, hfound⟩ := List.getElem?_eq_some_iff.1 he
  have hlt : i < (m.data.chunks.zip m.chunks).length := by
    rwa [List.length_zip, hready.chunks.length_eq, Nat.min_self]
  have hparts : i < parts.length := h.merges.length_eq ▸ hlt
  have hmerges := h.merges.get hlt hparts
  refine ⟨(m.data.chunks.zip m.chunks)[i].1, ?_⟩
  rw [Matcher.leavesOfChunk, hcounts, ← h.flatten, List.drop_take_succ_flatten_eq_getElem]
  rw [List.get_eq_getElem, List.get_eq_getElem, List.getElem_zip, hfound] at hmerges
  rw [List.getElem_zip]
  exact hmerges

/-! ### The search -/

/-- The first chunk that matches, and its leaves. -/
theorem firstMatch?_eq_some {chunks : List (Chunk × Regex)} {parts : List (List (Leaf × Regex))}
    (h : List.Forall₂ Merges chunks parts) {path : String} {offset : Nat}
    (hsmall : offset + parts.flatten.length < wordSize) {start count : Nat}
    {captures : Regex.Captures} (hmatch : firstMatch? path offset chunks =
      some (start, count, captures)) :
    ∃ earlier part later, parts = earlier ++ part :: later ∧
      start = offset + earlier.flatten.length ∧ count = part.length ∧
      (∀ l ∈ earlier.flatten, l.2.captures? path = none) ∧
      ∃ before leaf after, part = before ++ leaf :: after ∧
        Identifies captures path before leaf after := by
  induction h generalizing offset with
  | nil => cases hmatch
  | @cons chunk part chunks parts hpart _ ih =>
      rw [firstMatch?] at hmatch
      split at hmatch
      case h_1 captures' hcaptures =>
        obtain ⟨rfl, rfl, rfl⟩ : offset = start ∧ chunk.1.leafCount = count ∧
            captures' = captures := by
          simpa using hmatch
        exact ⟨[], part, parts, rfl, rfl, hpart.count, by simp, hpart.hits path _ hcaptures⟩
      case h_2 hnone =>
        rw [List.flatten_cons, List.length_append] at hsmall
        have hoffset : (offset + chunk.1.leafCount) % wordSize = offset + part.length := by
          rw [hpart.count]
          exact Nat.mod_eq_of_lt (by omega)
        rw [hoffset] at hmatch
        obtain ⟨earlier, part', later, rfl, rfl, hcount, hearlier, hidentifies⟩ :=
          ih (by omega) hmatch
        refine ⟨part :: earlier, part', later, rfl, ?_, hcount, ?_, hidentifies⟩
        · rw [List.flatten_cons, List.length_append, Nat.add_assoc]
        · rw [List.flatten_cons]
          exact List.forall_mem_append.2 ⟨hpart.misses path hnone, hearlier⟩

theorem firstMatch?_eq_none {chunks : List (Chunk × Regex)} {parts : List (List (Leaf × Regex))}
    (h : List.Forall₂ Merges chunks parts) {path : String} {offset : Nat}
    (hnone : firstMatch? path offset chunks = none) :
    ∀ l ∈ parts.flatten, l.2.captures? path = none := by
  induction h generalizing offset with
  | nil => simp
  | @cons chunk part chunks parts hpart _ ih =>
      rw [firstMatch?] at hnone
      split at hnone
      case h_1 => cases hnone
      case h_2 hchunk =>
        rw [List.flatten_cons]
        exact List.forall_mem_append.2 ⟨hpart.misses path hchunk, ih hnone⟩

/-- The first leaf whose marker takes part. -/
theorem findIdx?_marker {captures : Regex.Captures} {path : String}
    {before after : List (Leaf × Regex)} {leaf : Leaf × Regex}
    (h : Identifies captures path before leaf after) :
    (before ++ leaf :: after).findIdx? (fun l => (captures.get? l.1.marker).isSome) =
      some before.length := by
  have hbefore : before.findIdx? (fun l => (captures.get? l.1.marker).isSome) = none :=
    List.findIdx?_eq_none_iff.2 fun l hl => h.unmarked l (List.mem_append_left _ hl)
  rw [List.findIdx?_append, hbefore, List.findIdx?_cons, h.marker]
  simp

/-- **The search goes on from the first leaf that matches**, as if that had been tried by itself. -/
theorem searchLeaves_eq {m : Matcher} {parts : List (List (Leaf × Regex))} (h : m.Covers parts)
    (c : Context) (t : Tally) :
    (∀ l ∈ m.data.leaves.zip m.leaves, l.2.captures? c.path = none) ∧
        m.searchLeaves c t = .ok t ∨
      ∃ before leaf after own, m.data.leaves.zip m.leaves = before ++ leaf :: after ∧
        (∀ l ∈ before, l.2.captures? c.path = none) ∧ leaf.2.captures? c.path = some own ∧
        m.searchLeaves c t = .ok (m.tryLeaves c
          (m.tryRoutes c (valuesOf own leaf.1.standalone) t leaf.1.routes) after) := by
  cases hmatch : firstMatch? c.path 0 (m.data.chunks.zip m.chunks) with
  | none =>
      refine .inl ⟨?_, by rw [searchLeaves, hmatch]⟩
      rw [← h.flatten]
      exact firstMatch?_eq_none h.merges hmatch
  | some found =>
      obtain ⟨start, count, captures⟩ := found
      have hsmall : 0 + parts.flatten.length < wordSize := by
        rw [Nat.zero_add]
        exact h.small
      obtain ⟨earlier, part, later, rfl, rfl, rfl, hearlier, before, leaf, after, rfl, hleaf⟩ :=
        firstMatch?_eq_some h.merges hsmall hmatch
      obtain ⟨own, hown, hvalues⟩ := hleaf.own
      have hsplit : m.data.leaves.zip m.leaves =
          earlier.flatten ++ ((before ++ leaf :: after) ++ later.flatten) := by
        rw [← h.flatten, List.flatten_append, List.flatten_cons]
      have hlength : m.data.leaves.length = earlier.flatten.length +
          ((before ++ leaf :: after).length + later.flatten.length) := by
        rw [← h.length, List.flatten_append, List.flatten_cons, List.length_append,
          List.length_append]
      -- the sum is one of machine words, but it does not overflow
      have hstop : (earlier.flatten.length + (before ++ leaf :: after).length) % wordSize =
          earlier.flatten.length + (before ++ leaf :: after).length := by
        have hsmall := h.small
        rw [h.length] at hsmall
        exact Nat.mod_eq_of_lt (by omega)
      refine .inr ⟨earlier.flatten ++ before, leaf, after ++ later.flatten, own, ?_, ?_, hown, ?_⟩
      · rw [hsplit]
        simp
      · exact List.forall_mem_append.2 ⟨hearlier, hleaf.earlier⟩
      · have hrange : ¬ (earlier.flatten.length + (before ++ leaf :: after).length <
            earlier.flatten.length ∨ m.data.leaves.length <
            earlier.flatten.length + (before ++ leaf :: after).length) := by
          omega
        have hdrop : (before ++ leaf :: after ++ later.flatten).drop before.length =
            leaf :: (after ++ later.flatten) := by
          rw [List.append_assoc, List.drop_left, List.cons_append]
        simp only [searchLeaves, hmatch, hstop, if_neg hrange, hsplit, Nat.zero_add,
          List.drop_left, Nat.add_sub_cancel_left, List.take_left, findIdx?_marker hleaf, hdrop,
          hvalues]

/-- **A match of a chunk tells its leaf.**  Take a collection whose constraints stay inside of
their parentheses.  Whenever a chunk matches a path, the marker of exactly one of its leaves takes
part in the match, and that leaf matches the path by itself; so the search finds a leaf in each
chunk at which it stops. -/
theorem marker_of_chunk_match [Regex.Engine] {c : Collection} {options : CompileOptions}
    {m : Matcher}
    (hin : ∀ r ∈ c.routes, ∀ p, Pattern.parse r.path = .ok p →
      ∀ constraint ∈ p.constraints pathSegment r.patterns, staysInside constraint = true)
    (h : c.compile options = .ok m) (path : String) :
    (∀ (i : Nat) (e : Regex) (captures : Regex.Captures), m.chunks[i]? = some e →
      e.captures? path = some captures →
      ∃ before leaf after, m.leavesOfChunk i = before ++ leaf :: after ∧
        (captures.get? leaf.1.marker).isSome ∧
        (∀ l ∈ before ++ after, (captures.get? l.1.marker).isSome = false) ∧
        (leaf.2.captures? path).isSome) ∧
    ∀ (start count : Nat) (captures : Regex.Captures),
      firstMatch? path 0 (m.data.chunks.zip m.chunks) = some (start, count, captures) →
      start + count ≤ m.data.leaves.length ∧
      ∃ i, (((m.data.leaves.zip m.leaves).drop start).take count).findIdx?
        (fun l => (captures.get? l.1.marker).isSome) = some i := by
  obtain ⟨compiled, runs, hmade⟩ := Collection.isMadeOf_of_compile h
  have hsound : ∀ r ∈ compiled, ∀ a ∈ r.atoms, a.IsSound := by
    intro r hr
    obtain ⟨route, hroute, p, hp⟩ := hmade.exists_isCompiledTo hr
    exact Pattern.isSound_of_atoms (hin route hroute p hp.parse) hp.atoms
  obtain ⟨parts, hparts⟩ := covers_of_isMadeOf hmade hsound
  constructor
  · intro i e captures he hcaptures
    obtain ⟨chunk, hchunk⟩ := hparts.leavesOfChunk hmade.ready he
    obtain ⟨before, leaf, after, hleaves, hleaf⟩ := hchunk.hits path captures hcaptures
    obtain ⟨own, hown, -⟩ := hleaf.own
    exact ⟨before, leaf, after, hleaves, hleaf.marker, hleaf.unmarked, by rw [hown]; rfl⟩
  · intro start count captures hmatch
    have hsmall : 0 + parts.flatten.length < wordSize := by
      rw [Nat.zero_add]
      exact hparts.small
    obtain ⟨earlier, part, later, rfl, rfl, rfl, -, before, leaf, after, rfl, hleaf⟩ :=
      firstMatch?_eq_some hparts.merges hsmall hmatch
    rw [← hparts.length, ← hparts.flatten, List.flatten_append, List.flatten_cons, Nat.zero_add]
    refine ⟨by simp only [List.length_append]; omega, before.length, ?_⟩
    rw [List.drop_left, List.take_left]
    exact findIdx?_marker hleaf

theorem marker_of_sample_match :
    ∃ m e captures, Collection.sample.compile {} = .ok m ∧ m.chunks[0]? = some e ∧
      e.captures? "/p" = some captures ∧
      ∃ before leaf after, m.leavesOfChunk 0 = before ++ leaf :: after ∧
        (captures.get? leaf.1.marker).isSome ∧
        (∀ l ∈ before ++ after, (captures.get? l.1.marker).isSome = false) ∧
        (leaf.2.captures? "/p").isSome := by
  have hrun : ((ofData Collection.sampleData).toOption.bind fun m =>
      m.chunks[0]?.bind fun e => e.captures? "/p").isSome := by
    decide +kernel
  obtain ⟨captures, hrun⟩ := Option.isSome_iff_exists.1 hrun
  obtain ⟨m, hm, hrun⟩ := Option.bind_eq_some_iff.1 hrun
  obtain ⟨e, he, hcaptures⟩ := Option.bind_eq_some_iff.1 hrun
  have hcompile : Collection.sample.compile {} = .ok m :=
    Collection.compile_sample.trans (toOption_eq_some.1 hm)
  have hin : ∀ r ∈ Collection.sample.routes, ∀ p, Pattern.parse r.path = .ok p →
      ∀ constraint ∈ p.constraints pathSegment r.patterns, staysInside constraint = true := by
    intro r hr p hp constraint hconstraint
    rw [Collection.constraints_sample r hr p hp constraint hconstraint]
    decide
  exact ⟨m, e, captures, hcompile, he, hcaptures,
    (marker_of_chunk_match hin hcompile "/p").1 0 e captures he hcaptures⟩

end Matcher

end Signpost
