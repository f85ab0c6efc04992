import Mathlib.Algebra.BigOperators.Group.List.Basic
import Mathlib.Data.List.SplitLengths
import Signpost.Proofs.Collection.Faults
import Signpost.Proofs.Collection.Sharing

/-!
# Collections — well-formed data

What a search relies on when it stops early.  In the data of a compiled collection every route has
one place, be it under its literal path or at a leaf; routes that share a place ascend, and so do
the first routes of the leaves; and the chunks divide the leaves among themselves without a rest
(`Matcher.Data.IsWellFormed`).

None of this depends on what the engine answers while leaves are merged (`Collection.dataOf`): its
answers only decide how the leaves are divided.

* `Collection.routeIds_perm`: every route has one place.
* `Collection.isWellFormed_dataOf`: the data are well-formed, however often leaves were halved.
* `Collection.isWellFormed_of_compile`: merging ends, and what it leads to is well-formed.
-/

namespace Signpost

namespace Matcher.Data

/-- The lists of routes that share a place. -/
def places (d : Data) : List (List Nat) :=
  d.staticPaths.toList.map Prod.snd ++ d.leaves.map Leaf.routes

theorem flatten_places (d : Data) : d.places.flatten = d.routeIds := by
  simp [places, routeIds, List.flatMap]

/-- The leaves of each chunk. -/
def parts (d : Data) : List (List Leaf) :=
  (d.chunks.map Chunk.leafCount).splitLengths d.leaves

/-- What holds of the data of `n` compiled routes. -/
structure IsWellFormed (d : Data) (n : Nat) : Prop where
  routes    : d.routes.length = n
  /-- Every route has one place. -/
  once      : d.routeIds.Perm (List.range n)
  nonempty  : ∀ ids ∈ d.places, ids ≠ []
  ascending : ∀ ids ∈ d.places, ids.Pairwise (· < ·)
  /-- The first routes of the leaves ascend. -/
  ordered   : d.leaves.Pairwise fun l l' =>
    ∀ id ∈ l.routes.head?, ∀ id' ∈ l'.routes.head?, id < id'
  claimed   : ∀ c ∈ d.chunks, 0 < c.leafCount
  covered   : (d.chunks.map Chunk.leafCount).sum = d.leaves.length
  markers   : ∀ part ∈ d.parts, (part.map Leaf.marker).Nodup
  bindings  : ∀ l ∈ d.leaves, ∀ b ∈ l.bindings, b.group < l.marker

namespace IsWellFormed

variable {d : Data} {n : Nat}

theorem length_leaves_le (h : d.IsWellFormed n) : d.leaves.length ≤ n := by
  have hones := List.length_le_sum_of_one_le (d.leaves.map fun l => l.routes.length) <| by
    intro k hk
    obtain ⟨l, hl, rfl⟩ := List.mem_map.1 hk
    exact List.length_pos_of_ne_nil
      (h.nonempty l.routes (List.mem_append_right _ (List.mem_map_of_mem hl)))
  rw [List.length_map] at hones
  have hids := h.once.length_eq
  rw [routeIds, List.length_append, List.length_range, List.length_flatMap,
    List.length_flatMap] at hids
  omega

/-- Well-formed data have no fault. -/
theorem fault?_eq_none (h : d.IsWellFormed n) (hn : n < wordSize) : d.fault? = none := by
  refine fault?_eq_none_iff.2 ⟨fun id hid => ?_, fun l hl => ?_, ?_⟩
  · rw [h.routes]
    exact List.mem_range.1 (h.once.mem_iff.1 hid)
  · exact h.nonempty l.routes (List.mem_append_right _ (List.mem_map_of_mem hl))
  · have hsum : d.chunks.foldr (fun c n => c.leafCount + n) 0 = d.leaves.length := by
      rw [← h.covered, List.sum, List.foldr_map]
    rw [Data.covered, hsum]
    exact Nat.mod_eq_of_lt (Nat.lt_of_le_of_lt h.length_leaves_le hn)

end IsWellFormed

end Matcher.Data

namespace Collection

open Matcher (Data Leaf Chunk)

/-! ### Every route has one place -/

/-- A key that comes before all others has no value. -/
theorem lookup_eq_none_of_lt {path : String} {es : List (String × List Nat)}
    (h : ∀ e ∈ es, path < e.1) : es.lookup path = none := by
  induction es with
  | nil => rfl
  | cons e es ih =>
      obtain ⟨he, hes⟩ := List.forall_mem_cons.1 h
      have hne : path ≠ e.1 := fun heq => String.lt_irrefl _ (heq ▸ he)
      rw [Dict.lookup_cons, if_neg hne, ih hes]

/-- A list with one more number, in place of the list under its key, adds that number. -/
theorem place_perm (path : String) (id : Nat) {es : List (String × List Nat)}
    (hascending : es.Pairwise fun a b => a.1 < b.1) :
    ((Dict.place path ((es.lookup path).getD [] ++ [id]) es).flatMap Prod.snd).Perm
      (id :: es.flatMap Prod.snd) := by
  induction es with
  | nil => exact .refl _
  | cons e es ih =>
      obtain ⟨hfirst, hrest⟩ := List.pairwise_cons.1 hascending
      unfold Dict.place
      split
      case isTrue hlt =>
        have hnone : (e :: es).lookup path = none := by
          refine lookup_eq_none_of_lt (List.forall_mem_cons.2 ⟨hlt, fun e' he' => ?_⟩)
          exact String.lt_trans hlt (hfirst e' he')
        rw [hnone]
        exact .refl _
      case isFalse =>
        rw [Dict.lookup_cons]
        split
        case isTrue heq =>
          rw [List.flatMap_cons, List.flatMap_cons, Option.getD_some, List.append_assoc]
          exact List.perm_middle
        case isFalse hne =>
          rw [List.flatMap_cons, List.flatMap_cons]
          exact ((ih hrest).append_left e.2).trans List.perm_middle

theorem insert_perm (d : Dict (List Nat)) (path : String) (id : Nat) :
    ((d.insert path ((d.get? path).getD [] ++ [id])).toList.flatMap Prod.snd).Perm
      (id :: d.toList.flatMap Prod.snd) :=
  place_perm path id d.ascending

theorem share_perm (r : CompiledRoute) (id : Nat) (shared : List SharedLeaf) :
    ((share r id shared).flatMap SharedLeaf.routes).Perm
      (id :: shared.flatMap SharedLeaf.routes) := by
  rcases share_cases r id shared with hnew | ⟨before, s, after, rfl, -, hjoin⟩
  · rw [hnew, List.flatMap_append]
    exact List.perm_append_singleton id _
  · rw [hjoin]
    simp only [List.flatMap_append, List.flatMap_cons, List.append_assoc, List.singleton_append]
    rw [← List.append_assoc, ← List.append_assoc]
    exact List.perm_middle

/-- One step of either index adds the number of the route. -/
theorem places_perm (id : Nat) (compiled : List CompiledRoute) (d : Dict (List Nat))
    (shared : List SharedLeaf) :
    ((staticPaths id compiled d).toList.flatMap Prod.snd ++
      (sharedLeaves id compiled shared).flatMap SharedLeaf.routes).Perm
    (d.toList.flatMap Prod.snd ++ shared.flatMap SharedLeaf.routes ++
      List.range' id compiled.length) := by
  induction compiled generalizing id d shared with
  | nil => simp [staticPaths, sharedLeaves]
  | cons r rest ih =>
      rw [staticPaths, sharedLeaves]
      refine (ih ..).trans ?_
      rw [List.length_cons, List.range'_succ]
      refine List.Perm.trans ?_ List.perm_middle.symm
      rw [← List.cons_append]
      refine List.Perm.append_right _ ?_
      cases hr : r.staticPath? with
      | none => exact ((share_perm r id shared).append_left _).trans List.perm_middle
      | some path => exact (insert_perm d path id).append_right _

/-- **Every route has one place.** -/
theorem routeIds_perm (compiled : List CompiledRoute) :
    ((staticPaths 0 compiled .empty).toList.flatMap Prod.snd ++
      (sharedLeaves 0 compiled []).flatMap SharedLeaf.routes).Perm
    (List.range compiled.length) := by
  rw [List.range_eq_range']
  exact places_perm 0 compiled .empty []

theorem staticPaths_ne_nil (id : Nat) (compiled : List CompiledRoute) {d : Dict (List Nat)}
    (hd : ∀ e ∈ d.toList, e.2 ≠ []) : ∀ e ∈ (staticPaths id compiled d).toList, e.2 ≠ [] := by
  induction compiled generalizing id d with
  | nil => exact hd
  | cons r rest ih =>
      rw [staticPaths]
      refine ih (id + 1) ?_
      split
      case h_1 path hr =>
        intro e he
        rcases Dict.mem_place he with rfl | he
        · simp
        · exact hd e he
      case h_2 => exact hd

/-! ### The data of merged leaves -/

theorem splitLengths_flatten {α : Type} (parts : List (List α)) :
    (parts.map List.length).splitLengths parts.flatten = parts := by
  induction parts with
  | nil => rfl
  | cons part parts ih =>
      rw [List.map_cons, List.splitLengths_cons, List.flatten_cons, List.take_left, List.drop_left,
        ih]

/-- A variable of a place is in a group before its marker. -/
theorem group_lt_of_mem_bindings {lo hi : Nat} {ps : List Place} (h : Tree.IsNumbered lo hi ps)
    {p : Place} (hp : p ∈ ps) {b : Binding} (hb : b ∈ p.bindings) : b.group < p.groups + 1 := by
  obtain ⟨s, hs, hb⟩ := List.mem_flatMap.1 hb
  have hgroup := (Binding.group_gt_of_mem hb).2
  have hspot := (h.spot p hp s hs).2
  exact Nat.lt_succ_of_le (Nat.le_trans hgroup hspot)

/-- The layouts of a merged expression have markers of their own, after all their variables. -/
theorem layouts_ofFragments (strategy : Strategy) (fs : List (List Atom)) :
    ((Merged.ofFragments strategy fs).layouts.map Layout.marker).Nodup ∧
      ∀ layout ∈ (Merged.ofFragments strategy fs).layouts, ∀ b ∈ layout.bindings,
        b.group < layout.marker := by
  have hnumbered := Merged.isNumbered_places strategy fs
  rw [Merged.layouts_eq]
  constructor
  · rw [List.map_map]
    refine List.Pairwise.map _ (fun p q hlt heq => ?_) hnumbered.markers
    exact Nat.ne_of_lt hlt (Nat.succ.inj heq)
  · intro layout hlayout b hb
    obtain ⟨p, hp, rfl⟩ := List.mem_map.1 hlayout
    rw [Place.layout, List.nil_append] at hb
    exact group_lt_of_mem_bindings hnumbered hp hb

section dataOf

variable {options : CompileOptions} {compiled : List CompiledRoute}
  {runs : List (List SharedLeaf)}

theorem parts_dataOf (h : runs.flatten = sharedLeaves 0 compiled []) :
    (dataOf options compiled (runs.map (mergedRun options.strategy))).parts =
      runs.map (leavesOfRun options.strategy) := by
  have hlengths : (runs.map fun run => (⟨(mergedRun options.strategy run).expression,
      run.length⟩ : Chunk)).map Chunk.leafCount =
        (runs.map (leavesOfRun options.strategy)).map List.length := by
    rw [List.map_map, List.map_map]
    exact List.map_congr_left fun run _ => (length_leavesOfRun options.strategy run).symm
  rw [dataOf_runs h, Data.parts, hlengths, List.flatMap, splitLengths_flatten]

/-- The leaves of all runs have the routes of the shared leaves, in the same order. -/
theorem map_routes_runs (options : CompileOptions)
    (h : runs.flatten = sharedLeaves 0 compiled []) :
    (runs.flatMap (leavesOfRun options.strategy)).map Leaf.routes =
      (sharedLeaves 0 compiled []).map SharedLeaf.routes := by
  rw [← h, List.map_flatMap, List.map_flatten, List.flatMap]
  congr 1
  exact List.map_congr_left fun run _ => map_routes_leavesOfRun options.strategy run

/-- Each place of the data has routes, in ascending order. -/
theorem ascending_places (options : CompileOptions)
    (h : runs.flatten = sharedLeaves 0 compiled []) :
    ∀ ids ∈ (dataOf options compiled (runs.map (mergedRun options.strategy))).places,
      ids ≠ [] ∧ ids.Pairwise (· < ·) := by
  rw [dataOf_runs h, Data.places, map_routes_runs options h]
  refine List.forall_mem_append.2 ⟨fun ids hids => ?_, fun ids hids => ?_⟩
  · obtain ⟨e, he, rfl⟩ := List.mem_map.1 hids
    have hascending := (isIndex_staticPaths compiled).ascending e.1
    rw [Dict.get?_of_mem _ he, Option.getD_some] at hascending
    exact ⟨staticPaths_ne_nil 0 compiled (by simp [Dict.empty]) e he, hascending⟩
  · obtain ⟨s, hs, rfl⟩ := List.mem_map.1 hids
    have hleaf := (isShared_sharedLeaves compiled).each s hs
    exact ⟨hleaf.nonempty, hleaf.ascending⟩

/-- **The data of merged leaves are well-formed**, however the leaves are divided. -/
theorem isWellFormed_dataOf (hruns : runs.flatten = sharedLeaves 0 compiled [])
    (hne : ∀ run ∈ runs, run ≠ []) :
    (dataOf options compiled (runs.map (mergedRun options.strategy))).IsWellFormed
      compiled.length := by
  have hplaces := ascending_places options hruns
  constructor
  case routes => exact List.length_map _
  case once =>
    rw [← Data.flatten_places, dataOf_runs hruns, Data.places, map_routes_runs options hruns,
      List.flatten_append]
    exact routeIds_perm compiled
  case nonempty => exact fun ids hids => (hplaces ids hids).1
  case ascending => exact fun ids hids => (hplaces ids hids).2
  case ordered =>
    have hordered : ((sharedLeaves 0 compiled []).map SharedLeaf.routes).Pairwise fun ids ids' =>
        ∀ id ∈ ids.head?, ∀ id' ∈ ids'.head?, id < id' := by
      have hbefore := (isShared_sharedLeaves compiled).ordered
      refine List.pairwise_map.2 (hbefore.imp fun hbefore id hid id' hid' => ?_)
      exact hbefore id hid id' (head?_mem_routes hid')
    rw [dataOf_runs hruns]
    rw [← map_routes_runs options hruns] at hordered
    exact List.pairwise_map.1 hordered
  case claimed =>
    rw [dataOf_runs hruns]
    intro chunk hchunk
    obtain ⟨run, hrun, rfl⟩ := List.mem_map.1 hchunk
    exact List.length_pos_of_ne_nil (hne run hrun)
  case covered =>
    rw [dataOf_runs hruns, List.length_flatMap, List.map_map]
    congr 1
    exact List.map_congr_left fun run _ => (length_leavesOfRun options.strategy run).symm
  case markers =>
    rw [parts_dataOf hruns]
    intro part hpart
    obtain ⟨run, -, rfl⟩ := List.mem_map.1 hpart
    have hnodup := (layouts_ofFragments options.strategy (run.map SharedLeaf.atoms)).1
    rw [← mergedRun, ← map_layout_leavesOfRun, List.map_map] at hnodup
    exact hnodup
  case bindings =>
    -- a leaf has its marker and its bindings from the layout of its run
    rw [dataOf_runs hruns]
    intro l hl b hb
    obtain ⟨run, -, hl⟩ := List.mem_flatMap.1 hl
    have hlayout := List.mem_map_of_mem (f := fun l : Leaf => Layout.mk l.marker l.bindings) hl
    rw [map_layout_leavesOfRun] at hlayout
    exact (layouts_ofFragments options.strategy (run.map SharedLeaf.atoms)).2 _ hlayout b hb

/-- Whatever the engine answers, the machine leads to well-formed data. -/
theorem isWellFormed_of_steps {engine : Engine} {n : Nat} {merged : List Merged}
    (h : Merging.Steps engine options.strategy n
      (Merging.start ((sharedLeaves 0 compiled []).map SharedLeaf.atoms)) ⟨[], merged⟩) :
    (dataOf options compiled merged).IsWellFormed compiled.length := by
  obtain ⟨runs, hruns, hne, rfl⟩ := exists_runs_of_steps h
  exact isWellFormed_dataOf hruns hne

end dataOf

/-- **Merging ends, and what it leads to is well-formed**, whatever the engine answers to each
expression; so is what a collection is compiled to, and none is refused for its data. -/
theorem isWellFormed_of_compile [Regex.Engine] (c : Collection) (options : CompileOptions)
    (hsize : c.routes.length < wordSize) :
    (∀ (engine : Engine), (∀ text, ∃ answer, engine text answer) →
      ∀ compiled : List CompiledRoute,
        Merging.Terminates engine options.strategy
          ((sharedLeaves 0 compiled []).map SharedLeaf.atoms) ∧
        ∀ n merged, Merging.Steps engine options.strategy n
          (Merging.start ((sharedLeaves 0 compiled []).map SharedLeaf.atoms)) ⟨[], merged⟩ →
          (dataOf options compiled merged).IsWellFormed compiled.length) ∧
    (∀ m, c.compile options = .ok m → m.data.IsWellFormed c.routes.length) ∧
    ∀ fault, c.compile options ≠ .error (.badMatcher fault) := by
  refine ⟨fun engine hanswers compiled => ?_, fun m hm => ?_, fun fault herror => ?_⟩
  · exact ⟨Merging.terminates hanswers _ _, fun n merged h => isWellFormed_of_steps h⟩
  · obtain ⟨compiled, runs, hmade⟩ := isMadeOf_of_compile hm
    rw [hmade.data, ← dataOf_runs hmade.shared, hmade.routes.length_eq]
    exact isWellFormed_dataOf hmade.shared hmade.nonempty
  · rcases compile_error_cases herror with
      hroute | ⟨name, hname⟩ | ⟨first, second, hduplicate⟩ | ⟨cause, hregex⟩ |
        ⟨compiled, d, fault, hroutes, hdata, hfault, -⟩
    · cases hroute
    · cases hname
    · cases hduplicate
    · cases hregex
    · obtain ⟨n, merged, rfl, hsteps⟩ := exists_steps_of_matcherData hdata
      rw [hroutes.length_eq] at hsize
      rw [(isWellFormed_of_steps hsteps).fault?_eq_none hsize] at hfault
      cases hfault

/-- The sample: an engine that finds everything too big halves its leaves to the end, and its data
are well-formed. -/
theorem isWellFormed_sample : sample.routes.length < wordSize ∧
    sampleData.IsWellFormed 2 ∧
    Merging.Terminates (fun _ answer => answer = some .tooBig) .segments
      ((sharedLeaves 0 compiledSample []).map SharedLeaf.atoms) := by
  have hsize : sample.routes.length < wordSize := by decide
  obtain ⟨hmerging, hdata, -⟩ := isWellFormed_of_compile sample {} hsize
  obtain ⟨m, hm⟩ : ∃ m, Matcher.ofData sampleData = .ok m := ⟨_, rfl⟩
  refine ⟨hsize, ?_, ?_⟩
  · have hwell := hdata m (compile_sample.trans hm)
    rwa [Matcher.data_of_ofData hm] at hwell
  · exact (hmerging (fun _ answer => answer = some .tooBig) (fun _ => ⟨_, rfl⟩) compiledSample).1

end Collection

end Signpost
