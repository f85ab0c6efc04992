import Signpost.Proofs.Merge.Captures
import Signpost.Regex.Estimate

/-!
# Merging — the numbers of groups

The layouts of a merged expression say which groups hold the marker and the variables of a leaf.
They are counted while the expression is written, and no one looks at the expression again.  Here
the expression is read: its capturing parentheses are numbered as they open, and the number in a
layout is that of the parenthesis that was written for it (`Merged.Counts`).

This takes constraints that are complete by themselves and keep their groups.  A repetition that
admits no copy drops the groups of its body; when these are the last ones of a constraint, what is
reported for it is less than the number of its parentheses, and all groups after it are counted
wrong.

* `Merged.counts_ofPatterns`: the layouts count the parentheses as they are, and a match of the
  merged expression gives the variables of its leaf what the expression of its own gives them.
-/

namespace Signpost

open Regex (Paren Piece Node Reader)
open Matcher (valuesOf)

/-- The text from the capturing parenthesis of the given number on; the first one is number 1. -/
def textAt? (parens : List Paren) : Nat → Option (List Char)
  | 0          => none
  | number + 1 => (parens[number]?).map Paren.text

/-- The bindings of groups that come after the first ones, by the parentheses that are there. -/
theorem map_textAt?_ofCaptures {whole : List Paren} {groups : Nat} {cs : List (Option String)}
    (h : cs.length ≤ (whole.drop groups).length) :
    (Binding.ofCaptures groups cs).map (fun b => (b.name, textAt? whole b.group)) =
      (Atom.named cs ((whole.drop groups).take cs.length)).map fun v => (v.1, some v.2) := by
  induction cs generalizing groups with
  | nil => rfl
  | cons c cs ih =>
      have hlt : groups < whole.length := by
        rw [List.length_drop, List.length_cons] at h
        omega
      have hrest : cs.length ≤ (whole.drop (groups + 1)).length := by
        rw [List.length_drop, List.length_cons] at h
        rw [List.length_drop]
        omega
      rw [List.drop_eq_getElem_cons hlt, List.length_cons, List.take_succ_cons]
      have ih := ih hrest
      cases c with
      | none =>
          rw [Binding.ofCaptures, ih]
          rfl
      | some name =>
          rw [Binding.ofCaptures, List.map_cons, ih, textAt?, List.getElem?_eq_getElem hlt]
          rfl

/-- The bindings of an atom, by the parentheses that are there. -/
theorem Spot.map_textAt?_bindings {whole : List Paren} {s : Spot} (hs : s.IsAt whole)
    (hsound : s.atom.IsSound) :
    s.bindings.map (fun b => (b.name, textAt? whole b.group)) =
      s.atom.marks.map fun v => (v.1, some (v.2 ++ s.after)) := by
  have hlength : s.count ≤ (whole.drop s.groups).length := by
    have hcount := congrArg List.length hs
    rw [List.length_take, List.length_map, hsound.part.count] at hcount
    have hmin : min s.count (whole.drop s.groups).length = s.count := hcount
    omega
  rw [bindings, map_textAt?_ofCaptures hlength]
  have hs : (whole.drop s.groups).take s.atom.captures.length =
      s.atom.parens.map (Paren.append s.after) := hs
  rw [hs, Atom.named_map_append, List.map_map]
  rfl

/-! ### The groups of the expression -/

namespace Tree

/-- Whether some piece has a group of a number. -/
def HasGroup (number : Nat) (ps : List Piece) : Prop := ∃ p ∈ ps, number ∈ p.node.indices

namespace HasGroup

variable {number : Nat} {ps : List Piece}

theorem renumberAll (f : Nat → Nat) (h : HasGroup number ps) :
    HasGroup (f number) (Piece.renumberAll f ps) := by
  obtain ⟨p, hp, hmem⟩ := h
  exact ⟨_, List.mem_map_of_mem hp, Node.mem_indices_renumber.2 ⟨number, hmem, rfl⟩⟩

theorem sequence (h : HasGroup number ps) : number ∈ (Piece.sequence ps).node.indices := by
  obtain ⟨p, hp, hmem⟩ := h
  rw [Piece.node_sequence, Node.indices_sequence]
  exact List.mem_flatMap.2 ⟨_, List.mem_map_of_mem (List.mem_reverse.2 hp), hmem⟩

theorem choice (h : HasGroup number ps) : number ∈ (Piece.choice ps).node.indices := by
  obtain ⟨p, hp, hmem⟩ := h
  rw [Piece.node_choice, Node.indices_choice]
  exact List.mem_flatMap.2 ⟨_, List.mem_map_of_mem (List.mem_reverse.2 hp), hmem⟩

end HasGroup

mutual

/-- The marker of the last leaf is the last group of a tree. -/
theorem hasGroup_pieces : ∀ t : Tree, t.IsForced → HasGroup t.groupCount t.pieces
  | .leaf index rest, _ => by
      have hmarker : HasGroup 1 [⟨.group 1 none .empty, 1, true⟩] :=
        ⟨_, List.mem_singleton_self _, List.mem_cons_self⟩
      obtain ⟨p, hp, hmem⟩ := hmarker.renumberAll (· + (rest.flatMap Atom.captures).length)
      rw [pieces, groupCount, Nat.add_comm]
      exact ⟨p, List.mem_append_left _ hp, hmem⟩
  | .branch shared children, hforced => by
      have hinner : HasGroup (groupCountAll children)
          [⟨(Piece.choice (branches children)).node, (Piece.choice (branches children)).depth + 1,
            true⟩] :=
        ⟨_, List.mem_singleton_self _,
          (hasGroup_branches children hforced.nonempty hforced.children).choice⟩
      obtain ⟨p, hp, hmem⟩ := hinner.renumberAll (· + (shared.flatMap Atom.captures).length)
      rw [pieces, groupCount, Nat.add_comm]
      exact ⟨p, List.mem_append_left _ hp, hmem⟩

theorem hasGroup_branches : ∀ ts : List Tree, ts ≠ [] → (∀ t ∈ ts, t.IsForced) →
    HasGroup (groupCountAll ts) (branches ts)
  | [], hne, _ => absurd rfl hne
  | [t], _, hforced => by
      rw [branches, groupCountAll, groupCountAll]
      exact ⟨_, List.mem_singleton_self _,
        (hasGroup_pieces t (hforced t List.mem_cons_self)).sequence⟩
  | t :: u :: rest, _, hforced => by
      obtain ⟨-, hforcedRest⟩ := List.forall_mem_cons.1 hforced
      have hrest := hasGroup_branches (u :: rest) (by simp) hforcedRest
      obtain ⟨p, hp, hmem⟩ := hrest.renumberAll (· + t.groupCount)
      rw [branches, groupCountAll, Nat.add_comm]
      exact ⟨p, List.mem_append_left _ hp, hmem⟩

end

end Tree

/-! ### Layouts -/

namespace Merged

variable {strategy : Strategy} {fs : List (List Atom)}

/-- Whether the layouts of a merged expression count its capturing parentheses as they are, where
`written` has the variables in each atom of each fragment. -/
structure Counts (strategy : Strategy) (fs : List (List Atom))
    (written : List (List (List (String × List Char)))) (parens : List Paren) : Prop where
  /-- There are as many as are counted. -/
  groups    : parens.length = ((Tree.ofFragments strategy fs).render 0 []).groups
  /-- The places are those of the fragments, in their order. -/
  fragments : (places strategy fs).map Place.fragment = fs.zipIdx
  /-- There is a layout for each of them. -/
  layouts   : (ofFragments strategy fs).layouts.length = (places strategy fs).length
  /-- The marker is the parenthesis that closes the alternative of the fragment. -/
  marker    : ∀ (i : Nat) (layout : Layout) (place : Place),
    (ofFragments strategy fs).layouts[i]? = some layout → (places strategy fs)[i]? = some place →
    textAt? parens layout.marker = some ('(' :: ')' :: place.after)
  /-- The bindings are the variables of the fragment, each with the parenthesis written for it. -/
  bindings  : ∀ (i : Nat) (layout : Layout) (place : Place)
    (atoms : List (List (String × List Char))),
    (ofFragments strategy fs).layouts[i]? = some layout → (places strategy fs)[i]? = some place →
    written[i]? = some atoms →
    layout.bindings.map (fun b => (b.name, textAt? parens b.group)) =
      (place.spots.zip atoms).flatMap fun x => x.2.map fun v => (v.1, some (v.2 ++ x.1.after))

theorem getElem?_layouts {i : Nat} {layout : Layout}
    (h : (ofFragments strategy fs).layouts[i]? = some layout) :
    ∃ place, (places strategy fs)[i]? = some place ∧ layout = place.layout [] := by
  rw [layouts_eq, List.getElem?_map] at h
  obtain ⟨place, hplace, rfl⟩ := Option.map_eq_some_iff.1 h
  exact ⟨place, hplace, rfl⟩

/-- The place of a fragment. -/
theorem getElem?_places {i : Nat} {place : Place} (h : (places strategy fs)[i]? = some place) :
    fs[i]? = some (place.spots.map Spot.atom) ∧ place.index = i := by
  have hfragment : ((places strategy fs).map Place.fragment)[i]? = some place.fragment := by
    rw [List.getElem?_map, h]
    rfl
  rw [map_fragment_places, List.getElem?_zipIdx] at hfragment
  obtain ⟨f, hf, heq⟩ := Option.map_eq_some_iff.1 hfragment
  obtain ⟨rfl, hindex⟩ := Prod.mk.inj heq
  exact ⟨hf, by rw [← hindex, Nat.zero_add]⟩

theorem groups_render (strategy : Strategy) (fs : List (List Atom)) :
    ((Tree.ofFragments strategy fs).render 0 []).groups =
      (Tree.ofFragments strategy fs).groupCount := by
  rw [Tree.render_eq 0 [] []]
  exact Nat.zero_add _

/-- The groups of a merged expression are as many as have been counted for it, since none comes
behind the marker of the last leaf. -/
theorem groupCount_ofFragments (hsound : ∀ f ∈ fs, ∀ a ∈ f, a.IsSound) :
    (Piece.sequence [⟨.look .textEnd, 0, true⟩, .sequence (Tree.ofFragments strategy fs).pieces,
      ⟨.look .textStart, 0, true⟩]).node.groupCount =
      (Tree.ofFragments strategy fs).groupCount := by
  have hpart := Tree.isPart_ofFragments strategy hsound
  have hindices : ∀ i, i ∈ (Piece.sequence [⟨.look .textEnd, 0, true⟩,
      .sequence (Tree.ofFragments strategy fs).pieces,
      ⟨.look .textStart, 0, true⟩]).node.indices ↔
        i ∈ (Piece.sequence (Tree.ofFragments strategy fs).pieces).node.indices := by
    simp [Piece.node_sequence, Node.indices_sequence, Node.indices]
  refine Nat.le_antisymm ?_ ?_
  · exact Node.groupCount_le_iff.2 fun i hi => (hpart.inRange.sequence i ((hindices i).1 hi)).2
  · by_cases hne : fs = []
    · subst hne
      exact Nat.zero_le _
    · have hlast := Tree.hasGroup_pieces _ (Tree.isForced_ofFragments strategy hne)
      exact Node.groupCount_le_iff.1 (Nat.le_refl _) _ ((hindices _).2 hlast.sequence)

/-- The parentheses of a fragment are where its place says. -/
theorem isAt_places (hsound : ∀ f ∈ fs, ∀ a ∈ f, a.IsSound) {place : Place}
    (hplace : place ∈ places strategy fs) :
    place.IsAt ((Tree.ofFragments strategy fs).parens.map (Paren.append ['$'])) := by
  have hne : fs ≠ [] := by
    rintro rfl
    have hnone := congrArg List.length (map_fragment_places strategy [])
    rw [List.length_map] at hnone
    exact List.ne_nil_of_mem hplace (List.length_eq_zero_iff.1 hnone)
  have hat := Tree.isAt_places 0 ['$'] [] [] rfl (Tree.ofFragments strategy fs)
    (Tree.isForced_ofFragments strategy hne) (allAtoms_ofFragments hsound) place hplace
  rwa [List.nil_append, List.append_nil] at hat

/-- The layouts of a merged expression of complete atoms count its parentheses as they are. -/
theorem counts_ofFragments (hcomplete : ∀ f ∈ fs, ∀ a ∈ f, a.IsComplete) :
    ∃ r parens, Reader.ofText? (ofFragments strategy fs).expression.toList = some (r, parens) ∧
      r.current.node.groupCount = ((Tree.ofFragments strategy fs).render 0 []).groups ∧
      Counts strategy fs (fs.map fun f => f.map Atom.marks) parens := by
  have hsound : ∀ f ∈ fs, ∀ a ∈ f, a.IsSound := fun f hf a ha => (hcomplete f hf a ha).toIsSound
  obtain ⟨r, hr, -, -, hcurrent⟩ := ofText?_ofFragments strategy hsound
  refine ⟨r, _, hr, ?_, ?_, map_fragment_places strategy fs, ?_, ?_, ?_⟩
  · rw [hcurrent, groups_render, groupCount_ofFragments hsound]
  · rw [List.length_map, groups_render, (Tree.isPart_ofFragments strategy hsound).count]
  · rw [layouts_eq, List.length_map]
  · intro i layout place hlayout hplace
    obtain ⟨place', hplace', rfl⟩ := getElem?_layouts hlayout
    obtain rfl : place = place' := Option.some.inj (hplace.symm.trans hplace')
    exact (isAt_places hsound (List.mem_of_getElem? hplace)).marker
  · intro i layout place atoms hlayout hplace hatoms
    obtain ⟨place', hplace', rfl⟩ := getElem?_layouts hlayout
    obtain rfl : place = place' := Option.some.inj (hplace.symm.trans hplace')
    obtain ⟨hf, -⟩ := getElem?_places hplace
    rw [List.getElem?_map, hf, Option.map_some] at hatoms
    obtain rfl := Option.some.inj hatoms
    have hat := (isAt_places hsound (List.mem_of_getElem? hplace)).spots
    have hspots : ∀ s ∈ place.spots, s.atom.IsSound := fun s hs =>
      hsound _ (List.mem_of_getElem? hf) _ (List.mem_map_of_mem hs)
    have hzip : place.spots.zip ((place.spots.map Spot.atom).map Atom.marks) =
        place.spots.map fun s => (s, s.atom.marks) := by
      rw [List.map_map, List.zip_map_right, List.zip_eq_zipWith, List.map_zipWith,
        List.zipWith_self]
      rfl
    rw [hzip, List.flatMap_map, Place.layout, List.nil_append, Place.bindings, List.map_flatMap]
    exact List.flatMap_congr fun s hs => Spot.map_textAt?_bindings (hat s hs) (hspots s hs)

/-- **The bindings of a leaf** read from a match of the merged expression what the expression of its
fragment gives to its variables. -/
theorem valuesOf_agree (hsound : ∀ f ∈ fs, ∀ a ∈ f, a.IsSound) {i : Nat} {layout : Layout}
    {f : List Atom} (hlayout : (ofFragments strategy fs).layouts[i]? = some layout)
    (hf : fs[i]? = some f) {merged own : Node}
    (hmerged : Node.ofText? (ofFragments strategy fs).expression.toList = some merged)
    (hown : Node.ofText? (standalone f).1.toList = some own) {path : String}
    {captures : Regex.Captures} (hcaptures : (Regex.mk merged).captures? path = some captures)
    (hmarker : (captures.get? layout.marker).isSome) :
    ∃ ownCaptures, (Regex.mk own).captures? path = some ownCaptures ∧
      valuesOf captures layout.bindings = valuesOf ownCaptures (standalone f).2 := by
  obtain ⟨q, hq, rfl⟩ := getElem?_layouts hlayout
  have hmem := List.mem_of_getElem? hq
  obtain rfl : f = q.spots.map Spot.atom :=
    Option.some.inj (hf.symm.trans (getElem?_places hq).1)
  have hne : fs ≠ [] := List.ne_nil_of_mem (List.mem_of_getElem? hf)
  obtain ⟨p, hp, r, hr, rfl⟩ := exists_place_of_captures? hne hsound hmerged hcaptures
  obtain rfl := eq_of_isSome_marker hsound hp hmem hr hmarker
  have hatoms := hsound _ (map_atom_mem hmem)
  refine ⟨_, by rw [captures?_standalone hatoms hown, hr]; rfl, ?_⟩
  rw [valuesOf_standalone hatoms hr, Place.layout, List.nil_append]
  exact Place.valuesOf_captures (isNumbered_places strategy fs) hmem
    (Place.records_of_fullRun? hatoms hr)

/-- **Capture numbering survives merging.**  Take the fragments of patterns whose constraints are
complete expressions and keep their groups, merged by any strategy.  The expression has as many
capturing groups as have been counted; the marker of each leaf is the number of the parenthesis
that closes its alternative, and each binding that of the parenthesis of its variable.  So what
a match of the merged expression gives to the bindings of a leaf is what the expression of the
fragment alone gives to its own on the same path. -/
theorem counts_ofPatterns [Regex.Engine] (strategy : Strategy) {segment : String}
    {patterns : List (Pattern × Dict String)} {fs : List (List Atom)}
    (hwhole : ∀ p ∈ patterns, ∀ c ∈ p.1.constraints segment p.2, Pattern.IsWhole c)
    (hfs : patterns.mapM (fun p => p.1.atoms segment p.2) = .ok fs) :
    (∃ r parens, Reader.ofText? (ofFragments strategy fs).expression.toList = some (r, parens) ∧
      r.current.node.groupCount = ((Tree.ofFragments strategy fs).render 0 []).groups ∧
      Counts strategy fs (patterns.map fun p => p.1.writtenByAtom segment p.2) parens) ∧
    ∀ (i : Nat) (layout : Layout) (f : List Atom),
      (ofFragments strategy fs).layouts[i]? = some layout → fs[i]? = some f →
      ∀ (limit limit' : Nat) (merged own : Regex),
      Regex.compile (ofFragments strategy fs).expression limit = .ok merged →
      Regex.compile (standalone f).1 limit' = .ok own →
      ∀ (path : String) (captures : Regex.Captures), merged.captures? path = some captures →
      (captures.get? layout.marker).isSome →
      ∃ ownCaptures, own.captures? path = some ownCaptures ∧
        valuesOf captures layout.bindings = valuesOf ownCaptures (standalone f).2 := by
  have hatoms : List.Forall₂ (fun p f => (∀ a ∈ f, a.IsComplete) ∧
      f.map Atom.marks = p.1.writtenByAtom segment p.2) patterns fs :=
    forall₂_of_mem (mapM_eq_ok.1 hfs) fun p hp f hf => Pattern.writes_of_atoms (hwhole p hp) hf
  obtain ⟨hcomplete, hwritten⟩ : (∀ f ∈ fs, ∀ a ∈ f, a.IsComplete) ∧
      (fs.map fun f => f.map Atom.marks) =
        patterns.map fun p => p.1.writtenByAtom segment p.2 := by
    clear hwhole hfs
    induction hatoms with
    | nil => exact ⟨by simp, rfl⟩
    | cons h _ ih => exact ⟨List.forall_mem_cons.2 ⟨h.1, ih.1⟩, by
        rw [List.map_cons, List.map_cons, h.2, ih.2]⟩
  have hsound : ∀ f ∈ fs, ∀ a ∈ f, a.IsSound := fun f hf a ha => (hcomplete f hf a ha).toIsSound
  constructor
  · rw [← hwritten]
    exact counts_ofFragments hcomplete
  · intro i layout f hlayout hf limit limit' merged own hmerged hown path captures
    exact valuesOf_agree hsound hlayout hf (Regex.ofText?_of_compile hmerged)
      (Regex.ofText?_of_compile hown)

/-- A constraint with a group of its own, and a variable without a constraint. -/
def grouped : List (Pattern × Dict String) :=
  [(⟨"/{x:(a)b}", [.text "/", .var "x" (some "(a)b") none]⟩, .empty),
    (⟨"/{y}", [.text "/", .var "y" none none]⟩, .empty)]

/-- The atoms of `grouped`. -/
def groupedAtoms : List (List Atom) :=
  [[.char '/', .group "((a)b)" [some "x", none] false],
    [.char '/', .group "([^/]+)" [some "y"] true]]

theorem isWhole_grouped :
    ∀ p ∈ grouped, ∀ c ∈ p.1.constraints pathSegment p.2, Pattern.IsWhole c := by
  have hx : Pattern.IsWhole "(a)b" := ⟨by decide, by decide⟩
  have hy : Pattern.IsWhole pathSegment := ⟨by decide, by decide⟩
  simp [grouped, Pattern.constraints, Pattern.vars, Token.vars, effectiveConstraint, hx, hy]

theorem atoms_grouped :
    grouped.mapM (fun p => p.1.atoms pathSegment p.2) = .ok groupedAtoms := by
  have hx : Pattern.checkConstraint "/{x:(a)b}" "x" "(a)b" = .ok 1 := by rfl
  have hy : Pattern.checkConstraint "/{y}" "y" pathSegment = .ok 0 := by rfl
  rw [mapM_eq_ok]
  refine .cons ?_ (.cons ?_ .nil)
  · exact Pattern.atoms_eq_ok.2 ⟨_, .cons (Pattern.tokenAtoms_text _)
      (.cons (Pattern.tokenAtoms_var.2 ⟨1, hx, rfl⟩) .nil), rfl⟩
  · exact Pattern.atoms_eq_ok.2 ⟨_, .cons (Pattern.tokenAtoms_text _)
      (.cons (Pattern.tokenAtoms_var.2 ⟨0, hy, rfl⟩) .nil), rfl⟩

theorem merged_grouped :
    ofFragments .segments groupedAtoms =
      ⟨"^(?:/(?:((a)b)()|([^/]+)()))$", [⟨3, [⟨"x", 1⟩]⟩, ⟨5, [⟨"y", 4⟩]⟩]⟩ := by
  decide

theorem standalone_grouped :
    standalone [.char '/', .group "([^/]+)" [some "y"] true] =
      ("^(?:/([^/]+)())$", [⟨"y", 1⟩]) := by
  decide

theorem counts_grouped :
    (∃ r parens, Reader.ofText? (ofFragments .segments groupedAtoms).expression.toList =
        some (r, parens) ∧
      r.current.node.groupCount = ((Tree.ofFragments .segments groupedAtoms).render 0 []).groups ∧
      Counts .segments groupedAtoms (grouped.map fun p => p.1.writtenByAtom pathSegment p.2)
        parens) ∧
    ∃ own ownCaptures, Regex.compile "^(?:/([^/]+)())$" Regex.defaultSizeLimit = .ok own ∧
      own.captures? "/z" = some ownCaptures ∧
      [("y", some "z")] = valuesOf ownCaptures [⟨"y", 1⟩] := by
  obtain ⟨hcounts, hvalues⟩ := counts_ofPatterns .segments isWhole_grouped atoms_grouped
  refine ⟨hcounts, ?_⟩
  have hmatch : ((Regex.compile "^(?:/(?:((a)b)()|([^/]+)()))$"
      Regex.defaultSizeLimit).toOption.bind fun merged =>
        (merged.captures? "/z").map fun c => ((c.get? 5).isSome, valuesOf c [⟨"y", 4⟩])) =
      some (true, [("y", some "z")]) := by
    decide +kernel
  obtain ⟨merged, hmerged, hmatch⟩ := Option.bind_eq_some_iff.1 hmatch
  obtain ⟨captures, hcaptures, hvalue⟩ := Option.map_eq_some_iff.1 hmatch
  obtain ⟨hmarker, hvalue⟩ := Prod.mk.inj hvalue
  obtain ⟨own, hown⟩ :
      ∃ own, Regex.compile "^(?:/([^/]+)())$" Regex.defaultSizeLimit = .ok own := ⟨_, rfl⟩
  have hvalues := hvalues 1 ⟨5, [⟨"y", 4⟩]⟩ [.char '/', .group "([^/]+)" [some "y"] true]
  rw [merged_grouped, standalone_grouped] at hvalues
  obtain ⟨ownCaptures, hownCaptures, hagree⟩ := hvalues rfl rfl Regex.defaultSizeLimit
    Regex.defaultSizeLimit merged own (toOption_eq_some.1 hmerged) hown "/z"
    captures hcaptures hmarker
  exact ⟨own, ownCaptures, hown, hownCaptures, hvalue.symm.trans hagree⟩

end Merged

end Signpost
