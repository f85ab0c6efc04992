import Signpost.Matcher.Lookup
import Signpost.Proofs.Merge.Matching

/-!
# Merging — the matches of a merged expression

A match of a merged expression is the first full run of a fragment (`Atom.fullRun?`), in the order
of the fragments; its spans are those of the run, with the numbers of the place of the leaf.

Since the places have numbers of their own, a match has the marker of its own leaf and of no other,
and the bindings of a leaf read the spans of the run, whatever their numbers are.

* `Merged.captures?_ofFragments`: what a merged expression matches.
* `Place.isSome_marker_iff`: which markers are in a match.
* `Place.valuesOf_captures`: what a match gives to the variables of its leaf.
-/

namespace Signpost

open Regex (Piece Node Reader State Span Positional InRange)
open Matcher (valuesOf)

/-- What an atom has captured in a run. -/
abbrev Record := List (Nat × Span)

/-- The first run of atoms through the whole of a text. -/
def Atom.fullRun? (text : Array Char) (as : List Atom) : Option (Run Record) :=
  (runs (Ways.ofRegex text) as 0).find? fun r => text.size ≤ r.stop

/-- What is captured when the leaf at a place matches. -/
def Place.captures (text : Array Char) (p : Place) (r : Run Record) : Regex.Captures :=
  ⟨text, (0, ⟨0, r.stop⟩) :: p.spans r⟩

/-! ### The numbers in a match -/

/-- What atoms have captured for their variables. -/
def Atom.values : List Atom → List Record → List (String × Option Span)
  | a :: as, r :: rs =>
    (Binding.ofCaptures 0 a.captures).map (fun b => (b.name, r.lookup b.group)) ++ values as rs
  | _, _             => []

/-- Whether what has been captured belongs to groups of the atoms. -/
def Atom.Records : List Atom → List Record → Prop :=
  List.Forall₂ fun a r => ∀ q ∈ r, InRange a.captures.length q.1

theorem Ways.inRange_ofRegex {text : Array Char} {a : Atom} (ha : a.IsSound) {pos : Nat}
    {o : Record × Nat} (ho : o ∈ ofRegex text a pos) :
    ∀ q ∈ o.1, InRange a.captures.length q.1 := by
  obtain ⟨s, hs, rfl⟩ := List.mem_map.1 ho
  exact Node.spans_mem_advance text ha.part.inRange.sequence (by simp) s
    (Regex.mem_of_mem_firstAtEach hs)

theorem Atom.records_of_mem_runs {text : Array Char} {as : List Atom}
    (hsound : ∀ a ∈ as, a.IsSound) {pos : Nat} {r : Run Record}
    (hr : r ∈ runs (Ways.ofRegex text) as pos) : Records as r.records := by
  induction as generalizing pos r with
  | nil =>
      obtain rfl := List.mem_singleton.1 hr
      exact .nil
  | cons a as ih =>
      obtain ⟨ha, has⟩ := List.forall_mem_cons.1 hsound
      obtain ⟨o, ho, hafter⟩ := List.mem_flatMap.1 hr
      obtain ⟨r', hr', rfl⟩ := List.mem_map.1 hafter
      exact .cons (Ways.inRange_ofRegex ha ho) (ih has hr')

namespace Spot

variable {ss : List Spot} {rs : List Record}

/-- The spans of atoms have the numbers of their groups. -/
theorem exists_of_mem_spansAll (hrs : Atom.Records (ss.map atom) rs) {q : Nat × Span}
    (hq : q ∈ spansAll ss rs) : ∃ s ∈ ss, s.groups < q.1 ∧ q.1 ≤ s.groups + s.count := by
  induction ss generalizing rs with
  | nil =>
      cases hrs
      cases hq
  | cons s ss ih =>
      cases hrs with
      | cons hr hrs =>
          rcases List.mem_append.1 hq with hq | hq
          · obtain ⟨s', hs', hbounds⟩ := ih hrs hq
            exact ⟨s', List.mem_cons_of_mem s hs', hbounds⟩
          · obtain ⟨q', hq', rfl⟩ := List.mem_map.1 hq
            obtain ⟨hpos, hle⟩ := hr q' hq'
            refine ⟨s, List.mem_cons_self, ?_⟩
            simp only [count]
            omega

theorem lookup_shift (groups i : Nat) (r : Record) :
    (r.map fun q => (q.1 + groups, q.2)).lookup (i + groups) = r.lookup i := by
  induction r with
  | nil => rfl
  | cons q r ih =>
      obtain ⟨k, s⟩ := q
      have hkey : (i + groups == k + groups) = (i == k) := by
        rw [Bool.eq_iff_iff, beq_iff_eq, beq_iff_eq]
        omega
      rw [List.map_cons, List.lookup_cons, List.lookup_cons, hkey, ih]

theorem ofCaptures_shift (groups : Nat) (cs : List (Option String)) :
    Binding.ofCaptures groups cs =
      (Binding.ofCaptures 0 cs).map fun b => ⟨b.name, b.group + groups⟩ := by
  have shift : ∀ n, Binding.ofCaptures (n + groups) cs =
      (Binding.ofCaptures n cs).map fun b => ⟨b.name, b.group + groups⟩ := by
    induction cs with
    | nil => exact fun _ => rfl
    | cons c cs ih =>
        intro n
        have hn : n + groups + 1 = n + 1 + groups := by omega
        cases c with
        | none => rw [Binding.ofCaptures, Binding.ofCaptures, hn, ih]
        | some name => rw [Binding.ofCaptures, Binding.ofCaptures, hn, ih, List.map_cons]
  simpa using shift 0

/-- **Bindings read the run**, whatever the numbers of the groups are. -/
theorem map_lookup_bindings (hrs : Atom.Records (ss.map atom) rs)
    (hss : ss.Pairwise fun s s' => s.groups + s.count ≤ s'.groups) :
    (ss.flatMap bindings).map (fun b => (b.name, (spansAll ss rs).lookup b.group)) =
      Atom.values (ss.map atom) rs := by
  induction ss generalizing rs with
  | nil =>
      cases hrs
      rfl
  | cons s ss ih =>
      cases hrs with
      | @cons _ r _ rs hr hrs =>
          obtain ⟨hfirst, hss⟩ := List.pairwise_cons.1 hss
          rw [List.flatMap_cons, List.map_append, List.map_cons, Atom.values]
          congr 1
          · rw [bindings, ofCaptures_shift, List.map_map]
            refine List.map_congr_left fun b hb => ?_
            obtain ⟨-, hle⟩ := Binding.group_gt_of_mem hb
            -- the groups of the other atoms come after those of this one
            have hrest : (spansAll ss rs).lookup (b.group + s.groups) = none := by
              refine List.lookup_eq_none_iff.2 fun q hq => ?_
              obtain ⟨s', hs', hlt, -⟩ := exists_of_mem_spansAll hrs hq
              have hle' := hfirst s' hs'
              simp only [count] at hle'
              have hne : b.group + s.groups ≠ q.1 := by omega
              exact bne_iff_ne.2 hne
            rw [Function.comp_apply, spansAll, List.lookup_append, hrest, Option.none_or,
              lookup_shift]
          · rw [← ih hrs hss]
            refine List.map_congr_left fun b hb => ?_
            obtain ⟨s', hs', hb⟩ := List.mem_flatMap.1 hb
            have hgt := (Binding.group_gt_of_mem hb).1
            have hle := hfirst s' hs'
            -- and those of the first atom before them
            have hfirst : (r.map fun q => (q.1 + s.groups, q.2)).lookup b.group = none := by
              refine List.lookup_eq_none_iff.2 fun q hq => ?_
              obtain ⟨q', hq', rfl⟩ := List.mem_map.1 hq
              have hle' := (hr q' hq').2
              simp only [count] at hle
              have hne : b.group ≠ q'.1 + s.groups := by omega
              exact bne_iff_ne.2 hne
            rw [spansAll, List.lookup_append, hfirst, Option.or_none]

end Spot

/-! ### Markers and variables in a match -/

namespace Place

variable {text : Array Char} {lo hi : Nat} {ps : List Place} {p q : Place} {r : Run Record}

theorem records_of_fullRun? {as : List Atom} (hsound : ∀ a ∈ as, a.IsSound)
    (hr : Atom.fullRun? text as = some r) : Atom.Records as r.records :=
  Atom.records_of_mem_runs hsound (List.mem_of_find?_eq_some hr)

/-- What a match has for a group. -/
theorem get?_captures (text : Array Char) (p : Place) (r : Run Record) {i : Nat} (hi : i ≠ 0) :
    (p.captures text r).get? i =
      (if i = p.groups + 1 then some ⟨r.stop, r.stop⟩
        else (Spot.spansAll p.spots r.records).lookup i).map fun s =>
          String.ofList (text.extract s.start s.stop).toList := by
  have hzero : (i == 0) = false := beq_false_of_ne hi
  rw [Regex.Captures.get?, captures, spans]
  simp only [List.lookup_cons, hzero]
  by_cases h : i = p.groups + 1
  · simp [h]
  · simp [h, beq_false_of_ne h]

/-- **The marker of a leaf is in a match** when the leaf is the one that matches, and only then. -/
theorem isSome_marker_iff (hps : Tree.IsNumbered lo hi ps) (hp : p ∈ ps) (hq : q ∈ ps)
    (hr : Atom.Records (p.spots.map Spot.atom) r.records) :
    ((p.captures text r).get? (q.groups + 1)).isSome ↔ q.groups = p.groups := by
  rw [get?_captures text p r (Nat.succ_ne_zero _), Option.isSome_map]
  split
  case isTrue h => simpa using h
  case isFalse h =>
    have hnone : (Spot.spansAll p.spots r.records).lookup (q.groups + 1) = none := by
      refine List.lookup_eq_none_iff.2 fun x hx => ?_
      obtain ⟨s, hs, hlt, hle⟩ := Spot.exists_of_mem_spansAll hr hx
      have happart := hps.apart q hq p hp s hs
      have hne : q.groups + 1 ≠ x.1 := by omega
      exact bne_iff_ne.2 hne
    rw [hnone]
    constructor
    · intro h'
      cases h'
    · intro h'
      exact absurd (congrArg (· + 1) h') h

/-- What a match gives to the variables of atoms. -/
def valuesOfRun (text : Array Char) (as : List Atom) (r : Run Record) :
    List (String × Option String) :=
  (Atom.values as r.records).map fun v =>
    (v.1, v.2.map fun s => String.ofList (text.extract s.start s.stop).toList)

/-- **The bindings of a leaf** read what its atoms have captured. -/
theorem valuesOf_captures (hps : Tree.IsNumbered lo hi ps) (hp : p ∈ ps)
    (hr : Atom.Records (p.spots.map Spot.atom) r.records) :
    valuesOf (p.captures text r) p.bindings =
      valuesOfRun text (p.spots.map Spot.atom) r := by
  rw [valuesOfRun, ← Spot.map_lookup_bindings hr (hps.spots p hp), List.map_map, valuesOf]
  refine List.map_congr_left fun b hb => ?_
  obtain ⟨s, hs, hb⟩ := List.mem_flatMap.1 hb
  obtain ⟨hgt, hle⟩ := Binding.group_gt_of_mem hb
  have hbefore : s.groups + s.atom.captures.length ≤ p.groups := (hps.spot p hp s hs).2
  have hzero : b.group ≠ 0 := by omega
  have hmarker : b.group ≠ p.groups + 1 := by omega
  rw [get?_captures text p r hzero, if_neg hmarker]
  rfl

end Place

/-! ### Merged expressions -/

namespace Merged

variable {strategy : Strategy} {fs : List (List Atom)}

/-- The places of the fragments in their merged expression. -/
def places (strategy : Strategy) (fs : List (List Atom)) : List Place :=
  (Tree.ofFragments strategy fs).places 0 ['$']

theorem toList_expression (strategy : Strategy) (fs : List (List Atom)) :
    (ofFragments strategy fs).expression.toList =
      '^' :: ((Tree.ofFragments strategy fs).text ++ ['$']) := by
  simp only [ofFragments, Tree.render_eq 0 [] ['$'] (Tree.ofFragments strategy fs)]
  simp

theorem layouts_eq (strategy : Strategy) (fs : List (List Atom)) :
    (ofFragments strategy fs).layouts = (places strategy fs).map (Place.layout []) := by
  simp only [ofFragments, Tree.render_eq 0 [] ['$'] (Tree.ofFragments strategy fs)]
  rfl

theorem map_fragment_places (strategy : Strategy) (fs : List (List Atom)) :
    (places strategy fs).map Place.fragment = fs.zipIdx := by
  rw [places, Tree.map_fragment_places, Tree.fragments_ofFragments]

theorem isNumbered_places (strategy : Strategy) (fs : List (List Atom)) :
    Tree.IsNumbered 0 (Tree.ofFragments strategy fs).groupCount (places strategy fs) := by
  have h := Tree.isNumbered_places 0 ['$'] (Tree.ofFragments strategy fs)
  rwa [Nat.zero_add] at h

theorem allAtoms_ofFragments {P : Atom → Prop} (h : ∀ f ∈ fs, ∀ a ∈ f, P a) :
    (Tree.ofFragments strategy fs).AllAtoms P := by
  intro f hf
  rw [Tree.fragments_ofFragments] at hf
  exact h f.1 ((List.mem_zipIdx' hf).2 ▸ List.getElem_mem _)

/-- What a merged expression is read as. -/
theorem ofText?_ofFragments (strategy : Strategy) (hsound : ∀ f ∈ fs, ∀ a ∈ f, a.IsSound) :
    ∃ r, Reader.ofText? (ofFragments strategy fs).expression.toList =
        some (r, (Tree.ofFragments strategy fs).parens.map (Regex.Paren.append ['$'])) ∧
      r.groups = [] ∧ r.captures = (Tree.ofFragments strategy fs).groupCount ∧
      r.current = .sequence [⟨.look .textEnd, 0, true⟩,
        .sequence (Tree.ofFragments strategy fs).pieces, ⟨.look .textStart, 0, true⟩] := by
  obtain ⟨r, hr, hgroups, hcaptures, hcurrent⟩ :=
    (Tree.isPart_ofFragments strategy hsound).ofText?_anchored
  rw [← toList_expression] at hr
  refine ⟨r, hr, hgroups, hcaptures, hcurrent.trans ?_⟩
  rw [Tree.ofFragments, Tree.pieces]
  rfl

/-- **The matches of a merged expression** are the full runs of its fragments. -/
theorem captures?_ofFragments (hne : fs ≠ []) (hsound : ∀ f ∈ fs, ∀ a ∈ f, a.IsSound)
    {n : Node} (hn : Node.ofText? (ofFragments strategy fs).expression.toList = some n)
    (path : String) :
    (Regex.mk n).captures? path =
      (places strategy fs).findSome? fun p =>
        (Atom.fullRun? path.toList.toArray (p.spots.map Spot.atom)).map
          (p.captures path.toList.toArray) := by
  obtain ⟨r, hr, -, -, hcurrent⟩ := ofText?_ofFragments strategy hsound
  obtain ⟨r', ps, hr', -, -, rfl⟩ := Regex.Node.ofText?_eq_some.1 hn
  obtain rfl : r = r' := by
    rw [hr] at hr'
    exact congrArg Prod.fst (Option.some.inj hr')
  generalize htext : path.toList.toArray = text
  have hreach := @Tree.attempt_pieces State text _ (Positional.atEnd text) 0 ['$']
    (Tree.ofFragments strategy fs) (Tree.isForced_ofFragments strategy hne)
    (allAtoms_ofFragments hsound) ⟨0, []⟩
  have hrenumber : ∀ n : Node, n.renumber (· + 0) = n := Node.renumber_id
  rw [hrenumber] at hreach
  have hnode : r.current.node = Node.sequence [.look .textStart,
      (Piece.sequence (Tree.ofFragments strategy fs).pieces).node, .look .textEnd] := by
    rw [hcurrent, Piece.node_sequence]
    rfl
  rw [Regex.captures?, htext, hnode, Node.search?_anchored, hreach, Tree.reach, Option.map_map,
    List.map_findSome?]
  congr 1
  funext p
  rw [Function.comp_apply, Atom.fullRun?, ← List.findSome?_guard, List.map_findSome?,
    List.map_findSome?]
  congr 1
  funext r
  by_cases h : text.size ≤ r.stop
  · simp [Option.guard, h, Place.captures, State.capture]
  · simp [Option.guard, h]

/-- A match of a merged expression is that of one of its leaves. -/
theorem exists_place_of_captures? (hne : fs ≠ []) (hsound : ∀ f ∈ fs, ∀ a ∈ f, a.IsSound)
    {n : Node} (hn : Node.ofText? (ofFragments strategy fs).expression.toList = some n)
    {path : String} {captures : Regex.Captures}
    (h : (Regex.mk n).captures? path = some captures) :
    ∃ p ∈ places strategy fs, ∃ r,
      Atom.fullRun? path.toList.toArray (p.spots.map Spot.atom) = some r ∧
        captures = p.captures path.toList.toArray r := by
  rw [captures?_ofFragments hne hsound hn] at h
  obtain ⟨p, hp, hcaptures⟩ := List.exists_of_findSome?_eq_some h
  obtain ⟨r, hr, rfl⟩ := Option.map_eq_some_iff.1 hcaptures
  exact ⟨p, hp, r, hr, rfl⟩

/-- The atoms at a place are those of a fragment. -/
theorem map_atom_mem {p : Place} (hp : p ∈ places strategy fs) : p.spots.map Spot.atom ∈ fs := by
  have hmem : p.fragment ∈ fs.zipIdx := by
    rw [← map_fragment_places strategy]
    exact List.mem_map_of_mem hp
  exact (List.mem_zipIdx' hmem).2 ▸ List.getElem_mem _

/-- **A match has one marker**: that of the leaf that matches. -/
theorem eq_of_isSome_marker (hsound : ∀ f ∈ fs, ∀ a ∈ f, a.IsSound) {p q : Place}
    (hp : p ∈ places strategy fs) (hq : q ∈ places strategy fs) {text : Array Char}
    {r : Run Record} (hr : Atom.fullRun? text (p.spots.map Spot.atom) = some r)
    (hmarker : ((p.captures text r).get? (q.groups + 1)).isSome) : q = p := by
  have hrecords := Place.records_of_fullRun? (hsound _ (map_atom_mem hp)) hr
  have hgroups := (Place.isSome_marker_iff (isNumbered_places strategy fs) hp hq hrecords).1 hmarker
  exact (isNumbered_places strategy fs).eq_of_groups_eq hq hp hgroups

/-! ### Single fragments -/

end Merged

/-- The place of a fragment in an expression of its own. -/
def Place.own (f : List Atom) : Place :=
  ⟨0, Atom.spots 0 ['(', ')', ')', '$'] f, (f.flatMap Atom.captures).length, [')', '$']⟩

namespace Merged

theorem places_singleton (f : List Atom) : places .flat [f] = [Place.own f] := by
  simp [places, Tree.ofFragments, Tree.insertAll, Tree.insertLast, Tree.places, Tree.placesAll,
    Place.behind, Atom.spots, Place.own]

theorem toList_standalone (f : List Atom) : (standalone f).1.toList =
    '^' :: '(' :: '?' :: ':' :: (Atom.expression f ++ ['(', ')', ')', '$']) := by
  have h := toList_expression .flat [f]
  rw [standalone]
  simpa [Tree.ofFragments, Tree.insertAll, Tree.insertLast, Tree.text, Tree.textAll,
    Atom.expression] using h

/-- The expression of a single fragment depends on its text alone. -/
theorem standalone_congr {f g : List Atom}
    (h : String.ofList (Atom.expression f) = String.ofList (Atom.expression g)) :
    (standalone f).1 = (standalone g).1 := by
  have heq : Atom.expression f = Atom.expression g := by
    simpa using congrArg String.toList h
  refine String.toList_injective ?_
  rw [toList_standalone, toList_standalone, heq]

theorem bindings_standalone (f : List Atom) : (standalone f).2 = (Place.own f).bindings := by
  simp [standalone, layouts_eq, places_singleton, Place.layout]

/-- The variables of a single fragment are in its own groups. -/
theorem bindings_standalone_eq (f : List Atom) :
    (standalone f).2 = Binding.ofCaptures 0 (f.flatMap Atom.captures) := by
  rw [bindings_standalone, Place.bindings, Place.own, Atom.flatMap_bindings_spots]

/-- A single fragment depends on its text and its groups alone. -/
theorem standalone_eq_of_captures {f g : List Atom} (h : Atom.expression f = Atom.expression g)
    (hcaptures : f.flatMap Atom.captures = g.flatMap Atom.captures) : standalone f = standalone g :=
  Prod.ext (standalone_congr (congrArg String.ofList h))
    (by rw [bindings_standalone_eq, bindings_standalone_eq, hcaptures])

/-- The matches of the expression of a single fragment are its full runs. -/
theorem captures?_standalone {f : List Atom} (hsound : ∀ a ∈ f, a.IsSound) {n : Node}
    (hn : Node.ofText? (standalone f).1.toList = some n) (path : String) :
    (Regex.mk n).captures? path =
      (Atom.fullRun? path.toList.toArray f).map ((Place.own f).captures path.toList.toArray) := by
  rw [captures?_ofFragments (List.cons_ne_nil f []) (by simpa using hsound) hn, places_singleton,
    List.findSome?_singleton, Place.own, Atom.map_atom_spots]

theorem valuesOf_standalone {f : List Atom} (hsound : ∀ a ∈ f, a.IsSound) {text : Array Char}
    {r : Run Record} (hr : Atom.fullRun? text f = some r) :
    valuesOf ((Place.own f).captures text r) (standalone f).2 = Place.valuesOfRun text f r := by
  have hatoms : (Place.own f).spots.map Spot.atom = f := Atom.map_atom_spots ..
  have hnumbered := isNumbered_places .flat [f]
  rw [places_singleton] at hnumbered
  rw [bindings_standalone, Place.valuesOf_captures hnumbered (List.mem_singleton_self _), hatoms]
  rw [hatoms]
  exact Place.records_of_fullRun? hsound hr

end Merged

end Signpost
