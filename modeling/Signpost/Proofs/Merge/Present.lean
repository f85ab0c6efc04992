import Signpost.Proofs.Matcher.Found
import Signpost.Proofs.Regex.Outlines

/-!
# Merging — variables that always have a value

A group that stands neither in an alternative nor in a repetition is captured by every match
(`Regex.Node.certain`).  In the expression of a pattern by itself, the groups of variables outside
of all optional segments stand so, and whether case counts makes no difference to that.

* `Regex.Node.isSome_get?_of_certain`: such a group is in every match.
* `Merged.mem_certain_standalone`: where the variables of a pattern are.
-/

namespace Signpost

open Regex (Node Piece Reader State)
open Matcher (valuesOf)

/-! ### Groups that are always captured -/

namespace Regex.Node

/-- The groups outside of alternatives and repetitions. -/
def certain : Node → List Nat
  | .group index _ n => index :: n.certain
  | .cat a b         => a.certain ++ b.certain
  | _                => []

theorem certain_outline (n : Node) : n.outline.certain = n.certain := by
  induction n with
  | group index name n ih => exact congrArg (index :: ·) ih
  | cat a b iha ihb => simp only [outline, certain, iha, ihb]
  | empty | char _ | set _ | look _ | alt _ _ | repetition _ _ _ _ => rfl

theorem certain_renumber (f : Nat → Nat) (n : Node) :
    (n.renumber f).certain = n.certain.map f := by
  induction n with
  | group index name n ih => exact congrArg (f index :: ·) ih
  | cat a b iha ihb => simp only [renumber, certain, iha, ihb, List.map_append]
  | empty | char _ | set _ | look _ | alt _ _ | repetition _ _ _ _ => rfl

theorem certain_sequence (ns : List Node) : (sequence ns).certain = ns.flatMap certain := by
  induction ns with
  | nil => rfl
  | cons n ns ih =>
      cases ns with
      | nil => simp [sequence]
      | cons m ns => rw [sequence_cons_cons, certain, ih]; rfl

variable {n : Node} {i : Nat} {text : Array Char}

/-- Every way through a node captures its certain groups. -/
theorem mem_spans_of_certain (hi : i ∈ n.certain) {ss : List State} :
    ∀ t ∈ n.advance text ss, i ∈ t.spans.map Prod.fst := by
  induction n generalizing ss with
  | group index name n ih =>
      intro t ht
      rw [advance_group] at ht
      obtain ⟨s, -, ht⟩ := mem_forEach ht
      obtain ⟨u, hu, rfl⟩ := List.mem_map.1 ht
      rcases List.mem_cons.1 hi with rfl | hi
      · exact List.mem_cons_self
      · exact List.mem_cons_of_mem _ (ih hi u hu)
  | cat a b iha ihb =>
      rw [advance_cat]
      rcases List.mem_append.1 hi with hi | hi
      · -- what comes behind captures more, but drops nothing
        exact forall_mem_advance text (P := fun s => i ∈ s.spans.map Prod.fst) (fun _ _ hs => hs)
          (fun _ _ _ _ hs => List.mem_cons_of_mem _ hs) (iha hi)
      · exact ihb hi
  | empty | char _ | set _ | look _ | alt _ _ | repetition _ _ _ _ => cases hi

/-- **A certain group is in every match.** -/
theorem isSome_get?_of_certain (hi : i ∈ n.certain) {path : String} {captures : Regex.Captures}
    (h : (Regex.mk n).captures? path = some captures) : (captures.get? i).isSome := by
  have hmatch : ∀ {start : Nat} {s : State}, n.matchAt? path.toList.toArray start = some s →
      i ∈ s.spans.map Prod.fst := by
    intro start s hs
    obtain ⟨t, ht, rfl⟩ := Option.map_eq_some_iff.1 hs
    exact List.mem_cons_of_mem _ (mem_spans_of_certain hi t (List.mem_of_head? ht))
  obtain ⟨s, hs, rfl⟩ := Option.map_eq_some_iff.1 h
  have hmem : i ∈ s.spans.map Prod.fst := by
    have hs : n.search? path.toList.toArray = some s := hs
    unfold search? at hs
    split at hs
    · exact hmatch hs
    · obtain ⟨start, -, hs⟩ := List.exists_of_findSome?_eq_some hs
      exact hmatch hs
  rw [Regex.Captures.get?, Option.isSome_map]
  exact Dict.isSome_lookup_iff.2 hmem

end Regex.Node

theorem Regex.Piece.mem_certain_sequence {ps : List Piece} {i : Nat} :
    i ∈ (sequence ps).node.certain ↔ ∃ p ∈ ps, i ∈ p.node.certain := by
  simp [node_sequence, Node.certain_sequence]

/-! ### Atoms -/

namespace Atom

/-- Whether a group of atoms is captured whenever they match. -/
def IsCertain (as : List Atom) (i : Nat) : Prop := ∃ p ∈ allPieces as, i ∈ p.node.certain

/-- The certain groups of an atom come behind the groups of the atoms before it. -/
theorem isCertain_append_cons {before after : List Atom} {a : Atom} {i : Nat} {p : Piece}
    (hp : p ∈ a.pieces) (hi : i ∈ p.node.certain) :
    IsCertain (before ++ a :: after) (i + (before.flatMap captures).length) := by
  induction before with
  | nil => exact ⟨p, List.mem_append_right _ hp, hi⟩
  | cons b before ih =>
      obtain ⟨q, hq, hmem⟩ := ih
      refine ⟨q.mapNode (Node.renumber (· + b.captures.length)),
        List.mem_append_left _ (List.mem_map_of_mem hq), ?_⟩
      have hlength : i + ((b :: before).flatMap captures).length =
          i + (before.flatMap captures).length + b.captures.length := by
        rw [List.flatMap_cons, List.length_append]
        omega
      rw [hlength]
      show _ ∈ (q.node.renumber _).certain
      rw [Node.certain_renumber]
      exact List.mem_map_of_mem hmem

end Atom

/-! ### Single fragments -/

namespace Merged

variable {as : List Atom} {i : Nat}

theorem mem_certain_pieces (h : Atom.IsCertain as i) :
    ∃ p ∈ (Tree.ofFragments .flat [as]).pieces, i ∈ p.node.certain := by
  have hleaf : i ∈ (Piece.sequence (Tree.leaf 0 as).pieces).node.certain := by
    obtain ⟨p, hp, hi⟩ := h
    rw [Tree.pieces]
    exact Piece.mem_certain_sequence.2 ⟨p, List.mem_append_right _ hp, hi⟩
  have hrenumber : ∀ n : Node, n.renumber (· + 0) = n := Node.renumber_id
  simp only [Tree.ofFragments, Tree.insertAll, Tree.insertLast, Tree.pieces, Tree.branches,
    Atom.allPieces, List.append_nil]
  refine ⟨_, List.mem_singleton_self _, ?_⟩
  show i ∈ ((Piece.choice [_]).node.renumber (· + 0)).certain
  rw [hrenumber]
  exact hleaf

/-- What a fragment by itself is read as, behind a piece that captures nothing. -/
theorem exists_reads_standalone (hsound : ∀ a ∈ as, a.IsSound) (base : Reader)
    (hbase : base.IsPlain) (hcaptures : base.captures = 0) (hgroups : base.groups = [])
    (hbranches : base.branches = []) (h : Atom.IsCertain as i) :
    ∃ k ≤ (standalone as).1.toList.length, ∃ ps r,
      Reader.Reads k base (standalone as).1.toList ps r [] ∧ r.groups = [] ∧
        i ∈ r.current.node.certain := by
  have hpart := @Tree.isPart_ofFragments [as] .flat (by simpa using hsound)
  obtain ⟨k, hk, hrun⟩ := hpart.reads_anchored hbase
  have htext : (standalone as).1.toList = '^' :: ((Tree.ofFragments .flat [as]).text ++ ['$']) :=
    toList_expression .flat [as]
  rw [htext]
  refine ⟨k, hk, _, _, hrun, hgroups, ?_⟩
  obtain ⟨p, hp, hi⟩ := mem_certain_pieces h
  rw [Reader.current_of_branches (by exact hbranches), Piece.mem_certain_sequence]
  refine ⟨p.mapNode (Node.renumber (· + base.captures)), List.mem_cons_of_mem _
    (List.mem_append_left _ (List.mem_map_of_mem hp)), ?_⟩
  have hrenumber : p.node.renumber (· + base.captures) = p.node := by
    rw [hcaptures]
    exact Node.renumber_id p.node
  show i ∈ (p.node.renumber _).certain
  rwa [hrenumber]

/-- **A certain group of a fragment is in every match** of its expression by itself, whether case
matters or not. -/
theorem mem_certain_standalone (hsound : ∀ a ∈ as, a.IsSound) (h : Atom.IsCertain as i) {n : Node}
    (hn : Node.ofText? (standalone as).1.toList = some n ∨
      Node.ofText? (Route.hostRule as).expression.toList = some n) : i ∈ n.certain := by
  rcases hn with hn | hn
  · obtain ⟨k, hk, ps, r, hrun, -, hi⟩ :=
      exists_reads_standalone hsound {} ⟨rfl, rfl⟩ rfl rfl rfl h
    obtain ⟨r', ps', hr', -, -, rfl⟩ := Node.ofText?_eq_some.1 hn
    have hr : Reader.ofText? (standalone as).1.toList = some (r, ps) :=
      Reader.trace?_eq_some.2 ⟨k, Nat.lt_succ_of_le hk, [], hrun, by simp⟩
    obtain rfl : r' = r := congrArg Prod.fst (Option.some.inj (hr'.symm.trans hr))
    exact hi
  · obtain ⟨k, hk, ps, r, hrun, -, hi⟩ := exists_reads_standalone hsound
      { pieces := [⟨.empty, 0, false⟩] } ⟨rfl, rfl⟩ rfl rfl rfl h
    have htext : (Route.hostRule as).expression.toList =
        '(' :: '?' :: 'i' :: ')' :: (standalone as).1.toList := by
      simp [Route.hostRule]
    rw [htext] at hn
    rw [← Node.certain_outline, Node.outline_ofText?_caseless hk hrun hn, Node.certain_outline]
    exact hi

end Merged

/-! ### Variables outside of optional segments -/

namespace Pattern

variable {source segment : String} {overrides : Dict String}

theorem le_depth_of_mem_vars {t : Token} {depth : Nat} {v : Variable} (h : v ∈ t.vars depth) :
    depth ≤ v.depth := by
  induction t using Token.induct generalizing depth with
  | text content => simp [Token.vars] at h
  | var name own default =>
      rw [Token.vars] at h
      obtain rfl := List.mem_singleton.1 h
      exact Nat.le_refl _
  | optional inner ih =>
      rw [Token.vars] at h
      obtain ⟨t, ht, hv⟩ := List.mem_flatMap.1 h
      exact Nat.le_of_succ_le (ih t ht hv)

/-- A variable outside of all optional segments is a token by itself. -/
theorem mem_tokens_of_depth {p : Pattern} {v : Variable} (hv : v ∈ p.vars) (hdepth : v.depth = 0) :
    .var v.name v.constraint v.default ∈ p.tokens := by
  obtain ⟨t, ht, hvt⟩ := List.mem_flatMap.1 hv
  cases t with
  | text content => simp [Token.vars] at hvt
  | var name own default =>
      rw [Token.vars] at hvt
      obtain rfl := List.mem_singleton.1 hvt
      exact ht
  | optional inner =>
      rw [Token.vars] at hvt
      obtain ⟨t, -, hvt⟩ := List.mem_flatMap.1 hvt
      have hle := le_depth_of_mem_vars hvt
      omega

variable [Regex.Engine]

/-- The group of a variable is around all that is read for it. -/
theorem exists_mem_certain_ofVariable {name constraint : String} {count : Nat}
    (hwhole : IsWhole constraint)
    (hcheck : checkConstraint source name constraint = .ok count) :
    ∃ p ∈ (Atom.ofVariable name constraint count).pieces, 1 ∈ p.node.certain := by
  obtain ⟨whole, hcomplete⟩ := Option.isSome_iff_exists.1 hwhole.complete
  obtain ⟨checked, hchecked, hnames, rfl⟩ := checkConstraint_eq_ok hcheck
  have hnode := Regex.ofText?_of_compile hchecked
  rw [toList_anchoredConstraint] at hnode
  obtain ⟨r, ps, hr, hsealed, hcaptures, -, -, hpieces⟩ :=
    Regex.ofText?_parenthesized hcomplete hnode hnames hwhole.keeps
  have hpart := @Atom.isPart_ofVariable name _ _ _ _ hr hsealed hcaptures
  obtain ⟨p, hp, hgroup⟩ : ∃ p ∈ r.pieces, p.node = .group 1 none (whole.renumber (· + 1)) :=
    List.mem_map.1 (hpieces ▸ List.mem_singleton_self _)
  exact ⟨p, (Atom.pieces_eq hpart).1 ▸ hp, hgroup ▸ List.mem_cons_self⟩

/-- The group of a variable outside of all optional segments. -/
theorem exists_isCertain_of_depth {p : Pattern} {as : List Atom}
    (hwhole : ∀ c ∈ p.constraints segment overrides, IsWhole c)
    (has : p.atoms segment overrides = .ok as) {v : Variable} (hv : v ∈ p.vars)
    (hdepth : v.depth = 0) :
    ∃ i, ⟨v.name, i⟩ ∈ (Merged.standalone as).2 ∧ Atom.IsCertain as i := by
  obtain ⟨ass, hass, rfl⟩ := atoms_eq_ok.1 has
  obtain ⟨before, after, htokens⟩ := List.append_of_mem (mem_tokens_of_depth hv hdepth)
  rw [htokens] at hass
  obtain ⟨front, back, rfl, -, hback⟩ := forall₂_append_left hass
  obtain ⟨bs, back, ht, -, rfl⟩ := List.forall₂_cons_left_iff.1 hback
  obtain ⟨count, hcheck, rfl⟩ := tokenAtoms_var.1 ht
  obtain ⟨q, hq, hi⟩ :=
    exists_mem_certain_ofVariable (hwhole _ (List.mem_map_of_mem hv)) hcheck
  let a := Atom.ofVariable v.name (effectiveConstraint overrides segment v.name v.constraint) count
  have hflat : (front ++ [a] :: back).flatten = front.flatten ++ a :: back.flatten := by simp
  rw [show (front ++ [Atom.ofVariable _ _ _] :: back).flatten = _ from hflat]
  refine ⟨_, ?_, Atom.isCertain_append_cons hq hi⟩
  have hcaptures : a.captures = some v.name :: List.replicate count none := rfl
  rw [Merged.bindings_standalone_eq, List.flatMap_append, Binding.ofCaptures_append,
    List.flatMap_cons, hcaptures, Nat.zero_add, Nat.add_comm]
  exact List.mem_append_right _ List.mem_cons_self

end Pattern

end Signpost
