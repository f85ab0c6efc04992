import Mathlib.Data.List.Nodup
import Signpost.Proofs.Collection.Sharing

/-!
# Collections — in which order routes are searched

A search comes to the literal routes first, and then to one leaf after another; routes that share a
leaf are searched together, where the first of them is.  So the order of the search is not that of
the routes: it is by a rank (`Collection.searchRank`), which tells the leaf of a route without
building any leaves, and by the order of the routes within a rank.

* `Collection.nodup_keys_sharedLeaves`: no two leaves are for the same routes.
* `Collection.pairwise_sharedLeaves`: the leaves have their routes in the order of the search.
-/

namespace Signpost.Collection

/-! ### Ranks -/

/-- Whether a route has the given expression and variables, and no literal path. -/
def HasKey (key : String × List String) (r : CompiledRoute) : Prop :=
  r.staticPath? = none ∧ (r.expression, r.vars) = key

instance (key : String × List String) : DecidablePred (HasKey key) :=
  fun _ => inferInstanceAs (Decidable (_ ∧ _))

/-- The rank of a route in the search: literal paths have the first rank, and any other route has
that of the first one with the same expression and variables. -/
def searchRank (rs : List CompiledRoute) (id : Nat) : Nat :=
  match rs[id]? with
  | some r =>
    if r.staticPath?.isSome then 0 else rs.findIdx (fun r' => HasKey (r.expression, r.vars) r') + 1
  | none   => 0

/-- Whether the search comes to one route before another one. -/
def SearchedBefore (rs : List CompiledRoute) (id id' : Nat) : Prop :=
  searchRank rs id < searchRank rs id' ∨ searchRank rs id = searchRank rs id' ∧ id < id'

variable {rs : List CompiledRoute}

/-- Where the ranks ascend with the routes, the search has the order of the routes. -/
theorem SearchedBefore.lt {id id' : Nat} (h : SearchedBefore rs id id')
    (hranks : id' < id → searchRank rs id' ≤ searchRank rs id) : id < id' := by
  rcases h with hlt | ⟨-, hlt⟩
  · rcases Nat.lt_trichotomy id id' with h | rfl | h
    · exact h
    · exact absurd hlt (Nat.lt_irrefl _)
    · exact absurd hlt (Nat.not_lt_of_le (hranks h))
  · exact hlt

/-! ### The leaves are for different routes -/

/-- What routes at a leaf have in common. -/
def SharedLeaf.key (s : SharedLeaf) : String × List String := (s.expression, s.vars)

theorem key_share (r : CompiledRoute) (id : Nat) (shared : List SharedLeaf) :
    (share r id shared).map SharedLeaf.key = shared.map SharedLeaf.key ∨
      (r.expression, r.vars) ∉ shared.map SharedLeaf.key ∧
        (share r id shared).map SharedLeaf.key =
          shared.map SharedLeaf.key ++ [(r.expression, r.vars)] := by
  induction shared with
  | nil => exact .inr ⟨List.not_mem_nil, rfl⟩
  | cons s shared ih =>
      unfold share
      split
      case isTrue => exact .inl rfl
      case isFalse hother =>
        have hne : (r.expression, r.vars) ≠ s.key := by
          intro heq
          obtain ⟨hexpression, hvars⟩ := Prod.mk.inj heq
          exact hother ⟨hexpression.symm, hvars.symm⟩
        rcases ih with hsame | ⟨hnot, hnew⟩
        · exact .inl (by rw [List.map_cons, List.map_cons, hsame])
        · refine .inr ⟨List.not_mem_cons_of_ne_of_not_mem hne hnot, ?_⟩
          rw [List.map_cons, List.map_cons, hnew, List.cons_append]

theorem nodup_keys_share {r : CompiledRoute} {id : Nat} {shared : List SharedLeaf}
    (h : (shared.map SharedLeaf.key).Nodup) : ((share r id shared).map SharedLeaf.key).Nodup := by
  rcases key_share r id shared with hsame | ⟨hnot, hnew⟩
  · rwa [hsame]
  · rw [hnew]
    refine List.nodup_append.2 ⟨h, List.pairwise_singleton _ _, ?_⟩
    intro key hkey key' hkey' heq
    rw [heq, List.mem_singleton.1 hkey'] at hkey
    exact hnot hkey

theorem nodup_keys_step (id : Nat) (rs : List CompiledRoute) {shared : List SharedLeaf}
    (h : (shared.map SharedLeaf.key).Nodup) :
    ((sharedLeaves id rs shared).map SharedLeaf.key).Nodup := by
  induction rs generalizing id shared with
  | nil => exact h
  | cons r rs ih =>
      rw [sharedLeaves]
      refine ih (id + 1) ?_
      split
      case isTrue => exact h
      case isFalse => exact nodup_keys_share h

/-- **No two leaves are for the same routes.** -/
theorem nodup_keys_sharedLeaves (rs : List CompiledRoute) :
    ((sharedLeaves 0 rs []).map SharedLeaf.key).Nodup :=
  @nodup_keys_step 0 rs [] List.nodup_nil

/-! ### The ranks of the leaves -/

theorem exists_head {s : SharedLeaf} (hs : s.IsOf rs) : ∃ head, s.routes.head? = some head := by
  obtain ⟨head, rest, hroutes⟩ := List.exists_cons_of_ne_nil hs.nonempty
  exact ⟨head, by rw [hroutes]; rfl⟩

theorem hasKey_of_mem {s : SharedLeaf} (hs : s.IsOf rs) {id : Nat} (hid : id ∈ s.routes) :
    ∃ r, rs[id]? = some r ∧ HasKey s.key r := by
  obtain ⟨r, hr, hdynamic, hexpression, hvars⟩ := hs.routes id hid
  exact ⟨r, hr, hdynamic, by rw [hexpression, hvars]; rfl⟩

/-- A leaf has all routes that have its expression and its variables. -/
theorem mem_routes_of_hasKey {s : SharedLeaf} (hs : s ∈ sharedLeaves 0 rs []) {id : Nat}
    {r : CompiledRoute} (hr : rs[id]? = some r) (hkey : HasKey s.key r) : id ∈ s.routes := by
  have hshared := isShared_sharedLeaves rs
  obtain ⟨s', hs', hid⟩ := hshared.all id r hr hkey.1
  obtain ⟨r', hr', hkey'⟩ := hasKey_of_mem (hshared.each s' hs') hid
  obtain rfl : r = r' := Option.some.inj (hr.symm.trans hr')
  obtain rfl : s' = s := List.inj_on_of_nodup_map (nodup_keys_sharedLeaves rs) hs' hs
    (hkey'.2.symm.trans hkey.2)
  exact hid

/-- **The rank of a route at a leaf** is told by the first route there. -/
theorem searchRank_of_mem {s : SharedLeaf} (hs : s ∈ sharedLeaves 0 rs []) {head id : Nat}
    (hhead : s.routes.head? = some head) (hid : id ∈ s.routes) : searchRank rs id = head + 1 := by
  have hof := (isShared_sharedLeaves rs).each s hs
  obtain ⟨r, hr, hkey⟩ := hasKey_of_mem hof hid
  obtain ⟨first, hfirst, hfirstKey⟩ := hasKey_of_mem hof (head?_mem_routes hhead)
  obtain ⟨hlt, rfl⟩ := List.getElem?_eq_some_iff.1 hfirst
  have hindex : rs.findIdx (fun r' => HasKey (r.expression, r.vars) r') = head := by
    rw [hkey.2]
    refine (List.findIdx_eq hlt).2 ⟨decide_eq_true hfirstKey, fun j hj => decide_eq_false ?_⟩
    -- a route with this key before the first one of the leaf would be at the leaf, too
    intro hjkey
    have hjlt := Nat.lt_trans hj hlt
    have hmem := mem_routes_of_hasKey hs (List.getElem?_eq_getElem hjlt) hjkey
    obtain ⟨ids, hroutes⟩ := List.head?_eq_some_iff.1 hhead
    have hascending := hof.ascending
    rw [hroutes] at hmem hascending
    rcases List.mem_cons.1 hmem with rfl | hmem
    · exact Nat.lt_irrefl _ hj
    · exact Nat.lt_asymm hj (List.rel_of_pairwise_cons hascending hmem)
  have hdynamic : ¬r.staticPath?.isSome := by
    rw [hkey.1]
    exact Bool.false_ne_true
  simp only [searchRank, hr, if_neg hdynamic, hindex]

theorem searchRank_of_literal {id : Nat} {r : CompiledRoute} (hr : rs[id]? = some r)
    (hliteral : r.staticPath?.isSome) : searchRank rs id = 0 := by
  simp only [searchRank, hr, if_pos hliteral]

/-- **The leaves have their routes in the order of the search.** -/
theorem pairwise_sharedLeaves (rs : List CompiledRoute) :
    ((sharedLeaves 0 rs []).flatMap SharedLeaf.routes).Pairwise (SearchedBefore rs) := by
  have hshared := isShared_sharedLeaves rs
  refine List.pairwise_flatMap.2 ⟨fun s hs => ?_, ?_⟩
  · obtain ⟨head, hhead⟩ := exists_head (hshared.each s hs)
    refine (hshared.each s hs).ascending.imp_of_mem fun hid hid' hlt => .inr ⟨?_, hlt⟩
    rw [searchRank_of_mem hs hhead hid, searchRank_of_mem hs hhead hid']
  · refine hshared.ordered.imp_of_mem fun hs hs' hbefore id hid id' hid' => .inl ?_
    obtain ⟨head, hhead⟩ := exists_head (hshared.each _ hs)
    obtain ⟨head', hhead'⟩ := exists_head (hshared.each _ hs')
    rw [searchRank_of_mem hs hhead hid, searchRank_of_mem hs' hhead' hid']
    exact Nat.succ_lt_succ (hbefore head hhead head' (head?_mem_routes hhead'))

end Signpost.Collection
