import Signpost.Proofs.Collection.WellFormed
import Signpost.Matcher.Lookup

/-!
# Matching — every lookup has an outcome

The search counts leaves with machine words.  The chunks of a compiled collection claim exactly its
leaves (`Matcher.Data.IsWellFormed`), and there are few enough of them, so that no count goes wrong;
and whatever a search finds is a route of the collection.  None of this depends on what the
expressions match.

* `Matcher.IsCounted.exists_lookup`: a lookup has an outcome where no count goes wrong.
* `Matcher.isCounted_of_isMadeOf`: none does in a compiled collection.
-/

namespace Signpost.Matcher

variable {m : Matcher} {c : Context} {t : Tally} {values : List (String × Option String)}

/-! ### What is found is a route -/

/-- What has been found, if anything, is one of `n` routes. -/
def Tally.Within (n : Nat) (t : Tally) : Prop := ∀ found, t.found? = some found → found.route < n

theorem within_tryRoutes (h : t.Within m.data.routes.length) (ids : List Nat) :
    (m.tryRoutes c values t ids).Within m.data.routes.length := by
  induction ids generalizing t with
  | nil => exact h
  | cons id ids ih =>
      rw [tryRoutes]
      split
      case isTrue =>
        split
        case h_1 params haccepted =>
          intro found hfound
          obtain rfl := Option.some.inj hfound
          -- only a route of the data can accept
          by_contra hid
          rw [judge, List.getElem?_eq_none (Nat.le_of_not_lt hid)] at haccepted
          cases haccepted
        case h_2 methods _ => exact ih h
        case h_3 => exact ih h
      case isFalse => exact h

theorem within_tryLeaves (h : t.Within m.data.routes.length) (leaves : List (Leaf × Regex)) :
    (m.tryLeaves c t leaves).Within m.data.routes.length := by
  induction leaves generalizing t with
  | nil => exact h
  | cons l leaves ih =>
      rw [tryLeaves]
      split
      case isTrue =>
        split
        case h_1 captures _ => exact ih (within_tryRoutes h _)
        case h_2 => exact ih h
      case isFalse => exact h

/-! ### No count goes wrong -/

/-- The leaves of the first chunk that matches are leaves of the chunks. -/
theorem add_le_of_firstMatch? {path : String} {chunks : List (Chunk × Regex)} {offset : Nat}
    (hsmall : offset + (chunks.map fun c => c.1.leafCount).sum < wordSize) {start count : Nat}
    {captures : Regex.Captures}
    (h : firstMatch? path offset chunks = some (start, count, captures)) :
    start + count ≤ offset + (chunks.map fun c => c.1.leafCount).sum := by
  induction chunks generalizing offset with
  | nil => cases h
  | cons chunk chunks ih =>
      rw [List.map_cons, List.sum_cons, ← Nat.add_assoc] at hsmall ⊢
      rw [firstMatch?] at h
      split at h
      case h_1 =>
        obtain ⟨rfl, rfl, -⟩ : offset = start ∧ chunk.1.leafCount = count ∧ _ = captures := by
          simpa using h
        exact Nat.le_add_right _ _
      case h_2 =>
        rw [Nat.mod_eq_of_lt (Nat.lt_of_le_of_lt (Nat.le_add_right _ _) hsmall)] at h
        exact ih hsmall h

/-- Whether the chunks of a matcher claim exactly its leaves, in machine words. -/
structure IsCounted (m : Matcher) : Prop where
  chunks : m.chunks.length = m.data.chunks.length
  sum    : (m.data.chunks.map Chunk.leafCount).sum = m.data.leaves.length
  small  : m.data.leaves.length < wordSize

/-- A search through the merged expressions comes to its end. -/
theorem IsCounted.exists_searchLeaves (h : m.IsCounted) (ht : t.Within m.data.routes.length) :
    ∃ t', m.searchLeaves c t = .ok t' ∧ t'.Within m.data.routes.length := by
  have hsum : ((m.data.chunks.zip m.chunks).map fun c => c.1.leafCount).sum =
      m.data.leaves.length := by
    have hfst : (m.data.chunks.zip m.chunks).map (fun c => c.1.leafCount) =
        ((m.data.chunks.zip m.chunks).map Prod.fst).map Chunk.leafCount := List.map_map.symm
    rw [hfst, List.map_fst_zip (Nat.le_of_eq h.chunks.symm), h.sum]
  rw [searchLeaves]
  split
  case h_1 => exact ⟨t, rfl, ht⟩
  case h_2 offset count captures hmatch =>
    have hle : offset + count ≤ m.data.leaves.length := by
      rw [← hsum, ← Nat.zero_add (List.sum _)]
      refine add_le_of_firstMatch? ?_ hmatch
      rw [Nat.zero_add, hsum]
      exact h.small
    have hstop : (offset + count) % wordSize = offset + count :=
      Nat.mod_eq_of_lt (Nat.lt_of_le_of_lt hle h.small)
    have hrange : ¬(offset + count < offset ∨ m.data.leaves.length < offset + count) := by
      omega
    simp only [hstop, if_neg hrange]
    split
    case h_1 => exact ⟨t, rfl, ht⟩
    case h_2 i _ =>
      split
      case h_1 => exact ⟨t, rfl, ht⟩
      case h_2 leaf _ rest _ => exact ⟨_, rfl, within_tryLeaves (within_tryRoutes ht _) rest⟩

/-- What is found, and what is listed, is not nothing. -/
theorem Tally.resolution_cases (t : Tally) (ht : t.Within m.data.routes.length) :
    (∀ found, t.resolution = .found found → found.route < m.data.routes.length) ∧
      ∀ methods, t.resolution = .methodNotAllowed methods → methods ≠ [] := by
  rw [resolution]
  cases hfound : t.found? with
  | some found =>
      refine ⟨fun found' h => ?_, fun methods h => nomatch h⟩
      obtain rfl := Resolution.found.inj h
      exact ht found hfound
  | none =>
      refine ⟨fun found h => ?_, fun methods h => ?_⟩
      · simp only at h
        split at h <;> cases h
      · by_cases hempty : t.allowed.isEmpty
        · rw [if_pos hempty] at h
          cases h
        · rw [if_neg hempty] at h
          obtain rfl := Resolution.methodNotAllowed.inj h
          exact fun hnil => hempty (List.isEmpty_iff.2 hnil)

/-- **A lookup has an outcome**: a route of the matcher, or some methods, or nothing. -/
theorem IsCounted.exists_lookup (h : m.IsCounted) (c : Context) :
    ∃ res, m.lookup c = .ok res ∧
      (∀ found, res = .found found → found.route < m.data.routes.length) ∧
      ∀ methods, res = .methodNotAllowed methods → methods ≠ [] := by
  have hempty : ({} : Tally).Within m.data.routes.length := fun _ h => nomatch h
  have hliterals := @within_tryRoutes m c {} [] hempty ((m.data.staticPaths.get? c.path).getD [])
  simp only [lookup]
  generalize m.tryRoutes c [] {} ((m.data.staticPaths.get? c.path).getD []) = t at hliterals
  split
  case isTrue =>
    obtain ⟨t', ht', hwithin⟩ := h.exists_searchLeaves (c := c) hliterals
    rw [ht']
    exact ⟨t'.resolution, rfl, t'.resolution_cases hwithin⟩
  case isFalse => exact ⟨t.resolution, rfl, t.resolution_cases hliterals⟩

/-- **The leaves of a compiled collection are counted.** -/
theorem isCounted_of_isMadeOf [Regex.Engine] {collection : Collection} {options : CompileOptions}
    {compiled : List CompiledRoute} {runs : List (List Collection.SharedLeaf)}
    (h : collection.IsMadeOf options m compiled runs) : m.IsCounted where
  chunks := h.ready.chunks.length_eq.symm
  sum := by
    have hdata : m.data = Collection.dataOf options compiled
        (runs.map (Collection.mergedRun options.strategy)) :=
      h.data.trans (Collection.dataOf_runs h.shared).symm
    rw [hdata]
    exact (Collection.isWellFormed_dataOf h.shared h.nonempty).covered
  small := by
    rw [← covered_of_fault? h.ready.noFault]
    exact Nat.mod_lt _ (by decide)

end Signpost.Matcher
