/-!
# Distinct entries

The first occurrence of each entry of a list, in order.

* `nodup_distinct`, `mem_distinct` — no entry comes twice and none is lost.
* `distinct_append` — what has come in the first part is left out of the second one.
-/

namespace Signpost

variable {α : Type} [DecidableEq α]

/-- The list without what has come before. -/
def distinct : List α → List α
  | []      => []
  | a :: as => a :: (distinct as).filter (· ≠ a)

theorem mem_distinct {a : α} {as : List α} : a ∈ distinct as ↔ a ∈ as := by
  induction as with
  | nil => simp [distinct]
  | cons b bs ih =>
    simp only [distinct, List.mem_cons, List.mem_filter, ih, decide_eq_true_eq]
    by_cases h : a = b <;> simp [h]

theorem nodup_distinct (as : List α) : (distinct as).Nodup := by
  induction as with
  | nil => simp [distinct]
  | cons b bs ih => exact List.nodup_cons.2 ⟨by simp, ih.filter _⟩

/-- Nothing is left out where nothing comes again. -/
theorem distinct_of_nodup {as : List α} (h : as.Nodup) : distinct as = as := by
  induction as with
  | nil => rfl
  | cons a as ih =>
    obtain ⟨hnot, hnodup⟩ := List.nodup_cons.1 h
    rw [distinct, ih hnodup, List.filter_eq_self.2]
    intro b hb
    exact decide_eq_true fun heq => hnot (heq ▸ hb)

/-- What has come in the first part is left out of the second one. -/
theorem distinct_append (as bs : List α) :
    distinct (as ++ bs) = distinct as ++ (distinct bs).filter (· ∉ as) := by
  induction as with
  | nil => exact (List.filter_eq_self.2 fun b _ => decide_eq_true List.not_mem_nil).symm
  | cons a as ih =>
    rw [List.cons_append, distinct, ih, distinct, List.filter_append, List.cons_append,
      List.filter_filter]
    congr 2
    refine List.filter_congr fun b _ => ?_
    simp

/-- It makes no difference whether the first part has been gone through before. -/
theorem distinct_distinct_append (as bs : List α) :
    distinct (distinct as ++ bs) = distinct (as ++ bs) := by
  rw [distinct_append, distinct_append, distinct_of_nodup (nodup_distinct as)]
  simp only [mem_distinct]
end Signpost
