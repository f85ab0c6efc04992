/-!
# Dictionaries

Finite maps from strings, as lists of entries in ascending order of their keys.  The order is
that of the code points of the keys, so two dictionaries with the same entries are equal, and
an encoding of one can go through its list.

* `Dict.get?_insert` — an insertion changes the value of its own key and of no other.
* `Dict.get?_insertNew` — an insertion of a new key keeps the value that is there.
* `Dict.ext_get?` — the values under all keys determine a dictionary.
-/

namespace Signpost

structure Dict (α : Type) where
  toList : List (String × α)
  ascending : toList.Pairwise fun a b => a.1 < b.1
  deriving DecidableEq, Repr

namespace Dict

variable {α : Type}

def empty : Dict α := ⟨[], .nil⟩

instance : EmptyCollection (Dict α) := ⟨empty⟩
instance : Inhabited (Dict α) := ⟨empty⟩

/-- Puts an entry into its place, over one with the same key. -/
def place (key : String) (value : α) : List (String × α) → List (String × α)
  | []      => [(key, value)]
  | e :: es =>
    if key < e.1 then (key, value) :: e :: es
    else if key = e.1 then (key, value) :: es
    else e :: place key value es

theorem mem_place {key : String} {value : α} {es : List (String × α)} {e : String × α}
    (h : e ∈ place key value es) : e = (key, value) ∨ e ∈ es := by
  induction es with
  | nil => simpa [place] using h
  | cons d ds ih =>
    unfold place at h
    split at h
    · simpa using h
    · split at h
      · simp only [List.mem_cons] at h ⊢
        exact h.elim Or.inl fun h => Or.inr (Or.inr h)
      · simp only [List.mem_cons] at h ⊢
        rcases h with h | h
        · exact Or.inr (Or.inl h)
        · exact (ih h).imp_right Or.inr

theorem ascending_place {key : String} {value : α} {es : List (String × α)}
    (h : es.Pairwise fun a b => a.1 < b.1) :
    (place key value es).Pairwise fun a b => a.1 < b.1 := by
  induction es with
  | nil => simp [place]
  | cons e es ih =>
    obtain ⟨first, rest⟩ := List.pairwise_cons.1 h
    unfold place
    split
    · refine List.pairwise_cons.2 ⟨fun d hd => ?_, h⟩
      rcases List.mem_cons.1 hd with rfl | hd
      · assumption
      · exact String.lt_trans ‹_› (first d hd)
    · split
      · rename_i eq
        exact List.pairwise_cons.2 ⟨fun d hd => eq ▸ first d hd, rest⟩
      · rename_i notLess notEqual
        refine List.pairwise_cons.2 ⟨fun d hd => ?_, ih rest⟩
        rcases mem_place hd with rfl | hd
        · exact String.not_le.1 fun h' => notEqual (String.le_antisymm h' (String.not_lt.1 notLess))
        · exact first d hd

/-- The dictionary with `value` under `key`. -/
def insert (d : Dict α) (key : String) (value : α) : Dict α :=
  ⟨place key value d.toList, ascending_place d.ascending⟩

/-- The dictionary without `key`. -/
def erase (d : Dict α) (key : String) : Dict α :=
  ⟨d.toList.filter fun e => e.1 ≠ key, d.ascending.filter _⟩

/-- The value under `key`. -/
def get? (d : Dict α) (key : String) : Option α := d.toList.lookup key

def contains (d : Dict α) (key : String) : Bool := (d.get? key).isSome

/-- The dictionary with `value` under `key` unless the key has a value. -/
def insertNew (d : Dict α) (key : String) (value : α) : Dict α :=
  if d.contains key then d else d.insert key value

/-- The entries in turn, a later one over an earlier one with the same key. -/
def insertAll (d : Dict α) (es : List (String × α)) : Dict α :=
  es.foldl (fun d e => d.insert e.1 e.2) d

def ofList (es : List (String × α)) : Dict α := empty.insertAll es

/-- The values of `d`, and those of `base` for the keys that `d` lacks. -/
def orElse (d base : Dict α) : Dict α :=
  base.toList.foldl (fun d e => d.insertNew e.1 e.2) d

def keys (d : Dict α) : List String := d.toList.map Prod.fst

def size (d : Dict α) : Nat := d.toList.length

theorem lookup_cons (k : String) (e : String × α) (es : List (String × α)) :
    List.lookup k (e :: es) = if k = e.1 then some e.2 else es.lookup k := by
  obtain ⟨key, value⟩ := e
  rw [List.lookup_cons]
  by_cases h : k = key
  · rw [if_pos h, beq_iff_eq.2 h]
  · rw [if_neg h, beq_eq_false_iff_ne.2 h]

theorem lookup_place (key : String) (value : α) (es : List (String × α)) (k : String) :
    (place key value es).lookup k = if k = key then some value else es.lookup k := by
  induction es with
  | nil => simp only [place, lookup_cons]
  | cons e es ih =>
    unfold place
    split
    · rw [lookup_cons]
    · split
      · rename_i eq
        rw [lookup_cons, lookup_cons]
        by_cases hk : k = key <;> simp [hk, ← eq]
      · rename_i _ notEqual
        rw [lookup_cons, lookup_cons, ih]
        by_cases he : k = e.1
        · simp [he, Ne.symm notEqual]
        · simp [he]

theorem get?_of_mem (d : Dict α) {e : String × α} (h : e ∈ d.toList) : d.get? e.1 = some e.2 := by
  obtain ⟨es, ascending⟩ := d
  simp only [get?]
  induction es with
  | nil => cases h
  | cons d ds ih =>
    obtain ⟨first, rest⟩ := List.pairwise_cons.1 ascending
    rw [lookup_cons]
    rcases List.mem_cons.1 h with rfl | h
    · rw [if_pos rfl]
    · have different : e.1 ≠ d.1 := fun eq => String.lt_irrefl _ (eq ▸ first e h)
      rw [if_neg different]
      exact ih rest h

theorem mem_of_get? (d : Dict α) {key : String} {value : α} (h : d.get? key = some value) :
    (key, value) ∈ d.toList := by
  obtain ⟨before, after, heq, -⟩ := List.lookup_eq_some_iff.1 h
  rw [heq]
  exact List.mem_append_right _ List.mem_cons_self

@[simp] theorem get?_insert (d : Dict α) (key : String) (value : α) (k : String) :
    (d.insert key value).get? k = if k = key then some value else d.get? k :=
  lookup_place key value d.toList k

@[simp] theorem get?_empty (k : String) : (empty : Dict α).get? k = none := rfl

@[simp] theorem get?_insertNew (d : Dict α) (key : String) (value : α) (k : String) :
    (d.insertNew key value).get? k = if k = key then d.get? key <|> some value else d.get? k := by
  unfold insertNew contains
  by_cases hk : k = key
  · subst hk
    cases h : d.get? k <;> simp [h]
  · split <;> simp [hk]

@[simp] theorem get?_orElse (d base : Dict α) (k : String) :
    (d.orElse base).get? k = (d.get? k).or (base.get? k) := by
  suffices h : ∀ (es : List (String × α)) (d : Dict α),
      (es.foldl (fun d e => d.insertNew e.1 e.2) d).get? k = (d.get? k).or (es.lookup k) from
    h base.toList d
  intro es
  induction es with
  | nil => intro d; simp
  | cons e es ih =>
    intro d
    rw [List.foldl_cons, ih, get?_insertNew, lookup_cons]
    by_cases hk : k = e.1
    · subst hk
      cases d.get? e.1 <;> simp
    · simp [hk]

/-- Dictionaries with the same values under all keys are equal. -/
theorem ext_get? {a b : Dict α} (h : ∀ k, a.get? k = b.get? k) : a = b := by
  have nodup : ∀ d : Dict α, d.toList.Nodup := fun d =>
    d.ascending.imp fun {x y} less (eq : x = y) => String.lt_irrefl x.1 (eq ▸ less)
  have perm : a.toList.Perm b.toList := by
    refine (List.perm_ext_iff_of_nodup (nodup a) (nodup b)).2 fun e => ⟨fun he => ?_, fun he => ?_⟩
    · exact b.mem_of_get? ((h e.1).symm.trans (a.get?_of_mem he))
    · exact a.mem_of_get? ((h e.1).trans (b.get?_of_mem he))
  have lists : a.toList = b.toList := List.Perm.eq_of_pairwise
    (fun x y _ _ xy yx => absurd (String.lt_trans xy yx) (String.lt_irrefl x.1))
    a.ascending b.ascending perm
  cases a
  cases b
  simpa using lists

theorem orElse_assoc (a b c : Dict α) : (a.orElse b).orElse c = a.orElse (b.orElse c) :=
  ext_get? fun k => by simp [Option.or_assoc]

theorem orElse_empty (d : Dict α) : d.orElse empty = d := rfl

end Dict

end Signpost
