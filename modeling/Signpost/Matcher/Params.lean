import Signpost.Dict

/-!
# Matching — Parameters

The values that a request gives to the variables of its route: a list of names and values, in
which every name appears once.  Setting a value again moves it to the end.
-/

namespace Signpost

structure Params where
  toList : List (String × String)
  distinct : (toList.map Prod.fst).Nodup
  deriving DecidableEq, Repr

namespace Params

def empty : Params := ⟨[], by simp⟩

instance : EmptyCollection Params := ⟨empty⟩
instance : Inhabited Params := ⟨empty⟩

/-- The entries under other names. -/
def without (ps : Params) (name : String) : List (String × String) :=
  ps.toList.filter fun p => p.1 != name

theorem not_mem_without (ps : Params) (name : String) :
    name ∉ (ps.without name).map Prod.fst := by
  simp [without]

theorem nodup_without (ps : Params) (name : String) :
    ((ps.without name).map Prod.fst).Nodup :=
  List.Pairwise.sublist (List.Sublist.map _ List.filter_sublist) ps.distinct

/-- Puts a value under a name, at the end. -/
def insert (ps : Params) (name value : String) : Params where
  toList := ps.without name ++ [(name, value)]
  distinct := by
    rw [List.map_append, List.nodup_append]
    refine ⟨ps.nodup_without name, by simp, fun a ha b hb => ?_⟩
    simp only [List.map_cons, List.map_nil, List.mem_singleton] at hb
    rintro rfl
    exact ps.not_mem_without name (hb ▸ ha)

/-- The value under a name. -/
def get? (ps : Params) (name : String) : Option String := ps.toList.lookup name

def contains (ps : Params) (name : String) : Bool := (ps.get? name).isSome

def size (ps : Params) : Nat := ps.toList.length

def isEmpty (ps : Params) : Bool := ps.toList.isEmpty

/-- The names, in order. -/
def names (ps : Params) : List String := ps.toList.map Prod.fst

end Params

end Signpost
