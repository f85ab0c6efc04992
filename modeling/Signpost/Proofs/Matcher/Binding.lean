import Signpost.Matcher.Lookup
import Signpost.Proofs.Route.Defaults

/-!
# Matching — how values become parameters

Values are set one after the other: a variable that takes part gets its value, and any other its
default if it has one; setting a variable again moves it to the end.  For variables with different
names this sets all that are *bound* behind those parameters that have other names.

* `Matcher.toList_bindAll_eq`: the parameters, in order.
* `Matcher.get?_bindAll`: the parameter of a name.
-/

namespace Signpost.Matcher

/-- What variables are set to: to their values, or else to their defaults. -/
def bound (defaults : Dict String) (values : List (String × Option String)) :
    List (String × String) :=
  values.filterMap fun v => (v.2.or (defaults.get? v.1)).map fun value => (v.1, value)

variable {defaults : Dict String} {params : Params} {values : List (String × Option String)}

theorem mem_of_mem_bound {e : String × String} (h : e ∈ bound defaults values) :
    e.1 ∈ values.map Prod.fst := by
  obtain ⟨v, hv, hvalue⟩ := List.mem_filterMap.1 h
  obtain ⟨_, -, rfl⟩ := Option.map_eq_some_iff.1 hvalue
  exact List.mem_map_of_mem hv

theorem lookup_bound (hnodup : (values.map Prod.fst).Nodup) (name : String) :
    (bound defaults values).lookup name =
      (values.lookup name).bind fun v => v.or (defaults.get? name) := by
  induction values with
  | nil => rfl
  | cons v values ih =>
      obtain ⟨hnew, hnodup⟩ := List.nodup_cons.1 hnodup
      have hlater := ih hnodup
      rw [bound, List.filterMap_cons, Dict.lookup_cons]
      by_cases hname : name = v.1
      · subst hname
        rw [if_pos rfl, Option.bind_some]
        cases v.2.or (defaults.get? v.1) with
        | none =>
            -- no variable behind it has the name
            have hnone : values.lookup v.1 = none := by
              by_contra hsome
              exact hnew (Dict.isSome_lookup_iff.1 (Option.isSome_iff_ne_none.2 hsome))
            rw [hnone] at hlater
            exact hlater
        | some value => rw [Option.map_some, Dict.lookup_cons, if_pos rfl]
      · rw [if_neg hname]
        cases v.2.or (defaults.get? v.1) with
        | none => exact hlater
        | some value => rw [Option.map_some, Dict.lookup_cons, if_neg hname]; exact hlater

/-- **The parameters, in order**: those with other names, and then what is bound. -/
theorem toList_bindAll_eq (hnodup : (values.map Prod.fst).Nodup) :
    (bindAll defaults params values).toList =
      (params.toList.filter fun e => e.1 ∉ (bound defaults values).map Prod.fst) ++
        bound defaults values := by
  induction values generalizing params with
  | nil => simp [bindAll, bound]
  | cons v values ih =>
      obtain ⟨hnew, hnodup⟩ := List.nodup_cons.1 hnodup
      cases hvalue : v.2.or (defaults.get? v.1) with
      | none =>
          have hstep : bindAll defaults params (v :: values) = bindAll defaults params values := by
            rw [bindAll, List.foldl_cons, hvalue]
            rfl
          have hbound : bound defaults (v :: values) = bound defaults values := by
            rw [bound, List.filterMap_cons, hvalue]
            rfl
          rw [hstep, hbound, ih hnodup]
      | some value =>
          have hstep : bindAll defaults params (v :: values) =
              bindAll defaults (params.insert v.1 value) values := by
            rw [bindAll, List.foldl_cons, hvalue]
            rfl
          have hbound : bound defaults (v :: values) =
              (v.1, value) :: bound defaults values := by
            rw [bound, List.filterMap_cons, hvalue]
            rfl
          have hlater : v.1 ∉ (bound defaults values).map Prod.fst := by
            intro hmem
            obtain ⟨e, he, hname⟩ := List.mem_map.1 hmem
            exact hnew (hname ▸ mem_of_mem_bound he)
          have hothers : (params.without v.1).filter
                (fun e => e.1 ∉ (bound defaults values).map Prod.fst) =
              params.toList.filter
                fun e => e.1 ∉ v.1 :: (bound defaults values).map Prod.fst := by
            rw [Params.without, List.filter_filter]
            refine List.filter_congr fun e _ => ?_
            by_cases he : e.1 = v.1
            · simp [he]
            · simp [he, bne_iff_ne.2 he]
          have hinsert : (params.insert v.1 value).toList =
              params.without v.1 ++ [(v.1, value)] := rfl
          have hkept : [(v.1, value)].filter
              (fun e => e.1 ∉ (bound defaults values).map Prod.fst) = [(v.1, value)] :=
            List.filter_eq_self.2 fun e he => by
              rw [List.mem_singleton.1 he]
              exact decide_eq_true hlater
          rw [hstep, hbound, ih hnodup, hinsert, List.filter_append, hothers, hkept,
            List.append_assoc]
          rfl

/-- **The parameter of a name** is what is bound to it, or else what it was. -/
theorem get?_bindAll (hnodup : (values.map Prod.fst).Nodup) (name : String) :
    (bindAll defaults params values).get? name =
      ((values.lookup name).bind fun v => v.or (defaults.get? name)).or (params.get? name) := by
  rw [Params.get?, toList_bindAll_eq hnodup, List.lookup_append, ← lookup_bound hnodup]
  let isOther (n : String) : Bool := n ∉ (bound defaults values).map Prod.fst
  cases hbound : (bound defaults values).lookup name with
  | none =>
      have hother : name ∉ (bound defaults values).map Prod.fst := by
        rw [← Dict.isSome_lookup_iff, hbound]
        exact Bool.false_ne_true
      have hkept := Dict.lookup_filter_keys (p := isOther) (decide_eq_true hother) params.toList
      rw [hkept, Option.or_none, Option.none_or, Params.get?]
  | some value =>
      have hmem : name ∈ (bound defaults values).map Prod.fst := by
        rw [← Dict.isSome_lookup_iff, hbound]
        rfl
      have hgone := Dict.lookup_filter_keys_eq_none (p := isOther)
        (decide_eq_false (not_not_intro hmem)) params.toList
      rw [hgone, Option.none_or, Option.some_or]

/-- **Values for different variables that are new** are set in turn, each or else its default. -/
theorem toList_bindAll (hnodup : (values.map Prod.fst).Nodup)
    (hnew : ∀ v ∈ values, v.1 ∉ params.names) :
    (bindAll defaults params values).toList = params.toList ++ bound defaults values := by
  rw [toList_bindAll_eq hnodup]
  refine congrArg (· ++ bound defaults values) (List.filter_eq_self.2 fun e he => ?_)
  refine decide_eq_true fun hmem => ?_
  obtain ⟨e', he', hname⟩ := List.mem_map.1 hmem
  obtain ⟨v, hv, hvname⟩ := List.mem_map.1 (mem_of_mem_bound he')
  exact hnew v hv (hvname.trans hname ▸ List.mem_map_of_mem he)

end Signpost.Matcher
