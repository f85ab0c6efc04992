import Mathlib.Data.List.Nodup
import Signpost.Proofs.Pattern.Parts
import Signpost.Proofs.Pattern.Reading
import Signpost.Route.Compile

/-!
# Routes — the defaults of variables

A variable can have a default in the pattern of the path, in that of the host and in the route
itself.  They come together in one dictionary, in this order, and a later one wins; a default of the
route for a name that is no variable is left out.

* `Dict.get?_insertAll`: entries over those of a dictionary.
* `Pattern.get?_defaults`: what a pattern itself has for a name.
* `Route.Patterns.get?_defaults_eq`: which default a name has.
-/

namespace Signpost

namespace Dict

variable {α : Type}

theorem nodup_keys (d : Dict α) : (d.toList.map Prod.fst).Nodup :=
  List.pairwise_map.2 (d.ascending.imp fun {_ _} hlt => String.ne_of_lt hlt)

/-- Entries with different keys, over those of a dictionary. -/
theorem get?_insertAll {d : Dict α} {es : List (String × α)} (hnodup : (es.map Prod.fst).Nodup)
    (k : String) : (d.insertAll es).get? k = (es.lookup k).or (d.get? k) := by
  induction es generalizing d with
  | nil => rfl
  | cons e es ih =>
      obtain ⟨hnew, hnodup⟩ := List.nodup_cons.1 hnodup
      have hstep : d.insertAll (e :: es) = (d.insert e.1 e.2).insertAll es := rfl
      rw [hstep, ih hnodup, get?_insert, lookup_cons]
      by_cases hk : k = e.1
      · have hnone : es.lookup k = none := by
          refine List.lookup_eq_none_iff.2 fun e' he' => bne_iff_ne.2 ?_
          rintro rfl
          exact hnew (hk ▸ List.mem_map_of_mem he')
        rw [if_pos hk, if_pos hk, hnone, Option.none_or, Option.some_or]
      · rw [if_neg hk, if_neg hk]

theorem lookup_filter_keys {p : String → Bool} {k : String} (hk : p k = true)
    (es : List (String × α)) : (es.filter fun e => p e.1).lookup k = es.lookup k := by
  induction es with
  | nil => rfl
  | cons e es ih =>
      rw [List.filter_cons]
      by_cases hp : p e.1 = true
      · rw [if_pos hp, lookup_cons, lookup_cons, ih]
      · have hne : k ≠ e.1 := fun heq => hp (heq ▸ hk)
        rw [if_neg hp, lookup_cons, if_neg hne, ih]

theorem lookup_filter_keys_eq_none {p : String → Bool} {k : String} (hk : p k = false)
    (es : List (String × α)) : (es.filter fun e => p e.1).lookup k = none := by
  refine List.lookup_eq_none_iff.2 fun e he => bne_iff_ne.2 ?_
  rintro rfl
  rw [(List.mem_filter.1 he).2] at hk
  cases hk

theorem isSome_lookup_iff {κ : Type} [DecidableEq κ] {k : κ} {es : List (κ × α)} :
    (es.lookup k).isSome ↔ k ∈ es.map Prod.fst := by
  rw [Option.isSome_iff_ne_none, Ne, List.lookup_eq_none_iff, List.mem_map]
  constructor
  · intro hsome
    by_contra hno
    exact hsome fun e he => bne_iff_ne.2 fun heq => hno ⟨e, he, heq.symm⟩
  · rintro ⟨e, he, rfl⟩ hnone
    exact bne_iff_ne.1 (hnone e he) rfl

end Dict

/-! ### What a pattern has for a name -/

namespace Pattern

/-- The default that a pattern itself has for a name. -/
def default? (p : Pattern) (name : String) : Option String :=
  (p.vars.find? fun v => v.name = name).bind Variable.default

/-- The entry of a variable among the defaults, if it has one. -/
def entry? (v : Variable) : Option (String × String) := v.default.map fun value => (v.name, value)

theorem lookup_entries {vs : List Variable} (hnodup : (vs.map Variable.name).Nodup)
    (name : String) : (vs.filterMap entry?).lookup name =
      (vs.find? fun v => v.name = name).bind Variable.default := by
  induction vs with
  | nil => rfl
  | cons u vs ih =>
      obtain ⟨hnew, hnodup⟩ := List.nodup_cons.1 hnodup
      rw [List.filterMap_cons, entry?, List.find?_cons]
      by_cases hname : u.name = name
      · cases hdefault : u.default with
        | some value => simp [hname, hdefault]
        | none =>
            -- no variable behind it has the name
            have hnone : (vs.find? fun v => v.name = name) = none :=
              List.find?_eq_none.2 fun v hv heq =>
                hnew (List.mem_map.2 ⟨v, hv, (of_decide_eq_true heq).trans hname.symm⟩)
            simp [hname, hdefault, ih hnodup, hnone]
      · have hne : name ≠ u.name := fun heq => hname heq.symm
        cases u.default with
        | some value => simp [hname, Dict.lookup_cons, hne, ih hnodup]
        | none => simp [hname, ih hnodup]

theorem nodup_entries {vs : List Variable} (hnodup : (vs.map Variable.name).Nodup) :
    ((vs.filterMap entry?).map Prod.fst).Nodup := by
  refine List.pairwise_map.2 (List.pairwise_filterMap.2 ?_)
  refine (List.pairwise_map.1 hnodup).imp fun {u v} hne e he e' he' => ?_
  obtain ⟨_, -, rfl⟩ := Option.map_eq_some_iff.1 he
  obtain ⟨_, -, rfl⟩ := Option.map_eq_some_iff.1 he'
  exact hne

/-- **What a pattern has for a name** is the default of the variable of that name. -/
theorem get?_defaults {p : Pattern} (hnodup : (p.vars.map Variable.name).Nodup) (name : String) :
    p.defaults.get? name = p.default? name := by
  have hlookup := Dict.get?_insertAll (d := .empty) (nodup_entries hnodup) name
  rw [lookup_entries hnodup, Dict.get?_empty, Option.or_none] at hlookup
  exact hlookup

theorem default?_of_mem {p : Pattern} (hnodup : (p.vars.map Variable.name).Nodup) {v : Variable}
    (hv : v ∈ p.vars) : p.default? v.name = v.default := by
  cases hfind : p.vars.find? fun u => u.name = v.name with
  | none => simpa using List.find?_eq_none.1 hfind v hv
  | some u =>
      have hname : u.name = v.name := by simpa using List.find?_some hfind
      obtain rfl := List.inj_on_of_nodup_map hnodup (List.mem_of_find?_eq_some hfind) hv hname
      rw [default?, hfind, Option.bind_some]

theorem default?_eq_none {p : Pattern} {name : String} (h : ∀ v ∈ p.vars, v.name ≠ name) :
    p.default? name = none := by
  have hnone : (p.vars.find? fun v => v.name = name) = none :=
    List.find?_eq_none.2 fun v hv heq => h v hv (of_decide_eq_true heq)
  rw [default?, hnone, Option.bind_none]

end Pattern

/-! ### What a route has for a name -/

namespace Route.Patterns

/-- Whether no pattern has two variables of the same name. -/
structure HasNames (patterns : Patterns) : Prop where
  path : (patterns.path.vars.map Variable.name).Nodup
  host : ∀ h ∈ patterns.host, (h.vars.map Variable.name).Nodup

/-- The default that the patterns themselves have for a name: the host goes first. -/
def default? (patterns : Patterns) (name : String) : Option String :=
  (patterns.host.bind fun h => h.default? name).or (patterns.path.default? name)

variable {patterns : Patterns}

theorem hasVariable_iff {name : String} : patterns.hasVariable name = true ↔
    (∃ v ∈ patterns.path.vars, v.name = name) ∨
      ∃ h ∈ patterns.host, ∃ v ∈ h.vars, v.name = name := by
  obtain ⟨path, host⟩ := patterns
  cases host with
  | none => simp [hasVariable]
  | some host => simp [hasVariable]

/-- What is read for a route is what its texts are read as. -/
theorem parses_of_ofRoute {r : Route} (h : ofRoute r = .ok patterns) :
    Pattern.parse r.path = .ok patterns.path ∧
      ∀ host ∈ patterns.host, ∃ domain, r.domain = some domain ∧
        Pattern.parse domain = .ok host := by
  obtain ⟨path, hpath, h⟩ := bind_eq_ok.1 h
  split at h
  case h_1 domain hdomain =>
    obtain ⟨host, hhost, h⟩ := bind_eq_ok.1 h
    obtain rfl := Except.ok.inj h
    refine ⟨hpath, ?_⟩
    rintro _ ⟨⟩
    exact ⟨domain, hdomain, hhost⟩
  case h_2 =>
    obtain rfl := Except.ok.inj h
    exact ⟨hpath, by simp⟩

theorem hasNames_of_ofRoute {r : Route} (h : ofRoute r = .ok patterns) : patterns.HasNames := by
  obtain ⟨hpath, hhost⟩ := parses_of_ofRoute h
  refine ⟨Pattern.nodup_names_of_parse hpath, fun host hmem => ?_⟩
  obtain ⟨domain, -, hparse⟩ := hhost host hmem
  exact Pattern.nodup_names_of_parse hparse

theorem default?_eq_none {name : String} (h : patterns.hasVariable name = false) :
    patterns.default? name = none := by
  have hno := mt hasVariable_iff.2 (Bool.eq_false_iff.1 h)
  rw [not_or] at hno
  have hpath : patterns.path.default? name = none :=
    Pattern.default?_eq_none fun v hv heq => hno.1 ⟨v, hv, heq⟩
  have hhost : (patterns.host.bind fun h => h.default? name) = none :=
    Option.bind_eq_none_iff.2 fun host hmem =>
      Pattern.default?_eq_none fun v hv heq => hno.2 ⟨host, hmem, v, hv, heq⟩
  rw [default?, hhost, hpath, Option.or_none]

theorem get?_insertAll_defaults (h : patterns.HasNames) (name : String) :
    (patterns.path.defaults.insertAll
      (patterns.host.elim [] fun h => h.defaults.toList)).get? name = patterns.default? name := by
  obtain ⟨path, host⟩ := patterns
  cases host with
  | none => exact Pattern.get?_defaults h.path name
  | some host =>
      rw [Option.elim_some, Dict.get?_insertAll host.defaults.nodup_keys,
        Pattern.get?_defaults h.path]
      exact congrArg (Option.or · _) (Pattern.get?_defaults (h.host host rfl) name)

/-- **Which default a name has**: if it is a variable, that of the route, or else that of the host,
or else that of the path. -/
theorem get?_defaults_eq (h : patterns.HasNames) (own : Dict String) (name : String) :
    (patterns.defaults own).get? name =
      if patterns.hasVariable name then (own.get? name).or (patterns.default? name) else none := by
  have hkeys : ((own.toList.filter fun e => patterns.hasVariable e.1).map Prod.fst).Nodup :=
    List.Pairwise.sublist (List.filter_sublist.map _) own.nodup_keys
  rw [defaults, Dict.get?_insertAll hkeys, get?_insertAll_defaults h]
  split
  case isTrue hhas =>
    rw [Dict.lookup_filter_keys hhas]
    rfl
  case isFalse hhas =>
    have hno := Bool.eq_false_iff.2 hhas
    rw [Dict.lookup_filter_keys_eq_none hno, Option.none_or, default?_eq_none hno]

/-- The default of a variable of a path without a host. -/
theorem get?_defaults {p : Pattern} (hnodup : (p.vars.map Variable.name).Nodup)
    {v : Variable} (hv : v ∈ p.vars) (own : Dict String) :
    ((Patterns.mk p none).defaults own).get? v.name = (own.get? v.name).or v.default := by
  have hhas : (Patterns.mk p none).hasVariable v.name = true :=
    hasVariable_iff.2 (.inl ⟨v, hv, rfl⟩)
  rw [get?_defaults_eq ⟨hnodup, by simp⟩, if_pos hhas, default?, Option.bind_none, Option.none_or,
    Pattern.default?_of_mem hnodup hv]

end Route.Patterns

theorem Route.parse_of_ofRoute {r : Route} {patterns : Patterns}
    (h : Patterns.ofRoute r = .ok patterns) : Pattern.parse r.path = .ok patterns.path :=
  (Patterns.parses_of_ofRoute h).1

/-- A route without a host of its own is read as its path. -/
theorem Route.ofRoute_of_parse {r : Route} {p : Pattern} (hdomain : r.domain = none)
    (hparse : Pattern.parse r.path = .ok p) : Patterns.ofRoute r = .ok ⟨p, none⟩ := by
  simp only [Patterns.ofRoute, hparse, hdomain, bind, Except.bind]
  rfl

end Signpost
