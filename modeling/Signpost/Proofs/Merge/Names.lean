import Signpost.Proofs.Merge.Literal

/-!
# Merging — the names of variables

Groups are numbered anew wherever a fragment is written; the names of the variables that they hold
stay as they are, and stay in their order.  None of this depends on what the constraints are.

* `Pattern.vars_of_atoms`: the variables of a pattern and those of its atoms.
* `Merged.map_names_layouts`, `Merged.map_name_standalone`: those of fragments that are merged, and
  of one by itself.
-/

namespace Signpost

/-! ### Atoms -/

/-- The variables among groups, whatever their numbers are. -/
theorem Atom.map_name_ofCaptures (groups : Nat) (cs : List (Option String)) :
    (Binding.ofCaptures groups cs).map Binding.name = cs.filterMap id := by
  induction cs generalizing groups with
  | nil => rfl
  | cons c cs ih =>
      cases c with
      | none => exact ih (groups + 1)
      | some name => exact congrArg (name :: ·) (ih (groups + 1))

namespace Pattern

variable {source segment : String} {overrides : Dict String} {ts : List Token}
  {ass : List (List Atom)} {depth : Nat}

theorem vars_flatten
    (h : List.Forall₂ (fun t as => Atom.vars as = (t.vars depth).map Variable.name) ts ass) :
    Atom.vars ass.flatten = (ts.flatMap (Token.vars depth)).map Variable.name := by
  induction h with
  | nil => rfl
  | cons ht _ ih =>
      rw [List.flatten_cons, List.flatMap_cons, List.map_append, ← ih, ← ht]
      simp [Atom.vars]

variable [Regex.Engine]

/-- The variables of the atoms of a token are those of the token. -/
theorem vars_of_tokenAtoms {t : Token} {as : List Atom}
    (h : tokenAtoms source segment overrides t = .ok as) :
    Atom.vars as = (t.vars depth).map Variable.name := by
  induction t using Token.induct generalizing depth as with
  | text content =>
      obtain rfl := Except.ok.inj ((tokenAtoms_text content).symm.trans h)
      rw [Atom.vars, Atom.captures_chars, Token.vars]
      rfl
  | var name own default =>
      obtain ⟨count, -, rfl⟩ := tokenAtoms_var.1 h
      simp [Atom.vars, Atom.ofVariable, Atom.captures, Token.vars, List.filterMap_replicate_of_none]
  | optional inner ih =>
      obtain ⟨ass, hass, rfl⟩ := tokenAtoms_optional.1 h
      rw [Token.vars, ← vars_flatten (forall₂_of_mem hass fun t ht bs hbs => ih t ht hbs)]
      simp [Atom.vars, Atom.optional, Atom.captures]

/-- **The variables of the atoms of a pattern** are those of the pattern. -/
theorem vars_of_atoms {p : Pattern} {as : List Atom} (h : p.atoms segment overrides = .ok as) :
    Atom.vars as = p.vars.map Variable.name := by
  obtain ⟨ass, hass, rfl⟩ := atoms_eq_ok.1 h
  exact vars_flatten (hass.imp fun _ _ => vars_of_tokenAtoms)

end Pattern

/-! ### Fragments -/

theorem Place.map_name_bindings (p : Place) :
    p.bindings.map Binding.name = Atom.vars p.fragment.1 := by
  have hspot : ∀ s : Spot, s.bindings.map Binding.name = s.atom.captures.filterMap id :=
    fun s => Atom.map_name_ofCaptures s.groups s.atom.captures
  simp only [bindings, fragment, Atom.vars, List.map_flatMap, List.flatMap_map,
    List.filterMap_flatMap, hspot]

namespace Merged

/-- **Each fragment keeps the names of its variables** where it is merged with others. -/
theorem map_names_layouts (strategy : Strategy) (fs : List (List Atom)) :
    (ofFragments strategy fs).layouts.map (fun l => l.bindings.map Binding.name) =
      fs.map Atom.vars := by
  have hfragments : (places strategy fs).map (fun p => p.fragment.1) = fs := by
    have hpairs := congrArg (List.map Prod.fst) (map_fragment_places strategy fs)
    rwa [List.map_map, List.zipIdx_map_fst] at hpairs
  have hnames : (fun l => l.bindings.map Binding.name) ∘ Place.layout [] =
      Atom.vars ∘ fun p : Place => p.fragment.1 :=
    funext fun p => p.map_name_bindings
  rw [layouts_eq, List.map_map, hnames, ← List.map_map, hfragments]

theorem map_name_standalone (f : List Atom) :
    (standalone f).2.map Binding.name = Atom.vars f := by
  rw [bindings_standalone_eq, Atom.map_name_ofCaptures]
  rfl

end Merged

end Signpost
