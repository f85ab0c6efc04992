import Signpost.Proofs.Collection.Alone
import Signpost.Proofs.Pattern.Shapes
import Signpost.Regex.Estimate

/-!
# Collections — what a leaf has of its routes

Routes share a leaf when their expressions and their variables are the same texts, and the leaf has
its groups from one of them.  Where constraints are complete the texts show the groups, so the leaf
is what any of its routes is by itself.

* `Merged.standalone_eq_of_delimited`: texts that are the same have the same groups.
* `Collection.standalone_of_compile`: a leaf is what each of its routes is by itself.
-/

namespace Signpost

open Regex (Node)
open Matcher (valuesOf)

section

variable [Regex.Engine]

/-- **Texts that are the same have the same groups**: a fragment with complete constraints depends
on its expression and its variables only. -/
theorem Merged.standalone_eq_of_delimited {as bs : List Atom} (has : ∀ a ∈ as, a.IsDelimited)
    (hbs : ∀ b ∈ bs, b.IsDelimited) (hexpression : Atom.expression as = Atom.expression bs)
    (hvars : Atom.vars as = Atom.vars bs) : standalone as = standalone bs :=
  standalone_eq_of_captures hexpression
    (eq_of_map_isSome (Atom.IsDelimited.shape_eq has hbs hexpression) hvars)

/-- A constraint that is not complete makes one variable look like two. -/
example :
    let as := [Atom.ofVariable "a" "x)(y" 1, .ofVariable "b" "z" 0]
    let bs := [Atom.ofVariable "a" "x" 0, .ofVariable "b" "y)(z" 1]
    Atom.expression as = Atom.expression bs ∧ Atom.vars as = Atom.vars bs ∧
      Merged.standalone as ≠ Merged.standalone bs := by decide

namespace Collection

variable {c : Collection} {options : CompileOptions} {m : Matcher} {compiled : List CompiledRoute}

/-- The atoms of a leaf depend on the texts of its routes only. -/
theorem SharedLeaf.IsOf.standalone_eq {s : SharedLeaf} {d : CompiledRoute} {id : Nat}
    (h : s.IsOf compiled)
    (hexpression : ∀ d ∈ compiled, d.expression = String.ofList (Atom.expression d.atoms))
    (hvars : ∀ d ∈ compiled, d.vars = Atom.vars d.atoms)
    (hdelimited : ∀ d ∈ compiled, ∀ a ∈ d.atoms, a.IsDelimited) (hid : id ∈ s.routes)
    (hd : compiled[id]? = some d) : Merged.standalone d.atoms = Merged.standalone s.atoms := by
  obtain ⟨d', hd', -, hexpr, hvar⟩ := h.routes id hid
  obtain rfl := Option.some.inj (hd.symm.trans hd')
  obtain ⟨first, hfirst, hatoms, hexpr', hvar'⟩ := h.atoms
  have hmem := List.mem_of_getElem? hd
  rw [← hatoms]
  refine Merged.standalone_eq_of_delimited (hdelimited d hmem) (hdelimited first hfirst) ?_ ?_
  · refine String.ofList_injective ?_
    rw [← hexpression d hmem, ← hexpression first hfirst, hexpr, hexpr']
  · rw [← hvars d hmem, ← hvars first hfirst, hvar, hvar']

/-- **A leaf is what each of its routes is by itself**, in a collection whose constraints are
complete expressions: it has the expression and the groups that the route alone is merged into, each
variable has the group of its own parenthesis in the route, and so the leaf gives every path the
values that the route alone gives it. -/
theorem standalone_of_compile (hm : c.compile options = .ok m)
    (hcomplete : ∀ r ∈ c.routes, ∀ p, Pattern.parse r.path = .ok p →
      ∀ constraint ∈ p.constraints pathSegment r.patterns,
        (Node.ofText? constraint.toList).isSome) :
    ∀ leaf ∈ m.data.leaves, ∀ id ∈ leaf.routes, ∃ r d, c.routes[id]? = some r ∧
      r.compile = .ok d ∧ (leaf.expression, leaf.standalone) = Merged.standalone d.atoms ∧
      leaf.standalone = Binding.ofCaptures 0 (d.atoms.flatMap Atom.captures) ∧
      ∃ e, Regex.compile leaf.expression m.data.sizeLimit = .ok e ∧
        ∀ path, (e.captures? path).map (valuesOf · leaf.standalone) = d.values? path := by
  intro leaf hleaf id hid
  obtain ⟨compiled, runs, hmade⟩ := isMadeOf_of_compile hm
  have hdelimited : ∀ d ∈ compiled, ∀ a ∈ d.atoms, a.IsDelimited := by
    intro d hd
    obtain ⟨r, hr, p, hp⟩ := hmade.exists_isCompiledTo hd
    exact Pattern.isDelimited_of_atoms (hcomplete r hr p hp.parse) hp.atoms
  have hexpression : ∀ d ∈ compiled, d.expression = String.ofList (Atom.expression d.atoms) := by
    intro d hd
    obtain ⟨r, hr, p, hp⟩ := hmade.exists_isCompiledTo hd
    exact hp.expression
  have hvars : ∀ d ∈ compiled, d.vars = Atom.vars d.atoms := by
    intro d hd
    obtain ⟨r, hr, p, hp⟩ := hmade.exists_isCompiledTo hd
    exact hp.vars
  -- the leaf is a shared one, with the expression that has been compiled for it
  obtain ⟨e, -, he⟩ := exists_of_mem_right hmade.ready.leaves.flip hleaf
  have hdata : m.data = dataOf options compiled _ :=
    hmade.data.trans (dataOf_runs hmade.shared).symm
  rw [hdata] at hleaf
  obtain ⟨s, hs, layout, rfl⟩ := exists_of_mem_leaves hleaf
  have hof := (isShared_sharedLeaves compiled).each s hs
  obtain ⟨d, hd, -⟩ := hof.routes id hid
  have hsame := hof.standalone_eq hexpression hvars hdelimited hid hd
  obtain ⟨r, hr, hcompile⟩ := exists_getElem?_of_forall₂ hmade.routes hd
  refine ⟨r, d, hr, hcompile, hsame.symm, ?_, e, he, fun path => ?_⟩
  · rw [← Merged.bindings_standalone_eq, hsame]
    rfl
  · exact (CompiledRoute.values?_of_standalone hsame he path).symm

end Collection

end

namespace Collection

theorem standalone_of_sample : ∃ m leaf d, sample.compile {} = .ok m ∧ m.data.leaves = [leaf] ∧
    leaf.routes = [1] ∧
    Route.compile
      { path := "/{y}", methods := ["GET"], handler := .named "variable" } = .ok d ∧
    (leaf.expression, leaf.standalone) = Merged.standalone d.atoms ∧
    leaf.standalone = Binding.ofCaptures 0 (d.atoms.flatMap Atom.captures) := by
  have hsome : (Matcher.ofData sampleData).toOption.isSome := by decide +kernel
  obtain ⟨m, hm⟩ := Option.isSome_iff_exists.1 hsome
  have hm := toOption_eq_some.1 hm
  have hdata : m.data = sampleData := Matcher.data_of_ofData hm
  have hcompile : sample.compile {} = .ok m := compile_sample.trans hm
  have hcomplete : ∀ r ∈ sample.routes, ∀ p, Pattern.parse r.path = .ok p →
      ∀ constraint ∈ p.constraints pathSegment r.patterns,
        (Node.ofText? constraint.toList).isSome := by
    intro r hr p hp constraint hconstraint
    rw [constraints_sample r hr p hp constraint hconstraint]
    decide
  obtain ⟨r, d, hr, hd, hsame, hgroups, -⟩ := standalone_of_compile hcompile hcomplete
    ⟨2, [⟨"y", 1⟩], "^(?:/([^/]+)())$", [⟨"y", 1⟩], [1]⟩ (by rw [hdata]; exact List.mem_cons_self)
    1 List.mem_cons_self
  obtain rfl := Option.some.inj hr
  exact ⟨m, _, d, hcompile, by rw [hdata]; rfl, rfl, hd, hsame, hgroups⟩

end Collection

end Signpost
