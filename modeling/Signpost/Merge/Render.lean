import Signpost.Merge.Tree

/-!
# Merging — Expressions

The tree of a list of fragments as one anchored expression.  Every leaf ends in an empty capturing
group, its marker: after a match, the marker that took part tells the alternative.  The layout of
a leaf says which group is its marker and which groups hold its variables.
-/

namespace Signpost

/-- A variable and the capturing group that holds it. -/
structure Binding where
  name  : String
  group : Nat
  deriving DecidableEq, Repr, Inhabited

namespace Binding

/-- The variables among groups that come after the first `groups` ones. -/
def ofCaptures : (groups : Nat) → List (Option String) → List Binding
  | _, []                   => []
  | groups, none :: rest    => ofCaptures (groups + 1) rest
  | groups, some name :: rest => ⟨name, groups + 1⟩ :: ofCaptures (groups + 1) rest

theorem group_gt_of_mem {groups : Nat} {captures : List (Option String)} {b : Binding}
    (h : b ∈ ofCaptures groups captures) :
    groups < b.group ∧ b.group ≤ groups + captures.length := by
  induction captures generalizing groups with
  | nil => simp [ofCaptures] at h
  | cons c rest ih =>
    cases c with
    | none =>
      have := ih h
      simp only [List.length_cons]
      omega
    | some name =>
      rcases List.mem_cons.1 h with rfl | h
      · simp
      · have := ih h
        simp only [List.length_cons]
        omega

end Binding

/-- Where a leaf of a merged expression finds its marker and its variables. -/
structure Layout where
  marker   : Nat
  bindings : List Binding
  deriving DecidableEq, Repr, Inhabited

/-- A piece of an expression: its text, the number of groups up to its end, and the layouts of the
leaves in it. -/
structure Rendered where
  text    : List Char
  groups  : Nat
  layouts : List Layout
  deriving DecidableEq, Repr

namespace Tree

mutual

/-- The expression of a tree after `groups` groups, where `bindings` are those of the branches
above. -/
def render (groups : Nat) (bindings : List Binding) : Tree → Rendered
  | .leaf _ rest =>
    let captures := rest.flatMap Atom.captures
    let marker := groups + captures.length + 1
    { text := Atom.expression rest ++ ['(', ')']
      groups := marker
      layouts := [⟨marker, bindings ++ Binding.ofCaptures groups captures⟩] }
  | .branch shared children =>
    let captures := shared.flatMap Atom.captures
    let inner := renderAll (groups + captures.length)
      (bindings ++ Binding.ofCaptures groups captures) children
    { inner with text := Atom.expression shared ++ ['(', '?', ':'] ++ inner.text ++ [')'] }

/-- The expressions of trees as alternatives. -/
def renderAll (groups : Nat) (bindings : List Binding) : List Tree → Rendered
  | []        => ⟨[], groups, []⟩
  | [t]       => render groups bindings t
  | t :: rest =>
    let first := render groups bindings t
    let others := renderAll first.groups bindings rest
    { text := first.text ++ '|' :: others.text
      groups := others.groups
      layouts := first.layouts ++ others.layouts }

end

end Tree

/-- A merged expression, with the layout of each fragment. -/
structure Merged where
  expression : String
  layouts    : List Layout
  deriving DecidableEq, Repr, Inhabited

namespace Merged

/-- The expression that matches a text as a whole when one of the fragments does. -/
def ofFragments (strategy : Strategy) (fragments : List (List Atom)) : Merged :=
  let rendered := (Tree.ofFragments strategy fragments).render 0 []
  ⟨String.ofList ('^' :: rendered.text ++ ['$']), rendered.layouts⟩

/-- The expression of a single fragment, and the groups that hold its variables. -/
def standalone (atoms : List Atom) : String × List Binding :=
  let merged := ofFragments .flat [atoms]
  (merged.expression, (merged.layouts.getLast?.map Layout.bindings).getD [])

end Merged

end Signpost
