import Signpost.Pattern.Fragment

/-!
# Merging — Trees

Fragments that begin alike share their beginning: a branch holds the shared atoms and the
alternatives that follow them, and a leaf holds what is left of one fragment.

A new fragment is only ever merged with the last child of a branch, so the leaves, read from left
to right, stay in the order in which the fragments came.  What is shared must match in
exactly one way, or factoring it out would change which alternative wins.  A character does; an
unconstrained path variable does when both sides go on with a slash, where it has to stop.
-/

namespace Signpost

/-- How much of their beginnings alternatives share. -/
inductive Strategy where
  /-- Characters, and path variables before a slash. -/
  | segments
  /-- Characters only. -/
  | literals
  /-- Nothing. -/
  | flat
  deriving DecidableEq, Repr, Inhabited

namespace Strategy

def name : Strategy → String
  | .segments => "segments"
  | .literals => "literals"
  | .flat     => "flat"

def ofName? (name : String) : Option Strategy :=
  [segments, literals, flat].find? (·.name = name)

theorem ofName?_name (s : Strategy) : ofName? s.name = some s := by
  cases s <;> decide

end Strategy

/-- A leaf for the fragment with the given index, or a branch. -/
inductive Tree where
  | leaf (index : Nat) (rest : List Atom)
  | branch (shared : List Atom) (children : List Tree)
  deriving Repr, Inhabited

namespace Tree

/-- Whether the first atom of two texts that begin with it can be shared, given what follows it
in each of them. -/
def isShareable (strategy : Strategy) (a : Atom) (as bs : List Atom) : Bool :=
  match a with
  | .char _        => true
  | .group _ _ seg =>
    seg && strategy == .segments && as.head? == some (.char '/') && bs.head? == some (.char '/')

/-- The number of atoms that two fragments can share. -/
def sharedLength (strategy : Strategy) : List Atom → List Atom → Nat
  | a :: as, b :: bs =>
    if a = b ∧ isShareable strategy a as bs then sharedLength strategy as bs + 1 else 0
  | _, _             => 0

/-- The atoms at the head of a child. -/
def head : Tree → List Atom
  | .leaf _ rest     => rest
  | .branch shared _ => shared

/-- Drops atoms from the head of a child. -/
def strip (n : Nat) : Tree → Tree
  | .leaf index rest     => .leaf index (rest.drop n)
  | .branch shared cs    => .branch (shared.drop n) cs

/-- The number of atoms that a new fragment shares with the last child. -/
def sharedWith (strategy : Strategy) (last : Tree) (atoms : List Atom) : Nat :=
  if strategy = .flat then 0 else sharedLength strategy last.head atoms

mutual

/-- Inserts a fragment below a child with which it shares atoms. -/
def insertInto (strategy : Strategy) (index : Nat) (atoms : List Atom) (shared : Nat) :
    Tree → Tree
  | .branch head children =>
    if shared = head.length then
      .branch head (insertLast strategy index (atoms.drop shared) children)
    else
      .branch (atoms.take shared)
        [.branch (head.drop shared) children, .leaf index (atoms.drop shared)]
  | .leaf i rest =>
    .branch (atoms.take shared) [.leaf i (rest.drop shared), .leaf index (atoms.drop shared)]

/-- Inserts a fragment after the children, or into the last one. -/
def insertLast (strategy : Strategy) (index : Nat) (atoms : List Atom) : List Tree → List Tree
  | []            => [.leaf index atoms]
  | [last]        =>
    let shared := sharedWith strategy last atoms
    if shared = 0 then [last, .leaf index atoms]
    else [insertInto strategy index atoms shared last]
  | first :: rest => first :: insertLast strategy index atoms rest

end

/-- The children of the tree of a list of fragments, whose indices begin at `index`. -/
def insertAll (strategy : Strategy) (index : Nat) (children : List Tree) :
    List (List Atom) → List Tree
  | []        => children
  | f :: rest => insertAll strategy (index + 1) (insertLast strategy index f children) rest

/-- The tree of a list of fragments; its root shares nothing. -/
def ofFragments (strategy : Strategy) (fragments : List (List Atom)) : Tree :=
  .branch [] (insertAll strategy 0 [] fragments)

/-- The indices of the leaves, from left to right. -/
def leaves : Tree → List Nat
  | .leaf index _ => [index]
  | .branch _ cs  => cs.flatMap leaves

end Tree

end Signpost
