import Signpost.Proofs.Regex.Moves
import Signpost.Proofs.Regex.Transport

/-!
# Regex — reading inside of another expression

What is read inside of another expression is what is read on its own, on top of what surrounds it:
the groups around it stay open, the pieces before it stay where they are, and its own groups go on
with the numbers of the groups before it (`Reader.within`).

A bar is what could reach out: it ends an alternative of the surrounding group.  So either nothing
comes before the text in this group, or the text has no bar outside of its own groups.

* `Reader.Reads.within`: a run is also a run inside of another expression.
-/

namespace Signpost.Regex

/-- The parenthesis inside of groups, which may all be plain. -/
def Paren.inside (isPlain : Bool) (p : Paren) : Paren := { p with isOuter := p.isOuter && isPlain }

/-! ### Other numbers for groups -/

namespace Node

theorem matchesOnlyEmpty_renumber (f : Nat → Nat) (n : Node) :
    (n.renumber f).matchesOnlyEmpty = n.matchesOnlyEmpty := by
  induction n with
  | group index name n ih => simpa [renumber, matchesOnlyEmpty] using ih
  | cat a b iha ihb | alt a b iha ihb => simp [renumber, matchesOnlyEmpty, iha, ihb]
  | repetition n min max greedy ih => simpa [renumber, matchesOnlyEmpty] using ih
  | empty | char _ | set _ | look _ => rfl

/-! A map of nodes that goes through sequences, choices and repetitions. -/

section Maps

variable {g : Node → Node} (empty : g .empty = .empty)
include empty

theorem repeated_map (only : ∀ n, (g n).matchesOnlyEmpty = n.matchesOnlyEmpty)
    (repetition : ∀ n min max greedy,
      g (.repetition n min max greedy) = .repetition (g n) min max greedy)
    (n : Node) (min : Nat) (max : Option Nat) (greedy : Bool) :
    (g n).repeated min max greedy = g (n.repeated min max greedy) := by
  simp only [repeated, only]
  generalize (if n.matchesOnlyEmpty = true then (Nat.min min 1, some (max.elim 1 (Nat.min · 1)))
    else (min, max)) = bounds
  obtain ⟨min, max⟩ := bounds
  simp only
  split
  · exact empty.symm
  · split
    · rfl
    · exact (repetition n min max greedy).symm

theorem sequence_map (cat : ∀ a b, g (.cat a b) = .cat (g a) (g b)) (ns : List Node) :
    sequence (ns.map g) = g (sequence ns) := by
  induction ns with
  | nil => exact empty.symm
  | cons n ns ih =>
      cases ns with
      | nil => rfl
      | cons m ns => exact (congrArg (Node.cat (g n)) ih).trans (cat n _).symm

theorem choice_map (alt : ∀ a b, g (.alt a b) = .alt (g a) (g b)) (ns : List Node) :
    choice (ns.map g) = g (choice ns) := by
  induction ns with
  | nil => exact empty.symm
  | cons n ns ih =>
      cases ns with
      | nil => rfl
      | cons m ns => exact (congrArg (Node.alt (g n)) ih).trans (alt n _).symm

end Maps

theorem repeated_renumber (f : Nat → Nat) (n : Node) (min : Nat) (max : Option Nat)
    (greedy : Bool) :
    (n.renumber f).repeated min max greedy = (n.repeated min max greedy).renumber f :=
  repeated_map rfl (matchesOnlyEmpty_renumber f) (fun _ _ _ _ => rfl) n min max greedy

theorem sequence_renumber (f : Nat → Nat) (ns : List Node) :
    sequence (ns.map (renumber f)) = (sequence ns).renumber f :=
  sequence_map rfl (fun _ _ => rfl) ns

theorem choice_renumber (f : Nat → Nat) (ns : List Node) :
    choice (ns.map (renumber f)) = (choice ns).renumber f :=
  choice_map rfl (fun _ _ => rfl) ns

end Node

/-- The pieces with other numbers for their groups. -/
def Piece.renumberAll (f : Nat → Nat) (ps : List Piece) : List Piece :=
  ps.map (Piece.mapNode (Node.renumber f))

def Opening.renumber (f : Nat → Nat) : Opening → Opening
  | .plain              => .plain
  | .capture index name => .capture (f index) name

def OpenGroup.renumber (f : Nat → Nat) (g : OpenGroup) : OpenGroup :=
  ⟨g.opening.renumber f, g.flags, Piece.renumberAll f g.branches, Piece.renumberAll f g.pieces⟩

theorem OpenGroup.close_renumber (f : Nat → Nat) (g : OpenGroup) (inner : Piece) :
    (g.renumber f).close (inner.mapNode (Node.renumber f)) =
      (g.close inner).mapNode (Node.renumber f) := by
  cases g with
  | mk opening flags branches pieces => cases opening <;> rfl

theorem Piece.sequence_renumberAll (f : Nat → Nat) (ps : List Piece) :
    sequence (renumberAll f ps) = (sequence ps).mapNode (Node.renumber f) :=
  sequence_mapNode (Node.sequence_renumber f) ps

theorem Piece.choice_renumberAll (f : Nat → Nat) (ps : List Piece) :
    choice (renumberAll f ps) = (choice ps).mapNode (Node.renumber f) :=
  choice_mapNode (Node.choice_renumber f) ps

/-! ### A reader on top of another one -/

namespace Reader

/-- Open groups on top of a level with pieces before them, which is on top of other groups. -/
def nest (f : Nat → Nat) (base : Reader) : List OpenGroup → List OpenGroup
  | []           => base.groups
  | [g]          =>
    { g.renumber f with
      branches := Piece.renumberAll f g.branches ++ base.branches
      pieces   := Piece.renumberAll f g.pieces ++ base.pieces } :: base.groups
  | g :: g' :: gs => g.renumber f :: nest f base (g' :: gs)

/-- What `r` has read, inside of what `base` has read. -/
def within (base r : Reader) : Reader :=
  let f := (· + base.captures)
  { groups   := nest f base r.groups
    branches := Piece.renumberAll f r.branches ++ if r.groups = [] then base.branches else []
    pieces   := Piece.renumberAll f r.pieces ++ if r.groups = [] then base.pieces else []
    flags    := r.flags
    captures := r.captures + base.captures
    names    := r.names }

/-- The alternatives outside of all groups. -/
def outerBranches (r : Reader) : List Piece :=
  match r.groups.getLast? with
  | none   => r.branches
  | some g => g.branches

/-- Whether what `r` has read can stand inside of what `base` has read. -/
def Fits (base r : Reader) : Prop := base.pieces = [] ∨ r.outerBranches = []

variable {base r r' : Reader}

theorem all_isPlain_nest (f : Nat → Nat) (base : Reader) (gs : List OpenGroup) :
    (nest f base gs).all OpenGroup.isPlain =
      (gs.all OpenGroup.isPlain && base.groups.all OpenGroup.isPlain) := by
  have one : ∀ g : OpenGroup, ∀ bs ps, OpenGroup.isPlain
      { g.renumber f with branches := bs, pieces := ps } = g.isPlain := by
    intro g bs ps
    cases g with
    | mk opening flags branches pieces => cases opening <;> rfl
  induction gs with
  | nil => rfl
  | cons g gs ih =>
      cases gs with
      | nil => simp [nest, one]
      | cons g' gs =>
          rw [nest, List.all_cons, ih, List.all_cons, ← Bool.and_assoc]
          congr 2
          exact one g _ _

/-- What is opened, branched and closed inside of another expression. -/
theorem openGroup_within (opening : Opening) (flags : Flags) :
    (within base r).openGroup (opening.renumber (· + base.captures)) flags =
      within base (r.openGroup opening flags) := by
  simp only [openGroup, within, reduceCtorEq, if_false, List.append_nil]
  cases hg : r.groups with
  | nil => simp [nest, OpenGroup.renumber, Piece.renumberAll]
  | cons g gs => simp [nest, OpenGroup.renumber, Piece.renumberAll]

theorem branch_within (h : Fits base r.branch) :
    (within base r).branch = within base r.branch := by
  cases hg : r.groups with
  | nil =>
      have hpieces : base.pieces = [] := by
        rcases h with h | h
        · exact h
        · simp [outerBranches, branch, hg] at h
      simp only [within, branch, hg, hpieces, if_true, List.append_nil,
        Piece.sequence_renumberAll]
      rfl
  | cons g gs =>
      simp only [within, branch, hg, reduceCtorEq, if_false, List.append_nil,
        Piece.sequence_renumberAll]
      rfl

theorem current_within (h : r.groups ≠ []) :
    (within base r).current = r.current.mapNode (Node.renumber (· + base.captures)) := by
  have hb : (within base r).branch = within base r.branch := by
    simp only [within, branch, h, if_false, List.append_nil, Piece.sequence_renumberAll]
    rfl
  rw [current, hb, current, ← Piece.choice_renumberAll]
  simp [within, branch, h]

theorem closeGroup?_within (h : r.closeGroup? = some r') :
    (within base r).closeGroup? = some (within base r') := by
  obtain ⟨g, gs, hg, rfl⟩ := closeGroup?_eq_some.1 h
  have hcurrent : (within base r).current =
      r.current.mapNode (Node.renumber (· + base.captures)) :=
    current_within (by simp [hg])
  have hgroups : (within base r).groups = nest (· + base.captures) base r.groups := rfl
  have hclose : ∀ bs ps, OpenGroup.close
        { g.renumber (· + base.captures) with branches := bs, pieces := ps }
        (r.current.mapNode (Node.renumber (· + base.captures))) =
      (g.close r.current).mapNode (Node.renumber (· + base.captures)) :=
    fun _ _ => OpenGroup.close_renumber (· + base.captures) g r.current
  cases gs with
  | nil =>
      rw [hg, nest] at hgroups
      refine closeGroup?_eq_some.2 ⟨_, _, hgroups, ?_⟩
      rw [hcurrent, hclose]
      simp [within, nest, Piece.renumberAll, OpenGroup.renumber]
  | cons g' gs =>
      rw [hg, nest] at hgroups
      refine closeGroup?_eq_some.2 ⟨_, _, hgroups, ?_⟩
      have hclose := hclose (g.renumber (· + base.captures)).branches
        (g.renumber (· + base.captures)).pieces
      rw [hcurrent]
      simp only [within, Piece.renumberAll, OpenGroup.renumber] at hclose ⊢
      simp [hclose]

theorem openCapture?_within {name : Option String} (h : r.openCapture? name = some r') :
    (within base r).openCapture? name = some (within base r') := by
  obtain ⟨hnew, rfl⟩ := openCapture?_eq_some.1 h
  refine openCapture?_eq_some.2 ⟨hnew, ?_⟩
  have hindex : (within base r).captures + 1 = r.captures + 1 + base.captures := by
    simp [within, Nat.add_right_comm]
  have hopen : ∀ s : Reader,
      (within base s).openGroup (.capture (s.captures + base.captures) name) s.flags =
        within base (s.openGroup (.capture s.captures name) s.flags) :=
    fun s => openGroup_within (.capture s.captures name) s.flags
  simp only [hindex]
  exact (hopen { r with captures := r.captures + 1, names := name.toList ++ r.names }).symm

theorem repeatLast?_within {min : Nat} {max : Option Nat} {mark : Bool}
    (h : r.repeatLast? min max mark = some r') :
    (within base r).repeatLast? min max mark = some (within base r') := by
  obtain ⟨p, ps, hp, hrepeatable, rfl⟩ := repeatLast?_eq_some.1 h
  have hpieces : (within base r).pieces =
      p.mapNode (Node.renumber (· + base.captures)) ::
        (Piece.renumberAll (· + base.captures) ps ++
          if r.groups = [] then base.pieces else []) := by
    simp [within, hp, Piece.renumberAll]
  refine repeatLast?_eq_some.2 ⟨_, _, hpieces, hrepeatable, ?_⟩
  simp [within, Piece.renumberAll, Piece.mapNode, Node.repeated_renumber]

/-! ### Runs inside of another expression -/

/-- No move takes back an alternative outside of all groups. -/
theorem outerBranches_eq_nil_of_move {m : Move} (h : m.act? r = some r')
    (h' : r'.outerBranches = []) : r.outerBranches = [] := by
  have opened : ∀ (opening : Opening) (flags : Flags) (s : Reader),
      (s.openGroup opening flags).outerBranches = s.outerBranches := by
    intro opening flags s
    cases hg : s.groups with
    | nil => simp [outerBranches, openGroup, hg]
    | cons g gs => simp [outerBranches, openGroup, hg, List.getLast?_cons]
  cases m with
  | plain flags =>
      cases h
      rwa [opened] at h'
  | capture name =>
      obtain ⟨-, rfl⟩ := openCapture?_eq_some.1 h
      rw [opened] at h'
      exact h'
  | set flags | leaf node isLeaf depth =>
      cases h
      exact h'
  | close =>
      -- what is outside of all groups is kept by the outermost one, or by the reader itself
      obtain ⟨g, gs, hg, rfl⟩ := closeGroup?_eq_some.1 h
      cases gs with
      | nil => simpa [outerBranches, hg] using h'
      | cons g' gs => simpa [outerBranches, hg, List.getLast?_cons] using h'
  | bar =>
      cases h
      cases hg : r.groups with
      | nil => simp [outerBranches, branch, hg] at h'
      | cons g gs => simpa [outerBranches, branch, hg, List.getLast?_cons] using h'
  | again min max mark =>
      obtain ⟨p, ps, -, -, rfl⟩ := repeatLast?_eq_some.1 h
      exact h'

theorem Fits.of_move {m : Move} (h : m.act? r = some r') (hfits : Fits base r') :
    Fits base r :=
  hfits.imp_right (outerBranches_eq_nil_of_move h)

theorem act?_within {m : Move} (h : m.act? r = some r') (hfits : Fits base r') :
    m.act? (within base r) = some (within base r') := by
  cases m with
  | plain flags =>
      cases h
      exact congrArg some (openGroup_within .plain flags)
  | capture name => exact openCapture?_within h
  | set flags => cases h; rfl
  | close => exact closeGroup?_within h
  | bar =>
      cases h
      exact congrArg some (branch_within hfits)
  | again min max mark => exact repeatLast?_within h
  | leaf node isLeaf depth =>
      cases h
      cases node with
      | char c => rfl
      | set s => rfl
      | look l => rfl
      | _ => exact isLeaf.elim

theorem parens_within (text : List Char) :
    (within base r).parens (within base r') text =
      (r.parens r' text).map (.inside (base.groups.all OpenGroup.isPlain)) := by
  have hall : (within base r).groups.all OpenGroup.isPlain =
      (r.groups.all OpenGroup.isPlain && base.groups.all OpenGroup.isPlain) :=
    all_isPlain_nest ..
  unfold parens
  rw [hall]
  by_cases hc : r'.captures = r.captures
  · simp [within, hc]
  · simp [within, hc, Paren.inside]

/-- **A run is also a run inside of another expression.** -/
theorem Reads.within {n : Nat} {text rest : List Char} {ps : List Paren}
    (h : Reads n r text ps r' rest) (hfits : Fits base r') :
    Reads n (base.within r) text (ps.map (.inside (base.groups.all OpenGroup.isPlain)))
      (base.within r') rest ∧ Fits base r := by
  induction h with
  | done r text => exact ⟨.done .., hfits⟩
  | step hskip hstep _ ih =>
      obtain ⟨hrun, hfits₁⟩ := ih hfits
      obtain ⟨m, hm, hsame⟩ := exists_move hstep
      refine ⟨?_, hfits₁.of_move hm⟩
      rw [List.map_append, ← parens_within]
      exact .step hskip (hsame _ _ rfl (act?_within hm hfits₁)) hrun

end Reader

end Signpost.Regex
