import Mathlib.Algebra.GroupWithZero.Nat
import Signpost.Collection.Compile

/-!
# Collections — merging under a limit

Leaves are merged into one expression, and halved while the engine finds it too big.  Here this is a
machine that takes one answer of the engine at a time (`Merging.Step`): it holds the runs that are
still to be merged, the first of which it asks about, and the expressions that are done.

An engine is any relation between expressions and answers, so nothing is assumed of it: it may find
a part bigger than the whole, or change its mind.  Each answer uses up at least one of the
`2 * n - 1` expressions that the halves of `n` fragments can come to (`Merging.checks`), whatever it
says.

* `Merging.Steps.isMergingOf`: what is done and what is pending are runs of the fragments, in order.
* `Merging.terminates`: merging comes to an end.
* `Collection.mergeChunks_cases`: merging the leaves of a collection is such a run.
-/

namespace Signpost

/-- What an engine may say of an expression: that it takes it, or a fault. -/
abbrev Engine := String → Option Regex.Fault → Prop

/-- The engine that a matcher is built with. -/
def Engine.ofLimit [Regex.Engine] (sizeLimit : Nat) : Engine := fun text answer =>
  match Regex.compile text sizeLimit with
  | .ok _        => answer = none
  | .error fault => answer = some fault

/-- The runs of fragments that are still to be merged, and the expressions that are done. -/
structure Merging where
  pending : List (List (List Atom))
  done    : List Merged

namespace Merging

variable {engine : Engine} {strategy : Strategy} {fragments : List (List Atom)}
  {n n' : Nat} {s s' s'' : Merging}

def start : List (List Atom) → Merging
  | []      => ⟨[], []⟩
  | f :: fs => ⟨[f :: fs], []⟩

theorem done_start (fragments : List (List Atom)) : (start fragments).done = [] := by
  cases fragments <;> rfl

/-- The first pending run is merged, or it is halved. -/
inductive Step (engine : Engine) (strategy : Strategy) : Merging → Merging → Prop where
  | fits {run : List (List Atom)} {rest : List (List (List Atom))} {done : List Merged}
      (h : engine (Merged.ofFragments strategy run).expression none) :
      Step engine strategy ⟨run :: rest, done⟩ ⟨rest, done ++ [Merged.ofFragments strategy run]⟩
  | halve {run : List (List Atom)} {rest : List (List (List Atom))} {done : List Merged}
      (h : engine (Merged.ofFragments strategy run).expression (some .tooBig))
      (hlt : 1 < run.length) :
      Step engine strategy ⟨run :: rest, done⟩
        ⟨run.take (run.length / 2) :: run.drop (run.length / 2) :: rest, done⟩

/-- The first pending run is refused, and cannot be halved. -/
inductive Fails (engine : Engine) (strategy : Strategy) : Merging → Regex.Fault → Prop where
  | badText {run : List (List Atom)} {rest : List (List (List Atom))} {done : List Merged}
      (h : engine (Merged.ofFragments strategy run).expression (some .badText)) :
      Fails engine strategy ⟨run :: rest, done⟩ .badText
  | tooBig {run : List (List Atom)} {rest : List (List (List Atom))} {done : List Merged}
      (h : engine (Merged.ofFragments strategy run).expression (some .tooBig))
      (hle : run.length ≤ 1) : Fails engine strategy ⟨run :: rest, done⟩ .tooBig

/-- A run of the machine, by the number of its steps. -/
inductive Steps (engine : Engine) (strategy : Strategy) : Nat → Merging → Merging → Prop where
  | refl (s : Merging) : Steps engine strategy 0 s s
  | more {n : Nat} {s s' s'' : Merging} (h : Step engine strategy s s')
      (t : Steps engine strategy n s' s'') : Steps engine strategy (n + 1) s s''

namespace Steps

theorem one (h : Step engine strategy s s') : Steps engine strategy 1 s s' := .more h (.refl s')

theorem trans (h : Steps engine strategy n s s') (h' : Steps engine strategy n' s' s'') :
    Steps engine strategy (n + n') s s'' := by
  induction h with
  | refl => rwa [Nat.zero_add]
  | more hstep _ ih =>
      rw [Nat.add_right_comm]
      exact .more hstep (ih h')

end Steps

/-! ### What is done and what is pending -/

theorem halves_ne_nil {run : List (List Atom)} (hlt : 1 < run.length) :
    run.take (run.length / 2) ≠ [] ∧ run.drop (run.length / 2) ≠ [] := by
  constructor
  · refine List.ne_nil_of_length_pos ?_
    rw [List.length_take]
    omega
  · refine List.ne_nil_of_length_pos ?_
    rw [List.length_drop]
    omega

/-- Whether the expressions that are done and the pending runs have all fragments, in order. -/
structure IsMergingOf (strategy : Strategy) (fragments : List (List Atom)) (s : Merging) :
    Prop where
  nonempty : ∀ run ∈ s.pending, run ≠ []
  runs     : ∃ runs : List (List (List Atom)), (∀ run ∈ runs, run ≠ []) ∧
    s.done = runs.map (Merged.ofFragments strategy) ∧
    runs.flatten ++ s.pending.flatten = fragments

theorem isMergingOf_start (strategy : Strategy) (fragments : List (List Atom)) :
    IsMergingOf strategy fragments (start fragments) := by
  cases fragments with
  | nil => exact ⟨by simp [start], [], by simp, rfl, rfl⟩
  | cons f fs => exact ⟨by simp [start], [], by simp, rfl, by simp [start]⟩

theorem Step.isMergingOf (h : Step engine strategy s s') (hs : IsMergingOf strategy fragments s) :
    IsMergingOf strategy fragments s' := by
  obtain ⟨hpending, runs, hruns, hdone, hflatten⟩ := hs
  cases h with
  | @fits run rest done h =>
      obtain ⟨hrun, hrest⟩ := List.forall_mem_cons.1 hpending
      refine ⟨hrest, runs ++ [run], ?_, ?_, ?_⟩
      · exact List.forall_mem_append.2 ⟨hruns, by simpa using hrun⟩
      · rw [List.map_append, ← hdone]
        rfl
      · rw [← hflatten]
        simp
  | @halve run rest done h hlt =>
      obtain ⟨hrun, hrest⟩ := List.forall_mem_cons.1 hpending
      refine ⟨?_, runs, hruns, hdone, ?_⟩
      · obtain ⟨hfirst, hsecond⟩ := halves_ne_nil hlt
        exact List.forall_mem_cons.2 ⟨hfirst, List.forall_mem_cons.2 ⟨hsecond, hrest⟩⟩
      · rw [← hflatten]
        simp only [List.flatten_cons, ← List.append_assoc, List.take_append_drop]

theorem Steps.isMergingOf (h : Steps engine strategy n s s')
    (hs : IsMergingOf strategy fragments s) : IsMergingOf strategy fragments s' := by
  induction h with
  | refl => exact hs
  | more hstep _ ih => exact ih (hstep.isMergingOf hs)

/-! ### The end -/

/-- The number of expressions that the pending runs can come to: a run of `n` fragments has at most
`n - 1` places to halve it. -/
def checks (s : Merging) : Nat := (s.pending.map fun run => 2 * run.length - 1).sum

theorem checks_start (fragments : List (List Atom)) :
    (start fragments).checks = 2 * fragments.length - 1 := by
  cases fragments with
  | nil => rfl
  | cons f fs => simp [start, checks]

theorem Step.checks_lt (h : Step engine strategy s s') (hs : IsMergingOf strategy fragments s) :
    s'.checks < s.checks := by
  cases h with
  | @fits run rest done h =>
      have hpos := List.length_pos_iff.2 (hs.nonempty run List.mem_cons_self)
      simp only [checks, List.map_cons, List.sum_cons]
      omega
  | halve h hlt =>
      simp only [checks, List.map_cons, List.sum_cons, List.length_take, List.length_drop]
      omega

theorem Steps.add_checks_le (h : Steps engine strategy n s s')
    (hs : IsMergingOf strategy fragments s) : n + s'.checks ≤ s.checks := by
  induction h with
  | refl => exact Nat.le_of_eq (Nat.zero_add _)
  | more hstep _ ih =>
      have hlt := hstep.checks_lt hs
      have hle := ih (hstep.isMergingOf hs)
      omega

/-- Merging ends after at most `2 * n - 1` answers, and until then one more answer always does:
unless it refuses an expression for good, merging goes on. -/
structure Terminates (engine : Engine) (strategy : Strategy) (fragments : List (List Atom)) :
    Prop where
  bounded : ∀ n s, Steps engine strategy n (start fragments) s → n ≤ 2 * fragments.length - 1
  ends    : ∀ n s, Steps engine strategy n (start fragments) s →
    s.pending = [] ∨ (∃ fault, Fails engine strategy s fault) ∨ ∃ s', Step engine strategy s s'

/-- The machine takes any answer to a run that is pending. -/
theorem step_or_fails {run : List (List Atom)} {rest : List (List (List Atom))}
    {done : List Merged} {answer : Option Regex.Fault}
    (h : engine (Merged.ofFragments strategy run).expression answer) :
    (∃ fault, Fails engine strategy ⟨run :: rest, done⟩ fault) ∨
      ∃ s', Step engine strategy ⟨run :: rest, done⟩ s' := by
  match answer with
  | none => exact .inr ⟨_, .fits h⟩
  | some .badText => exact .inl ⟨_, .badText h⟩
  | some .tooBig =>
      by_cases hlt : 1 < run.length
      · exact .inr ⟨_, .halve h hlt⟩
      · exact .inl ⟨_, .tooBig h (Nat.le_of_not_lt hlt)⟩

/-- **Merging comes to an end**, whatever the engine answers. -/
theorem terminates (hanswers : ∀ text, ∃ answer, engine text answer) (strategy : Strategy)
    (fragments : List (List Atom)) : Terminates engine strategy fragments where
  bounded n s h := by
    have hle := h.add_checks_le (isMergingOf_start strategy fragments)
    rw [checks_start] at hle
    exact Nat.le_trans (Nat.le_add_right _ _) hle
  ends n s _ := by
    obtain ⟨pending, done⟩ := s
    cases pending with
    | nil => exact .inl rfl
    | cons run rest =>
        obtain ⟨answer, hanswer⟩ := hanswers (Merged.ofFragments strategy run).expression
        exact .inr (step_or_fails hanswer)

/-! ### An engine that does not change its mind -/

theorem Step.deterministic (hengine : ∀ text a b, engine text a → engine text b → a = b)
    (h : Step engine strategy s s') (h' : Step engine strategy s s'') : s' = s'' := by
  cases h with
  | fits h =>
      cases h' with
      | fits => rfl
      | halve h' => cases hengine _ _ _ h h'
  | halve h =>
      cases h' with
      | fits h' => cases hengine _ _ _ h h'
      | halve => rfl

/-- A run that has nothing left to merge goes through every state that can be reached. -/
theorem Steps.through (hengine : ∀ text a b, engine text a → engine text b → a = b)
    (h : Steps engine strategy n s s') (hend : s'.pending = [])
    (h' : Steps engine strategy n' s s'') : ∃ k, Steps engine strategy k s'' s' := by
  induction h' generalizing n with
  | refl => exact ⟨n, h⟩
  | more hstep _ ih =>
      cases h with
      | refl => cases hstep <;> cases hend
      | more hstep' t =>
          obtain rfl := hstep.deterministic hengine hstep'
          exact ih t

end Merging

variable [Regex.Engine]

namespace Engine

theorem ofLimit_unique (limit : Nat) (text : String) (a b : Option Regex.Fault)
    (ha : ofLimit limit text a) (hb : ofLimit limit text b) : a = b := by
  unfold ofLimit at ha hb
  cases hr : Regex.compile text limit with
  | ok r =>
      rw [hr] at ha hb
      exact ha.trans hb.symm
  | error fault =>
      rw [hr] at ha hb
      exact ha.trans hb.symm

variable {limit : Nat} {text : String}

theorem ofLimit_none : ofLimit limit text none ↔ ∃ r, Regex.compile text limit = .ok r := by
  unfold ofLimit
  cases Regex.compile text limit <;> simp

theorem ofLimit_some {fault : Regex.Fault} :
    ofLimit limit text (some fault) ↔ Regex.compile text limit = .error fault := by
  unfold ofLimit
  cases Regex.compile text limit <;> simp [eq_comm]

end Engine

namespace Collection

open Merging

variable {options : CompileOptions}

/-- The engine that merges the leaves of a collection. -/
abbrev engineOf (options : CompileOptions) : Engine := .ofLimit options.sizeLimit

theorem mergeChunks_of_error {fragments : List (List Atom)} (hne : fragments ≠ [])
    {fault : Regex.Fault}
    (h : Regex.compile (Merged.ofFragments options.strategy fragments).expression
      options.sizeLimit = .error fault) (hfinal : fault = .tooBig → fragments.length ≤ 1) :
    mergeChunks options fragments = .error (.regex fault) := by
  have hempty : ¬ fragments.isEmpty = true := fun hnil => hne (List.isEmpty_iff.1 hnil)
  rw [mergeChunks, if_neg hempty]
  cases fault with
  | badText => simp only [h]
  | tooBig => simp only [h, dif_neg (Nat.not_lt.2 (hfinal rfl))]

theorem mergeChunks_of_halves {fragments : List (List Atom)} (hlt : 1 < fragments.length)
    (h : Regex.compile (Merged.ofFragments options.strategy fragments).expression
      options.sizeLimit = .error .tooBig) :
    mergeChunks options fragments = (do
      let first ← mergeChunks options (fragments.take (fragments.length / 2))
      let second ← mergeChunks options (fragments.drop (fragments.length / 2))
      return first ++ second) := by
  have hempty : ¬ fragments.isEmpty = true := by
    rw [List.isEmpty_iff]
    exact List.ne_nil_of_length_pos (Nat.lt_trans Nat.zero_lt_one hlt)
  rw [mergeChunks, if_neg hempty]
  simp only [h, dif_pos hlt]

/-- **Merging leaves is a run of the machine**: it takes the first pending run to its expressions,
or to a state in which it fails. -/
theorem mergeChunks_cases {fragments : List (List Atom)} (hne : fragments ≠ [])
    (rest : List (List (List Atom))) (done : List Merged) :
    (∃ merged n, mergeChunks options fragments = .ok merged ∧
      Steps (engineOf options) options.strategy n ⟨fragments :: rest, done⟩
        ⟨rest, done ++ merged⟩) ∨
    ∃ fault s n, mergeChunks options fragments = .error (.regex fault) ∧
      Steps (engineOf options) options.strategy n ⟨fragments :: rest, done⟩ s ∧
      Fails (engineOf options) options.strategy s fault := by
  cases hr : Regex.compile (Merged.ofFragments options.strategy fragments).expression
      options.sizeLimit with
  | ok r =>
      exact .inl ⟨_, 1, mergeChunks_of_fits hne hr, .one (.fits (Engine.ofLimit_none.2 ⟨r, hr⟩))⟩
  | error fault =>
      -- the answer is final unless it is that a run of at least two is too big
      have hanswer := Engine.ofLimit_some.2 hr
      by_cases hfinal : fault = .tooBig → fragments.length ≤ 1
      case pos =>
        refine .inr ⟨fault, _, 0, mergeChunks_of_error hne hr hfinal, .refl _, ?_⟩
        cases fault with
        | badText => exact .badText hanswer
        | tooBig => exact .tooBig hanswer (hfinal rfl)
      case neg =>
        obtain ⟨rfl, hlt⟩ := Classical.not_imp.1 hfinal
        have hlt := Nat.lt_of_not_le hlt
        obtain ⟨hne₁, hne₂⟩ := halves_ne_nil hlt
        have hhalve : Steps (engineOf options) options.strategy 1 ⟨fragments :: rest, done⟩ _ :=
          .one (.halve hanswer hlt)
        rw [mergeChunks_of_halves hlt hr]
        rcases mergeChunks_cases hne₁ (fragments.drop (fragments.length / 2) :: rest) done with
          ⟨first, n, hfirst, hsteps⟩ | ⟨fault, s, n, herror, hsteps, hfails⟩
        · rcases mergeChunks_cases hne₂ rest (done ++ first) with
            ⟨second, n', hsecond, hsteps'⟩ | ⟨fault, s, n', herror, hsteps', hfails⟩
          · rw [List.append_assoc] at hsteps'
            refine .inl ⟨first ++ second, _, ?_, (hhalve.trans hsteps).trans hsteps'⟩
            rw [hfirst, hsecond]
            rfl
          · refine .inr ⟨fault, s, _, ?_, (hhalve.trans hsteps).trans hsteps', hfails⟩
            rw [hfirst, herror]
            rfl
        · refine .inr ⟨fault, s, _, ?_, hhalve.trans hsteps, hfails⟩
          rw [herror]
          rfl
termination_by fragments.length
decreasing_by
  · rw [List.length_take]
    omega
  · rw [List.length_drop]
    omega

/-- Merging all leaves, from the start. -/
theorem mergeChunks_start (options : CompileOptions) (fragments : List (List Atom)) :
    (∃ merged n, mergeChunks options fragments = .ok merged ∧
      Steps (engineOf options) options.strategy n (start fragments) ⟨[], merged⟩) ∨
    ∃ fault s n, mergeChunks options fragments = .error (.regex fault) ∧
      Steps (engineOf options) options.strategy n (start fragments) s ∧
      Fails (engineOf options) options.strategy s fault := by
  cases fragments with
  | nil =>
      refine .inl ⟨[], 0, ?_, .refl _⟩
      rw [mergeChunks]
      rfl
  | cons f fs => exact mergeChunks_cases (List.cons_ne_nil f fs) [] []

end Collection

end Signpost
