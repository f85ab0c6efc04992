import Mathlib.Data.List.Chain
import Signpost.Proofs.Merge.Shape

/-!
# Merging — what the tree of a strategy looks like

A strategy says which atoms two lists may have in common (`Strategy.Admits`), and so how far they
share their beginnings (`Strategy.Shares`).  A tree factors a list of fragments when it stands for
them in their order, its branches share what the strategy admits and nothing that ends in a
segment, and neighbours have nothing more to share (`Tree.Factors`).

An insertion changes the last child only, and leaves at its head a part of what stood there.  So
a neighbour on the left that had nothing to share with the head has nothing to share with the part
either.

* `Strategy.shares_iff`: the atoms that two lists share are as many as they can be.
* `Tree.areFactored_insertLast`: an insertion keeps the children factored.
* `Tree.factors_ofFragments`: the tree of a list of fragments factors them.
-/

namespace Signpost

/-! ### What a strategy shares -/

namespace Strategy

/-- Whether a strategy admits the atom at a place of two lists among what they share: a character,
or, where segments are shared, a segment with a slash after it in both of them. -/
def Admits (strategy : Strategy) (as bs : List Atom) (i : Nat) : Prop :=
  (∃ c, as[i]? = some (.char c)) ∨
    strategy = .segments ∧ (∃ e captures, as[i]? = some (.group e captures true)) ∧
      as[i + 1]? = some (.char '/') ∧ bs[i + 1]? = some (.char '/')

/-- Whether two lists have their first `n` atoms in common, and a strategy admits each of them. -/
structure Shares (strategy : Strategy) (as bs : List Atom) (n : Nat) : Prop where
  le     : n ≤ as.length
  eq     : as.take n = bs.take n
  admits : ∀ i < n, strategy.Admits as bs i

/-- Whether a strategy admits all atoms of a list, with nothing to look at after its end. -/
def AdmitsAll (strategy : Strategy) (as : List Atom) : Prop :=
  ∀ i < as.length, strategy.Admits as as i

variable {strategy : Strategy} {a b : Atom} {as bs : List Atom}

theorem admits_zero_iff :
    strategy.Admits (a :: as) (b :: bs) 0 ↔ Tree.isShareable strategy a as bs = true := by
  cases a with
  | char c => simp [Admits, Tree.isShareable]
  | group e captures isSegment =>
      simp [Admits, Tree.isShareable, List.head?_eq_getElem?, and_assoc, and_left_comm]

theorem forall_admits_cons_iff {n : Nat} :
    (∀ i < n + 1, strategy.Admits (a :: as) (b :: bs) i) ↔
      Tree.isShareable strategy a as bs = true ∧ ∀ i < n, strategy.Admits as bs i := by
  rw [Nat.forall_lt_succ_left, admits_zero_iff]
  exact Iff.rfl

theorem shares_zero (as bs : List Atom) : strategy.Shares as bs 0 :=
  ⟨Nat.zero_le _, rfl, fun _ hi => absurd hi (Nat.not_lt_zero _)⟩

theorem shares_cons_iff {n : Nat} :
    strategy.Shares (a :: as) (b :: bs) (n + 1) ↔
      (a = b ∧ Tree.isShareable strategy a as bs = true) ∧ strategy.Shares as bs n := by
  constructor
  · intro ⟨le, eq, admits⟩
    rw [List.take_succ_cons, List.take_succ_cons, List.cons.injEq] at eq
    rw [forall_admits_cons_iff] at admits
    exact ⟨⟨eq.1, admits.1⟩, Nat.le_of_succ_le_succ le, eq.2, admits.2⟩
  · intro ⟨⟨heq, hshare⟩, le, eq, admits⟩
    refine ⟨Nat.succ_le_succ le, ?_, forall_admits_cons_iff.2 ⟨hshare, admits⟩⟩
    rw [List.take_succ_cons, List.take_succ_cons, heq, eq]

/-- Two lists share as many atoms as the strategy admits. -/
theorem shares_iff {n : Nat} :
    strategy.Shares as bs n ↔ n ≤ Tree.sharedLength strategy as bs := by
  induction as generalizing bs n with
  | nil =>
      refine ⟨fun h => Nat.le_trans h.le (Nat.zero_le _), fun h => ?_⟩
      obtain rfl : n = 0 := by simpa [Tree.sharedLength] using h
      exact shares_zero [] bs
  | cons a as ih =>
      cases n with
      | zero => exact ⟨fun _ => Nat.zero_le _, fun _ => shares_zero _ bs⟩
      | succ n =>
          cases bs with
          | nil => exact ⟨fun h => by simpa using h.eq, fun h => by simp [Tree.sharedLength] at h⟩
          | cons b bs =>
              rw [shares_cons_iff, ih, Tree.sharedLength]
              split
              case isTrue h =>
                exact ⟨fun h' => Nat.succ_le_succ h'.2, fun h' => ⟨h, Nat.le_of_succ_le_succ h'⟩⟩
              case isFalse h =>
                exact ⟨fun h' => absurd h'.1 h, fun h' => absurd h' (Nat.not_succ_le_zero n)⟩

theorem AdmitsAll.nil : strategy.AdmitsAll [] := fun _ hi => absurd hi (Nat.not_lt_zero _)

theorem admitsAll_cons_iff :
    strategy.AdmitsAll (a :: as) ↔
      Tree.isShareable strategy a as as = true ∧ strategy.AdmitsAll as :=
  forall_admits_cons_iff

theorem AdmitsAll.drop (h : strategy.AdmitsAll as) (n : Nat) : strategy.AdmitsAll (as.drop n) := by
  induction as generalizing n with
  | nil => simpa using h
  | cons a as ih =>
      cases n with
      | zero => exact h
      | succ n => exact ih (admitsAll_cons_iff.1 h).2 n

/-- A segment does not end a list, since its slash is in the list too. -/
theorem AdmitsAll.getLast?_ne (h : strategy.AdmitsAll as) (e : String)
    (captures : List (Option String)) : as.getLast? ≠ some (.group e captures true) := by
  intro hlast
  rw [List.getLast?_eq_getElem?] at hlast
  obtain ⟨hlt, -⟩ := List.getElem?_eq_some_iff.1 hlast
  rcases h _ hlt with ⟨c, hc⟩ | ⟨-, -, hslash, -⟩
  · rw [hlast] at hc
    cases hc
  · rw [List.getElem?_eq_none (by omega)] at hslash
    cases hslash

end Strategy

/-! ### How far two lists share their beginnings -/

namespace Tree

variable {strategy : Strategy} {a b : Atom} {as bs : List Atom}

theorem isShareable_comm (strategy : Strategy) (a : Atom) (as bs : List Atom) :
    isShareable strategy a as bs = isShareable strategy a bs as := by
  cases a with
  | char c => rfl
  | group e captures isSegment => exact Bool.and_right_comm _ _ _

theorem sharedLength_comm (strategy : Strategy) (as bs : List Atom) :
    sharedLength strategy as bs = sharedLength strategy bs as := by
  induction as generalizing bs with
  | nil => cases bs <;> rfl
  | cons a as ih =>
      cases bs with
      | nil => rfl
      | cons b bs =>
          by_cases hab : a = b
          · subst hab
            simp only [sharedLength, isShareable_comm strategy a as bs, ih]
          · simp [sharedLength, hab, Ne.symm hab]

theorem sharedLength_cons_eq_zero_iff :
    sharedLength strategy (a :: as) (b :: bs) = 0 ↔
      ¬(a = b ∧ isShareable strategy a as bs = true) := by
  unfold sharedLength
  split
  case isTrue h => exact ⟨fun h' => absurd h' (Nat.succ_ne_zero _), fun h' => absurd h h'⟩
  case isFalse h => exact ⟨fun _ => h, fun _ => rfl⟩

/-- A slash that follows in a part of a list follows in the list. -/
theorem isShareable_of_take {n : Nat} (h : isShareable strategy a as (bs.take n) = true) :
    isShareable strategy a as bs = true := by
  cases a with
  | char c => rfl
  | group e captures isSegment =>
      simp only [isShareable, Bool.and_eq_true, beq_iff_eq, List.head?_take] at h ⊢
      obtain ⟨hleft, hslash⟩ := h
      split at hslash
      · cases hslash
      · exact ⟨hleft, hslash⟩

/-- What follows an atom counts in each of two lists by itself. -/
theorem isShareable_of_both {cs ds : List Atom} (has : isShareable strategy a as cs = true)
    (hbs : isShareable strategy a ds bs = true) : isShareable strategy a as bs = true := by
  cases a with
  | char c => rfl
  | group e captures isSegment =>
      simp only [isShareable, Bool.and_eq_true, beq_iff_eq] at has hbs ⊢
      exact ⟨has.1, hbs.2⟩

/-- With a part of a list no more is shared than with the list. -/
theorem sharedLength_take_eq_zero (h : sharedLength strategy as bs = 0) (n : Nat) :
    sharedLength strategy as (bs.take n) = 0 := by
  cases as with
  | nil => rfl
  | cons a as =>
      cases bs with
      | nil => simpa using h
      | cons b bs =>
          cases n with
          | zero => rfl
          | succ n =>
              rw [List.take_succ_cons, sharedLength_cons_eq_zero_iff]
              rw [sharedLength_cons_eq_zero_iff] at h
              exact fun ⟨hab, hshare⟩ => h ⟨hab, isShareable_of_take hshare⟩

/-- After what two lists share they have nothing more to share. -/
theorem sharedLength_drop (strategy : Strategy) (as bs : List Atom) :
    sharedLength strategy (as.drop (sharedLength strategy as bs))
      (bs.drop (sharedLength strategy as bs)) = 0 := by
  induction as generalizing bs with
  | nil => simp [sharedLength]
  | cons a as ih =>
      cases bs with
      | nil => simp [sharedLength]
      | cons b bs =>
          by_cases h : sharedLength strategy (a :: as) (b :: bs) = 0
          · rw [h]
            exact h
          · rw [sharedLength_cons_eq_zero_iff, not_not] at h
            rw [sharedLength, if_pos h, List.drop_succ_cons, List.drop_succ_cons, ih]

/-- Where an atom is shared, the slash after it is shared as well. -/
theorem isShareable_take_sharedLength (h : isShareable strategy a as bs = true) :
    isShareable strategy a (as.take (sharedLength strategy as bs))
      (as.take (sharedLength strategy as bs)) = true := by
  cases a with
  | char c => rfl
  | group e captures isSegment =>
      simp only [isShareable, Bool.and_eq_true, beq_iff_eq] at h ⊢
      obtain ⟨⟨hsegment, has⟩, hbs⟩ := h
      obtain ⟨as, rfl⟩ := List.head?_eq_some_iff.1 has
      obtain ⟨bs, rfl⟩ := List.head?_eq_some_iff.1 hbs
      rw [sharedLength_slash, List.take_succ_cons, List.head?_cons]
      exact ⟨⟨hsegment, rfl⟩, rfl⟩

/-- What two lists share is admitted by itself. -/
theorem admitsAll_take_sharedLength (strategy : Strategy) (as bs : List Atom) :
    strategy.AdmitsAll (as.take (sharedLength strategy as bs)) := by
  induction as generalizing bs with
  | nil => exact Strategy.AdmitsAll.nil
  | cons a as ih =>
      cases bs with
      | nil => exact Strategy.AdmitsAll.nil
      | cons b bs =>
          rw [sharedLength]
          split
          case isFalse => exact Strategy.AdmitsAll.nil
          case isTrue h =>
            rw [List.take_succ_cons, Strategy.admitsAll_cons_iff]
            exact ⟨isShareable_take_sharedLength h.2, ih bs⟩

/-! ### The trees below a tree -/

/-- The alternatives of a branch. -/
def children : Tree → List Tree
  | .leaf _ _    => []
  | .branch _ cs => cs

/-- The trees below a tree at any depth, from left to right. -/
def descendants : Tree → List Tree
  | .leaf _ _    => []
  | .branch _ cs => cs.flatMap fun c => c :: descendants c

/-- Whether two trees have nothing to share: neither the atoms at their heads, nor any of the
fragments that they stand for. -/
structure AreApart (strategy : Strategy) (c d : Tree) : Prop where
  heads     : ∀ n, strategy.Shares c.head d.head n → n = 0
  fragments : ∀ f ∈ c.fragments, ∀ g ∈ d.fragments, ∀ n, strategy.Shares f.1 g.1 n → n = 0

/-- Whether a tree factors a list of fragments as a strategy asks. -/
structure Factors (strategy : Strategy) (fs : List (List Atom)) (t : Tree) : Prop where
  /-- From left to right the leaves have the indices of the fragments, -/
  leaves : t.leaves = List.range fs.length
  /-- and what is shared on the way to a leaf, with the rest of the leaf, is its fragment. -/
  fragments : t.fragments = fs.zipIdx
  /-- The tree is a branch that shares nothing. -/
  root : t = .branch [] t.children
  /-- A branch below it shares something, which does not end in a segment, among two or more. -/
  branches : ∀ shared cs, .branch shared cs ∈ t.descendants →
    shared ≠ [] ∧ (∀ e captures, shared.getLast? ≠ some (.group e captures true)) ∧ 2 ≤ cs.length
  /-- The strategy admits what a branch shares. -/
  admits : ∀ shared cs, .branch shared cs ∈ t.descendants → strategy.AdmitsAll shared
  /-- Neighbours have nothing more to share, -/
  apart : strategy ≠ .flat → ∀ u ∈ t :: t.descendants, u.children.IsChain (AreApart strategy)
  /-- unless nothing is shared at all: each fragment is a leaf of its own below the root. -/
  flat : strategy = .flat → t.children = fs.zipIdx.map fun f => .leaf f.2 f.1

/-! ### What an insertion keeps -/

/-- Whether the branches of a tree share what a strategy admits, among two alternatives or more,
of which neighbours share nothing at their heads.  A branch shares something itself, so there is
none when nothing is to be shared. -/
inductive IsFactored (strategy : Strategy) : Tree → Prop where
  | leaf (index : Nat) (rest : List Atom) : IsFactored strategy (.leaf index rest)
  | branch {shared : List Atom} {cs : List Tree} (sharing : strategy ≠ .flat)
      (nonempty : shared ≠ []) (admits : strategy.AdmitsAll shared) (many : 2 ≤ cs.length)
      (apart : cs.IsChain fun c d => sharedWith strategy c d.head = 0)
      (each : ∀ c ∈ cs, IsFactored strategy c) : IsFactored strategy (.branch shared cs)

/-- Whether all of some neighbours are factored, and share nothing at their heads. -/
structure AreFactored (strategy : Strategy) (ts : List Tree) : Prop where
  apart : ts.IsChain fun c d => sharedWith strategy c d.head = 0
  each  : ∀ t ∈ ts, IsFactored strategy t

theorem AreFactored.nil : AreFactored strategy [] := ⟨.nil, fun _ h => absurd h List.not_mem_nil⟩

theorem IsFactored.areFactored {t : Tree} (h : t.IsFactored strategy) :
    AreFactored strategy t.children := by
  cases h with
  | leaf _ _ => exact .nil
  | branch _ _ _ _ apart each => exact ⟨apart, each⟩

/-- What had nothing to share with a list has nothing to share with a part of it. -/
theorem sharedWith_take_eq_zero {t : Tree} {atoms : List Atom}
    (h : sharedWith strategy t atoms = 0) (n : Nat) :
    sharedWith strategy t (atoms.take n) = 0 := by
  unfold sharedWith at h ⊢
  split
  case isTrue => rfl
  case isFalse hflat =>
    rw [if_neg hflat] at h
    exact sharedLength_take_eq_zero h n

theorem ne_flat_of_sharedWith {t : Tree} {atoms : List Atom}
    (h : sharedWith strategy t atoms ≠ 0) : strategy ≠ .flat := by
  rintro rfl
  exact h rfl

theorem sharedWith_eq_sharedLength (h : strategy ≠ .flat) (t : Tree) (atoms : List Atom) :
    sharedWith strategy t atoms = sharedLength strategy t.head atoms := if_neg h

theorem take_sharedWith (strategy : Strategy) (t : Tree) (atoms : List Atom) :
    t.head.take (sharedWith strategy t atoms) = atoms.take (sharedWith strategy t atoms) := by
  unfold sharedWith
  split
  · rfl
  · exact take_sharedLength strategy t.head atoms

theorem length_insertLast (strategy : Strategy) (index : Nat) (atoms : List Atom) (ts : List Tree) :
    ts.length ≤ (insertLast strategy index atoms ts).length := by
  induction ts with
  | nil => exact Nat.zero_le _
  | cons t ts ih =>
      cases ts with
      | nil =>
          unfold insertLast
          simp only
          split <;> simp
      | cons u us =>
          unfold insertLast
          exact Nat.succ_le_succ ih

/-- A tree into which a fragment is inserted keeps the shared part of its head. -/
theorem head_insertInto (strategy : Strategy) (index : Nat) {atoms : List Atom} {shared : Nat}
    {t : Tree} (h : t.head.take shared = atoms.take shared) :
    (insertInto strategy index atoms shared t).head = t.head.take shared := by
  cases t with
  | leaf i rest => exact h.symm
  | branch head cs =>
      unfold insertInto
      split
      case isTrue hall =>
        subst hall
        exact List.take_length.symm
      case isFalse => exact h.symm

/-- The first of some neighbours keeps a part of its head. -/
theorem exists_take_of_mem_head? (strategy : Strategy) (index : Nat) (atoms : List Atom)
    (t : Tree) (ts : List Tree) :
    ∀ u ∈ (insertLast strategy index atoms (t :: ts)).head?, ∃ n, u.head = t.head.take n := by
  have whole : ∃ n, t.head = t.head.take n := ⟨t.head.length, List.take_length.symm⟩
  intro u hu
  unfold insertLast at hu
  cases ts with
  | cons v vs => exact Option.some.inj hu ▸ whole
  | nil =>
      simp only at hu
      split at hu
      · exact Option.some.inj hu ▸ whole
      · have hhead := head_insertInto strategy index (take_sharedWith strategy t atoms)
        exact Option.some.inj hu ▸ ⟨_, hhead⟩

theorem head_strip (t : Tree) (n : Nat) : (t.strip n).head = t.head.drop n := by
  cases t <;> rfl

/-- A fragment that shares the beginning of a tree parts from what is left of the tree. -/
theorem isFactored_split {t : Tree} {atoms : List Atom} {n : Nat} (index : Nat)
    (hn : sharedWith strategy t atoms = n) (hne : n ≠ 0) (ht : (t.strip n).IsFactored strategy) :
    (Tree.branch (atoms.take n) [t.strip n, .leaf index (atoms.drop n)]).IsFactored strategy := by
  subst hn
  have hflat := ne_flat_of_sharedWith hne
  have htake := take_sharedWith strategy t atoms
  rw [sharedWith_eq_sharedLength hflat] at hne htake ht ⊢
  refine .branch hflat ?_ ?_ (Nat.le_refl 2) (List.isChain_pair.2 ?_) ?_
  · rw [← htake]
    refine List.ne_nil_of_length_pos ?_
    rw [List.length_take_of_le (sharedLength_le strategy t.head atoms)]
    exact Nat.pos_of_ne_zero hne
  · rw [← htake]
    exact admitsAll_take_sharedLength strategy t.head atoms
  · rw [sharedWith_eq_sharedLength hflat, head_strip]
    exact sharedLength_drop strategy t.head atoms
  · intro c hc
    rcases List.mem_pair.1 hc with rfl | rfl
    · exact ht
    · exact .leaf ..

mutual

theorem isFactored_insertInto (index : Nat) (atoms : List Atom) :
    ∀ t : Tree, t.IsFactored strategy → sharedWith strategy t atoms ≠ 0 →
      (insertInto strategy index atoms (sharedWith strategy t atoms) t).IsFactored strategy
  | .leaf i rest, _, hne => isFactored_split (t := .leaf i rest) index rfl hne (.leaf ..)
  | .branch head cs, h, hne => by
      have hcs := areFactored_insertLast index
        (atoms.drop (sharedWith strategy (.branch head cs) atoms)) cs h.areFactored
      cases h with
      | branch sharing nonempty admits many apart each =>
          unfold insertInto
          split
          -- the fragment goes on below the branch, or parts from it before its end
          case isTrue =>
            exact .branch sharing nonempty admits
              (Nat.le_trans many (length_insertLast strategy index _ cs)) hcs.apart hcs.each
          case isFalse hpart =>
            refine isFactored_split (t := .branch head cs) index rfl hne ?_
            have hle := sharedLength_le strategy head atoms
            rw [sharedWith_eq_sharedLength sharing] at hpart ⊢
            refine .branch sharing ?_ (admits.drop _) many apart each
            exact List.drop_eq_nil_iff.not.2 (Nat.not_le.2 (Nat.lt_of_le_of_ne hle hpart))

/-- **An insertion keeps neighbours factored.** -/
theorem areFactored_insertLast (index : Nat) (atoms : List Atom) :
    ∀ ts : List Tree, AreFactored strategy ts →
      AreFactored strategy (insertLast strategy index atoms ts)
  | [], _ => ⟨.singleton _, fun t ht => List.mem_singleton.1 ht ▸ .leaf index atoms⟩
  | [last], h => by
      have hlast := h.each last (List.mem_singleton_self last)
      unfold insertLast
      simp only
      split
      case isTrue hnone =>
        refine ⟨List.isChain_pair.2 hnone, fun t ht => ?_⟩
        rcases List.mem_pair.1 ht with rfl | rfl
        · exact hlast
        · exact .leaf ..
      case isFalse hsome =>
        refine ⟨.singleton _, fun t ht => ?_⟩
        rw [List.mem_singleton.1 ht]
        exact isFactored_insertInto index atoms last hlast hsome
  | first :: second :: rest, h => by
      have hrest := areFactored_insertLast index atoms (second :: rest)
        ⟨h.apart.tail, fun t ht => h.each t (List.mem_cons_of_mem _ ht)⟩
      unfold insertLast
      constructor
      · refine List.isChain_cons.2 ⟨fun u hu => ?_, hrest.apart⟩
        -- the neighbour of the first tree has a part of the head that it had before
        obtain ⟨n, hn⟩ := exists_take_of_mem_head? strategy index atoms second rest u hu
        rw [hn]
        exact sharedWith_take_eq_zero (List.isChain_cons_cons.1 h.apart).1 n
      · intro t ht
        rcases List.mem_cons.1 ht with rfl | ht
        · exact h.each t List.mem_cons_self
        · exact hrest.each t ht

end

theorem areFactored_insertAll (index : Nat) {ts : List Tree} (fs : List (List Atom))
    (h : AreFactored strategy ts) : AreFactored strategy (insertAll strategy index ts fs) := by
  induction fs generalizing index ts with
  | nil => exact h
  | cons f fs ih => exact ih _ (areFactored_insertLast index f ts h)

/-! ### What is kept of the whole tree -/

/-- Where the children are factored, all that is below them is. -/
theorem AreFactored.of_mem_descendants {t : Tree} (h : AreFactored strategy t.children) :
    ∀ u ∈ t.descendants, u.IsFactored strategy := by
  induction t using induct with
  | leaf index rest => simp [descendants]
  | branch shared cs ih =>
      intro u hu
      rw [descendants] at hu
      obtain ⟨c, hc, hu⟩ := List.mem_flatMap.1 hu
      rcases List.mem_cons.1 hu with rfl | hu
      · exact h.each u hc
      · exact ih c hc (h.each c hc).areFactored u hu

/-- When nothing is shared at the head of a factored tree, its fragments share nothing either:
a segment at the head has its slash there. -/
theorem IsFactored.sharedLength_fragment {t : Tree} (h : t.IsFactored strategy)
    {bs : List Atom} (hzero : sharedLength strategy t.head bs = 0) {f : List Atom × Nat}
    (hf : f ∈ t.fragments) : sharedLength strategy f.1 bs = 0 := by
  cases h with
  | leaf index rest =>
      rw [fragments, List.mem_singleton] at hf
      exact hf ▸ hzero
  | @branch shared cs sharing nonempty admits =>
      rw [fragments] at hf
      obtain ⟨g, -, rfl⟩ := List.mem_map.1 hf
      obtain ⟨a, as, rfl⟩ := List.exists_cons_of_ne_nil nonempty
      cases bs with
      | nil => rfl
      | cons b bs =>
          rw [List.cons_append, sharedLength_cons_eq_zero_iff]
          rw [head, sharedLength_cons_eq_zero_iff] at hzero
          -- what follows the first atom in the fragment follows it at the head of the branch
          have hown := (Strategy.admitsAll_cons_iff.1 admits).1
          exact fun ⟨hab, hshare⟩ => hzero ⟨hab, isShareable_of_both hown hshare⟩

/-- Trees that share nothing at their heads share nothing. -/
theorem IsFactored.areApart {c d : Tree} (hc : c.IsFactored strategy) (hd : d.IsFactored strategy)
    (h : sharedLength strategy c.head d.head = 0) : AreApart strategy c d where
  heads n hn := Nat.le_zero.1 (h ▸ Strategy.shares_iff.1 hn)
  fragments f hf g hg n hn := by
    have hleft : sharedLength strategy f.1 d.head = 0 := hc.sharedLength_fragment h hf
    have hboth : sharedLength strategy g.1 f.1 = 0 :=
      hd.sharedLength_fragment (sharedLength_comm strategy f.1 d.head ▸ hleft) hg
    rw [Strategy.shares_iff, sharedLength_comm, hboth] at hn
    exact Nat.le_zero.1 hn

theorem AreFactored.areApart {ts : List Tree} (h : AreFactored strategy ts)
    (hflat : strategy ≠ .flat) : ts.IsChain (AreApart strategy) := by
  refine h.apart.imp_of_mem_imp fun c d hc hd hzero => ?_
  rw [sharedWith_eq_sharedLength hflat] at hzero
  exact (h.each c hc).areApart (h.each d hd) hzero

/-- The leaves have the indices of the fragments. -/
theorem map_snd_fragments (t : Tree) : t.fragments.map Prod.snd = t.leaves := by
  induction t using induct with
  | leaf index rest => simp [fragments, leaves]
  | branch shared cs ih =>
      simp only [fragments, leaves, List.map_map, List.map_flatMap, Function.comp_def]
      exact List.flatMap_congr ih

/-- Where nothing is to be shared, factored trees are the leaves of their fragments. -/
theorem AreFactored.map_leaf_fragments {ts : List Tree} (h : AreFactored .flat ts) :
    (ts.flatMap fragments).map (fun f => .leaf f.2 f.1) = ts := by
  have hleaf : ∀ t ∈ ts, t.fragments.map (fun f => Tree.leaf f.2 f.1) = [t] := by
    intro t ht
    cases h.each t ht with
    | leaf index rest => simp [fragments]
    | branch sharing => exact absurd rfl sharing
  rw [List.map_flatMap, List.flatMap_congr hleaf, List.flatMap_singleton']

/-- **The tree of a list of fragments factors them** as the strategy asks. -/
theorem factors_ofFragments (strategy : Strategy) (fs : List (List Atom)) :
    (ofFragments strategy fs).Factors strategy fs := by
  have hchildren : AreFactored strategy (ofFragments strategy fs).children :=
    areFactored_insertAll 0 fs .nil
  have hbelow := hchildren.of_mem_descendants
  have hfragments := fragments_ofFragments strategy fs
  constructor
  case leaves => rw [← map_snd_fragments, hfragments, List.zipIdx_map_snd, List.range_eq_range']
  case fragments => exact hfragments
  case root => rfl
  case branches =>
    intro shared cs hu
    cases hbelow _ hu with
    | branch _ nonempty admits many => exact ⟨nonempty, admits.getLast?_ne, many⟩
  case admits =>
    intro shared cs hu
    cases hbelow _ hu with
    | branch _ _ admits => exact admits
  case apart =>
    intro hflat u hu
    rcases List.mem_cons.1 hu with rfl | hu
    · exact hchildren.areApart hflat
    · exact (hbelow u hu).areFactored.areApart hflat
  case flat =>
    rintro rfl
    rw [← hchildren.map_leaf_fragments, ofFragments, children, fragments_insertAll]
    simp

/-- A fragment is merged with the last alternative only. -/
example :
    ofFragments .segments [[.char '/', .char 'a'], [.char '/', .char 'b'], [.char '/', .char 'a']] =
      .branch [] [.branch [.char '/']
        [.leaf 0 [.char 'a'], .leaf 1 [.char 'b'], .leaf 2 [.char 'a']]] := rfl

end Tree

end Signpost
