import Signpost.Proofs.Regex.Parts

/-!
# Regex — parts as alternatives

Parts with bars between them are alternatives wherever they stand in a group of their own, and the
group is a part again (`IsAlternatives.group`).  A part between two anchors is a whole expression
(`IsPart.ofText?_anchored`).

* `IsPart.ofText?`: a part is read on its own as it is read anywhere.
-/

namespace Signpost.Regex

open Reader (IsApart)

variable {text text₁ text₂ : List Char} {count count₁ count₂ : Nat}
  {pieces pieces₁ pieces₂ rest : List Piece} {parens parens₁ parens₂ : List Paren}

/-- Whether a text adds alternatives to a group that has just begun: `rest` are those before the
last one, and `pieces` are those of the last one. -/
structure IsAlternatives (text : List Char) (count : Nat) (rest pieces : List Piece)
    (parens : List Paren) : Prop where
  reads   : ∀ base : Reader, base.IsPlain → base.pieces = [] → ∀ more, IsApart more →
    ∃ n ≤ text.length, Reader.Reads n base (text ++ more)
      (Paren.placeAll more base.isOuter parens)
      { base with
        branches := Piece.renumberAll (· + base.captures) rest ++ base.branches
        pieces   := Piece.renumberAll (· + base.captures) pieces
        captures := base.captures + count } more
  inRange : Piece.InRange count (.sequence pieces :: rest)
  count   : parens.length = count

namespace IsAlternatives

/-- A single alternative. -/
theorem single (h : IsPart text count pieces parens) :
    IsAlternatives text count [] pieces parens where
  reads base hbase hpieces more hmore := by
    obtain ⟨n, hn, hrun⟩ := h.reads base hbase more hmore
    exact ⟨n, hn, by simpa [Reader.extend, hpieces, Piece.renumberAll] using hrun⟩
  inRange := .cons h.inRange.sequence (by simp [Piece.InRange])
  count   := h.count

theorem inRange_renumberAll (h : Piece.InRange count₂ pieces) :
    Piece.InRange (count₁ + count₂) (Piece.renumberAll (· + count₁) pieces) := by
  intro p hp i hi
  obtain ⟨q, hq, rfl⟩ := List.mem_map.1 hp
  obtain ⟨j, hj, rfl⟩ := Node.mem_indices_renumber.1 hi
  obtain ⟨hpos, hle⟩ := h q hq j hj
  exact ⟨by omega, by omega⟩

/-- An alternative in front of others. -/
theorem cons (h₁ : IsPart text₁ count₁ pieces₁ parens₁)
    (h₂ : IsAlternatives text₂ count₂ rest pieces₂ parens₂) :
    IsAlternatives (text₁ ++ '|' :: text₂) (count₁ + count₂)
      (Piece.renumberAll (· + count₁) rest ++ [.sequence pieces₁])
      (Piece.renumberAll (· + count₁) pieces₂)
      (parens₁.map (.append ('|' :: text₂)) ++ parens₂) where
  reads base hbase hpieces more hmore := by
    obtain ⟨n₁, hn₁, hrun₁⟩ := h₁.reads base hbase ('|' :: (text₂ ++ more)) ⟨by simp, by simp⟩
    have hplain : (base.extend pieces₁ count₁).branch.IsPlain := ⟨hbase.flags, hbase.names⟩
    obtain ⟨n₂, hn₂, hrun₂⟩ := h₂.reads _ hplain rfl more hmore
    have houter : (base.extend pieces₁ count₁).branch.isOuter = base.isOuter := rfl
    rw [houter] at hrun₂
    -- the first alternative, the bar, and the others
    have hbar := Reader.Reads.single (hbase.extend pieces₁ count₁).not_verbose
      (show (base.extend pieces₁ count₁).step? '|' (text₂ ++ more) = some (_, text₂ ++ more) from
        rfl) rfl
    have hrun := (hrun₁.trans hbar).trans hrun₂
    have hparens : Paren.placeAll more base.isOuter
          (parens₁.map (.append ('|' :: text₂)) ++ parens₂) =
        Paren.placeAll ('|' :: (text₂ ++ more)) base.isOuter parens₁ ++ [] ++
          Paren.placeAll more base.isOuter parens₂ := by
      simp [Paren.placeAll, Paren.append, Paren.inside]
    -- the others are numbered from where the first one ends
    have hshift : ∀ ps : List Piece, Piece.renumberAll (· + (base.captures + count₁)) ps =
        Piece.renumberAll (· + base.captures) (Piece.renumberAll (· + count₁) ps) := by
      intro ps
      rw [Piece.renumberAll_renumberAll]
      congr 1
      funext i
      simp only [Function.comp_apply]
      omega
    have hsequence : Piece.sequence (Piece.renumberAll (· + base.captures) pieces₁) =
        (Piece.sequence pieces₁).mapNode (Node.renumber (· + base.captures)) :=
      Piece.sequence_renumberAll ..
    refine ⟨n₁ + 1 + n₂, by simp only [List.length_append, List.length_cons]; omega, ?_⟩
    rw [hparens, List.append_assoc, List.cons_append]
    simp only [Reader.branch, Reader.extend, hpieces, List.append_nil, hsequence, hshift] at hrun
    simpa [Piece.renumberAll, Nat.add_assoc] using hrun
  inRange := by
    obtain ⟨hlast, hrest⟩ := List.forall_mem_cons.1 h₂.inRange
    refine .cons (fun i hi => ?_) fun p hp => ?_
    · rw [Piece.sequence_renumberAll] at hi
      obtain ⟨j, hj, rfl⟩ := Node.mem_indices_renumber.1 hi
      obtain ⟨hpos, hle⟩ := hlast j hj
      exact ⟨by omega, by omega⟩
    · rcases List.mem_append.1 hp with hp | hp
      · exact inRange_renumberAll hrest p hp
      · obtain rfl := List.mem_singleton.1 hp
        exact fun i hi => (h₁.inRange.sequence i hi).mono (Nat.le_add_right _ _)
  count := by simp [h₁.count, h₂.count]

/-- **Alternatives in a group of their own** are a part. -/
theorem group (h : IsAlternatives text count rest pieces parens) :
    IsPart (['(', '?', ':'] ++ text ++ [')']) count
      [⟨(Piece.choice (.sequence pieces :: rest)).node,
        (Piece.choice (.sequence pieces :: rest)).depth + 1, true⟩]
      (parens.map (.append [')'])) where
  reads base hbase more hmore := by
    have hbase₁ : (base.openGroup .plain base.flags).IsPlain := ⟨hbase.flags, hbase.names⟩
    obtain ⟨n, hn, hrun⟩ := h.reads _ hbase₁ rfl (')' :: more) ⟨by simp, by simp⟩
    have hopen := Reader.Reads.single hbase.not_verbose
      (Reader.step?_plain hbase.not_verbose (text ++ (')' :: more))) rfl
    -- the reader in front of the closing parenthesis
    generalize hinner : ({ base.openGroup .plain base.flags with
      branches := Piece.renumberAll (· + (base.openGroup .plain base.flags).captures) rest ++
        (base.openGroup .plain base.flags).branches
      pieces   := Piece.renumberAll (· + (base.openGroup .plain base.flags).captures) pieces
      captures := (base.openGroup .plain base.flags).captures + count } : Reader) = inner at hrun
    have hplain : inner.IsPlain := by
      subst hinner
      exact ⟨hbase.flags, hbase.names⟩
    have hcurrent : inner.current = (Piece.choice (.sequence pieces :: rest)).mapNode
        (Node.renumber (· + base.captures)) := by
      subst hinner
      simp only [Reader.current, Reader.branch, Reader.openGroup, List.append_nil,
        Piece.sequence_renumberAll]
      exact Piece.choice_renumberAll (· + base.captures) (.sequence pieces :: rest)
    have hgroups : inner.groups =
        ⟨.plain, base.flags, base.branches, base.pieces⟩ :: base.groups := by
      subst hinner
      rfl
    have hclose : inner.step? ')' more =
        some (base.extend [⟨(Piece.choice (.sequence pieces :: rest)).node,
          (Piece.choice (.sequence pieces :: rest)).depth + 1, true⟩] count, more) := by
      have : inner.closeGroup? = some (base.extend [⟨(Piece.choice (.sequence pieces :: rest)).node,
          (Piece.choice (.sequence pieces :: rest)).depth + 1, true⟩] count) := by
        refine Reader.closeGroup?_eq_some.2 ⟨_, _, hgroups, ?_⟩
        rw [hcurrent]
        subst hinner
        rfl
      simp [Reader.step?, this]
    have hclose := Reader.Reads.single hplain.not_verbose hclose (by subst hinner; rfl)
    refine ⟨1 + n + 1, by simp; omega, ?_⟩
    have hparens : Paren.placeAll more base.isOuter (parens.map (.append [')'])) =
        [] ++ Paren.placeAll (')' :: more) (base.openGroup .plain base.flags).isOuter parens
          ++ [] := by
      simp [Paren.placeAll, Paren.append, Paren.inside, Reader.isOuter, Reader.openGroup,
        OpenGroup.isPlain]
    have htext : ['(', '?', ':'] ++ text ++ [')'] ++ more =
        '(' :: '?' :: ':' :: (text ++ (')' :: more)) := by
      simp
    rw [hparens, htext]
    exact (hopen.trans hrun).trans hclose
  inRange := .cons h.inRange.choice (by simp [Piece.InRange])
  count := by simp [h.count]
  isApart _ := ⟨by simp, by simp⟩

end IsAlternatives

namespace IsPart

/-- An empty capturing group. -/
theorem marker : IsPart ['(', ')'] 1 [⟨.group 1 none .empty, 1, true⟩] [⟨['(', ')'], true⟩] :=
  isPart_of_isSealed (r := ⟨[], [], [⟨.group 1 none .empty, 1, true⟩], {}, 1, []⟩) rfl
    ⟨rfl, rfl, rfl, rfl⟩ fun _ => ⟨by simp, by simp⟩

theorem placeAll_nil (ps : List Paren) : Paren.placeAll [] true ps = ps := by
  simp [Paren.placeAll, Paren.append, Paren.inside]

theorem renumberAll_zero (ps : List Piece) : Piece.renumberAll (· + 0) ps = ps := by
  have : ∀ p : Piece, p.mapNode (Node.renumber (· + 0)) = p := fun p =>
    congrArg (fun n => ({ p with node := n } : Piece)) (Node.renumber_id p.node)
  rw [Piece.renumberAll, List.map_congr_left fun p _ => this p, List.map_id']

/-- **A part is read on its own** as it is read anywhere. -/
theorem ofText? (h : IsPart text count pieces parens) :
    Reader.ofText? text = some (({} : Reader).extend pieces count, parens) := by
  obtain ⟨n, hn, hrun⟩ := h.reads {} ⟨rfl, rfl⟩ [] ⟨by simp, by simp⟩
  rw [List.append_nil, show ({} : Reader).isOuter = true from rfl, placeAll_nil] at hrun
  exact Reader.trace?_eq_some.2 ⟨n, Nat.lt_succ_of_le hn, [], hrun, by simp⟩

/-- A part between two anchors, behind what has been read before. -/
theorem reads_anchored (h : IsPart text count pieces parens) {base : Reader}
    (hbase : base.IsPlain) : ∃ n ≤ ('^' :: (text ++ ['$'])).length,
      Reader.Reads n base ('^' :: (text ++ ['$'])) (Paren.placeAll ['$'] base.isOuter parens)
        (((base.pushNode (.look .textStart)).extend pieces count).pushNode (.look .textEnd))
        [] := by
  have hcaret : base.step? '^' (text ++ ['$']) =
      some (base.pushNode (.look .textStart), text ++ ['$']) := by
    simp only [Reader.step?, hbase.flags]
    rfl
  have hplain : (base.pushNode (.look .textStart)).IsPlain := ⟨hbase.flags, hbase.names⟩
  have hplain' := hplain.extend pieces count
  obtain ⟨n, hn, hrun⟩ := h.reads _ hplain ['$'] ⟨by simp, by simp⟩
  have hdollar : ((base.pushNode (.look .textStart)).extend pieces count).step? '$' [] =
      some (((base.pushNode (.look .textStart)).extend pieces count).pushNode
        (.look .textEnd), []) := by
    simp only [Reader.step?, hplain'.flags]
    rfl
  have hend := Reader.Reads.single hplain'.not_verbose hdollar rfl
  have hrun := ((Reader.Reads.single hbase.not_verbose hcaret rfl).trans hrun).trans hend
  rw [List.append_nil] at hrun
  refine ⟨1 + n + 1, ?_, hrun⟩
  simp only [List.length_cons, List.length_append, List.length_nil]
  omega

/-- **A part between two anchors** is a whole expression. -/
theorem ofText?_anchored (h : IsPart text count pieces parens) :
    ∃ r, Reader.ofText? ('^' :: (text ++ ['$'])) = some (r, parens.map (.append ['$'])) ∧
      r.groups = [] ∧ r.captures = count ∧ r.current = .sequence
        (⟨.look .textEnd, 0, true⟩ :: (pieces ++ [⟨.look .textStart, 0, true⟩])) := by
  have hplain : ({} : Reader).IsPlain := ⟨rfl, rfl⟩
  obtain ⟨n, hn, hrun⟩ := h.reads_anchored hplain
  have hparens : Paren.placeAll ['$'] ({} : Reader).isOuter parens =
      parens.map (.append ['$']) := by
    simp [Paren.placeAll, Paren.inside, Reader.isOuter]
  rw [hparens] at hrun
  refine ⟨_, Reader.trace?_eq_some.2 ⟨n, Nat.lt_succ_of_le hn, [], hrun, by simp⟩, rfl,
    Nat.zero_add count, ?_⟩
  rw [Reader.current_of_branches rfl]
  have hpieces := renumberAll_zero pieces
  simp only [Reader.pushNode, Reader.push, Reader.extend, hpieces]

end IsPart

end Signpost.Regex
