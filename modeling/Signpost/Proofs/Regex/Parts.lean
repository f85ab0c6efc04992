import Signpost.Proofs.Regex.Counting
import Signpost.Proofs.Regex.Nesting

/-!
# Regex — parts of expressions

A text is a *part* when it is read the same wherever it stands: it adds its pieces to what has
been read before, with the next free numbers for its groups, and leaves everything else as it was
(`IsPart`).  Characters are parts, parts one after another are a part, and so is a part in a group
that may be left out.

A text that is read on its own is a part when nothing of it stays open: no group, no alternative,
no flag and no name (`Reader.IsSealed`).

* `isPart_of_isSealed`: what is sealed is a part.
-/

namespace Signpost.Regex

namespace Reader

/-- The reader of a whole text, and the capturing parentheses of the text. -/
def ofText? (text : List Char) : Option (Reader × List Paren) := trace? (text.length + 1) {} text

/-- Whether nothing stays open. -/
structure IsSealed (r : Reader) : Prop where
  groups   : r.groups = []
  branches : r.branches = []
  flags    : r.flags = {}
  names    : r.names = []

/-- Adds pieces, which have the next `count` numbers for their groups. -/
def extend (base : Reader) (pieces : List Piece) (count : Nat) : Reader :=
  { base with
    pieces   := Piece.renumberAll (· + base.captures) pieces ++ base.pieces
    captures := base.captures + count }

/-- Whether neither flags nor names are set. -/
structure IsPlain (r : Reader) : Prop where
  flags : r.flags = {}
  names : r.names = []

/-- Whether all groups around are plain. -/
def isOuter (r : Reader) : Bool := r.groups.all OpenGroup.isPlain

/-- Without alternatives, the whole is the sequence of the pieces. -/
theorem current_of_branches {r : Reader} (h : r.branches = []) :
    r.current = .sequence r.pieces := by
  rw [current, branch, h]
  rfl

theorem IsPlain.not_verbose {r : Reader} (h : r.IsPlain) : r.isVerbose = false := by
  rw [isVerbose, h.flags]
  rfl

theorem IsPlain.not_swapGreed {r : Reader} (h : r.IsPlain) : r.flags.has .swapGreed = false := by
  rw [h.flags]
  rfl

theorem IsPlain.extend {r : Reader} (h : r.IsPlain) (pieces : List Piece) (count : Nat) :
    (r.extend pieces count).IsPlain :=
  ⟨h.flags, h.names⟩

end Reader

/-- The parentheses of a part, where it stands in front of more text and, when `isOuter` is set,
in no capturing group. -/
def Paren.placeAll (more : List Char) (isOuter : Bool) (ps : List Paren) : List Paren :=
  ps.map fun p => (p.append more).inside isOuter

open Reader (IsApart)

/-- Whether a text adds `pieces`, which have `count` groups and capturing parentheses `parens`,
wherever it stands. -/
structure IsPart (text : List Char) (count : Nat) (pieces : List Piece) (parens : List Paren) :
    Prop where
  reads   : ∀ base : Reader, base.IsPlain → ∀ more, IsApart more → ∃ n ≤ text.length,
    Reader.Reads n base (text ++ more) (Paren.placeAll more base.isOuter parens)
      (base.extend pieces count) more
  inRange : Piece.InRange count pieces
  count   : parens.length = count
  isApart : text ≠ [] → IsApart text

/-! ### Sealed texts -/

namespace Reader

/-- A single step where blanks count. -/
theorem Reads.single {r r' : Reader} {c : Char} {cs rest : List Char} (hr : r.isVerbose = false)
    (hstep : r.step? c cs = some (r', rest)) (hcount : r'.captures = r.captures) :
    Reads 1 r (c :: cs) [] r' rest := by
  have hskip : Scan.skip r.isVerbose (c :: cs) = c :: cs := by rw [hr]; rfl
  have hrun := Reads.one hskip hstep
  rwa [parens, if_pos hcount] at hrun

theorem parens_length (r r' : Reader) (text : List Char) {m : Move} (h : m.act? r = some r') :
    r'.captures = r.captures + (r.parens r' text).length := by
  have same : r'.captures = r.captures → r'.captures = r.captures + (r.parens r' text).length :=
    fun hc => by simp [parens, hc]
  cases m with
  | plain flags | set flags | leaf node isLeaf depth | bar => cases h; exact same rfl
  | capture name =>
      obtain ⟨-, rfl⟩ := openCapture?_eq_some.1 h
      simp [parens, openGroup]
  | close =>
      obtain ⟨g, gs, -, rfl⟩ := closeGroup?_eq_some.1 h
      exact same rfl
  | again min max mark =>
      obtain ⟨p, ps, -, -, rfl⟩ := repeatLast?_eq_some.1 h
      exact same rfl

/-- A run counts the capturing parentheses that it comes by. -/
theorem Reads.captures_eq {n : Nat} {r r' : Reader} {text left : List Char} {ps : List Paren}
    (h : Reads n r text ps r' left) : r'.captures = r.captures + ps.length := by
  induction h with
  | done => rfl
  | step _ hstep _ ih =>
      obtain ⟨m, hm, -⟩ := exists_move hstep
      rw [ih, parens_length _ _ _ hm, List.length_append, Nat.add_assoc]

theorem within_start {base : Reader} {fs : Flags} (hflags : base.flags = fs)
    (hnames : base.names = []) : base.within { flags := fs } = base := by
  cases base
  simp only at hflags hnames
  subst hflags hnames
  simp [within, nest, Piece.renumberAll]

/-- What leaves nothing open only adds its pieces. -/
theorem within_eq_extend {base r : Reader} (hgroups : r.groups = []) (hbranches : r.branches = [])
    (hflags : r.flags = base.flags) (hnames : r.names = base.names) :
    base.within r = base.extend r.pieces r.captures := by
  simp [within, extend, nest, hgroups, hbranches, hflags, hnames, Piece.renumberAll, Nat.add_comm]

theorem within_of_isSealed {base r : Reader} (h : base.IsPlain) (hr : r.IsSealed) :
    base.within r = base.extend r.pieces r.captures :=
  within_eq_extend hr.groups hr.branches (hr.flags.trans h.flags.symm)
    (hr.names.trans h.names.symm)

end Reader

/-! ### Sealed groups -/

/-- A parenthesis that opens a plain group. -/
theorem Reader.step?_plain {base : Reader} (h : base.isVerbose = false) (rest : List Char) :
    base.step? '(' ('?' :: ':' :: rest) = some (base.openGroup .plain base.flags, rest) := by
  have hopened : base.opened? ('?' :: ':' :: rest) = base.readFlags? (':' :: rest) := by
    simp [Reader.opened?, Scan.after?]
  show base.readOpening? ('?' :: ':' :: rest) = _
  rw [Reader.readOpening?_eq, h]
  exact hopened

/-- The pieces of a plain group become one piece of what surrounds it. -/
theorem Reader.closeGroup?_extend (base : Reader) (pieces : List Piece) (count : Nat) :
    ((base.openGroup .plain base.flags).extend pieces count).closeGroup? =
      some (base.extend [⟨(Piece.sequence pieces).node, (Piece.sequence pieces).depth + 1, true⟩]
        count) := by
  have hsequence := Piece.sequence_renumberAll (· + base.captures) pieces
  simp only [closeGroup?, openGroup, extend, current, branch, List.append_nil]
  rw [hsequence]
  rfl

/-- A question mark makes the last piece one that may be left out. -/
theorem Reader.step?_optional {base : Reader} (h : base.flags.has .swapGreed = false) (n : Node)
    (depth count : Nat) {rest : List Char} (hrest : rest.head? ≠ some '?') :
    (base.extend [⟨n, depth, true⟩] count).step? '?' rest =
      some (base.extend [⟨n.repeated 0 (some 1) true, depth + 1, true⟩] count, rest) := by
  have hgreedy : (false == base.flags.has .swapGreed) = true := by
    rw [h]
    rfl
  have hrepeat : (base.extend [⟨n, depth, true⟩] count).repeatLast? 0 (some 1) false =
      some (base.extend [⟨n.repeated 0 (some 1) true, depth + 1, true⟩] count) := by
    simp [repeatLast?, extend, Piece.renumberAll, Piece.mapNode, hgreedy, Node.repeated_renumber]
  simp [step?, lazyMark_of_head hrest, hrepeat]

/-- **What is sealed is a part.** -/
theorem isPart_of_isSealed {text : List Char} {r : Reader} {parens : List Paren}
    (h : Reader.ofText? text = some (r, parens)) (hr : r.IsSealed)
    (isApart : text ≠ [] → IsApart text) : IsPart text r.captures r.pieces parens := by
  obtain ⟨n, hn, left, hrun, hleft⟩ := Reader.trace?_eq_some.1 h
  have hverbose : r.isVerbose = false := by
    rw [Reader.isVerbose, hr.flags]
    rfl
  obtain rfl : left = [] := by
    rw [hverbose] at hleft
    exact hleft
  refine ⟨fun base hbase more hmore => ⟨n, Nat.le_of_lt_succ hn, ?_⟩,
    (Reader.InRange.start.of_reads hrun).pieces, ?_, isApart⟩
  · obtain ⟨after, hafter, hruns⟩ := hrun.append
    obtain rfl := (hverbose ▸ hafter).eq_of_not_verbose
    have hfits : Reader.Fits base r := .inr (by simp [Reader.outerBranches, hr.groups, hr.branches])
    obtain ⟨hrun', -⟩ := (hruns more hmore fun _ => by simpa using hmore.1).within hfits
    rw [Reader.within_start hbase.flags hbase.names, Reader.within_of_isSealed hbase hr,
      List.map_map] at hrun'
    exact hrun'
  · rw [hrun.captures_eq]
    simp

/-! ### Parts made of parts -/

theorem Node.mem_indices_renumber {f : Nat → Nat} {n : Node} {i : Nat} :
    i ∈ (n.renumber f).indices ↔ ∃ j ∈ n.indices, f j = i := by
  have h : (n.renumber f).indices = n.indices.map f := by
    induction n with
    | group index name n ih => simp [renumber, indices, ih]
    | cat a b iha ihb | alt a b iha ihb => simp [renumber, indices, iha, ihb]
    | repetition n min max greedy ih => simp [renumber, indices, ih]
    | empty | char _ | set _ | look _ => rfl
  rw [h, List.mem_map]

theorem Piece.renumberAll_renumberAll (f g : Nat → Nat) (ps : List Piece) :
    renumberAll f (renumberAll g ps) = renumberAll (f ∘ g) ps := by
  simp only [renumberAll, List.map_map]
  refine List.map_congr_left fun p _ => ?_
  simp [mapNode, Node.renumber_renumber]

theorem Reader.extend_extend (base : Reader) (pieces₁ pieces₂ : List Piece)
    (count₁ count₂ : Nat) :
    (base.extend pieces₁ count₁).extend pieces₂ count₂ =
      base.extend (Piece.renumberAll (· + count₁) pieces₂ ++ pieces₁) (count₁ + count₂) := by
  have hshift : Piece.renumberAll (· + base.captures)
        (Piece.renumberAll (· + count₁) pieces₂ ++ pieces₁) =
      Piece.renumberAll (· + (base.captures + count₁)) pieces₂ ++
        Piece.renumberAll (· + base.captures) pieces₁ := by
    rw [Piece.renumberAll, List.map_append]
    congr 1
    refine (Piece.renumberAll_renumberAll (· + base.captures) (· + count₁) pieces₂).trans ?_
    congr 1
    funext i
    simp only [Function.comp_apply]
    omega
  simp only [extend, hshift, List.append_assoc, Nat.add_assoc]

namespace IsPart

theorem nil : IsPart [] 0 [] [] where
  reads base _ more _ := ⟨0, Nat.le_refl _, by
    simpa [Reader.extend, Piece.renumberAll, Paren.placeAll] using Reader.Reads.done base more⟩
  inRange := by simp [Piece.InRange]
  count   := rfl
  isApart := fun h => absurd rfl h

variable {text text₁ text₂ : List Char} {count count₁ count₂ : Nat}
  {pieces pieces₁ pieces₂ : List Piece} {parens parens₁ parens₂ : List Paren}

/-- Parts one after another. -/
theorem append (h₁ : IsPart text₁ count₁ pieces₁ parens₁)
    (h₂ : IsPart text₂ count₂ pieces₂ parens₂) :
    IsPart (text₁ ++ text₂) (count₁ + count₂) (Piece.renumberAll (· + count₁) pieces₂ ++ pieces₁)
      (parens₁.map (.append text₂) ++ parens₂) where
  reads base hbase more hmore := by
    have hmore₁ : IsApart (text₂ ++ more) := by
      cases text₂ with
      | nil => exact hmore
      | cons c cs => exact h₂.isApart (by simp)
    obtain ⟨n₁, hn₁, hrun₁⟩ := h₁.reads base hbase _ hmore₁
    obtain ⟨n₂, hn₂, hrun₂⟩ := h₂.reads _ (hbase.extend pieces₁ count₁) more hmore
    refine ⟨n₁ + n₂, by simp only [List.length_append]; omega, ?_⟩
    have hrun := hrun₁.trans hrun₂
    have hparens : Paren.placeAll more base.isOuter (parens₁.map (.append text₂) ++ parens₂) =
        Paren.placeAll (text₂ ++ more) base.isOuter parens₁ ++
          Paren.placeAll more (base.extend pieces₁ count₁).isOuter parens₂ := by
      simp [Paren.placeAll, Paren.append, Paren.inside, Reader.isOuter, Reader.extend]
    rw [hparens, List.append_assoc, ← Reader.extend_extend]
    exact hrun
  inRange := by
    intro p hp i hi
    rcases List.mem_append.1 hp with hp | hp
    · obtain ⟨q, hq, rfl⟩ := List.mem_map.1 hp
      obtain ⟨j, hj, rfl⟩ := Node.mem_indices_renumber.1 hi
      obtain ⟨hpos, hle⟩ := h₂.inRange q hq j hj
      exact ⟨by omega, by omega⟩
    · exact (h₁.inRange p hp i hi).mono (Nat.le_add_right _ _)
  count := by simp [h₁.count, h₂.count]
  isApart hne := by
    cases text₁ with
    | nil => exact h₂.isApart (by simpa using hne)
    | cons c cs => exact h₁.isApart (by simp)

/-- A single character. -/
theorem char (c : Char) : IsPart (escapeChar c) 0 [⟨.char c, 0, true⟩] [] where
  reads base hbase more _ := by
    have hnode : base.flags.charNode c = .char c := by
      rw [hbase.flags]
      rfl
    have hextend : base.extend [⟨.char c, 0, true⟩] 0 = base.pushNode (.char c) := rfl
    unfold escapeChar
    split
    case isTrue h =>
        refine ⟨1, by simp, ?_⟩
        have hstep : base.step? '\\' (c :: more) = some (base.pushNode (.char c), more) := by
          simp [Reader.step?, read_escapeChar h, Escaped.node?, hnode]
        exact .single hbase.not_verbose hstep rfl
    case isFalse h =>
        refine ⟨1, by simp, ?_⟩
        have hstep : base.step? c more = some (base.pushNode (.char c), more) := by
          simp only [Reader.step?]
          split
          case h_13 => rw [hnode]
          all_goals exact absurd (by decide) h
        exact .single hbase.not_verbose hstep rfl
  inRange := by simp [Piece.InRange, Node.indices]
  count := rfl
  isApart _ := by
    unfold escapeChar
    split
    case isTrue => exact ⟨by simp, by simp⟩
    case isFalse h =>
        refine ⟨?_, ?_⟩
        · rintro ⟨⟩
          exact h (by decide)
        · rintro ⟨⟩
          exact h (by decide)

/-- A part in a group that may be left out. -/
theorem optional (h : IsPart text count pieces parens) :
    IsPart (['(', '?', ':'] ++ text ++ [')', '?']) count
      [⟨(Piece.sequence pieces).node.repeated 0 (some 1) true,
        (Piece.sequence pieces).depth + 2, true⟩]
      (parens.map (.append [')', '?'])) where
  reads base hbase more hmore := by
    have hbase₁ : (base.openGroup .plain base.flags).IsPlain := ⟨hbase.flags, hbase.names⟩
    obtain ⟨n, hn, hrun⟩ := h.reads _ hbase₁ (')' :: '?' :: more) ⟨by simp, by simp⟩
    have hopen := Reader.Reads.single hbase.not_verbose
      (Reader.step?_plain hbase.not_verbose (text ++ (')' :: '?' :: more))) rfl
    have hclose : ((base.openGroup .plain base.flags).extend pieces count).step? ')'
          ('?' :: more) =
        some (base.extend [⟨(Piece.sequence pieces).node, (Piece.sequence pieces).depth + 1,
          true⟩] count, '?' :: more) := by
      simp [Reader.step?, Reader.closeGroup?_extend]
    have hclose := Reader.Reads.single (hbase₁.extend pieces count).not_verbose hclose rfl
    have hrepeat := Reader.Reads.single (hbase.extend _ count).not_verbose
      (Reader.step?_optional hbase.not_swapGreed (Piece.sequence pieces).node
        ((Piece.sequence pieces).depth + 1) count hmore.1) rfl
    refine ⟨1 + n + 1 + 1, by simp; omega, ?_⟩
    have hparens : Paren.placeAll more base.isOuter (parens.map (.append [')', '?'])) =
        [] ++ Paren.placeAll (')' :: '?' :: more) (base.openGroup .plain base.flags).isOuter parens
          ++ [] ++ [] := by
      simp [Paren.placeAll, Paren.append, Paren.inside, Reader.isOuter, Reader.openGroup,
        OpenGroup.isPlain]
    have htext : ['(', '?', ':'] ++ text ++ [')', '?'] ++ more =
        '(' :: '?' :: ':' :: (text ++ (')' :: '?' :: more)) := by
      simp
    rw [hparens, htext]
    exact ((hopen.trans hrun).trans hclose).trans hrepeat
  inRange := by
    intro p hp i hi
    obtain rfl := List.mem_singleton.1 hp
    exact h.inRange.sequence i (Node.mem_indices_of_repeated hi)
  count := by simp [h.count]
  isApart _ := ⟨by simp, by simp⟩

end IsPart

end Signpost.Regex
