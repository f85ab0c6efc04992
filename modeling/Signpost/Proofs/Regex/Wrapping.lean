import Signpost.Proofs.Regex.Parts

/-!
# Regex — expressions in parentheses

An expression that is complete by itself, put into parentheses, is a part of a larger one: nothing
of it reaches out of its parentheses.  A comment at its end could swallow the closing one, but then
the expression would not be accepted between `^(?:` and `)$` either.

What is reported of the groups of an expression is true of its text only if none is dropped behind
the last one that is kept, nor the only ones with a name (`keepsGroups`); a repetition that admits
no copy drops those of its body.

So a complete expression ends where its parentheses do, whatever comes behind them.

* `ofText?_parenthesized`: what reading an expression in parentheses leaves.
* `eq_of_parenthesized`: where an expression in parentheses ends.
-/

namespace Signpost.Regex

/-- Whether the node of a text tells the number of capturing parentheses in the text, and whether
one of them has a name. -/
def keepsGroups (text : List Char) : Bool :=
  (Reader.ofText? text).all fun x => x.1.captures == x.1.current.node.groupCount &&
    x.1.names.isEmpty == !x.1.current.node.hasNamedGroup

theorem Node.ofText?_eq_some {text : List Char} {n : Node} :
    Node.ofText? text = some n ↔ ∃ r ps, Reader.ofText? text = some (r, ps) ∧ r.groups = [] ∧
      r.current.depth ≤ maxDepth ∧ r.current.node = n := by
  simp only [ofText?, Reader.readAll?_eq_trace?, Option.bind_eq_bind, Option.bind_eq_some_iff,
    Option.map_eq_some_iff]
  constructor
  · rintro ⟨r, ⟨⟨r', ps⟩, htrace, rfl⟩, h⟩
    split at h
    case isTrue hc =>
        simp only [Bool.and_eq_true, List.isEmpty_iff, decide_eq_true_eq] at hc
        exact ⟨r', ps, htrace, hc.1, hc.2, Option.some.inj h⟩
    case isFalse => cases h
  · rintro ⟨r, ps, htrace, hgroups, hdepth, rfl⟩
    exact ⟨r, ⟨(r, ps), htrace, rfl⟩, by simp [hgroups, hdepth]⟩

open Reader

/-! ### The end of a complete expression -/

theorem dropComments_close (suf : List Char) :
    Scan.dropComments false (')' :: suf) = ')' :: suf := by
  have hprinted : Unicode.isSpace ')' = false := Unicode.isSpace_of_printed (by decide)
  simp [Scan.dropComments, hprinted]

/-- After a text that is read to its end, a closing parenthesis is read as one; unless a comment at
the end of the text swallows it, for which the parenthesis and a dollar sign are enough. -/
theorem close_or_swallowed {verbose : Bool} {left : List Char} {after : List Char → List Char}
    (h : Follows verbose left after) (hleft : Scan.skip verbose left = []) :
    (∀ suf, Scan.skip verbose (after (')' :: suf)) = ')' :: suf ∧
      (left = [] → (after (')' :: suf)).head? ≠ some '?')) ∨
    (Scan.skip verbose (after [')', '$']) = [] ∧
      (left = [] → (after [')', '$']).head? ≠ some '?')) := by
  cases verbose with
  | false =>
      obtain rfl := h.eq_of_not_verbose
      obtain rfl : left = [] := hleft
      exact .inl fun suf => ⟨rfl, fun _ => by simp⟩
  | true =>
      -- what is left is a comment or blanks, after which `b` says whether a comment is open
      obtain ⟨b, hb, hhead⟩ : ∃ b,
          (∀ more,
            Scan.skip true (after more) = Scan.dropComments false (Scan.dropComments b more) ∨
            Scan.skip true (after more) = Scan.dropComments b more) ∧
          (left = [] → ∀ more, after more = more ∨ after more = Scan.dropComments b more) := by
        rcases h with rfl | ⟨-, rfl, b, rfl⟩
        · obtain ⟨b, hb⟩ := Scan.dropComments_append_of_nil hleft
          exact ⟨b, fun more => .inr (hb more), fun hnil more => .inl (by simp [hnil])⟩
        · exact ⟨b, fun more => .inl rfl, fun _ more => .inr rfl⟩
      cases b with
      | false =>
          refine .inl fun suf => ⟨?_, fun hnil => ?_⟩
          · rcases hb (')' :: suf) with hs | hs
            · rw [hs, dropComments_close, dropComments_close]
            · rw [hs, dropComments_close]
          · rcases hhead hnil (')' :: suf) with hs | hs
            · simp [hs]
            · simp [hs, dropComments_close]
      | true =>
          refine .inr ⟨?_, fun hnil => ?_⟩
          · rcases hb [')', '$'] with hs | hs
            · rw [hs]; rfl
            · rw [hs]; rfl
          · rcases hhead hnil [')', '$'] with hs | hs
            · simp [hs]
            · rw [hs]; decide

/-- What is left when the group `g`, in which a whole expression stands, has been closed. -/
def closed (base r : Reader) (g : OpenGroup) (gs : List OpenGroup) : Reader :=
  { groups   := gs
    branches := g.branches
    pieces   := g.close (r.current.mapNode (Node.renumber (· + base.captures))) :: g.pieces
    flags    := g.flags
    captures := r.captures + base.captures
    names    := r.names }

/-- Whether a group has just been opened. -/
structure JustOpened (base : Reader) (g : OpenGroup) (gs : List OpenGroup) : Prop where
  plain    : base.IsPlain
  groups   : base.groups = g :: gs
  branches : base.branches = []
  pieces   : base.pieces = []

/-- A run is also a run in a group that has just been opened. -/
theorem Reader.Reads.justOpened {base r : Reader} {g : OpenGroup} {gs : List OpenGroup} {n : Nat}
    {text left : List Char} {parens : List Paren} (h : Reads n {} text parens r left)
    (hbase : JustOpened base g gs) :
    Reads n base text (parens.map (.inside base.isOuter)) (base.within r) left := by
  obtain ⟨hrun, -⟩ := h.within (.inl hbase.pieces : Fits base r)
  rwa [within_start hbase.plain.flags hbase.plain.names] at hrun

theorem closeGroup?_within_of_justOpened {base r : Reader} {g : OpenGroup} {gs : List OpenGroup}
    (hbase : JustOpened base g gs) (hgroups : r.groups = []) :
    (base.within r).closeGroup? = some (closed base r g gs) := by
  have hcurrent : (base.within r).current =
      r.current.mapNode (Node.renumber (· + base.captures)) := by
    simp only [current, branch, within, hbase.pieces, hbase.branches, ite_self, List.append_nil,
      Piece.sequence_renumberAll]
    exact Piece.choice_renumberAll (· + base.captures) (.sequence r.pieces :: r.branches)
  have hwithin : (base.within r).groups = g :: gs := by simp [within, nest, hgroups, hbase.groups]
  refine closeGroup?_eq_some.2 ⟨g, gs, hwithin, ?_⟩
  rw [hcurrent]
  rfl

/-- An expression that is read to its end, in a group that has just been opened: it goes on behind
the closing parenthesis, unless a comment swallows that. -/
theorem reads_justOpened {r : Reader} {n : Nat} {text left : List Char} {parens : List Paren}
    (hrun : Reads n {} text parens r left) (hleft : Scan.skip r.isVerbose left = [])
    (hgroups : r.groups = []) :
    (∀ base g gs suf, JustOpened base g gs → Reads (n + 1) base (text ++ ')' :: suf)
        (Paren.placeAll (')' :: suf) base.isOuter parens) (closed base r g gs) suf) ∨
      ∀ base g gs, JustOpened base g gs → ∃ left', Reads n base (text ++ [')', '$'])
        (Paren.placeAll [')', '$'] base.isOuter parens) (base.within r) left' ∧
          Scan.skip r.isVerbose left' = [] := by
  obtain ⟨after, hafter, hruns⟩ := hrun.append
  have inner : ∀ base g gs suf, JustOpened base g gs →
      (left = [] → (after (')' :: suf)).head? ≠ some '?') →
      Reads n base (text ++ ')' :: suf) (Paren.placeAll (')' :: suf) base.isOuter parens)
        (base.within r) (after (')' :: suf)) := by
    intro base g gs suf hbase hhead
    have hrun' := (hruns (')' :: suf) ⟨by simp, by simp⟩ hhead).justOpened hbase
    rwa [List.map_map] at hrun'
  rcases close_or_swallowed hafter hleft with hclose | ⟨hswallowed, hhead⟩
  · refine .inl fun base g gs suf hbase => ?_
    obtain ⟨hskip, hhead⟩ := hclose suf
    have hstep : (base.within r).step? ')' suf = some (closed base r g gs, suf) := by
      simp [step?, closeGroup?_within_of_justOpened hbase hgroups]
    have hskip' : Scan.skip (base.within r).isVerbose (after (')' :: suf)) = ')' :: suf := hskip
    have hlast := Reads.one hskip' hstep
    have hcount : (closed base r g gs).captures = (base.within r).captures := rfl
    rw [Reader.parens, if_pos hcount] at hlast
    simpa using (inner base g gs suf hbase hhead).trans hlast
  · exact .inr fun base g gs hbase => ⟨_, inner base g gs ['$'] hbase hhead, hswallowed⟩

/-! ### The check of a constraint, and the constraint in parentheses -/

/-- The reader behind `^(?:`. -/
def checking : Reader := (({} : Reader).pushNode (.look .textStart)).openGroup .plain {}

theorem reads_checking (text : List Char) :
    Reads 2 {} ('^' :: '(' :: '?' :: ':' :: text) [] checking text := by
  have hcaret : ({} : Reader).step? '^' ('(' :: '?' :: ':' :: text) =
      some (({} : Reader).pushNode (.look .textStart), '(' :: '?' :: ':' :: text) := rfl
  have hplain : (({} : Reader).pushNode (.look .textStart)).IsPlain := ⟨rfl, rfl⟩
  exact (Reads.single rfl hcaret rfl).trans
    (Reads.single rfl (step?_plain hplain.not_verbose text) rfl)

theorem justOpened_checking : ∃ g, g.opening = .plain ∧ g.branches = [] ∧ g.flags = {} ∧
    g.pieces = [⟨.look .textStart, 0, true⟩] ∧ JustOpened checking g [] :=
  ⟨⟨.plain, {}, [], [⟨.look .textStart, 0, true⟩]⟩, rfl, rfl, rfl, rfl, ⟨⟨rfl, rfl⟩, rfl, rfl, rfl⟩⟩

/-- The reader behind an opening parenthesis. -/
def capturing : Reader := ({ captures := 1 } : Reader).openGroup (.capture 1 none) {}

theorem justOpened_capturing : ∃ g, g.opening = .capture 1 none ∧ g.branches = [] ∧ g.flags = {} ∧
    g.pieces = [] ∧ JustOpened capturing g [] :=
  ⟨⟨.capture 1 none, {}, [], []⟩, rfl, rfl, rfl, rfl, ⟨⟨rfl, rfl⟩, rfl, rfl, rfl⟩⟩

theorem reads_capturing {text : List Char} (h : text.head? ≠ some '?') :
    Reads 1 {} ('(' :: text) [⟨'(' :: text, true⟩] capturing text := by
  have hstep : ({} : Reader).step? '(' text = some (capturing, text) := by
    show ({} : Reader).readOpening? text = _
    rw [readOpening?_eq, show Scan.skip ({} : Reader).isVerbose text = text from rfl,
      opened?_of_head h]
    rfl
  exact Reads.one (show Scan.skip ({} : Reader).isVerbose ('(' :: text) = _ from rfl) hstep

/-- No expression begins with a question mark. -/
theorem head?_ne_of_reads {r : Reader} {n : Nat} {text left : List Char} {parens : List Paren}
    (hrun : Reads n {} text parens r left) (hleft : Scan.skip r.isVerbose left = []) :
    text.head? ≠ some '?' := by
  intro hhead
  obtain ⟨cs, rfl⟩ := List.head?_eq_some_iff.1 hhead
  cases hrun with
  | done => cases hleft
  | step hskip hstep _ =>
      cases hskip
      cases hstep

/-- What the check of a constraint finds out about the constraint itself. -/
theorem current_of_checked {r R : Reader} {n : Nat} {text : List Char} {parens PS : List Paren}
    (hn : n ≤ text.length)
    (hclose : ∀ base g gs suf, JustOpened base g gs → Reads (n + 1) base (text ++ ')' :: suf)
        (Paren.placeAll (')' :: suf) base.isOuter parens) (closed base r g gs) suf)
    (hR : Reader.ofText? ('^' :: '(' :: '?' :: ':' :: (text ++ [')', '$'])) = some (R, PS)) :
    R.current.node = .cat (.look .textStart) (.cat r.current.node (.look .textEnd)) := by
  obtain ⟨g, hopening, hbranches, hflags, hpieces, hchecking⟩ := justOpened_checking
  have hplain : (closed checking r g []).isVerbose = false := by
    simp only [closed, isVerbose, hflags]
    rfl
  have hnode : (closed checking r g []).flags.endNode = .look .textEnd := by
    simp only [closed, hflags]
    rfl
  have hend : (closed checking r g []).step? '$' [] =
      some ((closed checking r g []).pushNode (.look .textEnd), []) := by
    simp [step?, hnode]
  have hrun := ((reads_checking (text ++ [')', '$'])).trans
    (hclose checking g [] ['$'] hchecking)).trans (Reads.single hplain hend rfl)
  have hfound : Reader.ofText? ('^' :: '(' :: '?' :: ':' :: (text ++ [')', '$'])) =
      some ((closed checking r g []).pushNode (.look .textEnd), _) :=
    trace?_eq_some.2 ⟨_, by simp; omega, [], hrun, by simp⟩
  rw [hfound] at hR
  cases hR
  have hinner : r.current.node.renumber (· + checking.captures) = r.current.node :=
    Node.renumber_id _
  rw [current_of_branches hbranches, Piece.node_sequence]
  simp only [closed, pushNode, push, hpieces, OpenGroup.close, hopening, Piece.mapNode, hinner]
  rfl

/-- When a comment swallows the end of the check, its group stays open. -/
theorem ofText?_ne_some_of_swallowed {r : Reader} {checked : Node} {n : Nat}
    {text left : List Char} {parens : List Paren} (hn : n ≤ text.length)
    (hrun : Reads n checking (text ++ [')', '$']) parens (checking.within r) left)
    (hleft : Scan.skip r.isVerbose left = []) :
    Node.ofText? ('^' :: '(' :: '?' :: ':' :: (text ++ [')', '$'])) ≠ some checked := by
  intro hcheck
  obtain ⟨R, PS, hR, hRgroups, -⟩ := Node.ofText?_eq_some.1 hcheck
  have hend : Reader.ofText? ('^' :: '(' :: '?' :: ':' :: (text ++ [')', '$'])) =
      some (checking.within r, _) :=
    trace?_eq_some.2 ⟨2 + n, by simp; omega, left, (reads_checking _).trans hrun, hleft⟩
  rw [hend] at hR
  obtain ⟨rfl, -⟩ := Prod.mk.inj (Option.some.inj hR)
  obtain ⟨g, -, -, -, -, hchecking⟩ := justOpened_checking
  cases hgroups : r.groups with
  | nil => simp [within, nest, hgroups, hchecking.groups] at hRgroups
  | cons g' gs =>
      cases gs with
      | nil => simp [within, nest, hgroups] at hRgroups
      | cons g'' gs => simp [within, nest, hgroups] at hRgroups

/-- **A complete expression in parentheses** leaves nothing open, provided that it is accepted as a
constraint and keeps its groups.  Its check and its parentheses hold what it stands for by
itself. -/
theorem ofText?_parenthesized {text : List Char} {whole checked : Node}
    (hwhole : Node.ofText? text = some whole)
    (hcheck : Node.ofText? ('^' :: '(' :: '?' :: ':' :: (text ++ [')', '$'])) = some checked)
    (hnames : checked.hasNamedGroup = false) (hkeeps : keepsGroups text = true) :
    ∃ r parens, Reader.ofText? ('(' :: (text ++ [')'])) =
        some (r, ⟨'(' :: (text ++ [')']), true⟩ :: parens) ∧ r.IsSealed ∧
      r.captures = checked.groupCount + 1 ∧
      (∀ p ∈ parens, p.isOuter = false) ∧
      checked = .cat (.look .textStart) (.cat whole (.look .textEnd)) ∧
      r.pieces.map Piece.node = [.group 1 none (whole.renumber (· + 1))] := by
  obtain ⟨r, parens, hread, hgroups, -, rfl⟩ := Node.ofText?_eq_some.1 hwhole
  obtain ⟨n, hn, left, hrun, hleft⟩ := trace?_eq_some.1 hread
  obtain ⟨g, -, -, -, -, hchecking⟩ := justOpened_checking
  obtain ⟨R, PS, hR, hRgroups, -, rfl⟩ := Node.ofText?_eq_some.1 hcheck
  obtain ⟨hcaptures, htaken⟩ : r.captures = r.current.node.groupCount ∧
      r.names.isEmpty = !r.current.node.hasNamedGroup := by
    simpa [keepsGroups, hread] using hkeeps
  rcases reads_justOpened hrun hleft hgroups with hclose | hswallowed
  · -- the run through the text alone goes through it in both groups: that of the check, which
    -- tells the count, and the capturing one
    have hchecked := current_of_checked (Nat.le_of_lt_succ hn) hclose hR
    have hcount : R.current.node.groupCount = r.current.node.groupCount := by
      simp [hchecked, Node.groupCount]
    have hnamed : R.current.node.hasNamedGroup = r.current.node.hasNamedGroup := by
      simp [hchecked, Node.hasNamedGroup]
    obtain ⟨g, hopening, hbranches, hflags, hpieces, hcapturing⟩ := justOpened_capturing
    have hhead : (text ++ [')']).head? ≠ some '?' := by
      have := head?_ne_of_reads hrun hleft
      cases text with
      | nil => simp
      | cons c cs => simpa using this
    have hrun' := (reads_capturing hhead).trans (hclose capturing g [] [] hcapturing)
    have hunnamed : r.names = [] := by
      rw [← hnamed, hnames] at htaken
      exact List.isEmpty_iff.1 htaken
    refine ⟨_, _, trace?_eq_some.2 ⟨_, by simp; omega, [], hrun', by simp⟩,
      ⟨rfl, hbranches, hflags, hunnamed⟩, ?_, ?_, hchecked, ?_⟩
    · rw [hcount, ← hcaptures]
      rfl
    · intro p hp
      obtain ⟨q, -, rfl⟩ := List.mem_map.1 hp
      exact Bool.and_false _
    · simp [closed, hpieces, OpenGroup.close, hopening, Piece.mapNode, capturing, openGroup]
  · obtain ⟨left', hrun', hleft'⟩ := hswallowed checking g [] hchecking
    exact absurd hcheck (ofText?_ne_some_of_swallowed (Nat.le_of_lt_succ hn) hrun' hleft')

/-! ### Where an expression in parentheses ends -/

/-- Two runs on the same text go the same way: one that ends goes on where another one stops. -/
theorem Reader.Reads.rest {n m : Nat} {r r₁ r' : Reader} {text rest left : List Char}
    {ps qs : List Paren} (h : Reads n r text ps r₁ rest) (hend : Reads m r text qs r' left)
    (hleft : Scan.skip r'.isVerbose left = []) : ∃ k qs', Reads k r₁ rest qs' r' left := by
  induction h generalizing m qs with
  | done => exact ⟨m, qs, hend⟩
  | step hskip hstep _ ih =>
      cases hend with
      | done =>
          rw [hskip] at hleft
          cases hleft
      | step hskip' hstep' hrun' =>
          obtain ⟨rfl, rfl⟩ := List.cons.inj (hskip.symm.trans hskip')
          obtain ⟨rfl, rfl⟩ := Prod.mk.inj (Option.some.inj (hstep.symm.trans hstep'))
          exact ih hrun'

/-- A complete expression that is accepted as a constraint is read up to a closing parenthesis
behind it, which no comment swallows. -/
theorem reads_before_close {text : List Char} {whole checked : Node}
    (hwhole : Node.ofText? text = some whole)
    (hcheck : Node.ofText? ('^' :: '(' :: '?' :: ':' :: (text ++ [')', '$'])) = some checked)
    (suf : List Char) :
    ∃ n parens r left, Reads n {} (text ++ ')' :: suf) parens r left ∧ r.groups = [] ∧
      Scan.skip r.isVerbose left = ')' :: suf := by
  obtain ⟨r, parens, hread, hgroups, -, rfl⟩ := Node.ofText?_eq_some.1 hwhole
  obtain ⟨n, hn, left, hrun, hleft⟩ := trace?_eq_some.1 hread
  obtain ⟨after, hafter, hruns⟩ := hrun.append
  rcases close_or_swallowed hafter hleft with hclose | ⟨hswallowed, hhead⟩
  · obtain ⟨hskip, hhead⟩ := hclose suf
    exact ⟨n, _, r, _, hruns (')' :: suf) ⟨by simp, by simp⟩ hhead, hgroups, hskip⟩
  · obtain ⟨g, -, -, -, -, hchecking⟩ := justOpened_checking
    have hrun' := (hruns [')', '$'] ⟨by simp, by simp⟩ hhead).justOpened hchecking
    exact absurd hcheck
      (ofText?_ne_some_of_swallowed (Nat.le_of_lt_succ hn) hrun' hswallowed)

/-- Behind such an expression, a closing parenthesis has nothing to close. -/
theorem ofText?_before_close {text : List Char} {whole checked : Node}
    (hwhole : Node.ofText? text = some whole)
    (hcheck : Node.ofText? ('^' :: '(' :: '?' :: ':' :: (text ++ [')', '$'])) = some checked)
    (suf : List Char) : Node.ofText? (text ++ ')' :: suf) = none := by
  obtain ⟨n, parens, r, left, hrun, hgroups, hskip⟩ := reads_before_close hwhole hcheck suf
  cases hread : Node.ofText? (text ++ ')' :: suf) with
  | none => rfl
  | some other =>
      obtain ⟨r', ps, hread', -⟩ := Node.ofText?_eq_some.1 hread
      obtain ⟨m, -, left', hend, hleft⟩ := trace?_eq_some.1 hread'
      obtain ⟨k, qs, hrest⟩ := hrun.rest hend hleft
      cases hrest with
      | done =>
          rw [hskip] at hleft
          cases hleft
      | step hskip' hstep _ =>
          obtain ⟨rfl, rfl⟩ := List.cons.inj (hskip.symm.trans hskip')
          have hclose : r.closeGroup? = none := by rw [closeGroup?, hgroups]
          simp [step?, hclose] at hstep

/-- **Where an expression in parentheses ends**: the text behind the opening one determines the
expression, if it is complete and accepted as a constraint. -/
theorem eq_of_parenthesized {as bs rest rest' : List Char}
    (has : (Node.ofText? as).isSome) (hbs : (Node.ofText? bs).isSome)
    (hcheck : (Node.ofText? ('^' :: '(' :: '?' :: ':' :: (as ++ [')', '$']))).isSome)
    (hcheck' : (Node.ofText? ('^' :: '(' :: '?' :: ':' :: (bs ++ [')', '$']))).isSome)
    (h : as ++ ')' :: rest = bs ++ ')' :: rest') : as = bs ∧ rest = rest' := by
  have apart : ∀ {cs ds more more' : List Char}, (Node.ofText? cs).isSome →
      (Node.ofText? ('^' :: '(' :: '?' :: ':' :: (cs ++ [')', '$']))).isSome →
      (Node.ofText? (cs ++ ds)).isSome → ')' :: more = ds ++ ')' :: more' → ds = [] := by
    intro cs ds more more' hcs hcheck hlonger heq
    cases ds with
    | nil => rfl
    | cons d ds =>
        obtain ⟨rfl, -⟩ := List.cons.inj heq
        obtain ⟨whole, hwhole⟩ := Option.isSome_iff_exists.1 hcs
        obtain ⟨checked, hchecked⟩ := Option.isSome_iff_exists.1 hcheck
        rw [ofText?_before_close hwhole hchecked ds] at hlonger
        cases hlonger
  rcases List.append_eq_append_iff.1 h with ⟨ds, rfl, heq⟩ | ⟨ds, rfl, heq⟩
  · obtain rfl := apart has hcheck hbs heq
    exact ⟨(List.append_nil as).symm, (List.cons.inj heq).2⟩
  · obtain rfl := apart hbs hcheck' has heq
    exact ⟨List.append_nil bs, (List.cons.inj heq).2.symm⟩

end Signpost.Regex
