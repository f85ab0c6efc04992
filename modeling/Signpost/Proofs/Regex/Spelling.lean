import Signpost.Proofs.Regex.Reach
import Signpost.Proofs.Regex.Wrapping

/-!
# Regex — expressions that take a text

An expression *takes* a text when, wherever it stands, it can lead from one end of the text to the
other and does not look at what is around it (`Takes`).  What it stands for depends on the flags in
force there; a host is matched with another set of flags than a path.

Expressions one after another take texts one after another, so an expression that is put together
from parts takes what its parts take.

* `Takes.append`, `Takes.char`, `Takes.optional`: how expressions that take a text are made.
* `takes_of_isSealed`: what leaves nothing open.
* `Takes.isSome_search?`, `Takes.isSome_search?_caseless`: what takes a text matches it, between
  anchors.
-/

namespace Signpost.Regex

open Reader (IsApart Reads)

/-! ### Nodes in a row -/

namespace Node

variable {text : Array Char} {i j : Nat}

theorem reaches_sequence_cons (n : Node) (ns : List Node) :
    (sequence (n :: ns)).Reaches text i j ↔
      ∃ k, n.Reaches text i k ∧ (sequence ns).Reaches text k j := by
  cases ns with
  | nil =>
      refine ⟨fun h => ⟨j, h, rfl⟩, ?_⟩
      rintro ⟨k, h, rfl⟩
      exact h
  | cons m ns => exact Iff.rfl

theorem reaches_sequence_append (ns ms : List Node) :
    (sequence (ns ++ ms)).Reaches text i j ↔
      ∃ k, (sequence ns).Reaches text i k ∧ (sequence ms).Reaches text k j := by
  induction ns generalizing i with
  | nil =>
      refine ⟨fun h => ⟨i, rfl, h⟩, ?_⟩
      rintro ⟨k, rfl, h⟩
      exact h
  | cons n ns ih =>
      simp only [List.cons_append, reaches_sequence_cons, ih]
      constructor
      · rintro ⟨k, hn, l, hns, hms⟩
        exact ⟨l, ⟨k, hn, hns⟩, hms⟩
      · rintro ⟨l, ⟨k, hn, hns⟩, hms⟩
        exact ⟨k, hn, l, hns, hms⟩

theorem looksAround_sequence {ns : List Node} (h : ∀ n ∈ ns, n.looksAround = false) :
    (sequence ns).looksAround = false := by
  induction ns with
  | nil => rfl
  | cons n ns ih =>
      obtain ⟨hn, hns⟩ := List.forall_mem_cons.1 h
      cases ns with
      | nil => exact hn
      | cons m ns => exact Bool.or_eq_false_iff.2 ⟨hn, ih hns⟩

/-- What may be left out stays a repetition, even if it only matches the empty text. -/
theorem repeated_optional (n : Node) (greedy : Bool) :
    n.repeated 0 (some 1) greedy = .repetition n 0 (some 1) greedy := by
  unfold repeated
  cases n.matchesOnlyEmpty <;> rfl

theorem reaches_optional {n : Node} {greedy : Bool} :
    (n.repeated 0 (some 1) greedy).Reaches text i j ↔ i = j ∨ n.Reaches text i j := by
  rw [repeated_optional, Reaches]
  constructor
  · rintro ⟨more, hmore, hcopies⟩
    have hle : more ≤ 1 := hmore 1 rfl
    rw [Nat.zero_add] at hcopies
    cases hcopies with
    | none => exact .inl rfl
    | more first rest =>
        obtain rfl := Nat.le_zero.1 (Nat.le_of_succ_le_succ hle)
        cases rest
        exact .inr first
  · rintro (rfl | h)
    · exact ⟨0, by simp, .none i⟩
    · exact ⟨1, by simp, .more h (.none j)⟩

theorem looksAround_optional {n : Node} (h : n.looksAround = false) (greedy : Bool) :
    (n.repeated 0 (some 1) greedy).looksAround = false := by
  rw [repeated_optional]
  exact h

end Node

namespace Piece

/-- Whether pieces, the last one first, lead from one position to another. -/
def Leads (text : Array Char) (ps : List Piece) (i j : Nat) : Prop :=
  (sequence ps).node.Reaches text i j

variable {text : Array Char} {i j : Nat}

theorem leads_append (qs ps : List Piece) :
    Leads text (qs ++ ps) i j ↔ ∃ k, Leads text ps i k ∧ Leads text qs k j := by
  simp only [Leads, node_sequence, List.reverse_append, List.map_append]
  exact Node.reaches_sequence_append _ _

theorem leads_renumberAll (f : Nat → Nat) (ps : List Piece) :
    Leads text (renumberAll f ps) i j ↔ Leads text ps i j := by
  rw [Leads, sequence_renumberAll, mapNode, Node.reaches_renumber]
  rfl

/-- Whether no piece looks at the text around it. -/
def AreLocal (ps : List Piece) : Prop := ∀ p ∈ ps, p.node.looksAround = false

theorem AreLocal.sequence {ps : List Piece} (h : AreLocal ps) :
    (sequence ps).node.looksAround = false := by
  rw [node_sequence]
  refine Node.looksAround_sequence fun n hn => ?_
  obtain ⟨p, hp, rfl⟩ := List.mem_map.1 hn
  exact h p (List.mem_reverse.1 hp)

theorem AreLocal.renumberAll {ps : List Piece} (h : AreLocal ps) (f : Nat → Nat) :
    AreLocal (renumberAll f ps) := by
  intro p hp
  obtain ⟨q, hq, rfl⟩ := List.mem_map.1 hp
  exact (Node.looksAround_renumber f q.node).trans (h q hq)

theorem AreLocal.append {ps qs : List Piece} (hq : AreLocal qs) (hp : AreLocal ps) :
    AreLocal (qs ++ ps) :=
  fun p hmem => (List.mem_append.1 hmem).elim (hq p) (hp p)

end Piece

/-! ### Reading under flags -/

/-- Whether flags leave blanks, repetitions and anchors as they are. -/
structure Flags.IsBare (fs : Flags) : Prop where
  verbose   : fs.has .verbose = false
  swapGreed : fs.has .swapGreed = false
  multiLine : fs.has .multiLine = false

/-- The flags where case does not matter. -/
def Flags.caseless : Flags := ({} : Flags).switch .ignoreCase true

theorem Flags.isBare_default : ({} : Flags).IsBare := ⟨rfl, rfl, rfl⟩

theorem Flags.isBare_caseless : caseless.IsBare := ⟨rfl, rfl, rfl⟩

/-- A character stands for itself, or for a set that holds it. -/
theorem charNode_cases (fs : Flags) (c : Char) :
    fs.charNode c = .char c ∨ ∃ cs : CharSet, fs.charNode c = .set cs ∧ cs.contains c = true := by
  unfold Flags.charNode
  extract_lets orbits
  split
  case isFalse => exact .inl rfl
  case isTrue =>
    refine .inr ⟨_, rfl, ?_⟩
    have hself : (CharSet.singleton c).contains c = true := by
      simp [CharSet.contains, CharSet.singleton, CharSet.containsCode, Unicode.Ranges.contains]
    unfold Flags.fold
    split
    · exact Bool.or_eq_true_iff.2 (.inl hself)
    · exact hself

/-- Whether a text adds `pieces`, which have `count` groups, wherever it stands under some flags. -/
structure Adds (fs : Flags) (text : List Char) (pieces : List Piece) (count : Nat) : Prop where
  reads   : ∀ base : Reader, base.flags = fs → base.names = [] → ∀ more, IsApart more →
    ∃ n ≤ text.length, ∃ ps, Reads n base (text ++ more) ps (base.extend pieces count) more
  isApart : text ≠ [] → IsApart text

namespace Adds

variable {fs : Flags} {text text₁ text₂ : List Char} {pieces pieces₁ pieces₂ : List Piece}
  {count count₁ count₂ : Nat}

theorem nil : Adds fs [] [] 0 where
  reads base _ _ more _ := ⟨0, Nat.le_refl _, [], by
    simpa [Reader.extend, Piece.renumberAll] using Reads.done base more⟩
  isApart h := absurd rfl h

theorem append (h₁ : Adds fs text₁ pieces₁ count₁) (h₂ : Adds fs text₂ pieces₂ count₂) :
    Adds fs (text₁ ++ text₂) (Piece.renumberAll (· + count₁) pieces₂ ++ pieces₁)
      (count₁ + count₂) where
  reads base hflags hnames more hmore := by
    have hmore₁ : IsApart (text₂ ++ more) := by
      cases text₂ with
      | nil => exact hmore
      | cons c cs => exact h₂.isApart (by simp)
    obtain ⟨n₁, hn₁, ps₁, hrun₁⟩ := h₁.reads base hflags hnames _ hmore₁
    obtain ⟨n₂, hn₂, ps₂, hrun₂⟩ := h₂.reads (base.extend pieces₁ count₁) hflags hnames more hmore
    refine ⟨n₁ + n₂, by simp only [List.length_append]; omega, ps₁ ++ ps₂, ?_⟩
    rw [List.append_assoc, ← Reader.extend_extend]
    exact hrun₁.trans hrun₂
  isApart hne := by
    cases text₁ with
    | nil => exact h₂.isApart (by simpa using hne)
    | cons c cs => exact h₁.isApart (by simp)

/-- A text that is read in one step, which adds a piece without groups. -/
theorem of_step (hfs : fs.IsBare) {c : Char} {text : List Char} {p : Piece}
    (hp : ∀ f, p.mapNode (Node.renumber f) = p)
    (hstep : ∀ base : Reader, base.flags = fs → ∀ more, base.step? c (text ++ more) =
      some (base.push p, more)) (isApart : IsApart (c :: text)) :
    Adds fs (c :: text) [p] 0 where
  reads base hflags _ more _ := by
    have hverbose : base.isVerbose = false := by
      rw [Reader.isVerbose, hflags, hfs.verbose]
    have hextend : base.extend [p] 0 = base.push p := by
      simp [Reader.extend, Reader.push, Piece.renumberAll, hp]
    refine ⟨1, by simp, [], ?_⟩
    rw [hextend]
    exact .single hverbose (hstep base hflags more) rfl
  isApart _ := isApart

theorem char (hfs : fs.IsBare) (c : Char) :
    Adds fs (escapeChar c) [⟨fs.charNode c, 0, true⟩] 0 := by
  have hp : ∀ f, Piece.mapNode (Node.renumber f) ⟨fs.charNode c, 0, true⟩ =
      ⟨fs.charNode c, 0, true⟩ := by
    intro f
    rcases charNode_cases fs c with h | ⟨cs, h, -⟩
    · rw [h]
      rfl
    · rw [h]
      rfl
  unfold escapeChar
  split
  case isTrue h =>
    refine of_step hfs hp (fun base hflags more => ?_) ⟨by simp, by simp⟩
    simp [Reader.step?, read_escapeChar h, Escaped.node?, hflags, Reader.pushNode]
  case isFalse h =>
    refine of_step hfs hp (fun base hflags more => ?_) ⟨?_, ?_⟩
    · simp only [Reader.step?]
      split
      case h_13 => rw [hflags]; rfl
      all_goals exact absurd (by decide) h
    · rintro ⟨⟩
      exact h (by decide)
    · rintro ⟨⟩
      exact h (by decide)

theorem textStart (hfs : fs.IsBare) : Adds fs ['^'] [⟨.look .textStart, 0, true⟩] 0 := by
  refine of_step hfs (fun _ => rfl) (fun base hflags more => ?_) ⟨by simp, by simp⟩
  have hnode : base.flags.startNode = .look .textStart := by
    rw [hflags, Flags.startNode, hfs.multiLine]
    rfl
  simp [Reader.step?, hnode, Reader.pushNode]

theorem textEnd (hfs : fs.IsBare) : Adds fs ['$'] [⟨.look .textEnd, 0, true⟩] 0 := by
  refine of_step hfs (fun _ => rfl) (fun base hflags more => ?_) ⟨by simp, by simp⟩
  have hnode : base.flags.endNode = .look .textEnd := by
    rw [hflags, Flags.endNode, hfs.multiLine]
    rfl
  simp [Reader.step?, hnode, Reader.pushNode]

/-- An expression in a group that does not capture, whatever comes after the group. -/
theorem reads_group (hfs : fs.IsBare) (h : Adds fs text pieces count) {base : Reader}
    (hflags : base.flags = fs) (hnames : base.names = []) (more : List Char) :
    ∃ n ≤ text.length + 4, ∃ ps, Reads n base ('(' :: '?' :: ':' :: (text ++ (')' :: more))) ps
      (base.extend [⟨(Piece.sequence pieces).node, (Piece.sequence pieces).depth + 1, true⟩] count)
      more := by
  have hverbose : base.isVerbose = false := by
    rw [Reader.isVerbose, hflags, hfs.verbose]
  obtain ⟨n, hn, ps, hrun⟩ := h.reads (base.openGroup .plain base.flags) hflags hnames
    (')' :: more) ⟨by simp, by simp⟩
  have hopen := Reads.single hverbose (Reader.step?_plain hverbose (text ++ (')' :: more))) rfl
  have hclose : ((base.openGroup .plain base.flags).extend pieces count).step? ')' more =
      some (base.extend [⟨(Piece.sequence pieces).node, (Piece.sequence pieces).depth + 1,
        true⟩] count, more) := by
    simp [Reader.step?, Reader.closeGroup?_extend]
  have hinner : ((base.openGroup .plain base.flags).extend pieces count).isVerbose = false :=
    hverbose
  exact ⟨1 + n + 1, by omega, _, (hopen.trans hrun).trans (Reads.single hinner hclose rfl)⟩

/-- An expression in a group. -/
theorem group (hfs : fs.IsBare) (h : Adds fs text pieces count) :
    Adds fs (['(', '?', ':'] ++ text ++ [')'])
      [⟨(Piece.sequence pieces).node, (Piece.sequence pieces).depth + 1, true⟩] count where
  reads base hflags hnames more _ := by
    obtain ⟨n, hn, ps, hrun⟩ := h.reads_group hfs hflags hnames more
    refine ⟨n, by simpa using hn, ps, ?_⟩
    simpa using hrun
  isApart _ := ⟨by simp, by simp⟩

/-- An expression in a group that may be left out. -/
theorem optional (hfs : fs.IsBare) (h : Adds fs text pieces count) :
    Adds fs (['(', '?', ':'] ++ text ++ [')', '?'])
      [⟨(Piece.sequence pieces).node.repeated 0 (some 1) true,
        (Piece.sequence pieces).depth + 2, true⟩] count where
  reads base hflags hnames more hmore := by
    have hgreed : (base.flags).has .swapGreed = false := by
      rw [hflags, hfs.swapGreed]
    obtain ⟨n, hn, ps, hrun⟩ := h.reads_group hfs hflags hnames ('?' :: more)
    have hverbose : (base.extend [⟨(Piece.sequence pieces).node,
        (Piece.sequence pieces).depth + 1, true⟩] count).isVerbose = false := by
      rw [Reader.isVerbose, Reader.extend, hflags, hfs.verbose]
    have hrepeat := Reads.single hverbose (Reader.step?_optional hgreed
      (Piece.sequence pieces).node ((Piece.sequence pieces).depth + 1) count hmore.1) rfl
    have htext : ['(', '?', ':'] ++ text ++ [')', '?'] ++ more =
        '(' :: '?' :: ':' :: (text ++ (')' :: '?' :: more)) := by
      simp
    rw [htext]
    exact ⟨n + 1, by simp; omega, _, hrun.trans hrepeat⟩
  isApart _ := ⟨by simp, by simp⟩

/-- An empty capturing group. -/
theorem marker (hfs : fs.IsBare) : Adds fs ['(', ')'] [⟨.group 1 none .empty, 1, true⟩] 1 where
  reads base hflags hnames more _ := by
    have hverbose : base.isVerbose = false := by
      rw [Reader.isVerbose, hflags, hfs.verbose]
    have hopened : base.step? '(' (')' :: more) = some (({ base with
        captures := base.captures + 1 } : Reader).openGroup (.capture (base.captures + 1) none)
        base.flags, ')' :: more) := by
      show base.readOpening? (')' :: more) = _
      rw [Reader.readOpening?_eq, hverbose, Reader.opened?_of_head (by simp [Scan.skip])]
      rfl
    have hopen := Reads.one (by rw [hverbose]; rfl) hopened
    have hclosed : (({ base with captures := base.captures + 1 } : Reader).openGroup
        (.capture (base.captures + 1) none) base.flags).step? ')' more =
        some (base.extend [⟨.group 1 none .empty, 1, true⟩] 1, more) := by
      have hindex : 1 + base.captures = base.captures + 1 := Nat.add_comm _ _
      simp [Reader.step?, Reader.closeGroup?, Reader.openGroup, Reader.current, Reader.branch,
        Reader.extend, Piece.renumberAll, Piece.mapNode, Node.renumber, hindex]
      exact ⟨rfl, rfl⟩
    have hinner : (({ base with captures := base.captures + 1 } : Reader).openGroup
        (.capture (base.captures + 1) none) base.flags).isVerbose = false := hverbose
    exact ⟨1 + 1, by simp, _, hopen.trans (Reads.single hinner hclosed rfl)⟩
  isApart _ := ⟨by simp, by simp⟩

/-- **What leaves nothing open** adds its pieces wherever it stands. -/
theorem of_trace? (hfs : fs.IsBare) {r : Reader} {parens : List Paren}
    (h : Reader.trace? (text.length + 1) { flags := fs } text = some (r, parens))
    (hgroups : r.groups = []) (hbranches : r.branches = []) (hflags : r.flags = fs)
    (hnames : r.names = []) (isApart : text ≠ [] → IsApart text) :
    Adds fs text r.pieces r.captures where
  reads base hbase hnone more hmore := by
    obtain ⟨n, hn, left, hrun, hleft⟩ := Reader.trace?_eq_some.1 h
    have hverbose : r.isVerbose = false := by
      rw [Reader.isVerbose, hflags, hfs.verbose]
    obtain rfl : left = [] := by
      rw [hverbose] at hleft
      exact hleft
    obtain ⟨after, hafter, hruns⟩ := hrun.append
    obtain rfl := (hverbose ▸ hafter).eq_of_not_verbose
    have hfits : Reader.Fits base r := .inr (by simp [Reader.outerBranches, hgroups, hbranches])
    obtain ⟨hrun', -⟩ := (hruns more hmore fun _ => by simpa using hmore.1).within hfits
    rw [Reader.within_start hbase hnone, Reader.within_eq_extend hgroups hbranches
      (hflags.trans hbase.symm) (hnames.trans hnone.symm)] at hrun'
    exact ⟨n, Nat.le_of_lt_succ hn, _, hrun'⟩
  isApart := isApart

end Adds

/-! ### Expressions that take a text -/

/-- Whether an expression can stand anywhere under some flags: what is around it makes no difference
to what it stands for, and that does not look at it. -/
def Floats (fs : Flags) (text : List Char) : Prop :=
  ∃ pieces count, Adds fs text pieces count ∧ Piece.AreLocal pieces

/-- Whether an expression that can stand anywhere leads from one end of a text to the other. -/
def Takes (fs : Flags) (text value : List Char) : Prop :=
  ∃ pieces count, Adds fs text pieces count ∧ Piece.AreLocal pieces ∧
    Piece.Leads value.toArray pieces 0 value.length

variable {fs : Flags} {text text₁ text₂ value value₁ value₂ : List Char}

namespace Floats

theorem nil : Floats fs [] := ⟨[], 0, .nil, by simp [Piece.AreLocal]⟩

theorem append (h₁ : Floats fs text₁) (h₂ : Floats fs text₂) : Floats fs (text₁ ++ text₂) := by
  obtain ⟨pieces₁, count₁, hadds₁, hlocal₁⟩ := h₁
  obtain ⟨pieces₂, count₂, hadds₂, hlocal₂⟩ := h₂
  exact ⟨_, _, hadds₁.append hadds₂, (hlocal₂.renumberAll _).append hlocal₁⟩

theorem optional (hfs : fs.IsBare) (h : Floats fs text) :
    Floats fs (['(', '?', ':'] ++ text ++ [')', '?']) := by
  obtain ⟨pieces, count, hadds, hlocal⟩ := h
  refine ⟨_, _, hadds.optional hfs, fun p hp => ?_⟩
  obtain rfl := List.mem_singleton.1 hp
  exact Node.looksAround_optional hlocal.sequence true

end Floats

namespace Takes

theorem floats (h : Takes fs text value) : Floats fs text := by
  obtain ⟨pieces, count, hadds, hlocal, -⟩ := h
  exact ⟨pieces, count, hadds, hlocal⟩

theorem nil : Takes fs [] [] := ⟨[], 0, .nil, by simp [Piece.AreLocal], rfl⟩

/-- **Expressions one after another** take texts one after another. -/
theorem append (h₁ : Takes fs text₁ value₁) (h₂ : Takes fs text₂ value₂) :
    Takes fs (text₁ ++ text₂) (value₁ ++ value₂) := by
  obtain ⟨pieces₁, count₁, hadds₁, hlocal₁, hleads₁⟩ := h₁
  obtain ⟨pieces₂, count₂, hadds₂, hlocal₂, hleads₂⟩ := h₂
  refine ⟨_, _, hadds₁.append hadds₂, (hlocal₂.renumberAll _).append hlocal₁, ?_⟩
  rw [Piece.leads_append]
  refine ⟨value₁.length, ?_, ?_⟩
  · have hshift : (Piece.sequence pieces₁).node.Reaches (value₁ ++ value₂).toArray (0 + 0)
        (0 + value₁.length) := by
      refine hleads₁.shift (fun k c hc => ?_) hlocal₁.sequence
      rw [List.getElem?_toArray] at hc ⊢
      rw [Nat.zero_add, List.getElem?_append_left (List.getElem?_eq_some_iff.1 hc).1]
      exact hc
    rwa [Nat.zero_add, Nat.zero_add] at hshift
  · have hshift : (Piece.sequence pieces₂).node.Reaches (value₁ ++ value₂).toArray
        (value₁.length + 0) (value₁.length + value₂.length) := by
      refine hleads₂.shift (fun k c hc => ?_) hlocal₂.sequence
      rw [List.getElem?_toArray] at hc ⊢
      rw [List.getElem?_append_right (Nat.le_add_right _ _), Nat.add_sub_cancel_left]
      exact hc
    rw [Piece.leads_renumberAll, List.length_append]
    exact hshift

theorem char (hfs : fs.IsBare) (c : Char) : Takes fs (escapeChar c) [c] := by
  refine ⟨_, _, .char hfs c, fun p hp => ?_, ?_⟩
  · obtain rfl := List.mem_singleton.1 hp
    rcases charNode_cases fs c with h | ⟨cs, h, -⟩
    · rw [h]
      rfl
    · rw [h]
      rfl
  · show (fs.charNode c).Reaches [c].toArray 0 1
    rcases charNode_cases fs c with h | ⟨cs, h, hc⟩
    · rw [h]
      exact ⟨rfl, rfl⟩
    · rw [h]
      exact ⟨hc, rfl⟩

/-- What may be left out takes nothing, -/
theorem leftOut (hfs : fs.IsBare) (h : Floats fs text) :
    Takes fs (['(', '?', ':'] ++ text ++ [')', '?']) [] := by
  obtain ⟨pieces, count, hadds, hlocal⟩ := h
  refine ⟨_, _, hadds.optional hfs, fun p hp => ?_, Node.reaches_optional.2 (.inl rfl)⟩
  obtain rfl := List.mem_singleton.1 hp
  exact Node.looksAround_optional hlocal.sequence true

/-- or what it takes otherwise. -/
theorem optional (hfs : fs.IsBare) (h : Takes fs text value) :
    Takes fs (['(', '?', ':'] ++ text ++ [')', '?']) value := by
  obtain ⟨pieces, count, hadds, hlocal, hleads⟩ := h
  refine ⟨_, _, hadds.optional hfs, fun p hp => ?_, Node.reaches_optional.2 (.inr hleads)⟩
  obtain rfl := List.mem_singleton.1 hp
  exact Node.looksAround_optional hlocal.sequence true

end Takes

/-! ### Between anchors -/

/-- An expression between anchors, in a group with an empty group behind it. -/
def anchored (text : List Char) : List Char :=
  ['^'] ++ (['(', '?', ':'] ++ (text ++ ['(', ')']) ++ [')']) ++ ['$']

/-- What is read between anchors. -/
theorem Takes.exists_adds (h : Takes fs text value) (hfs : fs.IsBare) :
    ∃ n depth count, n.Reaches value.toArray 0 value.length ∧
      Adds fs (anchored text)
        [⟨.look .textEnd, 0, true⟩, ⟨n, depth, true⟩, ⟨.look .textStart, 0, true⟩] count := by
  obtain ⟨pieces, count, hadds, -, hleads⟩ := h
  have hgroup := (hadds.append (.marker hfs)).group hfs
  refine ⟨_, _, _, ?_, ((Adds.textStart hfs).append hgroup).append (.textEnd hfs)⟩
  rw [Node.reaches_renumber]
  exact (Piece.leads_append _ _).2 ⟨value.length, hleads, rfl⟩

/-- What takes a text matches it between anchors, also after a setting of flags. -/
theorem Takes.exists_reads (h : Takes fs text value) (hfs : fs.IsBare) (base : Reader)
    (hflags : base.flags = fs) (hnames : base.names = []) (hgroups : base.groups = [])
    (hbranches : base.branches = [])
    (hpieces : base.pieces = [] ∨ base.pieces = [⟨.empty, 0, false⟩]) :
    ∃ n ≤ (anchored text).length, ∃ ps r, Reads n base (anchored text) ps r [] ∧ r.groups = [] ∧
      (r.current.node.search? value.toArray).isSome := by
  obtain ⟨inner, depth, count, hinner, hadds⟩ := h.exists_adds hfs
  obtain ⟨n, hn, ps, hrun⟩ := hadds.reads base hflags hnames [] ⟨by simp, by simp⟩
  rw [List.append_nil] at hrun
  refine ⟨n, hn, ps, _, hrun, hgroups, ?_⟩
  have hreaches : (inner.renumber (· + base.captures)).Reaches value.toArray 0 value.length := by
    rw [Node.reaches_renumber]
    exact hinner
  have hstart : Look.textStart.holdsAt value.toArray 0 = true := rfl
  have hend : Look.textEnd.holdsAt value.toArray value.length = true := by
    simp [Look.holdsAt, Look.holdsBetween]
  have hbody : (Node.sequence [.look .textStart, inner.renumber (· + base.captures),
      .look .textEnd]).Reaches value.toArray 0 value.length :=
    ⟨0, ⟨hstart, rfl⟩, value.length, hreaches, hend, rfl⟩
  rw [Reader.current_of_branches (by exact hbranches), Piece.node_sequence]
  rcases hpieces with h | h
  · simp only [Reader.extend, h]
    exact (Node.isSome_search? rfl).2 ⟨value.length, hbody⟩
  · simp only [Reader.extend, h]
    exact (Node.isSome_search? rfl).2 ⟨value.length, 0, rfl, hbody⟩

/-- **What takes a text matches it** between anchors, -/
theorem Takes.isSome_search? (h : Takes {} text value) {n : Node}
    (hn : Node.ofText? (anchored text) = some n) : (n.search? value.toArray).isSome := by
  obtain ⟨r, ps, hr, -, -, rfl⟩ := Node.ofText?_eq_some.1 hn
  obtain ⟨k, hk, ps', r', hrun, -, hsearch⟩ := h.exists_reads Flags.isBare_default {}
    rfl rfl rfl rfl (.inl rfl)
  have hr' : Reader.ofText? (anchored text) = some (r', ps') :=
    Reader.trace?_eq_some.2 ⟨k, Nat.lt_succ_of_le hk, [], hrun, by simp⟩
  obtain rfl : r = r' := congrArg Prod.fst (Option.some.inj (hr.symm.trans hr'))
  exact hsearch

/-- and also where case does not matter. -/
theorem Takes.isSome_search?_caseless (h : Takes .caseless text value) {n : Node}
    (hn : Node.ofText? ('(' :: '?' :: 'i' :: ')' :: anchored text) = some n) :
    (n.search? value.toArray).isSome := by
  obtain ⟨r, ps, hr, -, -, rfl⟩ := Node.ofText?_eq_some.1 hn
  obtain ⟨k, hk, ps', r', hrun, -, hsearch⟩ := h.exists_reads Flags.isBare_caseless
    { flags := .caseless, pieces := [⟨.empty, 0, false⟩] } rfl rfl rfl rfl (.inr rfl)
  have hset : ({} : Reader).step? '(' ('?' :: 'i' :: ')' :: anchored text) =
      some ({ flags := .caseless, pieces := [⟨.empty, 0, false⟩] }, anchored text) := rfl
  have hr' : Reader.ofText? ('(' :: '?' :: 'i' :: ')' :: anchored text) =
      some (r', [] ++ ps') :=
    Reader.trace?_eq_some.2 ⟨1 + k, by simp; omega, [], (Reads.single rfl hset rfl).trans hrun,
      by simp⟩
  obtain rfl : r = r' := congrArg Prod.fst (Option.some.inj (hr.symm.trans hr'))
  exact hsearch

end Signpost.Regex
