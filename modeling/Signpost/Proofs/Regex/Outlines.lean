import Signpost.Proofs.Regex.Spelling
import Signpost.Proofs.Regex.Wrapping

/-!
# Regex — what does not depend on case

Whether case counts decides which characters a leaf of an expression stands for, and nothing else:
what is left of an expression without its characters (`Node.outline`) is the same.  Two readers
that differ in the flag only, and in the characters of what they have read, go through a text in
the same steps and stay so.

* `Reader.step?_outline`: two readers with the same outline take the same step.
* `Reader.Reads.outline`: and the same run.
* `Node.outline_ofText?_caseless`: an expression where case does not matter has the outline of the
  expression itself.
-/

namespace Signpost.Regex

/-- What is read alike, up to `p` and with the same text behind it, is gone on with alike. -/
theorem bind_eq_bind_of_map {α β γ δ : Type} {x y : Option (α × γ)} {p : α → δ}
    (h : x.map (Prod.map p id) = y.map (Prod.map p id)) {f g : α × γ → Option β}
    (hfg : ∀ a b rest, p a = p b → f (a, rest) = g (b, rest)) : x.bind f = y.bind g := by
  cases x with
  | none =>
      cases y with
      | none => rfl
      | some b => cases h
  | some a =>
      cases y with
      | none => cases h
      | some b =>
          obtain ⟨hp, hrest⟩ := Prod.mk.inj (Option.some.inj h)
          obtain ⟨a, rest⟩ := a
          obtain rfl : rest = b.2 := hrest
          exact hfg a b.1 b.2 hp

/-- A set that is read is gone on with alike, whichever it is. -/
theorem bind_eq_bind_of_isSome {α β : Type} {x y : Option α} (h : x.isSome = y.isSome)
    {f g : α → Option β} (hfg : ∀ a b, f a = g b) : x.bind f = y.bind g := by
  cases x with
  | none =>
      cases y with
      | none => rfl
      | some b => cases h
  | some a =>
      cases y with
      | none => cases h
      | some b => exact hfg a b

/-- What is read further is looked at alike. -/
theorem map_bind_congr {α β γ : Type} {x : Option α} {f g : α → Option β} {w : β → γ}
    (h : ∀ a, x = some a → (f a).map w = (g a).map w) :
    (x.bind f).map w = (x.bind g).map w := by
  rw [Option.map_bind, Option.map_bind]
  exact Option.bind_congr h

/-! ### Flags -/

namespace Flags

/-- The flags without the one for case. -/
def uncased (fs : Flags) : Flags := fs.switch .ignoreCase false

theorem has_uncased (fs : Flags) {f : Flag} (hf : f ≠ .ignoreCase) :
    fs.uncased.has f = fs.has f := by
  rw [Bool.eq_iff_iff]
  simp [uncased, switch, has, hf]

variable {fs gs : Flags}

theorem has_eq (h : fs.uncased = gs.uncased) {f : Flag} (hf : f ≠ .ignoreCase) :
    fs.has f = gs.has f := by
  rw [← has_uncased fs hf, h, has_uncased gs hf]

theorem uncased_switch (h : fs.uncased = gs.uncased) (f : Flag) (value : Bool) :
    (fs.switch f value).uncased = (gs.switch f value).uncased := by
  have hon : fs.on.filter (· != .ignoreCase) = gs.on.filter (· != .ignoreCase) :=
    congrArg Flags.on h
  have hswap : ∀ on : List Flag, (on.filter (· != f)).filter (· != .ignoreCase) =
      (on.filter (· != .ignoreCase)).filter (· != f) := fun on => by
    rw [List.filter_filter, List.filter_filter]
    exact List.filter_congr fun _ _ => Bool.and_comm _ _
  cases value with
  | true => simp [uncased, switch, List.filter_cons, hon]
  | false => simp only [uncased, switch, Bool.false_eq_true, if_false, hswap, hon]

theorem uncased_switchAll (h : fs.uncased = gs.uncased) (settings : List (Flag × Bool)) :
    (fs.switchAll settings).uncased = (gs.switchAll settings).uncased := by
  induction settings generalizing fs gs with
  | nil => exact h
  | cons s settings ih => exact ih (uncased_switch h s.1 s.2)

end Flags

/-! ### Nodes without their characters -/

namespace Node

/-- The node with the same set in place of each of its characters. -/
def outline : Node → Node
  | .char _ | .set _            => .set .empty
  | .group index name n         => .group index name n.outline
  | .cat a b                    => .cat a.outline b.outline
  | .alt a b                    => .alt a.outline b.outline
  | .repetition n min max greedy => .repetition n.outline min max greedy
  | n                           => n

theorem matchesOnlyEmpty_outline (n : Node) : n.outline.matchesOnlyEmpty = n.matchesOnlyEmpty := by
  induction n with
  | group index name n ih => exact ih
  | cat a b iha ihb | alt a b iha ihb => simp only [outline, matchesOnlyEmpty, iha, ihb]
  | repetition n min max greedy ih => exact ih
  | empty | char _ | set _ | look _ => rfl

theorem repeated_outline (n : Node) (min : Nat) (max : Option Nat) (greedy : Bool) :
    n.outline.repeated min max greedy = (n.repeated min max greedy).outline :=
  repeated_map rfl matchesOnlyEmpty_outline (fun _ _ _ _ => rfl) n min max greedy

theorem sequence_outline (ns : List Node) : sequence (ns.map outline) = (sequence ns).outline :=
  sequence_map rfl (fun _ _ => rfl) ns

theorem choice_outline (ns : List Node) : choice (ns.map outline) = (choice ns).outline :=
  choice_map rfl (fun _ _ => rfl) ns

theorem outline_charNode (fs : Flags) (c : Char) : (fs.charNode c).outline = .set .empty := by
  unfold Flags.charNode
  generalize (if fs.has .unicode then Unicode.caseOrbits else Unicode.latinOrbits) = orbits
  simp only
  split <;> rfl

end Node

section leaves

variable {fs gs : Flags} (h : fs.uncased = gs.uncased)
include h

theorem Flags.dotNode?_eq : fs.dotNode? = gs.dotNode? := by
  unfold Flags.dotNode?
  rw [Flags.has_eq h (f := .unicode) (by decide), Flags.has_eq h (f := .dotAll) (by decide),
    Flags.has_eq h (f := .crlf) (by decide)]

theorem Flags.startNode_eq : fs.startNode = gs.startNode := by
  rw [Flags.startNode, Flags.startNode, Flags.has_eq h (f := .multiLine) (by decide),
    Flags.has_eq h (f := .crlf) (by decide)]

theorem Flags.endNode_eq : fs.endNode = gs.endNode := by
  rw [Flags.endNode, Flags.endNode, Flags.has_eq h (f := .multiLine) (by decide),
    Flags.has_eq h (f := .crlf) (by decide)]

/-! ### Escapes and classes -/

namespace Escaped

omit h in
/-- An escape without the characters of its set. -/
def outline : Escaped → Escaped
  | .set _ => .set .empty
  | e      => e

theorem property?_outline (negated : Bool) (cs : List Char) :
    (property? fs negated cs).map (Prod.map outline id) =
      (property? gs negated cs).map (Prod.map outline id) := by
  have hverbose := Flags.has_eq h (f := .verbose) (by decide)
  have hunicode := Flags.has_eq h (f := .unicode) (by decide)
  have hset : ∀ x : List Char × List Char,
      (if !fs.has .unicode then none else (querySet? x.1).bind fun s =>
        pure (Escaped.set (.negateIf negated (fs.fold s)), x.2)).map (Prod.map outline id) =
      (if !gs.has .unicode then none else (querySet? x.1).bind fun s =>
        pure (Escaped.set (.negateIf negated (gs.fold s)), x.2)).map (Prod.map outline id) := by
    intro x
    rw [hunicode]
    split
    · rfl
    · cases querySet? x.1 <;> rfl
  simp only [property?, hverbose, Option.bind_eq_bind]
  split
  · rw [Option.map_bind, Option.map_bind]
    exact Option.bind_congr fun x _ => hset x
  · rfl
  · exact hset _
  · rfl

theorem read?_outline (cs : List Char) :
    (read? fs cs).map (Prod.map outline id) = (read? gs cs).map (Prod.map outline id) := by
  have hverbose := Flags.has_eq h (f := .verbose) (by decide)
  have hunicode := Flags.has_eq h (f := .unicode) (by decide)
  cases cs with
  | nil => rfl
  | cons c cs =>
      simp only [read?, hunicode]
      split
      · rfl
      · split
        · rfl
        · split
          · rfl
          · split
            case h_4 => exact property?_outline h false cs
            case h_5 => exact property?_outline h true cs
            all_goals simp only [hex?, classSet?, wordBoundary?, hverbose, hunicode]

theorem map_node?_outline {e e' : Escaped} (he : e.outline = e'.outline) :
    (e.node? fs).map Node.outline = (e'.node? gs).map Node.outline := by
  have hunicode := Flags.has_eq h (f := .unicode) (by decide)
  cases e <;> cases e' <;> cases he
  case char.char c => simp only [node?, Option.map_some, Node.outline_charNode]
  case byte.byte n =>
    simp only [node?, hunicode]
    split
    · simp only [Option.map_some, Node.outline_charNode]
    · rfl
  case set.set => rfl
  case look.look l => rfl

theorem classChar?_eq {e e' : Escaped} (he : e.outline = e'.outline) :
    e.classChar? fs = e'.classChar? gs := by
  have hunicode := Flags.has_eq h (f := .unicode) (by decide)
  cases e <;> cases e' <;> cases he
  case set.set => rfl
  all_goals simp only [classChar?, hunicode]

end Escaped

namespace Class

theorem isSome_close?_eq (negated : Bool) (s s' : CharSet) :
    (close? fs negated s).isSome = (close? gs negated s').isSome := by
  rw [close?, close?, Flags.has_eq h (f := .unicode) (by decide)]
  split <;> rfl

theorem colonSet?_outline (cs : List Char) :
    (colonSet? fs cs).map (Prod.map Option.isSome id) =
      (colonSet? gs cs).map (Prod.map Option.isSome id) := by
  simp only [colonSet?, Option.bind_eq_bind]
  refine map_bind_congr fun cs _ => map_bind_congr fun s _ => map_bind_congr fun rest _ => ?_
  simp [isSome_close?_eq h _ s s]

theorem atom?_outline (cs : List Char) :
    (atom? fs cs).map (Prod.map Escaped.outline id) =
      (atom? gs cs).map (Prod.map Escaped.outline id) := by
  unfold atom?
  split
  · rfl
  · exact Escaped.read?_outline h _
  · rfl

theorem isSome_single?_eq {e e' : Escaped} (he : e.outline = e'.outline) :
    (single? fs e).isSome = (single? gs e').isSome := by
  have hchar := Escaped.classChar?_eq h he
  cases e <;> cases e' <;> cases he
  case set.set => rfl
  all_goals simp only [single?, hchar]

/-- The text behind a part does not depend on its set. -/
theorem bind_single?_outline {e e' : Escaped} (he : e.outline = e'.outline) (rest : List Char) :
    ((single? fs e).bind fun s => some (s, rest)).map (Prod.map (fun _ => ()) id) =
      ((single? gs e').bind fun s => some (s, rest)).map (Prod.map (fun _ => ()) id) := by
  rw [Option.map_bind, Option.map_bind]
  exact bind_eq_bind_of_isSome (isSome_single?_eq h he) fun _ _ => rfl

theorem range?_outline (cs : List Char) :
    (range? fs cs).map (Prod.map (fun _ => ()) id) =
      (range? gs cs).map (Prod.map (fun _ => ()) id) := by
  have hverbose := Flags.has_eq h (f := .verbose) (by decide)
  simp only [range?, hverbose, Option.bind_eq_bind, Option.map_bind]
  refine bind_eq_bind_of_map (atom?_outline h cs) fun first first' rest hfirst => ?_
  simp only [Function.comp_apply]
  split
  · rfl
  · split
    · exact bind_single?_outline h hfirst _
    · simp only [Option.map_bind]
      refine bind_eq_bind_of_map (atom?_outline h _) fun last last' rest hlast => ?_
      simp only [Function.comp_apply, Escaped.classChar?_eq h hfirst,
        Escaped.classChar?_eq h hlast]
  · exact bind_single?_outline h hfirst _

omit h in
/-- What an operation and the parts since then come to, but for their sets. -/
theorem depth_combine {pending pending' : Option (Operation × Part)} {items items' : Items}
    (hpending : pending.map (fun x => x.2.depth) = pending'.map fun x => x.2.depth)
    (hcount : items.count = items'.count) (hdepth : items.depth = items'.depth) :
    (combine fs pending items.toPart).depth = (combine gs pending' items'.toPart).depth := by
  have hpart : items.toPart.depth = items'.toPart.depth := by
    rw [Items.toPart, Items.toPart, hcount, hdepth]
  cases pending with
  | none =>
      cases pending' with
      | none => exact hpart
      | some x => cases hpending
  | some x =>
      cases pending' with
      | none => cases hpending
      | some y =>
          have hleft : x.2.depth = y.2.depth := Option.some.inj hpending
          simp only [combine, hleft, hpart]

theorem body?_outline (fuel : Nat) {pending pending' : Option (Operation × Part)}
    {items items' : Items}
    (hpending : pending.map (fun x => x.2.depth) = pending'.map fun x => x.2.depth)
    (hcount : items.count = items'.count) (hdepth : items.depth = items'.depth)
    (text : List Char) :
    (body? fs fuel pending items text).map (Prod.map Part.depth id) =
      (body? gs fuel pending' items' text).map (Prod.map Part.depth id) := by
  have hverbose := Flags.has_eq h (f := .verbose) (by decide)
  induction fuel generalizing pending pending' items items' text with
  | zero => rfl
  | succ fuel ih =>
      -- one more part, whatever its set is
      have hadd : ∀ (s s' : CharSet) (depth : Nat) (rest : List Char),
          (body? fs fuel pending (items.add ⟨s, depth⟩) rest).map (Prod.map Part.depth id) =
            (body? gs fuel pending' (items'.add ⟨s', depth⟩) rest).map
              (Prod.map Part.depth id) := by
        intro s s' depth rest
        refine ih hpending ?_ ?_ rest
        · simp only [Items.add, hcount]
        · simp only [Items.add, hdepth]
      have hrange : ∀ text : List Char,
          ((range? fs text).bind fun x => body? fs fuel pending (items.add ⟨x.1, 0⟩) x.2).map
              (Prod.map Part.depth id) =
            ((range? gs text).bind fun x => body? gs fuel pending' (items'.add ⟨x.1, 0⟩) x.2).map
              (Prod.map Part.depth id) := by
        intro text
        rw [Option.map_bind, Option.map_bind]
        exact bind_eq_bind_of_map (range?_outline h text) fun s s' rest _ => hadd s s' 0 rest
      have hcombine : (combine fs pending items.toPart).depth =
          (combine gs pending' items'.toPart).depth := depth_combine hpending hcount hdepth
      simp only [body?, hverbose, Option.bind_eq_bind]
      split
      case h_1 => rfl
      case h_2 rest _ => exact congrArg (fun depth => some (depth, rest)) hcombine
      case h_3 rest _ =>
        have hcolon := colonSet?_outline h rest
        cases hs : colonSet? fs rest with
        | some x =>
            obtain ⟨x', hs', hsame⟩ : ∃ x', colonSet? gs rest = some x' ∧
                Prod.map Option.isSome id x = Prod.map Option.isSome id x' := by
              rw [hs] at hcolon
              obtain ⟨x', hs', hsame⟩ := Option.map_eq_some_iff.1 hcolon.symm
              exact ⟨x', hs', hsame.symm⟩
            rw [hs']
            obtain ⟨s?, rest⟩ := x
            obtain ⟨s'?, rest'⟩ := x'
            obtain ⟨hsome, hrest⟩ := Prod.mk.inj hsame
            obtain rfl : rest = rest' := hrest
            simp only [Option.map_bind]
            exact bind_eq_bind_of_isSome hsome fun s s' => hadd s s' 0 rest
        | none =>
            rw [hs] at hcolon
            rw [Option.map_eq_none_iff.1 hcolon.symm]
            simp only [Option.map_bind]
            refine bind_eq_bind_of_map (ih rfl rfl rfl _) fun part part' rest hpart => ?_
            simp only [Function.comp_apply, Option.map_bind, hpart]
            exact bind_eq_bind_of_isSome (isSome_close?_eq h _ _ _) fun s s' => hadd s s' _ rest
      case h_4 =>
        split
        · split
          · exact ih (by simp only [Option.map_some, hcombine]) rfl rfl _
          · exact hrange _
        · exact hrange _

theorem read?_outline (text : List Char) :
    (read? fs text).map (Prod.map Part.depth id) =
      (read? gs text).map (Prod.map Part.depth id) := by
  simp only [read?, Flags.has_eq h (f := .verbose) (by decide), Option.bind_eq_bind,
    Option.map_bind]
  refine bind_eq_bind_of_map (body?_outline h _ rfl rfl rfl _) fun part part' rest hpart => ?_
  simp only [Function.comp_apply, Option.map_bind]
  refine bind_eq_bind_of_isSome (isSome_close?_eq h _ _ _) fun s s' => ?_
  exact congrArg (fun depth => some (depth + 1, rest)) hpart

end Class

end leaves

/-! ### Readers -/

/-- The piece without its characters. -/
def Piece.outline (p : Piece) : Piece := p.mapNode Node.outline

def OpenGroup.outline (g : OpenGroup) : OpenGroup :=
  ⟨g.opening, g.flags.uncased, g.branches.map Piece.outline, g.pieces.map Piece.outline⟩

theorem Piece.sequence_outline (ps : List Piece) :
    sequence (ps.map outline) = (sequence ps).outline :=
  sequence_mapNode Node.sequence_outline ps

theorem Piece.choice_outline (ps : List Piece) :
    choice (ps.map outline) = (choice ps).outline :=
  choice_mapNode Node.choice_outline ps

namespace Reader

/-- The reader without the characters of what it has read, and without the flag for case. -/
def outline (r : Reader) : Reader where
  groups   := r.groups.map OpenGroup.outline
  branches := r.branches.map Piece.outline
  pieces   := r.pieces.map Piece.outline
  flags    := r.flags.uncased
  captures := r.captures
  names    := r.names

theorem outline_push (r : Reader) (p : Piece) : (r.push p).outline = r.outline.push p.outline := rfl

theorem outline_openGroup (r : Reader) (opening : Opening) (fs : Flags) :
    (r.openGroup opening fs).outline = r.outline.openGroup opening fs.uncased := rfl

theorem outline_branch (r : Reader) : r.branch.outline = r.outline.branch := by
  rw [branch, branch, outline, outline, Piece.sequence_outline]
  rfl

theorem outline_current (r : Reader) : r.current.outline = r.outline.current := by
  rw [current, current, ← outline_branch, ← Piece.choice_outline]
  rfl

theorem outline_openCapture? (r : Reader) (name : Option String) :
    (r.openCapture? name).map outline = r.outline.openCapture? name := by
  unfold openCapture?
  have hnames : r.outline.names = r.names := rfl
  rw [hnames]
  split <;> rfl

theorem outline_closeGroup? (r : Reader) :
    r.closeGroup?.map outline = r.outline.closeGroup? := by
  unfold closeGroup?
  rw [← outline_current]
  obtain ⟨groups, branches, pieces, flags, captures, names⟩ := r
  cases groups with
  | nil => rfl
  | cons g gs =>
      obtain ⟨opening, flags, branches, pieces⟩ := g
      cases opening <;> rfl

theorem outline_repeatLast? (r : Reader) (min : Nat) (max : Option Nat) (mark : Bool) :
    (r.repeatLast? min max mark).map outline = r.outline.repeatLast? min max mark := by
  have hswap : r.outline.flags.has .swapGreed = r.flags.has .swapGreed :=
    Flags.has_uncased r.flags (by decide)
  unfold repeatLast?
  rw [hswap]
  obtain ⟨groups, branches, pieces, flags, captures, names⟩ := r
  cases pieces with
  | nil => rfl
  | cons p ps =>
      have hrepeatable : p.outline.isRepeatable = p.isRepeatable := rfl
      simp only [outline, List.map_cons, hrepeatable]
      split
      · simp [outline, Piece.outline, Piece.mapNode, Node.repeated_outline]
      · rfl

variable {r s : Reader}

/-! ### Two readers side by side -/

theorem flags_of_outline (h : r.outline = s.outline) : r.flags.uncased = s.flags.uncased :=
  congrArg Reader.flags h

theorem isVerbose_of_outline (h : r.outline = s.outline) : r.isVerbose = s.isVerbose :=
  Flags.has_eq (flags_of_outline h) (by decide)

theorem map_openCapture?_outline (h : r.outline = s.outline) (name : Option String) :
    (r.openCapture? name).map outline = (s.openCapture? name).map outline := by
  rw [outline_openCapture?, outline_openCapture?, h]

theorem map_repeatLast?_outline (h : r.outline = s.outline) (min : Nat) (max : Option Nat)
    (mark : Bool) :
    (r.repeatLast? min max mark).map outline = (s.repeatLast? min max mark).map outline := by
  rw [outline_repeatLast?, outline_repeatLast?, h]

theorem push_outline (h : r.outline = s.outline) {p q : Piece} (hpq : p.outline = q.outline) :
    (r.push p).outline = (s.push q).outline := by
  rw [outline_push, outline_push, h, hpq]

/-- What becomes of readers alike is alike with the text behind it. -/
theorem map_bind_outline {x y : Option Reader} (h : x.map outline = y.map outline)
    (rest : List Char) : (x.bind fun r => some (r, rest)).map (Prod.map outline id) =
      (y.bind fun r => some (r, rest)).map (Prod.map outline id) := by
  cases x with
  | none =>
      cases y with
      | none => rfl
      | some s => cases h
  | some r =>
      cases y with
      | none => cases h
      | some s => exact congrArg (fun r => some (r, rest)) (Option.some.inj h)

theorem readFlags?_outline (h : r.outline = s.outline) (cs : List Char) :
    (r.readFlags? cs).map (Prod.map outline id) = (s.readFlags? cs).map (Prod.map outline id) := by
  simp only [readFlags?, Option.bind_eq_bind, Option.map_bind]
  refine Option.bind_congr fun settings _ => ?_
  have hflags := Flags.uncased_switchAll (flags_of_outline h) settings
  simp only [Function.comp_apply]
  split
  case h_1 rest _ =>
    refine congrArg (fun r => some (r, rest)) ?_
    show (r.openGroup _ _).outline = (s.openGroup _ _).outline
    rw [outline_openGroup, outline_openGroup, h, hflags]
  case h_2 rest _ =>
    split
    · rfl
    · have hset : ({ r.outline with flags := (r.flags.switchAll settings).uncased } : Reader) =
          { s.outline with flags := (s.flags.switchAll settings).uncased } := by rw [h, hflags]
      exact congrArg (fun r => some (r, rest)) (push_outline hset rfl)
  case h_3 => rfl

theorem opened?_outline (h : r.outline = s.outline) (cs : List Char) :
    (r.opened? cs).map (Prod.map outline id) = (s.opened? cs).map (Prod.map outline id) := by
  simp only [opened?]
  split
  · rfl
  · split
    case h_1 =>
      simp only [Option.bind_eq_bind, Option.map_bind]
      refine Option.bind_congr fun rest _ => ?_
      simp only [Function.comp_apply]
      split
      · exact map_bind_outline (map_openCapture?_outline h _) rest
      · rfl
    case h_2 => exact readFlags?_outline h _
    case h_3 =>
      rw [Option.map_eq_bind, Option.map_eq_bind]
      exact map_bind_outline (map_openCapture?_outline h none) cs

/-- **Two readers with the same outline take the same step**, which leaves them so. -/
theorem step?_outline (h : r.outline = s.outline) (c : Char) (cs : List Char) :
    (r.step? c cs).map (Prod.map outline id) = (s.step? c cs).map (Prod.map outline id) := by
  have hflags := flags_of_outline h
  have hverbose := Flags.has_eq hflags (f := .verbose) (by decide)
  -- leaves with the same outline
  have hleaf : ∀ {x y : Option Node}, x.map Node.outline = y.map Node.outline →
      ∀ rest : List Char,
      (x.bind fun n => some (r.pushNode n, rest)).map (Prod.map outline id) =
        (y.bind fun n => some (s.pushNode n, rest)).map (Prod.map outline id) := by
    intro x y hxy rest
    cases x with
    | none =>
        cases y with
        | none => rfl
        | some m => cases hxy
    | some n =>
        cases y with
        | none => cases hxy
        | some m =>
            refine congrArg (fun r => some (r, rest)) (push_outline h ?_)
            exact congrArg (Piece.mk · 0 true) (Option.some.inj hxy)
  have hrepeat : ∀ (min : Nat) (max : Option Nat) (mark : Bool) (rest : List Char),
      ((r.repeatLast? min max mark).bind fun r => some (r, rest)).map (Prod.map outline id) =
        ((s.repeatLast? min max mark).bind fun r => some (r, rest)).map (Prod.map outline id) :=
    fun min max mark rest => map_bind_outline (map_repeatLast?_outline h min max mark) rest
  simp only [step?, Option.bind_eq_bind]
  split
  case h_1 =>
    rw [readOpening?_eq, readOpening?_eq, isVerbose_of_outline h]
    exact opened?_outline h _
  case h_2 =>
    have hclose : r.closeGroup?.map outline = s.closeGroup?.map outline := by
      rw [outline_closeGroup?, outline_closeGroup?, h]
    have hmap : ∀ x : Option Reader, x.map (·, cs) = x.bind fun r => some (r, cs) :=
      fun x => Option.map_eq_bind
    rw [hmap, hmap]
    exact map_bind_outline hclose cs
  case h_3 =>
    refine congrArg (fun r => some (r, cs)) ?_
    show r.branch.outline = s.branch.outline
    rw [outline_branch, outline_branch, h]
  case h_4 =>
    rw [Option.map_map, Option.map_map, Option.map_eq_bind, Option.map_eq_bind]
    refine bind_eq_bind_of_map (Class.read?_outline hflags cs) fun part part' rest hpart => ?_
    refine congrArg (fun r => some (r, rest)) (push_outline h ?_)
    exact congrArg (Piece.mk (.set .empty) · true) hpart
  case h_5 | h_6 | h_7 => exact hrepeat _ _ _ _
  case h_8 =>
    rw [hverbose, Option.map_bind, Option.map_bind]
    refine Option.bind_congr fun x _ => ?_
    exact hrepeat _ _ _ _
  case h_9 =>
    rw [Flags.dotNode?_eq hflags]
    have hdot := hleaf (x := s.flags.dotNode?) rfl cs
    simpa only [Option.map_eq_bind, Function.comp_def] using hdot
  case h_10 =>
    rw [Flags.startNode_eq hflags]
    exact hleaf (x := some s.flags.startNode) rfl cs
  case h_11 =>
    rw [Flags.endNode_eq hflags]
    exact hleaf (x := some s.flags.endNode) rfl cs
  case h_12 =>
    rw [Option.map_bind, Option.map_bind]
    refine bind_eq_bind_of_map (Escaped.read?_outline hflags cs) fun e e' rest he => ?_
    exact hleaf (Escaped.map_node?_outline hflags he) rest
  case h_13 =>
    refine hleaf (x := some (r.flags.charNode c)) (y := some (s.flags.charNode c)) ?_ cs
    rw [Option.map_some, Option.map_some, Node.outline_charNode, Node.outline_charNode]

theorem parens_outline {r' s' : Reader} (h : r.outline = s.outline) (h' : r'.outline = s'.outline)
    (text : List Char) : r.parens r' text = s.parens s' text := by
  have hcount : ∀ {r s : Reader}, r.outline = s.outline → r.captures = s.captures := fun h =>
    show Reader.captures (outline _) = Reader.captures (outline _) from congrArg _ h
  have hplain : ∀ gs : List OpenGroup,
      gs.all OpenGroup.isPlain = (gs.map OpenGroup.outline).all OpenGroup.isPlain := fun gs => by
    rw [List.all_map]
    rfl
  have hgroups : r.groups.map OpenGroup.outline = s.groups.map OpenGroup.outline :=
    congrArg Reader.groups h
  rw [parens, parens, hcount h, hcount h', hplain r.groups, hplain s.groups, hgroups]

/-- **Two readers with the same outline take the same run.** -/
theorem Reads.outline {n : Nat} {r' : Reader} {text left : List Char} {ps : List Paren}
    (hrun : Reads n r text ps r' left) (h : r.outline = s.outline) :
    ∃ s', Reads n s text ps s' left ∧ r'.outline = s'.outline := by
  induction hrun generalizing s with
  | done r text => exact ⟨s, .done s text, h⟩
  | @step n r r₁ r' text cs rest left c ps hskip hstep _ ih =>
      have hsame := step?_outline h c cs
      rw [hstep] at hsame
      obtain ⟨⟨s₁, rest'⟩, hstep', heq⟩ := Option.map_eq_some_iff.1 hsame.symm
      obtain ⟨h₁, hrest⟩ := Prod.mk.inj heq
      obtain rfl : rest' = rest := hrest
      obtain ⟨s', hrun, h'⟩ := ih h₁.symm
      rw [isVerbose_of_outline h] at hskip
      rw [parens_outline h h₁.symm]
      exact ⟨s', .step hskip hstep' hrun, h'⟩

end Reader

/-- **Where case does not matter** an expression has the outline that it has where it does. -/
theorem Node.outline_ofText?_caseless {text : List Char} {k : Nat} {ps : List Paren} {r : Reader}
    (hk : k ≤ text.length)
    (hrun : Reader.Reads k { pieces := [⟨.empty, 0, false⟩] } text ps r []) {n : Node}
    (hn : Node.ofText? ('(' :: '?' :: 'i' :: ')' :: text) = some n) :
    n.outline = r.current.node.outline := by
  obtain ⟨r', ps', hr', -, -, rfl⟩ := Node.ofText?_eq_some.1 hn
  have hset : ({} : Reader).step? '(' ('?' :: 'i' :: ')' :: text) =
      some ({ flags := .caseless, pieces := [⟨.empty, 0, false⟩] }, text) := rfl
  obtain ⟨s, hrun', hsame⟩ :=
    hrun.outline (s := { flags := .caseless, pieces := [⟨.empty, 0, false⟩] }) rfl
  have hs : Reader.ofText? ('(' :: '?' :: 'i' :: ')' :: text) = some (s, [] ++ ps) :=
    Reader.trace?_eq_some.2 ⟨1 + k, by simp only [List.length_cons]; omega, [],
      (Reader.Reads.single rfl hset rfl).trans hrun', by simp⟩
  obtain rfl : r' = s := congrArg Prod.fst (Option.some.inj (hr'.symm.trans hs))
  have hcurrent : r.current.outline = r'.current.outline := by
    rw [Reader.outline_current, Reader.outline_current, hsame]
  exact (congrArg Piece.node hcurrent).symm

end Signpost.Regex
