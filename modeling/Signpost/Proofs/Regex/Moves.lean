import Signpost.Proofs.Regex.Reading

/-!
# Regex — what a step does to a reader

A step reads a piece of the text and does one of a few things to the reader (`Reader.Move`).  Which
one it is depends on the text and on the flags alone, so the same text does the same thing to
every reader with these flags.

* `Reader.exists_move`: every step is a move.
-/

namespace Signpost.Regex

namespace Node

/-- Whether the node is a character, a set of characters or a condition. -/
def IsLeaf : Node → Prop
  | .char _ | .set _ | .look _ => True
  | _                          => False

theorem isLeaf_charNode (fs : Flags) (c : Char) : (fs.charNode c).IsLeaf := by
  unfold Flags.charNode
  generalize (if fs.has .unicode then Unicode.caseOrbits else Unicode.latinOrbits) = orbits
  simp only
  split <;> trivial

theorem isLeaf_of_dotNode? {fs : Flags} {n : Node} (h : fs.dotNode? = some n) : n.IsLeaf := by
  unfold Flags.dotNode? at h
  repeat' split at h
  all_goals cases h <;> trivial

theorem isLeaf_of_node? {fs : Flags} {e : Escaped} {n : Node} (h : e.node? fs = some n) :
    n.IsLeaf := by
  unfold Escaped.node? at h
  split at h
  · cases h; exact isLeaf_charNode ..
  · split at h
    · cases h; exact isLeaf_charNode ..
    · cases h
  · cases h; trivial
  · cases h; trivial

end Node

namespace Reader

/-- What a step does to a reader. -/
inductive Move where
  /-- Opens a group that does not capture, in which flags hold. -/
  | plain (flags : Flags)
  | capture (name : Option String)
  /-- Sets flags for the rest of the group. -/
  | set (flags : Flags)
  | close
  | bar
  /-- Repeats the last piece. -/
  | again (min : Nat) (max : Option Nat) (lazyMark : Bool)
  | leaf (node : Node) (isLeaf : node.IsLeaf) (depth : Nat)

def Move.act? : Move → Reader → Option Reader
  | .plain flags, r         => some (r.openGroup .plain flags)
  | .capture name, r        => r.openCapture? name
  | .set flags, r           => some ({ r with flags := flags }.push ⟨.empty, 0, false⟩)
  | .close, r               => r.closeGroup?
  | .bar, r                 => some r.branch
  | .again min max mark, r  => r.repeatLast? min max mark
  | .leaf n _ depth, r      => some (r.push ⟨n, depth, true⟩)

theorem exists_move_of_readFlags? {r r' : Reader} {cs rest : List Char}
    (h : r.readFlags? cs = some (r', rest)) :
    ∃ m : Move, m.act? r = some r' ∧ ∀ s s' : Reader, s.flags = r.flags →
      m.act? s = some s' → s.readFlags? cs = some (s', rest) := by
  simp only [readFlags?, Option.bind_eq_bind, Option.bind_eq_some_iff] at h
  obtain ⟨settings, hsettings, h⟩ := h
  simp only [readFlags?, hsettings, Option.bind_eq_bind, Option.bind_some]
  generalize cs.dropWhile (fun c => !(c = ':' || c = ')')) = ds at h ⊢
  split at h
  case h_1 rest₀ =>
      cases h
      refine ⟨.plain (r.flags.switchAll settings), rfl, fun s s' hflags hs => ?_⟩
      cases hs
      rw [hflags]
      rfl
  case h_2 rest₀ =>
      split at h
      · cases h
      · cases h
        refine ⟨.set (r.flags.switchAll settings), rfl, fun s s' hflags hs => ?_⟩
        cases hs
        simp only [if_neg ‹_›]
        rw [hflags]
        rfl
  case h_3 => cases h

theorem exists_move_of_opened? {r r' : Reader} {cs rest : List Char}
    (h : r.opened? cs = some (r', rest)) :
    ∃ m : Move, m.act? r = some r' ∧ ∀ s s' : Reader, s.flags = r.flags →
      m.act? s = some s' → s.opened? cs = some (s', rest) := by
  simp only [opened?] at h ⊢
  split at h
  · cases h
  simp only [if_neg ‹_›]
  split at h
  case h_1 _ _ ds _ =>
      simp only [Option.bind_eq_bind, Option.bind_eq_some_iff] at h ⊢
      obtain ⟨rest₀, hrest, h⟩ := h
      split at h
      · simp only [Option.bind_eq_some_iff, pure, Option.some.injEq, Prod.mk.injEq] at h
        obtain ⟨r₁, hr₁, rfl, rfl⟩ := h
        refine ⟨.capture (String.ofList (ds.takeWhile (· != '>'))), hr₁, fun s s' _ hs => ?_⟩
        have hs : s.openCapture? (String.ofList (ds.takeWhile (· != '>'))) = some s' := hs
        exact ⟨rest₀, hrest, by simp [*]⟩
      · cases h
  case h_2 => exact exists_move_of_readFlags? h
  case h_3 =>
      obtain ⟨r₁, hr₁, heq⟩ := Option.map_eq_some_iff.1 h
      cases heq
      refine ⟨.capture none, hr₁, fun s s' _ hs => ?_⟩
      have hs : s.openCapture? none = some s' := hs
      simp [hs]

/-- **Every step is a move**, and it is the same move for every reader with the same flags. -/
theorem exists_move {r r' : Reader} {c : Char} {cs rest : List Char}
    (h : r.step? c cs = some (r', rest)) :
    ∃ m : Move, m.act? r = some r' ∧ ∀ s s' : Reader, s.flags = r.flags →
      m.act? s = some s' → s.step? c cs = some (s', rest) := by
  -- what is read as a leaf is pushed, whatever else the reader has
  have leaf : ∀ n : Node, n.IsLeaf → (∀ s : Reader, s.flags = r.flags →
        s.step? c cs = some (s.pushNode n, rest)) →
      ∃ m : Move, m.act? r = some r' ∧ ∀ s s' : Reader, s.flags = r.flags →
        m.act? s = some s' → s.step? c cs = some (s', rest) := by
    intro n hn hs
    rw [hs r rfl] at h
    cases h
    refine ⟨.leaf n hn 0, rfl, fun s s' hflags hs' => ?_⟩
    cases hs'
    exact hs s hflags
  -- one case for each special character, in the order of the reader, and one for all others
  simp only [step?, Option.bind_eq_bind, pure] at h leaf ⊢
  split at h
  case h_1 =>
      rw [readOpening?_eq] at h
      obtain ⟨m, hm, hs⟩ := exists_move_of_opened? h
      refine ⟨m, hm, fun s s' hflags hs' => ?_⟩
      have hverbose : s.isVerbose = r.isVerbose := congrArg (·.has .verbose) hflags
      simp only [readOpening?_eq, hverbose]
      exact hs s s' hflags hs'
  case h_2 =>
      obtain ⟨r₁, hr₁, heq⟩ := Option.map_eq_some_iff.1 h
      cases heq
      refine ⟨.close, hr₁, fun s s' _ hs => ?_⟩
      have hs : s.closeGroup? = some s' := hs
      simp [hs]
  case h_3 =>
      cases h
      refine ⟨.bar, rfl, fun s s' _ hs => ?_⟩
      cases hs
      rfl
  case h_4 =>
      obtain ⟨⟨p, rest₀⟩, hp, heq⟩ := Option.map_eq_some_iff.1 h
      cases heq
      refine ⟨.leaf (.set p.set) trivial p.depth, rfl, fun s s' hflags hs => ?_⟩
      cases hs
      simp [hflags, hp]
  case h_5 | h_6 | h_7 =>
      obtain ⟨r₁, hr₁, heq⟩ := Option.bind_eq_some_iff.1 h
      cases heq
      refine ⟨.again _ _ _, hr₁, fun s s' _ hs => ?_⟩
      have hs : s.repeatLast? _ _ _ = some s' := hs
      simp [hs]
  case h_8 =>
      obtain ⟨⟨⟨min, max⟩, rest₀⟩, hbounds, h⟩ := Option.bind_eq_some_iff.1 h
      obtain ⟨r₁, hr₁, heq⟩ := Option.bind_eq_some_iff.1 h
      cases heq
      refine ⟨.again _ _ _, hr₁, fun s s' hflags hs => ?_⟩
      have hs : s.repeatLast? _ _ _ = some s' := hs
      simp [hflags, hbounds, hs]
  case h_9 =>
      obtain ⟨n, hn, heq⟩ := Option.map_eq_some_iff.1 h
      cases heq
      exact leaf n (Node.isLeaf_of_dotNode? hn) fun s hflags => by simp [hflags, hn]
  case h_10 =>
      cases h
      exact leaf r.flags.startNode trivial fun s hflags => by simp [hflags]
  case h_11 =>
      cases h
      exact leaf r.flags.endNode trivial fun s hflags => by simp [hflags]
  case h_12 =>
      obtain ⟨⟨e, rest₀⟩, he, h⟩ := Option.bind_eq_some_iff.1 h
      obtain ⟨n, hn, heq⟩ := Option.bind_eq_some_iff.1 h
      cases heq
      exact leaf n (Node.isLeaf_of_node? hn) fun s hflags => by simp [hflags, he, hn]
  case h_13 =>
      cases h
      refine ⟨.leaf (r.flags.charNode c) (Node.isLeaf_charNode ..) 0, rfl, fun s s' hflags hs => ?_⟩
      cases hs
      rw [← hflags]
      rfl

end Reader

end Signpost.Regex
