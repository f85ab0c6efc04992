import Signpost.Marks
import Signpost.Regex.Node
import Signpost.Unicode.Word

/-!
# Regex — Matching

Leftmost-first matching.  A state is a position in the text and the spans captured on the way
there.  A node maps a list of states, the preferred one first, to the states in which it can end,
again in order of preference (`Node.advance`); of two states at one position only the preferred
one is kept, for what follows depends on the position alone.

The alternatives of a node come in the order in which they are written, a greedy repetition
prefers more copies and a lazy one fewer.  A repetition begins a copy of its body at most once at
each position, so that it is finite and does not take the same way twice.
-/

namespace Signpost.Regex

/-- A span of the text: from its first position up to the one after its last. -/
structure Span where
  start : Nat
  stop  : Nat
  deriving DecidableEq, Repr

/-- A position in the text and the spans of the groups so far, the latest first. -/
structure State where
  pos   : Nat
  spans : List (Nat × Span) := []
  deriving DecidableEq, Repr

namespace State

/-- Records the text between `start` and here as the span of group `index`. -/
def capture (index start : Nat) (s : State) : State :=
  { s with spans := (index, ⟨start, s.pos⟩) :: s.spans }

/-- The first state at each position that is not marked. -/
def firstUnmarked (seen : Marks) : List State → List State
  | []      => []
  | s :: ss =>
    if seen.contains s.pos then firstUnmarked seen ss
    else s :: firstUnmarked (seen.insert s.pos) ss

/-- The first state at each position. -/
def firstAtEach (ss : List State) : List State := firstUnmarked .empty ss

/-- The outcomes of `f` from each of the states in turn, the first at each position. -/
def forEach (f : State → List State) : List State → List State
  | [s] => f s
  | ss  => firstAtEach (ss.flatMap f)

end State

open State (firstAtEach forEach)

/-- Whether `c`, if there is one, is a character of words. -/
def isWordAt (unicode : Bool) (c : Option Char) : Bool :=
  c.any (if unicode then Unicode.word else Unicode.Ascii.word).contains

/-- Whether the condition holds between the characters `before` and `after`. -/
def Look.holdsBetween (before after : Option Char) : Look → Bool
  | .textStart       => before.isNone
  | .textEnd         => after.isNone
  | .lineStart false => before.all (· = '\n')
  | .lineStart true  => before.all (· = '\n') || (before = some '\r' && after != some '\n')
  | .lineEnd false   => after.all (· = '\n')
  | .lineEnd true    => after.all (· = '\r') || (after = some '\n' && before != some '\r')
  | .word side unicode =>
    let wordBefore := isWordAt unicode before
    let wordAfter  := isWordAt unicode after
    match side with
    | .both       => wordBefore != wordAfter
    | .neither    => wordBefore == wordAfter
    | .start      => !wordBefore && wordAfter
    | .ending     => wordBefore && !wordAfter
    | .startHalf  => !wordBefore
    | .endingHalf => !wordAfter

/-- Whether the condition holds at a position of the text. -/
def Look.holdsAt (text : Array Char) (l : Look) (pos : Nat) : Bool :=
  l.holdsBetween (if pos = 0 then none else text[pos - 1]?) text[pos]?

/-! ### Repetition -/

/-- Exactly `count` steps. -/
def exactly (step : State → List State) : Nat → List State → List State
  | _, []         => []
  | 0, ss         => ss
  | count + 1, ss => exactly step count (forEach step ss)

/-- What a walk through the copies of a body has come by: the states in which it can end, the
latest first, and the copies that it has begun. -/
structure Walk where
  reached : List State := []
  begun   : Marks := .empty
  deriving Repr

namespace Walk

/-- Ends the walk in a state, before or after all that `goOn` reaches from there. -/
def endAround (greedy : Bool) (s : State) (goOn : Walk → Walk) (w : Walk) : Walk :=
  if greedy then
    let w := goOn w
    { w with reached := s :: w.reached }
  else goOn { w with reached := s :: w.reached }

/-- Walks on from a state through up to `count` copies in a text of `size` characters.  A copy that
has been begun before leads nowhere else. -/
def upTo (size : Nat) (step : State → List State) (greedy : Bool) :
    (count : Nat) → Walk → State → Walk
  | 0, w, s         => { w with reached := s :: w.reached }
  | count + 1, w, s =>
    let copy := count * (size + 1) + s.pos
    if w.begun.contains copy then w
    else endAround greedy s (fun w => (step s).foldl (upTo size step greedy count) w)
      { w with begun := w.begun.insert copy }

/-- Walks on from a state after a copy, through any number of further copies; the first one began at
`start`.  `room` is the number of positions that are left. -/
def onward (step : State → List State) (greedy : Bool) (start : Nat) :
    (room : Nat) → Walk → State → Walk
  | 0, w, _        => w
  | room + 1, w, s =>
    if w.begun.contains s.pos then w
    else endAround greedy s (fun w =>
      if s.pos = start then w else (step s).foldl (onward step greedy start room) w)
      { w with begun := w.begun.insert s.pos }

/-- The states in which the walk can end, the preferred one first. -/
def outcomes (w : Walk) : List State := w.reached.reverse

end Walk

/-- At most `count` steps. -/
def atMost (size : Nat) (step : State → List State) (greedy : Bool) (count : Nat) (s : State) :
    List State :=
  firstAtEach (Walk.upTo size step greedy count {} s).outcomes

/-- One or more steps.  After a step that does not move forward,
there is no point in another one. -/
def oneOrMore (size : Nat) (step : State → List State) (greedy : Bool) (s : State) : List State :=
  ((step s).foldl (Walk.onward step greedy s.pos (size - s.pos + 1)) {}).outcomes

/-- Any number of steps. -/
def zeroOrMore (size : Nat) (step : State → List State) (greedy : Bool) (s : State) : List State :=
  let more := oneOrMore size step greedy s
  if greedy then if more.any (·.pos = s.pos) then more else more ++ [s]
  else s :: more.filter (·.pos ≠ s.pos)

/-- Between `min` and `max` steps in a text of `size` characters. -/
def repeatStep (size : Nat) (step : State → List State) (min : Nat) (max : Option Nat)
    (greedy : Bool) (s : State) : List State :=
  match min, max with
  | min, some max  => forEach (atMost size step greedy (max - min)) (exactly step min [s])
  | 0, none        => zeroOrMore size step greedy s
  | min + 1, none  => forEach (oneOrMore size step greedy) (exactly step min [s])

/-! ### Nodes -/

/-- The state after one character that satisfies `p`. -/
def State.consume? (text : Array Char) (p : Char → Bool) (s : State) : Option State :=
  if text[s.pos]?.any p then some { s with pos := s.pos + 1 } else none

/-- The states in which the node can end from the given ones, preferred first. -/
def Node.advance (text : Array Char) : Node → List State → List State
  | _, []       => []
  | .empty, ss  => ss
  | .char c, ss => ss.filterMap (State.consume? text (· == c))
  | .set cs, ss => ss.filterMap (State.consume? text cs.contains)
  | .look l, ss => ss.filter fun s => l.holdsAt text s.pos
  | .group index _ n, ss =>
    forEach (fun s => (n.advance text [s]).map (State.capture index s.pos)) ss
  | .cat a b, ss => b.advance text (a.advance text ss)
  | .alt a b, ss =>
    forEach (fun s => firstAtEach (a.advance text [s] ++ b.advance text [s])) ss
  | .repetition n min max greedy, ss =>
    forEach (repeatStep text.size (fun s => n.advance text [s]) min max greedy) ss

/-- The preferred way to match at `start`, the whole match as group 0. -/
def Node.matchAt? (text : Array Char) (n : Node) (start : Nat) : Option State :=
  (n.advance text [⟨start, []⟩]).head?.map (State.capture 0 start)

/-- The leftmost match. -/
def Node.search? (text : Array Char) (n : Node) : Option State :=
  if n.isAnchored then n.matchAt? text 0
  else (List.range (text.size + 1)).findSome? (n.matchAt? text)

end Signpost.Regex
