import Signpost.Regex.Class

/-!
# Regex — Reading

Reads the text of a regular expression into a node.  The reader goes from left to right; what it
has read of the groups that are still open is a stack (`Reader`), and each step reads one piece:
a character, a class, a repetition, a bar or one end of a group.

A group saves the flags on its opening and gives them back on its closing.  Capturing groups are
numbered by their opening parentheses.  An expression may be nested at most `maxDepth` deep, where
each group, repetition, class, sequence and choice is one level (`Piece.depth`).
-/

namespace Signpost.Regex

/-- The deepest nesting of an expression. -/
def maxDepth : Nat := 250

/-- A part of a sequence that has been read. -/
structure Piece where
  node         : Node
  depth        : Nat
  /-- Whether a repetition may follow: not after a setting of flags. -/
  isRepeatable : Bool := true
  deriving Repr, Inhabited

namespace Piece

private def deepest (ps : List Piece) : Nat := ps.foldl (fun n p => Nat.max n p.depth) 0

/-- The pieces, the last one first, as one. -/
private def join (combine : List Node → Node) : List Piece → Piece
  | [p] => p
  | ps  => ⟨combine (ps.reverse.map Piece.node), if ps.isEmpty then 0 else deepest ps + 1, true⟩

def sequence (ps : List Piece) : Piece := join Node.sequence ps

def choice (ps : List Piece) : Piece := join Node.choice ps

theorem node_sequence (ps : List Piece) :
    (sequence ps).node = Node.sequence (ps.reverse.map Piece.node) := by
  match ps with
  | [] | [_] | _ :: _ :: _ => rfl

theorem node_choice (ps : List Piece) :
    (choice ps).node = Node.choice (ps.reverse.map Piece.node) := by
  match ps with
  | [] | [_] | _ :: _ :: _ => rfl

/-- The piece with another node. -/
def mapNode (g : Node → Node) (p : Piece) : Piece := { p with node := g p.node }

private theorem join_mapNode {combine : List Node → Node} {g : Node → Node}
    (hg : ∀ ns, combine (ns.map g) = g (combine ns)) (ps : List Piece) :
    join combine (ps.map (mapNode g)) = (join combine ps).mapNode g := by
  have hdepth : ∀ (n : Nat) (qs : List Piece),
      (qs.map (mapNode g)).foldl (fun n p => Nat.max n p.depth) n =
        qs.foldl (fun n p => Nat.max n p.depth) n := fun n qs => List.foldl_map
  have hnode : ∀ qs : List Piece, combine ((qs.map (mapNode g)).reverse.map node) =
      g (combine (qs.reverse.map node)) := by
    intro qs
    rw [← hg, ← List.map_reverse, List.map_map, List.map_map]
    rfl
  match ps with
  | []           => exact congrArg (fun n => Piece.mk n 0 true) (hnode [])
  | [_]          => rfl
  | p :: q :: ps =>
    have hn := hnode (p :: q :: ps)
    have hd := hdepth 0 (p :: q :: ps)
    exact (congrArg (fun n => Piece.mk n _ true) hn).trans
      (congrArg (fun d => Piece.mk _ (d + 1) true) hd)

theorem sequence_mapNode {g : Node → Node}
    (hg : ∀ ns, Node.sequence (ns.map g) = g (Node.sequence ns)) (ps : List Piece) :
    sequence (ps.map (mapNode g)) = (sequence ps).mapNode g :=
  join_mapNode hg ps

theorem choice_mapNode {g : Node → Node}
    (hg : ∀ ns, Node.choice (ns.map g) = g (Node.choice ns)) (ps : List Piece) :
    choice (ps.map (mapNode g)) = (choice ps).mapNode g :=
  join_mapNode hg ps

end Piece

/-- What an opening parenthesis begins. -/
inductive Opening where
  | plain
  | capture (index : Nat) (name : Option String)
  deriving DecidableEq, Repr

/-- A group that is still open: how it began, and what surrounds it. -/
structure OpenGroup where
  opening  : Opening
  flags    : Flags
  branches : List Piece
  pieces   : List Piece
  deriving Repr

/-- What has been read so far.  All lists have their latest element first. -/
structure Reader where
  groups   : List OpenGroup := []
  branches : List Piece := []
  pieces   : List Piece := []
  flags    : Flags := {}
  captures : Nat := 0
  names    : List String := []
  deriving Repr

namespace Reader

def push (r : Reader) (p : Piece) : Reader := { r with pieces := p :: r.pieces }

def pushNode (r : Reader) (n : Node) : Reader := r.push ⟨n, 0, true⟩

/-- Ends an alternative. -/
def branch (r : Reader) : Reader :=
  { r with branches := .sequence r.pieces :: r.branches, pieces := [] }

/-- The current group, or the whole expression, as one piece. -/
def current (r : Reader) : Piece := .choice (r.branch).branches

/-- Opens a group, in which `flags` hold. -/
def openGroup (r : Reader) (opening : Opening) (flags : Flags) : Reader :=
  { r with
    groups := ⟨opening, r.flags, r.branches, r.pieces⟩ :: r.groups
    branches := [], pieces := [], flags := flags }

/-- Closes the innermost group. -/
def closeGroup? (r : Reader) : Option Reader :=
  match r.groups with
  | []      => none
  | g :: gs =>
    let inner := r.current
    let node := match g.opening with
      | .plain              => inner.node
      | .capture index name => .group index name inner.node
    some { r with
      groups := gs, branches := g.branches, flags := g.flags
      pieces := ⟨node, inner.depth + 1, true⟩ :: g.pieces }

/-- Opens a capturing group; a name may be used only once. -/
def openCapture? (r : Reader) (name : Option String) : Option Reader :=
  if name.any r.names.contains then none
  else
    let r := { r with captures := r.captures + 1, names := name.toList ++ r.names }
    some (r.openGroup (.capture r.captures name) r.flags)

/-- Whether a group may be called `name`: letters, digits, underscores, dots and brackets, and
first a letter or an underscore. -/
def isGroupName : List Char → Bool
  | []      => false
  | c :: cs => (c = '_' || Unicode.isAlphabetic c) && cs.all fun c =>
      ['_', '.', '[', ']'].contains c || Unicode.isAlphanumeric c

/-- Settings of flags: letters, which a hyphen turns into their opposites.  Nothing may appear
twice, and a hyphen may not come last. -/
def settings? : (negated : Bool) → (seen : List Flag) → List Char → Option (List (Flag × Bool))
  | negated, _, []          => if negated then none else some []
  | negated, seen, '-' :: cs =>
    if negated || cs.isEmpty then none else settings? true seen cs
  | negated, seen, c :: cs   => do
    let f ← Flag.ofLetter? c
    if seen.contains f then none
    else
      let rest ← if cs.isEmpty then some [] else settings? negated (f :: seen) cs
      return (f, !negated) :: rest

/-- What follows an opening parenthesis and a question mark, when it is not a name: flags for the
rest of the group around it, or a group with flags of its own. -/
def readFlags? (r : Reader) (cs : List Char) : Option (Reader × List Char) := do
  let isEnd (c : Char) := c = ':' || c = ')'
  let settings ← settings? false [] (cs.takeWhile fun c => !isEnd c)
  let flags := r.flags.switchAll settings
  match cs.dropWhile (fun c => !isEnd c) with
  | ':' :: rest => return (r.openGroup .plain flags, rest)
  | ')' :: rest =>
    if settings.isEmpty then none
    else return ({ r with flags := flags }.push ⟨.empty, 0, false⟩, rest)
  | _           => none

/-- What follows an opening parenthesis.  Conditions that look around are refused. -/
def readOpening? (r : Reader) (cs : List Char) : Option (Reader × List Char) :=
  let cs := Scan.skip (r.flags.has .verbose) cs
  let after (word : String) := Scan.after? word.toList cs
  let named (cs : List Char) := do
    let name := cs.takeWhile (· != '>')
    let rest ← Scan.after? ['>'] (cs.dropWhile (· != '>'))
    if isGroupName name then return (← r.openCapture? (String.ofList name), rest) else none
  if ["?=", "?!", "?<=", "?<!"].any fun word => (after word).isSome then none
  else match after "?P<" <|> after "?<", after "?" with
    | some cs, _      => named cs
    | none, some cs   => r.readFlags? cs
    | none, none      => (r.openCapture? none).map (·, cs)

/-- Repeats the last piece. -/
def repeatLast? (r : Reader) (min : Nat) (max : Option Nat) (lazyMark : Bool) : Option Reader :=
  match r.pieces with
  | p :: ps =>
    if p.isRepeatable then
      let greedy := lazyMark == r.flags.has .swapGreed
      some { r with pieces := ⟨p.node.repeated min max greedy, p.depth + 1, true⟩ :: ps }
    else none
  | []      => none

/-- The question mark that makes a repetition lazy, if it follows. -/
def lazyMark : List Char → Bool × List Char
  | '?' :: cs => (true, cs)
  | cs        => (false, cs)

/-- The numbers of copies between braces, after the opening one. -/
def bounds? (verbose : Bool) (cs : List Char) : Option ((Nat × Option Nat) × List Char) :=
  match Scan.decimal verbose (Scan.skip verbose cs) with
  | (some min, '}' :: rest) => some ((min, some min), rest)
  | (some min, ',' :: rest) =>
    match Scan.skip verbose rest with
    | '}' :: rest => some ((min, none), rest)
    | rest =>
      match Scan.decimal verbose rest with
      | (some max, '}' :: rest) => if min ≤ max then some ((min, some max), rest) else none
      | _                       => none
  | _                       => none

/-- Reads one piece, which begins with `c` and goes on in `cs`. -/
def step? (r : Reader) (c : Char) (cs : List Char) : Option (Reader × List Char) :=
  let fs := r.flags
  let simple (min : Nat) (max : Option Nat) := do
    let (lazyMark, rest) := lazyMark cs
    return (← r.repeatLast? min max lazyMark, rest)
  match c with
  | '('  => r.readOpening? cs
  | ')'  => r.closeGroup?.map (·, cs)
  | '|'  => some (r.branch, cs)
  | '['  => (Class.read? fs cs).map fun (p, rest) => (r.push ⟨.set p.set, p.depth, true⟩, rest)
  | '?'  => simple 0 (some 1)
  | '*'  => simple 0 none
  | '+'  => simple 1 none
  | '{'  => do
    let ((min, max), rest) ← bounds? (fs.has .verbose) cs
    let (lazyMark, rest) := lazyMark (Scan.skip (fs.has .verbose) rest)
    return (← r.repeatLast? min max lazyMark, rest)
  | '.'  => fs.dotNode?.map fun n => (r.pushNode n, cs)
  | '^'  => some (r.pushNode fs.startNode, cs)
  | '$'  => some (r.pushNode fs.endNode, cs)
  | '\\' => do
    let (e, rest) ← Escaped.read? fs cs
    return (r.pushNode (← e.node? fs), rest)
  | c    => some (r.pushNode (fs.charNode c), cs)

/-- Reads to the end of the text. -/
def readAll? : Nat → Reader → List Char → Option Reader
  | 0, _, _           => none
  | fuel + 1, r, text =>
    match Scan.skip (r.flags.has .verbose) text with
    | []      => some r
    | c :: cs => do
      let (r, rest) ← r.step? c cs
      readAll? fuel r rest

end Reader

/-- Reads the text of an expression; `none` for a text that is not one. -/
def Node.ofText? (text : List Char) : Option Node := do
  let r ← Reader.readAll? (text.length + 1) {} text
  let whole := r.current
  if r.groups.isEmpty && whole.depth ≤ maxDepth then some whole.node else none

end Signpost.Regex
