import Signpost.Unicode.CaseFold
import Signpost.Unicode.Word
import Signpost.Regex.Node

/-!
# Regex — Flags

The flags that a regular expression can set inside itself, and what reading a character, a dot
or an anchor means under them.
-/

namespace Signpost.Regex

inductive Flag where
  | ignoreCase
  | multiLine
  | dotAll
  | swapGreed
  | unicode
  | crlf
  | verbose
  deriving DecidableEq, Repr

namespace Flag

def letter : Flag → Char
  | .ignoreCase => 'i'
  | .multiLine  => 'm'
  | .dotAll     => 's'
  | .swapGreed  => 'U'
  | .unicode    => 'u'
  | .crlf       => 'R'
  | .verbose    => 'x'

def all : List Flag :=
  [.ignoreCase, .multiLine, .dotAll, .swapGreed, .unicode, .crlf, .verbose]

def ofLetter? (c : Char) : Option Flag := all.find? (·.letter = c)

end Flag

/-- The flags in force at a place of the expression: those that are on. -/
structure Flags where
  on : List Flag := [.unicode]
  deriving DecidableEq, Repr

namespace Flags

def has (fs : Flags) (f : Flag) : Bool := fs.on.contains f

/-- Switches one flag on or off. -/
def switch (fs : Flags) (f : Flag) (value : Bool) : Flags :=
  ⟨if value then f :: fs.on else fs.on.filter (· != f)⟩

/-- Switches flags on and off in turn. -/
def switchAll (fs : Flags) (settings : List (Flag × Bool)) : Flags :=
  settings.foldl (fun fs s => fs.switch s.1 s.2) fs

/-- Folds a set of characters when case does not count. -/
def fold (fs : Flags) (s : CharSet) : CharSet :=
  if fs.has .ignoreCase then s.foldCase (fs.has .unicode) else s

/-- A single character, or the set of its cases when case does not count. -/
def charNode (fs : Flags) (c : Char) : Node :=
  let orbits := if fs.has .unicode then Unicode.caseOrbits else Unicode.latinOrbits
  if fs.has .ignoreCase && orbits.any (·.contains c.toNat) then .set (fs.fold (.singleton c))
  else .char c

/-- What the dot stands for; without the rules of Unicode it could match part of a character, and
is refused. -/
def dotNode? (fs : Flags) : Option Node :=
  if !fs.has .unicode then none
  else if fs.has .dotAll then some (.set (.compl .empty))
  else if fs.has .crlf then some (.set (.compl (.ofList ['\r', '\n'])))
  else some (.set (.compl (.singleton '\n')))

/-- What a caret stands for. -/
def startNode (fs : Flags) : Node :=
  .look (if fs.has .multiLine then .lineStart (fs.has .crlf) else .textStart)

/-- What a dollar sign stands for. -/
def endNode (fs : Flags) : Node :=
  .look (if fs.has .multiLine then .lineEnd (fs.has .crlf) else .textEnd)

end Flags

end Signpost.Regex
