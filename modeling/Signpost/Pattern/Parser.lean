import Signpost.Error
import Signpost.Pattern.Token

/-!
# Patterns — Reading

The text of a pattern.  A variable stands in braces as `{name}`, `{name:constraint}`,
`{name=default}` or `{name:constraint=default}`; an optional segment stands in brackets.  Inside
the braces further braces must balance, and a backslash takes the character after it out of the
count.  A default in angle brackets is what stands between them.

The reader takes one character at a time.  Its state (`PatternReader`) holds the optional segments
that are still open, each with what came before it and with the text that opened it.
-/

namespace Signpost

/-! ### Names, constraints and defaults -/

/-- A letter or underscore, then letters, digits and underscores, all of them ASCII. -/
def isIdentifier : List Char → Bool
  | []      => false
  | c :: cs => (c.isAlpha || c = '_') && cs.all fun c => c.isAlphanum || c = '_'

/-- Splits a constraint from the default after it, at the first equals sign that is neither in
brackets of any kind nor after a backslash. -/
def splitDefault : (depth : Nat) → List Char → List Char × Option (List Char)
  | _, []                  => ([], none)
  | depth, '\\' :: c :: cs =>
    let (constraint, default) := splitDefault depth cs
    ('\\' :: c :: constraint, default)
  | depth, c :: cs         =>
    if c = '=' ∧ depth = 0 then ([], some cs)
    else
      let depth :=
        if c = '(' ∨ c = '[' ∨ c = '{' then depth + 1
        else if c = ')' ∨ c = ']' ∨ c = '}' then depth - 1
        else depth
      let (constraint, default) := splitDefault depth cs
      (c :: constraint, default)

/-- The text between angle brackets, or all of it. -/
def unquoteDefault (text : List Char) : List Char :=
  match text with
  | '<' :: rest => if rest.getLast? = some '>' then rest.dropLast else text
  | _           => text

/-- Reads what stands between the braces of a variable. -/
def Token.ofBody (seen : List String) (body : List Char) : Except PatternFault Token := do
  let name := String.ofList (body.takeWhile fun c => c != ':' && c != '=')
  if !isIdentifier name.toList then throw .badName
  if seen.contains name then throw .repeatedName
  let text (default : Option (List Char)) := default.map fun d => String.ofList (unquoteDefault d)
  match body.dropWhile fun c => c != ':' && c != '=' with
  | ':' :: rest =>
    let (constraint, default) := splitDefault 0 rest
    if constraint.isEmpty then throw .emptyConstraint
    return .var name (String.ofList constraint) (text default)
  | '=' :: rest => return .var name none (text rest)
  | _           => return .var name none none

/-! ### The reader -/

/-- An optional segment that is still open: the tokens before it, the latest first, and the text
from its bracket on. -/
structure OpenOptional where
  before : List Token
  start  : List Char

/-- A variable that is still open: the text from its brace on, what has been read of its body, the
latest first, the braces open in it, and whether the last character was a backslash that
takes the next one out of the count. -/
structure OpenVariable where
  start   : List Char
  body    : List Char := []
  depth   : Nat := 0
  escaped : Bool := false

structure PatternReader where
  open?    : Option OpenVariable := none
  optional : List OpenOptional := []
  tokens   : List Token := []
  literal  : List Char := []
  seen     : List String := []

namespace PatternReader

/-- The tokens so far, the latest first, with the literal text after them. -/
def flushed (r : PatternReader) : List Token :=
  if r.literal.isEmpty then r.tokens else .text (String.ofList r.literal.reverse) :: r.tokens

/-- Closes a variable with the given body. -/
def closeVariable (r : PatternReader) (body : List Char) : Except PatternFault PatternReader := do
  let token ← Token.ofBody r.seen body
  let names := (token.vars 0).map Variable.name
  return { r with open? := none, tokens := token :: r.tokens, seen := names ++ r.seen }

/-- Takes a character inside the braces of a variable. -/
def stepInside (fault : List Char → PatternFault → Error) (r : PatternReader) (v : OpenVariable)
    (c : Char) : Except Error PatternReader :=
  let goOn (v : OpenVariable) := .ok { r with open? := some { v with body := c :: v.body } }
  if v.escaped then goOn { v with escaped := false }
  else match c, v.depth with
    | '\\', _        => goOn { v with escaped := true }
    | '{', depth     => goOn { v with depth := depth + 1 }
    | '}', 0         =>
      (r.closeVariable v.body.reverse).mapError (fault ('{' :: v.body.reverse ++ ['}']))
    | '}', depth + 1 => goOn { v with depth := depth }
    | _, _           => goOn v

/-- Takes a character outside of variables, given the text from it on. -/
def stepOutside (fault : List Char → PatternFault → Error) (r : PatternReader) (c : Char)
    (text : List Char) : Except Error PatternReader :=
  match c with
  | '{' => .ok { r with open? := some { start := text }, tokens := r.flushed, literal := [] }
  | '[' =>
    .ok { r with optional := ⟨r.flushed, text⟩ :: r.optional, tokens := [], literal := [] }
  | ']' =>
    match r.optional with
    | []      => .error (fault text .unopenedOptional)
    | o :: os =>
      if r.flushed.isEmpty then .error (fault o.start .emptyOptional)
      else .ok { r with
        optional := os, tokens := .optional r.flushed.reverse :: o.before, literal := [] }
  | '}' => .error (fault text .unopenedVariable)
  | c   => .ok { r with literal := c :: r.literal }

/-- Ends the text. -/
def finish (fault : List Char → PatternFault → Error) (r : PatternReader) :
    Except Error (List Token) :=
  match r.open?, r.optional with
  | some v, _    => .error (fault v.start .unclosedVariable)
  | none, o :: _ => .error (fault o.start .unclosedOptional)
  | none, []     => .ok r.flushed.reverse

/-- Reads to the end of the text. -/
def run (fault : List Char → PatternFault → Error) : PatternReader → List Char →
    Except Error (List Token)
  | r, []      => r.finish fault
  | r, c :: cs => do
    let r ← match r.open? with
      | some v => r.stepInside fault v c
      | none   => r.stepOutside fault c (c :: cs)
    run fault r cs

end PatternReader

/-- Reads the text of a pattern. -/
def Pattern.parse (source : String) : Except Error Pattern := do
  let fault (fragment : List Char) := Error.pattern source (String.ofList fragment)
  return ⟨source, ← PatternReader.run fault {} source.toList⟩

end Signpost
