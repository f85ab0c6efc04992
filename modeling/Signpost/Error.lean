import Signpost.Regex

/-!
# Errors

What can go wrong while routes are compiled, matched and dispatched, by its cause.  The wording
of every error stands in `Error.message?`.  A request that no route answers is no error.
-/

namespace Signpost

/-- What is wrong with a pattern. -/
inductive PatternFault where
  | unclosedOptional
  | emptyOptional
  | unopenedOptional
  | unclosedVariable
  | unopenedVariable
  | badName
  | repeatedName
  | emptyConstraint
  | namedGroup
  | relativePath
  deriving DecidableEq, Repr

def PatternFault.message : PatternFault → String
  | .unclosedOptional => "unclosed optional segment"
  | .emptyOptional    => "empty optional segment"
  | .unopenedOptional => "unbalanced `]`"
  | .unclosedVariable => "unclosed variable"
  | .unopenedVariable => "unbalanced `\x7d`"
  | .badName          => "invalid variable name"
  | .repeatedName     => "duplicate variable name"
  | .emptyConstraint  => "empty constraint"
  | .namedGroup       => "named groups are not allowed inside constraints"
  | .relativePath     => "path must start with `/`"

/-- Why a URL cannot be written. -/
inductive UrlFault where
  | unknownRoute (name : String)
  | missing (name route : String)
  | mismatch (name value constraint : String)
  deriving DecidableEq, Repr

def UrlFault.message : UrlFault → String
  | .unknownRoute name => s!"no route named `{name}`"
  | .missing name route => s!"missing parameter `{name}` for {route}"
  | .mismatch name value constraint =>
    s!"parameter `{name}` = `{value}` does not match `{constraint}`"

/-- How the tables of a compiled matcher contradict each other. -/
inductive MatcherFault where
  | unknownRoute (id : Nat)
  | emptyAlternative
  | coverage (covered alternatives : Nat)
  deriving DecidableEq, Repr

def MatcherFault.message : MatcherFault → String
  | .unknownRoute id    => s!"unknown route id {id}"
  | .emptyAlternative   => "alternative without routes"
  | .coverage covered n => s!"regexes cover {covered} of {n} alternatives"

inductive Error where
  /-- A pattern is malformed from `fragment` on, or in it. -/
  | pattern (source fragment : String) (fault : PatternFault)
  /-- The constraint of a variable is not a regular expression. -/
  | constraint (pattern name : String)
  | duplicateRoute (first second : String)
  | duplicateName (name : String)
  | noMethods (route : String)
  | url (fault : UrlFault)
  | unresolvedMiddleware (name : String)
  | unresolvedHandler (name : String)
  /-- There is no file, or no directory to put it into. -/
  | noFile
  /-- A stored matcher cannot be read. -/
  | badFormat
  | badMatcher (fault : MatcherFault)
  | regex (fault : Regex.Fault)
  /-- A handler or a middleware failed. -/
  | handler (message : String)
  /-- The tables of a compiled matcher point past their end. -/
  | outOfRange
  deriving DecidableEq, Repr

/-- The text of an error, for those that have one of their own. -/
def Error.message? : Error → Option String
  | .pattern source fragment fault =>
    some s!"invalid route pattern `{source}` at `{fragment}`: {fault.message}"
  | .duplicateRoute first second => some s!"route {second} duplicates route {first}"
  | .duplicateName name          => some s!"route name `{name}` is registered more than once"
  | .noMethods route             => some s!"route `{route}` has no methods"
  | .url fault                   => some s!"cannot generate url: {fault.message}"
  | .unresolvedMiddleware name   => some s!"middleware `{name}` cannot be resolved"
  | .unresolvedHandler name      => some s!"handler `{name}` cannot be resolved"
  | .badMatcher fault            => some s!"invalid compiled matcher: {fault.message}"
  | .handler message             => some message
  | .constraint .. | .noFile | .badFormat | .regex _ | .outOfRange => none

end Signpost
