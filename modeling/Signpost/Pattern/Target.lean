/-!
# Patterns — Targets

A target names a path, a host and a path, or a scheme, a host and a path: `/path`, `//host/path`
and `scheme://host/path`.  The host ends at the first slash outside of braces.
-/

namespace Signpost

structure Target where
  scheme : Option String := none
  host   : Option String := none
  path   : String
  deriving DecidableEq, Repr

namespace Target

/-- A letter, then letters, digits, pluses, hyphens and dots, all of them ASCII. -/
def isScheme : List Char → Bool
  | []      => false
  | c :: cs => c.isAlpha && cs.all fun c => c.isAlphanum || c = '+' || c = '-' || c = '.'

/-- The text before the first `://` and the text from its slashes on. -/
def splitScheme? : List Char → Option (List Char × List Char)
  | ':' :: '/' :: '/' :: rest => some ([], '/' :: '/' :: rest)
  | c :: cs => (splitScheme? cs).map fun (before, rest) => (c :: before, rest)
  | []      => none

/-- Splits a host from the path after it, given the braces that are open. -/
def splitHost : (depth : Nat) → List Char → List Char × List Char
  | _, []          => ([], [])
  | depth, c :: cs =>
    if c = '/' ∧ depth = 0 then ([], c :: cs)
    else
      let depth := if c = '{' then depth + 1 else if c = '}' then depth - 1 else depth
      let (host, path) := splitHost depth cs
      (c :: host, path)

/-- The scheme of a text that begins with one, and the rest. -/
def scheme? (text : List Char) : Option (List Char) × List Char :=
  match splitScheme? text with
  | some (scheme, rest) => if isScheme scheme then (some scheme, rest) else (none, text)
  | none                => (none, text)

def ofText (text : String) : Target :=
  match scheme? text.toList with
  | (scheme, '/' :: '/' :: rest) =>
    let (host, path) := splitHost 0 rest
    { scheme := scheme.map fun s => (String.ofList s).toLower
      host := some (String.ofList host)
      path := if path.isEmpty then "/" else String.ofList path }
  | _ => { path := text }

end Target

end Signpost
