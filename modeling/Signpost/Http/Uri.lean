/-!
# HTTP — Request targets

The target of a request: a path with an optional query, an absolute URI, an authority alone, or
an asterisk for the server as a whole.  A fragment is dropped.
-/

namespace Signpost

structure Uri where
  scheme    : Option String := none
  authority : Option String := none
  /-- The path and the query together; empty for an authority alone. -/
  path      : String
  query     : Option String := none
  deriving DecidableEq, Repr

namespace Uri

/-- The longest target, in bytes. -/
def maxLength : Nat := 0xFFFE

def isSchemeChar (c : Char) : Bool := c.isAlphanum || c = '+' || c = '-' || c = '.'

def isAuthorityChar (c : Char) : Bool := c.isAlphanum || "!$&'()*+,-.:;=@[]_~%".toList.contains c

def isPathChar (c : Char) : Bool :=
  '!' ≤ c && c ≤ '~' && !"#<>?\x60".toList.contains c

def isQueryChar (c : Char) : Bool := '!' ≤ c && c ≤ '~' && !"\"#<>".toList.contains c

/-- The scheme of an absolute URI, and what follows its slashes. -/
def splitScheme? (text : List Char) : Option (List Char × List Char) :=
  let scheme := text.takeWhile isSchemeChar
  match text.dropWhile isSchemeChar with
  | ':' :: '/' :: '/' :: rest => some (scheme, rest)
  | _                         => none

/-- The most colons up to the next at sign or closing bracket: those of an address. -/
def maxColons : Nat := 8

/-- What has been seen of an authority. -/
structure AuthorityScan where
  colons   : Nat := 0
  opened   : Bool := false
  closed   : Bool := false
  percent  : Bool := false
  last     : Option Char := none

/-- Takes a character of an authority. -/
def AuthorityScan.step? (a : AuthorityScan) (c : Char) : Option AuthorityScan :=
  let a := { a with last := some c }
  match c with
  | ':' => if a.colons < maxColons then some { a with colons := a.colons + 1 } else none
  | '[' => if a.percent || a.opened then none else some { a with opened := true }
  | ']' =>
    if !a.opened || a.closed then none
    else some { a with closed := true, colons := 0, percent := false }
  | '@' => some { a with colons := 0, percent := false }
  | '%' => some { a with percent := true }
  | _   => some a

/-- Whether a text is an authority: at most one colon, brackets around an address, and
percent signs and further colons only in what comes before an at sign. -/
def isAuthority (text : List Char) : Bool :=
  text.all isAuthorityChar &&
    match text.foldlM AuthorityScan.step? {} with
    | some a => a.opened == a.closed && a.colons ≤ 1 && a.last != some '@' && !a.percent
    | none   => false

/-- Adds the path and the query in `text` to a target. -/
def withPath? (uri : Uri) (text : List Char) : Option Uri :=
  let text := text.takeWhile (· != '#')
  let path := text.takeWhile (· != '?')
  let query := match text.dropWhile (· != '?') with
    | '?' :: query => some query
    | _            => none
  if path.all isPathChar && query.all (·.all isQueryChar) then
    some { uri with
      path := if path.isEmpty then "/" else String.ofList path
      query := query.map String.ofList }
  else none

/-- Reads a target. -/
def parse? (text : String) : Option Uri :=
  let isEnd (c : Char) := c = '/' || c = '?' || c = '#'
  let authorityOnly (cs : List Char) : Option Uri :=
    if isAuthority cs then some { authority := some text, path := "" } else none
  if text.utf8ByteSize > maxLength then none
  else match text.toList with
  | []         => none
  | ['*']      => some { path := "*" }
  | '/' :: cs  => ({ path := "/" } : Uri).withPath? ('/' :: cs)
  | cs         =>
    match splitScheme? cs with
    | some (scheme, rest) =>
      let authority := rest.takeWhile fun c => !isEnd c
      if scheme.length ≤ 64 && !authority.isEmpty && isAuthority authority then
        ({ scheme := some (String.ofList scheme)
           authority := some (String.ofList authority), path := "/" } : Uri).withPath?
          (rest.dropWhile fun c => !isEnd c)
      else none
    | none => authorityOnly cs

/-- The host in an authority, without user information and the number after a colon. -/
def hostOfAuthority (authority : List Char) : List Char :=
  let afterAt := (authority.splitOn '@').getLast?.getD []
  match afterAt with
  | '[' :: _ => afterAt.takeWhile (· != ']') ++ [']']
  | _        => afterAt.takeWhile (· != ':')

/-- The host that the target names. -/
def host? (uri : Uri) : Option String :=
  uri.authority.map fun a => String.ofList (hostOfAuthority a.toList)

end Uri

end Signpost
