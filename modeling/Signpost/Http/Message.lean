import Signpost.Error
import Signpost.Http.Uri
import Signpost.Matcher.Params

/-!
# HTTP — Messages

Requests and responses, as far as routing looks at them.  The names of headers are lowercase, and
a message may have several headers of one name.
-/

namespace Signpost

/-- Names and values, in the order in which they were appended. -/
abbrev Headers := List (String × String)

namespace Headers

/-- The values under a name. -/
def values (hs : Headers) (name : String) : List String :=
  hs.filterMap fun h => if h.1 = name then some h.2 else none

/-- The headers with one more after them. -/
def append (hs : Headers) (name value : String) : Headers := List.concat hs (name, value)

/-- The headers in the order of their names; those of one name keep theirs. -/
def sorted (hs : Headers) : Headers := hs.mergeSort fun a b => a.1 ≤ b.1

end Headers

/-- A character of a method or of the name of a header. -/
def isTokenChar (c : Char) : Bool := c.isAlphanum || "!#$%&'*+-.^_`|~".toList.contains c

/-- Whether a text can be a method or the name of a header. -/
def isHttpToken (text : String) : Bool := !text.isEmpty && text.toList.all isTokenChar

/-- Whether a text can be the value of a header. -/
def isHeaderValue (text : String) : Bool :=
  text.toList.all fun c => c = '\t' || (' ' ≤ c && c != '\x7f')

/-- Whether a header value can be read as text. -/
def isVisible (value : String) : Bool :=
  value.toList.all fun c => c = '\t' || (' ' ≤ c && c ≤ '~')

structure Request where
  method  : String
  uri     : Uri
  headers : Headers := []
  /-- What the router has taken from the path and the host. -/
  params? : Option Params := none
  deriving Repr

structure Response where
  status  : Nat := 200
  headers : Headers := []
  body    : String := ""
  deriving DecidableEq, Repr

namespace Request

/-- Reads a request, whose method and target must be well formed. -/
def ofTexts? (method uri : String) (headers : Headers) : Option Request :=
  if isHttpToken method then
    (Uri.parse? uri).map fun uri =>
      { method, uri, headers := headers.map fun h => (h.1.toLower, h.2) }
  else none

/-- The host that a request is for: that of its target, else that of its `Host` header, if that is
text. -/
def host (r : Request) : String :=
  match r.uri.host? with
  | some host => host
  | none      =>
    match (r.headers.values "host").head? with
    | some value => if isVisible value then value else ""
    | none       => ""

end Request

/-- What a handler answers. -/
abbrev Reply := Except Error Response

end Signpost
