import Signpost.Http.Message

/-!
# Matching — Contexts

What the matcher looks at in a request: the method in upper case, the path as it is written, the
host, which may be empty, and the scheme in lower case.
-/

namespace Signpost

structure Context where
  method : String
  path   : String
  host   : String := ""
  scheme : String := "http"
  deriving DecidableEq, Repr

namespace Context

/-- The context of a method and a path, without a host. -/
def of (method path : String) : Context := { method := method.toUpper, path }

def withHost (c : Context) (host : String) : Context := { c with host }

def withScheme (c : Context) (scheme : String) : Context := { c with scheme := scheme.toLower }

def withPath (c : Context) (path : String) : Context := { c with path }

/-- The context in which no method is asked for. -/
def withoutMethod (c : Context) : Context := { c with method := "" }

/-- The context of a request. -/
def ofRequest (r : Request) : Context :=
  ((of r.method r.uri.path).withHost r.host).withScheme (r.uri.scheme.getD "http")

end Context

end Signpost
