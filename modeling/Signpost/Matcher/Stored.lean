import Signpost.Json.Read
import Signpost.Json.Write
import Signpost.Matcher.Basic
import Signpost.Matcher.Format

/-!
# Matching — Stored matchers

A matcher as text, and a matcher together with the fingerprint of the routes that it was compiled
from.

* `Matcher.load_otherFingerprint` — a matcher for other routes is not loaded.
-/

namespace Signpost.Matcher

/-- The data of a matcher as text. -/
def toText (m : Matcher) : String := m.data.toJson.render

variable [Regex.Engine]

/-- Builds a matcher from its text. -/
def ofText (text : String) : Except Error Matcher :=
  match (Json.parse? text).bind Data.ofJson? with
  | some d => ofData d
  | none   => .error .badFormat

/-- A matcher for the routes with the given fingerprint, as it is stored. -/
structure Stored where
  fingerprint : String
  data        : Data
  deriving DecidableEq, Repr

namespace Stored

def toJson (s : Stored) : Json :=
  .ofFields [("fingerprint", .ofText s.fingerprint), ("matcher", s.data.toJson)]

def ofJson? (j : Json) : Option Stored := do
  let r ← Json.Record.of? ["fingerprint", "matcher"] j
  return {
    fingerprint := ← r.get? "fingerprint" Json.text?
    data := ← r.get? "matcher" Data.ofJson? }

def ofText? (text : String) : Option Stored := (Json.parse? text).bind ofJson?

end Stored

/-- Loads a stored matcher, unless it is for other routes. -/
def load (text fingerprint : String) : Except Error (Option Matcher) :=
  match Stored.ofText? text with
  | none   => .error .badFormat
  | some s => if s.fingerprint = fingerprint then (ofData s.data).map some else .ok none

theorem load_otherFingerprint {text fingerprint : String} {s : Stored}
    (h : Stored.ofText? text = some s) (other : s.fingerprint ≠ fingerprint) :
    load text fingerprint = .ok none := by
  simp [load, h, other]

/-- The text of a matcher that is stored for the routes with the given fingerprint. -/
def store (m : Matcher) (fingerprint : String) : String :=
  (Stored.mk fingerprint m.data).toJson.render

end Signpost.Matcher
