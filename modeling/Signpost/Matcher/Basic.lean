import Signpost.Error
import Signpost.Matcher.Data
import Signpost.Word

/-!
# Matching — Matchers

A compiled matcher: its data, which has to be consistent, and the expressions in it, ready to run.

* `Matcher.data_of_ofData` — a matcher is made of exactly the data that it was built from.
-/

namespace Signpost

structure Matcher where
  data   : Matcher.Data
  /-- The expressions of the chunks. -/
  chunks : List Regex
  /-- The expressions of the leaves. -/
  leaves : List Regex
  /-- The expressions of the hosts, by route. -/
  hosts  : List (Option Regex)
  deriving Repr

namespace Matcher

namespace Data

/-- The routes that the index and the leaves refer to. -/
def routeIds (d : Data) : List Nat :=
  d.staticPaths.toList.flatMap Prod.snd ++ d.leaves.flatMap Leaf.routes

/-- The number of leaves that the chunks claim, as a machine word. -/
def covered (d : Data) : Nat := d.chunks.foldr (fun c n => c.leafCount + n) 0 % wordSize

/-- The first contradiction in the data. -/
def fault? (d : Data) : Option MatcherFault :=
  match d.routeIds.find? fun id => d.routes.length ≤ id with
  | some id => some (.unknownRoute id)
  | none    =>
    if d.leaves.any fun l => l.routes.isEmpty then some .emptyAlternative
    else if d.covered ≠ d.leaves.length then some (.coverage d.covered d.leaves.length)
    else none

variable [Regex.Engine]

/-- Reads an expression under the limit of the data. -/
def compile (d : Data) (expression : String) : Except Error Regex :=
  (Regex.compile expression d.sizeLimit).mapError .regex

end Data

variable [Regex.Engine]

/-- Builds a matcher. -/
def ofData (d : Data) : Except Error Matcher :=
  match d.fault? with
  | some fault => .error (.badMatcher fault)
  | none       => do
    let chunks ← d.chunks.mapM fun c => d.compile c.expression
    let leaves ← d.leaves.mapM fun l => d.compile l.expression
    let hosts ← d.routes.mapM fun r => match r.host with
      | some host => some <$> d.compile host.expression
      | none      => pure none
    return ⟨d, chunks, leaves, hosts⟩

theorem data_of_ofData {d : Data} {m : Matcher} (h : ofData d = .ok m) : m.data = d := by
  unfold ofData at h
  split at h
  · cases h
  · simp only [bind, Except.bind, pure, Except.pure] at h
    repeat' split at h
    all_goals first | contradiction | (cases h; rfl)

end Matcher

end Signpost
