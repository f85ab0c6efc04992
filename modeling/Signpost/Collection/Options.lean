import Signpost.Merge.Tree
import Signpost.Regex

/-!
# Collections — Options

How the routes of a collection are merged.
-/

namespace Signpost

structure CompileOptions where
  strategy  : Strategy := .segments
  /-- The limit on the size of each automaton, in bytes.  A merged expression beyond it is split,
  and its parts share their beginnings only among themselves. -/
  sizeLimit : Nat := Regex.defaultSizeLimit
  deriving DecidableEq, Repr, Inhabited

end Signpost
