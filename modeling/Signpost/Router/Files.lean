import Signpost.Dict
import Signpost.Error

/-!
# Routers — Files

The text files of a single directory, by name.  A path into another directory leads nowhere, for
there is no other one.

* `Files.read_replace` — what is written is read back.
-/

namespace Signpost

structure Files where
  texts : Dict String := .empty
  deriving Repr

namespace Files

/-- Whether the directory can hold a file of the given name. -/
def holds (name : String) : Bool := !name.toList.contains '/'

def read (fs : Files) (name : String) : Except Error String :=
  match fs.texts.get? name with
  | some text => if holds name then .ok text else .error .noFile
  | none      => .error .noFile

def write (fs : Files) (name text : String) : Except Error Files :=
  if holds name then .ok ⟨fs.texts.insert name text⟩ else .error .noFile

def remove (fs : Files) (name : String) : Files := ⟨fs.texts.erase name⟩

/-- The name of the file that stands in for another one while it is written: its extension, if it
has one, is replaced. -/
def draftName (name : String) : String :=
  let cs := name.toList.reverse
  let stem := match cs.dropWhile (· != '.') with
    | '.' :: stem => if stem.isEmpty then cs else stem
    | _           => cs
  String.ofList stem.reverse ++ ".tmp"

/-- Writes a file by way of its draft, which is gone afterwards. -/
def replace (fs : Files) (name text : String) : Except Error Files :=
  if holds name then .ok ⟨(fs.texts.erase (draftName name)).insert name text⟩
  else .error .noFile

theorem read_replace {fs fs' : Files} {name text : String} (h : fs.replace name text = .ok fs') :
    fs'.read name = .ok text := by
  unfold replace at h
  split at h
  · cases h
    simp_all [read]
  · cases h

end Files

end Signpost
