import Signpost.Json.Basic
import Signpost.Word

/-!
# JSON — Records

Typed values from JSON.  A record is read from an object, in which unknown entries do not count and
no known one may be repeated, or from an array with the values of its fields in order.

* `Json.texts?_ofTexts` — texts are read back from their list.
-/

namespace Signpost.Json

def text? : Json → Option String
  | .string text? => text?
  | _             => none

def bool? : Json → Option Bool
  | .bool b => some b
  | _       => none

/-- A machine word, written in digits alone. -/
def word64? : Json → Option Nat
  | .number literal =>
    if literal.toList.all Char.isDigit then literal.toNat?.filter (· < wordSize) else none
  | _               => none

def list? {α : Type} (f : Json → Option α) : Json → Option (List α)
  | .array items => items.mapM f
  | _            => none

def texts? : Json → Option (List String) := list? text?

/-- An entry of a dictionary. -/
def keyed? {α : Type} (f : Json → Option α) (e : Option String × Json) : Option (String × α) := do
  return (← e.1, ← f e.2)

/-- A dictionary; of entries with one key, the last one counts. -/
def dict? {α : Type} (f : Json → Option α) : Json → Option (Dict α)
  | .object entries => (entries.mapM (keyed? f)).map Dict.ofList
  | _               => none

/-- The fields of a record that are there, and whether they were given by position alone. -/
structure Record where
  fields       : List (String × Json)
  isPositional : Bool
  deriving Repr

namespace Record

/-- The record with the given field names. -/
def of? (names : List String) : Json → Option Record
  | .object entries => do
    let entries ← entries.mapM fun e => e.1.map fun key => (key, e.2)
    let known := entries.filter fun e => names.contains e.1
    if (known.map Prod.fst).Nodup then some ⟨known, false⟩ else none
  | .array items => if items.length ≤ names.length then some ⟨names.zip items, true⟩ else none
  | _ => none

variable {α : Type}

/-- A field that has to be there. -/
def get? (r : Record) (name : String) (f : Json → Option α) : Option α :=
  (r.fields.lookup name).bind f

/-- A field that may be missing, and then has the given value. -/
def getD? (r : Record) (name : String) (default : α) (f : Json → Option α) : Option α :=
  (r.fields.lookup name).elim (some default) f

/-- A field that may be null, or missing unless fields are given by position. -/
def nullable? (r : Record) (name : String) (f : Json → Option α) : Option (Option α) :=
  match r.fields.lookup name with
  | some .null => some none
  | some j     => (f j).map some
  | none       => if r.isPositional then none else some none

end Record

theorem texts?_ofTexts (texts : List String) : texts? (ofTexts texts) = some texts := by
  simp only [texts?, list?, ofTexts, ofList, List.mapM_map]
  induction texts with
  | nil => rfl
  | cons t ts ih =>
    rw [List.mapM_cons, ih]
    rfl

end Signpost.Json
