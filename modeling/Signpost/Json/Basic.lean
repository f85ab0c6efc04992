import Signpost.Dict

/-!
# JSON — Values

A number is kept as it is written.  A string literal may hold half of a surrogate pair, and then it
has no text; an object may have entries with one key, which are kept in order.
-/

namespace Signpost

inductive Json where
  | null
  | bool (value : Bool)
  | number (literal : String)
  | string (text? : Option String)
  | array (items : List Json)
  | object (entries : List (Option String × Json))
  deriving Repr, Inhabited

namespace Json

def ofText (text : String) : Json := .string (some text)

def ofNat (n : Nat) : Json := .number (toString n)

/-- The text, or null. -/
def ofText? (text? : Option String) : Json := text?.elim .null ofText

def ofList {α : Type} (f : α → Json) (as : List α) : Json := .array (as.map f)

def ofTexts (texts : List String) : Json := ofList ofText texts

/-- An object with the given fields. -/
def ofFields (fields : List (String × Json)) : Json :=
  .object (fields.map fun f => (some f.1, f.2))

def ofDict {α : Type} (f : α → Json) (d : Dict α) : Json :=
  ofFields (d.toList.map fun e => (e.1, f e.2))

mutual

/-- Whether all string literals in the value have a text. -/
def isPlain : Json → Bool
  | .string text?   => text?.isSome
  | .array items    => allPlain items
  | .object entries => allPlainEntries entries
  | _               => true

def allPlain : List Json → Bool
  | []            => true
  | item :: items => isPlain item && allPlain items

def allPlainEntries : List (Option String × Json) → Bool
  | []                      => true
  | (key, value) :: entries => key.isSome && isPlain value && allPlainEntries entries

end

end Json

end Signpost
