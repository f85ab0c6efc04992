import Signpost.Json.Lexer

/-!
# JSON — Reading

A value from its tokens, one after the other.  The reader holds the arrays and objects that are
still open, and what may come next.

* `Json.Reader.run_append` — tokens can be read in parts.
-/

namespace Signpost.Json

/-- An array or object that is still open, its latest item first. -/
inductive Open where
  | array (items : List Json)
  | object (entries : List (Option String × Json)) (key : Option String)
  deriving Repr

/-- What may come next. -/
inductive Awaiting where
  | value
  /-- The first item of an array, or its end. -/
  | itemOrEnd
  /-- The first key of an object, or its end. -/
  | keyOrEnd (entries : List (Option String × Json))
  | key (entries : List (Option String × Json))
  | colon (entries : List (Option String × Json)) (key : Option String)
  /-- A comma or the end, after an item of an array. -/
  | afterItem (items : List Json)
  /-- A comma or the end, after an entry of an object. -/
  | afterEntry (entries : List (Option String × Json))
  /-- Nothing, after the whole value. -/
  | nothing (value : Json)
  deriving Repr

structure Reader where
  stack    : List Open := []
  awaiting : Awaiting := .value
  deriving Repr

namespace Reader

/-- Takes a value that is complete. -/
def complete (stack : List Open) (value : Json) : Reader :=
  match stack with
  | []                          => ⟨[], .nothing value⟩
  | .array items :: rest        => ⟨rest, .afterItem (value :: items)⟩
  | .object entries key :: rest => ⟨rest, .afterEntry ((key, value) :: entries)⟩

/-- Begins a value. -/
def beginValue (r : Reader) : Lexeme → Option Reader
  | .scalar value => some (complete r.stack value)
  | .mark '['     => some ⟨.array [] :: r.stack, .itemOrEnd⟩
  | .mark '{'     => some ⟨r.stack, .keyOrEnd []⟩
  | .mark _       => none

/-- Takes a key. -/
def takeKey (r : Reader) (entries : List (Option String × Json)) : Lexeme → Option Reader
  | .scalar (.string key) => some { r with awaiting := .colon entries key }
  | _                     => none

def step (r : Reader) (t : Lexeme) : Option Reader :=
  match r.awaiting, t with
  | .value, t                        => r.beginValue t
  | .itemOrEnd, .mark ']'            => some (complete r.stack.tail (.array []))
  | .itemOrEnd, t                    => r.beginValue t
  | .keyOrEnd entries, .mark '}'     => some (complete r.stack (.object entries.reverse))
  | .keyOrEnd entries, t             => r.takeKey entries t
  | .key entries, t                  => r.takeKey entries t
  | .colon entries key, .mark ':'    => some ⟨.object entries key :: r.stack, .value⟩
  | .afterItem items, .mark ','      => some ⟨.array items :: r.stack, .value⟩
  | .afterItem items, .mark ']'      => some (complete r.stack (.array items.reverse))
  | .afterEntry entries, .mark ','   => some { r with awaiting := .key entries }
  | .afterEntry entries, .mark '}'   => some (complete r.stack (.object entries.reverse))
  | _, _                             => none

def run (r : Reader) : List Lexeme → Option Reader
  | []      => some r
  | t :: ts =>
    match r.step t with
    | some r => run r ts
    | none   => none

theorem run_append (r : Reader) (ts us : List Lexeme) :
    r.run (ts ++ us) = (r.run ts).bind fun r => r.run us := by
  induction ts generalizing r with
  | nil => rfl
  | cons t ts ih =>
    simp only [List.cons_append, run]
    cases r.step t with
    | none => rfl
    | some r => exact ih r

end Reader

/-- Reads a text that is a single value. -/
def parse? (text : String) : Option Json :=
  match (lex? text.toList).bind (Reader.run {}) with
  | some ⟨_, .nothing value⟩ => some value
  | _                        => none

end Signpost.Json
