import Signpost.Json.Read
import Signpost.Proofs.Json.Tokens

/-!
# JSON — reading what was written

The reader takes the tokens of a value to the value, wherever a value may come
(`Json.Reader.run_tokens`).  The induction goes over the value and its items: an array or object
that is open waits on the stack until its last item, and is then complete in its place.

* `Json.parse?_render`: a value is read from its text.
-/

namespace Signpost.Json

namespace Reader

/-- Whether a value may come next. -/
def TakesValue (a : Awaiting) : Prop := a = .value ∨ a = .itemOrEnd

section steps

variable {a : Awaiting} (ha : TakesValue a) (stack : List Open) (ts : List Lexeme)

include ha

theorem run_scalar (value : Json) :
    run ⟨stack, a⟩ (.scalar value :: ts) = run (complete stack value) ts := by
  rcases ha with rfl | rfl <;> rfl

theorem run_openArray :
    run ⟨stack, a⟩ (.mark '[' :: ts) = run ⟨.array [] :: stack, .itemOrEnd⟩ ts := by
  rcases ha with rfl | rfl <;> rfl

theorem run_openObject :
    run ⟨stack, a⟩ (.mark '{' :: ts) = run ⟨stack, .keyOrEnd []⟩ ts := by
  rcases ha with rfl | rfl <;> rfl

end steps

/-- A key and its colon. -/
theorem run_key {a : Awaiting} {entries : List (Option String × Json)}
    (ha : a = .key entries ∨ a = .keyOrEnd entries) (stack : List Open) (key : Option String)
    (ts : List Lexeme) :
    run ⟨stack, a⟩ (.scalar (.string key) :: .mark ':' :: ts) =
      run ⟨.object entries key :: stack, .value⟩ ts := by
  rcases ha with rfl | rfl <;> rfl

mutual

/-- **A value is read from its tokens**, wherever it may come. -/
theorem run_tokens {a : Awaiting} (ha : TakesValue a) (stack : List Open) :
    ∀ j : Json, run ⟨stack, a⟩ j.tokens = some (complete stack j)
  | .null => run_scalar ha stack [] .null
  | .bool b => run_scalar ha stack [] (.bool b)
  | .number literal => run_scalar ha stack [] (.number literal)
  | .string text? => run_scalar ha stack [] (.string text?)
  | .array [] => run_openArray ha stack [.mark ']']
  | .array (item :: items) => by
      have hitems := run_itemTokens (.inr rfl) [] stack (item :: items) (List.cons_ne_nil _ _)
      rw [tokens, List.cons_append, run_openArray ha, run_append, hitems, List.append_nil,
        Option.bind_some]
      exact congrArg (fun items => some (complete stack (.array items))) (List.reverse_reverse _)
  | .object [] => run_openObject ha stack [.mark '}']
  | .object (entry :: entries) => by
      have hentries := run_entryTokens [] (.inr rfl) stack (entry :: entries)
        (List.cons_ne_nil _ _)
      rw [tokens, List.cons_append, run_openObject ha, run_append, hentries, List.append_nil,
        Option.bind_some]
      exact congrArg (fun entries => some (complete stack (.object entries)))
        (List.reverse_reverse _)

theorem run_itemTokens {a : Awaiting} (ha : TakesValue a) (done : List Json)
    (stack : List Open) :
    ∀ items : List Json, items ≠ [] → run ⟨.array done :: stack, a⟩ (itemTokens items) =
      some ⟨stack, .afterItem (items.reverse ++ done)⟩
  | [], h => absurd rfl h
  | [item], _ => run_tokens ha (.array done :: stack) item
  | item :: next :: items, _ => by
      have hitem := run_tokens ha (.array done :: stack) item
      have hothers := run_itemTokens (.inl rfl) (item :: done) stack (next :: items)
        (List.cons_ne_nil _ _)
      rw [itemTokens, run_append, hitem, Option.bind_some, List.reverse_cons, List.append_assoc]
      · exact hothers
      · simp

/-- The entries of an object, the first of which may be missing. -/
theorem run_entryTokens {a : Awaiting} (done : List (Option String × Json))
    (ha : a = .key done ∨ a = .keyOrEnd done) (stack : List Open) :
    ∀ entries : List (Option String × Json), entries ≠ [] →
      run ⟨stack, a⟩ (entryTokens entries) = some ⟨stack, .afterEntry (entries.reverse ++ done)⟩
  | [], h => absurd rfl h
  | [(key, value)], _ => by
      rw [entryTokens, run_key ha]
      exact run_tokens (.inl rfl) (.object done key :: stack) value
  | (key, value) :: next :: entries, _ => by
      have hvalue := run_tokens (.inl rfl) (.object done key :: stack) value
      have hothers := run_entryTokens ((key, value) :: done) (.inl rfl) stack
        (next :: entries) (List.cons_ne_nil _ _)
      rw [entryTokens, List.cons_append, List.cons_append, run_key ha, run_append, hvalue,
        Option.bind_some, List.reverse_cons, List.append_assoc]
      · exact hothers
      · simp

end

end Reader

/-- **A value is read from its text.** -/
theorem parse?_render {j : Json} (h : j.IsWritten) : parse? j.render = some j := by
  have hrun : Reader.run {} j.tokens = some ⟨[], .nothing j⟩ := Reader.run_tokens (.inl rfl) [] j
  rw [parse?, render, String.toList_ofList, lex?_write h, Option.bind_some, hrun]

end Signpost.Json
