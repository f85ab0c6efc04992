import Signpost.Json.Lexer
import Signpost.Json.Write

/-!
# JSON — the tokens of a value

The text of a value is split into the tokens that the value is made of (`Json.tokens`), whatever
follows it, as long as a word cannot go on there.  Every value has such a text whose numbers are
words (`Json.IsWritten`); strings are arbitrary, for what an escape stands for is the character that
it was written for.

* `Json.Lexer.run_escape`: an escape is read as its character.
* `Json.Lexer.run_write`: the text of a value is split into its tokens.
* `Json.lex?_write`: and nothing else is in it.
-/

namespace Signpost.Json

/-! ### Words -/

/-- Whether a literal is a number, with nothing in it that would end a word. -/
structure IsWord (literal : String) : Prop where
  nonempty : literal.toList ≠ []
  inside   : ∀ c ∈ literal.toList, endsWord (some c) = false
  number   : ofWord? literal = some (.number literal)

mutual

/-- Whether the numbers in a value are words. -/
def IsWritten : Json → Prop
  | .number literal => IsWord literal
  | .array items    => AllWritten items
  | .object entries => AllEntriesWritten entries
  | _               => True

def AllWritten : List Json → Prop
  | []            => True
  | item :: items => IsWritten item ∧ AllWritten items

def AllEntriesWritten : List (Option String × Json) → Prop
  | []                    => True
  | (_, value) :: entries => IsWritten value ∧ AllEntriesWritten entries

end

/-! ### Tokens -/

mutual

/-- The tokens of a value. -/
def tokens : Json → List Lexeme
  | .array items    => .mark '[' :: itemTokens items ++ [.mark ']']
  | .object entries => .mark '{' :: entryTokens entries ++ [.mark '}']
  | value           => [.scalar value]

def itemTokens : List Json → List Lexeme
  | []            => []
  | [item]        => tokens item
  | item :: items => tokens item ++ .mark ',' :: itemTokens items

def entryTokens : List (Option String × Json) → List Lexeme
  | []                      => []
  | [(key, value)]          => .scalar (.string key) :: .mark ':' :: tokens value
  | (key, value) :: entries =>
    .scalar (.string key) :: .mark ':' :: tokens value ++ .mark ',' :: entryTokens entries

end

/-- Whether a piece of a literal stands for a character. -/
def Piece.IsFor (p : Piece) (c : Char) : Prop :=
  ∀ ps, decode (p :: ps) = (decode ps).map (c :: ·)

/-- A unit that is no half of a pair stands for its character. -/
theorem decode_unit {n : Nat} (h : n < 0xD800) (ps : List Piece) :
    decode (.unit n :: ps) = (decode ps).map (Char.ofNat n :: ·) := by
  have hhigh : ¬ (0xD800 ≤ n ∧ n < 0xDC00) := by omega
  have hlow : ¬ (0xDC00 ≤ n ∧ n < 0xE000) := by omega
  cases ps with
  | nil => simp [decode, hhigh, hlow]
  | cons p ps => cases p <;> simp [decode, hhigh, hlow]

namespace Lexer

variable {acc : List Lexeme} {rest : List Char} {c : Char}

/-- A mark is a token of its own. -/
theorem run_mark (h : isMark c = true) :
    run ⟨.nothing, acc⟩ (c :: rest) = run ⟨.nothing, .mark c :: acc⟩ rest := by
  simp only [run, step, h, if_true, emit]

/-! ### String literals -/

theorem run_plain {ps : List Piece} (h : isPlainChar c = true) :
    run ⟨.string ps, acc⟩ (c :: rest) = run ⟨.string (.char c :: ps), acc⟩ rest := by
  simp only [isPlainChar, Bool.and_eq_true, decide_eq_true_eq, bne_iff_ne] at h
  obtain ⟨⟨hspace, hquote⟩, hslash⟩ := h
  have hspace' : ¬ c < ' ' := Char.not_lt.2 hspace
  simp only [run, step, if_neg hquote, if_neg hslash, if_neg hspace']

/-- A character below the blank, by its number. -/
theorem toNat_lt_of_lt_space (h : c < ' ') : c.toNat < 32 := h

theorem hexValue?_digitChar : ∀ k < 16, hexValue? (Nat.digitChar k) = some k := by
  decide

/-- A number of four digits is the unit that it stands for. -/
theorem run_unit {ps : List Piece} {n : Nat} (hn : n < 256) :
    run ⟨.string ps, acc⟩
        (['\\', 'u', '0', '0', Nat.digitChar (n / 16), Nat.digitChar (n % 16)] ++ rest) =
      run ⟨.string (.unit n :: ps), acc⟩ rest := by
  have hhigh := hexValue?_digitChar (n / 16) (by omega)
  have hlow := hexValue?_digitChar (n % 16) (by omega)
  have hzero : hexValue? '0' = some 0 := by decide
  have hvalue : 16 * (n / 16) + n % 16 = n := Nat.div_add_mod n 16
  simp [run, step, hhigh, hlow, hzero, hvalue]

/-- **An escape is read as its character.** -/
theorem run_escape (acc : List Lexeme) (rest : List Char) (c : Char) (ps : List Piece) :
    ∃ p : Piece, p.IsFor c ∧
      run ⟨.string ps, acc⟩ (escape c ++ rest) = run ⟨.string (p :: ps), acc⟩ rest := by
  by_cases hplain : isPlainChar c = true
  · refine ⟨.char c, fun _ => rfl, ?_⟩
    rw [escape_of_isPlainChar hplain]
    exact run_plain hplain
  · have hescape : escape c = _ := if_neg hplain
    rw [hescape]
    split
    case h_8 hquote hslash _ _ _ _ _ =>
      -- what is left are the control characters without a letter of their own
      have hcontrol : c < ' ' := by
        refine Char.not_le.1 fun hspace => hplain ?_
        simp only [isPlainChar, Bool.and_eq_true, decide_eq_true_eq, bne_iff_ne]
        exact ⟨⟨hspace, hquote⟩, hslash⟩
      have hlt := toNat_lt_of_lt_space hcontrol
      refine ⟨.unit c.toNat, fun qs => ?_, run_unit (by omega)⟩
      rw [decode_unit (Nat.lt_trans hlt (by decide)), Char.ofNat_toNat]
    all_goals exact ⟨.char _, fun _ => rfl, rfl⟩

/-- The text of a string literal is read as pieces that stand for it. -/
theorem run_flatMap_escape (acc : List Lexeme) (rest cs : List Char) (ps : List Piece) :
    ∃ qs, decode qs = some cs ∧
      run ⟨.string ps, acc⟩ (cs.flatMap escape ++ rest) =
        run ⟨.string (qs.reverse ++ ps), acc⟩ rest := by
  induction cs generalizing ps with
  | nil => exact ⟨[], rfl, rfl⟩
  | cons c cs ih =>
      obtain ⟨p, hp, hrun⟩ := run_escape acc (cs.flatMap escape ++ rest) c ps
      obtain ⟨qs, hqs, hrest⟩ := ih (p :: ps)
      refine ⟨p :: qs, ?_, ?_⟩
      · rw [hp, hqs]
        rfl
      · rw [List.flatMap_cons, List.append_assoc, hrun, hrest, List.reverse_cons,
          List.append_assoc]
        rfl

/-- A string literal is a token, whatever follows. -/
theorem run_quote (text? : Option String) :
    run ⟨.nothing, acc⟩ (quote text? ++ rest) =
      run ⟨.nothing, .scalar (.string text?) :: acc⟩ rest := by
  cases text? with
  | none => rfl
  | some text =>
      obtain ⟨qs, hqs, hrun⟩ := run_flatMap_escape acc ('"' :: rest) text.toList []
      have hopen : run ⟨.nothing, acc⟩ ('"' :: (text.toList.flatMap escape ++ '"' :: rest)) =
          run ⟨.string [], acc⟩ (text.toList.flatMap escape ++ '"' :: rest) := rfl
      rw [quote, List.cons_append, List.cons_append, List.append_assoc, List.singleton_append,
        hopen, hrun, List.append_nil]
      simp only [run, step, if_true, emit, List.reverse_reverse, hqs, Option.map_some,
        String.ofList_toList]

/-! ### Words -/

/-- A word is a token where it cannot go on. -/
theorem run_word_from (acc : List Lexeme) (word : List Char) {cs : List Char} {value : Json}
    (hne : cs ≠ []) (hinside : ∀ c ∈ cs, endsWord (some c) = false)
    (hrest : endsWord rest.head? = true)
    (hvalue : ofWord? (String.ofList (word.reverse ++ cs)) = some value) :
    run ⟨.word word, acc⟩ (cs ++ rest) = run ⟨.nothing, .scalar value :: acc⟩ rest := by
  -- a character of the word ends it only if it is the last, for the next one is looked at
  induction cs generalizing word with
  | nil => exact absurd rfl hne
  | cons c cs ih =>
      obtain ⟨-, hcs⟩ := List.forall_mem_cons.1 hinside
      cases cs with
      | nil =>
          have hstep : step ⟨.word word, acc⟩ c rest.head? =
              some ⟨.nothing, .scalar value :: acc⟩ := by
            simp only [step, stepWord, hrest, if_true, List.reverse_cons, hvalue, Option.map_some,
              emit]
          simp only [List.cons_append, List.nil_append, run, hstep]
      | cons d cs =>
          have hgoes : endsWord (some d) = false := hcs d List.mem_cons_self
          have hstep : step ⟨.word word, acc⟩ c (some d) = some ⟨.word (c :: word), acc⟩ := by
            simp [step, stepWord, hgoes]
          rw [List.append_cons, ← List.reverse_cons] at hvalue
          have hrun := ih (c :: word) (List.cons_ne_nil d cs) hcs hvalue
          simpa only [List.cons_append, run, List.head?_cons, hstep] using hrun

/-- **A word is a token** where it cannot go on. -/
theorem run_word (word : String) {value : Json} (hne : word.toList ≠ [])
    (hinside : ∀ c ∈ word.toList, endsWord (some c) = false)
    (hrest : endsWord rest.head? = true) (hvalue : ofWord? word = some value) :
    run ⟨.nothing, acc⟩ (word.toList ++ rest) = run ⟨.nothing, .scalar value :: acc⟩ rest := by
  have hvalue' : ofWord? (String.ofList word.toList) = some value := by
    rwa [String.ofList_toList]
  have hrun := run_word_from acc [] hne hinside hrest hvalue'
  obtain ⟨c, cs, hcs⟩ := List.exists_cons_of_ne_nil hne
  rw [hcs] at hinside hrun ⊢
  have hc : endsWord (some c) = false := hinside c List.mem_cons_self
  simp only [endsWord, Option.all_some, Bool.or_eq_false_iff, decide_eq_false_iff_not] at hc
  obtain ⟨⟨hmark, hblank⟩, hquote⟩ := hc
  -- the first character begins a word, and then it is as if the word had begun before it
  have hfirst : ∀ next?, step ⟨.nothing, acc⟩ c next? = step ⟨.word [], acc⟩ c next? := by
    intro next?
    simp only [step, hmark, hblank, hquote, Bool.false_eq_true, if_false, stepWord, emit]
  rw [← hrun]
  simp only [List.cons_append, run, hfirst]

/-! ### Values -/

mutual

/-- **The text of a value is split into its tokens**, where a word cannot go on. -/
theorem run_write (acc : List Lexeme) (rest : List Char) (hrest : endsWord rest.head? = true) :
    ∀ j : Json, j.IsWritten →
      run ⟨.nothing, acc⟩ (write j ++ rest) = run ⟨.nothing, (tokens j).reverse ++ acc⟩ rest
  | .null, _ => run_word "null" (by decide) (by simp [endsWord, isMark, isBlank]) hrest rfl
  | .bool true, _ => run_word "true" (by decide) (by simp [endsWord, isMark, isBlank]) hrest rfl
  | .bool false, _ => run_word "false" (by decide) (by simp [endsWord, isMark, isBlank]) hrest rfl
  | .number literal, h => run_word literal h.nonempty h.inside hrest h.number
  | .string text?, _ => run_quote text?
  | .array items, h => by
      have hitems := run_writeItems (.mark '[' :: acc) (']' :: rest) rfl items h
      rw [write, tokens, List.cons_append, List.cons_append, List.append_assoc,
        List.singleton_append, run_mark rfl, hitems, run_mark rfl]
      simp
  | .object entries, h => by
      have hentries := run_writeEntries (.mark '{' :: acc) ('}' :: rest) rfl entries h
      rw [write, tokens, List.cons_append, List.cons_append, List.append_assoc,
        List.singleton_append, run_mark rfl, hentries, run_mark rfl]
      simp

theorem run_writeItems (acc : List Lexeme) (rest : List Char)
    (hrest : endsWord rest.head? = true) :
    ∀ items : List Json, AllWritten items →
      run ⟨.nothing, acc⟩ (writeItems items ++ rest) =
        run ⟨.nothing, (itemTokens items).reverse ++ acc⟩ rest
  | [], _ => rfl
  | [item], h => run_write acc rest hrest item h.1
  | item :: next :: items, ⟨hitem, hitems⟩ => by
      have hfirst := run_write acc (',' :: (writeItems (next :: items) ++ rest)) rfl item hitem
      have hothers := run_writeItems (.mark ',' :: ((tokens item).reverse ++ acc)) rest hrest
        (next :: items) hitems
      rw [writeItems, itemTokens, List.append_assoc, List.cons_append, hfirst, run_mark rfl,
        hothers]
      · simp
      · simp
      · simp

theorem run_writeEntries (acc : List Lexeme) (rest : List Char)
    (hrest : endsWord rest.head? = true) :
    ∀ entries : List (Option String × Json), AllEntriesWritten entries →
      run ⟨.nothing, acc⟩ (writeEntries entries ++ rest) =
        run ⟨.nothing, (entryTokens entries).reverse ++ acc⟩ rest
  | [], _ => rfl
  | [(key, value)], h => by
      have hvalue := run_write (.mark ':' :: .scalar (.string key) :: acc) rest hrest value h.1
      rw [writeEntries, entryTokens, List.append_assoc, run_quote, List.cons_append, run_mark rfl,
        hvalue]
      simp
  | (key, value) :: next :: entries, ⟨hvalue, hentries⟩ => by
      have hfirst := run_write (.mark ':' :: .scalar (.string key) :: acc)
        (',' :: (writeEntries (next :: entries) ++ rest)) rfl value hvalue
      have hothers := run_writeEntries
        (.mark ',' :: ((tokens value).reverse ++ .mark ':' :: .scalar (.string key) :: acc)) rest
        hrest (next :: entries) hentries
      rw [writeEntries, entryTokens, List.append_assoc, List.append_assoc, run_quote,
        List.cons_append, List.cons_append, run_mark rfl, hfirst, run_mark rfl, hothers]
      · simp
      · simp
      · simp

end

end Lexer

/-- **A value is written in its tokens**, and in nothing else. -/
theorem lex?_write {j : Json} (h : j.IsWritten) : lex? (write j) = some j.tokens := by
  have hrun := Lexer.run_write [] [] rfl j h
  rw [List.append_nil, List.append_nil] at hrun
  have hend : Lexer.run {} (write j) = some ⟨.nothing, j.tokens.reverse⟩ := hrun
  rw [lex?, hend]
  exact congrArg some (List.reverse_reverse _)

end Signpost.Json
