import Signpost.Regex.Escape

/-!
# Regex — reading in front of more text

What a reader of a small part of an expression takes does not change when more text is put behind
it.  In a verbose expression there is one exception: where the text ends inside a comment, or
before the blanks after a part, the comment or the blanks go on in what is put behind
(`Follows`).

* `Scan.follows_skip`: blanks and comments.
* `Escaped.read?_append`: an escape, unless a brace comes next, which can belong to it.
-/

namespace Signpost.Regex

/-- Whether `left` says what is left to read, for each text put behind one of which `rest` was
left. -/
def Follows (verbose : Bool) (rest : List Char) (left : List Char → List Char) : Prop :=
  left = (rest ++ ·) ∨
    (verbose = true ∧ rest = [] ∧ ∃ inComment, left = Scan.dropComments inComment)

namespace Follows

variable {verbose : Bool} {rest : List Char} {left : List Char → List Char}

theorem append (verbose : Bool) (rest : List Char) : Follows verbose rest (rest ++ ·) :=
  .inl rfl

theorem eq_of_ne_nil (h : Follows verbose rest left) (hr : rest ≠ []) : left = (rest ++ ·) := by
  rcases h with h | ⟨-, hnil, -⟩
  · exact h
  · exact absurd hnil hr

theorem eq_of_not_verbose (h : Follows false rest left) : left = (rest ++ ·) := by
  rcases h with h | ⟨hv, -, -⟩
  · exact h
  · cases hv

end Follows

/-! ### Blanks, comments and numbers -/

namespace Scan

variable {verbose : Bool} {cs rest more : List Char}

theorem dropComments_append {b : Bool} (h : dropComments b cs ≠ []) :
    dropComments b (cs ++ more) = dropComments b cs ++ more := by
  induction cs generalizing b with
  | nil => simp [dropComments] at h
  | cons c cs ih =>
      cases b with
      | true => exact ih h
      | false =>
          simp only [List.cons_append, dropComments] at h ⊢
          by_cases hs : Unicode.isSpace c
          · simp only [if_pos hs] at h ⊢; exact ih h
          · by_cases hc : c = '#'
            · simp only [if_neg hs, if_pos hc] at h ⊢; exact ih h
            · simp only [if_neg hs, if_neg hc, List.cons_append]

theorem dropComments_append_of_nil {b : Bool} (h : dropComments b cs = []) :
    ∃ b', ∀ more, dropComments b (cs ++ more) = dropComments b' more := by
  induction cs generalizing b with
  | nil => exact ⟨b, fun _ => rfl⟩
  | cons c cs ih =>
      cases b with
      | true => exact ih h
      | false =>
          simp only [List.cons_append, dropComments] at h ⊢
          by_cases hs : Unicode.isSpace c
          · simp only [if_pos hs] at h ⊢; exact ih h
          · by_cases hc : c = '#'
            · simp only [if_neg hs, if_pos hc] at h ⊢; exact ih h
            · simp only [if_neg hs, if_neg hc] at h; cases h

theorem skip_append (h : skip verbose cs ≠ []) :
    skip verbose (cs ++ more) = skip verbose cs ++ more := by
  cases verbose with
  | false => rfl
  | true => exact dropComments_append h

theorem follows_skip (verbose : Bool) (cs : List Char) :
    Follows verbose (skip verbose cs) (fun more => skip verbose (cs ++ more)) := by
  by_cases h : skip verbose cs = []
  · cases verbose with
    | false => exact .inl rfl
    | true =>
        obtain ⟨b, hb⟩ := dropComments_append_of_nil h
        exact .inr ⟨rfl, h, b, funext hb⟩
  · exact .inl (funext fun more => skip_append h)

theorem length_dropComments_le (b : Bool) (cs : List Char) :
    (dropComments b cs).length ≤ cs.length := by
  induction cs generalizing b with
  | nil => simp [dropComments]
  | cons c cs ih =>
      cases b with
      | true => exact Nat.le_succ_of_le (ih _)
      | false =>
          simp only [dropComments]
          split
          · exact Nat.le_succ_of_le (ih _)
          · split
            · exact Nat.le_succ_of_le (ih _)
            · exact Nat.le_refl _

theorem length_skip_le (verbose : Bool) (cs : List Char) :
    (skip verbose cs).length ≤ cs.length := by
  cases verbose with
  | false => exact Nat.le_refl _
  | true => exact length_dropComments_le false cs

@[simp] theorem skip_nil (verbose : Bool) : skip verbose [] = [] := by
  cases verbose <;> rfl

theorem dropWhile_append {p : Char → Bool} (h : cs.dropWhile p ≠ []) :
    (cs ++ more).dropWhile p = cs.dropWhile p ++ more := by
  rw [List.dropWhile_append]
  simp [h]

theorem takeWhile_append_of_dropWhile {p : Char → Bool} (h : cs.dropWhile p ≠ []) :
    (cs ++ more).takeWhile p = cs.takeWhile p := by
  rw [List.takeWhile_append]
  split
  case isTrue hl =>
    refine absurd ?_ h
    have := congrArg List.length (List.takeWhile_append_dropWhile (p := p) (l := cs))
    rw [List.length_append, hl] at this
    exact List.length_eq_zero_iff.1 (by omega)
  case isFalse => rfl

theorem after?_eq_some {word : List Char} : after? word cs = some rest ↔ cs = word ++ rest := by
  induction word generalizing cs with
  | nil => simp [after?]
  | cons w word ih =>
      cases cs with
      | nil => simp [after?]
      | cons c cs =>
          simp only [after?, Option.ite_none_right_eq_some, ih, List.cons_append, List.cons.injEq,
            @eq_comm Char w]

theorem after?_append {word : List Char} (h : after? word cs = some rest) :
    after? word (cs ++ more) = some (rest ++ more) := by
  rw [after?_eq_some] at h ⊢
  rw [h, List.append_assoc]

@[simp] theorem takeSkipping_nil (verbose : Bool) (p : Char → Bool) (n : Nat) :
    takeSkipping verbose p n [] = ([], []) := by
  cases n <;> rfl

theorem takeSkipping_append {p : Char → Bool} {n m : Nat}
    (h : (takeSkipping verbose p n cs).2 ≠ []) (hn : cs.length ≤ n) (hm : n ≤ m) :
    takeSkipping verbose p m (cs ++ more) =
      ((takeSkipping verbose p n cs).1, (takeSkipping verbose p n cs).2 ++ more) := by
  induction n generalizing m cs with
  | zero =>
      obtain rfl : cs = [] := List.length_eq_zero_iff.1 (by omega)
      simp at h
  | succ n ih =>
      obtain ⟨m, rfl⟩ : ∃ k, m = k + 1 := ⟨m - 1, by omega⟩
      cases cs with
      | nil => simp at h
      | cons c cs =>
          simp only [List.cons_append, takeSkipping] at h ⊢
          by_cases hp : p c
          · simp only [if_pos hp] at h ⊢
            have hne : skip verbose cs ≠ [] := by
              intro hnil
              simp [hnil] at h
            have hlen := length_skip_le verbose cs
            simp only [List.length_cons] at hn
            rw [skip_append hne, ih h (by omega) (by omega)]
          · simp only [if_neg hp, List.cons_append]

theorem decimal_append (h : (decimal verbose cs).2 ≠ []) :
    decimal verbose (cs ++ more) = ((decimal verbose cs).1, (decimal verbose cs).2 ++ more) := by
  simp only [decimal] at h ⊢
  have hdigits : (takeSkipping verbose Char.isDigit (cs.dropWhile Unicode.isSpace).length
      (cs.dropWhile Unicode.isSpace)).2 ≠ [] := by
    intro hnil
    simp [hnil] at h
  have hblanks : cs.dropWhile Unicode.isSpace ≠ [] := by
    intro hnil
    simp [hnil] at hdigits
  rw [dropWhile_append hblanks, takeSkipping_append hdigits (Nat.le_refl _) (by simp),
    takeSkipping_append h (Nat.le_refl _) (by simp)]

theorem hexDigits?_append {count : Nat} {digits : List Char}
    (h : hexDigits? verbose count cs = some (digits, rest)) :
    ∃ left, Follows verbose rest left ∧
      ∀ more, hexDigits? verbose count (cs ++ more) = some (digits, left more) := by
  induction count generalizing cs digits with
  | zero =>
      simp only [hexDigits?, Option.some.injEq, Prod.mk.injEq] at h
      obtain ⟨rfl, rfl⟩ := h
      exact ⟨_, .append .., fun more => rfl⟩
  | succ count ih =>
      cases cs with
      | nil => simp [hexDigits?] at h
      | cons c cs =>
          simp only [hexDigits?, Option.bind_eq_bind, Option.bind_eq_some_iff] at h
          obtain ⟨v, hv, ⟨ds, r⟩, hds, heq⟩ := h
          simp only [Option.some.injEq, Prod.mk.injEq, pure] at heq
          obtain ⟨rfl, rfl⟩ := heq
          by_cases hne : skip verbose cs = []
          · -- only the last digit can stand at the end of the text
            cases count with
            | succ count => rw [hne] at hds; simp [hexDigits?] at hds
            | zero =>
                simp only [hexDigits?, Option.some.injEq, Prod.mk.injEq] at hds
                obtain ⟨rfl, rfl⟩ := hds
                exact ⟨_, follows_skip verbose cs, fun more => by simp [hexDigits?, hv]⟩
          · obtain ⟨left, hf, hleft⟩ := ih hds
            exact ⟨left, hf, fun more => by simp [hexDigits?, hv, skip_append hne, hleft]⟩

theorem upToBrace?_append {inner : List Char}
    (h : upToBrace? verbose cs = some (inner, rest)) :
    upToBrace? verbose (cs ++ more) = some (inner, rest ++ more) := by
  unfold upToBrace? at h ⊢
  split at h
  case h_1 inner' c rest' heq =>
      simp only [Option.some.injEq, Prod.mk.injEq] at h
      obtain ⟨rfl, rfl⟩ := h
      rw [takeSkipping_append (by simp [heq]) (Nat.le_refl _) (by simp), heq]
      rfl
  case h_2 => cases h

end Scan

open Scan

/-! ### Escapes -/

namespace Escaped

variable {fs : Flags} {e : Escaped} {cs rest more : List Char}

theorem property?_append {negated : Bool} (h : property? fs negated cs = some (e, rest)) :
    property? fs negated (cs ++ more) = some (e, rest ++ more) := by
  have hne : skip (fs.has .verbose) cs ≠ [] := by
    intro hnil
    simp [property?, hnil] at h
  have finish : ∀ {query rest₀ : List Char},
      (if (!fs.has .unicode) = true then none
        else (querySet? query).bind fun s =>
          some (set (.negateIf negated (fs.fold s)), rest₀)) = some (e, rest) →
      (if (!fs.has .unicode) = true then none
        else (querySet? query).bind fun s =>
          some (set (.negateIf negated (fs.fold s)), rest₀ ++ more)) =
        some (e, rest ++ more) := by
    intro query rest₀ h
    split at h
    · cases h
    · rw [if_neg ‹_›]
      simp only [Option.bind_eq_some_iff, Option.some.injEq, Prod.mk.injEq] at h ⊢
      obtain ⟨s, hs, hset, rfl⟩ := h
      exact ⟨s, hs, hset, rfl⟩
  simp only [property?, Option.bind_eq_bind, pure, skip_append hne] at h ⊢
  obtain ⟨d, ds, hd⟩ := List.exists_cons_of_ne_nil hne
  rw [hd] at h ⊢
  rw [List.cons_append]
  by_cases hbrace : d = '{'
  · subst hbrace
    simp only [Option.bind_eq_some_iff] at h
    obtain ⟨⟨query, rest₀⟩, hquery, h⟩ := h
    have hne' : skip (fs.has .verbose) ds ≠ [] := by
      intro hnil
      simp [hnil, upToBrace?] at hquery
    simp only [skip_append hne', upToBrace?_append hquery, Option.bind_some]
    exact finish h
  · by_cases hslash : d = '\\'
    · subst hslash
      simp at h
    · simp only [Option.bind_some] at h ⊢
      exact finish h

theorem hex?_append {count : Nat} (hcount : 0 < count) (h : hex? fs count cs = some (e, rest)) :
    ∃ left, Follows (fs.has .verbose) rest left ∧
      ∀ more, hex? fs count (cs ++ more) = some (e, left more) := by
  have hne : skip (fs.has .verbose) cs ≠ [] := by
    intro hnil
    obtain ⟨k, rfl⟩ : ∃ k, count = k + 1 := ⟨count - 1, by omega⟩
    simp [hex?, hnil, hexDigits?] at h
  simp only [hex?, Option.bind_eq_bind, pure, skip_append hne] at h ⊢
  obtain ⟨d, ds, hd⟩ := List.exists_cons_of_ne_nil hne
  rw [hd] at h ⊢
  simp only [List.cons_append]
  by_cases hbrace : d = '{'
  · subst hbrace
    simp only [Option.bind_eq_some_iff] at h
    obtain ⟨⟨digits, rest₀⟩, hdigits, h⟩ := h
    have hne' : skip (fs.has .verbose) ds ≠ [] := by
      intro hnil
      simp [hnil, upToBrace?] at hdigits
    simp only [skip_append hne', upToBrace?_append hdigits, Option.bind_some]
    split at h
    · cases h
    · simp only [Option.bind_eq_some_iff, Option.some.injEq, Prod.mk.injEq] at h
      obtain ⟨c, hc, rfl, rfl⟩ := h
      exact ⟨_, .append .., fun more => by simp [*]⟩
  · split at h
    case h_1 heq => exact absurd (List.cons.inj heq).1 hbrace
    case h_2 =>
        simp only [Option.bind_eq_some_iff, Option.some.injEq, Prod.mk.injEq] at h
        obtain ⟨⟨digits, rest₀⟩, hdigits, c, hc, rfl, rfl⟩ := h
        obtain ⟨left, hf, hleft⟩ := hexDigits?_append hdigits
        refine ⟨left, hf, fun more => ?_⟩
        split
        case h_1 heq => exact absurd (List.cons.inj heq).1 hbrace
        case h_2 =>
            have hleft := hleft more
            rw [List.cons_append] at hleft
            simp [hleft, hc]

theorem wordBoundary?_append (hbrace : more.head? ≠ some '{')
    (h : wordBoundary? fs cs = some (e, rest)) :
    wordBoundary? fs (cs ++ more) = some (e, rest ++ more) := by
  have plain : ∀ ds : List Char, ds.head? ≠ some '{' → wordBoundary? fs ds =
      some (.look (.word .both (fs.has .unicode)), ds) := by
    intro ds hds
    unfold wordBoundary?
    split
    · simp at hds
    · rfl
  cases cs with
  | nil =>
      rw [plain [] (by simp)] at h
      rw [List.nil_append, plain more hbrace]
      simp only [Option.some.injEq, Prod.mk.injEq] at h
      obtain ⟨rfl, rfl⟩ := h
      rfl
  | cons d ds =>
      by_cases hd : d = '{'
      · subst hd
        simp only [List.cons_append, wordBoundary?] at h ⊢
        have hne : skip (fs.has .verbose) ds ≠ [] := by
          intro hnil
          simp [hnil] at h
        rw [skip_append hne]
        obtain ⟨c, inner, hc⟩ := List.exists_cons_of_ne_nil hne
        rw [hc] at h ⊢
        simp only [List.cons_append] at h ⊢
        split at h
        · rw [if_pos ‹_›]
          simp only [Option.some.injEq, Prod.mk.injEq] at h ⊢
          obtain ⟨rfl, rfl⟩ := h
          exact ⟨rfl, rfl⟩
        · rw [if_neg ‹_›]
          split at h
          case h_1 name rest₀ heq =>
              rw [show c :: (inner ++ more) = (c :: inner) ++ more from rfl,
                takeSkipping_append (n := inner.length + 1) (by simp [heq]) (by simp) (by simp),
                heq]
              simp only [Option.map_eq_some_iff, Prod.mk.injEq] at h
              obtain ⟨side, hside, rfl, rfl⟩ := h
              simp [hside]
          case h_2 => cases h
      · rw [plain (d :: ds) (by simpa using hd)] at h
        rw [plain (d :: ds ++ more) (by simpa using hd)]
        simp only [Option.some.injEq, Prod.mk.injEq] at h
        obtain ⟨rfl, rfl⟩ := h
        rfl

theorem read?_append (h : read? fs cs = some (e, rest)) :
    ∃ left, Follows (fs.has .verbose) rest left ∧
      ∀ more, more.head? ≠ some '{' → read? fs (cs ++ more) = some (e, left more) := by
  cases cs with
  | nil => simp [read?] at h
  | cons c cs =>
      have plain : ∀ e' : Escaped, (∀ ds, read? fs (c :: ds) = some (e', ds)) →
          ∃ left, Follows (fs.has .verbose) rest left ∧
            ∀ more, more.head? ≠ some '{' →
              read? fs (c :: cs ++ more) = some (e, left more) := by
        intro e' he
        rw [he] at h
        simp only [Option.some.injEq, Prod.mk.injEq] at h
        obtain ⟨rfl, rfl⟩ := h
        exact ⟨_, .append .., fun more _ => he _⟩
      cases hdigit : c.isDigit with
      | true => simp [read?, hdigit] at h
      | false =>
      cases hquote : isQuotable c with
      | true => exact plain (.char c) fun ds => by simp [read?, hdigit, hquote]
      | false =>
      cases hcontrol : control? c with
      | some d => exact plain (.char d) fun ds => by simp [read?, hdigit, hquote, hcontrol]
      | none =>
          simp only [List.cons_append, read?, hdigit, hquote, hcontrol, Bool.false_eq_true,
            if_false] at h plain ⊢
          split at h
          case h_1 | h_2 | h_3 =>
              obtain ⟨left, hf, hleft⟩ := hex?_append (by decide) h
              exact ⟨left, hf, fun more _ => hleft more⟩
          case h_4 | h_5 => exact ⟨_, .append .., fun more _ => property?_append h⟩
          case h_12 | h_13 | h_15 | h_16 | h_17 => exact plain _ fun ds => rfl
          case h_14 => exact ⟨_, .append .., fun more hbrace => wordBoundary?_append hbrace h⟩
          case h_18 => cases h
          all_goals
            obtain ⟨s, hs, -⟩ := Option.map_eq_some_iff.1 h
            simp only [hs] at plain ⊢
            exact plain (.set s) fun ds => rfl

end Escaped

end Signpost.Regex
