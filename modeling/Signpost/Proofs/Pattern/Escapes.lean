import Signpost.Proofs.Pattern.Brackets
import Signpost.Proofs.Regex.Scanning
import Signpost.Regex.Parser

/-!
# Patterns — numbers and escapes in front of a default

The small texts in an expression have no marks, or braces around some of them: blanks, numbers of
copies, codes of characters and word boundaries.  Only the name of a property may have others in it
(`Escaped.isBare`).

* `Reader.counts_bounds?`: the numbers of copies close the brace in front of them.
* `Escaped.counts_read?`: an escape leaves open what was open before it.
-/

namespace Signpost

namespace Regex

/-! ### Blanks, comments and numbers -/

section plain

variable {c : Char}

theorem not_mem_marks_of_isSpace (h : Unicode.isSpace c = true) : c ∉ marks := by
  intro hc
  have hprinted : marks.all (fun c => decide ('!' ≤ c ∧ c ≤ '~')) = true := by decide
  rw [Unicode.isSpace_of_printed (by simpa using List.all_eq_true.1 hprinted c hc)] at h
  cases h

theorem not_mem_marks_of_isDigit (h : c.isDigit = true) : c ∉ marks :=
  not_mem_marks (by decide) h

theorem not_mem_marks_of_hexValue? {v : Nat} (h : Scan.hexValue? c = some v) : c ∉ marks :=
  not_mem_marks (p := fun c => (Scan.hexValue? c).isSome) (by decide) (by rw [h]; rfl)

end plain

namespace Scan

variable {verbose : Bool} {depth : Nat} {cs rest : List Char}

/-- Blanks and comments, and the rest of the line in a comment. -/
theorem counts_dropComments :
    Counts true depth depth cs (dropComments false cs) ∧
      Counts true depth depth (cs.dropWhile (· != '\n')) (dropComments true cs) := by
  induction cs with
  | nil => exact ⟨.done .., .done ..⟩
  | cons c cs ih =>
      constructor
      · simp only [dropComments]
        split
        case isTrue hspace => exact .plain (not_mem_marks_of_isSpace hspace) ih.1
        case isFalse =>
          split
          case isTrue hsign =>
            subst hsign
            exact .comment rfl ih.2
          case isFalse => exact .done ..
      · by_cases hc : c = '\n'
        · subst hc
          exact .plain (by decide) ih.1
        · have hgoes : (c != '\n') = true := by simpa using hc
          rw [List.dropWhile_cons_of_pos (p := (· != '\n')) hgoes, dropComments, hgoes]
          exact ih.2

theorem counts_skip : Counts verbose depth depth cs (skip verbose cs) := by
  cases verbose with
  | false => exact .done ..
  | true => exact counts_dropComments.1

theorem mem_takeSkipping {p : Char → Bool} {n : Nat} {c : Char}
    (h : c ∈ (takeSkipping verbose p n cs).1) : p c = true := by
  induction n generalizing cs with
  | zero => simp [takeSkipping] at h
  | succ n ih =>
      cases cs with
      | nil => simp [takeSkipping] at h
      | cons d cs =>
          simp only [takeSkipping] at h
          split at h
          case isTrue hd =>
            obtain rfl | h := List.mem_cons.1 h
            · exact hd
            · exact ih h
          case isFalse => cases h

theorem takeSkipping_stops {p : Char → Bool} {n : Nat} {c : Char} (hn : cs.length ≤ n)
    (h : (takeSkipping verbose p n cs).2 = c :: rest) : p c = false := by
  induction n generalizing cs with
  | zero =>
      obtain rfl : cs = [] := List.length_eq_zero_iff.1 (by omega)
      cases h
  | succ n ih =>
      cases cs with
      | nil => cases h
      | cons d cs =>
          simp only [takeSkipping] at h
          split at h
          case isTrue =>
            have hlength := length_skip_le verbose cs
            rw [List.length_cons] at hn
            exact ih (by omega) h
          case isFalse hd =>
            obtain ⟨rfl, rfl⟩ := List.cons.inj h
            simpa using hd

theorem eq_of_takeSkipping_nil {p : Char → Bool} {n : Nat}
    (h : (takeSkipping verbose p n cs).1 = []) :
    (takeSkipping verbose p n cs).2 = cs := by
  cases n with
  | zero => rfl
  | succ n =>
      cases cs with
      | nil => rfl
      | cons c cs =>
          rw [takeSkipping] at h ⊢
          split at h
          case isTrue => cases h
          case isFalse hc => rw [if_neg hc]

theorem counts_takeSkipping {p : Char → Bool} {n : Nat}
    (h : ∀ c ∈ (takeSkipping verbose p n cs).1, c ∉ marks ∨ c = '=' ∧ 0 < depth) :
    Counts verbose depth depth cs (takeSkipping verbose p n cs).2 := by
  induction n generalizing cs with
  | zero => exact .done ..
  | succ n ih =>
      cases cs with
      | nil => exact .done ..
      | cons c cs =>
          simp only [takeSkipping] at h ⊢
          split at h
          case isTrue hc =>
            rw [if_pos hc]
            obtain ⟨hplain, htaken⟩ := List.forall_mem_cons.1 h
            exact .nested hplain (counts_skip.trans (ih htaken))
          case isFalse hc =>
            rw [if_neg hc]
            exact .done ..

theorem counts_decimal : Counts verbose depth depth cs (decimal verbose cs).2 := by
  have hblanks : Counts verbose depth depth cs (cs.dropWhile Unicode.isSpace) := by
    conv => enter [4]; rw [← List.takeWhile_append_dropWhile (p := Unicode.isSpace) (l := cs)]
    exact .plains fun c hc =>
      not_mem_marks_of_isSpace (List.all_eq_true.1 List.all_takeWhile c hc)
  have hdigits := hblanks.trans <| counts_takeSkipping (p := Char.isDigit)
    (n := (cs.dropWhile Unicode.isSpace).length) fun c hc =>
      .inl (not_mem_marks_of_isDigit (mem_takeSkipping hc))
  exact hdigits.trans <| counts_takeSkipping fun c hc =>
    .inl (not_mem_marks_of_isSpace (mem_takeSkipping hc))

theorem counts_hexDigits? {count : Nat} {digits : List Char}
    (h : hexDigits? verbose count cs = some (digits, rest)) :
    Counts verbose depth depth cs rest := by
  induction count generalizing cs digits with
  | zero =>
      cases h
      exact .done ..
  | succ count ih =>
      cases cs with
      | nil => cases h
      | cons c cs =>
          simp only [hexDigits?, Option.bind_eq_bind, Option.bind_eq_some_iff] at h
          obtain ⟨v, hv, ⟨ds, left⟩, hds, heq⟩ := h
          cases heq
          exact .plain (not_mem_marks_of_hexValue? hv) (counts_skip.trans (ih hds))

/-- A brace closes behind a text without marks, but for equals signs. -/
theorem counts_upToBrace? {inner : List Char} (h : upToBrace? verbose cs = some (inner, rest))
    (hplain : ∀ c ∈ inner, c ∉ marks ∨ c = '=') : Counts verbose (depth + 1) depth cs rest := by
  unfold upToBrace? at h
  split at h
  case h_1 inner' c rest' heq =>
    cases h
    have hclose : c = '}' := by
      simpa using takeSkipping_stops (Nat.le_refl _) (congrArg Prod.snd heq)
    subst hclose
    have hinner : Counts verbose (depth + 1) (depth + 1) cs
        (takeSkipping verbose (· != '}') cs.length cs).2 :=
      counts_takeSkipping fun c hc =>
        (hplain c (by rwa [heq] at hc)).imp_right fun hequals => ⟨hequals, Nat.succ_pos depth⟩
    rw [heq] at hinner
    exact hinner.trans (.closes (by decide) (.done ..))
  case h_2 => cases h

end Scan

/-! ### Copies and escapes -/

variable {fs : Flags} {depth : Nat} {cs rest : List Char}

theorem Reader.counts_lazyMark {verbose : Bool} :
    Counts verbose depth depth cs (lazyMark cs).2 := by
  unfold lazyMark
  split
  · exact .plain (by decide) (.done ..)
  · exact .done ..

/-- The numbers of copies close the brace in front of them. -/
theorem Reader.counts_bounds? {verbose : Bool} {b : Nat × Option Nat}
    (h : bounds? verbose cs = some (b, rest)) : Counts verbose (depth + 1) depth cs rest := by
  have close : ∀ {ds : List Char}, Counts verbose (depth + 1) (depth + 1) cs ('}' :: ds) →
      Counts verbose (depth + 1) depth cs ds :=
    fun h => h.trans (.closes (by decide) (.done ..))
  have hmin : Counts verbose (depth + 1) (depth + 1) cs
      (Scan.decimal verbose (Scan.skip verbose cs)).2 := Scan.counts_skip.trans Scan.counts_decimal
  unfold bounds? at h
  split at h
  case h_1 min rest₀ heq =>
      cases h
      rw [heq] at hmin
      exact close hmin
  case h_2 min rest₀ heq =>
      rw [heq] at hmin
      have hcomma : Counts verbose (depth + 1) (depth + 1) cs (Scan.skip verbose rest₀) :=
        hmin.trans (.plain (by decide) Scan.counts_skip)
      split at h
      case h_1 rest₁ hskip =>
          cases h
          rw [hskip] at hcomma
          exact close hcomma
      case h_2 =>
          have hmax := hcomma.trans Scan.counts_decimal
          split at h
          case h_1 max rest₁ heq =>
              split at h
              case isTrue =>
                cases h
                rw [heq] at hmax
                exact close hmax
              case isFalse => cases h
          case h_2 => cases h
  case h_3 => cases h

namespace Escaped

variable {e : Escaped}

theorem not_mem_marks_of_charOfHex? {digits : List Char} {c : Char}
    (h : Scan.charOfHex? digits = some c) : ∀ d ∈ digits, d ∉ marks := by
  simp only [Scan.charOfHex?, Option.bind_eq_bind, Option.bind_eq_some_iff] at h
  obtain ⟨values, hvalues, -⟩ := h
  clear c
  induction digits generalizing values with
  | nil => simp
  | cons d digits ih =>
      simp only [List.mapM_cons, Option.bind_eq_bind, Option.bind_eq_some_iff] at hvalues
      obtain ⟨v, hv, vs, hvs, -⟩ := hvalues
      exact List.forall_mem_cons.2 ⟨not_mem_marks_of_hexValue? hv, ih vs hvs⟩

theorem counts_hex? {count : Nat} (h : hex? fs count cs = some (e, rest)) :
    Counts (fs.has .verbose) depth depth cs rest := by
  have hskip : Counts (fs.has .verbose) depth depth cs (Scan.skip (fs.has .verbose) cs) :=
    Scan.counts_skip
  simp only [hex?, Option.bind_eq_bind, pure] at h
  split at h
  case h_1 inner heq =>
      rw [heq] at hskip
      simp only [Option.bind_eq_some_iff] at h
      obtain ⟨⟨digits, rest₀⟩, hdigits, h⟩ := h
      split at h
      · cases h
      · obtain ⟨c, hc, heq⟩ := Option.bind_eq_some_iff.1 h
        cases heq
        exact hskip.trans (.opens (by decide) (Scan.counts_skip.trans
          (Scan.counts_upToBrace? hdigits fun d hd => .inl (not_mem_marks_of_charOfHex? hc d hd))))
  case h_2 =>
      simp only [Option.bind_eq_some_iff] at h
      obtain ⟨⟨digits, rest₀⟩, hdigits, c, -, heq⟩ := h
      cases heq
      exact hskip.trans (Scan.counts_hexDigits? hdigits)

theorem counts_wordBoundary? (h : wordBoundary? fs cs = some (e, rest)) :
    Counts (fs.has .verbose) depth depth cs rest := by
  unfold wordBoundary? at h
  split at h
  case h_1 inner =>
      simp only at h
      split at h
      case h_1 => cases h
      case h_2 c inner' hinner =>
          split at h
          · cases h
            exact .done ..
          · split at h
            case h_1 name rest₀ heq =>
                obtain ⟨side, -, hrest⟩ := Option.map_eq_some_iff.1 h
                cases hrest
                have hskip : Counts (fs.has .verbose) (depth + 1) (depth + 1) inner
                    (Scan.skip (fs.has .verbose) inner) := Scan.counts_skip
                have hname : Counts (fs.has .verbose) (depth + 1) (depth + 1) (c :: inner')
                    (Scan.takeSkipping (fs.has .verbose) (fun c => c.isAlpha || c = '-')
                      (inner'.length + 1) (c :: inner')).2 :=
                  Scan.counts_takeSkipping fun d hd =>
                    .inl (not_mem_marks (by decide) (Scan.mem_takeSkipping hd))
                rw [hinner] at hskip
                rw [heq] at hname
                exact .opens (by decide) ((hskip.trans hname).trans
                  (.closes (by decide) (.done ..)))
            case h_2 => cases h
  case h_2 =>
      cases h
      exact .done ..

/-- Whether the name of a property has no marks, besides equals signs in braces. -/
def isBareName (verbose : Bool) (cs : List Char) : Bool :=
  match Scan.skip verbose cs with
  | '{' :: cs => (Scan.upToBrace? verbose (Scan.skip verbose cs)).any fun (query, _) =>
      query.all fun c => !marks.contains c || c = '='
  | c :: _    => !marks.contains c
  | []        => true

/-- Whether the brackets in what follows a backslash open and close something. -/
def isBare (verbose : Bool) : List Char → Bool
  | 'p' :: cs | 'P' :: cs => isBareName verbose cs
  | _                     => true

theorem counts_property? {negated : Bool} (h : property? fs negated cs = some (e, rest))
    (hbare : isBareName (fs.has .verbose) cs = true) :
    Counts (fs.has .verbose) depth depth cs rest := by
  have hskip : Counts (fs.has .verbose) depth depth cs (Scan.skip (fs.has .verbose) cs) :=
    Scan.counts_skip
  refine hskip.trans ?_
  have finish : ∀ {query left : List Char}, ((if (!fs.has .unicode) = true then none
      else (querySet? query).bind fun s => some (set (.negateIf negated (fs.fold s)), left)) =
        some (e, rest)) → left = rest := by
    intro query left h
    split at h
    · cases h
    · obtain ⟨s, -, heq⟩ := Option.bind_eq_some_iff.1 h
      exact congrArg Prod.snd (Option.some.inj heq)
  simp only [property?, Option.bind_eq_bind, pure] at h
  unfold isBareName at hbare
  generalize Scan.skip (fs.has .verbose) cs = ds at h hbare ⊢
  split at h
  case h_1 inner =>
      obtain ⟨⟨query, left⟩, hquery, h⟩ := Option.bind_eq_some_iff.1 h
      obtain rfl := finish h
      refine .opens (by decide) (Scan.counts_skip.trans (Scan.counts_upToBrace? hquery ?_))
      simpa [hquery] using hbare
  case h_2 => cases h
  case h_3 c inner hbrace _ =>
      obtain rfl := finish h
      refine .plain ?_ (.done ..)
      split at hbare
      case h_1 heq => exact absurd (List.cons.inj heq).1 hbrace
      case h_2 heq =>
        obtain ⟨rfl, -⟩ := List.cons.inj heq
        simpa using hbare
      case h_3 heq => cases heq
  case h_4 => cases h

/-- What an escape takes behind its first character. -/
theorem read?_cases {c : Char} (h : read? fs (c :: cs) = some (e, rest)) :
    rest = cs ∨ (∃ count, hex? fs count cs = some (e, rest)) ∨
      ((c = 'p' ∨ c = 'P') ∧ ∃ negated, property? fs negated cs = some (e, rest)) ∨
      wordBoundary? fs cs = some (e, rest) := by
  simp only [read?] at h
  split at h
  case isTrue => cases h
  case isFalse =>
    split at h
    case isTrue =>
      cases h
      exact .inl rfl
    case isFalse =>
      split at h
      case h_1 =>
          cases h
          exact .inl rfl
      case h_2 =>
          split at h
          case h_1 | h_2 | h_3 => exact .inr (.inl ⟨_, h⟩)
          case h_4 => exact .inr (.inr (.inl ⟨.inl rfl, _, h⟩))
          case h_5 => exact .inr (.inr (.inl ⟨.inr rfl, _, h⟩))
          case h_14 => exact .inr (.inr (.inr h))
          case h_18 => cases h
          case h_12 | h_13 | h_15 | h_16 | h_17 =>
              cases h
              exact .inl rfl
          all_goals
            obtain ⟨s, -, hrest⟩ := Option.map_eq_some_iff.1 h
            cases hrest
            exact .inl rfl

/-- An escape leaves open what was open before it. -/
theorem counts_read? (h : read? fs cs = some (e, rest))
    (hbare : isBare (fs.has .verbose) cs = true) :
    Counts (fs.has .verbose) depth depth ('\\' :: cs) rest := by
  cases cs with
  | nil => cases h
  | cons c cs =>
      refine .escaped ?_
      rcases read?_cases h with rfl | ⟨count, hhex⟩ | ⟨rfl | rfl, negated, hproperty⟩ | hboundary
      · exact .done ..
      · exact counts_hex? hhex
      · exact counts_property? hproperty hbare
      · exact counts_property? hproperty hbare
      · exact counts_wordBoundary? hboundary

end Escaped

end Regex

end Signpost
