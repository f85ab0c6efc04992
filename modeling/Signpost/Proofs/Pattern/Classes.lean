import Signpost.Proofs.Pattern.Escapes
import Signpost.Proofs.Regex.Bracketed

/-!
# Patterns — bracketed classes in front of a default

In a class, brackets of the other kinds stand for themselves.  A class that has none of them and no
class inside it ends at its first closing bracket (`Class.behind?`), whatever ranges and operations
there are in it.  So it counts as a single pair of brackets.

* `Class.eq_of_body?`: such a class is read up to its first closing bracket.
* `Class.counts_read?`: it leaves open what was open before it.
-/

namespace Signpost.Regex.Class

/-- What is behind the first closing bracket of a text, unless there are other brackets in front of
it, a property or, in a verbose expression, a comment. -/
def behind? (verbose : Bool) : List Char → Option (List Char)
  | []              => none
  | ']' :: more     => some more
  | '\\' :: c :: cs => if c = 'p' ∨ c = 'P' then none else behind? verbose cs
  | c :: cs         =>
    if c ∈ ['(', ')', '[', '{', '}', '\\'] ∨ (verbose = true ∧ c = '#') then none
    else behind? verbose cs

/-- Whether a class has no brackets in it. -/
def isBare (verbose : Bool) (cs : List Char) : Bool :=
  (caret verbose cs).2.head? != some ']' && (behind? verbose (caret verbose cs).2).isSome

section behind

variable {verbose : Bool} {c : Char} {cs more : List Char}

theorem behind?_escaped (h : behind? verbose ('\\' :: c :: cs) = some more) :
    (c ≠ 'p' ∧ c ≠ 'P') ∧ behind? verbose cs = some more := by
  rw [behind?] at h
  split at h
  case isTrue => cases h
  case isFalse hc => exact ⟨not_or.1 hc, h⟩

theorem behind?_cons (hclose : c ≠ ']') (hslash : c ≠ '\\')
    (h : behind? verbose (c :: cs) = some more) :
    (c ∉ ['(', ')', '[', '{', '}', '\\'] ∧ ¬ (verbose = true ∧ c = '#')) ∧
      behind? verbose cs = some more := by
  rw [behind?] at h
  · split at h
    case isTrue => cases h
    case isFalse hc => exact ⟨not_or.1 hc, h⟩
  · exact hclose
  · exact fun _ _ heq => absurd heq hslash

theorem behind?_plain (hc : c ∉ marks) (h : behind? verbose (c :: cs) = some more) :
    behind? verbose cs = some more := by
  have hclose : c ≠ ']' := fun heq => hc (heq ▸ by decide)
  have hslash : c ≠ '\\' := fun heq => hc (heq ▸ by decide)
  exact (behind?_cons hclose hslash h).2

theorem ne_of_behind? {d : Char} (hd : d ∈ ['(', ')', '[', '{', '}'])
    (h : behind? verbose (c :: cs) = some more) : c ≠ d := by
  rintro rfl
  simp only [List.mem_cons, List.not_mem_nil, or_false] at hd
  obtain rfl | rfl | rfl | rfl | rfl := hd
  all_goals exact absurd ((behind?_cons (by decide) (by decide) h).1.1) (by decide)

/-- The first closing bracket closes the bracket in front of the text. -/
theorem counts_behind? {depth : Nat} (h : behind? verbose cs = some more) :
    Counts verbose (depth + 1) depth cs more := by
  induction cs using behind?.induct verbose with
  | case1 => cases h
  | case2 more =>
      cases h
      exact .closes (by decide) (.done ..)
  | case3 c cs hc =>
      rw [behind?, if_pos hc] at h
      cases h
  | case4 c cs hc ih => exact .escaped (ih (behind?_escaped h).2)
  | case5 c cs hclose hslash hc =>
      rw [behind?, if_pos hc] at h
      · cases h
      · exact hclose
      · exact hslash
  | case6 c cs hclose hslash hc ih =>
      obtain ⟨hother, -⟩ := not_or.1 hc
      rw [behind?, if_neg hc] at h
      · refine .nested ?_ (ih h)
        by_cases hequals : c = '='
        · exact .inr ⟨hequals, Nat.succ_pos depth⟩
        · refine .inl fun hmark => ?_
          simp only [marks, List.mem_cons, List.not_mem_nil, or_false] at hmark hother
          grind
      · exact hclose
      · exact hslash

/-! ### Blanks -/

theorem behind?_dropWhile (h : behind? verbose cs = some more) :
    behind? verbose (cs.dropWhile Unicode.isSpace) = some more := by
  induction cs with
  | nil => exact h
  | cons c cs ih =>
      by_cases hc : Unicode.isSpace c
      · rw [List.dropWhile_cons_of_pos hc]
        exact ih (behind?_plain (not_mem_marks_of_isSpace hc) h)
      · rwa [List.dropWhile_cons_of_neg hc]

/-- There are no comments to skip, only blanks. -/
theorem skip_eq_of_behind? (h : behind? true cs = some more) :
    Scan.skip true cs = cs.dropWhile Unicode.isSpace := by
  have hbehind := behind?_dropWhile h
  have hhead := List.head?_dropWhile_not Unicode.isSpace cs
  show Scan.dropComments false cs = _
  rw [← dropComments_dropWhile]
  cases hcs : cs.dropWhile Unicode.isSpace with
  | nil => rfl
  | cons c ds =>
      rw [hcs] at hbehind hhead
      have hspace : Unicode.isSpace c = false := by simpa using hhead
      have hsign : c ≠ '#' := by
        rintro rfl
        exact (behind?_cons (by decide) (by decide) hbehind).1.2 ⟨rfl, rfl⟩
      simp [Scan.dropComments, hspace, hsign]

theorem behind?_skip (h : behind? verbose cs = some more) :
    behind? verbose (Scan.skip verbose cs) = some more := by
  cases verbose with
  | false => exact h
  | true =>
      rw [skip_eq_of_behind? h]
      exact behind?_dropWhile h

theorem peek?_eq_of_behind? (h : behind? verbose cs = some more) :
    peek? verbose cs = (Scan.skip verbose cs).head? := by
  cases verbose with
  | false => rfl
  | true =>
      have hbehind := behind?_dropWhile h
      rw [skip_eq_of_behind? h, peek?_true, nextPart]
      cases hcs : cs.dropWhile Unicode.isSpace with
      | nil =>
          rw [hcs] at hbehind
          cases hbehind
      | cons c ds =>
          rw [hcs] at hbehind
          have hsign : c ≠ '#' := by
            rintro rfl
            exact (behind?_cons (by decide) (by decide) hbehind).1.2 ⟨rfl, rfl⟩
          simp [hsign]

theorem behind?_takeSkipping {p : Char → Bool} (hp : ∀ c, p c = true → c ∉ marks) {n : Nat}
    (h : behind? verbose cs = some more) :
    behind? verbose (Scan.takeSkipping verbose p n cs).2 = some more := by
  induction n generalizing cs with
  | zero => exact h
  | succ n ih =>
      cases cs with
      | nil => exact h
      | cons c cs =>
          rw [Scan.takeSkipping]
          split
          case isTrue hc => exact ih (behind?_skip (behind?_plain (hp c hc) h))
          case isFalse => exact h

theorem behind?_hexDigits? {count : Nat} {digits rest : List Char}
    (hread : Scan.hexDigits? verbose count cs = some (digits, rest))
    (h : behind? verbose cs = some more) : behind? verbose rest = some more := by
  induction count generalizing cs digits with
  | zero =>
      cases hread
      exact h
  | succ count ih =>
      cases cs with
      | nil => cases hread
      | cons c cs =>
          simp only [Scan.hexDigits?, Option.bind_eq_bind, Option.bind_eq_some_iff] at hread
          obtain ⟨v, hv, ⟨ds, left⟩, hds, heq⟩ := hread
          cases heq
          exact ih hds (behind?_skip (behind?_plain (not_mem_marks_of_hexValue? hv) h))

end behind

/-! ### Ranges -/

section range

variable {fs : Flags} {e : Escaped} {cs rest more : List Char}

theorem behind?_hex? {count : Nat} (hread : Escaped.hex? fs count cs = some (e, rest))
    (h : behind? (fs.has .verbose) cs = some more) :
    behind? (fs.has .verbose) rest = some more := by
  have hskip := behind?_skip h
  simp only [Escaped.hex?, Option.bind_eq_bind, pure] at hread
  split at hread
  case h_1 heq =>
      rw [heq] at hskip
      exact absurd rfl (ne_of_behind? (by decide) hskip)
  case h_2 =>
      simp only [Option.bind_eq_some_iff] at hread
      obtain ⟨⟨digits, left⟩, hdigits, c, -, heq⟩ := hread
      cases heq
      exact behind?_hexDigits? hdigits hskip

theorem behind?_wordBoundary? (hread : Escaped.wordBoundary? fs cs = some (e, rest))
    (h : behind? (fs.has .verbose) cs = some more) :
    behind? (fs.has .verbose) rest = some more := by
  unfold Escaped.wordBoundary? at hread
  split at hread
  case h_1 => exact absurd rfl (ne_of_behind? (by decide) h)
  case h_2 =>
      cases hread
      exact h

theorem behind?_read? (hread : Escaped.read? fs cs = some (e, rest))
    (h : behind? (fs.has .verbose) ('\\' :: cs) = some more) :
    behind? (fs.has .verbose) rest = some more := by
  cases cs with
  | nil => cases hread
  | cons c cs =>
      obtain ⟨⟨hp, hP⟩, h⟩ := behind?_escaped h
      rcases Escaped.read?_cases hread with rfl | ⟨count, hhex⟩ | ⟨hc, -⟩ | hboundary
      · exact h
      · exact behind?_hex? hhex h
      · exact absurd hc (not_or.2 ⟨hp, hP⟩)
      · exact behind?_wordBoundary? hboundary h

theorem behind?_atom? (hread : atom? fs cs = some (e, rest)) (hhead : cs.head? ≠ some ']')
    (h : behind? (fs.has .verbose) cs = some more) :
    behind? (fs.has .verbose) rest = some more := by
  unfold atom? at hread
  split at hread
  case h_1 => cases hread
  case h_2 => exact behind?_read? hread h
  case h_3 c cs hslash =>
      cases hread
      have hclose : c ≠ ']' := by simpa using hhead
      exact (behind?_cons hclose hslash h).2

/-- A range ends in front of the closing bracket. -/
theorem behind?_range? {s : CharSet} (hread : range? fs cs = some (s, rest))
    (hhead : cs.head? ≠ some ']') (h : behind? (fs.has .verbose) cs = some more) :
    behind? (fs.has .verbose) rest = some more := by
  simp only [range?, Option.bind_eq_bind, Option.bind_eq_some_iff] at hread
  obtain ⟨⟨first, left⟩, hfirst, hread⟩ := hread
  have hleft := behind?_skip (behind?_atom? hfirst hhead h)
  split at hread
  case h_1 => cases hread
  case h_2 after heq =>
      rw [heq] at hleft
      have hafter := behind?_plain (by decide) hleft
      split at hread
      case isTrue =>
        obtain ⟨s, -, heq⟩ := Option.bind_eq_some_iff.1 hread
        cases heq
        exact hleft
      case isFalse hnext =>
        rw [peek?_eq_of_behind? hafter] at hnext
        obtain ⟨⟨last, right⟩, hlast, hread⟩ := Option.bind_eq_some_iff.1 hread
        obtain ⟨lo, -, hread⟩ := Option.bind_eq_some_iff.1 hread
        obtain ⟨hi, -, hread⟩ := Option.bind_eq_some_iff.1 hread
        split at hread
        · cases hread
          exact behind?_atom? hlast (fun hclose => hnext (by simp [hclose])) (behind?_skip hafter)
        · cases hread
  case h_3 =>
      obtain ⟨s, -, heq⟩ := Option.bind_eq_some_iff.1 hread
      cases heq
      exact hleft

end range

/-! ### Classes -/

variable {fs : Flags} {cs rest more : List Char} {p : Part}

/-- **A class without brackets** is read up to its first closing bracket. -/
theorem eq_of_body? {fuel : Nat} {pending : Option (Operation × Part)} {items : Items}
    (hread : body? fs fuel pending items cs = some (p, rest))
    (h : behind? (fs.has .verbose) cs = some more) : rest = more := by
  induction fuel generalizing pending items cs with
  | zero => cases hread
  | succ fuel ih =>
      have hskip := behind?_skip h
      rw [body?] at hread
      split at hread
      case h_1 => cases hread
      case h_2 left heq =>
          cases hread
          rw [heq] at hskip
          exact Option.some.inj hskip
      case h_3 heq =>
          rw [heq] at hskip
          exact absurd rfl (ne_of_behind? (by decide) hskip)
      case h_4 c left hclose _ heq =>
          rw [heq] at hskip
          have hrange : ∀ {s : CharSet} {right : List Char},
              range? fs (c :: left) = some (s, right) →
                behind? (fs.has .verbose) right = some more :=
            fun hread => behind?_range? hread (by simpa using hclose) hskip
          split at hread
          case h_1 op d right hop =>
              split at hread
              case isTrue hd =>
                -- an operation is written with two characters, neither of which is a mark
                subst hd
                have hplain : d ∉ marks :=
                  not_mem_marks (p := fun c => (Operation.ofChar? c).isSome) (by decide)
                    (by rw [hop]; rfl)
                exact ih hread (behind?_plain hplain (behind?_plain hplain hskip))
              case isFalse =>
                obtain ⟨⟨s, right⟩, hs, hread⟩ := Option.bind_eq_some_iff.1 hread
                exact ih hread (hrange hs)
          case h_2 =>
              obtain ⟨⟨s, right⟩, hs, hread⟩ := Option.bind_eq_some_iff.1 hread
              exact ih hread (hrange hs)

theorem count_foldl_add (f : Char → Part) (hyphens : List Char) (items : Items) :
    (hyphens.foldl (fun items c => items.add (f c)) items).count =
      items.count + hyphens.length := by
  induction hyphens generalizing items with
  | nil => rfl
  | cons c hyphens ih =>
      rw [List.foldl_cons, ih, List.length_cons, Nat.add_comm hyphens.length, ← Nat.add_assoc]
      rfl

/-- Hyphens may stand for themselves at the beginning, and a closing bracket behind them closes. -/
theorem behind?_literals {verbose : Bool} (hhead : cs.head? ≠ some ']')
    (h : behind? verbose cs = some more) : behind? verbose (literals verbose cs).2 = some more := by
  have hhyphens :
      behind? verbose (Scan.takeSkipping verbose (· = '-') cs.length cs).2 = some more :=
    behind?_takeSkipping (fun c hc => by rw [of_decide_eq_true hc]; decide) h
  simp only [literals, count_foldl_add]
  split
  case h_1 heq hcount =>
    -- without hyphens the bracket would be the first character
    have hnil : (Scan.takeSkipping verbose (· = '-') cs.length cs).1 = [] :=
      List.length_eq_zero_iff.1 (by simpa using hcount)
    rw [Scan.eq_of_takeSkipping_nil hnil] at heq
    exact absurd (by rw [heq]; rfl) hhead
  case h_2 => exact hhyphens

/-- **A class without brackets** leaves open what was open before it. -/
theorem counts_read? {depth : Nat} (hread : read? fs cs = some (p, rest))
    (hbare : isBare (fs.has .verbose) cs = true) :
    Counts (fs.has .verbose) depth depth ('[' :: cs) rest := by
  obtain ⟨hhead, hbehind⟩ := Bool.and_eq_true_iff.1 hbare
  obtain ⟨more, hcaret⟩ := Option.isSome_iff_exists.1 hbehind
  simp only [read?, opening_eq, Option.bind_eq_bind, Option.bind_eq_some_iff] at hread
  obtain ⟨⟨part, left⟩, hbody, s, -, heq⟩ := hread
  cases heq
  obtain rfl := eq_of_body? hbody (behind?_literals (by simpa using hhead) hcaret)
  refine .opens (by decide) (.trans ?_ (counts_behind? hcaret))
  have hskip : Counts (fs.has .verbose) (depth + 1) (depth + 1) cs
      (Scan.skip (fs.has .verbose) cs) := Scan.counts_skip
  unfold caret
  split
  case h_1 ds heq =>
    rw [heq] at hskip
    exact hskip.trans (.plain (by decide) Scan.counts_skip)
  case h_2 => exact hskip

end Signpost.Regex.Class
