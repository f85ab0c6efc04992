import Signpost.Unicode.CaseFold

/-!
# Unicode — what has no case

No orbit of case folding reaches below the letters, so digits and most marks have no case: folding a
set of them adds nothing.  In particular a dot only stands for itself.

The table of the orbits is a long text.  Instead of the orbits, a single pass over its characters is
evaluated (`Table.scan`), which adds up the digits of one word at a time.

* `caseOrbits_above`: the code points of the orbits.
* `CharSet.foldCase_eq`: a set of characters without case stays what it is.
-/

namespace Signpost

namespace Unicode

/-! ### A pass over a table -/

namespace Table

/-- The number of a word goes on with a character. -/
def onward (n : Nat) (c : Char) : Nat := bif c == ';' then n else 16 * n + hexDigit c

/-- Whether all numbers in a text are above the digits, where `a` is what the word so far comes to,
if there is one. -/
def scan : (a : Option Nat) → List Char → Bool
  | a, []      => a.all (Nat.blt 64)
  | a, c :: cs =>
    bif c == ' ' || c == '\n' then a.all (Nat.blt 64) && scan none cs
    else scan (some (onward (a.getD 0) c)) cs

/-- The code point that a word stands for, which may be followed by a semicolon. -/
def codePoint (word : List Char) : Nat :=
  if word.getLast? = some ';' then hexNumber word.dropLast else hexNumber word

theorem foldl_onward_le {n m : Nat} (h : n ≤ m) (word : List Char) :
    word.foldl onward n ≤ word.foldl (fun n c => 16 * n + hexDigit c) m := by
  induction word generalizing n m with
  | nil => exact h
  | cons c word ih =>
      refine ih ?_
      unfold onward
      cases c == ';'
      · exact Nat.add_le_add_right (Nat.mul_le_mul_left 16 h) _
      · show n ≤ 16 * m + hexDigit c
        omega

/-- The digits of a word come to no more than its code point. -/
theorem foldl_onward_le_codePoint (word : List Char) : word.foldl onward 0 ≤ codePoint word := by
  unfold codePoint
  split
  case isTrue hlast =>
    obtain ⟨digits, rfl⟩ := List.getLast?_eq_some_iff.1 hlast
    rw [List.foldl_append, List.dropLast_concat]
    exact foldl_onward_le (Nat.le_refl 0) digits
  case isFalse => exact foldl_onward_le (Nat.le_refl 0) _

/-- What a pass finds out about the words, and about the one that is not complete yet. -/
theorem above_of_scan {a : Option Nat} {text : List Char} (h : scan a text = true) :
    ∀ last rest, text.foldr (fun c acc => if c = ' ' || c = '\n' then
        ([], if acc.1.isEmpty then acc.2 else acc.1 :: acc.2) else (c :: acc.1, acc.2))
        ([], []) = (last, rest) →
      (∀ w ∈ rest, 64 < codePoint w) ∧
        (a = none ∧ last = [] ∨ 64 < last.foldl onward (a.getD 0)) := by
  have hend : ∀ a : Option Nat, a.all (Nat.blt 64) = true →
      a = none ∧ ([] : List Char) = [] ∨ 64 < ([] : List Char).foldl onward (a.getD 0) := by
    intro a ha
    cases a with
    | none => exact .inl ⟨rfl, rfl⟩
    | some n => exact .inr (Nat.le_of_ble_eq_true ha)
  induction text generalizing a with
  | nil =>
      rintro last rest ⟨⟩
      exact ⟨by simp, hend a h⟩
  | cons c text ih =>
      intro last rest heq
      rw [List.foldr_cons] at heq
      generalize text.foldr _ _ = acc at heq ih
      obtain ⟨word, words⟩ := acc
      by_cases hsep : c = ' ' ∨ c = '\n'
      · have hscan : a.all (Nat.blt 64) = true ∧ scan none text = true := by
          rcases hsep with rfl | rfl <;> simpa [scan] using h
        obtain ⟨hwords, hword⟩ := ih hscan.2 word words rfl
        rw [if_pos (by simpa using hsep)] at heq
        obtain ⟨rfl, rfl⟩ := Prod.mk.inj heq
        refine ⟨?_, hend a hscan.1⟩
        rcases hword with ⟨-, rfl⟩ | habove
        · exact hwords
        · have hfirst := Nat.lt_of_lt_of_le habove (foldl_onward_le_codePoint word)
          split
          case isTrue => exact hwords
          case isFalse => exact List.forall_mem_cons.2 ⟨hfirst, hwords⟩
      · have hscan : scan (some (onward (a.getD 0) c)) text = true := by
          obtain ⟨hblank, hline⟩ := not_or.1 hsep
          simpa [scan, hblank, hline] using h
        obtain ⟨hwords, hword⟩ := ih hscan word words rfl
        rw [if_neg (by simpa using hsep)] at heq
        obtain ⟨rfl, rfl⟩ := Prod.mk.inj heq
        exact ⟨hwords, .inr (hword.resolve_left fun hnone => nomatch hnone.1)⟩

/-- **A pass tells about all words of a table.** -/
theorem above_words {text : List Char} (h : scan none text = true) :
    ∀ w ∈ words text, 64 < codePoint w := by
  unfold words
  extract_lets step
  cases heq : text.foldr step ([], []) with
  | mk last rest =>
      obtain ⟨hrest, hlast⟩ := above_of_scan h last rest heq
      show ∀ w ∈ (if last.isEmpty then rest else last :: rest), 64 < codePoint w
      split
      case isTrue => exact hrest
      case isFalse hempty =>
        refine List.forall_mem_cons.2 ⟨?_, hrest⟩
        rcases hlast with ⟨-, rfl⟩ | habove
        · exact absurd rfl hempty
        · exact Nat.lt_of_lt_of_le habove (foldl_onward_le_codePoint last)

end Table

/-! ### The orbits -/

/-- The code points of the orbits are those of the words. -/
theorem forall_mem_orbitsOf {P : Nat → Prop} {ws : List (List Char)}
    (h : ∀ w ∈ ws, P (Table.codePoint w)) : ∀ o ∈ orbitsOf ws, ∀ n ∈ o, P n := by
  unfold orbitsOf
  extract_lets step
  have hfold : (∀ n ∈ (ws.foldr step ([], [])).1, P n) ∧
      ∀ o ∈ (ws.foldr step ([], [])).2, ∀ n ∈ o, P n := by
    induction ws with
    | nil => simp
    | cons w ws ih =>
        obtain ⟨hw, hws⟩ := List.forall_mem_cons.1 h
        obtain ⟨hfirst, hrest⟩ := ih hws
        rw [List.foldr_cons]
        generalize ws.foldr step ([], []) = acc at hfirst hrest
        unfold Table.codePoint at hw
        simp only [step]
        split at hw
        case isTrue hlast =>
          rw [if_pos hlast]
          refine ⟨by simpa using hw, ?_⟩
          show ∀ o ∈ (if acc.1.isEmpty then acc.2 else acc.1 :: acc.2), ∀ n ∈ o, P n
          split
          case isTrue => exact hrest
          case isFalse => exact List.forall_mem_cons.2 ⟨hfirst, hrest⟩
        case isFalse hlast =>
          rw [if_neg hlast]
          exact ⟨List.forall_mem_cons.2 ⟨hw, hfirst⟩, hrest⟩
  show ∀ o ∈ (if (ws.foldr step ([], [])).1.isEmpty then (ws.foldr step ([], [])).2
    else (ws.foldr step ([], [])).1 :: (ws.foldr step ([], [])).2), ∀ n ∈ o, P n
  split
  case isTrue => exact hfold.2
  case isFalse => exact List.forall_mem_cons.2 hfold

set_option maxRecDepth 1000000 in
/-- The text of the table is evaluated as a list of characters. -/
theorem scan_caseFoldData :
    ∃ cs, caseFoldData = String.ofList cs ∧ Table.scan none cs = true := by
  -- given as a term, the pair has its characters unified one by one
  constructor
  constructor
  · rfl
  · decide +kernel

/-- **The orbits of case folding lie above the digits.** -/
theorem caseOrbits_above : ∀ o ∈ caseOrbits, ∀ n ∈ o, 64 < n := by
  obtain ⟨cs, hcs, hscan⟩ := scan_caseFoldData
  rw [caseOrbits, hcs, String.toList_ofList]
  exact forall_mem_orbitsOf (Table.above_words hscan)

theorem latinOrbits_above : ∀ o ∈ latinOrbits, ∀ n ∈ o, 64 < n := by
  decide

end Unicode

/-! ### Sets without case -/

namespace CharSet

open Unicode

/-- A set below all orbits meets none. -/
theorem closeUnder_eq {orbits : List (List Nat)} (horbits : ∀ o ∈ orbits, ∀ n ∈ o, 64 < n)
    {s : CharSet} (hs : ∀ n, s.containsCode n → n ≤ 64) :
    s.closeUnder orbits = .union s (.ranges []) := by
  have hnone : orbits.filter (fun o => o.any s.containsCode) = [] := by
    refine List.filter_eq_nil_iff.2 fun o ho hmeets => ?_
    obtain ⟨n, hn, hmem⟩ := List.any_eq_true.1 hmeets
    exact absurd (hs n hmem) (Nat.not_le.2 (horbits o ho n hn))
  rw [closeUnder, hnone]
  rfl

/-- **A set of characters without case stays what it is.** -/
theorem foldCase_eq {s : CharSet} (hs : ∀ n, s.containsCode n → n ≤ 64) (unicode : Bool) :
    s.foldCase unicode = .union s (.ranges []) := by
  rw [foldCase]
  split
  case isTrue => exact closeUnder_eq caseOrbits_above hs
  case isFalse => exact closeUnder_eq latinOrbits_above hs

end CharSet

end Signpost
