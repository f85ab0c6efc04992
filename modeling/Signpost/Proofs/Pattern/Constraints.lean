import Signpost.Proofs.Pattern.Classes
import Signpost.Proofs.Regex.Wrapping

/-!
# Patterns — a constraint that is a regular expression

The split counts brackets of all kinds alike, wherever they stand.  In an expression there may be
brackets that open and close nothing: those in a class, in the name of a property or of a group and
in a comment, and a closing bracket or brace by itself.  A piece without any is counted as the
groups that it opens and closes (`Reader.isBare`).  Where the others balance (`Regex.IsTidy`), the
split follows the nesting of the expression: what is open for the one is open for the other,
wherever a run comes by.

* `Reader.counts_step?`: a piece without such brackets.
* `Reader.passes_next?`, `Reader.Reads.passes`: a step, and then a run, of a tidy expression.
* `splitDefault_of_isTidy`: a tidy expression is not cut, and a default behind it is found.
* `splitDefault_swallows`: a parenthesis in a class takes the default with it.
-/

namespace Signpost

namespace Regex

/-- Whether the name of the group that a parenthesis opens, if it has one, has no marks. -/
def Reader.isBareOpening (cs : List Char) : Bool :=
  (Scan.after? "?P<".toList cs <|> Scan.after? "?<".toList cs).all fun name =>
    (name.takeWhile (· != '>')).all (!marks.contains ·)

/-- Whether all brackets in the piece at the beginning of a text open and close something. -/
def Reader.isBare (verbose : Bool) : List Char → Bool
  | ']' :: _ | '}' :: _ => false
  | '[' :: cs           => Class.isBare verbose cs
  | '\\' :: cs          => Escaped.isBare verbose cs
  | '(' :: cs           => isBareOpening (Scan.skip verbose cs)
  | _                   => true

namespace Reader

/-! ### Groups -/

variable {r r' : Reader} {c : Char} {cs rest left : List Char}

theorem not_mem_marks_of_settings? {negated : Bool} {seen : List Flag}
    {settings : List (Flag × Bool)} (h : settings? negated seen cs = some settings) :
    ∀ c ∈ cs, c ∉ marks := by
  induction cs generalizing negated seen settings with
  | nil => simp
  | cons c cs ih =>
      by_cases hc : c = '-'
      · subst hc
        rw [settings?] at h
        split at h
        · cases h
        · exact List.forall_mem_cons.2 ⟨by decide, ih h⟩
      · rw [settings?] at h
        · simp only [Option.bind_eq_bind, Option.bind_eq_some_iff] at h
          obtain ⟨f, hf, h⟩ := h
          have hplain : c ∉ marks :=
            not_mem_marks (p := fun c => (Flag.ofLetter? c).isSome) (by decide) (by rw [hf]; rfl)
          split at h
          · cases h
          · refine List.forall_mem_cons.2 ⟨hplain, ?_⟩
            split at h
            case isTrue hnil => simp [List.isEmpty_iff.1 hnil]
            case isFalse =>
              obtain ⟨others, hothers, -⟩ := Option.bind_eq_some_iff.1 h
              exact ih hothers
        · exact hc

/-- Flags close the parenthesis in front of them, or open a group. -/
theorem counts_readFlags? {verbose : Bool} (h : r.readFlags? cs = some (r', rest)) :
    Counts verbose (r.groups.length + 1) r'.groups.length cs rest := by
  simp only [readFlags?, Option.bind_eq_bind, Option.bind_eq_some_iff] at h
  obtain ⟨settings, hsettings, h⟩ := h
  have hletters : Counts verbose (r.groups.length + 1) (r.groups.length + 1)
      (cs.takeWhile (fun c => !(c = ':' || c = ')')) ++
        cs.dropWhile fun c => !(c = ':' || c = ')'))
      (cs.dropWhile fun c => !(c = ':' || c = ')')) :=
    .plains (not_mem_marks_of_settings? hsettings)
  rw [List.takeWhile_append_dropWhile] at hletters
  refine hletters.trans ?_
  split at h
  case h_1 rest₀ heq =>
      cases h
      rw [heq]
      exact .plain (by decide) (.done ..)
  case h_2 rest₀ heq =>
      split at h
      · cases h
      · cases h
        rw [heq]
        exact .closes (by decide) (.done ..)
  case h_3 => cases h

theorem length_groups_of_openCapture? {name : Option String} (h : r.openCapture? name = some r') :
    r'.groups.length = r.groups.length + 1 := by
  obtain ⟨-, rfl⟩ := openCapture?_eq_some.1 h
  rfl

theorem counts_named? {verbose : Bool} (h : r.named? cs = some (r', rest))
    (hname : ∀ c ∈ cs.takeWhile (· != '>'), c ∉ marks) :
    Counts verbose (r.groups.length + 1) r'.groups.length cs rest := by
  simp only [named?, Option.bind_eq_bind, Option.bind_eq_some_iff] at h
  obtain ⟨left, hleft, h⟩ := h
  have hletters : Counts verbose (r.groups.length + 1) (r.groups.length + 1)
      (cs.takeWhile (· != '>') ++ cs.dropWhile (· != '>')) (cs.dropWhile (· != '>')) :=
    .plains hname
  rw [List.takeWhile_append_dropWhile] at hletters
  refine hletters.trans ?_
  rw [Scan.after?_eq_some.1 hleft]
  split at h
  case isTrue =>
    obtain ⟨r₁, hr₁, heq⟩ := Option.bind_eq_some_iff.1 h
    cases heq
    rw [length_groups_of_openCapture? hr₁]
    exact .plain (by decide) (.done ..)
  case isFalse => cases h

/-- A parenthesis opens a group, unless it sets flags, and then it closes again. -/
theorem counts_readOpening? (h : r.readOpening? cs = some (r', rest))
    (hbare : isBareOpening (Scan.skip r.isVerbose cs) = true) :
    Counts r.isVerbose r.groups.length r'.groups.length ('(' :: cs) rest := by
  refine .opens (by decide) (Scan.counts_skip.trans ?_)
  rw [readOpening?_eq] at h
  unfold isBareOpening at hbare
  generalize Scan.skip r.isVerbose cs = ds at h hbare ⊢
  unfold opened? at h
  simp only at h
  split at h
  · cases h
  split at h
  case h_1 _ _ name hafter =>
      rw [hafter] at hbare
      have hname : Counts r.isVerbose (r.groups.length + 1) r'.groups.length name rest :=
        counts_named? h (by simpa using hbare)
      cases hlong : Scan.after? "?P<".toList ds with
      | some name' =>
          rw [hlong] at hafter
          obtain rfl : name' = name := Option.some.inj hafter
          rw [Scan.after?_eq_some.1 hlong]
          exact .plain (by decide) (.plain (by decide) (.plain (by decide) hname))
      | none =>
          rw [hlong] at hafter
          rw [Scan.after?_eq_some.1 (hafter : Scan.after? "?<".toList ds = some name)]
          exact .plain (by decide) (.plain (by decide) hname)
  case h_2 _ _ flags _ hafter =>
      rw [Scan.after?_eq_some.1 hafter]
      exact .plain (by decide) (counts_readFlags? h)
  case h_3 =>
      obtain ⟨r₁, hr₁, heq⟩ := Option.map_eq_some_iff.1 h
      cases heq
      rw [length_groups_of_openCapture? hr₁]
      exact .done ..

theorem length_groups_of_closeGroup? (h : r.closeGroup? = some r') :
    r.groups.length = r'.groups.length + 1 := by
  obtain ⟨g, gs, hgroups, rfl⟩ := closeGroup?_eq_some.1 h
  rw [hgroups]
  rfl

theorem groups_of_repeatLast? {min : Nat} {max : Option Nat} {mark : Bool}
    (h : r.repeatLast? min max mark = some r') : r'.groups = r.groups := by
  obtain ⟨p, ps, -, -, rfl⟩ := repeatLast?_eq_some.1 h
  rfl

/-! ### Steps -/

/-- **A step** opens and closes groups as its brackets are counted, if they open and close
something. -/
theorem counts_step? (h : r.step? c cs = some (r', rest))
    (hbare : isBare r.isVerbose (c :: cs) = true) (hnested : c = '=' → r.groups ≠ []) :
    Counts r.isVerbose r.groups.length r'.groups.length (c :: cs) rest := by
  -- a single character, and perhaps a question mark behind it
  have copies : ∀ {min : Nat} {max : Option Nat} {ds : List Char},
      (r.repeatLast? min max (lazyMark ds).1).bind (fun r₁ => some (r₁, (lazyMark ds).2)) =
        some (r', rest) →
      Counts r.isVerbose r.groups.length r'.groups.length ds rest := by
    intro min max ds h
    obtain ⟨r₁, hr₁, heq⟩ := Option.bind_eq_some_iff.1 h
    cases heq
    rw [groups_of_repeatLast? hr₁]
    exact counts_lazyMark
  simp only [step?, Option.bind_eq_bind, pure] at h
  split at h
  case h_1 => exact counts_readOpening? h hbare
  case h_2 =>
      obtain ⟨r₁, hr₁, heq⟩ := Option.map_eq_some_iff.1 h
      cases heq
      rw [length_groups_of_closeGroup? hr₁]
      exact .closes (by decide) (.done ..)
  case h_3 =>
      cases h
      exact .plain (by decide) (.done ..)
  case h_4 =>
      obtain ⟨⟨p, rest₀⟩, hp, heq⟩ := Option.map_eq_some_iff.1 h
      cases heq
      exact Class.counts_read? hp hbare
  case h_5 | h_6 | h_7 => exact .plain (by decide) (copies h)
  case h_8 =>
      obtain ⟨⟨⟨min, max⟩, rest₀⟩, hbounds, h⟩ := Option.bind_eq_some_iff.1 h
      exact .opens (by decide) ((counts_bounds? hbounds).trans (Scan.counts_skip.trans (copies h)))
  case h_9 =>
      obtain ⟨n, -, heq⟩ := Option.map_eq_some_iff.1 h
      cases heq
      exact .plain (by decide) (.done ..)
  case h_10 | h_11 =>
      cases h
      exact .plain (by decide) (.done ..)
  case h_12 =>
      obtain ⟨⟨e, rest₀⟩, he, h⟩ := Option.bind_eq_some_iff.1 h
      obtain ⟨n, -, heq⟩ := Option.bind_eq_some_iff.1 h
      cases heq
      exact Escaped.counts_read? he hbare
  case h_13 =>
      cases h
      by_cases hequals : c = '='
      · subst hequals
        refine .one (by decide) (fun hfree => hnested rfl (List.length_eq_zero_iff.1 hfree.2)) ?_
        exact .done ..
      · refine .plain (fun hmark => ?_) (.done ..)
        -- the other marks begin pieces of their own
        obtain rfl | rfl : c = ']' ∨ c = '}' := by
          simp only [marks, List.mem_cons, List.not_mem_nil, or_false] at hmark
          grind
        all_goals cases hbare

/-! ### Runs -/

/-- What has been read, and what is left, behind the next piece, or behind the blanks at the end. -/
def next? (r : Reader) (rest : List Char) : Option (Reader × List Char) :=
  match Scan.skip r.isVerbose rest with
  | []      => some (r, [])
  | c :: cs => r.step? c cs

/-- Whether a run through the text comes by `r`, with `rest` left to read. -/
def Visits (text : List Char) (r : Reader) (rest : List Char) : Prop :=
  ∃ n ps, Reads n {} text ps r rest

/-- Whether the next piece is in a group if it is an equals sign. -/
def IsNestedAt (r : Reader) (rest : List Char) : Prop :=
  (Scan.skip r.isVerbose rest).head? = some '=' → r.groups ≠ []

instance (r : Reader) : DecidablePred r.IsNestedAt := fun rest =>
  decidable_of_iff ((Scan.skip r.isVerbose rest).head? = some '=' → r.groups.isEmpty = false)
    (by simp [IsNestedAt])

/-- Whether the brackets up to the end of the next piece balance, if some of them may open and close
nothing: in the piece or in a comment. -/
def IsTidyAt (r : Reader) (rest : List Char) : Prop :=
  ∀ next ∈ r.next? rest, isBare r.isVerbose (Scan.skip r.isVerbose rest) = false ∨
      (r.isVerbose = true ∧ ¬ Taken (isQuiet · = true) rest next.2) →
    Passes r.groups.length next.1.groups.length rest next.2

instance (r : Reader) : DecidablePred r.IsTidyAt := fun rest => by
  unfold IsTidyAt
  infer_instance

/-- **One step through a tidy expression**: what is open for the reader is open for the split. -/
theorem passes_next? (hnested : r.IsNestedAt rest) (htidy : r.IsTidyAt rest)
    (h : r.next? rest = some (r', left)) :
    Passes r.groups.length r'.groups.length rest left := by
  by_cases hloose : isBare r.isVerbose (Scan.skip r.isVerbose rest) = false ∨
      (r.isVerbose = true ∧ ¬ Taken (isQuiet · = true) rest left)
  case pos => exact htidy _ h hloose
  case neg =>
    obtain ⟨hbare, hquiet⟩ := not_or.1 hloose
    rw [Bool.not_eq_false] at hbare
    suffices hcounts : Counts r.isVerbose r.groups.length r'.groups.length
        (Scan.skip r.isVerbose rest) left from
      (Scan.counts_skip.trans hcounts).passes fun hverbose =>
        Decidable.not_not.1 fun hloud => hquiet ⟨hverbose, hloud⟩
    unfold next? at h
    unfold IsNestedAt at hnested
    generalize Scan.skip r.isVerbose rest = ds at h hbare hnested
    cases ds with
    | nil =>
        cases h
        exact .done ..
    | cons c cs => exact counts_step? h hbare fun hc => hnested (by rw [hc]; rfl)

/-- **A run through a tidy expression.** -/
theorem Reads.passes {n : Nat} {text : List Char} {ps : List Paren} (h : Reads n r text ps r' left)
    (hall : ∀ m qs s rest, Reads m r text qs s rest → s.IsNestedAt rest ∧ s.IsTidyAt rest) :
    Passes r.groups.length r'.groups.length text left := by
  induction h with
  | done r text => exact ⟨[], rfl, rfl⟩
  | @step n r r₁ r' text cs rest left c ps hskip hstep _ ih =>
      obtain ⟨hnested, htidy⟩ := hall 0 _ r text (.done ..)
      have hnext : r.next? text = some (r₁, rest) := by
        rw [next?, hskip]
        exact hstep
      exact (passes_next? hnested htidy hnext).trans
        (ih fun m qs s rest hrun => hall _ _ s rest (.step hskip hstep hrun))

end Reader

/-- Whether an equals sign stands by itself only in a group.  In a class, in braces and behind a
backslash it never does. -/
def IsNested (text : List Char) : Prop := ∀ r rest, Reader.Visits text r rest → r.IsNestedAt rest

/-- Whether the brackets balance wherever some of them may open and close nothing. -/
def IsTidy (text : List Char) : Prop := ∀ r rest, Reader.Visits text r rest → r.IsTidyAt rest

/-- Behind a tidy expression nothing is open. -/
theorem passes_of_isTidy {text : List Char} (hregex : (Node.ofText? text).isSome)
    (hnested : IsNested text) (htidy : IsTidy text) : Passes 0 0 text [] := by
  obtain ⟨n, hn⟩ := Option.isSome_iff_exists.1 hregex
  obtain ⟨r, ps, hread, hgroups, -, -⟩ := Node.ofText?_eq_some.1 hn
  obtain ⟨n, -, left, hrun, hleft⟩ := Reader.trace?_eq_some.1 hread
  have hall : ∀ s rest, Reader.Visits text s rest → s.IsNestedAt rest ∧ s.IsTidyAt rest :=
    fun s rest h => ⟨hnested s rest h, htidy s rest h⟩
  have hpasses := hrun.passes fun m qs s rest h => hall s rest ⟨m, qs, h⟩
  -- blanks and comments may be left at the end
  obtain ⟨hend, hlast⟩ := hall r left ⟨n, ps, hrun⟩
  have hblanks : Passes r.groups.length r.groups.length left [] :=
    Reader.passes_next? hend hlast (by rw [Reader.next?, hleft])
  rw [hgroups] at hpasses hblanks
  exact hpasses.trans hblanks

/-! ### Checking an expression -/

/-- Whether `p` holds wherever a run comes by. -/
def Reader.everywhere (p : Reader → List Char → Bool) : Nat → Reader → List Char → Bool
  | 0, _, _           => false
  | fuel + 1, r, text => p r text &&
    match Scan.skip r.isVerbose text with
    | []      => true
    | c :: cs => (r.step? c cs).all fun (r', rest) => everywhere p fuel r' rest

theorem Reader.of_everywhere {p : Reader → List Char → Bool} {fuel n : Nat} {r r' : Reader}
    {text rest : List Char} {ps : List Paren} (h : everywhere p fuel r text = true)
    (hrun : Reads n r text ps r' rest) : p r' rest = true := by
  induction hrun generalizing fuel with
  | done r text =>
      cases fuel with
      | zero => cases h
      | succ fuel => exact (Bool.and_eq_true_iff.1 h).1
  | step hskip hstep _ ih =>
      cases fuel with
      | zero => cases h
      | succ fuel =>
          have hrest := (Bool.and_eq_true_iff.1 h).2
          rw [hskip] at hrest
          exact ih (by simpa [hstep] using hrest)

theorem forall_visits {P : Reader → List Char → Prop} [∀ r, DecidablePred (P r)]
    {text : List Char}
    (h : Reader.everywhere (fun r rest => P r rest) (text.length + 1) {} text = true) :
    ∀ r rest, Reader.Visits text r rest → P r rest := by
  rintro r rest ⟨n, ps, hrun⟩
  simpa using Reader.of_everywhere h hrun

end Regex

/-! ### Where a constraint ends -/

open Regex (IsNested IsTidy)

/-- **A constraint that is a regular expression**, in which the equals signs are nested and the
brackets that open and close nothing balance, is not cut, and the default behind it is what follows
the next equals sign. -/
theorem splitDefault_of_isTidy {text : List Char} (hregex : (Regex.Node.ofText? text).isSome)
    (hnested : IsNested text) (htidy : IsTidy text) :
    splitDefault 0 text = (text, none) ∧
      ∀ default, splitDefault 0 (text ++ '=' :: default) = (text, some default) := by
  obtain ⟨taken, htext, hcount⟩ := Regex.passes_of_isTidy hregex hnested htidy
  obtain rfl : text = taken := by simpa using htext
  constructor
  · simpa [splitDefault] using splitDefault_append hcount []
  · intro default
    simpa [splitDefault] using splitDefault_append hcount ('=' :: default)

/-- A constraint with equals signs in a group and in a class, next to brackets that balance, and
one behind a backslash. -/
theorem splitDefault_sample :
    let text := "(a|b=){2}[(=)]\\=".toList
    (Regex.Node.ofText? text).isSome ∧ IsNested text ∧ IsTidy text ∧
      splitDefault 0 text = (text, none) ∧
      ∀ default, splitDefault 0 (text ++ '=' :: default) = (text, some default) := by
  have hregex : (Regex.Node.ofText? "(a|b=){2}[(=)]\\=".toList).isSome := by decide +kernel
  have hnested : IsNested "(a|b=){2}[(=)]\\=".toList := Regex.forall_visits (by decide +kernel)
  have htidy : IsTidy "(a|b=){2}[(=)]\\=".toList := Regex.forall_visits (by decide +kernel)
  exact ⟨hregex, hnested, htidy, splitDefault_of_isTidy hregex hnested htidy⟩

/-- **A parenthesis in a class** is counted as one that opens a group, so that the default behind
the class becomes a part of the constraint. -/
theorem splitDefault_swallows :
    (Regex.Node.ofText? "[(]".toList).isSome ∧ IsNested "[(]".toList ∧
      splitDefault 0 ("[(]".toList ++ '=' :: "d".toList) = ("[(]=d".toList, none) :=
  ⟨by decide +kernel, Regex.forall_visits (by decide +kernel), by decide +kernel⟩

-- a parenthesis that closes in a class cuts the group around it
example : (Regex.Node.ofText? "([)]=a)".toList).isSome ∧
    splitDefault 0 "([)]=a)".toList = ("([)]".toList, some "a)".toList) := by decide +kernel

end Signpost
