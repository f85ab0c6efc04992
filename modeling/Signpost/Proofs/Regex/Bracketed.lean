import Signpost.Regex.Class
import Signpost.Proofs.Regex.Scanning

/-!
# Regex — bracketed classes in front of more text

A bracketed class says itself where it ends, so it is read the same in front of more text.  Only
where nothing but part of a name such as `alpha` follows a bracket and a colon could more text
make a difference; but then no bracket closes the class (`Class.body?_of_isNamePart`).

* `Class.read?_append`: a bracketed class.
-/

namespace Signpost.Regex

open Scan

namespace Class

variable {fs : Flags} {cs rest more : List Char}

/-- Whether a character can be part of a set that is named between colons. -/
def IsNamePart (c : Char) : Prop := c = ':' ∨ c = '^' ∨ ('a' ≤ c ∧ c ≤ 'z')

instance : DecidablePred IsNamePart := fun c => by unfold IsNamePart; infer_instance

theorem isNamePart_of_named? {name : String} {s : CharSet} (h : named? name = some s) :
    ∀ c ∈ name.toList, IsNamePart c := by
  unfold named? at h
  simp only at h
  split at h
  case h_15 => cases h
  all_goals simp [IsNamePart]

/-- A name between colons, with the bracket behind it, is found in front of anything. -/
theorem exists_of_named {s : CharSet}
    (hs : named? (String.ofList (cs.takeWhile (· != ':'))) = some s)
    (hrest : after? [':', ']'] (cs.dropWhile (· != ':')) = some rest) :
    ∃ name : List Char, (∀ c ∈ name, IsNamePart c) ∧ cs = name ++ ':' :: ']' :: rest ∧
      named? (String.ofList name) = some s ∧
      ∀ more, (name ++ ':' :: more).takeWhile (· != ':') = name ∧
        (name ++ ':' :: more).dropWhile (· != ':') = ':' :: more := by
  have hdrop : cs.dropWhile (· != ':') = ':' :: ']' :: rest := after?_eq_some.1 hrest
  have hname := isNamePart_of_named? hs
  rw [String.toList_ofList] at hname
  refine ⟨cs.takeWhile (· != ':'), hname, ?_, hs, fun more => ?_⟩
  · rw [← hdrop, List.takeWhile_append_dropWhile]
  · have hall : ∀ c ∈ cs.takeWhile (· != ':'), (c != ':') = true :=
      List.all_eq_true.1 List.all_takeWhile
    rw [List.takeWhile_append_of_pos hall, List.dropWhile_append_of_pos hall]
    simp

/-- A set that is named between colons: what its name consists of, and that the same is read in
front of anything. -/
theorem exists_of_colonSet? {x : Option CharSet × List Char} (h : colonSet? fs cs = some x) :
    ∃ name : List Char, (∀ c ∈ name, IsNamePart c) ∧ cs = ':' :: (name ++ ':' :: ']' :: x.2) ∧
      ∀ more, colonSet? fs (':' :: (name ++ ':' :: ']' :: more)) = some (x.1, more) := by
  simp only [colonSet?, Option.bind_eq_bind, Option.bind_eq_some_iff, pure,
    Option.some.injEq] at h
  obtain ⟨ds, hds, s, hs, rest, hrest, rfl⟩ := h
  obtain rfl := after?_eq_some.1 hds
  by_cases hcaret : ds.head? = some '^'
  · obtain ⟨es, rfl⟩ := List.head?_eq_some_iff.1 hcaret
    obtain ⟨name, hname, rfl, hnamed, hsplit⟩ := exists_of_named hs hrest
    refine ⟨'^' :: name, List.forall_mem_cons.2 ⟨by decide, hname⟩, rfl, fun more => ?_⟩
    obtain ⟨htake, hdrop⟩ := hsplit (']' :: more)
    simp [colonSet?, after?, htake, hdrop, hnamed]
  · simp only [if_neg hcaret] at hs hrest
    obtain ⟨name, hname, rfl, hnamed, hsplit⟩ := exists_of_named hs hrest
    refine ⟨name, hname, rfl, fun more => ?_⟩
    obtain ⟨htake, hdrop⟩ := hsplit (']' :: more)
    have hcaret' : (name ++ ':' :: ']' :: more).head? ≠ some '^' := by
      cases name with
      | nil => simp
      | cons c name => exact hcaret
    simp only [colonSet?, after?, if_true, Option.bind_eq_bind, Option.bind_some, hcaret, hcaret',
      if_false, htake, hdrop, hnamed]
    rfl

theorem colonSet?_append {s? : Option CharSet} (h : colonSet? fs cs = some (s?, rest)) :
    colonSet? fs (cs ++ more) = some (s?, rest ++ more) := by
  obtain ⟨name, -, rfl, hread⟩ := exists_of_colonSet? h
  simpa using hread (rest ++ more)

/-- When more text makes a named set of what was none, there is nothing but part of a name. -/
theorem isNamePart_of_colonSet?_append {x : Option CharSet × List Char}
    (h : colonSet? fs cs = none) (hx : colonSet? fs (cs ++ more) = some x) :
    ∀ c ∈ cs, IsNamePart c := by
  obtain ⟨name, hname, heq, hread⟩ := exists_of_colonSet? hx
  have hwritten : ∀ c ∈ ':' :: (name ++ [':']), IsNamePart c := by
    simp only [List.forall_mem_cons, List.forall_mem_append]
    exact ⟨by decide, hname, by decide, by simp⟩
  have heq : cs ++ more = ':' :: (name ++ [':']) ++ ']' :: x.2 := by simpa using heq
  -- either the text ends in the name, or the bracket behind the name is there, too
  rcases List.append_eq_append_iff.1 heq with ⟨as, hcs, -⟩ | ⟨bs, rfl, hbs⟩
  · exact fun c hc => hwritten c (hcs ▸ List.mem_append_left _ hc)
  · cases bs with
    | nil => simpa using hwritten
    | cons b bs =>
        obtain ⟨rfl, -⟩ := List.cons.inj hbs
        have hread := hread bs
        simp only [List.cons_append, List.append_assoc, List.nil_append] at h
        rw [h] at hread
        cases hread
theorem atom?_append {e : Escaped} (h : atom? fs cs = some (e, rest)) :
    ∃ left, Follows (fs.has .verbose) rest left ∧
      ∀ more, more.head? ≠ some '{' → atom? fs (cs ++ more) = some (e, left more) := by
  cases cs with
  | nil => simp [atom?] at h
  | cons c cs =>
      by_cases hc : c = '\\'
      · subst hc
        exact Escaped.read?_append h
      · have plain : ∀ ds : List Char, atom? fs (c :: ds) = some (.char c, ds) := by
          intro ds
          unfold atom?
          split
          · rename_i heq; cases heq
          · rename_i heq; exact absurd (List.cons.inj heq).1 hc
          · rename_i heq; cases heq; rfl
        rw [plain] at h
        simp only [Option.some.injEq, Prod.mk.injEq] at h
        obtain ⟨rfl, rfl⟩ := h
        exact ⟨_, .append .., fun more _ => plain _⟩

/-- Blanks before a text do not count, and neither does a number sign with only blanks after it. -/
theorem dropComments_dropWhile (cs : List Char) :
    dropComments false (cs.dropWhile Unicode.isSpace) = dropComments false cs := by
  induction cs with
  | nil => rfl
  | cons c cs ih =>
      by_cases hc : Unicode.isSpace c
      · rw [List.dropWhile_cons_of_pos hc, ih, dropComments, if_pos hc]
      · rw [List.dropWhile_cons_of_neg hc]

theorem dropComments_true_of_blank (h : cs.dropWhile Unicode.isSpace = []) :
    dropComments true cs = [] := by
  induction cs with
  | nil => rfl
  | cons c cs ih =>
      by_cases hc : Unicode.isSpace c
      · rw [List.dropWhile_cons_of_pos hc] at h
        rw [dropComments]
        cases c != '\n' with
        | true => exact ih h
        | false => exact (dropComments_dropWhile cs).symm.trans (congrArg _ h)
      · rw [List.dropWhile_cons_of_neg hc] at h
        cases h

/-- In a verbose expression, what comes next after blanks and one number sign. -/
def nextPart (cs : List Char) : List Char :=
  match cs.dropWhile Unicode.isSpace with
  | '#' :: rest => rest.dropWhile Unicode.isSpace
  | rest        => rest

theorem peek?_true (cs : List Char) :
    peek? true cs = if (nextPart cs).isEmpty then cs.head? else (nextPart cs).head? :=
  rfl

theorem nextPart_append (h : nextPart cs ≠ []) : nextPart (cs ++ more) = nextPart cs ++ more := by
  unfold nextPart at h ⊢
  have hblank : cs.dropWhile Unicode.isSpace ≠ [] := by
    intro hnil
    simp [hnil] at h
  rw [dropWhile_append hblank]
  obtain ⟨c, ds, hc⟩ := List.exists_cons_of_ne_nil hblank
  rw [hc] at h ⊢
  rw [List.cons_append]
  by_cases hsign : c = '#'
  · subst hsign
    exact dropWhile_append h
  · simp [hsign]

/-- What comes next in a class is there already. -/
theorem peek?_append {verbose : Bool} (hnext : verbose = true → nextPart cs ≠ [])
    (hcs : cs ≠ []) : peek? verbose (cs ++ more) = peek? verbose cs := by
  cases verbose with
  | false =>
      obtain ⟨c, ds, rfl⟩ := List.exists_cons_of_ne_nil hcs
      simp [peek?]
  | true =>
      rw [peek?_true, peek?_true, nextPart_append (hnext rfl)]
      obtain ⟨x, xs, hx⟩ := List.exists_cons_of_ne_nil (hnext rfl)
      simp [hx]

theorem nextPart_ne_nil_of_skip (hne : skip true cs ≠ []) : nextPart cs ≠ [] := by
  have hdrop : dropComments false (cs.dropWhile Unicode.isSpace) ≠ [] := by
    rw [dropComments_dropWhile]
    exact hne
  unfold nextPart
  split
  case h_1 rest hcs =>
      intro hblank
      rw [hcs, dropComments] at hdrop
      split at hdrop
      · rw [← dropComments_dropWhile, hblank] at hdrop
        exact hdrop rfl
      · exact hdrop (dropComments_true_of_blank hblank)
  case h_2 =>
      intro hnil
      rw [hnil] at hdrop
      exact hdrop rfl

theorem nextPart_ne_nil_of_peek? {c : Char} (h : peek? true cs = some c) (hc : '!' ≤ c ∧ c ≤ '~')
    (hsign : c ≠ '#') : nextPart cs ≠ [] := by
  intro hnil
  rw [peek?_true, hnil] at h
  obtain ⟨ds, rfl⟩ := List.head?_eq_some_iff.1 h
  rw [nextPart, List.dropWhile_cons_of_neg (by simp [Unicode.isSpace_of_printed hc])] at hnil
  simp [hsign] at hnil

theorem range?_append {s : CharSet} (h : range? fs cs = some (s, rest)) :
    ∃ left, Follows (fs.has .verbose) rest left ∧
      ∀ more, more.head? ≠ some '{' → range? fs (cs ++ more) = some (s, left more) := by
  simp only [range?, Option.bind_eq_bind, Option.bind_eq_some_iff] at h ⊢
  obtain ⟨⟨first, rest₀⟩, hfirst, h⟩ := h
  have hne : skip (fs.has .verbose) rest₀ ≠ [] := by
    intro hnil
    simp [hnil] at h
  obtain ⟨left₀, hf₀, hleft₀⟩ := atom?_append hfirst
  obtain rfl := hf₀.eq_of_ne_nil (by rintro rfl; simp at hne)
  obtain ⟨d, after, hd⟩ := List.exists_cons_of_ne_nil hne
  -- the text after the first part, in front of more
  have start : ∀ more, more.head? ≠ some '{' → atom? fs (cs ++ more) = some (first, rest₀ ++ more) ∧
      skip (fs.has .verbose) (rest₀ ++ more) = d :: (after ++ more) := fun more hbrace =>
    ⟨hleft₀ more hbrace, by rw [skip_append hne, hd, List.cons_append]⟩
  simp only [hd] at h
  by_cases hhyphen : d = '-'
  · subst hhyphen
    simp only at h
    split at h
    case isTrue hnext =>
        simp only [Option.bind_eq_some_iff, pure, Option.some.injEq, Prod.mk.injEq] at h
        obtain ⟨s, hs, rfl, rfl⟩ := h
        refine ⟨_, .append .., fun more hbrace => ⟨_, (start more hbrace).1, ?_⟩⟩
        have hprinted : ∃ c, peek? (fs.has .verbose) after = some c ∧ ('!' ≤ c ∧ c ≤ '~') ∧
            c ≠ '#' := by
          simp only [Bool.or_eq_true, decide_eq_true_eq] at hnext
          rcases hnext with hnext | hnext
          · exact ⟨_, hnext, by decide, by decide⟩
          · exact ⟨_, hnext, by decide, by decide⟩
        obtain ⟨c, hpeek, hc, hsign⟩ := hprinted
        have hsame : peek? (fs.has .verbose) (after ++ more) = peek? (fs.has .verbose) after :=
          peek?_append (fun hv => nextPart_ne_nil_of_peek? (hv ▸ hpeek) hc hsign)
            (by rintro rfl; cases hv : fs.has .verbose <;> simp [hv, peek?] at hpeek)
        simp [(start more hbrace).2, hsame, hnext, hs]
    case isFalse hnext =>
        simp only [Option.bind_eq_some_iff] at h
        obtain ⟨⟨last, rest₁⟩, hlast, lo, hlo, hi, hhi, h⟩ := h
        have hafter : skip (fs.has .verbose) after ≠ [] := by
          intro hnil
          simp [hnil, atom?] at hlast
        obtain ⟨left, hf, hleft⟩ := atom?_append hlast
        split at h
        case isTrue hle =>
            simp only [pure, Option.some.injEq, Prod.mk.injEq] at h
            obtain ⟨rfl, rfl⟩ := h
            refine ⟨left, hf, fun more hbrace => ⟨_, (start more hbrace).1, ?_⟩⟩
            have hsame : peek? (fs.has .verbose) (after ++ more) = peek? (fs.has .verbose) after :=
              peek?_append (fun hv => nextPart_ne_nil_of_skip (hv ▸ hafter))
                (by rintro rfl; simp at hafter)
            simp [(start more hbrace).2, hsame, hnext, skip_append hafter, hleft more hbrace, hlo,
              hhi, hle]
        case isFalse => cases h
  · split at h
    case h_1 heq => cases heq
    case h_2 heq => exact absurd (List.cons.inj heq).1 hhyphen
    case h_3 =>
        simp only [Option.bind_eq_some_iff, pure, Option.some.injEq, Prod.mk.injEq] at h
        obtain ⟨s, hs, rfl, rfl⟩ := h
        refine ⟨_, .append .., fun more hbrace => ⟨_, (start more hbrace).1, ?_⟩⟩
        simp [(start more hbrace).2, hhyphen, hs]

/-- Whether a class opens with a caret, and what follows it. -/
def caret (verbose : Bool) (cs : List Char) : Bool × List Char :=
  match skip verbose cs with
  | '^' :: cs => (true, skip verbose cs)
  | cs        => (false, cs)

/-- What opens a class after the caret: the hyphens and the closing bracket that stand for
themselves. -/
def literals (verbose : Bool) (cs : List Char) : Items × List Char :=
  let (hyphens, cs) := takeSkipping verbose (· = '-') cs.length cs
  let items := hyphens.foldl (fun (items : Items) c => items.add ⟨.singleton c, 0⟩) {}
  match cs, items.count with
  | ']' :: cs, 0 => (items.add ⟨.singleton ']', 0⟩, skip verbose cs)
  | cs, _        => (items, cs)

theorem opening_eq (verbose : Bool) (cs : List Char) :
    opening verbose cs = ((caret verbose cs).1, literals verbose (caret verbose cs).2) := by
  have hcaret : opening verbose cs = (let p := caret verbose cs
      let t := takeSkipping verbose (· = '-') p.2.length p.2
      let items := t.1.foldl (fun (items : Items) c => items.add ⟨.singleton c, 0⟩) {}
      match t.2, items.count with
      | ']' :: cs, 0 => (p.1, items.add ⟨.singleton ']', 0⟩, skip verbose cs)
      | cs, _        => (p.1, items, cs)) := rfl
  rw [hcaret]
  simp only [literals]
  split <;> rfl

theorem caret_append {verbose : Bool} (h : (caret verbose cs).2 ≠ []) :
    caret verbose (cs ++ more) = ((caret verbose cs).1, (caret verbose cs).2 ++ more) := by
  have hne : skip verbose cs ≠ [] := by
    intro hnil
    simp [caret, hnil] at h
  simp only [caret, skip_append hne] at h ⊢
  obtain ⟨d, ds, hd⟩ := List.exists_cons_of_ne_nil hne
  rw [hd] at h ⊢
  rw [List.cons_append]
  by_cases hcaret : d = '^'
  · subst hcaret
    simp only at h ⊢
    rw [skip_append h]
  · simp [hcaret]

theorem literals_append {verbose : Bool} (h : (literals verbose cs).2 ≠ []) :
    literals verbose (cs ++ more) = ((literals verbose cs).1, (literals verbose cs).2 ++ more) := by
  have hhyphens : (takeSkipping verbose (· = '-') cs.length cs).2 ≠ [] := by
    intro hnil
    simp [literals, hnil] at h
  simp only [literals] at h ⊢
  rw [takeSkipping_append hhyphens (Nat.le_refl _) (by simp)]
  generalize takeSkipping verbose (· = '-') cs.length cs = r at h hhyphens ⊢
  obtain ⟨hyphens, rest⟩ := r
  obtain ⟨c, ds, rfl⟩ := List.exists_cons_of_ne_nil hhyphens
  simp only [List.cons_append] at h ⊢
  generalize hyphens.foldl (fun (items : Items) c => items.add ⟨.singleton c, 0⟩) {} = items at h ⊢
  by_cases hc : c = ']' ∧ items.count = 0
  · obtain ⟨rfl, hcount⟩ := hc
    simp only [hcount] at h ⊢
    rw [skip_append h]
  · have other : ∀ ds : List Char, (match c :: ds, items.count with
        | ']' :: cs, 0 => (items.add ⟨.singleton ']', 0⟩, skip verbose cs)
        | cs, _        => (items, cs)) = (items, c :: ds) := by
      intro ds
      split
      case h_1 heq hcount => exact absurd ⟨(List.cons.inj heq).1, hcount⟩ hc
      case h_2 => rfl
    rw [other, other]
    rfl

theorem opening_append {verbose : Bool} (h : (opening verbose cs).2.2 ≠ []) :
    opening verbose (cs ++ more) =
      ((opening verbose cs).1, (opening verbose cs).2.1, (opening verbose cs).2.2 ++ more) := by
  simp only [opening_eq] at h ⊢
  have hcaret : (caret verbose cs).2 ≠ [] := by
    intro hnil
    simp [hnil, literals] at h
  rw [caret_append hcaret, literals_append h]

@[simp] theorem body?_nil (fs : Flags) (fuel : Nat) (pending : Option (Operation × Part))
    (items : Items) : body? fs fuel pending items [] = none := by
  cases fuel <;> simp [body?]

theorem IsNamePart.ne {c d : Char} (h : IsNamePart c) (hd : ¬ IsNamePart d) : c ≠ d := by
  rintro rfl
  exact hd h

theorem skip_of_isNamePart {verbose : Bool} (h : ∀ c ∈ cs, IsNamePart c) :
    skip verbose cs = cs := by
  cases verbose with
  | false => rfl
  | true =>
      cases cs with
      | nil => rfl
      | cons c cs =>
          have hc : IsNamePart c := h c List.mem_cons_self
          have hprinted : '!' ≤ c ∧ c ≤ '~' := by
            rcases hc with rfl | rfl | ⟨lower, upper⟩
            · decide
            · decide
            · exact ⟨Char.le_trans (by decide) lower, Char.le_trans upper (by decide)⟩
          show dropComments false (c :: cs) = c :: cs
          rw [dropComments, if_neg (by simp [Unicode.isSpace_of_printed hprinted]),
            if_neg (hc.ne (by decide))]

theorem isNamePart_of_opening {verbose : Bool} (h : ∀ c ∈ cs, IsNamePart c) :
    ∀ c ∈ (opening verbose cs).2.2, IsNamePart c := by
  have hcaret : ∀ c ∈ (caret verbose cs).2, IsNamePart c := by
    rw [caret, skip_of_isNamePart h]
    split
    · rw [skip_of_isNamePart (List.forall_mem_cons.1 h).2]
      exact (List.forall_mem_cons.1 h).2
    · exact h
  rw [opening_eq]
  generalize (caret verbose cs).2 = ds at hcaret
  cases ds with
  | nil => simp [literals]
  | cons d ds =>
      have hd : IsNamePart d := hcaret d List.mem_cons_self
      have hhyphen : d ≠ '-' := hd.ne (by decide)
      have hclose : d ≠ ']' := hd.ne (by decide)
      simpa [literals, takeSkipping, hhyphen, hclose] using hcaret

/-- What is only part of a name does not close a class. -/
theorem body?_of_isNamePart {fuel : Nat} {pending : Option (Operation × Part)} {items : Items}
    (h : ∀ c ∈ cs, IsNamePart c) : body? fs fuel pending items cs = none := by
  induction fuel generalizing items cs with
  | zero => rfl
  | succ fuel ih =>
      cases cs with
      | nil => simp
      | cons c cs =>
          obtain ⟨hc, hcs⟩ := List.forall_mem_cons.1 h
          have hclose : c ≠ ']' := hc.ne (by decide)
          have hopen : c ≠ '[' := hc.ne (by decide)
          have hescape : c ≠ '\\' := hc.ne (by decide)
          have hop : Operation.ofChar? c = none := by
            unfold Operation.ofChar?
            split
            · exact absurd hc (by decide)
            · exact absurd hc (by decide)
            · exact absurd hc (by decide)
            · rfl
          have hrange : ∀ s rest, range? fs (c :: cs) = some (s, rest) → rest = cs := by
            intro s rest hr
            simp only [range?, atom?, Option.bind_eq_bind, Option.bind_some,
              skip_of_isNamePart hcs] at hr
            split at hr
            case h_1 => cases hr
            case h_2 => exact absurd (hcs '-' List.mem_cons_self) (by decide)
            case h_3 =>
                simp only [Option.bind_eq_some_iff, pure, Option.some.injEq, Prod.mk.injEq] at hr
                obtain ⟨s', -, -, rfl⟩ := hr
                rfl
          rw [body?, skip_of_isNamePart h]
          simp only [hop, Option.bind_eq_bind, Option.bind_eq_none_iff]
          rintro ⟨s, rest⟩ hr
          rw [hrange s rest hr]
          exact ih hcs

/-- Behind a bracket that opens a class of its own, more text does not make a named set. -/
theorem colonSet?_append_of_body? {fuel : Nat} {pending : Option (Operation × Part)}
    {items : Items} {x : Part × List Char} (hset : colonSet? fs cs = none)
    (hinner : body? fs fuel pending items (opening (fs.has .verbose) cs).2.2 = some x) :
    colonSet? fs (cs ++ more) = none := by
  refine Option.eq_none_iff_forall_ne_some.2 fun s? hs => ?_
  have hname : ∀ c ∈ (opening (fs.has .verbose) cs).2.2, IsNamePart c :=
    isNamePart_of_opening (isNamePart_of_colonSet?_append hset hs)
  rw [body?_of_isNamePart hname] at hinner
  cases hinner

theorem body?_append {fuel : Nat} {pending : Option (Operation × Part)} {items : Items}
    {part : Part} (h : body? fs fuel pending items cs = some (part, rest))
    (hbrace : more.head? ≠ some '{') {fuel' : Nat} (hfuel : fuel ≤ fuel') :
    body? fs fuel' pending items (cs ++ more) = some (part, rest ++ more) := by
  induction fuel generalizing pending items cs part rest fuel' with
  | zero => simp [body?] at h
  | succ fuel ih =>
      obtain ⟨fuel', rfl⟩ : ∃ k, fuel' = k + 1 := ⟨fuel' - 1, by omega⟩
      have hfuel : fuel ≤ fuel' := by omega
      have hne : skip (fs.has .verbose) cs ≠ [] := by
        intro hnil
        simp [body?, hnil] at h
      simp only [body?, skip_append hne] at h ⊢
      obtain ⟨c, ds, hc⟩ := List.exists_cons_of_ne_nil hne
      rw [hc] at h ⊢
      rw [List.cons_append]
      -- a range or a part on its own
      have single : ((range? fs (c :: ds)).bind fun x =>
            body? fs fuel pending (items.add ⟨x.1, 0⟩) x.2) = some (part, rest) →
          ((range? fs (c :: (ds ++ more))).bind fun x =>
            body? fs fuel' pending (items.add ⟨x.1, 0⟩) x.2) = some (part, rest ++ more) := by
        intro h
        obtain ⟨⟨s, rest₀⟩, hrange, h⟩ := Option.bind_eq_some_iff.1 h
        obtain ⟨left, hf, hleft⟩ := range?_append hrange
        obtain rfl := hf.eq_of_ne_nil (by rintro rfl; simp at h)
        have hrange' := hleft more hbrace
        rw [List.cons_append] at hrange'
        rw [hrange', Option.bind_some]
        exact ih h hfuel
      by_cases hclose : c = ']'
      · subst hclose
        simp only [Option.some.injEq, Prod.mk.injEq] at h ⊢
        obtain ⟨rfl, rfl⟩ := h
        exact ⟨rfl, rfl⟩
      · by_cases hopen : c = '['
        · subst hopen
          simp only [Option.bind_eq_bind] at h ⊢
          split at h
          case h_1 s? rest₀ hset =>
              obtain ⟨s, rfl, h⟩ := Option.bind_eq_some_iff.1 h
              simp only [colonSet?_append hset, Option.bind_some]
              exact ih h hfuel
          case h_2 hset =>
              obtain ⟨⟨inner, rest₀⟩, hinner, h⟩ := Option.bind_eq_some_iff.1 h
              obtain ⟨s, hs, h⟩ := Option.bind_eq_some_iff.1 h
              have hnil : (opening (fs.has .verbose) ds).2.2 ≠ [] := by
                intro hnil
                simp [hnil] at hinner
              rw [colonSet?_append_of_body? hset hinner]
              simp only [opening_append hnil, ih hinner hfuel, Option.bind_some, hs]
              exact ih h hfuel
        · simp only [Option.bind_eq_bind] at h ⊢
          cases hop : Operation.ofChar? c with
          | none => simp only [hop] at h ⊢; exact single h
          | some op =>
              simp only [hop] at h ⊢
              cases ds with
              | cons d ds =>
                  simp only [List.cons_append] at h ⊢
                  split at h
                  · rw [if_pos ‹_›]; exact ih h hfuel
                  · rw [if_neg ‹_›]; exact single h
              | nil =>
                  -- a part that is followed by nothing leaves the class open
                  have hescape : c ≠ '\\' := by rintro rfl; simp [Operation.ofChar?] at hop
                  have hrange : range? fs [c] = none := by simp [range?, atom?]
                  simp [hrange] at h

/-- **A bracketed class is read the same in front of more text.** -/
theorem read?_append {part : Part} (h : read? fs cs = some (part, rest))
    (hbrace : more.head? ≠ some '{') :
    read? fs (cs ++ more) = some (part, rest ++ more) := by
  simp only [read?, Option.bind_eq_bind, Option.bind_eq_some_iff, pure, Option.some.injEq,
    Prod.mk.injEq] at h ⊢
  obtain ⟨⟨part₀, rest₀⟩, hbody, s, hs, rfl, rfl⟩ := h
  have hnil : (opening (fs.has .verbose) cs).2.2 ≠ [] := by
    intro hnil
    simp [hnil] at hbody
  refine ⟨(part₀, rest₀ ++ more), ?_, s, ?_, rfl, rfl⟩
  · rw [opening_append hnil]
    exact body?_append hbody hbrace (by simp)
  · rw [opening_append hnil]
    exact hs

end Class

end Signpost.Regex
