import Signpost.Regex.Parser
import Signpost.Proofs.Regex.Bracketed

/-!
# Regex — reading step by step

Reading as a run of steps, each of which takes one piece of the text.  A run also keeps a record
of the capturing parentheses that it comes by, in the order in which they open (`Paren`).

* `Reader.trace?_eq_some`: to read a text to its end is to have a run through it.
* `Reader.Reads.append`: a run goes on in front of more text, unless that text begins with a
  character that could belong to what comes before it.
-/

namespace Signpost.Regex

/-- A capturing parenthesis: the text from it on, and whether no other capturing group surrounds
it. -/
structure Paren where
  text    : List Char
  isOuter : Bool
  deriving DecidableEq, Repr

namespace Paren

/-- The parenthesis in front of more text. -/
def append (more : List Char) (p : Paren) : Paren := { p with text := p.text ++ more }

end Paren

def OpenGroup.isPlain (g : OpenGroup) : Bool := g.opening = .plain

/-- A group as a piece of what surrounds it. -/
def OpenGroup.close (g : OpenGroup) (inner : Piece) : Piece :=
  ⟨match g.opening with
    | .plain              => inner.node
    | .capture index name => .group index name inner.node, inner.depth + 1, true⟩

namespace Reader

/-- Whether blanks and comments do not count. -/
def isVerbose (r : Reader) : Bool := r.flags.has .verbose

/-- The capturing parenthesis that is read in the step from `r` to `r'`, if one is. -/
def parens (r r' : Reader) (text : List Char) : List Paren :=
  if r'.captures = r.captures then [] else [⟨text, r.groups.all OpenGroup.isPlain⟩]

/-- Reads to the end of the text, and records the capturing parentheses. -/
def trace? : Nat → Reader → List Char → Option (Reader × List Paren)
  | 0, _, _           => none
  | fuel + 1, r, text =>
    match Scan.skip r.isVerbose text with
    | []      => some (r, [])
    | c :: cs => do
      let (r₁, rest) ← r.step? c cs
      let (r', ps) ← trace? fuel r₁ rest
      return (r', r.parens r₁ (c :: cs) ++ ps)

/-- A run of a number of steps: from a reader and a text, past some capturing parentheses, to a
reader and what is left of the text. -/
inductive Reads : Nat → Reader → List Char → List Paren → Reader → List Char → Prop
  | done (r : Reader) (text : List Char) : Reads 0 r text [] r text
  | step {n : Nat} {r r₁ r' : Reader} {text cs rest left : List Char} {c : Char}
      {ps : List Paren} (skip : Scan.skip r.isVerbose text = c :: cs)
      (step : r.step? c cs = some (r₁, rest)) (run : Reads n r₁ rest ps r' left) :
      Reads (n + 1) r text (r.parens r₁ (c :: cs) ++ ps) r' left

theorem readAll?_eq_trace? (fuel : Nat) (r : Reader) (text : List Char) :
    readAll? fuel r text = (trace? fuel r text).map Prod.fst := by
  induction fuel generalizing r text with
  | zero => rfl
  | succ fuel ih =>
      simp only [readAll?, trace?, isVerbose]
      cases Scan.skip (r.flags.has .verbose) text with
      | nil => rfl
      | cons c cs =>
          cases hstep : r.step? c cs with
          | none => simp [hstep]
          | some x =>
              simp only [hstep, Option.bind_eq_bind, Option.bind_some, ih]
              cases trace? fuel x.1 x.2 <;> rfl

theorem trace?_eq_some {fuel : Nat} {r r' : Reader} {text : List Char} {ps : List Paren} :
    trace? fuel r text = some (r', ps) ↔
      ∃ n < fuel, ∃ left, Reads n r text ps r' left ∧ Scan.skip r'.isVerbose left = [] := by
  induction fuel generalizing r text ps with
  | zero => simp [trace?]
  | succ fuel ih =>
      constructor
      · intro h
        simp only [trace?] at h
        split at h
        case h_1 hskip =>
            simp only [Option.some.injEq, Prod.mk.injEq] at h
            obtain ⟨rfl, rfl⟩ := h
            exact ⟨0, by omega, text, .done .., hskip⟩
        case h_2 c cs hskip =>
            simp only [Option.bind_eq_bind, Option.bind_eq_some_iff, pure, Option.some.injEq,
              Prod.mk.injEq] at h
            obtain ⟨⟨r₁, rest⟩, hstep, ⟨r₂, qs⟩, htrace, rfl, rfl⟩ := h
            obtain ⟨n, hn, left, hrun, hleft⟩ := ih.1 htrace
            exact ⟨n + 1, by omega, left, .step hskip hstep hrun, hleft⟩
      · rintro ⟨n, hn, left, hrun, hleft⟩
        cases hrun with
        | done => simp [trace?, hleft]
        | @step n _ r₁ _ _ cs rest _ c qs hskip hstep hrun =>
            have htrace : trace? fuel r₁ rest = some (r', qs) :=
              ih.2 ⟨n, by omega, left, hrun, hleft⟩
            simp [trace?, hskip, hstep, htrace]

namespace Reads

variable {n m : Nat} {r r₁ r' : Reader} {text text₁ left : List Char} {ps qs : List Paren}

theorem trans (h₁ : Reads n r text ps r₁ text₁) (h₂ : Reads m r₁ text₁ qs r' left) :
    Reads (n + m) r text (ps ++ qs) r' left := by
  induction h₁ with
  | done => simpa using h₂
  | step hskip hstep _ ih =>
      rw [List.append_assoc, Nat.add_right_comm]
      exact .step hskip hstep (ih h₂)

theorem one {c : Char} {cs rest : List Char} (hskip : Scan.skip r.isVerbose text = c :: cs)
    (hstep : r.step? c cs = some (r', rest)) :
    Reads 1 r text (r.parens r' (c :: cs)) r' rest := by
  simpa using Reads.step hskip hstep (.done r' rest)

end Reads

/-! ### What a step can do -/

section

variable {r r' : Reader}

theorem openCapture?_eq_some {name : Option String} :
    r.openCapture? name = some r' ↔ name.any r.names.contains = false ∧
      r' = ({ r with captures := r.captures + 1, names := name.toList ++ r.names } :
        Reader).openGroup (.capture (r.captures + 1) name) r.flags := by
  simp only [openCapture?, Option.ite_none_left_eq_some, Bool.not_eq_true, Option.some.injEq,
    @eq_comm Reader r']

theorem closeGroup?_eq_some :
    r.closeGroup? = some r' ↔ ∃ g gs, r.groups = g :: gs ∧ r' = { r with
      groups := gs, branches := g.branches, flags := g.flags
      pieces := g.close r.current :: g.pieces } := by
  unfold closeGroup?
  cases r.groups with
  | nil => simp
  | cons g gs =>
      simp only [Option.some.injEq, List.cons.injEq]
      constructor
      · rintro rfl
        exact ⟨g, gs, ⟨rfl, rfl⟩, rfl⟩
      · rintro ⟨_, _, ⟨rfl, rfl⟩, rfl⟩
        rfl

theorem repeatLast?_eq_some {min : Nat} {max : Option Nat} {mark : Bool} :
    r.repeatLast? min max mark = some r' ↔ ∃ p ps, r.pieces = p :: ps ∧ p.isRepeatable = true ∧
      r' = { r with pieces :=
        ⟨p.node.repeated min max (mark == r.flags.has .swapGreed), p.depth + 1, true⟩ :: ps } := by
  unfold repeatLast?
  cases r.pieces with
  | nil => simp
  | cons p ps =>
      simp only [Option.ite_none_right_eq_some, Option.some.injEq, List.cons.injEq]
      constructor
      · rintro ⟨hrepeatable, rfl⟩
        exact ⟨p, ps, ⟨rfl, rfl⟩, hrepeatable, rfl⟩
      · rintro ⟨_, _, ⟨rfl, rfl⟩, hrepeatable, rfl⟩
        exact ⟨hrepeatable, rfl⟩

end

/-! ### Steps in front of more text -/

/-- Whether a text does not begin like something that could belong to what comes before it: a
repetition in braces, or a question mark. -/
def IsApart (more : List Char) : Prop := more.head? ≠ some '?' ∧ more.head? ≠ some '{'

instance : DecidablePred IsApart := fun more => by unfold IsApart; infer_instance

theorem lazyMark_append {cs more : List Char} (h : (cs ++ more).head? = some '?' → cs ≠ []) :
    lazyMark (cs ++ more) = ((lazyMark cs).1, (lazyMark cs).2 ++ more) := by
  cases cs with
  | nil =>
      cases more with
      | nil => rfl
      | cons d ds =>
          by_cases hd : d = '?'
          · subst hd; exact absurd rfl (h rfl)
          · simp [lazyMark, hd]
  | cons c cs =>
      by_cases hc : c = '?'
      · subst hc; rfl
      · simp [lazyMark, hc]

theorem lazyMark_of_head {cs : List Char} (h : cs.head? ≠ some '?') :
    lazyMark cs = (false, cs) := by
  cases cs with
  | nil => rfl
  | cons c cs =>
      have hc : c ≠ '?' := by simpa using h
      simp [lazyMark, hc]

theorem bounds?_append {verbose : Bool} {cs rest more : List Char} {b : Nat × Option Nat}
    (h : bounds? verbose cs = some (b, rest)) :
    bounds? verbose (cs ++ more) = some (b, rest ++ more) := by
  -- the closing brace is still to come, so neither the blanks nor the digits reach the end
  have hskip : Scan.skip verbose cs ≠ [] := by
    intro hnil
    simp [bounds?, hnil, Scan.decimal] at h
  simp only [bounds?, Scan.skip_append hskip] at h ⊢
  have hmin : (Scan.decimal verbose (Scan.skip verbose cs)).2 ≠ [] := by
    intro hnil
    split at h <;> simp_all
  rw [Scan.decimal_append hmin]
  generalize Scan.decimal verbose (Scan.skip verbose cs) = d at h hmin ⊢
  obtain ⟨min?, ds⟩ := d
  split at h
  case h_1 min rest₀ heq =>
      cases heq
      simp only [Option.some.injEq, Prod.mk.injEq] at h
      obtain ⟨rfl, rfl⟩ := h
      rfl
  case h_2 min rest₀ heq =>
      cases heq
      simp only [List.cons_append] at h ⊢
      have hne : Scan.skip verbose rest₀ ≠ [] := by
        intro hnil
        simp [hnil, Scan.decimal] at h
      rw [Scan.skip_append hne]
      generalize Scan.skip verbose rest₀ = es at h hne ⊢
      obtain ⟨e, es, rfl⟩ := List.exists_cons_of_ne_nil hne
      by_cases hclose : e = '}'
      · subst hclose
        simp only [Option.some.injEq, Prod.mk.injEq] at h
        obtain ⟨rfl, rfl⟩ := h
        rfl
      · split at h
        case h_1 heq => exact absurd (List.cons.inj heq).1 hclose
        case h_2 =>
            rw [List.cons_append]
            split
            case h_1 heq => exact absurd (List.cons.inj heq).1 hclose
            case h_2 =>
                have hmax : (Scan.decimal verbose (e :: es)).2 ≠ [] := by
                  intro hnil
                  split at h <;> simp_all
                rw [← List.cons_append, Scan.decimal_append hmax]
                split at h
                case h_1 heq =>
                    simp only [heq, List.cons_append]
                    split at h
                    · rw [if_pos ‹_›]
                      simp only [Option.some.injEq, Prod.mk.injEq] at h ⊢
                      obtain ⟨rfl, rfl⟩ := h
                      exact ⟨rfl, rfl⟩
                    · cases h
                case h_2 => cases h
  case h_3 => cases h

theorem readFlags?_append {r r' : Reader} {cs rest more : List Char}
    (h : r.readFlags? cs = some (r', rest)) :
    r.readFlags? (cs ++ more) = some (r', rest ++ more) := by
  simp only [readFlags?, Option.bind_eq_bind, Option.bind_eq_some_iff] at h ⊢
  obtain ⟨settings, hsettings, h⟩ := h
  have hne : cs.dropWhile (fun c => !(c = ':' || c = ')')) ≠ [] := by
    intro hnil
    rw [hnil] at h
    cases h
  rw [Scan.takeWhile_append_of_dropWhile hne, Scan.dropWhile_append hne]
  refine ⟨settings, hsettings, ?_⟩
  generalize cs.dropWhile (fun c => !(c = ':' || c = ')')) = ds at h hne ⊢
  split at h
  case h_1 rest₀ =>
      simp only [pure, Option.some.injEq, Prod.mk.injEq] at h
      obtain ⟨rfl, rfl⟩ := h
      rfl
  case h_2 rest₀ =>
      split at h
      · cases h
      · simp only [pure, Option.some.injEq, Prod.mk.injEq] at h
        obtain ⟨rfl, rfl⟩ := h
        simp [*]
  case h_3 => cases h

theorem after?_append_of_length_le {word cs : List Char} (more : List Char)
    (h : word.length ≤ cs.length) :
    Scan.after? word (cs ++ more) = (Scan.after? word cs).map (· ++ more) := by
  induction word generalizing cs with
  | nil => simp [Scan.after?]
  | cons w word ih =>
      cases cs with
      | nil => simp at h
      | cons c cs =>
          simp only [List.cons_append, Scan.after?]
          split
          · exact ih (by simpa using h)
          · rfl

/-- What `readOpening?` makes of the text after the blanks. -/
def opened? (r : Reader) (cs : List Char) : Option (Reader × List Char) :=
  let after (word : String) := Scan.after? word.toList cs
  if ["?=", "?!", "?<=", "?<!"].any fun word => (after word).isSome then none
  else match after "?P<" <|> after "?<", after "?" with
    | some cs, _      => do
      let rest ← Scan.after? ['>'] (cs.dropWhile (· != '>'))
      if isGroupName (cs.takeWhile (· != '>')) then
        return (← r.openCapture? (String.ofList (cs.takeWhile (· != '>'))), rest)
      else none
    | none, some cs   => r.readFlags? cs
    | none, none      => (r.openCapture? none).map (·, cs)

theorem readOpening?_eq (r : Reader) (cs : List Char) :
    r.readOpening? cs = r.opened? (Scan.skip r.isVerbose cs) :=
  rfl

/-- Without a question mark, the parenthesis captures. -/
theorem opened?_of_head {r : Reader} {cs : List Char} (h : cs.head? ≠ some '?') :
    r.opened? cs = (r.openCapture? none).map (·, cs) := by
  have none_of : ∀ word : List Char, Scan.after? ('?' :: word) cs = none := by
    intro word
    cases cs with
    | nil => rfl
    | cons c cs =>
        have hc : '?' ≠ c := fun hc => h (hc ▸ rfl)
        simp [Scan.after?, hc]
  simp [opened?, none_of]

/-- A group with a name. -/
def named? (r : Reader) (cs : List Char) : Option (Reader × List Char) := do
  let rest ← Scan.after? ['>'] (cs.dropWhile (· != '>'))
  if isGroupName (cs.takeWhile (· != '>')) then
    return (← r.openCapture? (String.ofList (cs.takeWhile (· != '>'))), rest)
  else none

theorem named?_append {r r' : Reader} {cs rest more : List Char}
    (h : r.named? cs = some (r', rest)) : r.named? (cs ++ more) = some (r', rest ++ more) := by
  simp only [named?, Option.bind_eq_bind, Option.bind_eq_some_iff] at h ⊢
  obtain ⟨rest₀, hrest, h⟩ := h
  have hne : cs.dropWhile (· != '>') ≠ [] := by
    intro hnil
    simp [hnil, Scan.after?] at hrest
  rw [Scan.takeWhile_append_of_dropWhile hne, Scan.dropWhile_append hne]
  refine ⟨rest₀ ++ more, Scan.after?_append hrest, ?_⟩
  split at h
  · simp only [Option.bind_eq_some_iff, pure, Option.some.injEq, Prod.mk.injEq] at h
    obtain ⟨r₁, hr₁, rfl, rfl⟩ := h
    simp [*]
  · cases h

/-- Behind a question mark that begins no word are flags. -/
theorem opened?_of_flags {r : Reader} {d : Char} (hd : d ∉ ['=', '!', '<', 'P'])
    (ds : List Char) : r.opened? ('?' :: d :: ds) = r.readFlags? (d :: ds) := by
  simp only [List.mem_cons, List.not_mem_nil, or_false, not_or] at hd
  obtain ⟨hequals, hbang, hless, hname⟩ := hd
  simp [opened?, Scan.after?, Ne.symm hequals, Ne.symm hbang, Ne.symm hless, Ne.symm hname]

/-- No word that the reader looks for has more than three characters. -/
theorem opened?_append_of_length {r r' : Reader} {cs rest more : List Char}
    (h : r.opened? cs = some (r', rest)) (hlen : 3 ≤ cs.length) :
    r.opened? (cs ++ more) = some (r', rest ++ more) := by
  have hafter : ∀ word : List Char, word.length ≤ 3 →
      Scan.after? word (cs ++ more) = (Scan.after? word cs).map (· ++ more) :=
    fun word hword => after?_append_of_length_le more (Nat.le_trans hword hlen)
  have hlook : (["?=", "?!", "?<=", "?<!"].any fun word : String =>
        (Scan.after? word.toList (cs ++ more)).isSome) =
      ["?=", "?!", "?<=", "?<!"].any fun word : String =>
        (Scan.after? word.toList cs).isSome := by
    simp [hafter]
  simp only [opened?] at h ⊢
  rw [hlook, hafter _ (by decide), hafter _ (by decide), hafter _ (by decide)]
  split at h
  · cases h
  rw [if_neg ‹_›]
  cases h₁ : Scan.after? "?P<".toList cs with
  | some ds => rw [h₁] at h; exact named?_append h
  | none =>
      cases h₂ : Scan.after? "?<".toList cs with
      | some ds => rw [h₁, h₂] at h; exact named?_append h
      | none =>
          cases h₃ : Scan.after? "?".toList cs with
          | some ds => rw [h₁, h₂, h₃] at h; exact readFlags?_append h
          | none =>
              simp only [h₁, h₂, h₃] at h
              obtain ⟨r₁, hr₁, heq⟩ := Option.map_eq_some_iff.1 h
              cases heq
              simp [hr₁]

theorem opened?_append {r r' : Reader} {cs rest more : List Char}
    (h : r.opened? cs = some (r', rest)) (hne : cs ≠ []) :
    r.opened? (cs ++ more) = some (r', rest ++ more) := by
  have plain : cs.head? ≠ some '?' → r.opened? (cs ++ more) = some (r', rest ++ more) := by
    intro hhead
    have hhead' : (cs ++ more).head? ≠ some '?' := by
      obtain ⟨c, cs, rfl⟩ := List.exists_cons_of_ne_nil hne
      simpa using hhead
    rw [opened?_of_head hhead] at h
    rw [opened?_of_head hhead']
    obtain ⟨r₁, hr₁, heq⟩ := Option.map_eq_some_iff.1 h
    cases heq
    rw [hr₁]
    rfl
  match cs, hne with
  | [c], _ =>
      refine plain fun hc => ?_
      obtain rfl : c = '?' := by simpa using hc
      cases h
  | [c, d], _ =>
      by_cases hc : c = '?'
      · subst hc
        -- a word is cut short only after one of these, and then nothing can be read
        by_cases hd : d ∈ ['=', '!', '<', 'P']
        · simp only [List.mem_cons, List.not_mem_nil, or_false] at hd
          rcases hd with rfl | rfl | rfl | rfl
          · cases h
          · cases h
          · cases h
          · cases h
        · rw [opened?_of_flags hd] at h
          rw [List.cons_append, List.cons_append, opened?_of_flags hd]
          exact readFlags?_append h
      · exact plain (by simpa using hc)
  | c :: d :: e :: cs, _ => exact opened?_append_of_length h (by simp)

theorem isVerbose_of_openCapture? {r r' : Reader} {name : Option String}
    (h : r.openCapture? name = some r') : r'.isVerbose = r.isVerbose := by
  obtain ⟨-, rfl⟩ := openCapture?_eq_some.1 h
  rfl

theorem isVerbose_of_repeatLast? {r r' : Reader} {min : Nat} {max : Option Nat} {mark : Bool}
    (h : r.repeatLast? min max mark = some r') : r'.isVerbose = r.isVerbose := by
  obtain ⟨p, ps, -, -, rfl⟩ := repeatLast?_eq_some.1 h
  rfl

theorem readOpening?_append {r r' : Reader} {cs rest : List Char}
    (h : r.readOpening? cs = some (r', rest)) :
    ∃ left, Follows r'.isVerbose rest left ∧
      ∀ more, (rest = [] → (left more).head? ≠ some '?') →
        r.readOpening? (cs ++ more) = some (r', left more) := by
  rw [readOpening?_eq] at h
  simp only [readOpening?_eq]
  -- where nothing but blanks is left, more text may go on with the blanks
  by_cases hne : Scan.skip r.isVerbose cs = []
  · rw [hne, opened?_of_head (by simp)] at h
    obtain ⟨r₁, hr₁, heq⟩ := Option.map_eq_some_iff.1 h
    cases heq
    refine ⟨fun more => Scan.skip r.isVerbose (cs ++ more), ?_, fun more hmore => ?_⟩
    · rw [isVerbose_of_openCapture? hr₁]
      simpa [hne] using Scan.follows_skip r.isVerbose cs
    · rw [opened?_of_head (hmore rfl), hr₁]
      rfl
  · refine ⟨_, .append .., fun more _ => ?_⟩
    rw [Scan.skip_append hne]
    exact opened?_append h hne

/-- A repetition, with the question mark that can make it lazy. -/
theorem repeatLast?_append {r r' : Reader} {cs rest : List Char} {min : Nat} {max : Option Nat}
    (h : (r.repeatLast? min max (lazyMark cs).1).bind (fun r' => some (r', (lazyMark cs).2)) =
      some (r', rest)) {more : List Char} (hmore : cs = [] → more.head? ≠ some '?') :
    (r.repeatLast? min max (lazyMark (cs ++ more)).1).bind
        (fun r' => some (r', (lazyMark (cs ++ more)).2)) = some (r', rest ++ more) := by
  rw [lazyMark_append fun hq hcs => hmore hcs (by simpa [hcs] using hq)]
  simp only [Option.bind_eq_some_iff, Option.some.injEq, Prod.mk.injEq] at h ⊢
  obtain ⟨r₁, hr₁, rfl, rfl⟩ := h
  exact ⟨r₁, hr₁, rfl, rfl⟩

/-- **A step takes the same piece in front of more text.** -/
theorem step?_append {r r' : Reader} {c : Char} {cs rest : List Char}
    (h : r.step? c cs = some (r', rest)) :
    ∃ left, Follows r'.isVerbose rest left ∧
      ∀ more, IsApart more → (rest = [] → (left more).head? ≠ some '?') →
        r.step? c (cs ++ more) = some (r', left more) := by
  -- most steps do not look behind the text at all
  have same : (∀ more, IsApart more → r.step? c (cs ++ more) = some (r', rest ++ more)) →
      ∃ left, Follows r'.isVerbose rest left ∧
        ∀ more, IsApart more → (rest = [] → (left more).head? ≠ some '?') →
          r.step? c (cs ++ more) = some (r', left more) :=
    fun hs => ⟨_, .append .., fun more hmore _ => hs more hmore⟩
  simp only [step?, Option.bind_eq_bind, pure] at h same ⊢
  split at h
  case h_1 =>
      obtain ⟨left, hf, hleft⟩ := readOpening?_append h
      exact ⟨left, hf, fun more _ => hleft more⟩
  case h_2 =>
      obtain ⟨r₁, hr₁, heq⟩ := Option.map_eq_some_iff.1 h
      cases heq
      exact same fun more _ => by simp [hr₁]
  case h_3 =>
      cases h
      exact same fun more _ => rfl
  case h_4 =>
      obtain ⟨⟨p, rest₀⟩, hp, heq⟩ := Option.map_eq_some_iff.1 h
      cases heq
      exact same fun more hmore => by simp [Class.read?_append hp hmore.2]
  case h_5 | h_6 | h_7 => exact same fun more hmore => repeatLast?_append h fun _ => hmore.1
  case h_8 =>
      obtain ⟨⟨⟨min, max⟩, rest₀⟩, hbounds, h⟩ := Option.bind_eq_some_iff.1 h
      simp only [bounds?_append hbounds, Option.bind_some]
      -- blanks may follow the brace, and the mark that makes the repetition lazy behind them
      by_cases hne : Scan.skip r.isVerbose rest₀ = []
      · have hskip : Scan.skip (r.flags.has .verbose) rest₀ = [] := hne
        simp only [hskip, lazyMark, Option.bind_eq_some_iff, Option.some.injEq,
          Prod.mk.injEq] at h
        obtain ⟨r₁, hr₁, rfl, rfl⟩ := h
        refine ⟨fun more => Scan.skip r.isVerbose (rest₀ ++ more), ?_, fun more _ hmore => ?_⟩
        · rw [isVerbose_of_repeatLast? hr₁]
          simpa [hne] using Scan.follows_skip r.isVerbose rest₀
        · have hmark : lazyMark (Scan.skip (r.flags.has .verbose) (rest₀ ++ more)) =
              (false, Scan.skip r.isVerbose (rest₀ ++ more)) := lazyMark_of_head (hmore rfl)
          simp [hmark, hr₁]
      · refine ⟨_, .append .., fun more _ _ => ?_⟩
        rw [show Scan.skip (r.flags.has .verbose) (rest₀ ++ more) =
          Scan.skip (r.flags.has .verbose) rest₀ ++ more from Scan.skip_append hne]
        exact repeatLast?_append h fun hnil => absurd hnil hne
  case h_9 =>
      obtain ⟨n, hn, heq⟩ := Option.map_eq_some_iff.1 h
      cases heq
      exact same fun more _ => by simp [hn]
  case h_10 | h_11 =>
      cases h
      exact same fun more _ => rfl
  case h_12 =>
      obtain ⟨⟨e, rest₀⟩, he, h⟩ := Option.bind_eq_some_iff.1 h
      obtain ⟨n, hn, heq⟩ := Option.bind_eq_some_iff.1 h
      cases heq
      obtain ⟨left, hf, hleft⟩ := Escaped.read?_append he
      exact ⟨left, hf, fun more hmore _ => by simp [hleft more hmore.2, hn]⟩
  case h_13 =>
      cases h
      exact ⟨_, .append .., fun more _ _ => rfl⟩

/-- **A run goes on in front of more text.** -/
theorem Reads.append {n : Nat} {r r' : Reader} {text rest : List Char} {ps : List Paren}
    (h : Reads n r text ps r' rest) :
    ∃ left, Follows r'.isVerbose rest left ∧
      ∀ more, IsApart more → (rest = [] → (left more).head? ≠ some '?') →
        Reads n r (text ++ more) (ps.map (.append more)) r' (left more) := by
  induction h with
  | done r text => exact ⟨_, .append .., fun more _ _ => .done ..⟩
  | @step n r r₁ r' text cs rest₁ rest c ps hskip hstep hrun ih =>
      obtain ⟨left, hf, hleft⟩ := ih
      obtain ⟨left₁, hf₁, hleft₁⟩ := step?_append hstep
      have first : ∀ more, Scan.skip r.isVerbose (text ++ more) = c :: (cs ++ more) := by
        intro more
        rw [Scan.skip_append (by simp [hskip]), hskip, List.cons_append]
      have parens : ∀ more, r.parens r₁ (c :: (cs ++ more)) =
          (r.parens r₁ (c :: cs)).map (.append more) := by
        intro more
        unfold Reader.parens
        split <;> rfl
      cases hrun with
      | done =>
          refine ⟨left₁, hf₁, fun more hmore hq => ?_⟩
          rw [List.append_nil, ← parens]
          exact .one (first more) (hleft₁ more hmore hq)
      | step hskip₁ hstep₁ hrun₁ =>
          -- something is left after this step, so what is put behind it stays there
          have hne : rest₁ ≠ [] := by
            rintro rfl
            simp at hskip₁
          obtain rfl := hf₁.eq_of_ne_nil hne
          refine ⟨left, hf, fun more hmore hq => ?_⟩
          rw [List.map_append, ← parens]
          exact .step (first more) (hleft₁ more hmore fun hnil => absurd hnil hne)
            (hleft more hmore hq)

end Reader

end Signpost.Regex
