import Signpost.Proofs.Pattern.Grammar

/-!
# Patterns — parsing

The reader takes exactly the texts of well-formed tokens.  Of any other text it says where it goes
wrong, and how (`Pattern.Blames`).

The reader is followed one character at a time.  Behind a part of the text it has the tokens of that
part, but for what is still open (`PatternReader.Has`), so at the end of a text with nothing open it
has the tokens of it all.

* `PatternReader.outcome_run`: the reader finds tokens that the text is a rendering of, or puts the
  blame on a part of it.
* `Pattern.parse_grammar`: the reader and the grammar agree.
-/

namespace Signpost

open Token (Formed WellFormed IsRendering)

/-! ### What a fault blames -/

/-- The character that a fault begins at, if it is not about the body of a variable. -/
def PatternFault.opener? : PatternFault → Option Char
  | .unclosedOptional | .emptyOptional => some '['
  | .unopenedOptional                  => some ']'
  | .unclosedVariable                  => some '{'
  | .unopenedVariable                  => some '}'
  | _                                  => none

/-- Whether a part of the text has a fault: the rest of the text from a bracket or a brace on, or a
variable with a body that is not to be read. -/
inductive Pattern.Blames (source : List Char) : List Char → PatternFault → Prop
  | behind {fragment : List Char} {fault : PatternFault} {c : Char}
      (opener : fault.opener? = some c) (head : fragment.head? = some c)
      (suffix : fragment <:+ source) : Blames source fragment fault
  | inBraces {body : List Char} {fault : PatternFault} {seen : List String}
      (balanced : Pattern.isBalanced 0 body = true) (unread : Token.ofBody seen body = .error fault)
      (isInfix : '{' :: (body ++ ['}']) <:+: source) : Blames source ('{' :: (body ++ ['}'])) fault

theorem Pattern.Blames.isInfix {source fragment : List Char} {fault : PatternFault}
    (h : Blames source fragment fault) : fragment <:+: source := by
  cases h with
  | behind _ _ hsuffix => exact hsuffix.isInfix
  | inBraces _ _ hinfix => exact hinfix

namespace PatternReader

variable {fault : List Char → PatternFault → Error} {r : PatternReader} {ts : List Token}
  {s cs : List Char}

/-! ### From the text to the tokens -/

/-- Whether a text is that of some tokens, the latest of which comes first. -/
structure Level (ts : List Token) (s : List Char) : Prop where
  formed    : Formed ts.reverse
  rendering : IsRendering ts.reverse s

theorem Level.nil : Level [] [] := ⟨.nil, .nil⟩

theorem Level.cons {t : Token} {text : List Char} (h : Level ts s) (hformed : Formed [t])
    (hrendering : IsRendering [t] text)
    (hapart : ∀ content us, ts = .text content :: us → t.text? = none) :
    Level (t :: ts) (s ++ text) := by
  refine ⟨?_, ?_⟩
  · rw [List.reverse_cons]
    refine h.formed.append hformed fun before content hlast more us heq => ?_
    have hts : ts = .text content :: before.reverse := by
      rw [← List.reverse_reverse ts, hlast]
      simp
    have hnone := hapart content before.reverse hts
    rw [(List.cons.inj heq).1] at hnone
    cases hnone
  · rw [List.reverse_cons]
    exact h.rendering.append hrendering

/-- Whether literal text has come by that has not been flushed yet, behind other tokens. -/
structure HasLiteral (r : PatternReader) : Prop where
  plain : ∀ c ∈ r.literal, c ∉ ['{', '}', '[', ']']
  apart : ∀ content us, r.tokens ≠ .text content :: us

theorem HasLiteral.flushed (h : HasLiteral r) (hlevel : Level r.tokens s) :
    Level r.flushed (s ++ r.literal.reverse) := by
  unfold PatternReader.flushed
  split
  case isTrue hnil =>
    have hnil : r.literal = [] := by simpa using hnil
    simpa [hnil] using hlevel
  case isFalse hne =>
    have hne : r.literal ≠ [] := by simpa using hne
    refine hlevel.cons (.text ?_ ?_ (by simp) .nil) ?_ fun content us heq => ?_
    · simpa using hne
    · simpa using h.plain
    · simpa using IsRendering.text (String.ofList r.literal.reverse) .nil
    · exact absurd heq (h.apart content us)

/-- Whether a text goes up to the bracket of the innermost optional segment that is open. -/
inductive Opened : List OpenOptional → List Char → Prop
  | nil : Opened [] []
  | cons {o : OpenOptional} {os : List OpenOptional} {pre s : List Char} (outer : Opened os pre)
      (level : Level o.before s) : Opened (o :: os) (pre ++ (s ++ ['[']))

/-- **What a reader has behind a part of the text**: tokens that this part is the text of, up to the
literal text or the variable that it is in. -/
inductive Has (r : PatternReader) : List Char → Prop
  | outside {pre s : List Char} (closed : r.open? = none) (outer : Opened r.optional pre)
      (level : Level r.tokens s) (literal : HasLiteral r) :
      Has r (pre ++ (s ++ r.literal.reverse))
  | inside {v : OpenVariable} {pre s : List Char} (isOpen : r.open? = some v)
      (outer : Opened r.optional pre) (level : Level r.tokens s) (literal : r.literal = [])
      (scans : ∀ rest, Pattern.isBalanced 0 (v.body.reverse ++ rest) =
        Pattern.isBalanced v.depth (if v.escaped then '\\' :: rest else rest)) :
      Has r (pre ++ (s ++ '{' :: v.body.reverse))

namespace Has

/-- A brace opens a variable. -/
theorem openVariable {pre : List Char} (h : Has r pre) (hopen : r.open? = none)
    (start : List Char) :
    Has { r with open? := some { start := start }, tokens := r.flushed, literal := [] }
      (pre ++ ['{']) := by
  cases h with
  | inside hsome => simp [hopen] at hsome
  | @outside pre s _ houter hlevel hliteral =>
      have hhas : Has { r with
            open? := some { start := start }, tokens := r.flushed, literal := [] }
          (pre ++ ((s ++ r.literal.reverse) ++ '{' :: [].reverse)) := by
        refine .inside (v := { start := start }) rfl houter ?_ rfl fun rest => ?_
        · exact hliteral.flushed hlevel
        · simp
      simpa using hhas

/-- A bracket opens an optional segment. -/
theorem openOptional {pre : List Char} (h : Has r pre) (hopen : r.open? = none)
    (start : List Char) :
    Has { r with optional := ⟨r.flushed, start⟩ :: r.optional, tokens := [], literal := [] }
      (pre ++ ['[']) := by
  cases h with
  | inside hsome => simp [hopen] at hsome
  | @outside pre s _ houter hlevel hliteral =>
      have hhas : Has { r with
            optional := ⟨r.flushed, start⟩ :: r.optional, tokens := [], literal := [] }
          ((pre ++ ((s ++ r.literal.reverse) ++ ['['])) ++ ([] ++ [].reverse)) :=
        .outside hopen (.cons houter (hliteral.flushed hlevel)) .nil ⟨by simp, by simp⟩
      simpa using hhas

/-- A bracket closes the innermost optional segment. -/
theorem closeOptional {pre : List Char} (h : Has r pre) (hopen : r.open? = none)
    {o : OpenOptional} {os : List OpenOptional} (hoptional : r.optional = o :: os)
    (hne : r.flushed ≠ []) :
    Has { r with
        optional := os, tokens := .optional r.flushed.reverse :: o.before, literal := [] }
      (pre ++ [']']) := by
  cases h with
  | inside hsome => simp [hopen] at hsome
  | @outside pre s _ houter hlevel hliteral =>
      rw [hoptional] at houter
      obtain _ | @⟨_, _, pre, s', houter, hbefore⟩ := houter
      have hinner := hliteral.flushed hlevel
      have hlevel' : Level (.optional r.flushed.reverse :: o.before)
          (s' ++ '[' :: ((s ++ r.literal.reverse) ++ [']'])) :=
        hbefore.cons (.optional (by simpa using hne) hinner.formed .nil)
          (.optional hinner.rendering .nil) fun _ _ _ => rfl
      have hhas : Has { r with
            optional := os, tokens := .optional r.flushed.reverse :: o.before, literal := [] }
          (pre ++ ((s' ++ '[' :: ((s ++ r.literal.reverse) ++ [']'])) ++ [].reverse)) :=
        .outside hopen houter hlevel' ⟨by simp, by simp⟩
      simpa using hhas

/-- A plain character goes on with literal text. -/
theorem literal {pre : List Char} (h : Has r pre) (hopen : r.open? = none) {c : Char}
    (hc : c ∉ ['{', '}', '[', ']']) :
    Has { r with literal := c :: r.literal } (pre ++ [c]) := by
  cases h with
  | inside hsome => simp [hopen] at hsome
  | @outside pre s _ houter hlevel hliteral =>
      have hhas : Has { r with literal := c :: r.literal }
          (pre ++ (s ++ (c :: r.literal).reverse)) :=
        .outside hopen houter hlevel
          ⟨List.forall_mem_cons.2 ⟨hc, hliteral.plain⟩, hliteral.apart⟩
      simpa using hhas

/-- A character goes on with the body of a variable. -/
theorem goOn {pre : List Char} (h : Has r pre) {v v' : OpenVariable} (hopen : r.open? = some v)
    {c : Char} (hbody : v'.body = c :: v.body)
    (hscans : ∀ rest, Pattern.isBalanced v.depth
        (if v.escaped then '\\' :: c :: rest else c :: rest) =
      Pattern.isBalanced v'.depth (if v'.escaped then '\\' :: rest else rest)) :
    Has { r with open? := some v' } (pre ++ [c]) := by
  cases h with
  | outside hnone => simp [hopen] at hnone
  | @inside v₀ pre s hsome houter hlevel hliteral hbalanced =>
      obtain rfl := Option.some.inj (hopen.symm.trans hsome)
      have hhas : Has { r with open? := some v' } (pre ++ (s ++ '{' :: v'.body.reverse)) := by
        refine .inside rfl houter hlevel hliteral fun rest => ?_
        rw [hbody, List.reverse_cons, List.append_assoc, List.singleton_append, hbalanced,
          ← hscans]
      simpa [hbody] using hhas

/-- The body that is open balances its braces where it ends. -/
theorem balanced {pre : List Char} (h : Has r pre) {v : OpenVariable} (hopen : r.open? = some v)
    (hescaped : v.escaped = false) (hdepth : v.depth = 0) :
    Pattern.isBalanced 0 v.body.reverse = true := by
  cases h with
  | outside hnone => simp [hopen] at hnone
  | inside hsome _ _ _ hbalanced =>
      obtain rfl := Option.some.inj (hopen.symm.trans hsome)
      have hend := hbalanced []
      simpa [hescaped, hdepth, Pattern.isBalanced] using hend

/-- The variable that is open, up to the brace that closes it. -/
theorem isInfix {pre : List Char} (h : Has r pre) {v : OpenVariable} (hopen : r.open? = some v)
    (cs : List Char) : '{' :: (v.body.reverse ++ ['}']) <:+: pre ++ '}' :: cs := by
  cases h with
  | outside hnone => simp [hopen] at hnone
  | @inside _ pre s hsome =>
      obtain rfl := Option.some.inj (hopen.symm.trans hsome)
      exact ⟨pre ++ s, cs, by simp⟩

/-- A brace closes a variable. -/
theorem closeVariable {pre : List Char} (h : Has r pre) {v : OpenVariable}
    (hopen : r.open? = some v) (hescaped : v.escaped = false) (hdepth : v.depth = 0) {t : Token}
    (ht : Token.ofBody r.seen v.body.reverse = .ok t) (seen : List String) :
    Has { r with open? := none, tokens := t :: r.tokens, seen := seen } (pre ++ ['}']) := by
  have hend := h.balanced hopen hescaped hdepth
  cases h with
  | outside hnone => simp [hopen] at hnone
  | @inside _ pre s hsome houter hlevel hliteral _ =>
      obtain rfl := Option.some.inj (hopen.symm.trans hsome)
      obtain ⟨name, own, default, rfl, hvar, -, hbody⟩ := Token.ofBody_eq_ok_iff.1 ht
      have hlevel' : Level (.var name own default :: r.tokens)
          (s ++ '{' :: (v.body.reverse ++ ['}'])) :=
        hlevel.cons (.var hvar .nil) (.var hbody hend .nil) fun _ _ _ => rfl
      have hhas : Has { r with
            open? := none, tokens := .var name own default :: r.tokens, seen := seen }
          (pre ++ ((s ++ '{' :: (v.body.reverse ++ ['}'])) ++ r.literal.reverse)) :=
        .outside rfl houter hlevel' ⟨by simp [hliteral], by simp⟩
      simpa [hliteral] using hhas

end Has

theorem isBalanced_plain {c : Char} (hbackslash : c ≠ '\\') (hopening : c ≠ '{')
    (hclosing : c ≠ '}') (depth : Nat) (rest : List Char) :
    Pattern.isBalanced depth (c :: rest) = Pattern.isBalanced depth rest := by
  rw [Pattern.isBalanced]
  · exact fun heq => absurd heq hbackslash
  · exact fun _ _ heq => absurd heq hbackslash
  · exact hopening
  · exact fun _ heq => absurd heq hclosing
  · exact fun _ _ heq => absurd heq hclosing

/-- What a character does inside the braces of a variable: it goes on with the body, or it is the
brace that closes it. -/
theorem stepInside_cases (v : OpenVariable) (c : Char) :
    (∃ v' : OpenVariable, v'.start = v.start ∧ v'.body = c :: v.body ∧
      (∀ rest, Pattern.isBalanced v.depth (if v.escaped then '\\' :: c :: rest else c :: rest) =
        Pattern.isBalanced v'.depth (if v'.escaped then '\\' :: rest else rest)) ∧
      ∀ (r : PatternReader) fault, r.stepInside fault v c = .ok { r with open? := some v' }) ∨
    c = '}' ∧ v.escaped = false ∧ v.depth = 0 ∧ ∀ (r : PatternReader) fault,
      r.stepInside fault v c =
        (r.closeVariable v.body.reverse).mapError (fault ('{' :: v.body.reverse ++ ['}'])) := by
  obtain ⟨start, body, depth, escaped⟩ := v
  cases escaped with
  | true =>
      refine .inl ⟨⟨start, c :: body, depth, false⟩, rfl, rfl, fun rest => ?_, fun r fault => rfl⟩
      simp [Pattern.isBalanced]
  | false =>
      by_cases hbackslash : c = '\\'
      · subst hbackslash
        exact .inl ⟨⟨start, '\\' :: body, depth, true⟩, rfl, rfl, fun rest => rfl,
          fun r fault => rfl⟩
      by_cases hbrace : c = '{'
      · subst hbrace
        refine .inl ⟨⟨start, '{' :: body, depth + 1, false⟩, rfl, rfl, fun rest => ?_,
          fun r fault => rfl⟩
        simp [Pattern.isBalanced]
      by_cases hclose : c = '}'
      · subst hclose
        cases depth with
        | zero => exact .inr ⟨rfl, rfl, rfl, fun r fault => rfl⟩
        | succ depth =>
            refine .inl ⟨⟨start, '}' :: body, depth, false⟩, rfl, rfl, fun rest => ?_,
              fun r fault => rfl⟩
            simp [Pattern.isBalanced]
      · refine .inl ⟨⟨start, c :: body, depth, false⟩, rfl, rfl, fun rest => ?_, fun r fault => ?_⟩
        · exact isBalanced_plain hbackslash hbrace hclose depth rest
        · exact stepInside_plain rfl hbackslash hbrace hclose

/-- Whether what is open began with its bracket or its brace. -/
structure Starts (source : List Char) (r : PatternReader) : Prop where
  braces   : ∀ v ∈ r.open?, v.start.head? = some '{' ∧ v.start <:+ source
  brackets : ∀ o ∈ r.optional, o.start.head? = some '[' ∧ o.start <:+ source

/-- Whether a result is as it should be, or else puts the blame on a part of the text. -/
inductive Outcome {α : Type} (fault : List Char → PatternFault → Error) (source : List Char)
    (P : α → Prop) : Except Error α → Prop
  | ok {a : α} (h : P a) : Outcome fault source P (.ok a)
  | error {fragment : List Char} {e : PatternFault} (h : Pattern.Blames source fragment e) :
      Outcome fault source P (.error (fault fragment e))

theorem Outcome.bind {α β : Type} {source : List Char} {P : α → Prop} {Q : β → Prop}
    {x : Except Error α} {f : α → Except Error β} (h : Outcome fault source P x)
    (hf : ∀ a, P a → Outcome fault source Q (f a)) : Outcome fault source Q (x >>= f) := by
  cases h with
  | ok hP => exact hf _ hP
  | error hblames => exact .error hblames

section

variable {source pre : List Char} {c : Char}

theorem outcome_stepInside {v : OpenVariable} (hr : Has r pre) (hstarts : Starts source r)
    (hopen : r.open? = some v) (hsource : pre ++ c :: cs = source) :
    Outcome fault source (fun r' => Has r' (pre ++ [c]) ∧ Starts source r')
      (r.stepInside fault v c) := by
  obtain ⟨hhead, hsuffix⟩ := hstarts.braces v hopen
  rcases stepInside_cases v c with ⟨v', hstart, hbody, hscans, hstep⟩ |
    ⟨rfl, hescaped, hdepth, hstep⟩
  · rw [hstep]
    refine .ok ⟨hr.goOn hopen hbody hscans, ⟨?_, hstarts.brackets⟩⟩
    rintro v' ⟨⟩
    rw [hstart]
    exact ⟨hhead, hsuffix⟩
  · rw [hstep]
    cases hread : Token.ofBody r.seen v.body.reverse with
    | ok t =>
        have hclose : r.closeVariable v.body.reverse = .ok { r with
            open? := none, tokens := t :: r.tokens,
            seen := (t.vars 0).map Variable.name ++ r.seen } := by
          rw [PatternReader.closeVariable, hread]
          rfl
        rw [hclose]
        exact .ok ⟨hr.closeVariable hopen hescaped hdepth hread _,
          ⟨by simp, hstarts.brackets⟩⟩
    | error e =>
        have hclose : r.closeVariable v.body.reverse = .error e := by
          rw [PatternReader.closeVariable, hread]
          rfl
        rw [hclose]
        refine .error (.inBraces (hr.balanced hopen hescaped hdepth) hread ?_)
        rw [← hsource]
        exact hr.isInfix hopen cs

theorem outcome_stepOutside (hr : Has r pre) (hstarts : Starts source r) (hopen : r.open? = none)
    (hsource : pre ++ c :: cs = source) :
    Outcome fault source (fun r' => Has r' (pre ++ [c]) ∧ Starts source r')
      (r.stepOutside fault c (c :: cs)) := by
  have hsuffix : c :: cs <:+ source := ⟨pre, hsource⟩
  unfold stepOutside
  split
  case h_1 =>
    refine .ok ⟨hr.openVariable hopen _, ⟨?_, hstarts.brackets⟩⟩
    rintro v ⟨⟩
    exact ⟨rfl, hsuffix⟩
  case h_2 =>
    exact .ok ⟨hr.openOptional hopen _,
      ⟨hstarts.braces, List.forall_mem_cons.2 ⟨⟨rfl, hsuffix⟩, hstarts.brackets⟩⟩⟩
  case h_3 =>
    have hbrackets := hstarts.brackets
    split
    case h_1 => exact .error (.behind rfl rfl hsuffix)
    case h_2 o os hoptional =>
      rw [hoptional, List.forall_mem_cons] at hbrackets
      split
      case isTrue => exact .error (.behind rfl hbrackets.1.1 hbrackets.1.2)
      case isFalse hne =>
        exact .ok ⟨hr.closeOptional hopen hoptional (by simpa using hne),
          ⟨hstarts.braces, hbrackets.2⟩⟩
  case h_4 => exact .error (.behind rfl rfl hsuffix)
  case h_5 h₁ h₂ h₃ h₄ =>
    refine .ok ⟨hr.literal hopen ?_, ⟨hstarts.braces, hstarts.brackets⟩⟩
    simp only [List.mem_cons, List.not_mem_nil, or_false, not_or]
    exact ⟨h₁, h₄, h₂, h₃⟩

/-- At the end of the text nothing may be open. -/
theorem outcome_finish (hr : Has r source) (hstarts : Starts source r) :
    Outcome fault source (fun ts => Formed ts ∧ IsRendering ts source) (r.finish fault) := by
  unfold finish
  split
  case h_1 v hopen =>
    obtain ⟨hhead, hsuffix⟩ := hstarts.braces v hopen
    exact .error (.behind rfl hhead hsuffix)
  case h_2 o os hopen hoptional =>
    obtain ⟨hhead, hsuffix⟩ := hstarts.brackets o (by rw [hoptional]; exact List.mem_cons_self)
    exact .error (.behind rfl hhead hsuffix)
  case h_3 hopen hoptional =>
    cases hr with
    | inside hsome => simp [hopen] at hsome
    | outside _ houter hlevel hliteral =>
        rw [hoptional] at houter
        cases houter
        have hwhole := hliteral.flushed hlevel
        exact .ok ⟨hwhole.formed, hwhole.rendering⟩

/-- **The reader finds well-formed tokens that the text is a rendering of**, or puts the blame on a
part of it. -/
theorem outcome_run (hr : Has r pre) (hstarts : Starts source r) (hsource : pre ++ cs = source) :
    Outcome fault source (fun ts => Formed ts ∧ IsRendering ts source) (r.run fault cs) := by
  induction cs generalizing r pre with
  | nil =>
      rw [List.append_nil] at hsource
      rw [run]
      exact outcome_finish (hsource ▸ hr) hstarts
  | cons c cs ih =>
      have hrest : ∀ r', Has r' (pre ++ [c]) ∧ Starts source r' → Outcome fault source
          (fun ts => Formed ts ∧ IsRendering ts source) (r'.run fault cs) := fun r' h =>
        ih h.1 h.2 (by rw [List.append_assoc]; exact hsource)
      rw [run]
      split
      case h_1 v hopen => exact (outcome_stepInside hr hstarts hopen hsource).bind hrest
      case h_2 hopen => exact (outcome_stepOutside hr hstarts hopen hsource).bind hrest

end

end PatternReader

namespace Pattern

/-- What is read is well formed and written like that, or a part of the text is to blame. -/
theorem parse_cases (source : String) :
    (∃ ts, parse source = .ok ⟨source, ts⟩ ∧ Formed ts ∧ IsRendering ts source.toList) ∨
      ∃ fragment fault, parse source = .error (.pattern source (String.ofList fragment) fault) ∧
        Blames source.toList fragment fault := by
  have hstart : PatternReader.Has {} ([] ++ ([] ++ ([] : List Char).reverse)) :=
    .outside rfl .nil .nil ⟨by simp, by simp⟩
  have houtcome : PatternReader.Outcome
      (fun fragment => .pattern source (String.ofList fragment)) source.toList _ _ :=
    PatternReader.outcome_run hstart ⟨by simp, by simp⟩ (List.nil_append source.toList)
  rw [parse_of_run rfl]
  generalize PatternReader.run (fun fragment => .pattern source (String.ofList fragment)) {}
    source.toList = result at houtcome ⊢
  cases houtcome with
  | @ok ts h => exact .inl ⟨ts, rfl, h⟩
  | @error fragment fault h => exact .inr ⟨fragment, fault, rfl, h⟩

/-- A text that is read is a rendering of its tokens. -/
theorem isRendering_of_parse {source : String} {p : Pattern} (h : parse source = .ok p) :
    p.source = source ∧ Formed p.tokens ∧ IsRendering p.tokens source.toList := by
  rcases parse_cases source with ⟨ts, hts, hformed, hrendering⟩ | ⟨_, _, herror, -⟩
  · obtain rfl := Except.ok.inj (h.symm.trans hts)
    exact ⟨rfl, hformed, hrendering⟩
  · rw [herror] at h
    cases h

/-- **The reader and the grammar agree.**  A text is read as some tokens exactly if these are well
formed and the text is a rendering of them; so it is a rendering of no others.  A text that is no
rendering of well-formed tokens is refused, with the text itself and a part of it that is to
blame. -/
theorem parse_grammar (source : String) :
    (∀ p, parse source = .ok p ↔ p.source = source ∧ WellFormed p.tokens ∧
      IsRendering p.tokens source.toList) ∧
    ((¬ ∃ ts, WellFormed ts ∧ IsRendering ts source.toList) ↔
      ∃ fragment fault, parse source = .error (.pattern source (String.ofList fragment) fault) ∧
        Blames source.toList fragment fault) := by
  refine ⟨fun p => ⟨fun h => ?_, ?_⟩, fun hnone => ?_, ?_⟩
  · have hnames := nodup_names_of_parse h
    rcases parse_cases source with ⟨ts, hts, hformed, hrendering⟩ | ⟨fragment, fault, herror, -⟩
    · obtain rfl := Except.ok.inj (h.symm.trans hts)
      exact ⟨rfl, ⟨hformed, hnames⟩, hrendering⟩
    · rw [herror] at h
      cases h
  · rintro ⟨rfl, hformed, hrendering⟩
    exact parse_of_isRendering hformed hrendering
  · rcases parse_cases source with ⟨ts, hts, hformed, hrendering⟩ | herror
    · exact absurd ⟨ts, ⟨hformed, nodup_names_of_parse hts⟩, hrendering⟩ hnone
    · exact herror
  · rintro ⟨fragment, fault, herror, -⟩ ⟨ts, hformed, hrendering⟩
    rw [parse_of_isRendering hformed hrendering] at herror
    cases herror

end Pattern

end Signpost
