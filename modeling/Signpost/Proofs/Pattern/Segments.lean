import Signpost.Proofs.Pattern.Reading

/-!
# Patterns — segments

A path that consists of segments: each is a slash, and behind it literal text or a variable without
a constraint; and the last ones may be optional, and so on (`Pattern.IsSegmented`).  It is read as
tokens of the same kind, where literal text goes on up to the next variable
(`Token.AreSegments`).

* `Pattern.areSegments_of_parse`: what a path of segments is read as.
-/

namespace Signpost

/-! ### Tokens -/

namespace Token

/-- Whether tokens begin with text that begins with a slash. -/
def Opens (ts : List Token) : Prop :=
  ∃ content rest, ts = .text content :: rest ∧ content.toList.head? = some '/'

/-- Whether tokens are segments: text behind a slash, with or without a variable after it, and
segments that may be left out at the end of all. -/
inductive AreSegments : List Token → Prop
  | nil : AreSegments []
  | text {content : String} {ts : List Token} (hslash : content.toList.head? = some '/')
      (hrest : AreSegments ts) : AreSegments (.text content :: ts)
  | var {content name : String} {default : Option String} {ts : List Token}
      (hslash : content.toList.head? = some '/') (hrest : AreSegments ts) :
      AreSegments (.text content :: .var name none default :: ts)
  | tail {inner : List Token} (hopens : Opens inner) (hinner : AreSegments inner) :
      AreSegments [.optional inner]

theorem AreSegments.opens {ts : List Token} (h : AreSegments ts) :
    ts = [] ∨ Opens ts ∨ ∃ inner, Opens inner ∧ ts = [.optional inner] := by
  cases h with
  | nil => exact .inl rfl
  | text hslash hrest => exact .inr (.inl ⟨_, _, rfl, hslash⟩)
  | var hslash hrest => exact .inr (.inl ⟨_, _, rfl, hslash⟩)
  | tail hopens hinner => exact .inr (.inr ⟨_, hopens, rfl⟩)

/-- No variable of segments has a constraint. -/
theorem AreSegments.constraint_eq {ts : List Token} (h : AreSegments ts) {depth : Nat} :
    ∀ v ∈ ts.flatMap (vars depth), v.constraint = none := by
  induction h generalizing depth with
  | nil => simp
  | text _ _ ih => simpa [vars] using ih
  | var _ _ ih => simpa [vars] using ih
  | tail _ _ ih => simpa [vars] using ih

end Token

open Token (Opens AreSegments)

/-! ### Texts -/

namespace Pattern

/-- Whether the braces in the body of a variable balance, where `depth` of them are open. -/
def isBalanced : (depth : Nat) → List Char → Bool
  | depth, []              => depth = 0
  | _, ['\\']              => false
  | depth, '\\' :: _ :: cs => isBalanced depth cs
  | depth, '{' :: cs       => isBalanced (depth + 1) cs
  | 0, '}' :: _            => false
  | depth + 1, '}' :: cs   => isBalanced depth cs
  | depth, _ :: cs         => isBalanced depth cs

/-- Whether a text consists of segments. -/
inductive IsSegmented : List Char → Prop
  | nil : IsSegmented []
  | text {content rest : List Char} (hplain : ∀ c ∈ content, c ∉ ['{', '}', '[', ']'])
      (hrest : IsSegmented rest) : IsSegmented ('/' :: (content ++ rest))
  /-- Only a constraint has a colon in front of it. -/
  | var {body rest : List Char} (hbalanced : isBalanced 0 body)
      (hfree : (body.dropWhile fun c => c != ':' && c != '=').head? ≠ some ':')
      (hrest : IsSegmented rest) : IsSegmented ('/' :: '{' :: (body ++ '}' :: rest))
  | tail {inner : List Char} (hslash : inner.head? = some '/') (hinner : IsSegmented inner) :
      IsSegmented ('[' :: (inner ++ [']']))

end Pattern

/-! ### The reader -/

theorem Token.ofBody_of_unconstrained {seen : List String} {body : List Char} {t : Token}
    (hfree : (body.dropWhile fun c => c != ':' && c != '=').head? ≠ some ':')
    (h : Token.ofBody seen body = .ok t) : ∃ name default, t = .var name none default := by
  unfold Token.ofBody at h
  simp only [bind, Except.bind, throw, throwThe, MonadExceptOf.throw, pure, Except.pure] at h
  split at h
  case isTrue => cases h
  case isFalse =>
    split at h
    case isTrue => cases h
    case isFalse =>
      split at h
      case h_1 heq =>
        rw [heq] at hfree
        exact absurd rfl hfree
      all_goals exact ⟨_, _, (Except.ok.inj h).symm⟩

namespace PatternReader

variable {fault : List Char → PatternFault → Error} {r : PatternReader} {cs : List Char}
  {ts : List Token}

theorem run_outside (hopen : r.open? = none) (c : Char) (cs : List Char) :
    r.run fault (c :: cs) = r.stepOutside fault c (c :: cs) >>= fun r => r.run fault cs := by
  rw [run]
  split
  case h_1 hsome => rw [hopen] at hsome; cases hsome
  case h_2 => rfl

theorem run_inside {v : OpenVariable} (hopen : r.open? = some v) (c : Char) (cs : List Char) :
    r.run fault (c :: cs) = r.stepInside fault v c >>= fun r => r.run fault cs := by
  rw [run]
  split
  case h_1 hsome =>
    obtain rfl := Option.some.inj (hopen.symm.trans hsome)
    rfl
  case h_2 hnone => rw [hopen] at hnone; cases hnone

theorem run_plain (hopen : r.open? = none) {c : Char} (hc : c ∉ ['{', '}', '[', ']']) :
    r.run fault (c :: cs) =
      ({ r with literal := c :: r.literal } : PatternReader).run fault cs := by
  simp only [List.mem_cons, List.not_mem_nil, or_false, not_or] at hc
  obtain ⟨h₁, h₂, h₃, h₄⟩ := hc
  have hstep : r.stepOutside fault c (c :: cs) = .ok { r with literal := c :: r.literal } := by
    unfold stepOutside
    split
    case h_1 => exact absurd rfl h₁
    case h_2 => exact absurd rfl h₃
    case h_3 => exact absurd rfl h₄
    case h_4 => exact absurd rfl h₂
    case h_5 => rfl
  rw [run_outside hopen, hstep]
  rfl

theorem run_text (hopen : r.open? = none) {content : List Char}
    (hplain : ∀ c ∈ content, c ∉ ['{', '}', '[', ']']) :
    r.run fault (content ++ cs) =
      ({ r with literal := content.reverse ++ r.literal } : PatternReader).run fault cs := by
  induction content generalizing r with
  | nil => rfl
  | cons c content ih =>
      obtain ⟨hc, hcontent⟩ := List.forall_mem_cons.1 hplain
      rw [List.cons_append, run_plain hopen hc, ih (by exact hopen) hcontent]
      simp

theorem run_openVariable (hopen : r.open? = none) :
    r.run fault ('{' :: cs) = ({ r with
      open? := some { start := '{' :: cs }, tokens := r.flushed, literal := [] } :
        PatternReader).run fault cs := by
  rw [run_outside hopen]
  rfl

theorem run_openOptional (hopen : r.open? = none) :
    r.run fault ('[' :: cs) = ({ r with
      optional := ⟨r.flushed, '[' :: cs⟩ :: r.optional, tokens := [], literal := [] } :
        PatternReader).run fault cs := by
  rw [run_outside hopen]
  rfl

theorem run_closeOptional (hopen : r.open? = none) {o : OpenOptional} {os : List OpenOptional}
    (hoptional : r.optional = o :: os) (hne : r.flushed ≠ []) :
    r.run fault (']' :: cs) = ({ r with
      optional := os, tokens := .optional r.flushed.reverse :: o.before, literal := [] } :
        PatternReader).run fault cs := by
  have hempty : r.flushed.isEmpty = false := by simpa using hne
  rw [run_outside hopen]
  simp only [stepOutside, hoptional, hempty, Bool.false_eq_true, if_false]
  rfl

theorem run_goOn {v v' : OpenVariable} {c : Char} (hopen : r.open? = some v)
    (hstep : r.stepInside fault v c = .ok { r with open? := some v' }) (cs : List Char) :
    r.run fault (c :: cs) = ({ r with open? := some v' } : PatternReader).run fault cs := by
  rw [run_inside hopen, hstep]
  rfl

theorem run_closeVariable {v : OpenVariable} (hopen : r.open? = some v)
    (hescaped : v.escaped = false) (hdepth : v.depth = 0) {t : Token}
    (ht : Token.ofBody r.seen v.body.reverse = .ok t) :
    r.run fault ('}' :: cs) = ({ r with
      open? := none, tokens := t :: r.tokens, seen := (t.vars 0).map Variable.name ++ r.seen } :
        PatternReader).run fault cs := by
  have hclose : r.closeVariable v.body.reverse = .ok { r with
      open? := none, tokens := t :: r.tokens, seen := (t.vars 0).map Variable.name ++ r.seen } := by
    rw [closeVariable, ht]
    rfl
  rw [run_inside hopen]
  simp only [stepInside, hescaped, hdepth, hclose, Bool.false_eq_true, if_false]
  rfl

theorem run_close {v : OpenVariable} (hopen : r.open? = some v) (hescaped : v.escaped = false)
    (hdepth : v.depth = 0) (h : r.run fault ('}' :: cs) = .ok ts) :
    ∃ t, Token.ofBody r.seen v.body.reverse = .ok t ∧
      ({ r with open? := none, tokens := t :: r.tokens,
                seen := (t.vars 0).map Variable.name ++ r.seen } : PatternReader).run fault cs =
        .ok ts := by
  rw [run_inside hopen] at h
  obtain ⟨r', hr', hrun⟩ := bind_eq_ok.1 h
  simp only [stepInside, hescaped, hdepth, Bool.false_eq_true, if_false] at hr'
  cases hclose : r.closeVariable v.body.reverse with
  | error e =>
      rw [hclose] at hr'
      cases hr'
  | ok closed =>
      rw [hclose] at hr'
      obtain rfl := Except.ok.inj hr'
      obtain ⟨t, ht, hclosed⟩ := bind_eq_ok.1 hclose
      obtain rfl := Except.ok.inj hclosed
      exact ⟨t, ht, hrun⟩

/-- A character without a meaning of its own goes on with the body. -/
theorem stepInside_plain {v : OpenVariable} (hescaped : v.escaped = false) {c : Char}
    (hbackslash : c ≠ '\\') (hopening : c ≠ '{') (hclosing : c ≠ '}') :
    r.stepInside fault v c = .ok { r with open? := some { v with body := c :: v.body } } := by
  unfold stepInside
  rw [if_neg (by simp [hescaped])]
  split
  case h_1 => exact absurd rfl hbackslash
  case h_2 => exact absurd rfl hopening
  case h_3 => exact absurd rfl hclosing
  case h_4 => exact absurd rfl hclosing
  case h_5 => rfl

/-- The reader goes through a body up to the brace that closes it. -/
theorem run_inside_body {v : OpenVariable} (hopen : r.open? = some v) (hescaped : v.escaped = false)
    {body : List Char} (hbalanced : Pattern.isBalanced v.depth body = true) :
    r.run fault (body ++ '}' :: cs) = ({ r with
      open? := some { v with body := body.reverse ++ v.body, depth := 0 } } :
        PatternReader).run fault ('}' :: cs) := by
  generalize hdepth : v.depth = depth at hbalanced
  induction depth, body using Pattern.isBalanced.induct generalizing r v with
  | case1 depth =>
      obtain rfl : depth = 0 := by simpa [Pattern.isBalanced] using hbalanced
      obtain ⟨start, body, depth, escaped⟩ := v
      obtain rfl : depth = 0 := hdepth
      cases r
      cases hopen
      rfl
  | case2 => cases hbalanced
  | case3 depth head body ih =>
      have hslash : r.stepInside fault v '\\' =
          .ok { r with open? := some { v with escaped := true, body := '\\' :: v.body } } := by
        simp [stepInside, hescaped]
      have hnext : ({ r with open? := some { v with escaped := true, body := '\\' :: v.body } } :
          PatternReader).stepInside fault { v with escaped := true, body := '\\' :: v.body } head =
            .ok { r with open? := some { v with body := head :: '\\' :: v.body } } := by
        simp [stepInside, hescaped]
      rw [List.cons_append, run_goOn hopen hslash, List.cons_append, run_goOn rfl hnext,
        ih (v := { v with body := head :: '\\' :: v.body }) rfl hescaped hdepth
          (by simpa [Pattern.isBalanced] using hbalanced)]
      simp
  | case4 depth body ih =>
      have hbrace : r.stepInside fault v '{' =
          .ok { r with open? := some { v with depth := depth + 1, body := '{' :: v.body } } := by
        simp [stepInside, hescaped, hdepth]
      rw [List.cons_append, run_goOn hopen hbrace,
        ih (v := { v with depth := depth + 1, body := '{' :: v.body }) rfl hescaped rfl
          (by simpa [Pattern.isBalanced] using hbalanced)]
      simp
  | case5 body => cases hbalanced
  | case6 depth body ih =>
      have hbrace : r.stepInside fault v '}' =
          .ok { r with open? := some { v with depth := depth, body := '}' :: v.body } } := by
        simp [stepInside, hescaped, hdepth]
      rw [List.cons_append, run_goOn hopen hbrace,
        ih (v := { v with depth := depth, body := '}' :: v.body }) rfl hescaped rfl
          (by simpa [Pattern.isBalanced] using hbalanced)]
      simp
  | case7 depth head body hlast hslash hopening hclose hclose' ih =>
      have hbackslash : head ≠ '\\' := by
        rintro rfl
        cases body with
        | nil => exact hlast rfl rfl
        | cons c body => exact hslash c body rfl rfl
      have hbrace : head ≠ '}' := by
        rintro rfl
        cases depth with
        | zero => exact hclose rfl rfl
        | succ depth => exact hclose' depth rfl rfl
      have hplain : r.stepInside fault v head =
          .ok { r with open? := some { v with body := head :: v.body } } :=
        stepInside_plain hescaped hbackslash hopening hbrace
      rw [List.cons_append, run_goOn hopen hplain,
        ih (v := { v with body := head :: v.body }) rfl hescaped hdepth
          (by rwa [Pattern.isBalanced] at hbalanced <;> assumption)]
      simp

theorem run_body {v : OpenVariable} (hopen : r.open? = some v) (hescaped : v.escaped = false)
    {body : List Char} (hbalanced : Pattern.isBalanced v.depth body = true)
    (h : r.run fault (body ++ '}' :: cs) = .ok ts) :
    ∃ t, Token.ofBody r.seen (v.body.reverse ++ body) = .ok t ∧
      ({ r with open? := none, tokens := t :: r.tokens,
                seen := (t.vars 0).map Variable.name ++ r.seen } : PatternReader).run fault cs =
        .ok ts := by
  rw [run_inside_body hopen hescaped hbalanced] at h
  obtain ⟨t, ht, hrun⟩ :=
    run_close (v := { v with body := body.reverse ++ v.body, depth := 0 }) rfl hescaped rfl h
  exact ⟨t, by simpa using ht, hrun⟩

/-! ### Reading segments -/

/-- What a reader has gained when it has read segments. -/
structure Gains (r r' : PatternReader) (gained : List Token) : Prop where
  closed   : r'.open? = none
  optional : r'.optional = r.optional
  flushed  : r'.flushed = gained.reverse ++ r.tokens
  segments : AreSegments gained

/-- Literal text that has not been flushed yet, as tokens. -/
def pending (r : PatternReader) : List Token :=
  if r.literal.isEmpty then [] else [.text (String.ofList r.literal.reverse)]

theorem flushed_eq (r : PatternReader) : r.flushed = r.pending ++ r.tokens := by
  unfold flushed pending
  split <;> rfl

theorem head?_toList_reverse {cs : List Char} (h : cs.getLast? = some '/') :
    (String.ofList cs.reverse).toList.head? = some '/' := by
  rw [String.toList_ofList, List.head?_reverse, h]

theorem getLast?_cons_slash {cs : List Char} (h : cs = [] ∨ cs.getLast? = some '/') :
    ('/' :: cs).getLast? = some '/' := by
  rcases h with rfl | h
  · rfl
  · rw [List.getLast?_cons, h]
    rfl

theorem areSegments_pending (hliteral : r.literal = [] ∨ r.literal.getLast? = some '/')
    {gained : List Token} (h : AreSegments gained) : AreSegments (r.pending ++ gained) := by
  unfold pending
  split
  case isTrue => exact h
  case isFalse hne =>
    have hslash := hliteral.resolve_left fun hnil => hne (by rw [hnil]; rfl)
    exact .text (head?_toList_reverse hslash) h

/-- **Segments are read as segments**, behind literal text that begins with a slash, if any. -/
theorem run_segments {path : List Char} (hpath : Pattern.IsSegmented path) (hopen : r.open? = none)
    (hliteral : r.literal = [] ∨ r.literal.getLast? = some '/')
    (h : r.run fault (path ++ cs) = .ok ts) :
    ∃ r' gained, r'.run fault cs = .ok ts ∧ r.Gains r' gained ∧
      (r.literal ≠ [] ∨ path.head? = some '/' → Opens gained) := by
  induction hpath generalizing r cs with
  | nil =>
      refine ⟨r, r.pending, h, ⟨hopen, rfl, ?_, ?_⟩, ?_⟩
      · rw [flushed_eq]
        unfold pending
        split <;> rfl
      · simpa using areSegments_pending hliteral .nil
      · rintro (hne | hslash)
        · have hslash := hliteral.resolve_left hne
          refine ⟨_, [], ?_, head?_toList_reverse hslash⟩
          simp [pending, hne]
        · cases hslash
  | @text content rest hplain hrest ih =>
      rw [List.cons_append, run_plain hopen (by decide), List.append_assoc,
        run_text (by exact hopen) hplain] at h
      have hlast := getLast?_cons_slash hliteral
      have hslash : (content.reverse ++ '/' :: r.literal).getLast? = some '/' := by
        rw [List.getLast?_append, hlast]
        rfl
      obtain ⟨r', gained, hrun, hgains, hopens⟩ := ih (by exact hopen) (.inr hslash) h
      refine ⟨r', gained, hrun, ⟨hgains.closed, hgains.optional, hgains.flushed, hgains.segments⟩,
        fun _ => hopens (.inl ?_)⟩
      simp
  | @var body rest hbalanced hfree hrest ih =>
      rw [List.cons_append, run_plain hopen (by decide), List.cons_append,
        run_openVariable (by exact hopen), List.append_assoc, List.cons_append] at h
      obtain ⟨t, ht, h⟩ := run_body rfl rfl hbalanced h
      obtain ⟨name, default, rfl⟩ := Token.ofBody_of_unconstrained hfree ht
      obtain ⟨r', gained, hrun, hgains, -⟩ := ih rfl (.inl rfl) h
      have hlast := head?_toList_reverse (getLast?_cons_slash hliteral)
      refine ⟨r', .text _ :: .var name none default :: gained, hrun, ⟨hgains.closed,
        hgains.optional, hgains.flushed.trans ?_, .var hlast hgains.segments⟩,
        fun _ => ⟨_, _, rfl, hlast⟩⟩
      simp [PatternReader.flushed]
  | @tail inner hslash hinner ih =>
      rw [List.cons_append, run_openOptional hopen, List.append_assoc] at h
      obtain ⟨r₂, gained, hrun, hgains, hopens⟩ := ih (by exact hopen) (.inl rfl) h
      have hopens := hopens (.inr hslash)
      have hne : r₂.flushed ≠ [] := by
        obtain ⟨content, more, rfl, -⟩ := hopens
        rw [hgains.flushed]
        simp
      rw [List.singleton_append, run_closeOptional hgains.closed hgains.optional hne] at hrun
      have hgained : r₂.flushed.reverse = gained := by rw [hgains.flushed]; simp
      refine ⟨_, r.pending ++ [.optional gained], hrun, ⟨hgains.closed, rfl, ?_, ?_⟩, ?_⟩
      · rw [hgained, flushed_eq, flushed_eq]
        unfold pending
        split <;> simp
      · exact areSegments_pending hliteral (.tail hopens hgains.segments)
      · rintro (hliteral' | hbracket)
        · have hslash := hliteral.resolve_left hliteral'
          exact ⟨_, [.optional gained], by simp [pending, hliteral'], head?_toList_reverse hslash⟩
        · cases hbracket

end PatternReader

/-- **A path of segments is read as segments.** -/
theorem Pattern.areSegments_of_parse {source : String} {p : Pattern}
    (h : parse source = .ok p) (hsegments : IsSegmented source.toList) : AreSegments p.tokens := by
  obtain ⟨fault, hrun⟩ := run_of_parse h
  rw [← List.append_nil source.toList] at hrun
  obtain ⟨r, gained, hend, hgains, -⟩ :=
    PatternReader.run_segments hsegments rfl (.inl rfl) hrun
  rw [PatternReader.run, PatternReader.finish, hgains.closed, hgains.optional] at hend
  have htokens : r.flushed.reverse = p.tokens := Except.ok.inj hend
  rw [← htokens, hgains.flushed, List.append_nil, List.reverse_reverse]
  exact hgains.segments

end Signpost
