import Signpost.Proofs.Pattern.Parsing
import Signpost.Proofs.Url.Reference

/-!
# URLs — where the host of a target ends

A target is split before its parts are read as patterns.  The reader of a pattern takes a brace
behind a backslash out of the count; the scanner that looks for the end of a host counts it like
any other (`Target.openBehind?`).  So the two agree on hosts whose variables are *sheltered*: with
all braces counted, each slash in a constraint or a default has one open around it, and the brace
that ends the variable closes the last one (`Variable.IsSheltered`).

* `Target.splitHost_eq_iff`: what the scanner takes for a host.
* `Target.isSheltered_of_unescaped`: variables without escaped braces are sheltered, whatever braces
  and slashes they have.
* `Target.ofText_of_parse`: a target is split into its scheme, its host and its path.
-/

namespace Signpost

open Token (Formed IsRendering IsBody Quotes forall_mem_of_isIdentifier)

/-- The literal texts in a token, inside and outside of its optional segments. -/
def Token.texts : Token → List String
  | .text content   => [content]
  | .var ..         => []
  | .optional inner => inner.flatMap texts

/-- The literal texts of a pattern. -/
def Pattern.texts (p : Pattern) : List String := p.tokens.flatMap Token.texts

namespace Target

/-! ### The scanner -/

/-- How many braces are open behind a character. -/
def bracesBehind (depth : Nat) (c : Char) : Nat :=
  if c = '{' then depth + 1 else if c = '}' then depth - 1 else depth

/-- How many braces are open behind a text, unless it has a slash where none is. -/
def openBehind? : (depth : Nat) → List Char → Option Nat
  | depth, []      => some depth
  | depth, c :: cs =>
    if c = '/' ∧ depth = 0 then none else openBehind? (bracesBehind depth c) cs

variable {depth : Nat} {c : Char} {s t : List Char}

theorem openBehind?_append (s t : List Char) :
    openBehind? depth (s ++ t) = (openBehind? depth s).bind (openBehind? · t) := by
  induction s generalizing depth with
  | nil => rfl
  | cons c s ih =>
      rw [List.cons_append, openBehind?, openBehind?]
      split
      case isTrue => rfl
      case isFalse => exact ih

theorem openBehind?_plain (hc : c ∉ ['/', '{', '}']) (s : List Char) :
    openBehind? depth (c :: s) = openBehind? depth s := by
  simp only [List.mem_cons, List.not_mem_nil, or_false, not_or] at hc
  rw [openBehind?, if_neg (fun h => hc.1 h.1), bracesBehind, if_neg hc.2.1, if_neg hc.2.2]

theorem openBehind?_of_plain (h : ∀ c ∈ s, c ∉ ['/', '{', '}']) :
    openBehind? depth s = some depth := by
  induction s with
  | nil => rfl
  | cons c s ih =>
      obtain ⟨hc, hs⟩ := List.forall_mem_cons.1 h
      rw [openBehind?_plain hc, ih hs]

theorem splitHost_cons (hfree : ¬ (c = '/' ∧ depth = 0)) (s : List Char) :
    splitHost depth (c :: s) =
      (c :: (splitHost (bracesBehind depth c) s).1, (splitHost (bracesBehind depth c) s).2) := by
  rw [splitHost, if_neg hfree]
  rfl

/-- The scanner goes through a text in which no slash is free. -/
theorem splitHost_append {d : Nat} (h : openBehind? depth s = some d) (t : List Char) :
    splitHost depth (s ++ t) = (s ++ (splitHost d t).1, (splitHost d t).2) := by
  induction s generalizing depth with
  | nil =>
      obtain rfl := Option.some.inj h
      rfl
  | cons c s ih =>
      rw [openBehind?] at h
      split at h
      case isTrue => cases h
      case isFalse hfree => rw [List.cons_append, splitHost_cons hfree, ih h, List.cons_append]

/-- The scanner stops inside a text in which a slash is free. -/
theorem length_splitHost_lt (h : openBehind? depth s = none) (t : List Char) :
    (splitHost depth (s ++ t)).1.length < s.length := by
  induction s generalizing depth with
  | nil => cases h
  | cons c s ih =>
      rw [openBehind?] at h
      split at h
      case isTrue hstop =>
        rw [List.cons_append, splitHost, if_pos hstop]
        exact Nat.succ_pos _
      case isFalse hfree =>
        rw [List.cons_append, splitHost_cons hfree]
        exact Nat.succ_lt_succ (ih h)

/-- **What the scanner takes for a host**: a text in front of a slash, if no slash is free in it and
all of its braces are closed. -/
theorem splitHost_eq_iff (host rest : List Char) :
    splitHost 0 (host ++ '/' :: rest) = (host, '/' :: rest) ↔ openBehind? 0 host = some 0 := by
  constructor
  · intro h
    cases hbehind : openBehind? 0 host with
    | none =>
        have hlt := length_splitHost_lt hbehind ('/' :: rest)
        rw [h] at hlt
        exact absurd hlt (Nat.lt_irrefl _)
    | some d =>
        cases d with
        | zero => rfl
        | succ d =>
            -- the slash would belong to the host
            rw [splitHost_append hbehind, splitHost_cons (by simp)] at h
            have hlength := congrArg List.length (Prod.mk.inj h).1
            simp at hlength
  · intro h
    rw [splitHost_append h, splitHost, if_pos ⟨rfl, rfl⟩, List.append_nil]

end Target

/-! ### Variables -/

/-- Whether the braces in a variable keep its slashes inside and are closed where it ends, escaped
ones counted too. -/
def Variable.IsSheltered (v : Variable) : Prop :=
  ∃ depth ≤ 1, Target.openBehind? 1
    ((v.constraint.getD "").toList ++ (v.default.getD "").toList) = some depth

namespace Target

variable {depth : Nat} {s : List Char}

theorem openBehind?_identifier {name : List Char} (h : isIdentifier name) (depth : Nat) :
    openBehind? depth name = some depth := by
  refine openBehind?_of_plain (forall_mem_of_isIdentifier (fun c hc hmem => ?_) h)
  simp only [List.mem_cons, List.not_mem_nil, or_false] at hmem
  rcases hmem with rfl | rfl | rfl <;> exact absurd hc (by decide)

theorem openBehind?_quotes {default text : List Char} (h : Quotes default text) :
    openBehind? depth text = openBehind? depth default := by
  cases h with
  | bare => rfl
  | angled =>
      rw [openBehind?_plain (by simp), openBehind?_append]
      have hend : ∀ d, openBehind? d ['>'] = some d := fun d => openBehind?_plain (by simp) []
      simp [hend]

/-- Only the constraint and the default count in a body. -/
theorem openBehind?_body {name : String} {own default : Option String} {body : List Char}
    (hname : isIdentifier name.toList) (h : IsBody name own default body) :
    openBehind? depth body =
      openBehind? depth ((own.getD "").toList ++ (default.getD "").toList) := by
  have hfront : ∀ rest, openBehind? depth (name.toList ++ rest) = openBehind? depth rest := by
    intro rest
    rw [openBehind?_append, openBehind?_identifier hname depth, Option.bind_some]
  cases h with
  | name => simpa [openBehind?] using openBehind?_identifier hname depth
  | constrained c => rw [hfront, openBehind?_plain (by simp)]; simp
  | defaulted d hquotes =>
      rw [hfront, openBehind?_plain (by simp), openBehind?_quotes hquotes]
      simp
  | both c d hquotes =>
      rw [hfront, openBehind?_plain (by simp), openBehind?_append]
      simp only [Option.getD_some, openBehind?_append, openBehind?_plain (c := '=') (by simp),
        openBehind?_quotes hquotes]

/-- A variable that is sheltered leaves no brace open. -/
theorem openBehind?_variable {v : Variable} {body : List Char} (hname : isIdentifier v.name.toList)
    (hbody : IsBody v.name v.constraint v.default body) (hv : v.IsSheltered) :
    openBehind? 0 ('{' :: (body ++ ['}'])) = some 0 := by
  obtain ⟨depth, hle, hdepth⟩ := hv
  have hopen : openBehind? 0 ('{' :: (body ++ ['}'])) = openBehind? 1 (body ++ ['}']) := by
    simp [openBehind?, bracesBehind]
  have hclose : openBehind? depth ['}'] = some (depth - 1) := by
    simp [openBehind?, bracesBehind]
  rw [hopen, openBehind?_append, openBehind?_body hname hbody, hdepth, Option.bind_some, hclose,
    Nat.sub_eq_zero_of_le hle]

/-- **No brace is open behind a host** whose variables are sheltered and whose texts have no
slash. -/
theorem openBehind?_of_isRendering {ts : List Token} {n : Nat} (h : IsRendering ts s)
    (hformed : Formed ts) (hplain : ∀ content ∈ ts.flatMap Token.texts, '/' ∉ content.toList)
    (hvars : ∀ v ∈ ts.flatMap (Token.vars n), v.IsSheltered) : openBehind? 0 s = some 0 := by
  induction h generalizing n with
  | nil => rfl
  | @text content ts s _ ih =>
      obtain _ | ⟨_, hbraces, _, hrest⟩ := hformed
      rw [List.flatMap_cons, Token.texts, List.forall_mem_append] at hplain
      rw [List.flatMap_cons, Token.vars, List.nil_append] at hvars
      have hcontent : ∀ c ∈ content.toList, c ∉ ['/', '{', '}'] := by
        intro c hc hmem
        have hslash : c ≠ '/' := by
          rintro rfl
          exact hplain.1 content (List.mem_singleton.2 rfl) hc
        have hbrace := hbraces c hc
        simp only [List.mem_cons, List.not_mem_nil, or_false, not_or] at hbrace hmem
        rcases hmem with rfl | rfl | rfl
        · exact hslash rfl
        · exact hbrace.1 rfl
        · exact hbrace.2.1 rfl
      rw [openBehind?_append, openBehind?_of_plain hcontent, Option.bind_some,
        ih hrest hplain.2 hvars]
  | @var name own default body ts s hbody _ _ ih =>
      obtain _ | _ | ⟨hvar, hrest⟩ := hformed
      rw [List.flatMap_cons, Token.texts, List.nil_append] at hplain
      rw [List.flatMap_cons, Token.vars, List.forall_mem_append] at hvars
      have hfirst := openBehind?_variable hvar.name hbody (hvars.1 _ (List.mem_singleton.2 rfl))
      have happend : '{' :: (body ++ '}' :: s) = '{' :: (body ++ ['}']) ++ s := by simp
      rw [happend, openBehind?_append, hfirst, Option.bind_some, ih hrest hplain hvars.2]
  | @optional inner ts text s _ _ ihinner ih =>
      obtain _ | _ | _ | ⟨_, heach, hrest⟩ := hformed
      rw [List.flatMap_cons, Token.texts, List.forall_mem_append] at hplain
      rw [List.flatMap_cons, Token.vars, List.forall_mem_append] at hvars
      rw [openBehind?_plain (by simp), openBehind?_append, ihinner heach hplain.1 hvars.1,
        Option.bind_some, openBehind?_plain (by simp), ih hrest hplain.2 hvars.2]

/-! ### Escaped braces -/

/-- Whether a text has no backslash in front of a brace. -/
def EscapesNoBrace (s : List Char) : Prop := ∀ c, ['\\', c] <:+: s → c ≠ '{' ∧ c ≠ '}'

theorem EscapesNoBrace.of_isInfix {t : List Char} (h : EscapesNoBrace t) (hwithin : s <:+: t) :
    EscapesNoBrace s :=
  fun c hc => h c (hc.trans hwithin)

/-- Where no brace is escaped, all that count for the reader count for the scanner. -/
theorem openBehind?_of_isBalanced (h : Pattern.isBalanced depth s = true)
    (hfree : EscapesNoBrace s) : openBehind? (depth + 1) s = some 1 := by
  have hstep : ∀ (d : Nat) (c : Char) (cs : List Char),
      openBehind? (d + 1) (c :: cs) = openBehind? (bracesBehind (d + 1) c) cs := fun d c cs => by
    rw [openBehind?, if_neg (by simp)]
  induction depth, s using Pattern.isBalanced.induct with
  | case1 depth =>
      obtain rfl : depth = 0 := by simpa [Pattern.isBalanced] using h
      rfl
  | case2 => simp [Pattern.isBalanced] at h
  | case3 depth c cs ih =>
      have hc := hfree c ⟨[], cs, rfl⟩
      have hrest := ih (by simpa [Pattern.isBalanced] using h)
        (hfree.of_isInfix (List.IsSuffix.isInfix ⟨['\\', c], rfl⟩))
      rw [hstep, bracesBehind, if_neg (by simp), if_neg (by simp), hstep, bracesBehind,
        if_neg hc.1, if_neg hc.2, hrest]
  | case4 depth cs ih =>
      have hrest := ih (by simpa [Pattern.isBalanced] using h)
        (hfree.of_isInfix (List.IsSuffix.isInfix ⟨['{'], rfl⟩))
      rw [hstep, bracesBehind, if_pos rfl, hrest]
  | case5 => simp [Pattern.isBalanced] at h
  | case6 depth cs ih =>
      have hrest := ih (by simpa [Pattern.isBalanced] using h)
        (hfree.of_isInfix (List.IsSuffix.isInfix ⟨['}'], rfl⟩))
      rw [hstep, bracesBehind, if_neg (by simp), if_pos rfl, Nat.add_sub_cancel, hrest]
  | case7 depth c cs hlast hescape hopening hzero hclosing ih =>
      have hclose : c ≠ '}' := by
        rintro rfl
        cases depth with
        | zero => exact hzero rfl rfl
        | succ depth => exact hclosing depth rfl rfl
      have hrest := ih (by rwa [Pattern.isBalanced] at h <;> assumption)
        (hfree.of_isInfix (List.IsSuffix.isInfix ⟨[c], rfl⟩))
      rw [hstep, bracesBehind, if_neg hopening, if_neg hclose, hrest]

/-- **Variables without escaped braces are sheltered.** -/
theorem isSheltered_of_isRendering {ts : List Token} {n : Nat} (h : IsRendering ts s)
    (hformed : Formed ts) (hfree : EscapesNoBrace s) :
    ∀ v ∈ ts.flatMap (Token.vars n), v.IsSheltered := by
  induction h generalizing n with
  | nil => simp
  | @text content ts s _ ih =>
      obtain _ | ⟨_, _, _, hrest⟩ := hformed
      rw [List.flatMap_cons, Token.vars, List.nil_append]
      exact ih hrest (hfree.of_isInfix (List.suffix_append _ _).isInfix)
  | @var name own default body ts s hbody hbalanced _ ih =>
      obtain _ | _ | ⟨hvar, hrest⟩ := hformed
      have hbraces : openBehind? 1 body = some 1 :=
        openBehind?_of_isBalanced hbalanced (hfree.of_isInfix ⟨['{'], '}' :: s, by simp⟩)
      have hwithin : s <:+: '{' :: (body ++ '}' :: s) := ⟨'{' :: (body ++ ['}']), [], by simp⟩
      rw [List.flatMap_cons, Token.vars, List.forall_mem_append, List.forall_mem_singleton]
      exact ⟨⟨1, Nat.le_refl 1, openBehind?_body hvar.name hbody ▸ hbraces⟩,
        ih hrest (hfree.of_isInfix hwithin)⟩
  | @optional inner ts text s _ _ ihinner ih =>
      obtain _ | _ | _ | ⟨_, heach, hrest⟩ := hformed
      have hinside : text <:+: '[' :: (text ++ ']' :: s) := ⟨['['], ']' :: s, by simp⟩
      have hbehind : s <:+: '[' :: (text ++ ']' :: s) := ⟨'[' :: (text ++ [']']), [], by simp⟩
      rw [List.flatMap_cons, Token.vars, List.forall_mem_append]
      exact ⟨ihinner heach (hfree.of_isInfix hinside), ih hrest (hfree.of_isInfix hbehind)⟩

variable {source : String} {host : Pattern}

theorem isSheltered_of_unescaped (hhost : Pattern.parse source = .ok host)
    (hfree : EscapesNoBrace source.toList) : ∀ v ∈ host.vars, v.IsSheltered := by
  obtain ⟨-, hformed, hrendering⟩ := Pattern.isRendering_of_parse hhost
  exact isSheltered_of_isRendering hrendering hformed hfree

/-! ### Targets -/

/-- **A target is split into its scheme, its host and its path.**  The host is the pattern as it is
written, whatever braces and slashes its variables have, as long as these are sheltered. -/
theorem ofText_of_parse {scheme path : String} (hhost : Pattern.parse source = .ok host)
    (hplain : ∀ content ∈ host.texts, '/' ∉ content.toList)
    (hvars : ∀ v ∈ host.vars, v.IsSheltered)
    (hpath : path = "" ∨ path.toList.head? = some '/')
    (hscheme : scheme = "" ∨ isScheme scheme.toList = true) :
    ofText ((if scheme = "" then "" else scheme ++ ":") ++ "//" ++ source ++ path) =
      { scheme := if scheme = "" then none else some scheme.toLower
        host := some source
        path := if path = "" then "/" else path } := by
  obtain ⟨-, hformed, hrendering⟩ := Pattern.isRendering_of_parse hhost
  have hbehind : openBehind? 0 source.toList = some 0 :=
    openBehind?_of_isRendering hrendering hformed hplain hvars
  have hsplit : splitHost 0 (source.toList ++ path.toList) = (source.toList, path.toList) := by
    rcases hpath with rfl | hpath
    · rw [splitHost_append hbehind]
      simp [splitHost]
    · obtain ⟨rest, hrest⟩ := List.head?_eq_some_iff.1 hpath
      rw [hrest]
      exact (splitHost_eq_iff _ _).2 hbehind
  have hfront : scheme? ((if scheme = "" then "" else scheme ++ ":") ++ "//" ++ source ++
        path).toList = (if scheme = "" then none else some scheme.toList,
      '/' :: '/' :: (source.toList ++ path.toList)) := by
    by_cases hnone : scheme = ""
    · simp [hnone, scheme?_cons_slash]
    · have hvalid := hscheme.resolve_left hnone
      simpa [hnone] using scheme?_append hvalid (source.toList ++ path.toList)
  rw [ofText, hfront]
  simp only [hsplit]
  by_cases hnone : scheme = "" <;> simp [hnone]

/-- A host whose constraint has braces and a slash of its own. -/
def boundedHost : Pattern where
  source := "{t:[a-z]{1,8}/?}.example"
  tokens := [.var "t" (some "[a-z]{1,8}/?") none, .text ".example"]

theorem parse_boundedHost : Pattern.parse boundedHost.source = .ok boundedHost := by
  have hvar : Token.IsVariable "t" (some "[a-z]{1,8}/?") none :=
    ⟨by decide, by simp, by rintro c ⟨⟩; decide, by simp⟩
  refine Pattern.parse_of_isRendering ⟨.var hvar (.text (by simp) (by simp) (by simp) .nil), ?_⟩
    (.var (.constrained _) (by decide) (.text _ .nil))
  simp [PatternReader.namesOf, Token.vars]

theorem ofText_boundedHost : Target.ofText "HTTPS://{t:[a-z]{1,8}/?}.example/docs" =
    { scheme := some "https", host := some "{t:[a-z]{1,8}/?}.example", path := "/docs" } := by
  have hvars : ∀ v ∈ boundedHost.vars, v.IsSheltered := by
    simp only [boundedHost, Pattern.vars, List.flatMap_cons, List.flatMap_nil, Token.vars,
      List.append_nil, List.forall_mem_singleton]
    exact ⟨1, Nat.le_refl 1, by decide⟩
  have hsplit := ofText_of_parse parse_boundedHost
    (by simp [boundedHost, Pattern.texts, Token.texts])
    hvars (.inr rfl : "/docs" = "" ∨ _) (.inr rfl : "HTTPS" = "" ∨ _)
  have hlower : "HTTPS".toLower = "https" := by decide +kernel
  simpa [boundedHost, hlower] using hsplit

/-- A brace behind a backslash counts for the scanner and not for the reader, so a host with one may
take the path with it. -/
theorem ofText_escapedBrace :
    (∃ host, Pattern.parse "\x7bx:\\\x7b\x7d" = .ok host ∧ host.texts = []) ∧
      Target.ofText "//\x7bx:\\\x7b\x7d/p" =
        { scheme := none, host := some "\x7bx:\\\x7b\x7d/p", path := "/" } := by
  have hvar : Token.IsVariable "x" (some "\\\x7b") none :=
    ⟨by decide, by simp, by rintro c ⟨⟩; decide, by simp⟩
  have hparse : Pattern.parse "\x7bx:\\\x7b\x7d" = .ok
      ⟨"\x7bx:\\\x7b\x7d", [.var "x" (some "\\\x7b") none]⟩ := by
    refine Pattern.parse_of_isRendering ⟨.var hvar .nil, ?_⟩
      (.var (.constrained _) (by decide) .nil)
    simp [PatternReader.namesOf, Token.vars]
  exact ⟨⟨_, hparse, by simp [Pattern.texts, Token.texts]⟩, by decide⟩

end Target

end Signpost
