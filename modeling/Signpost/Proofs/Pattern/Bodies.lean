import Signpost.Proofs.Pattern.Reading

/-!
# Patterns — what stands in the braces of a variable

The body of a variable is its name, and behind it perhaps a constraint after a colon and a default
after an equals sign (`Token.IsBody`).  A default is written in angle brackets or, unless it has
some of its own, as it is (`Token.Quotes`).  A constraint ends at the first equals sign that is
free: it has none itself, and it does not hide the one in front of the default
(`Token.IsVariable`).

* `splitDefault_some`, `splitDefault_none`: what is split, and that it is always split there.
* `Token.ofBody_eq_ok_iff`: which bodies are read, and as what.
-/

namespace Signpost

/-! ### Where a constraint ends -/

section split

variable {depth : Nat} {c : Char} {cs constraint default : List Char}

/-- How many brackets are open behind a character. -/
def depthBehind (depth : Nat) (c : Char) : Nat :=
  if c = '(' ∨ c = '[' ∨ c = '{' then depth + 1
  else if c = ')' ∨ c = ']' ∨ c = '}' then depth - 1
  else depth

theorem splitDefault_escaped (depth : Nat) (c : Char) (cs : List Char) :
    splitDefault depth ('\\' :: c :: cs) =
      ('\\' :: c :: (splitDefault depth cs).1, (splitDefault depth cs).2) := by
  rw [splitDefault]

theorem splitDefault_cons (hc : ∀ d ds, c = '\\' → cs ≠ d :: ds) (hfree : ¬ (c = '=' ∧ depth = 0)) :
    splitDefault depth (c :: cs) = (c :: (splitDefault (depthBehind depth c) cs).1,
      (splitDefault (depthBehind depth c) cs).2) := by
  rw [splitDefault, if_neg hfree]
  · rfl
  · exact hc

/-- Induction on a text that is split. -/
@[elab_as_elim]
theorem splitDefault_induct {motive : Nat → List Char → Prop} (nil : ∀ depth, motive depth [])
    (escaped : ∀ depth c cs, motive depth cs → motive depth ('\\' :: c :: cs))
    (free : ∀ cs, motive 0 ('=' :: cs))
    (cons : ∀ depth c cs, (∀ d ds, c = '\\' → cs ≠ d :: ds) → ¬ (c = '=' ∧ depth = 0) →
      motive (depthBehind depth c) cs → motive depth (c :: cs)) (depth : Nat) (cs : List Char) :
    motive depth cs :=
  splitDefault.induct motive nil (fun depth c cs _ _ _ ih => escaped depth c cs ih)
    (fun _ _ cs _ hfree => hfree.1 ▸ hfree.2 ▸ free cs)
    (fun depth c cs hc hfree _ _ _ ih => cons depth c cs hc hfree ih) depth cs

/-- **A constraint in front of a default** ends there whatever the default is, and is not cut when
there is none. -/
theorem splitDefault_some (h : splitDefault depth cs = (constraint, some default)) :
    cs = constraint ++ '=' :: default ∧ splitDefault depth constraint = (constraint, none) ∧
      ∀ other, splitDefault depth (constraint ++ '=' :: other) = (constraint, some other) := by
  induction depth, cs using splitDefault_induct generalizing constraint with
  | nil depth => cases h
  | escaped depth c cs ih =>
      rw [splitDefault_escaped] at h
      obtain ⟨rfl, hdefault⟩ := Prod.mk.inj h
      obtain ⟨hcs, halone, hbefore⟩ := ih (Prod.ext rfl hdefault)
      refine ⟨by rw [List.cons_append, List.cons_append, ← hcs], ?_, fun other => ?_⟩
      · rw [splitDefault_escaped, halone]
      · rw [List.cons_append, List.cons_append, splitDefault_escaped, hbefore]
  | free cs =>
      obtain ⟨rfl, hdefault⟩ := Prod.mk.inj (h : (([] : List Char), some cs) = _)
      obtain rfl := Option.some.inj hdefault
      exact ⟨rfl, rfl, fun other => rfl⟩
  | cons depth c cs hc hfree ih =>
      rw [splitDefault_cons hc hfree] at h
      obtain ⟨rfl, hdefault⟩ := Prod.mk.inj h
      obtain ⟨hcs, halone, hbefore⟩ := ih (Prod.ext rfl hdefault)
      -- a backslash would stand in front of something, and so not be here
      have hbackslash : c ≠ '\\' := by
        intro heq
        cases cs with
        | nil => cases hdefault
        | cons d ds => exact hc d ds heq rfl
      have hplain : ∀ {es : List Char} (d : Char) (ds : List Char), c = '\\' → es ≠ d :: ds :=
        fun _ _ heq => absurd heq hbackslash
      refine ⟨by rw [List.cons_append, ← hcs], ?_, fun other => ?_⟩
      · rw [splitDefault_cons hplain hfree]
        exact congrArg (fun p : List Char × Option (List Char) => (c :: p.1, p.2)) halone
      · rw [List.cons_append, splitDefault_cons hplain hfree]
        exact congrArg (fun p : List Char × Option (List Char) => (c :: p.1, p.2)) (hbefore other)

/-- Without a default, all of it is the constraint. -/
theorem splitDefault_none (h : splitDefault depth cs = (constraint, none)) : constraint = cs := by
  induction depth, cs using splitDefault_induct generalizing constraint with
  | nil depth => exact (Prod.mk.inj h).1.symm
  | escaped depth c cs ih =>
      rw [splitDefault_escaped] at h
      obtain ⟨rfl, hdefault⟩ := Prod.mk.inj h
      exact congrArg ('\\' :: c :: ·) (ih (Prod.ext rfl hdefault))
  | free cs =>
      cases (h : (([] : List Char), some cs) = _)
  | cons depth c cs hc hfree ih =>
      rw [splitDefault_cons hc hfree] at h
      obtain ⟨rfl, hdefault⟩ := Prod.mk.inj h
      exact congrArg (c :: ·) (ih (Prod.ext rfl hdefault))

end split

/-! ### Names, constraints and defaults -/

namespace Token

/-- The texts that stand for a default: the default in angle brackets, or as it is, unless it is
something in angle brackets itself. -/
inductive Quotes (default : List Char) : List Char → Prop
  | angled : Quotes default ('<' :: (default ++ ['>']))
  | bare (h : ∀ inner, default ≠ '<' :: (inner ++ ['>'])) : Quotes default default

theorem unquoteDefault_angled (inner : List Char) :
    unquoteDefault ('<' :: (inner ++ ['>'])) = inner := by
  simp [unquoteDefault]

theorem unquoteDefault_bare {text : List Char} (h : ∀ inner, text ≠ '<' :: (inner ++ ['>'])) :
    unquoteDefault text = text := by
  unfold unquoteDefault
  split
  case h_1 rest =>
    split
    case isTrue hlast =>
      obtain ⟨inner, rfl⟩ := List.getLast?_eq_some_iff.1 hlast
      exact absurd rfl (h inner)
    case isFalse => rfl
  case h_2 => rfl

/-- A text stands for what is left when its angle brackets are taken off. -/
theorem quotes_iff {default text : List Char} :
    Quotes default text ↔ unquoteDefault text = default := by
  constructor
  · rintro (_ | h)
    · exact unquoteDefault_angled default
    · exact unquoteDefault_bare h
  · rintro rfl
    by_cases h : ∃ inner, text = '<' :: (inner ++ ['>'])
    · obtain ⟨inner, rfl⟩ := h
      rw [unquoteDefault_angled]
      exact .angled
    · rw [not_exists] at h
      rw [unquoteDefault_bare h]
      exact .bare h

/-- Whether there can be a variable with a name, a constraint and a default. -/
structure IsVariable (name : String) (own default : Option String) : Prop where
  name     : isIdentifier name.toList
  nonempty : ∀ c ∈ own, c ≠ ""
  uncut    : ∀ c ∈ own, splitDefault 0 c.toList = (c.toList, none)
  cut      : ∀ c ∈ own, ∀ d ∈ default,
    splitDefault 0 (c.toList ++ '=' :: d.toList) = (c.toList, some d.toList)

/-- What may stand between the braces of a variable. -/
inductive IsBody (name : String) : Option String → Option String → List Char → Prop
  | name : IsBody name none none name.toList
  | constrained (c : String) : IsBody name (some c) none (name.toList ++ ':' :: c.toList)
  | defaulted (d : String) {text : List Char} (quotes : Quotes d.toList text) :
      IsBody name none (some d) (name.toList ++ '=' :: text)
  | both (c d : String) {text : List Char} (quotes : Quotes d.toList text) :
      IsBody name (some c) (some d) (name.toList ++ ':' :: (c.toList ++ '=' :: text))

theorem IsBody.ofSplit {name : String} {rest constraint : List Char}
    {default? : Option (List Char)} (h : splitDefault 0 rest = (constraint, default?)) :
    IsBody name (some (String.ofList constraint))
      (default?.map fun d => String.ofList (unquoteDefault d)) (name.toList ++ ':' :: rest) := by
  cases default? with
  | none =>
      obtain rfl := splitDefault_none h
      simpa using (.constrained (String.ofList constraint) : IsBody name _ none _)
  | some text =>
      obtain ⟨rfl, -, -⟩ := splitDefault_some h
      have hquotes : Quotes (String.ofList (unquoteDefault text)).toList text :=
        quotes_iff.2 (by simp)
      simpa using (.both (String.ofList constraint) _ hquotes : IsBody name _ _ _)

/-- Whether a character goes on with the name of a variable. -/
def continuesName (c : Char) : Bool := c != ':' && c != '='

theorem forall_mem_of_isIdentifier {P : Char → Prop}
    (each : ∀ c : Char, (c.isAlphanum || c = '_') = true → P c) {cs : List Char}
    (h : isIdentifier cs) : ∀ c ∈ cs, P c := by
  cases cs with
  | nil => simp
  | cons c cs =>
      simp only [isIdentifier, Bool.and_eq_true, List.all_eq_true] at h
      refine List.forall_mem_cons.2 ⟨each c ?_, fun d hd => each d (by simpa using h.2 d hd)⟩
      have hfirst := h.1
      simp only [Bool.or_eq_true, Char.isAlphanum] at hfirst ⊢
      exact hfirst.imp .inl id

theorem continuesName_of_isIdentifier {cs : List Char} (h : isIdentifier cs) :
    ∀ c ∈ cs, continuesName c = true := by
  refine forall_mem_of_isIdentifier (fun c hc => ?_) h
  have hcolon : c ≠ ':' := by
    rintro rfl
    revert hc
    decide
  have hequals : c ≠ '=' := by
    rintro rfl
    revert hc
    decide
  simp [continuesName, hcolon, hequals]

/-- The name in a body, and what is behind it. -/
theorem span_name {name : List Char} (h : isIdentifier name) {rest : List Char}
    (hrest : ∀ c ∈ rest.head?, continuesName c = false) :
    (name ++ rest).takeWhile continuesName = name ∧
      (name ++ rest).dropWhile continuesName = rest := by
  have hall := continuesName_of_isIdentifier h
  have hstop : rest.takeWhile continuesName = [] ∧ rest.dropWhile continuesName = rest := by
    cases rest with
    | nil => exact ⟨rfl, rfl⟩
    | cons c cs =>
        have hc := hrest c rfl
        simp [hc]
  rw [List.takeWhile_append_of_pos hall, List.dropWhile_append_of_pos hall, hstop.1, hstop.2,
    List.append_nil]
  exact ⟨rfl, rfl⟩

theorem IsVariable.ofSplit {name : String} {rest constraint : List Char}
    {default? : Option (List Char)} (hname : isIdentifier name.toList)
    (h : splitDefault 0 rest = (constraint, default?)) (hne : constraint ≠ []) :
    IsVariable name (some (String.ofList constraint))
      (default?.map fun d => String.ofList (unquoteDefault d)) := by
  have huncut : splitDefault 0 constraint = (constraint, none) := by
    cases default? with
    | none => rwa [← splitDefault_none h] at h
    | some text => exact (splitDefault_some h).2.1
  refine ⟨hname, ?_, ?_, ?_⟩
  · rintro c ⟨⟩ heq
    exact hne (by simpa using congrArg String.toList heq)
  · rintro c ⟨⟩
    rwa [String.toList_ofList]
  · rintro c ⟨⟩ d hd
    obtain ⟨text, rfl, -⟩ := Option.map_eq_some_iff.1 hd
    rw [String.toList_ofList]
    exact (splitDefault_some h).2.2 _

/-- What stands behind the name of a variable. -/
def ofRest (name : String) : List Char → Except PatternFault Token
  | ':' :: rest =>
    let (constraint, default) := splitDefault 0 rest
    if constraint.isEmpty then .error .emptyConstraint
    else .ok (.var name (String.ofList constraint)
      (default.map fun d => String.ofList (unquoteDefault d)))
  | '=' :: rest => .ok (.var name none (some (String.ofList (unquoteDefault rest))))
  | _           => .ok (.var name none none)

theorem ofBody_eq (seen : List String) (body : List Char) :
    ofBody seen body =
      if isIdentifier (body.takeWhile continuesName) = false then .error .badName
      else if seen.contains (String.ofList (body.takeWhile continuesName)) then .error .repeatedName
      else ofRest (String.ofList (body.takeWhile continuesName))
        (body.dropWhile continuesName) := by
  unfold ofBody ofRest
  simp only [bind, Except.bind, throw, throwThe, MonadExceptOf.throw, pure, Except.pure,
    String.toList_ofList, Bool.not_eq_eq_eq_not, Bool.not_true]
  rfl

theorem IsVariable.unconstrained {name : String} (hname : isIdentifier name.toList)
    (default : Option String) : IsVariable name none default :=
  ⟨hname, by simp, by simp, by simp⟩

theorem ofRest_eq_ok_iff {name : String} (hname : isIdentifier name.toList) {rest : List Char}
    (hrest : ∀ c ∈ rest.head?, continuesName c = false) {t : Token} :
    ofRest name rest = .ok t ↔ ∃ own default, t = .var name own default ∧
      IsVariable name own default ∧ IsBody name own default (name.toList ++ rest) := by
  constructor
  · intro h
    unfold ofRest at h
    split at h
    case h_1 rest =>
      simp only at h
      split at h
      case isTrue => cases h
      case isFalse hne =>
        obtain rfl := Except.ok.inj h
        exact ⟨_, _, rfl, .ofSplit hname rfl (by simpa using hne), .ofSplit rfl⟩
    case h_2 rest =>
      obtain rfl := Except.ok.inj h
      exact ⟨_, _, rfl, .unconstrained hname _, .defaulted _ (quotes_iff.2 (by simp))⟩
    case h_3 hcolon hequals =>
      obtain rfl := Except.ok.inj h
      -- nothing else ends a name
      obtain rfl : rest = [] := by
        cases rest with
        | nil => rfl
        | cons c cs =>
            have hc : c ≠ ':' ∧ c ≠ '=' :=
              ⟨fun h => hcolon cs (by rw [h]), fun h => hequals cs (by rw [h])⟩
            simpa [continuesName, hc.1, hc.2] using hrest c rfl
      exact ⟨_, _, rfl, .unconstrained hname _, by simpa using IsBody.name⟩
  · rintro ⟨own, default, rfl, hvar, hbody⟩
    generalize hwhole : name.toList ++ rest = body at hbody
    cases hbody with
    | name =>
        obtain rfl : rest = [] := by simpa using hwhole
        rfl
    | constrained c =>
        obtain rfl : rest = ':' :: c.toList := by simpa using hwhole
        have hne : c.toList ≠ [] := by simpa using hvar.nonempty c rfl
        simp [ofRest, hvar.uncut c rfl, hne]
    | @defaulted d text hquotes =>
        obtain rfl : rest = '=' :: text := by simpa using hwhole
        simp [ofRest, quotes_iff.1 hquotes]
    | @both c d text hquotes =>
        obtain rfl : rest = ':' :: (c.toList ++ '=' :: text) := by simpa using hwhole
        have hne : c.toList ≠ [] := by simpa using hvar.nonempty c rfl
        have hcut := (splitDefault_some (hvar.cut c rfl d rfl)).2.2 text
        simp [ofRest, hcut, hne, quotes_iff.1 hquotes]

/-- **What stands between the braces of a variable** is read as the variable with a new name that it
is a body of. -/
theorem ofBody_eq_ok_iff {seen : List String} {body : List Char} {t : Token} :
    ofBody seen body = .ok t ↔ ∃ name own default, t = .var name own default ∧
      IsVariable name own default ∧ name ∉ seen ∧ IsBody name own default body := by
  constructor
  · intro h
    rw [ofBody_eq] at h
    split at h
    case isTrue => cases h
    case isFalse hname =>
      split at h
      case isTrue => cases h
      case isFalse hnew =>
        have hname' : isIdentifier (String.ofList (body.takeWhile continuesName)).toList := by
          simpa using hname
        have hrest : ∀ c ∈ (body.dropWhile continuesName).head?, continuesName c = false := by
          intro c hc
          have hstop := List.head?_dropWhile_not continuesName body
          rw [Option.mem_def.1 hc] at hstop
          exact hstop
        obtain ⟨own, default, rfl, hvar, hbody⟩ := (ofRest_eq_ok_iff hname' hrest).1 h
        refine ⟨_, own, default, rfl, hvar, by simpa using hnew, ?_⟩
        rwa [String.toList_ofList, List.takeWhile_append_dropWhile] at hbody
  · rintro ⟨name, own, default, rfl, hvar, hnew, hbody⟩
    obtain ⟨rest, rfl, hrest⟩ : ∃ rest, body = name.toList ++ rest ∧
        ∀ c ∈ rest.head?, continuesName c = false := by
      cases hbody with
      | name => exact ⟨[], by simp, by simp⟩
      | constrained c => exact ⟨_, rfl, by simp [continuesName]⟩
      | defaulted d hquotes => exact ⟨_, rfl, by simp [continuesName]⟩
      | both c d hquotes => exact ⟨_, rfl, by simp [continuesName]⟩
    obtain ⟨htake, hdrop⟩ := span_name hvar.name hrest
    have hok := (ofRest_eq_ok_iff hvar.name hrest).2 ⟨own, default, rfl, hvar, hbody⟩
    rw [ofBody_eq, htake, hdrop, String.ofList_toList, if_neg (by simpa using hvar.name),
      if_neg (by simpa using hnew), hok]

end Token

end Signpost
