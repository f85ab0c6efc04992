import Signpost.Proofs.Pattern.Bodies
import Signpost.Proofs.Pattern.Segments

/-!
# Patterns — the grammar

Which tokens are well formed (`Token.WellFormed`), and which texts they can be written as
(`Token.IsRendering`).  A default can be written in two ways; all else is written in one.  The
reader finds the tokens in each of these texts.

* `PatternReader.run_rendering`: what the reader has behind the text of some tokens.
* `Pattern.parse_of_isRendering`: a rendering of well-formed tokens is read as these tokens.
-/

namespace Signpost

open PatternReader (namesOf)

namespace Token

/-! ### Tokens and their texts -/

/-- Whether tokens are well formed, but for the names of their variables: no text and no optional
segment is empty, and no text goes on with another one. -/
inductive Formed : List Token → Prop
  | nil : Formed []
  | text {content : String} {ts : List Token} (nonempty : content ≠ "")
      (plain : ∀ c ∈ content.toList, c ∉ ['{', '}', '[', ']'])
      (apart : ∀ more us, ts ≠ .text more :: us) (rest : Formed ts) :
      Formed (.text content :: ts)
  | var {name : String} {own default : Option String} {ts : List Token}
      (isVariable : IsVariable name own default) (rest : Formed ts) :
      Formed (.var name own default :: ts)
  | optional {inner ts : List Token} (nonempty : inner ≠ []) (each : Formed inner)
      (rest : Formed ts) : Formed (.optional inner :: ts)

/-- Whether tokens are well formed, and no two variables in them have the same name. -/
structure WellFormed (ts : List Token) : Prop where
  formed : Formed ts
  names  : (namesOf ts).Nodup

/-- What tokens are written as.  A body has to balance its braces, for it ends where they do. -/
inductive IsRendering : List Token → List Char → Prop
  | nil : IsRendering [] []
  | text (content : String) {ts : List Token} {s : List Char} (rest : IsRendering ts s) :
      IsRendering (.text content :: ts) (content.toList ++ s)
  | var {name : String} {own default : Option String} {body : List Char} {ts : List Token}
      {s : List Char} (isBody : IsBody name own default body)
      (balanced : Pattern.isBalanced 0 body = true) (rest : IsRendering ts s) :
      IsRendering (.var name own default :: ts) ('{' :: (body ++ '}' :: s))
  | optional {inner ts : List Token} {text s : List Char} (inside : IsRendering inner text)
      (rest : IsRendering ts s) : IsRendering (.optional inner :: ts) ('[' :: (text ++ ']' :: s))

theorem IsRendering.append {ts us : List Token} {s u : List Char} (h : IsRendering ts s)
    (h' : IsRendering us u) : IsRendering (ts ++ us) (s ++ u) := by
  induction h with
  | nil => exact h'
  | text content _ ih =>
      rw [List.append_assoc]
      exact .text content ih
  | var hbody hbalanced _ ih => simpa using IsRendering.var hbody hbalanced ih
  | optional hinside _ _ ih => simpa using IsRendering.optional hinside ih

/-- Tokens after tokens, unless one text would go on with another one. -/
theorem Formed.append {ts us : List Token} (h : Formed ts) (h' : Formed us)
    (hapart : ∀ before content, ts = before ++ [.text content] →
      ∀ more us', us ≠ .text more :: us') : Formed (ts ++ us) := by
  induction h with
  | nil => exact h'
  | @text content ts hne hplain hnext _ ih =>
      refine .text hne hplain ?_ (ih fun before content' heq => ?_)
      · intro more us' heq
        cases ts with
        | nil => exact hapart [] content rfl more us' heq
        | cons t ts => exact hnext more ts (by rw [(List.cons.inj heq).1])
      · exact hapart (.text content :: before) content' (by rw [heq]; rfl)
  | @var name own default ts hvar _ ih =>
      refine .var hvar (ih fun before content heq => ?_)
      exact hapart (.var name own default :: before) content (by rw [heq]; rfl)
  | @optional inner ts hne heach _ _ ih =>
      refine .optional hne heach (ih fun before content heq => ?_)
      exact hapart (.optional inner :: before) content (by rw [heq]; rfl)

/-- A segment of a path that a variable stands for. -/
theorem Formed.segment {name : String} {own default : Option String} {ts : List Token}
    (hvar : IsVariable name own default) (h : Formed ts) :
    Formed (.text "/" :: .var name own default :: ts) :=
  .text (by simp) (by simp) (by rintro _ _ ⟨⟩) (.var hvar h)

end Token

open Token (Formed WellFormed IsRendering)

namespace PatternReader

variable {fault : List Char → PatternFault → Error} {r : PatternReader} {ts : List Token}
  {s cs : List Char}

/-! ### From the tokens to the text and back -/

/-- What a reader has gained when it has read some tokens. -/
structure Takes (r r' : PatternReader) (ts : List Token) : Prop where
  closed   : r'.open? = none
  optional : r'.optional = r.optional
  flushed  : r'.flushed = ts.reverse ++ r.flushed
  seen     : r'.seen.Perm (namesOf ts ++ r.seen)

theorem namesOf_text (content : String) (ts : List Token) :
    namesOf (.text content :: ts) = namesOf ts := by
  rw [namesOf_cons, Token.vars]
  rfl

theorem namesOf_var (name : String) (own default : Option String) (ts : List Token) :
    namesOf (.var name own default :: ts) = name :: namesOf ts := by
  rw [namesOf_cons, Token.vars]
  rfl

/-- The reader goes through a variable. -/
theorem run_variable {name : String} {own default : Option String} {body : List Char}
    (hopen : r.open? = none) (hvar : Token.IsVariable name own default) (hnew : name ∉ r.seen)
    (hbody : Token.IsBody name own default body) (hbalanced : Pattern.isBalanced 0 body = true) :
    r.run fault ('{' :: (body ++ '}' :: cs)) = ({ r with
      open? := none, tokens := .var name own default :: r.flushed, literal := [],
      seen := name :: r.seen } : PatternReader).run fault cs := by
  have hread : Token.ofBody r.seen body = .ok (.var name own default) :=
    Token.ofBody_eq_ok_iff.2 ⟨name, own, default, rfl, hvar, hnew, hbody⟩
  rw [run_openVariable hopen, run_inside_body rfl rfl hbalanced,
    run_closeVariable rfl rfl rfl (by simpa using hread), Token.vars]
  rfl

/-- **The reader finds the tokens of a text.** -/
theorem run_rendering (h : IsRendering ts s) (hformed : Formed ts) (hopen : r.open? = none)
    (hapart : r.literal ≠ [] → ∀ content us, ts ≠ .text content :: us)
    (hnames : (namesOf ts ++ r.seen).Nodup) (cs : List Char) :
    ∃ r', r.Takes r' ts ∧ r.run fault (s ++ cs) = r'.run fault cs := by
  induction h generalizing r cs with
  | nil => exact ⟨r, ⟨hopen, rfl, rfl, .refl _⟩, rfl⟩
  | @text content ts s _ ih =>
      obtain _ | ⟨hne, hplain, hnext, hrest⟩ := hformed
      have hliteral : r.literal = [] := by
        by_contra hne
        exact hapart hne content ts rfl
      rw [namesOf_text] at hnames
      obtain ⟨r', htakes, hrun⟩ :=
        ih (r := { r with literal := content.toList.reverse ++ r.literal }) hrest hopen
          (fun _ => hnext) hnames cs
      have hflushed : ({ r with literal := content.toList.reverse ++ r.literal } :
          PatternReader).flushed = .text content :: r.flushed := by
        simp [flushed, hliteral, hne]
      refine ⟨r', ⟨htakes.closed, htakes.optional, ?_, ?_⟩, ?_⟩
      · rw [htakes.flushed, hflushed]
        simp
      · rw [namesOf_text]
        exact htakes.seen
      · rw [List.append_assoc, run_text hopen hplain, hrun]
  | @var name own default body ts s hbody hbalanced _ ih =>
      obtain _ | _ | ⟨hvar, hrest⟩ := hformed
      rw [namesOf_var, List.cons_append] at hnames
      have hnew : name ∉ r.seen := fun hmem =>
        (List.nodup_cons.1 hnames).1 (List.mem_append_right _ hmem)
      obtain ⟨r', htakes, hrun⟩ := ih (r := { r with
          open? := none, tokens := .var name own default :: r.flushed, literal := [],
          seen := name :: r.seen }) hrest rfl (fun hne => absurd rfl hne)
        (List.perm_middle.nodup_iff.2 hnames) cs
      refine ⟨r', ⟨htakes.closed, htakes.optional, ?_, ?_⟩, ?_⟩
      · rw [htakes.flushed]
        simp [flushed]
      · rw [namesOf_var]
        exact htakes.seen.trans List.perm_middle
      · rw [List.cons_append, List.append_assoc, List.cons_append,
          run_variable hopen hvar hnew hbody hbalanced, hrun]
  | @optional inner ts text s _ _ ihinner ih =>
      obtain _ | _ | _ | ⟨hne, heach, hrest⟩ := hformed
      rw [namesOf_optional, List.append_assoc] at hnames
      have hinner : (namesOf inner ++ r.seen).Nodup :=
        hnames.sublist ((List.sublist_append_right _ _).append_left _)
      obtain ⟨r₁, htakes₁, hrun₁⟩ := ihinner (r := { r with
          optional := ⟨r.flushed, '[' :: (text ++ ']' :: (s ++ cs))⟩ :: r.optional, tokens := [],
          literal := [] }) heach hopen (fun hne => absurd rfl hne) hinner (']' :: (s ++ cs))
      have hinside : r₁.flushed = inner.reverse := by
        rw [htakes₁.flushed]
        simp [flushed]
      have hseen : (namesOf ts ++ r₁.seen).Perm (namesOf inner ++ (namesOf ts ++ r.seen)) :=
        (htakes₁.seen.append_left _).trans (List.perm_append_comm_assoc ..)
      obtain ⟨r₂, htakes₂, hrun₂⟩ := ih (r := { r₁ with
          optional := r.optional, tokens := .optional inner :: r.flushed, literal := [] })
        hrest htakes₁.closed (fun hne => absurd rfl hne) (hseen.nodup_iff.2 hnames) cs
      refine ⟨r₂, ⟨htakes₂.closed, htakes₂.optional, ?_, ?_⟩, ?_⟩
      · rw [htakes₂.flushed]
        simp [flushed]
      · rw [namesOf_optional, List.append_assoc]
        exact htakes₂.seen.trans hseen
      · have hne' : r₁.flushed ≠ [] := by simpa [hinside] using hne
        rw [List.cons_append, List.append_assoc, List.cons_append, run_openOptional hopen, hrun₁,
          run_closeOptional htakes₁.closed htakes₁.optional hne', hinside, List.reverse_reverse,
          hrun₂]

end PatternReader

namespace Pattern

theorem parse_of_run {source : String} {fault : List Char → PatternFault → Error}
    (hfault : fault = fun fragment => .pattern source (String.ofList fragment)) :
    parse source = (PatternReader.run fault {} source.toList).map (Pattern.mk source) := by
  subst hfault
  simp only [parse, bind, Except.bind, pure, Except.pure]
  split
  case h_1 e he => rw [he]; rfl
  case h_2 ts hts => rw [hts]; rfl

variable {source : String}

/-- A rendering of well-formed tokens is read as these tokens. -/
theorem parse_of_isRendering {ts : List Token} (hformed : WellFormed ts)
    (h : IsRendering ts source.toList) : parse source = .ok ⟨source, ts⟩ := by
  have hnames : (namesOf ts ++ ({} : PatternReader).seen).Nodup := by simpa using hformed.names
  obtain ⟨r, htakes, hrun⟩ := @PatternReader.run_rendering
    (fun fragment => .pattern source (String.ofList fragment)) {} ts source.toList h
    hformed.formed rfl (fun hne => absurd rfl hne) hnames []
  rw [List.append_nil] at hrun
  rw [parse_of_run rfl, hrun, PatternReader.run, PatternReader.finish, htakes.closed,
    htakes.optional, htakes.flushed]
  simp [PatternReader.flushed, Except.map]

end Pattern

end Signpost
