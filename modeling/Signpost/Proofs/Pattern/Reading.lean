import Signpost.Pattern.Parser
import Signpost.Proofs.Pattern.Parts

/-!
# Patterns — what is read

What the reader of patterns can do with a character (`PatternReader.Step`), and what it keeps on its
way through a text: no two variables have the same name, and a pattern that begins with a slash
begins with literal text.

* `Pattern.nodup_names_of_parse`: the names of a pattern are distinct.
* `Pattern.tokens_of_parse`: how a pattern begins.
-/

namespace Signpost

variable {fault : List Char → PatternFault → Error}

/-- What stands between the braces of a variable is a variable with a new name. -/
theorem Token.ofBody_eq_ok {seen : List String} {body : List Char} {t : Token}
    (h : Token.ofBody seen body = .ok t) :
    ∃ name own default, t = .var name own default ∧ name ∉ seen := by
  unfold Token.ofBody at h
  simp only [bind, Except.bind, throw, throwThe, MonadExceptOf.throw, pure, Except.pure] at h
  split at h
  case isTrue => cases h
  case isFalse =>
    split at h
    case isTrue => cases h
    case isFalse hnew =>
      have hnew : String.ofList (body.takeWhile fun c => c != ':' && c != '=') ∉ seen := by
        simpa using hnew
      split at h
      case h_1 =>
        split at h
        case isTrue => cases h
        case isFalse => exact ⟨_, _, _, (Except.ok.inj h).symm, hnew⟩
      all_goals exact ⟨_, _, _, (Except.ok.inj h).symm, hnew⟩

namespace PatternReader

/-! ### Steps -/

/-- What becomes of a reader with the next character. -/
inductive Step (r : PatternReader) : PatternReader → Prop
  /-- A character of a variable. -/
  | inside {v : OpenVariable} (hopen : r.open? = some v) (v' : OpenVariable) :
      Step r { r with open? := some v' }
  | closeVariable {v : OpenVariable} (hopen : r.open? = some v) (name : String)
      (own default : Option String) (hnew : name ∉ r.seen) :
      Step r { r with
        open? := none, tokens := .var name own default :: r.tokens, seen := name :: r.seen }
  | openVariable (hopen : r.open? = none) (v : OpenVariable) :
      Step r { r with open? := some v, tokens := r.flushed, literal := [] }
  | openOptional (hopen : r.open? = none) (text : List Char) :
      Step r { r with optional := ⟨r.flushed, text⟩ :: r.optional, tokens := [], literal := [] }
  | closeOptional (hopen : r.open? = none) {o : OpenOptional} {os : List OpenOptional}
      (hoptional : r.optional = o :: os) :
      Step r { r with
        optional := os, tokens := .optional r.flushed.reverse :: o.before, literal := [] }
  | literal (hopen : r.open? = none) (c : Char) : Step r { r with literal := c :: r.literal }

theorem step_of_stepInside {r r' : PatternReader} {v : OpenVariable} {c : Char}
    (hopen : r.open? = some v) (h : r.stepInside fault v c = .ok r') : r.Step r' := by
  unfold stepInside at h
  split at h
  case isTrue =>
    obtain rfl := Except.ok.inj h
    exact .inside hopen _
  case isFalse =>
    split at h
    case h_3 =>
      cases hclose : r.closeVariable v.body.reverse with
      | error e =>
          rw [hclose] at h
          cases h
      | ok closed =>
          rw [hclose] at h
          obtain rfl := Except.ok.inj h
          obtain ⟨t, ht, hclosed⟩ := bind_eq_ok.1 hclose
          obtain ⟨name, own, default, rfl, hnew⟩ := Token.ofBody_eq_ok ht
          obtain rfl := Except.ok.inj hclosed
          simp only [Token.vars, List.map_cons, List.map_nil, List.singleton_append]
          exact .closeVariable hopen name own default hnew
    all_goals
      obtain rfl := Except.ok.inj h
      exact .inside hopen _

theorem step_of_stepOutside {r r' : PatternReader} {c : Char} {text : List Char}
    (hopen : r.open? = none) (h : r.stepOutside fault c text = .ok r') : r.Step r' := by
  unfold stepOutside at h
  split at h
  case h_1 =>
    obtain rfl := Except.ok.inj h
    exact .openVariable hopen _
  case h_2 =>
    obtain rfl := Except.ok.inj h
    exact .openOptional hopen _
  case h_3 =>
    split at h
    case h_1 => cases h
    case h_2 hoptional =>
      split at h
      case isTrue => cases h
      case isFalse =>
        obtain rfl := Except.ok.inj h
        exact .closeOptional hopen hoptional
  case h_4 => cases h
  case h_5 =>
    obtain rfl := Except.ok.inj h
    exact .literal hopen c

/-- What every step keeps holds at the end of the text, where nothing is open. -/
theorem keeps_run {Inv : PatternReader → Prop} (hstep : ∀ r r', Step r r' → Inv r → Inv r')
    {r : PatternReader} {cs : List Char} {ts : List Token} (h : r.run fault cs = .ok ts)
    (hr : Inv r) : ∃ r', Inv r' ∧ r'.open? = none ∧ r'.optional = [] ∧ ts = r'.flushed.reverse := by
  induction cs generalizing r with
  | nil =>
      rw [run, finish] at h
      split at h
      case h_3 hopen hoptional => exact ⟨r, hr, hopen, hoptional, (Except.ok.inj h).symm⟩
      all_goals cases h
  | cons c cs ih =>
      rw [run] at h
      split at h
      case h_1 v hopen =>
        obtain ⟨r', hr', hrun⟩ := bind_eq_ok.1 h
        exact ih hrun (hstep r r' (step_of_stepInside hopen hr') hr)
      case h_2 hopen =>
        obtain ⟨r', hr', hrun⟩ := bind_eq_ok.1 h
        exact ih hrun (hstep r r' (step_of_stepOutside hopen hr') hr)

/-! ### The names of variables -/

/-- The names in tokens. -/
def namesOf (ts : List Token) : List String := (ts.flatMap (Token.vars 0)).map Variable.name

theorem map_name_vars (t : Token) (depth depth' : Nat) :
    (t.vars depth).map Variable.name = (t.vars depth').map Variable.name := by
  induction t using Token.induct generalizing depth depth' with
  | text content => rw [Token.vars, Token.vars]
  | var name own default => rw [Token.vars, Token.vars]; rfl
  | optional inner ih =>
      rw [Token.vars, Token.vars, List.map_flatMap, List.map_flatMap]
      exact List.flatMap_congr fun t ht => ih t ht _ _

theorem namesOf_cons (t : Token) (ts : List Token) :
    namesOf (t :: ts) = (t.vars 0).map Variable.name ++ namesOf ts := by
  simp [namesOf]

theorem namesOf_reverse (ts : List Token) : (namesOf ts.reverse).Perm (namesOf ts) :=
  ((List.reverse_perm ts).flatMap_right _).map _

theorem namesOf_optional (inner ts : List Token) :
    namesOf (.optional inner :: ts) = namesOf inner ++ namesOf ts := by
  have hinner : ((Token.optional inner).vars 0).map Variable.name = namesOf inner := by
    rw [Token.vars, namesOf, List.map_flatMap, List.map_flatMap]
    exact List.flatMap_congr fun t _ => map_name_vars t _ _
  rw [namesOf_cons, hinner]

theorem namesOf_flushed (r : PatternReader) : namesOf r.flushed = namesOf r.tokens := by
  unfold flushed
  split
  case isTrue => rfl
  case isFalse => rw [namesOf_cons, Token.vars]; rfl

/-- The names that a reader has seen are those of its tokens, each one once. -/
structure HasSeen (r : PatternReader) : Prop where
  perm  : ((r.optional.flatMap fun o => namesOf o.before) ++ namesOf r.tokens).Perm r.seen
  nodup : r.seen.Nodup

theorem HasSeen.step {r r' : PatternReader} (h : Step r r') (hr : r.HasSeen) : r'.HasSeen := by
  cases h with
  | inside => exact ⟨hr.perm, hr.nodup⟩
  | closeVariable _ name own default hnew =>
      refine ⟨?_, List.nodup_cons.2 ⟨hnew, hr.nodup⟩⟩
      rw [namesOf_cons, Token.vars]
      exact List.perm_middle.trans (hr.perm.cons name)
  | openVariable =>
      refine ⟨?_, hr.nodup⟩
      rw [namesOf_flushed]
      exact hr.perm
  | openOptional =>
      refine ⟨?_, hr.nodup⟩
      rw [List.flatMap_cons, namesOf_flushed, show namesOf [] = [] from rfl, List.append_nil]
      exact List.perm_append_comm.trans hr.perm
  | @closeOptional _ o os hoptional =>
      refine ⟨?_, hr.nodup⟩
      have hperm := hr.perm
      rw [hoptional, List.flatMap_cons] at hperm
      rw [namesOf_optional]
      have hinner : (namesOf r.flushed.reverse).Perm (namesOf r.tokens) := by
        rw [← namesOf_flushed]
        exact namesOf_reverse _
      calc ((os.flatMap fun o => namesOf o.before) ++
              (namesOf r.flushed.reverse ++ namesOf o.before)).Perm
            ((os.flatMap fun o => namesOf o.before) ++
              (namesOf r.tokens ++ namesOf o.before)) := (hinner.append_right _).append_left _
        _ |>.Perm ((namesOf o.before ++ os.flatMap fun o => namesOf o.before) ++
              namesOf r.tokens) := by
            rw [← List.append_assoc]
            exact List.perm_append_comm.trans (by rw [List.append_assoc])
        _ |>.Perm r.seen := hperm
  | literal => exact ⟨hr.perm, hr.nodup⟩

end PatternReader

namespace Pattern

open PatternReader

variable {source : String} {p : Pattern}

theorem run_of_parse (h : parse source = .ok p) :
    ∃ fault, PatternReader.run fault {} source.toList = .ok p.tokens := by
  obtain ⟨ts, hts, hp⟩ := bind_eq_ok.1 h
  obtain rfl := Except.ok.inj hp
  exact ⟨_, hts⟩

/-- **The names of the variables of a pattern are distinct.** -/
theorem nodup_names_of_parse (h : parse source = .ok p) : (p.vars.map Variable.name).Nodup := by
  obtain ⟨fault, hrun⟩ := run_of_parse h
  obtain ⟨r, hr, -, hoptional, hts⟩ :=
    keeps_run (fun _ _ => HasSeen.step) hrun ⟨.refl _, List.nodup_nil⟩
  have hperm := hr.perm
  rw [hoptional, List.flatMap_nil, List.nil_append, ← namesOf_flushed] at hperm
  have hnames : (namesOf p.tokens).Nodup := by
    rw [hts]
    exact ((namesOf_reverse _).trans hperm).nodup_iff.2 hr.nodup
  exact hnames

end Pattern

/-! ### The first token -/

namespace PatternReader

/-- Whether the first of some tokens, the latest of which comes first, is text that begins with a
slash. -/
def Rooted (ts : List Token) : Prop :=
  ∃ content, ts.getLast? = some (.text content) ∧ content.toList.head? = some '/'

theorem Rooted.cons {ts : List Token} (h : Rooted ts) (t : Token) : Rooted (t :: ts) := by
  obtain ⟨content, hlast, hslash⟩ := h
  exact ⟨content, by simp [List.getLast?_cons, hlast], hslash⟩

/-- The tokens outside of all optional segments, the latest first. -/
def outermost (r : PatternReader) : List Token :=
  (r.optional.getLast?.map OpenOptional.before).getD r.flushed

theorem outermost_of_nil {r : PatternReader} (h : r.optional = []) : r.outermost = r.flushed := by
  rw [outermost, h]
  rfl

/-- Inside of an optional segment, only what came before the outermost one matters. -/
theorem rooted_of_ne_nil {r r' : PatternReader} (hne : r.optional ≠ [])
    (h : r'.optional.getLast? = r.optional.getLast?) (hr : Rooted r.outermost) :
    Rooted r'.outermost := by
  obtain ⟨o, ho⟩ := Option.isSome_iff_exists.1 (List.getLast?_isSome.2 hne)
  rw [outermost, ho] at hr
  rw [outermost, h, ho]
  exact hr

theorem flushed_of_literal {r : PatternReader} (h : r.literal = []) : r.flushed = r.tokens := by
  simp [flushed, h]

/-- Literal text goes on with another character. -/
theorem rooted_literal {r : PatternReader} (hr : Rooted r.flushed) (c : Char) :
    Rooted ({ r with literal := c :: r.literal } : PatternReader).flushed := by
  have hflushed : ({ r with literal := c :: r.literal } : PatternReader).flushed =
      .text (String.ofList (r.literal.reverse ++ [c])) :: r.tokens := by
    simp [flushed]
  rw [hflushed]
  cases hliteral : r.literal with
  | nil =>
      rw [flushed_of_literal hliteral] at hr
      exact hr.cons _
  | cons d ds =>
      have hold : r.flushed = .text (String.ofList r.literal.reverse) :: r.tokens := by
        simp [flushed, hliteral]
      obtain ⟨content, hlast, hslash⟩ := hr
      rw [hold] at hlast
      cases htokens : r.tokens with
      | nil =>
          -- the text is the first token, and still begins with the slash
          rw [htokens, List.getLast?_singleton, Option.some.injEq, Token.text.injEq] at hlast
          subst hlast
          refine ⟨_, List.getLast?_singleton, ?_⟩
          rw [String.toList_ofList] at hslash
          rw [String.toList_ofList, ← hliteral, List.head?_append, hslash]
          rfl
      | cons t ts =>
          rw [htokens, List.getLast?_cons_cons] at hlast
          exact ⟨content, by rw [List.getLast?_cons_cons, hlast], hslash⟩

/-- Whether a pattern begins with text that begins with a slash. -/
structure IsRooted (r : PatternReader) : Prop where
  rooted : Rooted r.outermost
  closed : r.open?.isSome → r.literal = []

theorem IsRooted.step {r r' : PatternReader} (h : Step r r') (hr : r.IsRooted) :
    r'.IsRooted := by
  have hrooted := hr.rooted
  cases h with
  | inside hopen v' => exact ⟨hrooted, fun _ => hr.closed (by simp [hopen])⟩
  | closeVariable hopen name own default =>
      have hliteral := hr.closed (by simp [hopen])
      refine ⟨?_, by simp⟩
      by_cases hnil : r.optional = []
      · rw [outermost_of_nil hnil, flushed_of_literal hliteral] at hrooted
        rw [outermost_of_nil (by exact hnil), flushed_of_literal (by exact hliteral)]
        exact hrooted.cons _
      · exact rooted_of_ne_nil hnil rfl hrooted
  | openVariable => exact ⟨hrooted, fun _ => rfl⟩
  | openOptional hopen text =>
      refine ⟨?_, by simp [hopen]⟩
      by_cases hnil : r.optional = []
      · rw [outermost_of_nil hnil] at hrooted
        rw [outermost, hnil]
        exact hrooted
      · exact rooted_of_ne_nil hnil (List.getLast?_cons_of_ne_nil hnil) hrooted
  | @closeOptional hopen o os hoptional =>
      refine ⟨?_, by simp [hopen]⟩
      by_cases hnil : os = []
      · subst hnil
        rw [outermost, hoptional] at hrooted
        rw [outermost_of_nil (by rfl), flushed_of_literal (by rfl)]
        exact hrooted.cons _
      · have hlast : os.getLast? = r.optional.getLast? := by
          rw [hoptional, List.getLast?_cons_of_ne_nil hnil]
        exact rooted_of_ne_nil (by simp [hoptional]) hlast hrooted
  | literal hopen c =>
      refine ⟨?_, by simp [hopen]⟩
      by_cases hnil : r.optional = []
      · rw [outermost_of_nil hnil] at hrooted
        rw [outermost_of_nil (by exact hnil)]
        exact rooted_literal hrooted c
      · exact rooted_of_ne_nil hnil rfl hrooted

end PatternReader

/-- **A pattern that begins with a slash** begins with literal text. -/
theorem Pattern.tokens_of_parse {source : String} {p : Pattern} (h : parse source = .ok p)
    (hslash : source.toList.head? = some '/') :
    ∃ content ts, p.tokens = .text content :: ts ∧ content.toList.head? = some '/' := by
  obtain ⟨fault, hrun⟩ := run_of_parse h
  obtain ⟨cs, hcs⟩ := List.head?_eq_some_iff.1 hslash
  rw [hcs, PatternReader.run] at hrun
  obtain ⟨r, hr, hrun⟩ := bind_eq_ok.1 hrun
  obtain rfl := Except.ok.inj hr
  have hstart : PatternReader.IsRooted { literal := ['/'] } :=
    ⟨⟨"/", rfl, by decide⟩, fun h => nomatch h⟩
  obtain ⟨r', hr', -, hoptional, hts⟩ :=
    PatternReader.keeps_run (fun _ _ => PatternReader.IsRooted.step) hrun hstart
  obtain ⟨content, hlast, hbegins⟩ := hr'.rooted
  rw [PatternReader.outermost_of_nil hoptional, ← List.head?_reverse, ← hts] at hlast
  obtain ⟨ts, htokens⟩ := List.head?_eq_some_iff.1 hlast
  exact ⟨content, ts, htokens, hbegins⟩

end Signpost
