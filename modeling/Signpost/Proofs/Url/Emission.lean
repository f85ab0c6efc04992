import Signpost.Proofs.Route.Defaults
import Signpost.Proofs.Url.Form
import Signpost.Proofs.Url.Return
import Signpost.Regex.Estimate

/-!
# URLs — what is emitted

The generator goes down into the optional segments of a pattern, and looks ahead in each for
variables that are given.  Seen from the parts of the pattern, its texts and variables, this says
which of them are *emitted*: those for which every optional segment around them has a variable in it
that is given (`Part.IsEmitted`).  A URL is made of these, and of a query for what names no
variable.

* `Writer.write_eq_ok_iff`: what is written for a token.
* `Route.url_eq_ok_iff`: what is written for a route.
* `Route.url_of_emitted`: when a route has a URL, and what stands in it.
-/

namespace Signpost

/-! ### Parts -/

/-- Literal text, or a variable with its own constraint. -/
inductive Content where
  | text (content : String)
  | var (name : String) (own : Option String)

/-- A text or a variable of a pattern, with the optional segments around it. -/
structure Part where
  around  : List (List Token)
  content : Content

/-- The parts of a token, in the order in which they are written, given what is around it. -/
def Token.parts (around : List (List Token)) : Token → List Part
  | .text content   => [⟨around, .text content⟩]
  | .var name own _ => [⟨around, .var name own⟩]
  | .optional inner => inner.flatMap (parts (around ++ [inner]))

/-- Whether a value is given for a variable in an optional segment, at any depth. -/
def IsGivenIn (given : List (String × String)) (inner : List Token) : Prop :=
  ∃ v ∈ inner.flatMap (Token.vars 0), v.name ∈ given.map Prod.fst

instance (given : List (String × String)) (inner : List Token) :
    Decidable (IsGivenIn given inner) :=
  inferInstanceAs (Decidable (∃ v ∈ inner.flatMap (Token.vars 0), v.name ∈ given.map Prod.fst))

/-- Whether a part is emitted: a value is given in each optional segment around it. -/
def Part.IsEmitted (given : List (String × String)) (p : Part) : Prop :=
  ∀ inner ∈ p.around, IsGivenIn given inner

instance (given : List (String × String)) (p : Part) : Decidable (p.IsEmitted given) :=
  inferInstanceAs (Decidable (∀ inner ∈ p.around, IsGivenIn given inner))

/-- The parts of a token that are emitted. -/
def Token.emitted (given : List (String × String)) (around : List (List Token)) (t : Token) :
    List Part :=
  (t.parts around).filter (Part.IsEmitted given ·)

/-- The parts of a pattern. -/
def Pattern.parts (p : Pattern) : List Part := p.tokens.flatMap (Token.parts [])

/-- The parts of a pattern that are emitted. -/
def Pattern.emitted (given : List (String × String)) (p : Pattern) : List Part :=
  p.parts.filter (Part.IsEmitted given ·)

namespace Content

/-- What is written for a content. -/
def written (value? : String → Option String) : Content → String
  | .text content => content
  | .var name _   => (value? name).getD ""

/-- Whether a content can be written: a variable has to have a value, which its constraint accepts
as a whole. -/
def IsWritable [Regex.Engine] (value? : String → Option String) (overrides : Dict String)
    (segment : String) : Content → Prop
  | .text _       => True
  | .var name own => ∃ value, value? name = some value ∧
      ∃ e, Regex.compile (anchoredConstraint (effectiveConstraint overrides segment name own))
        Regex.defaultSizeLimit = .ok e ∧ e.isMatch value = true

end Content

namespace Token

variable {given : List (String × String)} {around : List (List Token)} {t : Token}

theorem parts_text (content : String) :
    (Token.text content).parts around = [⟨around, .text content⟩] := by
  rw [parts]

theorem parts_var (name : String) (own default : Option String) :
    (Token.var name own default).parts around = [⟨around, .var name own⟩] := by
  rw [parts]

theorem mem_around_of_mem_parts {part : Part} (h : part ∈ t.parts around) {inner : List Token}
    (hinner : inner ∈ around) : inner ∈ part.around := by
  induction t using Token.induct generalizing around with
  | text content =>
      rw [parts_text, List.mem_singleton] at h
      exact h ▸ hinner
  | var name own default =>
      rw [parts_var, List.mem_singleton] at h
      exact h ▸ hinner
  | optional ts ih =>
      rw [parts] at h
      obtain ⟨t, ht, hpart⟩ := List.mem_flatMap.1 h
      exact ih t ht hpart (List.mem_append_left _ hinner)

/-- A part with a variable is one of the variables. -/
theorem exists_mem_vars_of_mem_parts {part : Part} (h : part ∈ t.parts around) {name : String}
    {own : Option String} (hcontent : part.content = .var name own) (depth : Nat) :
    ∃ v ∈ t.vars depth, v.name = name := by
  induction t using Token.induct generalizing around depth with
  | text content =>
      rw [parts_text, List.mem_singleton] at h
      rw [h] at hcontent
      cases hcontent
  | var name own default =>
      rw [parts_var, List.mem_singleton] at h
      rw [h] at hcontent
      cases hcontent
      exact ⟨⟨name, depth, own, default⟩, by simp [vars], rfl⟩
  | optional ts ih =>
      rw [parts] at h
      obtain ⟨t, ht, hpart⟩ := List.mem_flatMap.1 h
      obtain ⟨v, hv, hname⟩ := ih t ht hpart (depth + 1)
      rw [vars]
      exact ⟨v, List.mem_flatMap.2 ⟨t, ht, hv⟩, hname⟩

/-- A variable that is given is emitted wherever it stands. -/
theorem isEmitted_of_given {part : Part} (haround : ∀ inner ∈ around, IsGivenIn given inner)
    (h : part ∈ t.parts around) {name : String} {own : Option String}
    (hcontent : part.content = .var name own) (hgiven : name ∈ given.map Prod.fst) :
    part.IsEmitted given := by
  induction t using Token.induct generalizing around with
  | text content =>
      rw [parts_text, List.mem_singleton] at h
      exact h ▸ haround
  | var name own default =>
      rw [parts_var, List.mem_singleton] at h
      exact h ▸ haround
  | optional ts ih =>
      rw [parts] at h
      obtain ⟨t, ht, hpart⟩ := List.mem_flatMap.1 h
      obtain ⟨v, hv, rfl⟩ := exists_mem_vars_of_mem_parts hpart hcontent 0
      have hinside : IsGivenIn given ts := ⟨v, List.mem_flatMap.2 ⟨t, ht, hv⟩, hgiven⟩
      exact ih t ht (List.forall_mem_append.2 ⟨haround, List.forall_mem_singleton.2 hinside⟩) hpart

theorem emitted_text (haround : ∀ inner ∈ around, IsGivenIn given inner) (content : String) :
    (Token.text content).emitted given around = [⟨around, .text content⟩] := by
  have hemitted : Part.IsEmitted given ⟨around, .text content⟩ := haround
  simp [emitted, parts_text, hemitted]

theorem emitted_var (haround : ∀ inner ∈ around, IsGivenIn given inner) (name : String)
    (own default : Option String) :
    (Token.var name own default).emitted given around = [⟨around, .var name own⟩] := by
  have hemitted : Part.IsEmitted given ⟨around, .var name own⟩ := haround
  simp [emitted, parts_var, hemitted]

theorem emitted_optional (inner : List Token) : (Token.optional inner).emitted given around =
    inner.flatMap (Token.emitted given (around ++ [inner])) := by
  rw [emitted, parts, List.filter_flatMap]
  rfl

/-- Nothing is emitted of an optional segment in which nothing is given. -/
theorem emitted_optional_eq_nil {inner : List Token} (h : ¬ IsGivenIn given inner) :
    (Token.optional inner).emitted given around = [] := by
  refine List.filter_eq_nil_iff.2 fun part hpart hemitted => h ?_
  rw [parts] at hpart
  obtain ⟨t, -, hpart⟩ := List.mem_flatMap.1 hpart
  have hinner : inner ∈ around ++ [inner] := List.mem_append_right _ (List.mem_singleton.2 rfl)
  exact of_decide_eq_true hemitted inner (mem_around_of_mem_parts hpart hinner)

end Token

/-! ### Tokens -/

namespace Writer

variable {w : Writer} {segment : String} {around : List (List Token)} {s : String}

theorem isGivenIn_iff {inner : List Token} :
    IsGivenIn w.given inner ↔ inner.any w.mentions = true := by
  simp only [IsGivenIn, mentions, List.any_eq_true, List.mem_flatMap, Dict.isSome_lookup_iff]
  constructor
  · rintro ⟨v, ⟨t, ht, hv⟩, hsome⟩
    exact ⟨t, ht, v, hv, hsome⟩
  · rintro ⟨t, ht, v, hv, hsome⟩
    exact ⟨v, ⟨t, ht, hv⟩, hsome⟩

variable [Regex.Engine]

/-- When a variable is written, and how. -/
theorem writeVariable_eq_ok_iff {name : String} {own : Option String} :
    w.writeVariable segment name own = .ok s ↔
      (Content.var name own).IsWritable w.value? w.route.patterns segment ∧
        s = (Content.var name own).written w.value? := by
  constructor
  · intro h
    obtain ⟨e, he, hmatch, hvalue⟩ := writeVariable_eq_ok h
    exact ⟨⟨s, hvalue, e, he, hmatch⟩, by rw [Content.written, hvalue, Option.getD_some]⟩
  · rintro ⟨⟨value, hvalue, e, he, hmatch⟩, rfl⟩
    simp only [writeVariable, hvalue, he, hmatch, if_true, Content.written, Option.getD_some]

/-- What is written for tokens that are each written as their parts. -/
theorem mapM_write_eq_ok_iff {ts : List Token} {emitted : Token → List Part}
    {Writable : Part → Prop} {text : Part → String}
    (h : ∀ t ∈ ts, ∀ s, w.write segment t = .ok s ↔
      (∀ part ∈ emitted t, Writable part) ∧ s = String.join ((emitted t).map text)) :
    String.join <$> ts.mapM (w.write segment) = .ok s ↔
      (∀ part ∈ ts.flatMap emitted, Writable part) ∧
        s = String.join ((ts.flatMap emitted).map text) := by
  have hlist : ∀ ss, List.Forall₂ (fun t s => w.write segment t = .ok s) ts ss ↔
      (∀ part ∈ ts.flatMap emitted, Writable part) ∧
        ss = ts.map fun t => String.join ((emitted t).map text) := by
    intro ss
    induction ts generalizing ss with
    | nil => simp
    | cons t ts ih =>
        obtain ⟨ht, hts⟩ := List.forall_mem_cons.1 h
        rw [List.flatMap_cons, List.forall_mem_append, List.map_cons, List.forall₂_cons_left_iff]
        constructor
        · rintro ⟨s, ss, hs, hss, rfl⟩
          obtain ⟨hwritable, rfl⟩ := (ht s).1 hs
          obtain ⟨hrest, rfl⟩ := (ih hts ss).1 hss
          exact ⟨⟨hwritable, hrest⟩, rfl⟩
        · rintro ⟨⟨hwritable, hrest⟩, rfl⟩
          exact ⟨_, _, (ht _).2 ⟨hwritable, rfl⟩, (ih hts _).2 ⟨hrest, rfl⟩, rfl⟩
  have hjoin : String.join (ts.map fun t => String.join ((emitted t).map text)) =
      String.join ((ts.flatMap emitted).map text) := by
    apply String.toList_inj.1
    simp [String.toList_join, List.flatMap_map, List.map_flatMap, List.flatMap_assoc]
  constructor
  · intro hs
    obtain ⟨ss, hss, hok⟩ := bind_eq_ok.1 ((bind_pure_comp _ _).trans hs)
    obtain ⟨hwritable, rfl⟩ := (hlist ss).1 (mapM_eq_ok.1 hss)
    exact ⟨hwritable, (Except.ok.inj hok).symm.trans hjoin⟩
  · rintro ⟨hwritable, rfl⟩
    rw [mapM_eq_ok.2 ((hlist _).2 ⟨hwritable, rfl⟩), ← hjoin]
    rfl

/-- **What is written for a token** are its parts that are emitted, if these can be written. -/
theorem write_eq_ok_iff {t : Token} (haround : ∀ inner ∈ around, IsGivenIn w.given inner) :
    w.write segment t = .ok s ↔
      (∀ part ∈ t.emitted w.given around,
        part.content.IsWritable w.value? w.route.patterns segment) ∧
      s = String.join
        ((t.emitted w.given around).map fun part => part.content.written w.value?) := by
  induction t using Token.induct generalizing around s with
  | text content =>
      rw [write_text, Token.emitted_text haround, List.forall_mem_singleton]
      simp only [Content.IsWritable, Content.written, true_and, List.map_cons, List.map_nil,
        Except.ok.injEq]
      exact ⟨fun h => by simp [h], fun h => by simp [h]⟩
  | var name own default =>
      rw [write, writeVariable_eq_ok_iff, Token.emitted_var haround]
      simp
  | optional inner ih =>
      by_cases hgiven : IsGivenIn w.given inner
      · have hinner : ∀ ts ∈ around ++ [inner], IsGivenIn w.given ts :=
          List.forall_mem_append.2 ⟨haround, List.forall_mem_singleton.2 hgiven⟩
        rw [write, if_pos (isGivenIn_iff.1 hgiven), Token.emitted_optional]
        exact mapM_write_eq_ok_iff fun t ht s => ih t ht hinner
      · rw [write_unmentioned (Bool.eq_false_iff.2 (mt isGivenIn_iff.2 hgiven)),
          Token.emitted_optional_eq_nil hgiven]
        simp only [List.not_mem_nil, false_implies, implies_true, true_and, Except.ok.injEq]
        exact eq_comm

theorem writePattern_eq_ok_iff {p : Pattern} : w.writePattern segment p = .ok s ↔
    (∀ part ∈ p.emitted w.given, part.content.IsWritable w.value? w.route.patterns segment) ∧
      s = String.join ((p.emitted w.given).map fun part => part.content.written w.value?) := by
  rw [Pattern.emitted, Pattern.parts, List.filter_flatMap]
  exact mapM_write_eq_ok_iff fun t _ s => write_eq_ok_iff (by simp)

end Writer

/-! ### Routes -/

/-- What is related to an option by a function that is defined under a condition. -/
theorem rel_iff {α β : Type} {R : α → β → Prop} {P : α → Prop} {f : α → β} {a : Option α}
    {b : Option β} (h : ∀ x ∈ a, ∀ y, R x y ↔ P x ∧ y = f x) :
    Option.Rel R a b ↔ (∀ x ∈ a, P x) ∧ b = a.map f := by
  constructor
  · intro hrel
    cases hrel with
    | none => exact ⟨by simp, rfl⟩
    | @some x y hxy =>
        obtain ⟨hx, rfl⟩ := (h x rfl y).1 hxy
        exact ⟨by simpa using hx, rfl⟩
  · rintro ⟨hall, rfl⟩
    cases a with
    | none => exact .none
    | some x => exact .some ((h x rfl _).2 ⟨hall x rfl, rfl⟩)

namespace Route

namespace Patterns

/-- The value of a variable: the first one that is given, or else its default, where that of the
route goes before that of the host, and this before that of the path. -/
def value? (patterns : Patterns) (own : Dict String) (given : List (String × String))
    (name : String) : Option String :=
  (given.lookup name).or ((own.get? name).or (patterns.default? name))

/-- The parameters that name no variable of a pattern. -/
def extra (patterns : Patterns) (given : List (String × String)) : List (String × String) :=
  given.filter fun g => !patterns.hasVariable g.1

/-- What is behind the path. -/
def query (patterns : Patterns) (given : List (String × String)) : String :=
  if (patterns.extra given).isEmpty then "" else "?" ++ Form.encode (patterns.extra given)

end Patterns

section emission

variable {r : Route} {given : List (String × String)} {patterns : Patterns}

/-- What is written for a route. -/
theorem url_eq_ok_iff [Regex.Engine] (hpatterns : Patterns.ofRoute r = .ok patterns)
    {url : String} :
    r.url given = .ok url ↔ ∃ host path,
      Option.Rel (fun p s => (r.writer given patterns).writePattern hostSegment p = .ok s)
        patterns.host host ∧
      (r.writer given patterns).writePattern pathSegment patterns.path = .ok path ∧
      url = r.authority host ++ path ++ patterns.query given := by
  have hpath : ∀ host : Option String,
      ((r.writer given patterns).writePattern pathSegment patterns.path >>= fun path =>
        (.ok (r.authority host ++ path ++ patterns.query given) : Except Error String)) = .ok url ↔
      ∃ path, (r.writer given patterns).writePattern pathSegment patterns.path = .ok path ∧
        url = r.authority host ++ path ++ patterns.query given := by
    intro host
    rw [bind_eq_ok]
    exact exists_congr fun path => and_congr_right fun _ =>
      ⟨fun h => (Except.ok.inj h).symm, fun h => h ▸ rfl⟩
  obtain ⟨pattern, host?⟩ := patterns
  cases host? with
  | none =>
      rw [Route.url, hpatterns]
      refine (hpath none).trans ⟨?_, ?_⟩
      · rintro ⟨path, hwrite, rfl⟩
        exact ⟨none, path, .none, hwrite, rfl⟩
      · rintro ⟨_, path, ⟨⟩, hwrite, rfl⟩
        exact ⟨path, hwrite, rfl⟩
  | some p =>
      rw [Route.url, hpatterns]
      refine (bind_eq_ok.trans (exists_congr fun host =>
        and_congr_right fun _ => hpath (some host))).trans ⟨?_, ?_⟩
      · rintro ⟨host, hhost, path, hwrite, rfl⟩
        exact ⟨some host, path, .some hhost, hwrite, rfl⟩
      · rintro ⟨_, path, hhost, hwrite, rfl⟩
        cases hhost with
        | some hhost => exact ⟨_, hhost, path, hwrite, rfl⟩

/-- The writer of a route has the values of its variables. -/
theorem value?_writer (hnames : patterns.HasNames) {name : String}
    (hhas : patterns.hasVariable name = true) :
    (r.writer given patterns).value? name = patterns.value? r.defaults given name := by
  show (given.lookup name).or ((patterns.defaults r.defaults).get? name) = _
  rw [Patterns.get?_defaults_eq hnames, if_pos hhas, Patterns.value?]

/-- The text that is emitted for a pattern. -/
def emittedText (r : Route) (given : List (String × String)) (patterns : Patterns)
    (p : Pattern) : String :=
  String.join ((p.emitted given).map fun part =>
    part.content.written (patterns.value? r.defaults given))

variable [Regex.Engine]

/-- Whether all that is emitted for a pattern can be written. -/
def CanEmit (r : Route) (given : List (String × String)) (patterns : Patterns) (segment : String)
    (p : Pattern) : Prop :=
  ∀ part ∈ p.emitted given,
    part.content.IsWritable (patterns.value? r.defaults given) r.patterns segment

/-- What is written for a pattern of a route. -/
theorem writePattern_eq_ok_iff (hnames : patterns.HasNames) {p : Pattern}
    (hvars : ∀ v ∈ p.vars, patterns.hasVariable v.name = true) {segment s : String} :
    (r.writer given patterns).writePattern segment p = .ok s ↔
      r.CanEmit given patterns segment p ∧ s = r.emittedText given patterns p := by
  have hvalue : ∀ part ∈ p.emitted given, ∀ name own, part.content = .var name own →
      (r.writer given patterns).value? name = patterns.value? r.defaults given name := by
    intro part hpart name own hcontent
    obtain ⟨t, ht, hpart⟩ := List.mem_flatMap.1 (List.mem_filter.1 hpart).1
    obtain ⟨v, hv, rfl⟩ := Token.exists_mem_vars_of_mem_parts hpart hcontent 0
    exact value?_writer hnames (hvars v (List.mem_flatMap.2 ⟨t, ht, hv⟩))
  have hwritable : ∀ part ∈ p.emitted given,
      (part.content.IsWritable (r.writer given patterns).value? r.patterns segment ↔
        part.content.IsWritable (patterns.value? r.defaults given) r.patterns segment) := by
    intro part hpart
    cases hcontent : part.content with
    | text content => exact Iff.rfl
    | var name own =>
        rw [Content.IsWritable, Content.IsWritable, hvalue part hpart name own hcontent]
  have hwritten : ∀ part ∈ p.emitted given,
      part.content.written (r.writer given patterns).value? =
        part.content.written (patterns.value? r.defaults given) := by
    intro part hpart
    cases hcontent : part.content with
    | text content => rfl
    | var name own => rw [Content.written, Content.written, hvalue part hpart name own hcontent]
  refine Writer.writePattern_eq_ok_iff.trans (and_congr (forall₂_congr hwritable) ?_)
  rw [emittedText, ← List.map_congr_left hwritten]
  rfl

/-- **When a route has a URL, and what stands in it.**  It has one if each variable that is emitted
has a value that its constraint accepts.  The URL is the scheme and the host, if there is a host,
and the parts that are emitted; what names no variable of the route can be read from the query.  A
variable for which something is given is always emitted, with what is given first. -/
theorem url_of_emitted (hpatterns : Patterns.ofRoute r = .ok patterns)
    (given : List (String × String)) :
    ((∃ url, r.url given = .ok url) ↔
      (∀ host ∈ patterns.host, r.CanEmit given patterns hostSegment host) ∧
        r.CanEmit given patterns pathSegment patterns.path) ∧
    (∀ url, r.url given = .ok url → ∃ query,
      url = r.authority (patterns.host.map (r.emittedText given patterns)) ++
        r.emittedText given patterns patterns.path ++ query ∧
      ((patterns.extra given = [] ∧ query = "") ∨
        patterns.extra given ≠ [] ∧ ∃ q, query = "?" ++ q ∧
          Form.decode? q = some (patterns.extra given))) ∧
    ∀ p, (p = patterns.path ∨ p ∈ patterns.host) → ∀ part ∈ p.parts, ∀ name own,
      part.content = .var name own → ∀ value, given.lookup name = some value →
        part ∈ p.emitted given ∧
          part.content.written (patterns.value? r.defaults given) = value := by
  have hnames := Patterns.hasNames_of_ofRoute hpatterns
  have hpath : ∀ v ∈ patterns.path.vars, patterns.hasVariable v.name = true :=
    fun v hv => Patterns.hasVariable_iff.2 (.inl ⟨v, hv, rfl⟩)
  have hhost : ∀ host ∈ patterns.host, ∀ v ∈ host.vars, patterns.hasVariable v.name = true :=
    fun host hmem v hv => Patterns.hasVariable_iff.2 (.inr ⟨host, hmem, v, hv, rfl⟩)
  have hurl : ∀ url, r.url given = .ok url ↔
      ((∀ host ∈ patterns.host, r.CanEmit given patterns hostSegment host) ∧
        r.CanEmit given patterns pathSegment patterns.path) ∧
      url = r.authority (patterns.host.map (r.emittedText given patterns)) ++
        r.emittedText given patterns patterns.path ++ patterns.query given := by
    intro url
    have hhosts : ∀ host, Option.Rel
        (fun p s => (r.writer given patterns).writePattern hostSegment p = .ok s)
        patterns.host host ↔ _ := fun host =>
      rel_iff fun p hp s => writePattern_eq_ok_iff hnames (hhost p hp)
    simp only [url_eq_ok_iff hpatterns, hhosts, writePattern_eq_ok_iff hnames hpath]
    constructor
    · rintro ⟨_, _, ⟨hemits, rfl⟩, ⟨hemits', rfl⟩, rfl⟩
      exact ⟨⟨hemits, hemits'⟩, rfl⟩
    · rintro ⟨⟨hemits, hemits'⟩, rfl⟩
      exact ⟨_, _, ⟨hemits, rfl⟩, ⟨hemits', rfl⟩, rfl⟩
  refine ⟨⟨?_, fun h => ⟨_, (hurl _).2 ⟨h, rfl⟩⟩⟩, fun url h => ?_, ?_⟩
  · rintro ⟨url, h⟩
    exact ((hurl url).1 h).1
  · refine ⟨patterns.query given, ((hurl url).1 h).2, ?_⟩
    by_cases hextra : patterns.extra given = []
    · exact .inl ⟨hextra, by rw [Patterns.query, if_pos (List.isEmpty_iff.2 hextra)]⟩
    · refine .inr ⟨hextra, Form.encode (patterns.extra given), ?_, Form.decode?_encode _⟩
      rw [Patterns.query, if_neg (mt List.isEmpty_iff.1 hextra)]
  · rintro p - part hpart name own hcontent value hvalue
    have hgiven : name ∈ given.map Prod.fst :=
      Dict.isSome_lookup_iff.1 (Option.isSome_iff_exists.2 ⟨value, hvalue⟩)
    obtain ⟨t, ht, hpart'⟩ := List.mem_flatMap.1 hpart
    refine ⟨List.mem_filter.2 ⟨hpart, decide_eq_true ?_⟩, ?_⟩
    · exact Token.isEmitted_of_given (by simp) hpart' hcontent hgiven
    · rw [hcontent, Content.written, Patterns.value?, hvalue, Option.some_or, Option.getD_some]

end emission

/-- Values for the first and the last variable of a page, and for none. -/
def lastPage : List (String × String) := [("c", "z"), ("q", "a b"), ("a", "x")]

/-- What is around the last variable of a page is emitted, too, with a default in between. -/
theorem url_of_emitted_page : ∃ q, page.url lastPage = .ok ("/x/1/z" ++ "?" ++ q) ∧
    Form.decode? q = some [("q", "a b")] := by
  have hpatterns : Patterns.ofRoute page = .ok ⟨pagePattern, none⟩ :=
    ofRoute_of_parse rfl parse_page
  obtain ⟨hiff, hshape, -⟩ := url_of_emitted hpatterns lastPage
  have hemitted : (pagePattern.emitted lastPage).map Part.content =
      [.text "/", .var "a" none, .text "/", .var "b" none, .text "/", .var "c" none] := by
    simp [Pattern.emitted, Pattern.parts, Token.parts, pagePattern, Part.IsEmitted, IsGivenIn,
      Token.vars, lastPage]
  have hvalues : ∀ e ∈ [("a", "x"), ("b", "1"), ("c", "z")],
      (Patterns.mk pagePattern none).value? page.defaults lastPage e.1 = some e.2 := by
    simp [Patterns.value?, Patterns.default?, Pattern.default?, vars_pagePattern, page,
      Dict.get?_empty, List.lookup_cons, lastPage]
  obtain ⟨segment, hsegment, hmatch⟩ : ∃ r,
      Regex.compile (anchoredConstraint pathSegment) Regex.defaultSizeLimit = .ok r ∧
        ∀ e ∈ [("a", "x"), ("b", "1"), ("c", "z")], r.isMatch e.2 :=
    ⟨_, rfl, by decide +kernel⟩
  have hwritable : ∀ e ∈ [("a", "x"), ("b", "1"), ("c", "z")], (Content.var e.1 none).IsWritable
      ((Patterns.mk pagePattern none).value? page.defaults lastPage) page.patterns pathSegment :=
    fun e he => ⟨e.2, hvalues e he, segment, hsegment, hmatch e he⟩
  have hemits : page.CanEmit lastPage ⟨pagePattern, none⟩ pathSegment pagePattern := by
    intro part hpart
    have hcontent := List.mem_map_of_mem (f := Part.content) hpart
    rw [hemitted] at hcontent
    generalize part.content = content at hcontent
    revert content
    simpa [Content.IsWritable] using hwritable
  have htext : page.emittedText lastPage ⟨pagePattern, none⟩ pagePattern = "/x/1/z" := by
    have hmap := List.map_map (f := Part.content) (l := pagePattern.emitted lastPage)
      (g := Content.written ((Patterns.mk pagePattern none).value? page.defaults lastPage))
    rw [hemitted] at hmap
    refine (congrArg String.join hmap.symm).trans ?_
    simp only [List.forall_mem_cons] at hvalues
    simp [Content.written, hvalues]
  obtain ⟨url, hurl⟩ := hiff.2 ⟨by simp, hemits⟩
  obtain ⟨query, rfl, hquery⟩ := hshape url hurl
  have hextra : (Patterns.mk pagePattern none).extra lastPage = [("q", "a b")] := by
    simp [Patterns.extra, Patterns.hasVariable, vars_pagePattern, lastPage]
  rw [hextra] at hquery
  obtain ⟨hnil, -⟩ | ⟨-, q, rfl, hq⟩ := hquery
  · cases hnil
  · refine ⟨q, ?_, hq⟩
    rw [hurl, htext]
    rfl

end Route

end Signpost
