import Signpost.Proofs.Matcher.Chunks
import Signpost.Proofs.Merge.Literal

/-!
# Matching — what a single route says to a request

A route *fits* a request when its own expressions match the path and the host, and the scheme is one
of its own; it *accepts* the request when it also serves the method (`CompiledRoute.Fits`,
`CompiledRoute.Accepts`).  Nothing here knows of other routes.

The matcher asks the leaf of a route instead of its own expression, and the index instead of the
expression of a literal path.  Both say the same: routes share a leaf only if they have the same
expression with the same groups.

* `Merged.standalone_eq`: the expression and the variables determine the groups.
* `CompiledRoute.says_judge`: the verdict of the matcher on a route whose path fits.
* `CompiledRoute.values?_of_staticPath?`: what a literal path says.
-/

namespace Signpost

open Regex (Node)
open Matcher (HostRule Verdict valuesOf bindAll hostName serves)

/-! ### Routes with the same expression -/

/-- Which groups hold variables, and which ones these are, make up the groups. -/
theorem eq_of_map_isSome {cs ds : List (Option String)}
    (hsome : cs.map Option.isSome = ds.map Option.isSome)
    (hvars : cs.filterMap id = ds.filterMap id) : cs = ds := by
  induction cs generalizing ds with
  | nil => exact (List.map_eq_nil_iff.1 hsome.symm).symm
  | cons c cs ih =>
      cases ds with
      | nil => cases hsome
      | cons d ds =>
          obtain ⟨hhead, htail⟩ := List.cons.inj hsome
          cases c with
          | none =>
              cases d with
              | none => rw [ih htail hvars]
              | some name => cases hhead
          | some name =>
              cases d with
              | none => cases hhead
              | some name' =>
                  obtain ⟨hname, hrest⟩ := List.cons.inj hvars
                  obtain rfl : name = name' := hname
                  rw [ih htail hrest]

/-- **The expression and the variables determine the groups**: the capturing parentheses outside of
all others hold the variables. -/
theorem Atom.captures_eq {as bs : List Atom} (has : ∀ a ∈ as, a.IsComplete)
    (hbs : ∀ b ∈ bs, b.IsComplete) (hexpression : expression as = expression bs)
    (hvars : vars as = vars bs) : as.flatMap captures = bs.flatMap captures := by
  have hread := (isPart_expression fun a ha => (has a ha).toIsSound).ofText?
  have hread' := (isPart_expression fun b hb => (hbs b hb).toIsSound).ofText?
  rw [hexpression, hread'] at hread
  obtain ⟨-, hparens⟩ := Prod.mk.inj (Option.some.inj hread)
  refine eq_of_map_isSome ?_ hvars
  rw [← map_isOuter_allParens has, ← map_isOuter_allParens hbs, hparens]

/-- A complete fragment by itself depends on its expression and its variables only. -/
theorem Merged.standalone_eq {as bs : List Atom} (has : ∀ a ∈ as, a.IsComplete)
    (hbs : ∀ b ∈ bs, b.IsComplete) (hexpression : Atom.expression as = Atom.expression bs)
    (hvars : Atom.vars as = Atom.vars bs) : standalone as = standalone bs :=
  standalone_eq_of_captures hexpression (Atom.captures_eq has hbs hexpression hvars)

/-! ### Fitting and accepting -/

namespace CompiledRoute

/-- What the expression of the path by itself gives to its variables, if it matches. -/
def values? (r : CompiledRoute) (path : String) : Option (List (String × Option String)) :=
  (Node.ofText? (Merged.standalone r.atoms).1.toList).bind fun n =>
    ((Regex.mk n).captures? path).map (valuesOf · (Merged.standalone r.atoms).2)

/-- What the expression of a host, which comes without its port, gives to its variables. -/
def hostValues? (rule : HostRule) (host : String) : Option (List (String × Option String)) :=
  (Node.ofText? rule.expression.toList).bind fun n =>
    ((Regex.mk n).captures? (String.ofList (hostName host.toList))).map (valuesOf · rule.bindings)

/-- Whether a request fits a route but for its method. -/
structure Fits (r : CompiledRoute) (c : Context) : Prop where
  path   : (r.values? c.path).isSome
  host   : ∀ rule, r.requirements.host = some rule → (hostValues? rule c.host).isSome
  scheme : r.requirements.schemes = [] ∨
    ∃ s ∈ r.requirements.schemes, s.toLower = c.scheme.toLower

/-- Whether a route takes a request. -/
structure Accepts (r : CompiledRoute) (c : Context) : Prop extends r.Fits c where
  method : serves r.requirements.methods c.method

/-- What a route takes from a request that fits: the values in the path, and then those in the
host. -/
def params (r : CompiledRoute) (c : Context) : Params :=
  bindAll r.requirements.defaults
    (bindAll r.requirements.defaults .empty ((r.values? c.path).getD []))
    ((r.requirements.host.bind fun rule => hostValues? rule c.host).getD [])

/-- What a route says to a request. -/
inductive Says (r : CompiledRoute) (c : Context) : Verdict → Prop
  | rejected (h : ¬ r.Fits c) : Says r c .rejected
  | wrongMethod (h : r.Fits c) (hmethod : serves r.requirements.methods c.method = false) :
      Says r c (.wrongMethod r.requirements.methods)
  | accepted (h : r.Accepts c) : Says r c (.accepted (r.params c))

variable {r : CompiledRoute} {c : Context} {limit : Nat} {host : Option Regex}
  {values : List (String × Option String)}

variable [Regex.Engine]

/-- The parameters from the path and the host, if the host fits. -/
theorem hostParams?_eq (hhost : Matcher.IsHost limit r.requirements host)
    (hvalues : r.values? c.path = some values) :
    (∀ rule, r.requirements.host = some rule → (hostValues? rule c.host).isSome) ∧
        Matcher.hostParams? r.requirements host
          (bindAll r.requirements.defaults .empty values) c = some (r.params c) ∨
      (∃ rule, r.requirements.host = some rule ∧ hostValues? rule c.host = none) ∧
        Matcher.hostParams? r.requirements host
          (bindAll r.requirements.defaults .empty values) c = none := by
  unfold Matcher.IsHost at hhost
  split at hhost
  case h_1 rule hrule =>
    obtain ⟨e, he, rfl⟩ := hhost
    have hown : hostValues? rule c.host =
        (e.captures? (String.ofList (hostName c.host.toList))).map (valuesOf · rule.bindings) := by
      rw [hostValues?, Regex.ofText?_of_compile he]
      rfl
    cases hcaptures : e.captures? (String.ofList (hostName c.host.toList)) with
    | none =>
        rw [hcaptures] at hown
        refine .inr ⟨⟨rule, hrule, hown⟩, ?_⟩
        simp only [Matcher.hostParams?, hrule, hcaptures, Option.map_none]
    | some captures =>
        rw [hcaptures] at hown
        refine .inl ⟨fun rule' hrule' => ?_, ?_⟩
        · obtain rfl : rule = rule' := Option.some.inj (hrule.symm.trans hrule')
          rw [hown]
          rfl
        · simp only [Matcher.hostParams?, hrule, hcaptures, Option.map_some, params, hvalues,
            Option.getD_some, Option.bind_some, hown]
  case h_2 hrule =>
    refine .inl ⟨fun rule hrule' => ?_, ?_⟩
    · rw [hrule] at hrule'
      cases hrule'
    · simp only [Matcher.hostParams?, hrule, params, hvalues, Option.getD_some, Option.bind_none,
        Option.getD_none]
      rfl

/-- **The verdict of the matcher** on a route whose path fits is what the route says. -/
theorem says_judge (hhost : Matcher.IsHost limit r.requirements host)
    (hvalues : r.values? c.path = some values) :
    r.Says c (r.requirements.judge host values c) := by
  unfold Matcher.Requirements.judge
  rcases hostParams?_eq hhost hvalues with ⟨hfits, hparams⟩ | ⟨⟨rule, hrule, hnone⟩, hparams⟩
  · simp only [hparams]
    have hpath : (r.values? c.path).isSome := by
      rw [hvalues]
      rfl
    split
    case isTrue hscheme =>
      refine .rejected fun h => ?_
      simp only [Bool.and_eq_true, Bool.not_eq_true', List.isEmpty_eq_false_iff,
        List.any_eq_false, decide_eq_true_eq] at hscheme
      rcases h.scheme with hnil | ⟨s, hs, heq⟩
      · exact hscheme.1 hnil
      · exact hscheme.2 s hs heq
    case isFalse hscheme =>
      have hfit : r.Fits c := by
        refine ⟨hpath, hfits, ?_⟩
        by_contra hnone
        obtain ⟨hne, hother⟩ := not_or.1 hnone
        refine hscheme ?_
        simp only [Bool.and_eq_true, Bool.not_eq_true', List.isEmpty_eq_false_iff,
          List.any_eq_false, decide_eq_true_eq]
        exact ⟨hne, fun s hs heq => hother ⟨s, hs, heq⟩⟩
      split
      case isTrue hmethod => exact .accepted ⟨hfit, hmethod⟩
      case isFalse hmethod => exact .wrongMethod hfit (Bool.eq_false_iff.2 hmethod)
  · simp only [hparams]
    refine .rejected fun h => ?_
    have hsome := h.host rule hrule
    rw [hnone] at hsome
    cases hsome

/-- A literal path fits itself, with nothing for any variable. -/
theorem values?_of_staticPath? {route : Route} (hcompile : route.compile = .ok r)
    {literal : String} (hliteral : r.staticPath? = some literal) (path : String) :
    r.values? path = if path = literal then some [] else none := by
  obtain ⟨p, hp⟩ := Route.isCompiledTo_of_compile hcompile
  have hchars : r.atoms = literal.toList.map .char :=
    Pattern.atoms_of_staticText? (hp.literal.symm.trans hliteral) hp.atoms
  obtain ⟨n, hn⟩ := Merged.ofText?_literal literal.toList
  have hvalues := Merged.valuesOf_literal literal.toList hn path
  simp only [String.toList_inj] at hvalues
  rw [values?, hchars, hn]
  exact hvalues

/-- A path says what its leaf says. -/
theorem values?_of_standalone {atoms : List Atom} (hsame : Merged.standalone r.atoms =
    Merged.standalone atoms) {e : Regex}
    (he : Regex.compile (Merged.standalone atoms).1 limit = .ok e) (path : String) :
    r.values? path = (e.captures? path).map (valuesOf · (Merged.standalone atoms).2) := by
  rw [values?, hsame, Regex.ofText?_of_compile he]
  rfl

end CompiledRoute

end Signpost
