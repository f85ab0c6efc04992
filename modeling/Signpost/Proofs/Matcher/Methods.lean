import Signpost.Proofs.Matcher.Tally

/-!
# Matching — requests that differ in their methods

Two requests that differ in their methods alone are searched for side by side.  As long as the first
search finds no route, the second one has come to the same, or it has found a route; and then that
route is one of those whose methods the first one lists (`Tally.Follows`).  So nothing is skipped in
the one search and not in the other before a route is found, and what a refused request is told does
not depend on its own method.

This holds of every matcher, be it compiled from routes or read from data.

* `Matcher.Requirements.judge_cases_of_agrees`: what a route says to both requests.
* `Matcher.follows_tryRoutes`, `Matcher.follows_tryLeaves`: one search follows the other.
* `Matcher.exists_follows`: what both searches come to.
* `Matcher.methodNotAllowed_of_agrees`: a refusal lists the same methods whatever is asked for.
-/

namespace Signpost

/-- Whether two requests differ in nothing but their methods. -/
structure Context.Agrees (c c' : Context) : Prop where
  path   : c.path = c'.path
  host   : c.host = c'.host
  scheme : c.scheme = c'.scheme

namespace Matcher

variable {m : Matcher} {c c' : Context} {t t' u u' : Tally}
  {values : List (String × Option String)}

/-! ### What a search keeps -/

namespace Tally

/-- Whether a tally still has what another one had. -/
structure Grows (t u : Tally) : Prop where
  found   : t.found?.isSome → u.found?.isSome
  allowed : t.allowed ≠ [] → u.allowed ≠ []

namespace Grows

theorem refl (t : Tally) : t.Grows t := ⟨id, id⟩

theorem trans {v : Tally} (h : t.Grows u) (h' : u.Grows v) : t.Grows v :=
  ⟨h'.found ∘ h.found, h'.allowed ∘ h.allowed⟩

theorem eq_none (h : t.Grows u) (hnone : u.found? = none) : t.found? = none := by
  rw [← Option.not_isSome_iff_eq_none] at hnone ⊢
  exact fun hsome => hnone (h.found hsome)

end Grows

theorem allow_ne_nil (t : Tally) {methods : List String} (h : methods ≠ []) :
    (t.allow methods).allowed ≠ [] := by
  obtain ⟨method, hmethod⟩ := List.exists_mem_of_ne_nil _ h
  have hmem : method ∈ distinct (t.allowed ++ methods) :=
    mem_distinct.2 (List.mem_append_right _ hmethod)
  exact List.ne_nil_of_mem hmem

theorem grows_allow (t : Tally) (methods : List String) : t.Grows (t.allow methods) := by
  refine ⟨id, fun hne => ?_⟩
  obtain ⟨method, hmethod⟩ := List.exists_mem_of_ne_nil _ hne
  have hmem : method ∈ distinct (t.allowed ++ methods) :=
    mem_distinct.2 (List.mem_append_left _ hmethod)
  exact List.ne_nil_of_mem hmem

end Tally

theorem grows_tryRoutes (m : Matcher) (c : Context) (values : List (String × Option String))
    (t : Tally) (ids : List Nat) : t.Grows (m.tryRoutes c values t ids) := by
  induction ids generalizing t with
  | nil => exact .refl t
  | cons id ids ih =>
      rw [tryRoutes]
      split
      case isTrue =>
        split
        case h_1 params _ => exact ⟨fun _ => rfl, fun hne => hne⟩
        case h_2 methods _ => exact (t.grows_allow methods).trans (ih _)
        case h_3 => exact ih t
      case isFalse => exact .refl t

theorem grows_tryLeaves (m : Matcher) (c : Context) (t : Tally) (leaves : List (Leaf × Regex)) :
    t.Grows (m.tryLeaves c t leaves) := by
  induction leaves generalizing t with
  | nil => exact .refl t
  | cons l leaves ih =>
      rw [tryLeaves]
      split
      case isTrue =>
        split
        case h_1 captures _ => exact (m.grows_tryRoutes c _ t _).trans (ih _)
        case h_2 => exact ih t
      case isFalse => exact .refl t

theorem grows_searchLeaves (h : m.searchLeaves c t = .ok u) : t.Grows u := by
  unfold searchLeaves at h
  split at h
  case h_1 =>
    obtain rfl := Except.ok.inj h
    exact .refl t
  case h_2 =>
    simp only at h
    split at h
    case isTrue => cases h
    case isFalse =>
      split at h
      case h_1 =>
        obtain rfl := Except.ok.inj h
        exact .refl t
      case h_2 =>
        split at h
        case h_1 =>
          obtain rfl := Except.ok.inj h
          exact .refl t
        case h_2 =>
          obtain rfl := Except.ok.inj h
          exact (m.grows_tryRoutes c _ t _).trans (m.grows_tryLeaves c _ _)

/-! ### What a route says to both requests -/

theorem hostParams?_of_agrees (h : c.Agrees c') (rule : Requirements) (host : Option Regex)
    (params : Params) : hostParams? rule host params c' = hostParams? rule host params c := by
  simp only [hostParams?, h.host]

/-- **A route that does not take a request** says the same to one with another method, unless it
takes that one. -/
theorem Requirements.judge_cases_of_agrees (h : c.Agrees c') (rule : Requirements)
    (host : Option Regex) (values : List (String × Option String)) :
    (∃ params, rule.judge host values c = .accepted params) ∨
      rule.judge host values c' = rule.judge host values c ∨
        ∃ params methods, rule.judge host values c' = .accepted params ∧
          rule.judge host values c = .wrongMethod methods ∧ methods ≠ [] := by
  unfold judge
  rw [hostParams?_of_agrees h, h.scheme]
  split
  case h_1 => exact .inr (.inl rfl)
  case h_2 params _ =>
    by_cases hscheme : (!rule.schemes.isEmpty &&
        !rule.schemes.any fun s => s.toLower = c'.scheme.toLower) = true
    · rw [if_pos hscheme, if_pos hscheme]
      exact .inr (.inl rfl)
    · rw [if_neg hscheme, if_neg hscheme]
      by_cases hserves : serves rule.methods c.method = true
      · exact .inl ⟨params, if_pos hserves⟩
      · rw [if_neg hserves]
        by_cases hserves' : serves rule.methods c'.method = true
        · refine .inr (.inr ⟨params, rule.methods, if_pos hserves', rfl, ?_⟩)
          rintro hnil
          rw [hnil] at hserves'
          simp [serves] at hserves'
        · exact .inr (.inl (if_neg hserves'))

theorem judge_cases_of_agrees (h : c.Agrees c') (m : Matcher)
    (values : List (String × Option String)) (id : Nat) :
    (∃ params, m.judge c values id = .accepted params) ∨
      m.judge c' values id = m.judge c values id ∨
        ∃ params methods, m.judge c' values id = .accepted params ∧
          m.judge c values id = .wrongMethod methods ∧ methods ≠ [] := by
  unfold judge
  split
  case h_1 rule _ => exact rule.judge_cases_of_agrees h _ values
  case h_2 => exact .inr (.inl rfl)

/-! ### One search follows the other -/

/-- Whether a search has come as far as another one that has found no route, or has found one where
the other one has methods to list. -/
def Tally.Follows (t t' : Tally) : Prop :=
  t.found? = none → t' = t ∨ t'.found?.isSome ∧ t.allowed ≠ []

namespace Tally.Follows

theorem refl (t : Tally) : t.Follows t := fun _ => .inl rfl

/-- From a route that has been found on, nothing more matters. -/
theorem of_grows (hfound : t'.found?.isSome) (hallowed : t.allowed ≠ []) (h : t.Grows u)
    (h' : t'.Grows u') : u.Follows u' :=
  fun _ => .inr ⟨h'.found hfound, h.allowed hallowed⟩

/-- Searches that go on follow each other if they do so from the same tally. -/
theorem trans (h : t.Follows t') (hu : t.Grows u) (hu' : t'.Grows u')
    (hsame : t.found? = none → t' = t → u.Follows u') : u.Follows u' := by
  intro hnone
  have hstart := hu.eq_none hnone
  rcases h hstart with rfl | ⟨hfound, hallowed⟩
  · exact hsame hstart rfl hnone
  · exact of_grows hfound hallowed hu hu' hnone

end Tally.Follows

theorem follows_tryRoutes (hagrees : c.Agrees c') (h : t.Follows t') (ids : List Nat) :
    (m.tryRoutes c values t ids).Follows (m.tryRoutes c' values t' ids) := by
  induction ids generalizing t t' with
  | nil => exact h
  | cons id ids ih =>
      refine h.trans (m.grows_tryRoutes c values t _) (m.grows_tryRoutes c' values t' _) ?_
      rintro hnone rfl
      have hopen := Tally.isOpen_of_none hnone id
      rw [tryRoutes, tryRoutes, if_pos hopen, if_pos hopen]
      rcases judge_cases_of_agrees hagrees m values id with
        ⟨params, hjudge⟩ | hjudge | ⟨params, methods, hjudge', hjudge, hne⟩
      · rw [hjudge]
        intro hfound
        cases hfound
      · rw [hjudge]
        cases m.judge c values id with
        | rejected => exact ih (.refl t')
        | wrongMethod methods => exact ih (.refl _)
        | accepted params => exact .refl _
      · rw [hjudge, hjudge']
        exact .of_grows rfl (t'.allow_ne_nil hne) (m.grows_tryRoutes c values _ ids) (.refl _)

theorem follows_tryLeaves (hagrees : c.Agrees c') (h : t.Follows t')
    (leaves : List (Leaf × Regex)) :
    (m.tryLeaves c t leaves).Follows (m.tryLeaves c' t' leaves) := by
  induction leaves generalizing t t' with
  | nil => exact h
  | cons l leaves ih =>
      refine h.trans (m.grows_tryLeaves c t _) (m.grows_tryLeaves c' t' _) ?_
      rintro hnone rfl
      have hopen := Tally.all_isOpen_of_none hnone l.1.routes.head?
      rw [tryLeaves, tryLeaves, if_pos hopen, if_pos hopen, ← hagrees.path]
      cases l.2.captures? c.path with
      | none => exact ih (.refl t')
      | some captures => exact ih (follows_tryRoutes hagrees (.refl t') _)

/-- The search of the merged expressions, which fails for one path and not for one method. -/
theorem follows_searchLeaves (hagrees : c.Agrees c') (h : t.Follows t')
    (hu : m.searchLeaves c t = .ok u) : ∃ u', m.searchLeaves c' t' = .ok u' ∧ u.Follows u' := by
  unfold searchLeaves at hu ⊢
  rw [← hagrees.path]
  split at hu
  case h_1 =>
    obtain rfl := Except.ok.inj hu
    exact ⟨t', rfl, h⟩
  case h_2 =>
    simp only at hu ⊢
    split at hu
    case isTrue => cases hu
    case isFalse hrange =>
      rw [if_neg hrange]
      split at hu
      case h_1 =>
        obtain rfl := Except.ok.inj hu
        exact ⟨t', rfl, h⟩
      case h_2 =>
        split at hu
        case h_1 =>
          obtain rfl := Except.ok.inj hu
          exact ⟨t', rfl, h⟩
        case h_2 =>
          obtain rfl := Except.ok.inj hu
          exact ⟨_, rfl, follows_tryLeaves hagrees (follows_tryRoutes hagrees h _) _⟩

/-! ### What both searches come to -/

/-- What a lookup comes to, with or without a search of the merged expressions. -/
theorem lookup_eq_ok {res : Resolution} : m.lookup c = .ok res ↔ ∃ u : Tally, res = u.resolution ∧
    (if (m.data.leaves.head?.bind fun l => l.routes.head?).any
        (m.tryRoutes c [] {} ((m.data.staticPaths.get? c.path).getD [])).isOpen then
      m.searchLeaves c (m.tryRoutes c [] {} ((m.data.staticPaths.get? c.path).getD []))
    else .ok (m.tryRoutes c [] {} ((m.data.staticPaths.get? c.path).getD []))) = .ok u := by
  unfold lookup
  simp only [pure, Except.pure]
  split
  case isTrue =>
    constructor
    · intro h
      obtain ⟨u, hu, h⟩ := bind_eq_ok.1 h
      exact ⟨u, (Except.ok.inj h).symm, hu⟩
    · rintro ⟨u, rfl, hu⟩
      exact bind_eq_ok.2 ⟨u, hu, rfl⟩
  case isFalse =>
    constructor
    · intro h
      exact ⟨_, (Except.ok.inj h).symm, rfl⟩
    · rintro ⟨u, rfl, hu⟩
      obtain rfl := Except.ok.inj hu
      rfl

/-- **Of two requests that differ in their methods**, one search follows the other, if that finds no
route. -/
theorem exists_follows (hagrees : c.Agrees c') {res : Resolution} (h : m.lookup c = .ok res)
    (hrefused : ∀ found, res ≠ .found found) :
    ∃ t t' : Tally, res = t.resolution ∧ t.found? = none ∧ m.lookup c' = .ok t'.resolution ∧
      t.Follows t' := by
  have hliterals :
      (m.tryRoutes c [] {} ((m.data.staticPaths.get? c.path).getD [])).Follows
        (m.tryRoutes c' [] {} ((m.data.staticPaths.get? c.path).getD [])) :=
    follows_tryRoutes hagrees (.refl {}) _
  obtain ⟨u, rfl, hu⟩ := lookup_eq_ok.1 h
  have hnone : u.found? = none := by
    cases hfound : u.found? with
    | none => rfl
    | some found => exact absurd (by rw [Tally.resolution, hfound]) (hrefused found)
  suffices hother : ∃ u' : Tally, m.lookup c' = .ok u'.resolution ∧ u.Follows u' by
    obtain ⟨u', hlookup, hfollows⟩ := hother
    exact ⟨u, u', rfl, hnone, hlookup, hfollows⟩
  simp only [lookup_eq_ok, ← hagrees.path]
  generalize m.tryRoutes c [] {} ((m.data.staticPaths.get? c.path).getD []) = t at hu hliterals
  generalize m.tryRoutes c' [] {} ((m.data.staticPaths.get? c.path).getD []) = t' at hliterals ⊢
  generalize m.data.leaves.head?.bind (fun l => l.routes.head?) = first? at hu ⊢
  split at hu
  case isTrue hsearch =>
    obtain ⟨u', hu', hfollows⟩ := follows_searchLeaves hagrees hliterals hu
    by_cases hsearch' : first?.any t'.isOpen = true
    · exact ⟨u', ⟨u', rfl, by rw [if_pos hsearch', hu']⟩, hfollows⟩
    · refine ⟨t', ⟨t', rfl, by rw [if_neg hsearch']⟩, ?_⟩
      refine hliterals.trans (grows_searchLeaves hu) (.refl t') ?_
      rintro - rfl
      exact absurd hsearch hsearch'
  case isFalse hsearch =>
    obtain rfl := Except.ok.inj hu
    refine ⟨t', ⟨t', rfl, if_neg ?_⟩, hliterals⟩
    -- no route has been found, so there is no leaf to search
    cases first? with
    | none => exact Bool.false_ne_true
    | some id => exact absurd (Tally.isOpen_of_none hnone id) hsearch

/-- **A refusal lists the same methods** whatever is asked for, if it is not found. -/
theorem methodNotAllowed_of_agrees (hagrees : c.Agrees c') {methods : List String}
    (h : m.lookup c = .ok (.methodNotAllowed methods)) :
    (∃ found, m.lookup c' = .ok (.found found)) ∨
      m.lookup c' = .ok (.methodNotAllowed methods) := by
  obtain ⟨t, t', hres, hnone, hlookup, hfollows⟩ :=
    exists_follows hagrees h fun _ => Resolution.noConfusion
  rcases hfollows hnone with rfl | ⟨hfound, -⟩
  · exact .inr (hres ▸ hlookup)
  · obtain ⟨found, hfound⟩ := Option.isSome_iff_exists.1 hfound
    exact .inl ⟨found, by rw [hlookup, Tally.resolution, hfound]⟩

/-- **What is not found** is not found for another method. -/
theorem notFound_of_agrees (hagrees : c.Agrees c') (h : m.lookup c = .ok .notFound) :
    m.lookup c' = .ok .notFound := by
  obtain ⟨t, t', hres, hnone, hlookup, hfollows⟩ :=
    exists_follows hagrees h fun _ => Resolution.noConfusion
  rcases hfollows hnone with rfl | ⟨-, hallowed⟩
  · exact hres ▸ hlookup
  · -- a tally with methods to list does not say that nothing is found
    rw [Tally.resolution, hnone] at hres
    simp only [List.isEmpty_iff, if_neg hallowed] at hres
    cases hres

end Matcher

end Signpost
