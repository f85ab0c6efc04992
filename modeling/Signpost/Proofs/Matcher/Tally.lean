import Signpost.Proofs.Matcher.Routes

/-!
# Matching — what a search knows

What a lookup should answer is said by going through all routes in their order
(`Matcher.Answers`): the first one that accepts gets the request, and if there is none, the methods
of the routes that fit are listed.  A lookup goes through few of them.  It looks literal paths up,
searches the merged expressions, and stops where no route could come before the one it has found.

The invariant of the search (`Tally.Knows`) is about the routes that have been *seen*: those that
have been tried, those that are known not to fit, and, once a route has been found, all that come
after it.  Each step of the search adds to them.

* `Matcher.knows_tryRoutes`: what trying routes in turn adds.
* `Tally.answers_resolution`: with all routes seen, a tally has the answer.
-/

namespace Signpost.Matcher

/-- The answer of the routes, all of them in their order, to a request. -/
inductive Answers (rs : List CompiledRoute) (c : Context) : Resolution → Prop
  | found (id : Nat) (r : CompiledRoute) (hr : rs[id]? = some r) (accepts : r.Accepts c)
      (least : ∀ id' < id, ∀ r', rs[id']? = some r' → ¬ r'.Accepts c) :
      Answers rs c (.found ⟨id, r.params c⟩)
  | methodNotAllowed (methods : List String) (fits : ∃ r ∈ rs, r.Fits c)
      (refused : ∀ r ∈ rs, ¬ r.Accepts c) (nodup : methods.Nodup)
      (mem_iff : ∀ x, x ∈ methods ↔ ∃ r ∈ rs, r.Fits c ∧ x ∈ r.requirements.methods) :
      Answers rs c (.methodNotAllowed methods)
  | notFound (misfit : ∀ r ∈ rs, ¬ r.Fits c) : Answers rs c .notFound

variable {rs : List CompiledRoute} {c : Context} {m : Matcher} {t : Tally} {seen seen' : Nat → Prop}

/-! ### What a tally knows -/

namespace Tally

/-- Whether a tally knows the answer of the routes that have been seen. -/
structure Knows (rs : List CompiledRoute) (c : Context) (seen : Nat → Prop) (t : Tally) : Prop where
  nodup   : t.allowed.Nodup
  found   : ∀ m, t.found? = some m → ∃ r, rs[m.route]? = some r ∧ r.Accepts c ∧
    m.params = r.params c ∧
    ∀ id < m.route, seen id → ∀ r', rs[id]? = some r' → ¬ r'.Accepts c
  refused : t.found? = none → ∀ id, seen id → ∀ r, rs[id]? = some r → ¬ r.Accepts c
  allowed : t.found? = none → ∀ x, x ∈ t.allowed ↔
    ∃ id, seen id ∧ ∃ r, rs[id]? = some r ∧ r.Fits c ∧ x ∈ r.requirements.methods

theorem knows_empty : ({} : Tally).Knows rs c fun _ => False :=
  ⟨.nil, by simp, by simp, by simp⟩

theorem isOpen_iff {id : Nat} : t.isOpen id ↔ ∀ m, t.found? = some m → id < m.route := by
  rw [isOpen, Option.all_eq_true]
  simp only [decide_eq_true_eq]

theorem exists_of_not_isOpen {id : Nat} (h : ¬ t.isOpen id) :
    ∃ m, t.found? = some m ∧ m.route ≤ id := by
  rw [isOpen_iff] at h
  simpa only [not_forall, Nat.not_lt, exists_prop] using h

theorem isOpen_of_none (h : t.found? = none) (id : Nat) : t.isOpen id := by
  refine isOpen_iff.2 fun found hfound => ?_
  rw [h] at hfound
  cases hfound

theorem all_isOpen_of_none (h : t.found? = none) (id? : Option Nat) : id?.all t.isOpen :=
  (Option.all_eq_true _ _).2 fun id _ => isOpen_of_none h id

namespace Knows

/-- Routes that do not fit need not be tried. -/
theorem reject (h : t.Knows rs c seen) (hmore : ∀ id, seen id → seen' id)
    (hnew : ∀ id, seen' id → seen id ∨ ∀ r, rs[id]? = some r → ¬ r.Fits c) :
    t.Knows rs c seen' := by
  refine ⟨h.nodup, fun m hm => ?_, fun hnone id hid r hr haccepts => ?_, fun hnone x => ?_⟩
  · obtain ⟨r, hr, haccepts, hparams, hleast⟩ := h.found m hm
    refine ⟨r, hr, haccepts, hparams, fun id hlt hid r' hr' haccepts' => ?_⟩
    rcases hnew id hid with hid | hid
    · exact hleast id hlt hid r' hr' haccepts'
    · exact hid r' hr' haccepts'.toFits
  · rcases hnew id hid with hid | hid
    · exact h.refused hnone id hid r hr haccepts
    · exact hid r hr haccepts.toFits
  · rw [h.allowed hnone]
    constructor
    · rintro ⟨id, hid, hr⟩
      exact ⟨id, hmore id hid, hr⟩
    · rintro ⟨id, hid, r, hr, hfits, hx⟩
      rcases hnew id hid with hid | hid
      · exact ⟨id, hid, r, hr, hfits, hx⟩
      · exact absurd hfits (hid r hr)

theorem congr (h : t.Knows rs c seen) (hseen : ∀ id, seen' id ↔ seen id) : t.Knows rs c seen' :=
  h.reject (fun id => (hseen id).2) fun id hid => .inl ((hseen id).1 hid)

/-- Neither need routes after the one that has been found. -/
theorem skip (h : t.Knows rs c seen) {m : Match} (hm : t.found? = some m)
    (hnew : ∀ id, seen' id → seen id ∨ m.route ≤ id) : t.Knows rs c seen' := by
  have hsome : t.found? ≠ none := by
    rw [hm]
    exact Option.some_ne_none m
  refine ⟨h.nodup, fun m' hm' => ?_, fun hnone => absurd hnone hsome,
    fun hnone => absurd hnone hsome⟩
  obtain rfl : m = m' := Option.some.inj (hm.symm.trans hm')
  obtain ⟨r, hr, haccepts, hparams, hleast⟩ := h.found m hm
  refine ⟨r, hr, haccepts, hparams, fun id hlt hid => ?_⟩
  rcases hnew id hid with hid | hid
  · exact hleast id hlt hid
  · exact absurd hlt (Nat.not_lt.2 hid)

/-- A route that accepts, and that comes before what has been found. -/
theorem accept (h : t.Knows rs c seen) {id : Nat} {r : CompiledRoute} (hr : rs[id]? = some r)
    (haccepts : r.Accepts c) (hopen : t.isOpen id)
    (hnew : ∀ id', seen' id' → seen id' ∨ id ≤ id') :
    ({ t with found? := some ⟨id, r.params c⟩ } : Tally).Knows rs c seen' := by
  refine ⟨h.nodup, fun m hm => ?_, by simp, by simp⟩
  obtain rfl := Option.some.inj hm
  refine ⟨r, hr, haccepts, rfl, fun id' hlt hid' r' hr' => ?_⟩
  have hid' : seen id' := (hnew id' hid').resolve_right (Nat.not_le.2 hlt)
  cases hfound : t.found? with
  | none => exact h.refused hfound id' hid' r' hr'
  | some m =>
      obtain ⟨-, -, -, -, hleast⟩ := h.found m hfound
      exact hleast id' (Nat.lt_trans hlt (isOpen_iff.1 hopen m hfound)) hid' r' hr'

/-- A route that fits but for its method. -/
theorem allow (h : t.Knows rs c seen) {id : Nat} {r : CompiledRoute} (hr : rs[id]? = some r)
    (hfits : r.Fits c) (hmethod : serves r.requirements.methods c.method = false) :
    (t.allow r.requirements.methods).Knows rs c fun id' => seen id' ∨ id' = id := by
  have hrefuses : ∀ r', rs[id]? = some r' → ¬ r'.Accepts c := by
    intro r' hr' haccepts
    obtain rfl : r = r' := Option.some.inj (hr.symm.trans hr')
    have hserves := haccepts.method
    rw [hmethod] at hserves
    cases hserves
  refine ⟨nodup_distinct _, fun m hm => ?_, fun hnone id' hid' => ?_, fun hnone x => ?_⟩
  · obtain ⟨r', hr', haccepts, hparams, hleast⟩ := h.found m hm
    refine ⟨r', hr', haccepts, hparams, fun id' hlt hid' => ?_⟩
    rcases hid' with hid' | rfl
    · exact hleast id' hlt hid'
    · exact hrefuses
  · rcases hid' with hid' | rfl
    · exact h.refused hnone id' hid'
    · exact hrefuses
  · have hallowed := h.allowed hnone x
    rw [Tally.allow, mem_distinct, List.mem_append, hallowed]
    constructor
    · rintro (⟨id', hid', hrest⟩ | hx)
      · exact ⟨id', .inl hid', hrest⟩
      · exact ⟨id, .inr rfl, r, hr, hfits, hx⟩
    · rintro ⟨id', hid' | rfl, r', hr', hfits', hx⟩
      · exact .inl ⟨id', hid', r', hr', hfits', hx⟩
      · obtain rfl : r = r' := Option.some.inj (hr.symm.trans hr')
        exact .inr hx

end Knows

end Tally

/-! ### What the search adds -/

/-- Trying routes. -/
theorem knows_tryRoutes {values : List (String × Option String)} {ids : List Nat}
    (hids : ids.Pairwise (· < ·))
    (hverdicts : ∀ id ∈ ids, ∃ r, rs[id]? = some r ∧ r.Says c (m.judge c values id))
    (h : t.Knows rs c seen) :
    (m.tryRoutes c values t ids).Knows rs c fun id => seen id ∨ id ∈ ids := by
  induction ids generalizing t seen with
  | nil => exact h.congr fun id => by simp
  | cons id ids ih =>
      obtain ⟨hfirst, hrest⟩ := List.pairwise_cons.1 hids
      obtain ⟨⟨r, hr, hsay⟩, hverdicts⟩ := List.forall_mem_cons.1 hverdicts
      -- the routes ascend, so all that are left come after the first one
      have hafter : ∀ id', seen id' ∨ id' ∈ id :: ids → seen id' ∨ id ≤ id' := by
        rintro id' (hid' | hid')
        · exact .inl hid'
        · rcases List.mem_cons.1 hid' with rfl | hid'
          · exact .inr (Nat.le_refl _)
          · exact .inr (Nat.le_of_lt (hfirst id' hid'))
      rw [tryRoutes]
      split
      case isTrue hopen =>
        generalize m.judge c values id = verdict at hsay
        cases hsay with
        | accepted haccepts => exact h.accept hr haccepts hopen hafter
        | wrongMethod hfits hmethod =>
            refine (ih hrest hverdicts (h.allow hr hfits hmethod)).congr fun id' => ?_
            rw [List.mem_cons, or_assoc]
        | rejected hmisfit =>
            refine (ih hrest hverdicts h).reject ?_ ?_
            · rintro id' (hid' | hid')
              · exact .inl hid'
              · exact .inr (List.mem_cons_of_mem id hid')
            · rintro id' (hid' | hid')
              · exact .inl (.inl hid')
              · rcases List.mem_cons.1 hid' with rfl | hid'
                · refine .inr fun r' hr' => ?_
                  obtain rfl : r = r' := Option.some.inj (hr.symm.trans hr')
                  exact hmisfit
                · exact .inl (.inr hid')
      case isFalse hclosed =>
        obtain ⟨found, hfound, hle⟩ := Tally.exists_of_not_isOpen hclosed
        exact h.skip hfound fun id' hid' => (hafter id' hid').imp_right hle.trans

/-- What a tally that has seen all routes says. -/
theorem Tally.answers_resolution (hmethods : ∀ r ∈ rs, r.requirements.methods ≠ [])
    (h : t.Knows rs c fun id => id < rs.length) : Answers rs c t.resolution := by
  have hlt : ∀ {id r}, rs[id]? = some r → id < rs.length := fun hr =>
    (List.getElem?_eq_some_iff.1 hr).1
  rw [resolution]
  cases hfound : t.found? with
  | some found =>
      obtain ⟨r, hr, haccepts, hparams, hleast⟩ := h.found found hfound
      have hmatch : found = ⟨found.route, r.params c⟩ := by rw [← hparams]
      rw [hmatch]
      exact .found found.route r hr haccepts fun id hid r' hr' => hleast id hid (hlt hr') r' hr'
  | none =>
      have hrefused : ∀ r ∈ rs, ¬ r.Accepts c := by
        intro r hr
        obtain ⟨id, hid⟩ := List.getElem?_of_mem hr
        exact h.refused hfound id (hlt hid) r hid
      have hallowed : ∀ x, x ∈ t.allowed ↔ ∃ r ∈ rs, r.Fits c ∧ x ∈ r.requirements.methods := by
        intro x
        rw [h.allowed hfound]
        constructor
        · rintro ⟨id, -, r, hr, hrest⟩
          exact ⟨r, List.mem_of_getElem? hr, hrest⟩
        · rintro ⟨r, hr, hrest⟩
          obtain ⟨id, hid⟩ := List.getElem?_of_mem hr
          exact ⟨id, hlt hid, r, hid, hrest⟩
      -- a route that fits has a method, so the list is empty only if none fits
      by_cases hempty : t.allowed = []
      · simp only [hempty, List.isEmpty_nil, if_true]
        refine .notFound fun r hr hfits => ?_
        obtain ⟨x, hx⟩ := List.exists_mem_of_ne_nil _ (hmethods r hr)
        have hmem := (hallowed x).2 ⟨r, hr, hfits, hx⟩
        rw [hempty] at hmem
        cases hmem
      · obtain ⟨x, hx⟩ := List.exists_mem_of_ne_nil _ hempty
        obtain ⟨r, hr, hfits, -⟩ := (hallowed x).1 hx
        simp only [List.isEmpty_iff, hempty, if_false]
        exact .methodNotAllowed t.allowed ⟨r, hr, hfits⟩ hrefused h.nodup hallowed

end Signpost.Matcher
