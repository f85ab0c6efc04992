import Signpost.Pipeline.Script
import Signpost.Proofs.Pipeline.Turns

/-!
# Pipelines — the nesting of middlewares

A middleware does something with a request, and then takes one of three courses (`Course`): it
hands a request on and waits for the answer, of which it makes its own; it answers by itself; or it
hands a request on, drops what comes of it, and answers by itself.  A middleware with such a conduct
(`Conduct`) may wait at any time, and decide by what it has seen.

A request visits the middlewares from the first one on, down to the first one that does not wait for
an answer (`Conduct.visits`).  The answer comes from there, or from the endpoint (`Visit.bottom`),
and goes up again through those that wait for it (`Visit.unwind`).

* `Conduct.run_job_call`: what a chain of middlewares does.
* `Conduct.isDescent_visits`: which middlewares are visited, and with which links.
* `Script.middleware_eq`: scripts are middlewares of this kind.
* `Pipeline.carries_process`: what becomes of a request that is sent through a pipeline.
* `Pipeline.nested_dispatch`: what a dispatch writes to the log, and its answer.
-/

namespace Signpost

/-! ### Conduct -/

/-- What a middleware makes of the rest of the chain. -/
inductive Course where
  /-- Hands the request on, waits for the answer, and makes its own of it. -/
  | pass (r : Request) (after : Reply → Job Reply)
  | decline (answer : Job Reply)
  /-- Hands the request on, and drops what comes of it. -/
  | abandon (r : Request) (answer : Job Reply)

namespace Course

/-- The request that a middleware hands on, if it does. -/
def handedOn? : Course → Option Request
  | .pass r _ | .abandon r _ => some r
  | .decline _               => none

/-- What a middleware does once it has its answer, if it waits for one. -/
def after? : Course → Option (Reply → Job Reply)
  | .pass _ after             => some after
  | .decline _ | .abandon _ _ => none

/-- What a middleware answers that does not wait for an answer. -/
def answer? : Course → Option (Job Reply)
  | .pass _ _                           => none
  | .decline answer | .abandon _ answer => some answer

theorem answer?_eq_none_iff {c : Course} : c.answer? = none ↔ c.after?.isSome := by
  cases c with
  | pass r after => exact ⟨fun _ => rfl, fun _ => rfl⟩
  | decline own | abandon r own => exact iff_of_false (by simp [answer?]) (by simp [after?])

/-- What a middleware does that takes the course. -/
def plan : Course → Plan .link
  | .pass r after     => .run r <| .await fun reply => .doing (after reply) .answer
  | .decline answer   => .doing answer .answer
  | .abandon r answer => .run r <| .drop <| .doing answer .answer

/-- The course, on a link. -/
def follow (next : Next Event) : Course → Work Event Reply
  | .pass r after     => (next.call r).whole.bind fun reply => (after reply).events
  | .decline answer   => answer.events
  | .abandon r answer => .after (next.call r).atOnce answer.events

theorem whole_doing_answer {h : Hold} (t : Job Reply) (held : h.Held) :
    ((Plan.doing t .answer).start held).whole = t.events :=
  (Plan.whole_doing t .answer held).trans (Work.bind_done _)

theorem whole_plan (c : Course) (next : Next Event) :
    (c.plan.start next).whole = c.follow next := by
  cases c with
  | pass r after =>
      calc ((pass r after).plan.start next).whole
        _ = .after (next.call r).atOnce ((next.call r).rest.bind fun reply =>
              ((Plan.doing (after reply) .answer).start ()).whole) := by
          rw [plan, Plan.start, Call.whole_after]
          rfl
        _ = (pass r after).follow next := by
          simp only [whole_doing_answer]
          exact (Work.bind_after _ _ _).symm
  | decline own => exact whole_doing_answer own _
  | abandon r own =>
      rw [plan, Plan.start, Call.whole_after, Plan.start, whole_doing_answer]
      rfl

end Course

/-- What a middleware does until it has decided on its course. -/
abbrev Conduct := Link → Request → Job Course

/-- What is known of a middleware that a request has come to. -/
structure Visit where
  link    : Link
  request : Request
  /-- What it does until it has decided on its course. -/
  entry   : List Effect
  course  : Course

namespace Conduct

/-- A middleware that conducts itself in this way, when it is polled. -/
def middleware (c : Conduct) : Middleware := fun r link => .defer <| .doing (c link r) Course.plan

/-- The middlewares that a request comes to, of those whose indices begin at `index`. -/
def visits : (index : Nat) → List Conduct → Request → List Visit
  | _, [], _          => []
  | index, c :: cs, r =>
    let link : Link := ⟨index + 1, cs.length⟩
    let (entry, course) := (c link r).run
    ⟨link, r, entry, course⟩ :: match course with
      | .pass r' _                => visits (index + 1) cs r'
      | .decline _ | .abandon _ _ => []

end Conduct

namespace Visit

/-- The request that comes out below the middlewares. -/
def handedOn (r : Request) (vs : List Visit) : Request :=
  vs.foldl (fun r v => v.course.handedOn?.getD r) r

/-- Where the answer comes from: a middleware that does not wait for one, or else the endpoint. -/
def bottom (endpoint : Handler) (r : Request) (vs : List Visit) : Job Reply :=
  (vs.findSome? fun v => v.course.answer?).getD (endpoint (handedOn r vs))

/-- The way up: what the middlewares that wait for the answer make of it, the last one first. -/
def unwind (vs : List Visit) (reply : Reply) : Job Reply :=
  (vs.reverse.filterMap fun v => v.course.after?).foldlM (fun reply after => after reply) reply

/-- The answer, from where it comes from all the way up. -/
def answer (endpoint : Handler) (r : Request) (vs : List Visit) : Job Reply :=
  (bottom endpoint r vs).bind (unwind vs)

/-- The request goes down to the last link of a chain of `n` middlewares. -/
def RunsLastLink (n : Nat) (vs : List Visit) : Prop :=
  vs.length = n ∧ ∀ v ∈ vs, v.course.handedOn?.isSome

instance (n : Nat) (vs : List Visit) : Decidable (RunsLastLink n vs) :=
  inferInstanceAs (Decidable (_ ∧ _))

/-! ### One more middleware above -/

variable {endpoint : Handler} {link : Link} {r q r' : Request} {entry : List Effect}
  {after : Reply → Job Reply} {own : Job Reply} {vs : List Visit}

theorem answer_nil : answer endpoint r [] = endpoint r := Work.bind_done (endpoint r)

theorem answer_decline : answer endpoint r [⟨link, q, entry, .decline own⟩] = own :=
  Work.bind_done own

theorem answer_abandon : answer endpoint r [⟨link, q, entry, .abandon r' own⟩] = own :=
  Work.bind_done own

theorem unwind_pass (reply : Reply) :
    unwind (⟨link, q, entry, .pass r' after⟩ :: vs) reply = (unwind vs reply).bind after := by
  unfold unwind
  rw [List.reverse_cons, List.filterMap_append, List.foldlM_append]
  exact congrArg _ (funext fun reply => bind_pure (after reply))

theorem answer_pass :
    answer endpoint r (⟨link, q, entry, .pass r' after⟩ :: vs) =
      (answer endpoint r' vs).bind after := by
  have hunwind : unwind (⟨link, q, entry, .pass r' after⟩ :: vs) =
      fun reply => (unwind vs reply).bind after := funext unwind_pass
  rw [answer, hunwind, answer, Work.bind_assoc]
  rfl

theorem runsLastLink_nil : RunsLastLink 0 [] := ⟨rfl, fun _ hv => absurd hv List.not_mem_nil⟩

theorem runsLastLink_pass {n : Nat} :
    RunsLastLink (n + 1) (⟨link, q, entry, .pass r' after⟩ :: vs) ↔ RunsLastLink n vs := by
  simp [RunsLastLink, Course.handedOn?]

theorem not_runsLastLink_decline {n : Nat} :
    ¬RunsLastLink n [⟨link, q, entry, .decline own⟩] := by
  intro h
  exact Bool.false_ne_true (h.2 _ (List.mem_singleton_self _))

theorem runsLastLink_abandon {n : Nat} :
    RunsLastLink (n + 1) [⟨link, q, entry, .abandon r' own⟩] ↔ n = 0 := by
  simp only [RunsLastLink, List.length_singleton, Nat.right_eq_add, List.forall_mem_singleton]
  exact and_iff_left rfl

end Visit

/-! ### What a chain does -/

namespace Next

variable {endpoint : Handler} {index : Nat}

/-- A chain leaves everything to its first middleware. -/
theorem call_cons (c : Conduct) (cs : List Conduct) (r : Request) :
    (chain endpoint index ((c :: cs).map Conduct.middleware)).call r =
      ⟨[.run index], (c ⟨index + 1, cs.length⟩ r).events.bind fun course =>
        course.follow (chain endpoint (index + 1) (cs.map Conduct.middleware))⟩ := by
  let next := chain endpoint (index + 1) (cs.map Conduct.middleware)
  have hlink : next.toLink = ⟨index + 1, cs.length⟩ := by
    cases cs with
    | nil => rfl
    | cons c cs => exact congrArg (Link.mk (index + 1) <| · + 1) (List.length_map _)
  calc (chain endpoint index ((c :: cs).map Conduct.middleware)).call r
    _ = ⟨[.run index], ((Plan.doing (c next.toLink r) Course.plan).start next).whole⟩ := rfl
    _ = _ := by simp only [hlink, Plan.whole_doing, Course.whole_plan, next]

/-- Nothing is written before somebody polls. -/
theorem effects_atOnce_call (cs : List Conduct) (r : Request) :
    ((chain endpoint index (cs.map Conduct.middleware)).call r).atOnce.filterMap Event.effect? =
      [] := by
  cases cs <;> rfl

end Next

namespace Course

/-- What is seen of the course by those who do not see the chain. -/
theorem job_follow (endpoint : Handler) (index : Nat) (cs : List Conduct) (c : Course) :
    (c.follow (Next.chain endpoint index (cs.map Conduct.middleware))).job =
      match c with
      | .pass r after =>
          ((Next.chain endpoint index (cs.map Conduct.middleware)).call r).whole.job.bind after
      | .decline own | .abandon _ own => own := by
  cases c with
  | pass r after =>
      rw [follow, Work.job, Work.restrict_bind]
      exact congrArg (Work.bind _) (funext fun reply => Work.job_events _)
  | decline own => exact Work.job_events own
  | abandon r own =>
      rw [follow, Work.job, Work.restrict_after, Next.effects_atOnce_call]
      exact Work.job_events own

end Course

namespace Conduct

open Visit

variable {endpoint : Handler} {index : Nat}

theorem job_call_cons (c : Conduct) (cs : List Conduct) (r : Request) :
    ((Next.chain endpoint index ((c :: cs).map middleware)).call r).whole.job =
      (c ⟨index + 1, cs.length⟩ r).bind fun course =>
        (course.follow (Next.chain endpoint (index + 1) (cs.map middleware))).job := by
  rw [Next.call_cons, Call.whole, Work.job, Work.restrict_after, Work.restrict_bind]
  exact congrArg (Work.bind · _) (Work.job_events _)

/-- **What a chain does**: the middlewares that are visited set in one after the other; the answer
comes from below, and goes up through those that wait for it. -/
theorem run_job_call (endpoint : Handler) (cs : List Conduct) (index : Nat) (r : Request) :
    ((Next.chain endpoint index (cs.map middleware)).call r).whole.job.run =
      ((visits index cs r).flatMap entry ++ (answer endpoint r (visits index cs r)).run.1,
       (answer endpoint r (visits index cs r)).run.2) := by
  induction cs generalizing index r with
  | nil =>
      rw [visits, answer_nil]
      exact congrArg Work.run (Work.job_events (endpoint r))
  | cons c cs ih =>
      rw [job_call_cons, Work.run_bind, visits]
      obtain ⟨es, course⟩ := (c ⟨index + 1, cs.length⟩ r).run
      cases course with
      | pass r' after =>
          simp only [Course.job_follow, Work.run_bind, ih, answer_pass, List.flatMap_cons,
            List.append_assoc]
      | decline own =>
          simp only [Course.job_follow, answer_decline, List.flatMap_cons, List.flatMap_nil,
            List.append_nil]
      | abandon r' own =>
          simp only [Course.job_follow, answer_abandon, List.flatMap_cons, List.flatMap_nil,
            List.append_nil]

end Conduct

/-! ### Which middlewares are visited -/

/-- The visits of a request to middlewares whose indices begin at `index`: from the first one on,
one after the other, down to the first one that does not wait for an answer. -/
structure IsDescent (index : Nat) (cs : List Conduct) (r : Request) (vs : List Visit) : Prop where
  /-- Each visit is to the next middleware, and with the link behind it. -/
  entered : ∀ (i : Nat) (v : Visit), vs[i]? = some v → ∃ c, cs[i]? = some c ∧
    v.link = ⟨index + i + 1, cs.length - i - 1⟩ ∧ (c v.link v.request).run = (v.entry, v.course)
  first : ∀ v : Visit, vs[0]? = some v → v.request = r
  /-- A middleware with another one below has handed it its request, and waits. -/
  handed : ∀ (i : Nat) (v w : Visit), vs[i]? = some v → vs[i + 1]? = some w →
    ∃ after, v.course = .pass w.request after
  /-- All middlewares are visited if all of them wait. -/
  complete : (∀ v ∈ vs, v.course.after?.isSome) → vs.length = cs.length

namespace IsDescent

variable {index : Nat} {c : Conduct} {cs : List Conduct} {r r' : Request} {entry : List Effect}
  {course : Course} {after : Reply → Job Reply} {vs : List Visit}

protected theorem nil : IsDescent index [] r [] where
  entered := fun _ _ h => nomatch h
  first := fun _ h => nomatch h
  handed := fun _ _ _ h => nomatch h
  complete := fun _ => rfl

/-- The last middleware. -/
theorem cut (h : (c ⟨index + 1, cs.length⟩ r).run = (entry, course)) (hcut : course.after? = none) :
    IsDescent index (c :: cs) r [⟨⟨index + 1, cs.length⟩, r, entry, course⟩] where
  entered := by
    intro i v hv
    cases i with
    | zero =>
        obtain rfl := Option.some.inj hv
        exact ⟨c, rfl, rfl, h⟩
    | succ i => cases hv
  first := by
    intro v hv
    obtain rfl := Option.some.inj hv
    rfl
  handed := by
    intro i v w _ hw
    cases hw
  complete := by
    intro hall
    have hsome := hall _ (List.mem_singleton_self _)
    rw [hcut] at hsome
    cases hsome

/-- A middleware that waits for those below. -/
theorem pass (h : (c ⟨index + 1, cs.length⟩ r).run = (entry, .pass r' after))
    (hvs : IsDescent (index + 1) cs r' vs) :
    IsDescent index (c :: cs) r (⟨⟨index + 1, cs.length⟩, r, entry, .pass r' after⟩ :: vs) where
  entered := by
    intro i v hv
    cases i with
    | zero =>
        obtain rfl := Option.some.inj hv
        exact ⟨c, rfl, rfl, h⟩
    | succ i =>
        obtain ⟨c', hc', hlink, hrun⟩ := hvs.entered i v hv
        refine ⟨c', hc', ?_, hrun⟩
        rw [hlink, List.length_cons, Nat.add_sub_add_right, Nat.add_right_comm index 1 i,
          Nat.add_assoc index i 1]
  first := by
    intro v hv
    obtain rfl := Option.some.inj hv
    rfl
  handed := by
    intro i v w hv hw
    cases i with
    | zero =>
        obtain rfl := Option.some.inj hv
        exact ⟨after, by rw [hvs.first w hw]⟩
    | succ i => exact hvs.handed i v w hv hw
  complete := by
    intro hall
    have hlength := hvs.complete fun v hv => hall v (List.mem_cons_of_mem _ hv)
    rw [List.length_cons, List.length_cons, hlength]

end IsDescent

theorem Conduct.isDescent_visits (index : Nat) (cs : List Conduct) (r : Request) :
    IsDescent index cs r (visits index cs r) := by
  induction cs generalizing index r with
  | nil => exact .nil
  | cons c cs ih =>
      rw [visits]
      cases hrun : (c ⟨index + 1, cs.length⟩ r).run with | mk es course
      cases course with
      | pass r' after => exact .pass hrun (ih (index + 1) r')
      | decline own => exact .cut hrun rfl
      | abandon r' own => exact .cut hrun rfl

namespace Visit

variable {endpoint : Handler} {r : Request} {vs : List Visit}

/-- The answer comes from the endpoint if all middlewares wait. -/
theorem bottom_of_all (h : ∀ v ∈ vs, v.course.after?.isSome) :
    bottom endpoint r vs = endpoint (handedOn r vs) := by
  have hnone : vs.findSome? (fun v => v.course.answer?) = none :=
    List.findSome?_eq_none_iff.2 fun v hv => Course.answer?_eq_none_iff.2 (h v hv)
  rw [bottom, hnone]
  rfl

/-- The answer comes from the last middleware if it does not wait. -/
theorem bottom_of_last {index : Nat} {cs : List Conduct} (hvs : IsDescent index cs r vs) {v : Visit}
    {own : Job Reply} (hv : vs.getLast? = some v) (hown : v.course.answer? = some own) :
    bottom endpoint r vs = own := by
  obtain ⟨us, rfl⟩ := List.getLast?_eq_some_iff.1 hv
  -- those above wait, since they have handed the request on
  have habove : us.findSome? (fun v => v.course.answer?) = none := by
    refine List.findSome?_eq_none_iff.2 fun u hu => ?_
    obtain ⟨i, hi, rfl⟩ := List.getElem_of_mem hu
    have hnext : i + 1 < (us ++ [v]).length := by
      rw [List.length_append]
      exact Nat.succ_lt_succ hi
    have hu : (us ++ [v])[i]? = some us[i] := by
      rw [List.getElem?_append_left hi, List.getElem?_eq_getElem hi]
    obtain ⟨after, hcourse⟩ := hvs.handed i us[i] _ hu (List.getElem?_eq_getElem hnext)
    rw [hcourse]
    rfl
  rw [bottom, List.findSome?_append, habove, List.findSome?_singleton, hown]
  rfl

/-- Middlewares that only pass leave the answer as it is. -/
theorem run_unwind_of_pass {reply : Reply}
    (h : ∀ v ∈ vs, ∀ after, v.course.after? = some after → ∀ reply, (after reply).run.2 = reply) :
    (unwind vs reply).run.2 = reply := by
  have hafter : ∀ after ∈ vs.reverse.filterMap (fun v => v.course.after?),
      ∀ reply, (after reply).run.2 = reply := by
    intro after hafter
    obtain ⟨v, hv, hcourse⟩ := List.mem_filterMap.1 hafter
    exact h v (List.mem_reverse.1 hv) after hcourse
  unfold unwind
  generalize vs.reverse.filterMap (fun v => v.course.after?) = afters at hafter
  induction afters generalizing reply with
  | nil => rfl
  | cons after afters ih =>
      obtain ⟨hpass, hafters⟩ := List.forall_mem_cons.1 hafter
      rw [List.foldlM_cons]
      simp only [Bind.bind, Work.run_bind, hpass]
      exact ih hafters

end Visit

/-! ### Scripts -/

namespace Script

/-- The course that a script takes. -/
def course (s : Script) (r : Request) : Course :=
  match s.deed with
  | .pass | .echo => .pass r s.leave
  | .short        => .decline (s.leave s.reply)
  | .fail         => .decline (s.leave (.error s.error))
  | .tag          => .pass { r with headers := r.headers.append "x-tag" s.id } s.leave
  | .wrap         => .pass r fun reply => s.leave (reply.map fun response =>
      { response with headers := response.headers.append "x-wrap" s.id })
  | .replace      => .pass r fun _ => s.leave s.reply
  | .recover      => .pass r fun reply => match reply with
      | .ok response => s.leave (.ok response)
      | .error e     => s.leave (.ok (recovered e))
  | .failAfter    => .pass r fun _ => s.leave (.error s.error)
  | .abandon      => .abandon r (s.leave s.reply)

/-- How a script conducts itself. -/
def conduct (s : Script) : Conduct := fun link r => do
  s.enter link
  return s.course r

/-- A script follows its course. -/
theorem act_eq_plan (s : Script) (r : Request) : s.act r = (s.course r).plan := by
  cases h : s.deed with
  | pass | echo | short | fail | tag | replace | failAfter | abandon | wrap =>
      simp only [act, course, h, Course.plan]
      rfl
  | recover =>
      simp only [act, course, h, Course.plan]
      congr 2
      funext reply
      cases reply <;> rfl

/-- **Scripts are such middlewares.** -/
theorem middleware_eq (s : Script) : s.middleware = s.conduct.middleware := by
  funext r link
  have hdoing : ∀ t : Job Unit, Plan.doing t (fun _ => (s.course r).plan) =
      Plan.doing (t.bind fun _ => .done (s.course r)) Course.plan := by
    intro t
    induction t with
    | done a => rfl
    | wait t ih => exact congrArg Plan.wait ih
    | act e t ih => exact congrArg (Plan.act e) ih
  simp only [middleware, Conduct.middleware, act_eq_plan, hdoing]
  rfl

end Script

/-! ### A request on its way -/

open Visit in
/-- Where the answer comes from, and what it becomes on the way up. -/
theorem Conduct.exists_below (cs : List Conduct) (endpoint : Handler) (r : Request) :
    let vs := visits 0 cs r
    ∃ below : Job Reply,
      ((∀ v ∈ vs, v.course.after?.isSome) → below = endpoint (handedOn r vs)) ∧
      (∀ v own, vs.getLast? = some v → v.course.answer? = some own → below = own) ∧
      ((⟨cs.map middleware⟩ : Pipeline).process r endpoint).run =
        (vs.flatMap entry ++ below.run.1 ++ (unwind vs below.run.2).run.1,
          (unwind vs below.run.2).run.2) := by
  intro vs
  refine ⟨bottom endpoint r vs, bottom_of_all,
    fun v own => bottom_of_last (isDescent_visits 0 cs r), ?_⟩
  have hrun := run_job_call endpoint cs 0 r
  rw [answer, Work.run_bind, ← List.append_assoc] at hrun
  exact hrun

/-- What becomes of a request that is sent through middlewares to a handler. -/
structure Pipeline.Carries (ms : List Middleware) (endpoint : Handler) (r : Request)
    (job : Job Reply) : Prop where
  /-- Without middlewares, the handler answers it. -/
  direct : ms = [] → job = endpoint r
  /-- The first middleware gets it, with the link to the rest of the chain. -/
  first : ∀ m rest, ms = m :: rest →
    job = ((m r ⟨1, rest.length⟩).start (Next.chain endpoint 1 rest)).whole.job
  /-- Middlewares that wait, or answer, enter one after the other, down to the one that answers, or
  else to the handler; and they leave in the reverse order. -/
  nested : ∀ cs : List Conduct, ms = cs.map Conduct.middleware →
    let vs := Conduct.visits 0 cs r
    IsDescent 0 cs r vs ∧ ∃ below : Job Reply,
      ((∀ v ∈ vs, v.course.after?.isSome) → below = endpoint (Visit.handedOn r vs)) ∧
      (∀ v own, vs.getLast? = some v → v.course.answer? = some own → below = own) ∧
      job.run.2 = (Visit.unwind vs below.run.2).run.2 ∧
      Effect.notes job.run.1 = Effect.notes (vs.flatMap Visit.entry) ++
        Effect.notes below.run.1 ++ Effect.notes (Visit.unwind vs below.run.2).run.1

/-- **The job of a request** carries it through the pipeline. -/
theorem Pipeline.carries_process (p : Pipeline) (endpoint : Handler) (r : Request) :
    Carries p.middlewares endpoint r (p.process r endpoint) where
  direct := by
    intro h
    rw [process, way, h]
    exact Work.job_events (endpoint r)
  first := by
    intro m rest h
    have hlink : (Next.chain endpoint 1 rest).toLink = ⟨1, rest.length⟩ := by
      cases rest <;> rfl
    rw [process, way, h, ← hlink]
    rfl
  nested := by
    intro cs h vs
    obtain ⟨below, hall, hlast, hrun⟩ := Conduct.exists_below cs endpoint r
    obtain rfl : p = ⟨cs.map Conduct.middleware⟩ := congrArg Pipeline.mk h
    refine ⟨Conduct.isDescent_visits 0 cs r, below, hall, hlast, ?_, ?_⟩ <;> rw [hrun]
    rw [Effect.notes_append, Effect.notes_append]

/-! ### A dispatch -/

open Visit in
/-- **Middlewares nest.**  A dispatch enters the middlewares one after the other, down to the first
one that does not wait for an answer; there, or at the endpoint if all wait, the answer is made,
once; and the middlewares above are left in the reverse order, each with what it makes of the
answer. -/
theorem Pipeline.nested_dispatch (cs : List Conduct) (endpoint : Handler) (r : Request) :
    let d := (⟨cs.map Conduct.middleware⟩ : Pipeline).dispatch r endpoint
    let vs := Conduct.visits 0 cs r
    IsDescent 0 cs r vs ∧ ∃ below : Job Reply,
      ((∀ v ∈ vs, v.course.after?.isSome) → below = endpoint (handedOn r vs)) ∧
      (∀ v own, vs.getLast? = some v → v.course.answer? = some own → below = own) ∧
      ((∀ v ∈ vs, ∀ after, v.course.after? = some after → ∀ reply, (after reply).run.2 = reply) →
        (unwind vs below.run.2).run.2 = below.run.2) ∧
      ∃ last turn o, d.turn? last = some turn ∧ turn.outcome? = some o ∧
        o.reply = (unwind vs below.run.2).run.2 ∧
        ∀ turns, last < turns → d.log turns = Effect.notes (vs.flatMap entry) ++
          Effect.notes below.run.1 ++ Effect.notes (unwind vs below.run.2).run.1 := by
  intro d vs
  obtain ⟨below, hall, hlast, hrun⟩ := Conduct.exists_below cs endpoint r
  refine ⟨Conduct.isDescent_visits 0 cs r, below, hall, hlast, run_unwind_of_pass, ?_⟩
  let way := (⟨cs.map Conduct.middleware⟩ : Pipeline).way r endpoint
  have hjob : way.job.run = (way.run.1.filterMap Event.effect?, way.run.2) := Work.run_restrict _ _
  have hway : way.job.run = _ := hrun
  obtain ⟨turn, hturn, houtcome⟩ := Dispatch.exists_outcome .pending way []
  refine ⟨way.waits, turn, _, hturn, houtcome, ?_, fun turns hturns => ?_⟩
  · calc way.run.2
      _ = way.job.run.2 := by rw [hjob]
      _ = (unwind vs below.run.2).run.2 := by rw [hway]
  · calc d.log turns
      _ = Event.notes way.run.1 := Dispatch.log_of_waits_lt hturns
      _ = Effect.notes way.job.run.1 := by rw [hjob, Event.notes]
      _ = Effect.notes (vs.flatMap entry) ++ Effect.notes below.run.1 ++
          Effect.notes (unwind vs below.run.2).run.1 := by
        rw [hway, Effect.notes_append, Effect.notes_append]

end Signpost
