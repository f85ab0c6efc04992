import Signpost.Proofs.Pipeline.Histories

/-!
# Pipelines — what middlewares leave to others

A middleware may leave its link to others, or the call that running the link has returned, and then
more can happen to a dispatch than in its own turns.  Whatever happens does so in one go: in a turn,
or when a link is run.  A property of such goes holds of everything that is ever done with a link or
a call (`Kept.Always`) once it holds of what each plan does by itself, since a plan can only do the
rest through its link (`Plan.always_start`).

Two properties are of interest: that the end of the chain is reached just when its last link is run
(`EndsAt`), and that nothing is left to others, which so holds of the middlewares that use their
link up (`Middleware.SpendsLink`).

* `Next.always_chain`: what holds of all that happens in a chain.
* `Dispatch.reachEnd_mem_trace_iff`: a dispatch reaches the end of the chain by its last link.
* `Dispatch.kept_after_eq_nil`: nothing is left to others by middlewares that use their link up.
-/

namespace Signpost

variable {Q : List Event → Prop}

/-- `Q` holds of all that happens in one go, whatever is done with what has been left to others. -/
inductive Kept.Always (Q : List Event → Prop) : Kept Event → Prop
  | link {next : Next Event} (now : ∀ r, Q (next.call r).atOnce)
      (left : ∀ r kept, .keep kept ∈ (next.call r).atOnce → Always Q kept)
      (rest : ∀ r, Always Q (.call (next.call r).rest)) : Always Q (.link next)
  | call {t : Work Event Reply} (now : Q t.poll.1)
      (left : ∀ kept, .keep kept ∈ t.poll.1 → Always Q kept)
      (rest : ∀ t', t.poll.2 = .pending t' → Always Q (.call t')) : Always Q (.call t)

/-- Things that happen one after the other have the property if each has it. -/
structure IsClosed (Q : List Event → Prop) : Prop where
  nil    : Q []
  append : ∀ {es es' : List Event}, Q es → Q es' → Q (es ++ es')

/-- The property holds of some events, and of what they leave to others. -/
structure Holds (Q : List Event → Prop) (es : List Event) : Prop where
  now  : Q es
  left : ∀ kept, .keep kept ∈ es → kept.Always Q

/-- The property holds of all that happens in a call. -/
structure Call.Always (Q : List Event → Prop) (c : Call Event) : Prop where
  atOnce : Holds Q c.atOnce
  rest   : (Kept.call c.rest).Always Q

/-- The property holds of all that is done with what is in hand. -/
def Hold.Always (Q : List Event → Prop) : (h : Hold) → h.Held → Prop
  | .link, next    => (Kept.link next).Always Q
  | .call, rest    => (Kept.call rest).Always Q
  | .nothing, _    => True

/-- Whether a plan leaves to others what is in hand. -/
def Plan.Keeps : {h : Hold} → Plan h → Prop
  | _, .answer _          => False
  | _, .wait rest         => rest.Keeps
  | _, .act _ rest        => rest.Keeps
  | _, .defer rest        => rest.Keeps
  | _, .run _ rest        => rest.Keeps
  | _, .await rest        => ∃ reply, (rest reply).Keeps
  | _, .poll ready pending => (∃ reply, (ready reply).Keeps) ∨ pending.Keeps
  | _, .drop rest         => rest.Keeps
  | _, .keep _            => True

/-- A middleware uses its link up, or drops it, before it finishes: it leaves to others neither the
link nor what has become of it. -/
def Middleware.SpendsLink (m : Middleware) : Prop := ∀ r link, ¬(m r link).Keeps

/-! ### Goes -/

namespace Work

variable {ε : Type}

theorem poll_after (es : List ε) (t : Work ε Reply) :
    (after es t).poll = (es ++ t.poll.1, t.poll.2) := by
  induction es with
  | nil => rfl
  | cons e es ih =>
      rw [after, List.foldr_cons, poll]
      exact congrArg (fun x => (e :: x.1, x.2)) ih

theorem poll_bind (t : Work ε Reply) (f : Reply → Work ε Reply) :
    (t.bind f).poll = match t.poll.2 with
      | .ready reply  => (t.poll.1 ++ (f reply).poll.1, (f reply).poll.2)
      | .pending rest => (t.poll.1, .pending (rest.bind f)) := by
  induction t with
  | done reply => rfl
  | wait t _ => rfl
  | act e t ih =>
      rw [bind, poll, ih, poll]
      cases t.poll.2 <;> rfl

end Work

namespace Holds

variable {es es' : List Event}

theorem nil (hQ : IsClosed Q) : Holds Q [] := ⟨hQ.nil, fun _ h => nomatch h⟩

theorem append (hQ : IsClosed Q) (h : Holds Q es) (h' : Holds Q es') : Holds Q (es ++ es') where
  now := hQ.append h.now h'.now
  left := fun kept hkept => (List.mem_append.1 hkept).elim (h.left kept) (h'.left kept)

theorem single {e : Event} (h : Q [e]) (hkeep : ∀ kept, e ≠ .keep kept) : Holds Q [e] where
  now := h
  left := fun kept hkept => absurd (List.mem_singleton.1 hkept).symm (hkeep kept)

end Holds

namespace Kept.Always

variable {t : Work Event Reply}

theorem polled (h : (Kept.call t).Always Q) :
    Holds Q t.poll.1 ∧ ∀ t', t.poll.2 = .pending t' → (Kept.call t').Always Q := by
  cases h with
  | call now left rest => exact ⟨⟨now, left⟩, rest⟩

theorem called {next : Next Event} (h : (Kept.link next).Always Q) (r : Request) :
    (next.call r).Always Q := by
  cases h with
  | link now left rest => exact ⟨⟨now r, left r⟩, rest r⟩

theorem of_called {next : Next Event} (h : ∀ r, (next.call r).Always Q) :
    (Kept.link next).Always Q :=
  .link (fun r => (h r).atOnce.now) (fun r => (h r).atOnce.left) fun r => (h r).rest

theorem done (hQ : IsClosed Q) (reply : Reply) : (Kept.call (.done reply)).Always Q :=
  .call hQ.nil (fun _ h => nomatch h) fun _ h => nomatch h

theorem wait (hQ : IsClosed Q) (h : (Kept.call t).Always Q) : (Kept.call (.wait t)).Always Q := by
  refine .call hQ.nil (fun _ h => nomatch h) fun t' ht' => ?_
  obtain rfl := Work.Progress.pending.inj ht'
  exact h

theorem after (hQ : IsClosed Q) {es : List Event} (hes : Holds Q es) (h : (Kept.call t).Always Q) :
    (Kept.call (.after es t)).Always Q := by
  obtain ⟨hpoll, hrest⟩ := h.polled
  obtain ⟨now, left⟩ := hes.append hQ hpoll
  refine .call ?_ ?_ ?_ <;> rw [Work.poll_after]
  · exact now
  · exact left
  · exact hrest

theorem bind (hQ : IsClosed Q) {f : Reply → Work Event Reply} (h : (Kept.call t).Always Q)
    (hf : ∀ reply, (Kept.call (f reply)).Always Q) : (Kept.call (t.bind f)).Always Q := by
  generalize hk : Kept.call t = k at h
  induction h generalizing t with
  | link => cases hk
  | call now left rest _ ih =>
      obtain rfl := Kept.call.inj hk
      have hpoll := t.poll_bind f
      cases hprogress : t.poll.2 with
      | ready reply =>
          obtain ⟨hfirst, hrest⟩ := (hf reply).polled
          simp only [hprogress] at hpoll
          obtain ⟨now, left⟩ := Holds.append hQ ⟨now, left⟩ hfirst
          refine .call ?_ ?_ ?_ <;> rw [hpoll]
          · exact now
          · exact left
          · exact hrest
      | pending t' =>
          simp only [hprogress] at hpoll
          refine .call ?_ ?_ ?_ <;> rw [hpoll]
          · exact now
          · exact left
          · intro t'' ht''
            obtain rfl := Work.Progress.pending.inj ht''
            exact ih t' hprogress rfl

end Kept.Always

/-! ### Plans and chains -/

theorem Call.Always.after (hQ : IsClosed Q) {c : Call Event} {es : List Event} (hes : Holds Q es)
    (h : c.Always Q) : (c.after es).Always Q := ⟨hes.append hQ h.atOnce, h.rest⟩

theorem Call.Always.whole (hQ : IsClosed Q) {c : Call Event} (h : c.Always Q) :
    (Kept.call c.whole).Always Q := .after hQ h.atOnce h.rest

/-- A property of what others may do, and of the effects of jobs. -/
structure IsOpen (Q : List Event → Prop) : Prop extends IsClosed Q where
  effect : ∀ e, Q [.effect e]

/-- **What a plan does** by itself has the property, and it can do the rest only through its
link. -/
theorem Plan.always_start (hQ : IsOpen Q) {h : Hold} (p : Plan h)
    (hkeep : p.Keeps → ∀ kept, Q [.keep kept]) {held : h.Held} (hheld : h.Always Q held) :
    (p.start held).Always Q := by
  have hclosed := hQ.toIsClosed
  induction p with
  | answer reply => exact ⟨.nil hclosed, .done hclosed reply⟩
  | wait rest ih => exact ⟨.nil hclosed, .wait hclosed ((ih hkeep hheld).whole hclosed)⟩
  | act e rest ih => exact (ih hkeep hheld).after hclosed (.single (hQ.effect e) nofun)
  | defer rest ih => exact ⟨.nil hclosed, (ih hkeep hheld).whole hclosed⟩
  | run r rest ih =>
      have hcall := Kept.Always.called hheld r
      exact (ih hkeep hcall.rest).after hclosed hcall.atOnce
  | await rest ih =>
      refine ⟨.nil hclosed, .bind hclosed hheld fun reply => ?_⟩
      exact (ih reply (fun h => hkeep ⟨reply, h⟩) trivial).whole hclosed
  | poll ready pending ihready ihpending =>
      obtain ⟨hpoll, hrest⟩ := Kept.Always.polled hheld
      rw [start]
      refine ⟨.nil hclosed, .after hclosed hpoll ?_⟩
      cases hprogress : Work.poll held |>.2 with
      | ready reply =>
          exact (ihready reply (fun h => hkeep (.inl ⟨reply, h⟩)) trivial).whole hclosed
      | pending rest =>
          exact (ihpending (fun h => hkeep (.inr h)) (hrest rest hprogress)).whole hclosed
  | drop rest ih => exact ih (fun h => hkeep h) trivial
  | @keep h rest ih =>
      have hleave : Holds Q (h.leave held) := by
        cases h with
        | link | call =>
            refine ⟨hkeep trivial _, fun kept hkept => ?_⟩
            obtain rfl := Event.keep.inj (List.mem_singleton.1 hkept)
            exact hheld
        | nothing => exact .nil hclosed
      exact (ih (fun _ => hkeep trivial) trivial).after hclosed hleave

/-- A job has only effects. -/
theorem Kept.Always.events (hQ : IsOpen Q) (t : Job Reply) : (Kept.call t.events).Always Q := by
  have hclosed := hQ.toIsClosed
  induction t with
  | done reply => exact .done hclosed reply
  | wait t ih => exact .wait hclosed ih
  | act e t ih => exact .after hclosed (.single (hQ.effect e) nofun) ih

/-- **What happens in a chain** has the property, if the runs of its links have it. -/
theorem Next.always_chain (hQ : IsOpen Q) (endpoint : Handler) {last : Nat} {index : Nat}
    {ms : List Middleware} (hlast : index + ms.length = last) (hrun : ∀ i < last, Q [.run i])
    (hend : Q [.run last, .reachEnd])
    (hkeep : ∀ m ∈ ms, ∀ r link, (m r link).Keeps → ∀ kept, Q [.keep kept]) :
    (Kept.link (chain endpoint index ms)).Always Q := by
  have hclosed := hQ.toIsClosed
  induction ms generalizing index with
  | nil =>
      obtain rfl : index = last := hlast
      refine .of_called fun r => ⟨⟨hend, fun kept hkept => ?_⟩, .events hQ (endpoint r)⟩
      simp [call, chain, Call.after] at hkept
  | cons m ms ih =>
      obtain ⟨hm, hms⟩ := List.forall_mem_cons.1 hkeep
      have hrest : index + 1 + ms.length = last := by
        rw [← hlast, List.length_cons]
        omega
      have hnext := ih hrest hms
      refine .of_called fun r => ?_
      let next := chain endpoint (index + 1) ms
      have hstart := Plan.always_start hQ (m r next.toLink) (hm r next.toLink) hnext
      have hindex : index < last := by
        rw [← hlast, List.length_cons]
        omega
      exact hstart.after hclosed (.single (hrun index hindex) nofun)

/-! ### Dispatches -/

namespace Dispatch

variable {d : Dispatch} {m : Move}

/-- The property holds of all that can happen to a dispatch. -/
structure Always (Q : List Event → Prop) (d : Dispatch) : Prop where
  rest : ∀ t, d.rest? = some t → (Kept.call t).Always Q
  kept : ∀ kept ∈ d.kept, kept.Always Q

theorem Always.events (hQ : IsClosed Q) (hd : d.Always Q) (m : Move) : Holds Q (d.events m) := by
  cases m with
  | poll =>
      rw [Dispatch.events]
      cases h : d.rest? with
      | none => exact .nil hQ
      | some t => exact (hd.rest t h).polled.1
  | pollKept i =>
      rw [Dispatch.events]
      split
      · next t h => exact (hd.kept _ (List.mem_of_getElem? h)).polled.1
      · exact .nil hQ
  | runKept i r =>
      rw [Dispatch.events]
      split
      · next next h => exact ((hd.kept _ (List.mem_of_getElem? h)).called r).atOnce
      · exact .nil hQ

theorem Always.left (hd : d.Always Q) (m : Move) : ∀ kept ∈ d.left m, kept.Always Q := by
  cases m with
  | poll => exact hd.kept
  | pollKept i =>
      rw [Dispatch.left]
      split
      · next t h =>
          have ht := (hd.kept _ (List.mem_of_getElem? h)).polled.2
          split
          · next rest hrest =>
              intro kept hkept
              rcases List.mem_or_eq_of_mem_set hkept with hkept | rfl
              · exact hd.kept kept hkept
              · exact ht rest hrest
          · exact fun kept hkept => hd.kept kept (List.mem_of_mem_eraseIdx hkept)
      · exact hd.kept
  | runKept i r =>
      rw [Dispatch.left]
      split
      · next next h =>
          intro kept hkept
          rcases List.mem_or_eq_of_mem_set hkept with hkept | rfl
          · exact hd.kept kept hkept
          · exact ((hd.kept _ (List.mem_of_getElem? h)).called r).rest
      · exact hd.kept

theorem mem_filterMap_kept? {es : List Event} {kept : Kept Event} :
    kept ∈ es.filterMap Event.kept? ↔ .keep kept ∈ es := by
  rw [List.mem_filterMap]
  constructor
  · rintro ⟨e, he, hkept⟩
    cases e with
    | keep kept' =>
        obtain rfl := Option.some.inj hkept
        exact he
    | effect | run | reachEnd => cases hkept
  · exact fun h => ⟨_, h, rfl⟩

/-- **Each move keeps the property.** -/
theorem Always.move (hQ : IsClosed Q) (hd : d.Always Q) (m : Move) : (d.move m).Always Q := by
  have hevents := hd.events hQ m
  rcases d.move_cases m with ⟨rfl, t, ht⟩ | ⟨hmove, -, -⟩
  · obtain ⟨d', o?, hpolls, hmove, -, hpoll, -⟩ := exists_polls ht
    rw [hpoll] at hevents
    have hkept : ∀ kept ∈ d.kept ++ t.poll.1.filterMap Event.kept?, kept.Always Q := by
      intro kept hmem
      rcases List.mem_append.1 hmem with hmem | hmem
      · exact hd.kept kept hmem
      · exact hevents.left kept (mem_filterMap_kept?.1 hmem)
    rw [hmove]
    cases hpolls with
    | pending h =>
        refine ⟨fun t' ht' => ?_, hkept⟩
        obtain rfl := Option.some.inj ht'
        exact (hd.rest t ht).polled.2 _ h
    | ready h => exact ⟨fun _ h => (nomatch h), hkept⟩
  · rw [hmove]
    refine ⟨hd.rest, fun kept hmem => ?_⟩
    rcases List.mem_append.1 hmem with hmem | hmem
    · exact hd.left m kept hmem
    · exact hevents.left kept (mem_filterMap_kept?.1 hmem)

theorem Always.after (hQ : IsClosed Q) (hd : d.Always Q) (moves : List Move) :
    (d.after moves).Always Q ∧ Q (d.trace moves) := by
  induction moves generalizing d with
  | nil => exact ⟨hd, hQ.nil⟩
  | cons m moves ih =>
      obtain ⟨hafter, htrace⟩ := ih (hd.move hQ m)
      exact ⟨hafter, hQ.append (hd.events hQ m).now htrace⟩

theorem always_dispatch (hQ : IsOpen Q) (p : Pipeline) (r : Request) (endpoint : Handler)
    (hrun : ∀ i < p.size, Q [.run i]) (hend : Q [.run p.size, .reachEnd])
    (hkeep : ∀ m ∈ p.middlewares, ∀ r link, (m r link).Keeps → ∀ kept, Q [.keep kept]) :
    (p.dispatch r endpoint).Always Q where
  rest := by
    intro t ht
    obtain rfl := Option.some.inj ht
    have hchain := Next.always_chain hQ endpoint (Nat.zero_add p.middlewares.length) hrun hend hkeep
    exact (hchain.called r).whole hQ.toIsClosed
  kept := fun _ h => nomatch h

end Dispatch

/-! ### The end of the chain -/

/-- The end of the chain is reached just when the link with the index `last` is run. -/
def EndsAt (last : Nat) (es : List Event) : Prop := .reachEnd ∈ es ↔ .run last ∈ es

theorem isOpen_endsAt (last : Nat) : IsOpen (EndsAt last) where
  nil := iff_of_false List.not_mem_nil List.not_mem_nil
  append := by
    intro es es' h h'
    rw [EndsAt, List.mem_append, List.mem_append]
    exact or_congr h h'
  effect := fun e => iff_of_false (by simp) (by simp)

/-- **A dispatch reaches the end of the chain** just when somebody runs the last link, whatever the
middlewares do. -/
theorem Dispatch.reachEnd_mem_trace_iff (p : Pipeline) (r : Request) (endpoint : Handler)
    (moves : List Move) : .reachEnd ∈ (p.dispatch r endpoint).trace moves ↔
      .run p.size ∈ (p.dispatch r endpoint).trace moves := by
  have hQ := isOpen_endsAt p.size
  have hd : (p.dispatch r endpoint).Always (EndsAt p.size) := by
    refine always_dispatch hQ p r endpoint (fun i hi => iff_of_false (by simp) ?_)
      (iff_of_true (by simp) (by simp)) (fun _ _ _ _ _ _ => iff_of_false (by simp) (by simp))
    simpa using Nat.ne_of_gt hi
  exact (hd.after hQ.toIsClosed moves).2

/-! ### Middlewares that use their link up -/

/-- Nothing is left to others. -/
def KeepsNothing (es : List Event) : Prop := ∀ kept, .keep kept ∉ es

theorem isOpen_keepsNothing : IsOpen KeepsNothing where
  nil := fun _ => List.not_mem_nil
  append := fun h h' kept hkept => (List.mem_append.1 hkept).elim (h kept) (h' kept)
  effect := fun e kept => by simp

namespace Dispatch

variable {p : Pipeline} {r : Request} {endpoint : Handler}

/-- **Nothing is left to others** by middlewares that use their link up. -/
theorem kept_after_eq_nil (hspends : ∀ m ∈ p.middlewares, Middleware.SpendsLink m)
    (moves : List Move) : ((p.dispatch r endpoint).after moves).kept = [] := by
  have hclosed := isOpen_keepsNothing.toIsClosed
  have hd : (p.dispatch r endpoint).Always KeepsNothing :=
    always_dispatch isOpen_keepsNothing p r endpoint (fun i _ kept => by simp)
      (fun kept => by simp) fun m hm r link h => absurd h (hspends m hm r link)
  induction moves using List.reverseRecOn with
  | nil => rfl
  | append_singleton moves m ih =>
      have hevents := ((hd.after hclosed moves).1.events hclosed m).now
      have hnone : ∀ es : List Event, KeepsNothing es → es.filterMap Event.kept? = [] :=
        fun es h => List.eq_nil_iff_forall_not_mem.2 fun kept hkept =>
          h kept (mem_filterMap_kept?.1 hkept)
      rw [after_concat]
      rcases ((p.dispatch r endpoint).after moves).move_cases m with ⟨rfl, t, ht⟩ | ⟨hmove, -, -⟩
      · obtain ⟨d', o?, hpolls, hmove, -, hpoll, -⟩ := exists_polls ht
        rw [hpoll] at hevents
        rw [hmove]
        cases hpolls <;> simp only [ih, hnone _ hevents, List.append_nil]
      · rw [hmove, heed, hnone _ hevents, List.append_nil]
        cases m with
        | poll => exact ih
        | pollKept i | runKept i => simp [left, ih]

end Dispatch

end Signpost
