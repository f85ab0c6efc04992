import Signpost.Proofs.Merge.Choice
import Signpost.Proofs.Merge.Reading
import Signpost.Proofs.Regex.Search

/-!
# Merging — matching the expression of a tree

The ways of the atoms of a tree by what their expressions match (`Ways.ofRegex`): the spans that an
atom captures, by its own numbers, and the position after it.

To search the expression of a tree for a goal is to try its places from left to right, and for each
of them the runs of its fragment.  What is shared is matched once for all places below it, before
the choice among them; it matches in at most one way, so it might as well be matched again for
each of them.

* `Ways.decide_ofRegex`: a character, and a segment before a slash, match in at most one way.
* `Tree.attempt_pieces`: the search through the expression of a tree.
-/

namespace Signpost

open Regex (Piece Node State Span Positional findSome?_flatMap)
open Regex.State (firstAtEach)

variable {α : Type}

/-! ### The ways of an atom -/

/-- The expression of an atom. -/
def Atom.node (a : Atom) : Node := (Piece.sequence a.pieces).node

/-- The ways in which the expression of an atom matches at a position of a text: the spans that it
captures, and the position after it. -/
def Ways.ofRegex (text : Array Char) : Ways (List (Nat × Span)) := fun a pos =>
  (firstAtEach (a.node.advance text [⟨pos, []⟩])).map fun s => (s.spans, s.pos)

theorem Atom.node_char (c : Char) : (Atom.char c).node = .char c := by
  rw [node, (pieces_eq (a := .char c) (.char c)).1]
  rfl

/-- The characters of a segment. -/
def slashless : CharSet := .compl (.union .empty (.singleton '/'))

theorem contains_slashless : slashless.contains '/' = false := by decide

theorem Atom.node_segment {a : Atom} (h : a.text = ("(" ++ pathSegment ++ ")").toList) :
    a.node = .group 1 none (.repetition (.set slashless) 1 none true) := by
  rw [node, pieces, h]
  rfl

namespace Ways

variable {text : Array Char}

theorem ofRegex_char (c : Char) (pos : Nat) :
    ofRegex text (.char c) pos = if text[pos]? = some c then [([], pos + 1)] else [] := by
  rw [ofRegex, Atom.node_char, Regex.Node.advance_char]
  cases hd : text[pos]? with
  | none => simp [State.consume?, hd, firstAtEach, State.firstUnmarked]
  | some d =>
      by_cases h : d = c
      · simp [State.consume?, hd, h, firstAtEach, State.firstUnmarked]
      · simp [State.consume?, hd, h, firstAtEach, State.firstUnmarked]

/-- A segment goes forward, and not past a slash. -/
theorem slashless_of_mem_segment {a : Atom}
    (ha : a.text = ("(" ++ pathSegment ++ ")").toList) {pos : Nat} {o : List (Nat × Span) × Nat}
    (ho : o ∈ ofRegex text a pos) :
    pos ≤ o.2 ∧ ∀ j, pos ≤ j → j < o.2 → text[j]? ≠ some '/' := by
  -- what holds of the states on the way through the segment
  let within (s : State) : Prop := pos ≤ s.pos ∧ ∀ j, pos ≤ j → j < s.pos → text[j]? ≠ some '/'
  have hstep : ∀ s, within s → ∀ t ∈ (Node.set slashless).advance text [s], within t := by
    intro s hs t ht
    rw [Regex.Node.advance_set] at ht
    obtain ⟨u, hu, hconsume⟩ := List.mem_filterMap.1 ht
    obtain rfl := List.mem_singleton.1 hu
    unfold State.consume? at hconsume
    split at hconsume
    case isFalse => cases hconsume
    case isTrue hany =>
      cases hconsume
      refine ⟨Nat.le_succ_of_le hs.1, fun j hpos hj => ?_⟩
      rcases Nat.lt_succ_iff_lt_or_eq.1 hj with hj | rfl
      · exact hs.2 j hpos hj
      · intro hslash
        rw [hslash, Option.any_some, contains_slashless] at hany
        cases hany
  have hstart : within ⟨pos, []⟩ :=
    ⟨Nat.le_refl pos, fun j hpos hj => absurd hj (Nat.not_lt.2 hpos)⟩
  rw [ofRegex, Atom.node_segment ha, Regex.Node.advance_group] at ho
  obtain ⟨t, ht, rfl⟩ := List.mem_map.1 ho
  obtain ⟨u, hu, rfl⟩ := List.mem_map.1 (Regex.mem_of_mem_firstAtEach ht)
  rw [Regex.Node.advance_repetition] at hu
  exact Regex.forall_mem_repeatStep hstep text.size 1 none true hstart u hu

end Ways

/-- At most one outcome, where only entries with one key have outcomes. -/
theorem length_flatMap_le_one_of_nodup {β γ δ : Type} (key : β → γ) {f : β → List δ}
    {l : List β} (hnodup : (l.map key).Nodup) (hf : ∀ b ∈ l, (f b).length ≤ 1)
    (hkey : ∀ b ∈ l, ∀ c ∈ l, f b ≠ [] → f c ≠ [] → key b = key c) :
    (l.flatMap f).length ≤ 1 := by
  induction l with
  | nil => simp
  | cons b l ih =>
      obtain ⟨hb, hl⟩ := List.forall_mem_cons.1 hf
      rw [List.map_cons, List.nodup_cons] at hnodup
      rw [List.flatMap_cons, List.length_append]
      by_cases hne : f b = []
      · rw [hne]
        simpa using ih hnodup.2 hl fun c hc d hd =>
          hkey c (List.mem_cons_of_mem b hc) d (List.mem_cons_of_mem b hd)
      · have hrest : l.flatMap f = [] := by
          refine List.flatMap_eq_nil_iff.2 fun c hc => ?_
          by_contra hc'
          have heq := hkey b List.mem_cons_self c (List.mem_cons_of_mem b hc) hne hc'
          exact hnodup.1 (heq ▸ List.mem_map_of_mem hc)
        rw [hrest]
        exact hb

/-- **A character, and a segment before a slash, match in at most one way.** -/
theorem Ways.decide_ofRegex (text : Array Char) {a : Atom} (ha : a.IsSound) :
    (ofRegex text).Decide a := by
  cases a with
  | char c =>
      intro pos
      rw [ofRegex_char]
      split <;> simp
  | group e captures isSegment =>
      cases isSegment with
      | false => trivial
      | true =>
          have htext : (Atom.group e captures true).text = ("(" ++ pathSegment ++ ")").toList :=
            congrArg String.toList (ha.segment e captures rfl)
          have hslash : ∀ pos, (Atom.runs (ofRegex text) [.char '/'] pos).length ≤ 1 ∧
              (Atom.runs (ofRegex text) [.char '/'] pos ≠ [] → text[pos]? = some '/') := by
            intro pos
            rw [Atom.runs, ofRegex_char]
            split <;> simp [Atom.runs, *]
          intro pos
          refine length_flatMap_le_one_of_nodup Prod.snd ?_ (fun o _ => ?_)
            fun o ho o' ho' hne hne' => ?_
          · rw [ofRegex, List.map_map]
            exact Regex.nodup_firstAtEach _
          · rw [List.length_map]
            exact (hslash o.2).1
          · -- each of the two has a slash after it, which is not inside of the other
            have hat := (hslash o.2).2 fun h => hne (by rw [h, List.map_nil])
            have hat' := (hslash o'.2).2 fun h => hne' (by rw [h, List.map_nil])
            obtain ⟨hpos, hinside⟩ := slashless_of_mem_segment htext ho
            obtain ⟨hpos', hinside'⟩ := slashless_of_mem_segment htext ho'
            rcases Nat.lt_trichotomy o.2 o'.2 with hlt | heq | hlt
            · exact absurd hat (hinside' o.2 hpos hlt)
            · exact heq
            · exact absurd hat' (hinside o'.2 hpos' hlt)

/-! ### Runs of atoms -/

/-- The spans of atoms where they are written, the latest first. -/
def Spot.spansAll : List Spot → List (List (Nat × Span)) → List (Nat × Span)
  | s :: ss, r :: rs => spansAll ss rs ++ r.map fun p => (p.1 + s.groups, p.2)
  | _, _             => []

theorem Spot.spansAll_append {ss ts : List Spot} {rs qs : List (List (Nat × Span))}
    (h : ss.length = rs.length) :
    spansAll (ss ++ ts) (rs ++ qs) = spansAll ts qs ++ spansAll ss rs := by
  induction ss generalizing rs with
  | nil =>
      obtain rfl := List.length_eq_zero_iff.1 h.symm
      simp [spansAll]
  | cons s ss ih =>
      obtain ⟨r, rs, rfl⟩ := List.exists_cons_of_length_eq_add_one h.symm
      rw [List.cons_append, List.cons_append, spansAll, spansAll,
        ih (by simpa using h), List.append_assoc]

/-- The spans of a leaf where it is written, after a run of its fragment. -/
def Place.spans (p : Place) (r : Run (List (Nat × Span))) : List (Nat × Span) :=
  (p.groups + 1, ⟨r.stop, r.stop⟩) :: Spot.spansAll p.spots r.records

theorem Atom.length_records {w : Ways α} {as : List Atom} {pos : Nat} {r : Run α}
    (h : r ∈ runs w as pos) : r.records.length = as.length := by
  induction as generalizing pos r with
  | nil =>
      obtain rfl := List.mem_singleton.1 h
      rfl
  | cons a as ih =>
      obtain ⟨o, -, h⟩ := List.mem_flatMap.1 h
      obtain ⟨r, hr, rfl⟩ := List.mem_map.1 h
      simp only [Run.after, List.singleton_append, List.length_cons, ih hr]

/-! ### The search through pieces -/

variable {text : Array Char} {k : State → Option α}

theorem Piece.attempt_append (hk : Positional k) (f : Nat → Nat) (ps qs : List Piece)
    (s : State) :
    ((Piece.sequence (ps ++ qs)).node.renumber f).attempt text k s =
      ((Piece.sequence qs).node.renumber f).attempt text
        (((Piece.sequence ps).node.renumber f).attempt text k) s := by
  have hsequence : ∀ ps : List Piece, (Piece.sequence ps).node.renumber f =
      Node.sequence (ps.reverse.map fun p => p.node.renumber f) := by
    intro ps
    rw [Piece.node_sequence, ← Node.sequence_renumber, List.map_map]
    rfl
  have hfold : ∀ (ps : List Piece) {k : State → Option α}, Positional k →
      ((Piece.sequence ps).node.renumber f).attempt text k =
        (ps.reverse.map fun p => p.node.renumber f).foldr (fun n k => n.attempt text k) k := by
    intro ps k hk
    funext s
    rw [hsequence, Node.attempt_sequence hk]
  rw [hfold _ hk, hfold qs (Node.positional_attempt hk _), hfold ps hk, List.reverse_append,
    List.map_append, List.foldr_append]

theorem Piece.renumber_sequence_renumberAll (groups count : Nat) (ps : List Piece) :
    (Piece.sequence (Piece.renumberAll (· + count) ps)).node.renumber (· + groups) =
      (Piece.sequence ps).node.renumber (· + (groups + count)) := by
  rw [Piece.sequence_renumberAll]
  refine (Node.renumber_renumber _ _ _).trans ?_
  congr 1
  funext i
  simp only [Function.comp_apply]
  omega

/-- The search through an atom. -/
theorem Atom.attempt_node (hk : Positional k) (a : Atom) (groups : Nat) (s : State) :
    (a.node.renumber (· + groups)).attempt text k s =
      (Ways.ofRegex text a s.pos).findSome? fun o =>
        k ⟨o.2, o.1.map (fun p => (p.1 + groups, p.2)) ++ s.spans⟩ := by
  rw [Node.attempt_renumber hk, Ways.ofRegex, List.findSome?_map]
  rfl

/-- **The search through atoms** tries their runs. -/
theorem Atom.attempt_allPieces (hk : Positional k) (groups : Nat) (after : List Char)
    (as : List Atom) (s : State) :
    ((Piece.sequence (allPieces as)).node.renumber (· + groups)).attempt text k s =
      (runs (Ways.ofRegex text) as s.pos).findSome? fun r =>
        k ⟨r.stop, Spot.spansAll (spots groups after as) r.records ++ s.spans⟩ := by
  induction as generalizing groups s with
  | nil =>
      rw [runs, List.findSome?_singleton]
      exact Node.attempt_empty s
  | cons a as ih =>
      rw [allPieces, Piece.attempt_append hk, Piece.renumber_sequence_renumberAll]
      refine (attempt_node (Node.positional_attempt hk _) a groups s).trans ?_
      rw [runs, findSome?_flatMap]
      congr 1
      funext o
      rw [ih, List.findSome?_map]
      congr 1
      funext r
      simp [Function.comp_apply, Run.after, spots, Spot.spansAll]

/-- A choice behind what matches in at most one way. -/
theorem findSome?_comm_of_length_le_one {β γ : Type} {l : List β} (hl : l.length ≤ 1)
    (m : List γ) (f : β → γ → Option α) :
    (l.findSome? fun b => m.findSome? fun c => f b c) =
      m.findSome? fun c => l.findSome? fun b => f b c := by
  match l, hl with
  | [], _  => exact (List.findSome?_eq_none_iff.2 fun _ _ => rfl).symm
  | [b], _ => simp

theorem findSome?_congr {β : Type} {l : List β} {f g : β → Option α} (h : ∀ b ∈ l, f b = g b) :
    l.findSome? f = l.findSome? g := by
  induction l with
  | nil => rfl
  | cons b l ih =>
      obtain ⟨hb, hl⟩ := List.forall_mem_cons.1 h
      rw [List.findSome?_cons, List.findSome?_cons, hb, ih hl]

/-! ### The search through a tree -/

namespace Tree

/-- What the places of a tree reach from a state. -/
def reach (text : Array Char) (k : State → Option α) (ps : List Place) (s : State) : Option α :=
  ps.findSome? fun p =>
    (Atom.runs (Ways.ofRegex text) (p.spots.map Spot.atom) s.pos).findSome? fun r =>
      k ⟨r.stop, p.spans r ++ s.spans⟩

/-- The places below a branch, after what it shares. -/
theorem reach_behind {shared : List Atom} (single : ∀ pos,
      (Atom.runs (Ways.ofRegex text) shared pos).length ≤ 1)
    (groups : Nat) (after : List Char) (ps : List Place) (s : State) :
    reach text k (ps.map (Place.behind (Atom.spots groups after shared))) s =
      (Atom.runs (Ways.ofRegex text) shared s.pos).findSome? fun r =>
        reach text k ps
          ⟨r.stop, Spot.spansAll (Atom.spots groups after shared) r.records ++ s.spans⟩ := by
  simp only [reach]
  rw [findSome?_comm_of_length_le_one (single s.pos), List.findSome?_map]
  congr 1
  funext p
  have hatoms : (Place.behind (Atom.spots groups after shared) p).spots.map Spot.atom =
      shared ++ p.spots.map Spot.atom := by
    rw [Place.behind, List.map_append, Atom.map_atom_spots]
  rw [Function.comp_apply, hatoms, Atom.runs_append, findSome?_flatMap]
  refine findSome?_congr fun r hr => ?_
  have hlength : (Atom.spots groups after shared).length = r.records.length := by
    rw [Atom.length_records hr, ← Atom.map_atom_spots groups after shared, List.length_map,
      Atom.map_atom_spots]
  rw [List.findSome?_map]
  congr 1
  funext r'
  simp [Function.comp_apply, Run.after, Place.behind, Place.spans, Spot.spansAll_append hlength]

/-- The search through a branch, from the search through its alternatives. -/
theorem attempt_pieces_branch (hk : Positional k) {shared : List Atom} {children : List Tree}
    (single : ∀ pos, (Atom.runs (Ways.ofRegex text) shared pos).length ≤ 1)
    {groups : Nat} {after : List Char}
    (hinner : ∀ s : State, ((Piece.choice (branches children)).node.renumber
        (· + (groups + (shared.flatMap Atom.captures).length))).attempt text k s =
      reach text k (placesAll (groups + (shared.flatMap Atom.captures).length) (')' :: after)
        children) s) (s : State) :
    ((Piece.sequence (branch shared children).pieces).node.renumber (· + groups)).attempt text k s =
      reach text k ((branch shared children).places groups after) s := by
  rw [pieces, Piece.attempt_append hk, Piece.renumber_sequence_renumberAll,
    Atom.attempt_allPieces (Node.positional_attempt hk _) groups
      (['(', '?', ':'] ++ textAll children ++ ')' :: after), places, reach_behind single]
  congr 1
  funext r
  exact hinner _

theorem attempt_choice_branches (hk : Positional k) {groups : Nat} {ts : List Tree} (s : State)
    (hne : ts ≠ []) : ((Piece.choice (branches ts)).node.renumber (· + groups)).attempt text k s =
      (branches ts).reverse.findSome? fun p => (p.node.renumber (· + groups)).attempt text k s := by
  have hbranches : branches ts ≠ [] := by
    match ts, hne with
    | [t], _           => simp [branches]
    | t :: u :: rest, _ => simp [branches]
  rw [Piece.node_choice, ← Node.choice_renumber, Node.attempt_choice hk (by simpa using hbranches),
    List.map_map, List.findSome?_map]
  rfl

mutual

/-- **The search through the expression of a tree** tries its places, and for each of them the runs
of its fragment. -/
theorem attempt_pieces (hk : Positional k) (groups : Nat) (after : List Char) :
    ∀ t : Tree, t.IsForced → t.AllAtoms Atom.IsSound → ∀ s : State,
      ((Piece.sequence t.pieces).node.renumber (· + groups)).attempt text k s =
        reach text k (t.places groups after) s
  | .leaf index rest, _, _, s => by
      rw [pieces, Piece.attempt_append hk, Piece.renumber_sequence_renumberAll,
        Atom.attempt_allPieces (Node.positional_attempt hk _) groups ('(' :: ')' :: after), places,
        reach, List.findSome?_singleton, Atom.map_atom_spots]
      congr 1
      funext r
      have hindex : 1 + (groups + (rest.flatMap Atom.captures).length) =
          groups + (rest.flatMap Atom.captures).length + 1 := by
        omega
      refine (Node.attempt_group hk _ none .empty _).trans ((Node.attempt_empty _).trans ?_)
      simp only [State.capture, Place.spans, List.cons_append, hindex]
  | .branch shared children, hforced, hsound, s => by
      obtain ⟨hshared, hchildren⟩ := hforced.forall_mem_shared hsound
      refine attempt_pieces_branch hk (fun pos => Atom.length_runs_le_one hforced.shared
        (fun a ha => Ways.decide_ofRegex text (hshared a ha)) pos) (fun s => ?_) s
      rw [attempt_choice_branches hk s hforced.nonempty]
      exact attempt_branches hk _ (')' :: after) children hforced.children hchildren
        hforced.nonempty s

theorem attempt_branches (hk : Positional k) (groups : Nat) (after : List Char) :
    ∀ ts : List Tree, (∀ t ∈ ts, t.IsForced) → (∀ t ∈ ts, t.AllAtoms Atom.IsSound) →
      ts ≠ [] → ∀ s : State,
      ((branches ts).reverse.findSome? fun p => (p.node.renumber (· + groups)).attempt text k s) =
        reach text k (placesAll groups after ts) s
  | [], _, _, hne, _ => absurd rfl hne
  | [t], hforced, hsound, _, s => by
      rw [branches, List.reverse_singleton, List.findSome?_singleton, placesAll]
      exact attempt_pieces hk groups after t (hforced t List.mem_cons_self)
        (hsound t List.mem_cons_self) s
  | t :: u :: rest, hforced, hsound, _, s => by
      obtain ⟨hforced, hforcedRest⟩ := List.forall_mem_cons.1 hforced
      obtain ⟨hsound, hsoundRest⟩ := List.forall_mem_cons.1 hsound
      have ht := attempt_pieces hk groups ('|' :: (textAll (u :: rest) ++ after)) t hforced hsound s
      have hrest := attempt_branches hk (groups + t.groupCount) after (u :: rest) hforcedRest
        hsoundRest (by simp) s
      have hshift : ∀ p : Piece, ((p.mapNode (Node.renumber (· + t.groupCount))).node.renumber
          (· + groups)) = p.node.renumber (· + (groups + t.groupCount)) := by
        intro p
        refine (Node.renumber_renumber _ _ _).trans ?_
        congr 1
        funext i
        simp only [Function.comp_apply]
        omega
      rw [branches, List.reverse_append, List.reverse_singleton, List.findSome?_append,
        List.findSome?_singleton, ht, placesAll, Piece.renumberAll, ← List.map_reverse,
        List.findSome?_map]
      simp only [Function.comp_def, hshift, hrest]
      rw [reach, reach, reach, List.findSome?_append]

end

end Tree

end Signpost
