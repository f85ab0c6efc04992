import Signpost.Proofs.Merge.Names
import Signpost.Proofs.Regex.Spelling

/-!
# Merging — the runs of a path

What a run of atoms does with the atoms of a path.  Characters are where they are written; a segment
stays in front of the next slash, and its variable gets all of it; what may be left out is left out,
with nothing for its variables, or runs like its own atoms.

* `Atom.exists_run_chars`, `Atom.exists_run_segment`: a run through characters, and a segment.
* `Atom.exists_run_optional`: a run through what may be left out.
-/

namespace Signpost

open Regex (Node Piece State Span Positional)
open Regex.State (firstAtEach)

/-! ### The state at a position -/

namespace Regex

theorem State.findSome?_atPos_of_nodup {ss : List State} (hss : (ss.map State.pos).Nodup)
    {s : State} (hs : s ∈ ss) : ss.findSome? (State.atPos s.pos) = some s := by
  induction ss with
  | nil => cases hs
  | cons t ss ih =>
      obtain ⟨hnot, hss⟩ := List.nodup_cons.1 hss
      rcases List.mem_cons.1 hs with rfl | hs
      · simp [State.atPos]
      · have hne : t.pos ≠ s.pos := fun heq => hnot (heq ▸ List.mem_map_of_mem hs)
        rw [List.findSome?_cons, State.atPos, if_neg hne]
        exact ih hss hs

/-- The states that are kept are the first ones at their positions. -/
theorem State.findSome?_atPos {ss : List State} {s : State} (hs : s ∈ firstAtEach ss) :
    ss.findSome? (State.atPos s.pos) = some s := by
  rw [← findSome?_firstAtEach (Positional.atPos s.pos)]
  exact State.findSome?_atPos_of_nodup (nodup_firstAtEach ss) hs

/-- What may be left out stays where it is, or goes where one copy goes first. -/
theorem Node.advance_optional {text : Array Char} {n : Node} {s t : State}
    (ht : t ∈ (n.repeated 0 (some 1) true).advance text [s]) :
    t = s ∨ (n.advance text [s]).findSome? (State.atPos t.pos) = some t := by
  have hwalk : ∀ (ss : List State) (w : Walk),
      (ss.foldl (Walk.upTo text.size (fun s => n.advance text [s]) true 0) w).reached =
        ss.reverse ++ w.reached := by
    intro ss
    induction ss with
    | nil => exact fun w => rfl
    | cons u ss ih =>
        intro w
        rw [List.foldl_cons, ih]
        simp [Walk.upTo]
  have hways : (Walk.upTo text.size (fun s => n.advance text [s]) true 1 {} s).outcomes =
      n.advance text [s] ++ [s] := by
    rw [Walk.upTo, if_neg (by rw [Marks.contains_empty]; simp), Walk.endAround, if_pos rfl]
    simp [Walk.outcomes, hwalk]
  rw [Node.repeated_optional, Node.advance_repetition] at ht
  have hfirst : t ∈ firstAtEach (n.advance text [s] ++ [s]) := by
    rw [← hways]
    exact ht
  have hfound := State.findSome?_atPos hfirst
  rw [List.findSome?_append] at hfound
  cases hstep : (n.advance text [s]).findSome? (State.atPos t.pos) with
  | some u => exact .inr (by simpa [hstep] using hfound)
  | none =>
      rw [hstep, Option.none_or, List.findSome?_singleton, State.atPos] at hfound
      split at hfound
      case isTrue => exact .inl (Option.some.inj hfound).symm
      case isFalse => cases hfound

end Regex

/-! ### Single atoms -/

namespace Ways

variable {text : Array Char} {pos : Nat} {o : Record × Nat}

/-- A segment is captured as a whole. -/
theorem exists_of_mem_segment {a : Atom} (ha : a.text = ("(" ++ pathSegment ++ ")").toList)
    (hpos : pos ≤ text.size) (ho : o ∈ ofRegex text a pos) :
    (pos ≤ o.2 ∧ o.2 ≤ text.size) ∧ (∀ j, pos ≤ j → j < o.2 → text[j]? ≠ some '/') ∧
      o.1.lookup 1 = some ⟨pos, o.2⟩ := by
  obtain ⟨hle, hinside⟩ := slashless_of_mem_segment ha ho
  rw [ofRegex, Atom.node_segment ha, Regex.Node.advance_group] at ho
  obtain ⟨t, ht, rfl⟩ := List.mem_map.1 ho
  obtain ⟨u, hu, rfl⟩ := List.mem_map.1 (Regex.mem_of_mem_firstAtEach ht)
  have hends : Regex.Ends ((Node.repetition (.set slashless) 1 none true).advance text [⟨pos, []⟩])
      u.pos := ⟨u, hu, rfl⟩
  rw [Regex.Node.ends_advance _ (by simpa using hpos)] at hends
  obtain ⟨s, hs, hreaches⟩ := hends
  obtain rfl := List.mem_singleton.1 hs
  refine ⟨⟨hle, (hreaches.stays hpos).2⟩, hinside, ?_⟩
  simp [State.capture]

/-- What may be left out is left out, or matches like its atoms. -/
theorem exists_of_mem_optional {as : List Atom} (hsound : ∀ a ∈ as, a.IsSound)
    (ho : o ∈ ofRegex text (.optional as) pos) :
    o = ([], pos) ∨ ∃ r ∈ Atom.runs (ofRegex text) as pos,
      o = (Spot.spansAll (Atom.spots 0 [] as) r.records, r.stop) := by
  obtain ⟨hpieces, -⟩ := Atom.pieces_eq (Atom.isPart_optional hsound)
  obtain ⟨t, ht, rfl⟩ := List.mem_map.1 ho
  rw [Atom.node, hpieces] at ht
  rcases Node.advance_optional (Regex.mem_of_mem_firstAtEach ht) with rfl | hfound
  · exact .inl rfl
  · refine .inr ?_
    -- the first state at the position comes from the first run that stops there
    have hruns := @Atom.attempt_allPieces State text _ (Positional.atPos t.pos) 0 [] as ⟨pos, []⟩
    have hrenumber : ∀ n : Node, n.renumber (· + 0) = n := Node.renumber_id
    rw [hrenumber, Node.attempt, hfound] at hruns
    obtain ⟨r, hr, hstop⟩ := List.exists_of_findSome?_eq_some hruns.symm
    refine ⟨r, hr, ?_⟩
    rw [State.atPos] at hstop
    split at hstop
    case isTrue =>
      obtain rfl := Option.some.inj hstop
      simp
    case isFalse => cases hstop

end Ways

/-! ### Lists of atoms -/

namespace Atom

variable {text : Array Char} {as : List Atom} {pos : Nat} {r : Run Record}

theorem mem_runs_cons {a : Atom} (hr : r ∈ runs (Ways.ofRegex text) (a :: as) pos) :
    ∃ o ∈ Ways.ofRegex text a pos, ∃ r' ∈ runs (Ways.ofRegex text) as o.2,
      r = ⟨o.1 :: r'.records, r'.stop⟩ := by
  obtain ⟨o, ho, hafter⟩ := List.mem_flatMap.1 hr
  obtain ⟨r', hr', rfl⟩ := List.mem_map.1 hafter
  exact ⟨o, ho, r', hr', rfl⟩

/-- **A run through characters** finds them where it is, and goes on behind them. -/
theorem exists_run_chars {cs : List Char}
    (hr : r ∈ runs (Ways.ofRegex text) (cs.map .char ++ as) pos) :
    cs <+: text.toList.drop pos ∧ ∃ r' ∈ runs (Ways.ofRegex text) as (pos + cs.length),
      r.stop = r'.stop ∧ values (cs.map .char ++ as) r.records = values as r'.records := by
  induction cs generalizing pos r with
  | nil => exact ⟨List.nil_prefix, r, hr, rfl, rfl⟩
  | cons c cs ih =>
      obtain ⟨o, ho, r', hr', rfl⟩ := mem_runs_cons hr
      rw [Ways.ofRegex_char] at ho
      split at ho
      case isFalse => cases ho
      case isTrue hc =>
        obtain rfl := List.mem_singleton.1 ho
        obtain ⟨hbegins, r'', hr'', hstop, hvalues⟩ := ih hr'
        obtain ⟨hlt, hget⟩ := Array.getElem?_eq_some_iff.1 hc
        refine ⟨?_, r'', ?_, hstop, hvalues⟩
        · rw [List.drop_eq_getElem_cons (by simpa using hlt)]
          exact List.cons_prefix_cons.2 ⟨by simpa using hget.symm, hbegins⟩
        · have hlength : pos + (c :: cs).length = pos + 1 + cs.length := by
            rw [List.length_cons, Nat.add_right_comm, Nat.add_assoc]
          rwa [hlength]

theorem ofCaptures_variable (name : String) (count : Nat) :
    Binding.ofCaptures 0 (some name :: List.replicate count none) = [⟨name, 1⟩] := by
  have hnone : ∀ groups count, Binding.ofCaptures groups (List.replicate count none) = [] := by
    intro groups count
    induction count generalizing groups with
    | zero => rfl
    | succ count ih => exact ih (groups + 1)
  rw [Binding.ofCaptures, hnone]

/-- **A run through a segment** gives its variable what it passes, none of which is a slash. -/
theorem exists_run_segment {name : String} {count : Nat} (hpos : pos ≤ text.size)
    (hr : r ∈ runs (Ways.ofRegex text) (ofVariable name pathSegment count :: as) pos) :
    ∃ stop, (pos ≤ stop ∧ stop ≤ text.size) ∧ (∀ j, pos ≤ j → j < stop → text[j]? ≠ some '/') ∧
      ∃ r' ∈ runs (Ways.ofRegex text) as stop, r.stop = r'.stop ∧
        values (ofVariable name pathSegment count :: as) r.records =
          (name, some ⟨pos, stop⟩) :: values as r'.records := by
  obtain ⟨o, ho, r', hr', rfl⟩ := mem_runs_cons hr
  obtain ⟨hbounds, hinside, hlookup⟩ := Ways.exists_of_mem_segment rfl hpos ho
  refine ⟨o.2, hbounds, hinside, r', hr', rfl, ?_⟩
  have hcaptures : (ofVariable name pathSegment count).captures =
      some name :: List.replicate count none := rfl
  rw [values, hcaptures, ofCaptures_variable, List.map_singleton, hlookup]
  rfl

/-- **A run through what may be left out** stays where it is, with nothing for the variables, or is
a run through the atoms. -/
theorem exists_run_optional (hsound : ∀ a ∈ as, a.IsSound)
    (hr : r ∈ runs (Ways.ofRegex text) [optional as] pos) :
    r.stop = pos ∧ values [optional as] r.records = (vars as).map (fun name => (name, none)) ∨
      ∃ r' ∈ runs (Ways.ofRegex text) as pos, r.stop = r'.stop ∧
        values [optional as] r.records = values as r'.records := by
  obtain ⟨o, ho, r', hr', rfl⟩ := mem_runs_cons hr
  obtain rfl := List.mem_singleton.1 hr'
  have hbindings : Binding.ofCaptures 0 (as.flatMap captures) =
      (spots 0 [] as).flatMap Spot.bindings := (flatMap_bindings_spots 0 [] as).symm
  have hvalues : values [optional as] [o.1] =
      (Binding.ofCaptures 0 (as.flatMap captures)).map fun b => (b.name, o.1.lookup b.group) :=
    List.append_nil _
  rcases Ways.exists_of_mem_optional hsound ho with rfl | ⟨own, hown, rfl⟩
  · refine .inl ⟨rfl, ?_⟩
    rw [hvalues, vars, ← map_name_ofCaptures 0, List.map_map]
    rfl
  · refine .inr ⟨own, hown, rfl, ?_⟩
    have hspots : (spots 0 [] as).map Spot.atom = as := map_atom_spots 0 [] as
    have hrecords := records_of_mem_runs hsound hown
    rw [hvalues, hbindings,
      Spot.map_lookup_bindings (by rwa [hspots]) (pairwise_spots 0 [] as), hspots]

end Atom

end Signpost
