import Signpost.Proofs.Merge.Captures

/-!
# Merging — literal fragments

A fragment of characters only.  Its expression can always be read, for its groups do not nest, and
it matches the text of the fragment and no other, with nothing for any variable.  So a path without
placeholders may as well be looked up.

* `Pattern.atoms_of_staticText?`: the atoms of a literal path are its characters.
* `Merged.valuesOf_literal`: what the expression of a literal path matches.
-/

namespace Signpost

open Regex (Piece Node Reader)
open Matcher (valuesOf)

/-! ### The atoms of a literal path -/

theorem Token.eq_text {t : Token} {content : String} (h : t.text? = some content) :
    t = .text content := by
  cases t with
  | text s => exact congrArg Token.text (Option.some.inj h)
  | var name own default => cases h
  | optional inner => cases h

/-- The atoms of a literal path are its characters. -/
theorem Pattern.atoms_of_staticText? [Regex.Engine] {p : Pattern} {segment : String}
    {overrides : Dict String} {literal : String} {as : List Atom}
    (hliteral : p.staticText? = some literal) (h : p.atoms segment overrides = .ok as) :
    as = literal.toList.map .char := by
  obtain ⟨ass, hass, rfl⟩ := atoms_eq_ok.1 h
  obtain ⟨contents, hcontents, rfl⟩ := Option.map_eq_some_iff.1 hliteral
  rw [String.toList_join]
  clear h hliteral
  generalize p.tokens = ts at hass hcontents
  induction hass generalizing contents with
  | nil =>
      obtain rfl : [] = contents := Option.some.inj hcontents
      rfl
  | @cons t bs ts ass ht _ ih =>
      rw [List.mapM_cons] at hcontents
      obtain ⟨content, hcontent, hcontents⟩ := Option.bind_eq_some_iff.1 hcontents
      obtain ⟨rest, hrest, hcontents⟩ := Option.bind_eq_some_iff.1 hcontents
      obtain rfl := Option.some.inj hcontents
      obtain rfl := Token.eq_text hcontent
      obtain rfl := Except.ok.inj ((tokenAtoms_text content).symm.trans ht)
      rw [List.flatten_cons, ih rest hrest, List.flatMap_cons, List.map_append]

/-! ### Its expression can be read -/

theorem Piece.depth_sequence_le {ps : List Piece} {n : Nat} (h : ∀ p ∈ ps, p.depth ≤ n) :
    (Piece.sequence ps).depth ≤ n + 1 := by
  match ps with
  | []           => exact Nat.zero_le _
  | [p]          => exact Nat.le_succ_of_le (h p List.mem_cons_self)
  | p :: q :: ps =>
    have hfold : ∀ (qs : List Piece) (d : Nat), d ≤ n → (∀ p ∈ qs, p.depth ≤ n) →
        qs.foldl (fun d p => Nat.max d p.depth) d ≤ n := by
      intro qs
      induction qs with
      | nil => exact fun d hd _ => hd
      | cons q qs ih =>
          intro d hd hqs
          obtain ⟨hq, hqs⟩ := List.forall_mem_cons.1 hqs
          exact ih _ (Nat.max_le.2 ⟨hd, hq⟩) hqs
    exact Nat.succ_le_succ (hfold (p :: q :: ps) 0 (Nat.zero_le n) h)

theorem Atom.isSound_chars (cs : List Char) : ∀ a ∈ cs.map Atom.char, a.IsSound := by
  intro a ha
  obtain ⟨c, -, rfl⟩ := List.mem_map.1 ha
  exact isSound_char c

theorem Atom.captures_chars (cs : List Char) : (cs.map Atom.char).flatMap captures = [] := by
  induction cs with
  | nil => rfl
  | cons c cs ih => exact ih

/-- The pieces of characters do not nest. -/
theorem Atom.depth_allPieces_chars (cs : List Char) :
    ∀ p ∈ allPieces (cs.map .char), p.depth = 0 := by
  induction cs with
  | nil => simp [allPieces]
  | cons c cs ih =>
      intro p hp
      rcases List.mem_append.1 hp with hp | hp
      · obtain ⟨q, hq, rfl⟩ := List.mem_map.1 hp
        exact ih q hq
      · rw [(pieces_eq (a := .char c) (.char c)).1] at hp
        obtain rfl := List.mem_singleton.1 hp
        rfl

namespace Merged

/-- The expression of a literal fragment can be read. -/
theorem ofText?_literal (cs : List Char) :
    ∃ n, Node.ofText? (standalone (cs.map .char)).1.toList = some n := by
  have hsound : ∀ f ∈ [cs.map Atom.char], ∀ a ∈ f, a.IsSound := by
    simpa using Atom.isSound_chars cs
  obtain ⟨r, hr, hgroups, -, hcurrent⟩ := ofText?_ofFragments .flat hsound
  refine ⟨r.current.node, Regex.Node.ofText?_eq_some.2 ⟨r, _, hr, hgroups, ?_, rfl⟩⟩
  -- the marker is one deep, the group of alternatives around it three, and the whole four
  have hleaf : (Piece.sequence (Tree.leaf 0 (cs.map .char)).pieces).depth ≤ 2 := by
    refine Piece.depth_sequence_le fun p hp => ?_
    rcases List.mem_append.1 hp with hp | hp
    · obtain rfl := List.mem_singleton.1 hp
      exact Nat.le_refl 1
    · rw [Atom.depth_allPieces_chars cs p hp]
      exact Nat.zero_le 1
  have htree : (Piece.sequence (Tree.ofFragments .flat [cs.map .char]).pieces).depth ≤ 3 := by
    have hone : (Piece.sequence (Tree.ofFragments .flat [cs.map .char]).pieces).depth =
        (Piece.sequence (Tree.leaf 0 (cs.map .char)).pieces).depth + 1 := rfl
    rw [hone]
    exact Nat.succ_le_succ hleaf
  have hwhole : r.current.depth ≤ 4 := by
    rw [hcurrent]
    refine Piece.depth_sequence_le fun p hp => ?_
    simp only [List.mem_cons, List.not_mem_nil, or_false] at hp
    rcases hp with rfl | rfl | rfl
    · exact Nat.zero_le 3
    · exact htree
    · exact Nat.zero_le 3
  exact hwhole.trans (by decide)

end Merged

/-! ### It matches its own text -/

/-- Characters match where the text goes on with them, and in one way. -/
theorem Atom.stops_chars (text : Array Char) (cs : List Char) (pos : Nat) :
    (runs (Ways.ofRegex text) (cs.map .char) pos).map Run.stop =
      if cs <+: text.toList.drop pos then [pos + cs.length] else [] := by
  induction cs generalizing pos with
  | nil => simp [runs]
  | cons c cs ih =>
      rw [List.map_cons, runs, Ways.ofRegex_char]
      cases hd : text[pos]? with
      | none =>
          have hdrop : text.toList.drop pos = [] := by
            refine List.drop_eq_nil_iff.2 ?_
            simpa using hd
          simp [hdrop]
      | some d =>
          obtain ⟨hlt, hd'⟩ := Array.getElem?_eq_some_iff.1 hd
          have hdrop : text.toList.drop pos = d :: text.toList.drop (pos + 1) := by
            rw [List.drop_eq_getElem_cons (by simpa using hlt)]
            simpa using hd'
          by_cases h : d = c
          · subst h
            have hstop : ∀ rs : List (Run Record),
                (rs.map (Run.after [[]])).map Run.stop = rs.map Run.stop := fun rs => by
              rw [List.map_map]
              rfl
            simp only [if_pos, List.flatMap_singleton, hstop, ih, hdrop, List.cons_prefix_cons,
              true_and, List.length_cons, Nat.add_assoc, Nat.add_comm 1]
          · simp [hdrop, List.cons_prefix_cons, h, Ne.symm h]

theorem Atom.isSome_fullRun?_chars (path : String) (cs : List Char) :
    (fullRun? path.toList.toArray (cs.map .char)).isSome ↔ path.toList = cs := by
  have hstops := stops_chars path.toList.toArray cs 0
  have hany : (fullRun? path.toList.toArray (cs.map .char)).isSome =
      (if cs <+: path.toList then [0 + cs.length] else []).any (path.toList.length ≤ ·) := by
    rw [List.drop_zero] at hstops
    rw [fullRun?, List.isSome_find?, ← hstops, List.any_map]
    rfl
  rw [hany]
  split
  case isTrue hbegins =>
    have hle := hbegins.length_le
    simp only [List.any_cons, List.any_nil, Bool.or_false, decide_eq_true_eq, Nat.zero_add]
    exact ⟨fun h => (hbegins.eq_of_length (Nat.le_antisymm hle h)).symm, fun h => by rw [h]⟩
  case isFalse hbegins =>
    constructor
    · intro h
      cases h
    · rintro rfl
      exact absurd (List.prefix_refl _) hbegins

/-- **What the expression of a literal fragment matches**: its own text, with nothing for any
variable. -/
theorem Merged.valuesOf_literal (cs : List Char) {n : Node}
    (hn : Node.ofText? (standalone (cs.map .char)).1.toList = some n) (path : String) :
    ((Regex.mk n).captures? path).map (valuesOf · (standalone (cs.map .char)).2) =
      if path.toList = cs then some [] else none := by
  have hbindings : (standalone (cs.map .char)).2 = [] := by
    rw [bindings_standalone_eq, Atom.captures_chars]
    rfl
  have hcaptures := captures?_standalone (Atom.isSound_chars cs) hn path
  have hrun := Atom.isSome_fullRun?_chars path cs
  rw [hcaptures, hbindings]
  split
  case isTrue h =>
    obtain ⟨r, hr⟩ := Option.isSome_iff_exists.1 (hrun.2 h)
    rw [hr]
    rfl
  case isFalse h =>
    have hnone : Atom.fullRun? path.toList.toArray (cs.map .char) = none := by
      rw [← Option.not_isSome_iff_eq_none, hrun]
      exact h
    rw [hnone]
    rfl

end Signpost
