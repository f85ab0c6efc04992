import Signpost.Proofs.Pattern.Parts

/-!
# Patterns — where variables are written

A pattern writes each of its variables as a parenthesis around its constraint
(`Token.written`).  A constraint that is a complete expression by itself, and that keeps its
groups, stays inside of that parenthesis, and so do the groups in it.  So the capturing parentheses
outside of all others are those of the variables, in the order in which they are written
(`Atom.IsComplete`).

* `Pattern.writes_of_atoms`: the atoms of a pattern with complete constraints are complete, and
  their outer parentheses are where the pattern writes its variables.
-/

namespace Signpost

open Regex (Piece Paren Reader Node)

/-! ### What a pattern writes -/

namespace Token

variable (segment : String) (overrides : Dict String)

mutual

/-- The text of a token in the expression of its pattern. -/
def expression : Token → List Char
  | .text content   => content.toList.flatMap Regex.escapeChar
  | .var name own _ => parenthesized (effectiveConstraint overrides segment name own)
  | .optional inner => ['(', '?', ':'] ++ expressionAll inner ++ [')', '?']

def expressionAll : List Token → List Char
  | []      => []
  | t :: ts => t.expression ++ expressionAll ts

end

mutual

/-- The variables of a token, each with the text of the token from its parenthesis on. -/
def written : Token → List (String × List Char)
  | .text _         => []
  | .var name own _ => [(name, parenthesized (effectiveConstraint overrides segment name own))]
  | .optional inner => (writtenAll inner).map fun v => (v.1, v.2 ++ [')', '?'])

/-- The variables of tokens, each with the text of the tokens from its parenthesis on. -/
def writtenAll : List Token → List (String × List Char)
  | []      => []
  | t :: ts =>
    (t.written.map fun v => (v.1, v.2 ++ expressionAll segment overrides ts)) ++ writtenAll ts

end

/-- The variables in each atom of a token. -/
def writtenByAtom : Token → List (List (String × List Char))
  | .text content => content.toList.map fun _ => []
  | t             => [t.written segment overrides]

end Token

/-- The variables in each atom of a pattern, each with the text of the atom from its parenthesis
on. -/
def Pattern.writtenByAtom (p : Pattern) (segment : String) (overrides : Dict String) :
    List (List (String × List Char)) :=
  p.tokens.flatMap (Token.writtenByAtom segment overrides)

/-! ### Complete atoms -/

namespace Atom

/-- Whether the groups of an atom that stand outside of all others are its variables. -/
structure IsComplete (a : Atom) : Prop extends a.IsSound where
  outer : a.parens.map Paren.isOuter = a.captures.map Option.isSome

/-- The parentheses that hold variables, with the variables that they hold. -/
def named (captures : List (Option String)) (ps : List Paren) : List (String × List Char) :=
  (captures.zip ps).filterMap fun x => x.1.map fun name => (name, x.2.text)

/-- The variables of an atom, each with the text of the atom from its parenthesis on. -/
def marks (a : Atom) : List (String × List Char) := named a.captures a.parens

/-- The variables of a list of atoms, each with the text from its parenthesis on. -/
def allMarks : List Atom → List (String × List Char)
  | []      => []
  | a :: as => (a.marks.map fun v => (v.1, v.2 ++ expression as)) ++ allMarks as

theorem map_isOuter_append (more : List Char) (ps : List Paren) :
    (ps.map (.append more)).map Paren.isOuter = ps.map Paren.isOuter := by
  rw [List.map_map]
  rfl

theorem map_isOuter_allParens {as : List Atom} (h : ∀ a ∈ as, a.IsComplete) :
    (allParens as).map Paren.isOuter = (as.flatMap captures).map Option.isSome := by
  induction as with
  | nil => rfl
  | cons a as ih =>
      obtain ⟨ha, has⟩ := List.forall_mem_cons.1 h
      rw [allParens, List.map_append, map_isOuter_append, ha.outer, ih has, List.flatMap_cons,
        List.map_append]

theorem isComplete_char (c : Char) : (Atom.char c).IsComplete := by
  obtain ⟨hpieces, hparens⟩ := pieces_eq (a := .char c) (.char c)
  refine ⟨isSound_char c, ?_⟩
  rw [hparens]
  rfl

theorem isComplete_optional {as : List Atom} (h : ∀ a ∈ as, a.IsComplete) :
    (optional as).IsComplete := by
  have hsound : ∀ a ∈ as, a.IsSound := fun a ha => (h a ha).toIsSound
  obtain ⟨hpieces, hparens⟩ := pieces_eq (isPart_optional hsound)
  refine ⟨isSound_optional hsound, ?_⟩
  rw [hparens, map_isOuter_append, map_isOuter_allParens h]
  rfl

theorem named_map_append (captures : List (Option String)) (ps : List Paren)
    (more : List Char) :
    named captures (ps.map (Paren.append more)) =
      (named captures ps).map fun v => (v.1, v.2 ++ more) := by
  rw [named, named, List.zip_map_right, List.filterMap_map, List.map_filterMap]
  congr 1
  funext x
  cases h : x.1 <;> simp [h, Paren.append]

theorem named_append {captures₁ captures₂ : List (Option String)} {ps₁ ps₂ : List Paren}
    (h : captures₁.length = ps₁.length) :
    named (captures₁ ++ captures₂) (ps₁ ++ ps₂) = named captures₁ ps₁ ++ named captures₂ ps₂ := by
  rw [named, List.zip_append h, List.filterMap_append]
  rfl

/-- The parentheses of a list of atoms that hold variables are those of the single atoms. -/
theorem named_allParens {as : List Atom} (h : ∀ a ∈ as, a.IsSound) :
    named (as.flatMap captures) (allParens as) = allMarks as := by
  induction as with
  | nil => rfl
  | cons a as ih =>
      obtain ⟨ha, has⟩ := List.forall_mem_cons.1 h
      have hlength : a.captures.length = (a.parens.map (Paren.append (expression as))).length := by
        rw [List.length_map, ha.part.count]
      rw [List.flatMap_cons, allParens, named_append hlength, named_map_append, ih has]
      rfl

theorem marks_optional {as : List Atom} (h : ∀ a ∈ as, a.IsSound) :
    (optional as).marks = (allMarks as).map fun v => (v.1, v.2 ++ [')', '?']) := by
  obtain ⟨-, hparens⟩ := pieces_eq (isPart_optional h)
  rw [marks, hparens, named_map_append, ← named_allParens h]
  rfl

theorem allMarks_append (as bs : List Atom) :
    allMarks (as ++ bs) =
      ((allMarks as).map fun v => (v.1, v.2 ++ expression bs)) ++ allMarks bs := by
  induction as with
  | nil => rfl
  | cons a as ih =>
      simp only [List.cons_append, allMarks, ih, text_append, List.map_append, List.map_map,
        List.append_assoc]
      congr 2
      funext v
      simp

end Atom

/-! ### Complete constraints -/

namespace Pattern

variable {source name constraint segment : String} {overrides : Dict String} {count : Nat}

variable [Regex.Engine]

/-- A complete constraint, read in the parentheses of its variable. -/
theorem ofText?_of_complete (hcomplete : (Node.ofText? constraint.toList).isSome)
    (hkeeps : Regex.keepsGroups constraint.toList)
    (hcheck : checkConstraint source name constraint = .ok count) :
    ∃ r ps, Reader.ofText? (parenthesized constraint) =
        some (r, ⟨parenthesized constraint, true⟩ :: ps) ∧ r.IsSealed ∧ r.captures = count + 1 ∧
      ∀ p ∈ ps, p.isOuter = false := by
  obtain ⟨whole, hwhole⟩ := Option.isSome_iff_exists.1 hcomplete
  obtain ⟨checked, hchecked, hnames, rfl⟩ := checkConstraint_eq_ok hcheck
  have hnode := Regex.ofText?_of_compile hchecked
  rw [toList_anchoredConstraint] at hnode
  obtain ⟨r, ps, hr, hsealed, hcaptures, hinner, -⟩ :=
    Regex.ofText?_parenthesized hwhole hnode hnames hkeeps
  exact ⟨r, ps, hr, hsealed, hcaptures, hinner⟩

theorem isComplete_ofVariable (hcomplete : (Node.ofText? constraint.toList).isSome)
    (hkeeps : Regex.keepsGroups constraint.toList)
    (hcheck : checkConstraint source name constraint = .ok count) :
    (Atom.ofVariable name constraint count).IsComplete ∧
      (Atom.ofVariable name constraint count).marks = [(name, parenthesized constraint)] := by
  obtain ⟨r, ps, hr, hsealed, hcaptures, hinner⟩ :=
    ofText?_of_complete hcomplete hkeeps hcheck
  have hpart : Regex.IsPart (Atom.ofVariable name constraint count).text _ _ _ :=
    Atom.isPart_ofVariable hr hsealed hcaptures
  obtain ⟨hpieces, hparens⟩ := Atom.pieces_eq hpart
  have hlength : ps.length = count := by simpa [Atom.ofVariable, Atom.captures] using hpart.count
  have hfalse : ps.map Paren.isOuter = List.replicate count false := by
    rw [← hlength]
    exact List.map_eq_replicate_iff.2 hinner
  refine ⟨⟨Atom.isSound_of_isPart hpart fun e captures => Atom.segment_ofVariable, ?_⟩, ?_⟩
  · rw [hparens, List.map_cons, hfalse]
    simp [Atom.ofVariable, Atom.captures]
  · rw [Atom.marks, hparens]
    have hrest : Atom.named (List.replicate count none) ps = [] := by
      refine List.filterMap_eq_nil_iff.2 fun x hx => ?_
      rw [List.eq_of_mem_replicate (List.of_mem_zip hx).1]
      rfl
    simpa [Atom.ofVariable, Atom.captures, Atom.named] using hrest

/-- A complete constraint stays inside. -/
theorem staysInside_of_complete (hcomplete : (Node.ofText? constraint.toList).isSome)
    (hkeeps : Regex.keepsGroups constraint.toList)
    (hcheck : checkConstraint source name constraint = .ok count) : staysInside constraint := by
  obtain ⟨r, ps, hr, hsealed, hcaptures, -⟩ := ofText?_of_complete hcomplete hkeeps hcheck
  obtain ⟨checked, hchecked, -, rfl⟩ := checkConstraint_eq_ok hcheck
  have hchecked := Regex.ofText?_of_compile hchecked
  simp [staysInside, hr, hchecked, hsealed.groups, hsealed.branches, hsealed.flags,
    hsealed.names, hcaptures, Regex.groupCount]

/-! ### The atoms of a token -/

/-- Whether a constraint is a complete expression by itself and keeps its groups. -/
structure IsWhole (constraint : String) : Prop where
  complete : (Node.ofText? constraint.toList).isSome
  keeps    : Regex.keepsGroups constraint.toList

/-- Whether atoms are complete and hold the variables of a token where it writes them. -/
structure Writes (segment : String) (overrides : Dict String) (t : Token) (as : List Atom) :
    Prop where
  complete   : ∀ a ∈ as, a.IsComplete
  expression : Atom.expression as = t.expression segment overrides
  written    : Atom.allMarks as = t.written segment overrides
  byAtom     : as.map Atom.marks = t.writtenByAtom segment overrides

omit [Regex.Engine] in
theorem allMarks_char (cs : List Char) : Atom.allMarks (cs.map .char) = [] := by
  induction cs with
  | nil => rfl
  | cons c cs ih => exact ih

omit [Regex.Engine] in
/-- The atoms of several tokens. -/
theorem writtenAll_of_forall₂ {ts : List Token} {ass : List (List Atom)}
    (h : List.Forall₂ (Writes segment overrides) ts ass) :
    (∀ a ∈ ass.flatten, a.IsComplete) ∧
      Atom.expression ass.flatten = Token.expressionAll segment overrides ts ∧
      Atom.allMarks ass.flatten = Token.writtenAll segment overrides ts ∧
      ass.flatten.map Atom.marks = ts.flatMap (Token.writtenByAtom segment overrides) := by
  induction h with
  | nil => exact ⟨by simp, rfl, rfl, rfl⟩
  | @cons t as ts ass ht _ ih =>
      obtain ⟨hcomplete, hexpression, hmarks, hbyAtom⟩ := ih
      refine ⟨fun a ha => ?_, ?_, ?_, ?_⟩
      · rcases List.mem_append.1 ha with ha | ha
        · exact ht.complete a ha
        · exact hcomplete a ha
      · rw [List.flatten_cons, Atom.text_append, ht.expression, hexpression, Token.expressionAll]
      · rw [List.flatten_cons, Atom.allMarks_append, ht.written, hexpression, hmarks,
          Token.writtenAll]
      · rw [List.flatten_cons, List.map_append, ht.byAtom, hbyAtom, List.flatMap_cons]

theorem writes_of_tokenAtoms {t : Token} {depth : Nat} {as : List Atom}
    (hwhole : ∀ v ∈ t.vars depth,
      IsWhole (effectiveConstraint overrides segment v.name v.constraint))
    (h : tokenAtoms source segment overrides t = .ok as) : Writes segment overrides t as := by
  induction t using Token.induct generalizing depth as with
  | text content =>
      rw [tokenAtoms_text] at h
      cases h
      refine ⟨fun a ha => ?_, ?_, ?_, ?_⟩
      · obtain ⟨c, -, rfl⟩ := List.mem_map.1 ha
        exact Atom.isComplete_char c
      · rw [Atom.expression, List.flatMap_map, Token.expression]
        rfl
      · rw [allMarks_char, Token.written]
      · rw [Token.writtenByAtom, List.map_map]
        rfl
  | var name own default =>
      obtain ⟨count, hcheck, rfl⟩ := tokenAtoms_var.1 h
      have hwhole := hwhole ⟨name, depth, own, default⟩ (by simp [Token.vars])
      obtain ⟨hcomplete, hmarks⟩ := isComplete_ofVariable hwhole.complete hwhole.keeps hcheck
      refine ⟨by simpa using hcomplete, ?_, ?_, ?_⟩
      · simp [Atom.expression, Atom.text_ofVariable, Token.expression]
      · simp [Atom.allMarks, hmarks, Atom.expression, Token.written]
      · simp [hmarks, Token.writtenByAtom, Token.written]
  | optional inner ih =>
      obtain ⟨ass, hass, rfl⟩ := tokenAtoms_optional.1 h
      have hinner : List.Forall₂ (Writes segment overrides) inner ass := by
        refine forall₂_of_mem hass fun t ht bs hbs => ?_
        -- its variables are among those of the whole, one level down
        have hvars : ∀ v ∈ t.vars (depth + 1), v ∈ (Token.optional inner).vars depth := by
          intro v hv
          rw [Token.vars]
          exact List.mem_flatMap.2 ⟨t, ht, hv⟩
        exact ih t ht (fun v hv => hwhole v (hvars v hv)) hbs
      obtain ⟨hcomplete, hexpression, hmarks, -⟩ := writtenAll_of_forall₂ hinner
      have hmark := Atom.marks_optional fun a ha => (hcomplete a ha).toIsSound
      rw [hmarks] at hmark
      refine ⟨by simpa using Atom.isComplete_optional hcomplete, ?_, ?_, ?_⟩
      · rw [Token.expression, ← hexpression]
        simp [Atom.expression, Atom.text_optional]
      · simp [Atom.allMarks, hmark, Atom.expression, Token.written]
      · simp [hmark, Token.writtenByAtom, Token.written]

/-- **The atoms of a pattern with complete constraints** are complete, and hold its variables where
it writes them. -/
theorem writes_of_atoms {p : Pattern} {as : List Atom}
    (hwhole : ∀ c ∈ p.constraints segment overrides, IsWhole c)
    (h : p.atoms segment overrides = .ok as) :
    (∀ a ∈ as, a.IsComplete) ∧ as.map Atom.marks = p.writtenByAtom segment overrides := by
  obtain ⟨ass, hass, rfl⟩ := atoms_eq_ok.1 h
  have hvars : ∀ t ∈ p.tokens, ∀ v ∈ t.vars 0, v ∈ p.vars :=
    fun t ht v hv => List.mem_flatMap.2 ⟨t, ht, hv⟩
  have hwrites : List.Forall₂ (Writes segment overrides) p.tokens ass :=
    forall₂_of_mem hass fun t ht bs hbs => writes_of_tokenAtoms
      (fun v hv => hwhole _ (List.mem_map.2 ⟨v, hvars t ht v hv, rfl⟩)) hbs
  obtain ⟨hcomplete, -, -, hbyAtom⟩ := writtenAll_of_forall₂ hwrites
  exact ⟨hcomplete, hbyAtom⟩

end Pattern

end Signpost
