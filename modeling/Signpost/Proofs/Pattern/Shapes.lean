import Signpost.Proofs.Pattern.Parts

/-!
# Patterns — the groups that an expression shows

No text goes on in two ways from the atoms of a pattern: a character is escaped unless it stands
for itself, a variable opens a group, and what may be left out opens one with a question mark behind
the parenthesis.  A constraint that is complete by itself ends where its parentheses do.  So an
expression shows its atoms one by one, and which of their groups hold variables.

The constraints have to be complete: a variable between parentheses `x)(y` looks like two of them.

* `Atom.IsDelimited.shape_eq`: the expression determines which groups hold variables.
* `Pattern.isDelimited_of_atoms`: the atoms of a pattern with complete constraints are delimited.
-/

namespace Signpost

open Regex (Node metaChars escapeChar)

namespace Regex

variable {c d : Char} {rest rest' : List Char}

theorem escapeChar_of_mem (h : c ∈ metaChars) : escapeChar c = ['\\', c] :=
  if_pos (List.contains_iff_mem.2 h)

theorem escapeChar_of_not_mem (h : c ∉ metaChars) : escapeChar c = [c] :=
  if_neg fun hc => h (List.contains_iff_mem.1 hc)

/-- A character with a meaning of its own comes behind a backslash only. -/
theorem head_escapeChar_ne (hd : d ∈ metaChars) (hne : d ≠ '\\') :
    escapeChar c ++ rest ≠ d :: rest' := by
  intro h
  by_cases hc : c ∈ metaChars
  · rw [escapeChar_of_mem hc] at h
    exact hne (List.cons.inj h).1.symm
  · rw [escapeChar_of_not_mem hc] at h
    exact hc ((List.cons.inj h).1 ▸ hd)

/-- The text behind the expression of a character determines the character. -/
theorem eq_of_escapeChar_append (h : escapeChar c ++ rest = escapeChar d ++ rest') :
    rest = rest' := by
  have hbackslash : '\\' ∈ metaChars := by decide
  by_cases hc : c ∈ metaChars
  · by_cases hd : d ∈ metaChars
    · rw [escapeChar_of_mem hc, escapeChar_of_mem hd] at h
      exact (List.cons.inj (List.cons.inj h).2).2
    · rw [escapeChar_of_mem hc, escapeChar_of_not_mem hd] at h
      exact absurd ((List.cons.inj h).1 ▸ hbackslash) hd
  · by_cases hd : d ∈ metaChars
    · rw [escapeChar_of_not_mem hc, escapeChar_of_mem hd] at h
      exact absurd ((List.cons.inj h).1 ▸ hbackslash) hc
    · rw [escapeChar_of_not_mem hc, escapeChar_of_not_mem hd] at h
      exact (List.cons.inj h).2

/-- A complete expression does not begin like the inside of a group without a capture. -/
theorem head_ne_of_complete {text : List Char} (h : (Node.ofText? text).isSome) :
    text ++ ')' :: rest ≠ '?' :: rest' := by
  intro heq
  obtain ⟨n, hn⟩ := Option.isSome_iff_exists.1 h
  obtain ⟨r, ps, hread, -⟩ := Node.ofText?_eq_some.1 hn
  obtain ⟨m, -, left, hrun, hleft⟩ := Reader.trace?_eq_some.1 hread
  have hhead := head?_ne_of_reads hrun hleft
  cases text with
  | nil => cases (List.cons.inj heq).1
  | cons c cs =>
      obtain ⟨rfl, -⟩ := List.cons.inj heq
      exact hhead rfl

end Regex

namespace Pattern

variable {source source' name name' constraint : String} {count count' : Nat}

variable [Regex.Engine]

/-- An accepted constraint, between its anchors. -/
theorem isSome_of_checkConstraint (h : checkConstraint source name constraint = .ok count) :
    (Node.ofText? ('^' :: '(' :: '?' :: ':' :: (constraint.toList ++ [')', '$']))).isSome := by
  obtain ⟨r, hr, -⟩ := checkConstraint_eq_ok h
  rw [← toList_anchoredConstraint, Regex.ofText?_of_compile hr]
  rfl

/-- The constraint alone says how many groups are in it. -/
theorem count_eq_of_checkConstraint (h : checkConstraint source name constraint = .ok count)
    (h' : checkConstraint source' name' constraint = .ok count') : count = count' := by
  obtain ⟨r, hr, -, rfl⟩ := checkConstraint_eq_ok h
  obtain ⟨r', hr', -, rfl⟩ := checkConstraint_eq_ok h'
  rw [Except.ok.inj (hr.symm.trans hr')]

end Pattern

namespace Atom

/-- For each group of a list of atoms, whether it holds a variable. -/
def shape (as : List Atom) : List Bool := (as.flatMap captures).map Option.isSome

theorem shape_cons (a : Atom) (as : List Atom) : shape (a :: as) = shape [a] ++ shape as := by
  simp [shape]

theorem text_ofVariable_append (name constraint : String) (count : Nat) (rest : List Char) :
    (ofVariable name constraint count).text ++ rest =
      '(' :: (constraint.toList ++ ')' :: rest) := by
  simp [text_ofVariable, parenthesized]

theorem text_optional_append (as : List Atom) (rest : List Char) :
    (optional as).text ++ rest = '(' :: '?' :: ':' :: (expression as ++ ')' :: '?' :: rest) := by
  simp [text_optional]

variable [Regex.Engine]

/-- The atoms of patterns whose constraints are complete. -/
inductive IsDelimited : Atom → Prop
  | char (c : Char) : IsDelimited (.char c)
  | ofVariable {source name constraint : String} {count : Nat}
      (complete : (Node.ofText? constraint.toList).isSome)
      (check : Pattern.checkConstraint source name constraint = .ok count) :
      IsDelimited (ofVariable name constraint count)
  | optional {as : List Atom} (each : ∀ a ∈ as, IsDelimited a) : IsDelimited (optional as)

/-- Whether every text that goes on from an atom goes on from all atoms that it could begin with in
the same way. -/
def IsTold (a : Atom) : Prop :=
  ∀ b : Atom, b.IsDelimited → ∀ rest rest', a.text ++ rest = b.text ++ rest' →
    shape [a] = shape [b] ∧ rest = rest'

theorem text_ne_close {a : Atom} (h : a.IsDelimited) (rest rest' : List Char) :
    a.text ++ rest ≠ ')' :: rest' := by
  cases h with
  | char c => exact Regex.head_escapeChar_ne (by decide) (by decide)
  | ofVariable _ _ =>
      rw [text_ofVariable_append]
      exact fun h => absurd (List.cons.inj h).1 (by decide)
  | optional _ =>
      rw [text_optional_append]
      exact fun h => absurd (List.cons.inj h).1 (by decide)

/-- What holds of each atom holds of the list, in front of a closing parenthesis. -/
theorem shape_of_isTold {as bs : List Atom} (has : ∀ a ∈ as, a.IsDelimited)
    (htold : ∀ a ∈ as, a.IsTold) (hbs : ∀ b ∈ bs, b.IsDelimited) {rest rest' : List Char}
    (h : expression as ++ ')' :: rest = expression bs ++ ')' :: rest') :
    shape as = shape bs ∧ rest = rest' := by
  induction as generalizing bs with
  | nil =>
      cases bs with
      | nil => exact ⟨rfl, (List.cons.inj h).2⟩
      | cons b bs =>
          have htext : b.text ++ (expression bs ++ ')' :: rest') = ')' :: rest := by
            rw [← List.append_assoc]
            exact h.symm
          exact absurd htext (text_ne_close (hbs b List.mem_cons_self) _ _)
  | cons a as ih =>
      obtain ⟨ha, has⟩ := List.forall_mem_cons.1 has
      obtain ⟨htold, hrest⟩ := List.forall_mem_cons.1 htold
      cases bs with
      | nil =>
          have htext : a.text ++ (expression as ++ ')' :: rest) = ')' :: rest' := by
            rw [← List.append_assoc]
            exact h
          exact absurd htext (text_ne_close ha _ _)
      | cons b bs =>
          obtain ⟨hb, hbs⟩ := List.forall_mem_cons.1 hbs
          have htext : a.text ++ (expression as ++ ')' :: rest) =
              b.text ++ (expression bs ++ ')' :: rest') := by
            rw [← List.append_assoc, ← List.append_assoc]
            exact h
          obtain ⟨hshape, htext⟩ := htold b hb _ _ htext
          obtain ⟨hshapes, hrest⟩ := ih has hrest hbs htext
          exact ⟨by rw [shape_cons a, shape_cons b, hshape, hshapes], hrest⟩

theorem isTold_char (c : Char) : (Atom.char c).IsTold := by
  intro b hb rest rest' h
  cases hb with
  | char d => exact ⟨rfl, Regex.eq_of_escapeChar_append h⟩
  | ofVariable _ _ =>
      rw [text_ofVariable_append] at h
      exact absurd h (Regex.head_escapeChar_ne (by decide) (by decide))
  | optional _ =>
      rw [text_optional_append] at h
      exact absurd h (Regex.head_escapeChar_ne (by decide) (by decide))

omit [Regex.Engine] in
theorem shape_ofVariable (name constraint : String) (count : Nat) :
    shape [ofVariable name constraint count] = true :: List.replicate count false := by
  simp [shape, ofVariable, captures]

theorem isTold_ofVariable {source name constraint : String} {count : Nat}
    (hcomplete : (Node.ofText? constraint.toList).isSome)
    (hcheck : Pattern.checkConstraint source name constraint = .ok count) :
    (ofVariable name constraint count).IsTold := by
  intro b hb rest rest' h
  rw [text_ofVariable_append] at h
  cases hb with
  | char d => exact absurd h.symm (Regex.head_escapeChar_ne (by decide) (by decide))
  | ofVariable hcomplete' hcheck' =>
      rw [text_ofVariable_append] at h
      obtain ⟨hconstraint, hrest⟩ := Regex.eq_of_parenthesized hcomplete hcomplete'
        (Pattern.isSome_of_checkConstraint hcheck) (Pattern.isSome_of_checkConstraint hcheck')
        (List.cons.inj h).2
      obtain rfl := String.toList_inj.1 hconstraint
      obtain rfl := Pattern.count_eq_of_checkConstraint hcheck hcheck'
      exact ⟨by rw [shape_ofVariable, shape_ofVariable], hrest⟩
  | optional _ =>
      rw [text_optional_append] at h
      exact absurd (List.cons.inj h).2 (Regex.head_ne_of_complete hcomplete)

theorem isTold_optional {as : List Atom} (has : ∀ a ∈ as, a.IsDelimited)
    (htold : ∀ a ∈ as, a.IsTold) : (optional as).IsTold := by
  intro b hb rest rest' h
  rw [text_optional_append] at h
  cases hb with
  | char d => exact absurd h.symm (Regex.head_escapeChar_ne (by decide) (by decide))
  | ofVariable hcomplete _ =>
      rw [text_ofVariable_append] at h
      exact absurd (List.cons.inj h).2.symm (Regex.head_ne_of_complete hcomplete)
  | @optional bs hbs =>
      rw [text_optional_append] at h
      have hinner : expression as ++ ')' :: '?' :: rest = expression bs ++ ')' :: '?' :: rest' := by
        simpa using h
      obtain ⟨hshape, hrest⟩ := shape_of_isTold has htold hbs hinner
      exact ⟨by simpa [shape, optional, captures] using hshape, (List.cons.inj hrest).2⟩

theorem IsDelimited.isTold {a : Atom} (h : a.IsDelimited) : a.IsTold := by
  induction h with
  | char c => exact isTold_char c
  | ofVariable hcomplete hcheck => exact isTold_ofVariable hcomplete hcheck
  | optional each ih => exact isTold_optional each ih

/-- **The expression shows which groups hold variables.** -/
theorem IsDelimited.shape_eq {as bs : List Atom} (has : ∀ a ∈ as, a.IsDelimited)
    (hbs : ∀ b ∈ bs, b.IsDelimited) (h : expression as = expression bs) : shape as = shape bs :=
  (shape_of_isTold has (fun a ha => (has a ha).isTold) hbs
    (congrArg (· ++ ')' :: []) h)).1

end Atom

/-- **The atoms of a pattern with complete constraints** are delimited. -/
theorem Pattern.isDelimited_of_atoms [Regex.Engine] {p : Pattern} {segment : String}
    {overrides : Dict String} {as : List Atom}
    (hcomplete : ∀ c ∈ p.constraints segment overrides, (Node.ofText? c.toList).isSome)
    (h : p.atoms segment overrides = .ok as) : ∀ a ∈ as, a.IsDelimited :=
  forall_mem_of_atoms .char (fun _ => .optional)
    (fun c hc _ _ hcheck => .ofVariable (hcomplete c hc) hcheck) h

end Signpost
