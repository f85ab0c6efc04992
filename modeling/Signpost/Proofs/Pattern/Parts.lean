import Mathlib.Data.List.Forall2
import Signpost.Pattern.Fragment
import Signpost.Proofs.Regex.Alternatives
import Signpost.Proofs.Regex.Wrapping

/-!
# Patterns — atoms as parts

What the atoms of a pattern are inside of a larger expression.  The expression of an atom is a part
of it, with as many groups as the atom says, provided that the constraints of its variables stay
inside of their parentheses (`staysInside`); then the atom is *sound* (`Atom.IsSound`).

* `Pattern.isSound_of_atoms`: the atoms of a pattern are sound.
-/

namespace Signpost

open Regex (Piece Paren Reader Node)

/-- What comes of a computation that goes on with the result of another one. -/
theorem bind_eq_ok {ε α β : Type} {x : Except ε α} {f : α → Except ε β} {b : β} :
    (x >>= f) = .ok b ↔ ∃ a, x = .ok a ∧ f a = .ok b := by
  cases x with
  | error e => simp [bind, Except.bind]
  | ok a => simp [bind, Except.bind]

theorem pure_eq_ok {ε α : Type} {a b : α} : (pure a : Except ε α) = .ok b ↔ b = a :=
  ⟨fun h => (Except.ok.inj h).symm, fun h => h ▸ rfl⟩

theorem toOption_eq_some {ε α : Type} {x : Except ε α} {a : α} :
    x.toOption = some a ↔ x = .ok a := by
  cases x <;> simp [Except.toOption]

/-- What is computed from a result, when neither computation fails. -/
theorem exists_ok_of_bind_toOption {ε ε' α β : Type} {x : Except ε α} {f : α → Except ε' β} {b : β}
    (h : (x.toOption.bind fun a => (f a).toOption) = some b) : ∃ a, x = .ok a ∧ f a = .ok b := by
  obtain ⟨a, ha, hb⟩ := Option.bind_eq_some_iff.1 h
  exact ⟨a, toOption_eq_some.1 ha, toOption_eq_some.1 hb⟩

/-- All results of a computation that may fail. -/
theorem mapM_eq_ok {ε α β : Type} {f : α → Except ε β} {l : List α} {bs : List β} :
    l.mapM f = .ok bs ↔ List.Forall₂ (fun a b => f a = .ok b) l bs := by
  induction l generalizing bs with
  | nil =>
      rw [List.forall₂_nil_left_iff]
      exact ⟨fun h => (Except.ok.inj h).symm, fun h => h ▸ rfl⟩
  | cons a l ih =>
      rw [List.mapM_cons, List.forall₂_cons_left_iff]
      cases ha : f a with
      | error e => simp [bind, Except.bind]
      | ok b =>
          cases hl : l.mapM f with
          | error e =>
              have hnone : ∀ cs, ¬ List.Forall₂ (fun a b => f a = .ok b) l cs := fun cs h => by
                rw [ih.2 h] at hl
                cases hl
              simp [bind, Except.bind, hnone]
          | ok cs =>
              simp only [bind, Except.bind, pure, Except.pure, Except.ok.injEq]
              constructor
              · rintro rfl
                exact ⟨b, cs, rfl, ih.1 hl, rfl⟩
              · rintro ⟨b', cs', rfl, hcs, rfl⟩
                rw [Except.ok.inj (hl.symm.trans (ih.2 hcs))]

/-- What follows for the entries of two lists. -/
theorem forall₂_of_mem {α β : Type} {R S : α → β → Prop} {l : List α} {bs : List β}
    (h : List.Forall₂ R l bs) (hS : ∀ a ∈ l, ∀ b, R a b → S a b) : List.Forall₂ S l bs := by
  induction h with
  | nil => exact .nil
  | cons hab _ ih =>
      obtain ⟨ha, hl⟩ := List.forall_mem_cons.1 hS
      exact .cons (ha _ hab) (ih hl)

theorem exists_of_mem_right {α β : Type} {R : α → β → Prop} {l : List α} {bs : List β}
    (h : List.Forall₂ R l bs) {b : β} (hb : b ∈ bs) : ∃ a ∈ l, R a b := by
  induction h with
  | nil => cases hb
  | @cons a b' l bs hab _ ih =>
      rcases List.mem_cons.1 hb with rfl | hb
      · exact ⟨a, List.mem_cons_self, hab⟩
      · obtain ⟨a', ha', hab'⟩ := ih hb
        exact ⟨a', List.mem_cons_of_mem a ha', hab'⟩

/-! ### Atoms and lists of atoms -/

namespace Atom

/-- The pieces that the expression of an atom is read as. -/
def pieces (a : Atom) : List Piece := (Reader.ofText? a.text).elim [] fun x => x.1.pieces

/-- The capturing parentheses in the expression of an atom. -/
def parens (a : Atom) : List Paren := (Reader.ofText? a.text).elim [] fun x => x.2

/-- Whether an atom is what it says: its expression is a part of every expression that it stands in,
with the groups that are listed, and a segment is an unconstrained variable. -/
structure IsSound (a : Atom) : Prop where
  part    : Regex.IsPart a.text a.captures.length a.pieces a.parens
  segment : ∀ e captures, a = .group e captures true → e = "(" ++ pathSegment ++ ")"

/-- The pieces of an atom are determined by its expression. -/
theorem pieces_eq {a : Atom} {count : Nat} {pieces : List Piece} {parens : List Paren}
    (h : Regex.IsPart a.text count pieces parens) : a.pieces = pieces ∧ a.parens = parens := by
  have hpieces := Regex.IsPart.renumberAll_zero pieces
  simp only [Atom.pieces, Atom.parens, h.ofText?, Option.elim_some, Reader.extend, hpieces,
    List.append_nil, and_self]

theorem isSound_of_isPart {a : Atom} {pieces : List Piece} {parens : List Paren}
    (h : Regex.IsPart a.text a.captures.length pieces parens)
    (segment : ∀ e captures, a = .group e captures true → e = "(" ++ pathSegment ++ ")") :
    a.IsSound := by
  obtain ⟨hpieces, hparens⟩ := pieces_eq h
  exact ⟨by rwa [hpieces, hparens], segment⟩

theorem isSound_char (c : Char) : (Atom.char c).IsSound :=
  isSound_of_isPart (.char c) (by simp)

/-- The pieces of a list of atoms, the last one first. -/
def allPieces : List Atom → List Piece
  | []      => []
  | a :: as => Piece.renumberAll (· + a.captures.length) (allPieces as) ++ a.pieces

/-- The capturing parentheses of a list of atoms. -/
def allParens : List Atom → List Paren
  | []      => []
  | a :: as => a.parens.map (.append (expression as)) ++ allParens as

theorem isPart_expression {as : List Atom} (h : ∀ a ∈ as, a.IsSound) :
    Regex.IsPart (expression as) (as.flatMap captures).length (allPieces as) (allParens as) := by
  induction as with
  | nil => exact .nil
  | cons a as ih =>
      obtain ⟨ha, has⟩ := List.forall_mem_cons.1 h
      rw [List.flatMap_cons, List.length_append]
      exact ha.part.append (ih has)

/-- Atoms that may be left out, as one atom. -/
def optional (as : List Atom) : Atom :=
  .group ("(?:" ++ String.ofList (expression as) ++ ")?") (as.flatMap captures) false

theorem text_optional (as : List Atom) :
    (optional as).text = ['(', '?', ':'] ++ expression as ++ [')', '?'] := by
  simp [optional, text]

theorem isPart_optional {as : List Atom} (h : ∀ a ∈ as, a.IsSound) :
    Regex.IsPart (optional as).text (optional as).captures.length
      [⟨(Piece.sequence (allPieces as)).node.repeated 0 (some 1) true,
        (Piece.sequence (allPieces as)).depth + 2, true⟩]
      ((allParens as).map (.append [')', '?'])) := by
  rw [text_optional]
  exact (isPart_expression h).optional

theorem isSound_optional {as : List Atom} (h : ∀ a ∈ as, a.IsSound) : (optional as).IsSound :=
  isSound_of_isPart (isPart_optional h) (by simp [optional])

end Atom

/-! ### Constraints -/

/-- An expression that is compiled has been read. -/
theorem Regex.ofText?_of_compile [Regex.Engine] {text : String} {limit : Nat} {r : Regex}
    (h : Regex.compile text limit = .ok r) : Node.ofText? text.toList = some r.root := by
  unfold Regex.compile at h
  split at h
  case h_1 => cases h
  case h_2 n hn =>
    split at h
    case isTrue =>
      cases h
      exact hn
    case isFalse => cases h

/-- A constraint in the parentheses of its variable. -/
def parenthesized (constraint : String) : List Char := '(' :: (constraint.toList ++ [')'])

/-- Whether a constraint in its parentheses leaves nothing open behind them, and has as many groups
in them as its check counts. -/
def staysInside (constraint : String) : Bool :=
  match Reader.ofText? (parenthesized constraint),
    Node.ofText? (anchoredConstraint constraint).toList with
  | some (r, _), some checked =>
    r.groups.isEmpty && r.branches.isEmpty && r.flags = {} && r.names.isEmpty &&
      r.captures = checked.groupCount + 1
  | _, _ => false

namespace Pattern

variable {source name constraint segment : String} {overrides : Dict String} {count : Nat}

theorem toList_anchoredConstraint (constraint : String) : (anchoredConstraint constraint).toList =
    '^' :: '(' :: '?' :: ':' :: (constraint.toList ++ [')', '$']) := by
  simp [anchoredConstraint]

variable [Regex.Engine]

theorem checkConstraint_eq_ok (h : checkConstraint source name constraint = .ok count) :
    ∃ r, Regex.compile (anchoredConstraint constraint) Regex.defaultSizeLimit = .ok r ∧
      r.hasNamedGroup = false ∧ r.groupCount = count := by
  unfold checkConstraint at h
  split at h
  case h_1 => cases h
  case h_2 r hr =>
    split at h
    case isTrue => cases h
    case isFalse hnames =>
      exact ⟨r, hr, by simpa using hnames, Except.ok.inj h⟩

theorem isSealed_of_staysInside (hin : staysInside constraint = true)
    (hcheck : checkConstraint source name constraint = .ok count) :
    ∃ r ps, Reader.ofText? (parenthesized constraint) = some (r, ps) ∧ r.IsSealed ∧
      r.captures = count + 1 := by
  obtain ⟨checked, hchecked, -, rfl⟩ := checkConstraint_eq_ok hcheck
  have hchecked := Regex.ofText?_of_compile hchecked
  unfold staysInside at hin
  split at hin
  case h_1 r ps checked' hr hchecked' =>
    obtain rfl : checked' = checked.root := Option.some.inj (hchecked'.symm.trans hchecked)
    simp only [Bool.and_eq_true, List.isEmpty_iff, decide_eq_true_eq] at hin
    obtain ⟨⟨⟨⟨hgroups, hbranches⟩, hflags⟩, hnames⟩, hcaptures⟩ := hin
    exact ⟨r, ps, hr, ⟨hgroups, hbranches, hflags, hnames⟩, hcaptures⟩
  case h_2 => cases hin

end Pattern

namespace Atom

/-- The atom of a variable whose constraint has `count` groups. -/
def ofVariable (name constraint : String) (count : Nat) : Atom :=
  .group ("(" ++ constraint ++ ")") (some name :: List.replicate count none)
    (constraint = pathSegment)

theorem text_ofVariable (name constraint : String) (count : Nat) :
    (ofVariable name constraint count).text = parenthesized constraint := by
  simp [ofVariable, text, parenthesized]

theorem isPart_ofVariable {name constraint : String} {count : Nat} {r : Reader} {ps : List Paren}
    (hr : Reader.ofText? (parenthesized constraint) = some (r, ps)) (hsealed : r.IsSealed)
    (hcaptures : r.captures = count + 1) :
    Regex.IsPart (ofVariable name constraint count).text
      (ofVariable name constraint count).captures.length r.pieces ps := by
  have hcount : (ofVariable name constraint count).captures.length = r.captures := by
    simp [ofVariable, captures, hcaptures]
  rw [text_ofVariable, hcount]
  exact Regex.isPart_of_isSealed hr hsealed fun _ =>
    ⟨by simp [parenthesized], by simp [parenthesized]⟩

theorem segment_ofVariable {name constraint e : String} {count : Nat}
    {captures : List (Option String)}
    (h : ofVariable name constraint count = .group e captures true) :
    e = "(" ++ pathSegment ++ ")" := by
  simp only [ofVariable, group.injEq, decide_eq_true_eq] at h
  obtain ⟨rfl, -, rfl⟩ := h
  rfl

end Atom

/-! ### The atoms of a token -/

/-- Induction on a token, with the hypothesis for every token in an optional segment. -/
@[elab_as_elim]
theorem Token.induct {motive : Token → Prop} (text : ∀ content, motive (.text content))
    (var : ∀ name constraint default, motive (.var name constraint default))
    (optional : ∀ inner, (∀ t ∈ inner, motive t) → motive (.optional inner)) : ∀ t, motive t
  | .text content                => text content
  | .var name constraint default => var name constraint default
  | .optional inner              => optional inner fun t _ => induct text var optional t

namespace Pattern

variable {source segment : String} {overrides : Dict String}

variable [Regex.Engine]

theorem tokenAtoms_text (content : String) :
    tokenAtoms source segment overrides (.text content) = .ok (content.toList.map .char) := by
  simp [tokenAtoms]

theorem tokenAtoms_var {name : String} {own default : Option String} {as : List Atom} :
    tokenAtoms source segment overrides (.var name own default) = .ok as ↔
      ∃ count, checkConstraint source name (effectiveConstraint overrides segment name own) =
          .ok count ∧
        as = [.ofVariable name (effectiveConstraint overrides segment name own) count] := by
  simp only [tokenAtoms, bind_eq_ok, pure_eq_ok, Atom.ofVariable]

theorem tokenAtoms_optional {inner : List Token} {as : List Atom} :
    tokenAtoms source segment overrides (.optional inner) = .ok as ↔
      ∃ ass, List.Forall₂ (fun t bs => tokenAtoms source segment overrides t = .ok bs) inner ass ∧
        as = [.optional ass.flatten] := by
  simp only [tokenAtoms, bind_eq_ok, mapM_eq_ok, pure_eq_ok, Atom.optional]

/-- What each token gives each of its atoms. -/
theorem forall_mem_flatten_of_forall₂ {P : Atom → Prop} {ts : List Token}
    {ass : List (List Atom)}
    (h : List.Forall₂ (fun t bs => tokenAtoms source segment overrides t = .ok bs) ts ass)
    (each : ∀ t ∈ ts, ∀ bs, tokenAtoms source segment overrides t = .ok bs → ∀ a ∈ bs, P a) :
    ∀ a ∈ ass.flatten, P a := by
  induction h with
  | nil => simp
  | @cons t bs ts ass ht _ ih =>
      intro a ha
      rcases List.mem_append.1 ha with ha | ha
      · exact each t List.mem_cons_self bs ht a ha
      · exact ih (fun t ht => each t (List.mem_cons_of_mem _ ht)) a ha

/-- What holds of characters, of the variables of a token, and of what may be left out, holds of the
atoms of the token. -/
theorem forall_mem_of_tokenAtoms {P : Atom → Prop} (char : ∀ c, P (.char c))
    (optional : ∀ as, (∀ a ∈ as, P a) → P (.optional as)) {t : Token} {depth : Nat}
    {as : List Atom}
    (hvar : ∀ v ∈ t.vars depth, ∀ count,
      checkConstraint source v.name (effectiveConstraint overrides segment v.name v.constraint) =
          .ok count →
        P (.ofVariable v.name (effectiveConstraint overrides segment v.name v.constraint) count))
    (h : tokenAtoms source segment overrides t = .ok as) : ∀ a ∈ as, P a := by
  induction t using Token.induct generalizing depth as with
  | text content =>
      intro a ha
      rw [tokenAtoms_text] at h
      cases h
      obtain ⟨c, -, rfl⟩ := List.mem_map.1 ha
      exact char c
  | var name own default =>
      intro a ha
      obtain ⟨count, hcheck, rfl⟩ := tokenAtoms_var.1 h
      obtain rfl := List.mem_singleton.1 ha
      exact hvar ⟨name, depth, own, default⟩ (by simp [Token.vars]) count hcheck
  | optional inner ih =>
      intro a ha
      obtain ⟨ass, hass, rfl⟩ := tokenAtoms_optional.1 h
      obtain rfl := List.mem_singleton.1 ha
      refine optional _ (forall_mem_flatten_of_forall₂ hass fun t ht bs hbs => ?_)
      have hvars : ∀ v ∈ t.vars (depth + 1), v ∈ (Token.optional inner).vars depth := by
        intro v hv
        rw [Token.vars]
        exact List.mem_flatMap.2 ⟨t, ht, hv⟩
      exact ih t ht (fun v hv => hvar v (hvars v hv)) hbs

theorem isSound_ofVariable {name constraint : String} {count : Nat}
    (hin : staysInside constraint = true)
    (hcheck : checkConstraint source name constraint = .ok count) :
    (Atom.ofVariable name constraint count).IsSound := by
  obtain ⟨r, ps, hr, hsealed, hcaptures⟩ := isSealed_of_staysInside hin hcheck
  exact Atom.isSound_of_isPart (Atom.isPart_ofVariable hr hsealed hcaptures)
    fun e captures => Atom.segment_ofVariable

theorem isSound_of_tokenAtoms {t : Token} {depth : Nat} {as : List Atom}
    (hin : ∀ v ∈ t.vars depth,
      staysInside (effectiveConstraint overrides segment v.name v.constraint) = true)
    (h : tokenAtoms source segment overrides t = .ok as) : ∀ a ∈ as, a.IsSound :=
  forall_mem_of_tokenAtoms Atom.isSound_char (fun _ => Atom.isSound_optional)
    (fun v hv _ hcheck => isSound_ofVariable (hin v hv) hcheck) h

/-- The effective constraints of the variables of a pattern. -/
def constraints (p : Pattern) (segment : String) (overrides : Dict String) : List String :=
  p.vars.map fun v => effectiveConstraint overrides segment v.name v.constraint

theorem atoms_eq_ok {p : Pattern} {as : List Atom} :
    p.atoms segment overrides = .ok as ↔ ∃ ass,
      List.Forall₂ (fun t bs => tokenAtoms p.source segment overrides t = .ok bs) p.tokens ass ∧
      as = ass.flatten := by
  simp only [atoms, bind_eq_ok, mapM_eq_ok, pure_eq_ok]

/-- What holds of characters, of the variables of a pattern, and of what may be left out, holds of
the atoms of the pattern. -/
theorem forall_mem_of_atoms {P : Atom → Prop} (char : ∀ c, P (.char c))
    (optional : ∀ as, (∀ a ∈ as, P a) → P (.optional as)) {p : Pattern} {as : List Atom}
    (hvar : ∀ constraint ∈ p.constraints segment overrides, ∀ name count,
      checkConstraint p.source name constraint = .ok count → P (.ofVariable name constraint count))
    (h : p.atoms segment overrides = .ok as) : ∀ a ∈ as, P a := by
  obtain ⟨ass, hass, rfl⟩ := atoms_eq_ok.1 h
  refine forall_mem_flatten_of_forall₂ hass fun t ht bs hbs => ?_
  have hvars : ∀ v ∈ t.vars 0, v ∈ p.vars := fun v hv => List.mem_flatMap.2 ⟨t, ht, hv⟩
  exact forall_mem_of_tokenAtoms char optional
    (fun v hv count => hvar _ (List.mem_map.2 ⟨v, hvars v hv, rfl⟩) v.name count) hbs

/-- **The atoms of a pattern are sound** when its constraints stay inside of their parentheses. -/
theorem isSound_of_atoms {p : Pattern} {as : List Atom}
    (hin : ∀ c ∈ p.constraints segment overrides, staysInside c = true)
    (h : p.atoms segment overrides = .ok as) : ∀ a ∈ as, a.IsSound :=
  forall_mem_of_atoms Atom.isSound_char (fun _ => Atom.isSound_optional)
    (fun c hc _ _ hcheck => isSound_ofVariable (hin c hc) hcheck) h

end Pattern

end Signpost
