import Signpost.Proofs.Pattern.Written
import Signpost.Proofs.Regex.Spelling
import Signpost.Url.Generate

/-!
# Patterns — what is written for a pattern

The generator writes a pattern token by token and checks each value against its constraint alone.
The expression of the pattern has the same tokens, so it takes the text that is written, provided
that each constraint takes its value where it stands (`Writer.Carries`).  That follows from the
check of the generator when the constraint is a complete expression that does not look at the text
around it (`Pattern.IsLocal`), and when it is read under the same flags.

* `Writer.carries_of_isLocal`: what the check of the generator says about a value in its place.
* `Writer.takes_writePattern`: the expression of a pattern takes what is written for it.
-/

namespace Signpost

open Regex (Node Reader Piece Flags Floats Takes Adds)

/-! ### Constraints that can stand anywhere -/

/-- What is matched between anchors leads from one end of the text to the other. -/
theorem Regex.reaches_of_isMatch {whole : Node} {value : String}
    (h : (Regex.mk (.cat (.look .textStart) (.cat whole (.look .textEnd)))).isMatch value) :
    whole.Reaches value.toList.toArray 0 value.toList.length := by
  rw [isMatch, captures?, Option.isSome_map] at h
  obtain ⟨j, i, ⟨-, rfl⟩, k, hreaches, hend, -⟩ := (Node.isSome_search? rfl).1 h
  have hle := (hreaches.stays (Nat.zero_le _)).2
  have hge : value.toList.length ≤ k := by simpa [Look.holdsAt, Look.holdsBetween] using hend
  rwa [Nat.le_antisymm (by simpa using hle) hge] at hreaches

namespace Pattern

variable {source name constraint segment : String} {overrides : Dict String} {count : Nat}

/-- Whether a constraint is a complete expression by itself that does not look at the text around
it. -/
structure IsLocal (constraint : String) : Prop extends IsWhole constraint where
  inward : (Node.ofText? constraint.toList).any Node.looksAround = false

/-- A constraint in its parentheses does not depend on what is around it, and leads wherever the
check of the generator does. -/
theorem exists_adds_of_isLocal [Regex.Engine] (h : IsLocal constraint)
    (hcheck : checkConstraint source name constraint = .ok count) :
    ∃ pieces n, Adds {} (parenthesized constraint) pieces n ∧ Piece.AreLocal pieces ∧
      ∀ r, Regex.compile (anchoredConstraint constraint) Regex.defaultSizeLimit = .ok r →
        ∀ value : String, r.isMatch value →
          Piece.Leads value.toList.toArray pieces 0 value.toList.length := by
  obtain ⟨whole, hwhole⟩ := Option.isSome_iff_exists.1 h.complete
  obtain ⟨checked, hchecked, hnames, -⟩ := checkConstraint_eq_ok hcheck
  have hnode := Regex.ofText?_of_compile hchecked
  rw [toList_anchoredConstraint] at hnode
  obtain ⟨r, ps, hr, hsealed, -, -, hroot, hpieces⟩ :=
    Regex.ofText?_parenthesized hwhole hnode hnames h.keeps
  have hadds : Adds {} (parenthesized constraint) r.pieces r.captures :=
    .of_trace? Flags.isBare_default hr hsealed.groups hsealed.branches hsealed.flags hsealed.names
      fun _ => ⟨by simp [parenthesized], by simp [parenthesized]⟩
  have hinward : whole.looksAround = false := by simpa [hwhole] using h.inward
  refine ⟨r.pieces, r.captures, hadds, fun p hp => ?_, fun r' hr' value hmatch => ?_⟩
  · have hmem := List.mem_map_of_mem (f := Piece.node) hp
    rw [hpieces] at hmem
    rw [List.mem_singleton.1 hmem]
    exact (Node.looksAround_renumber (· + 1) whole).trans hinward
  · obtain rfl : r' = checked := Except.ok.inj (hr'.symm.trans hchecked)
    have hwhole : whole.Reaches value.toList.toArray 0 value.toList.length :=
      Regex.reaches_of_isMatch (by rw [← hroot]; exact hmatch)
    have hone : (Piece.sequence r.pieces).node = .group 1 none (whole.renumber (· + 1)) := by
      rw [Piece.node_sequence, List.map_reverse, hpieces]
      rfl
    rw [Piece.Leads, hone]
    show (whole.renumber (· + 1)).Reaches _ _ _
    rwa [Node.reaches_renumber]

end Pattern

/-! ### What is written -/

namespace Writer

variable {w : Writer} {fs : Flags} {segment : String}

/-- What a variable is constrained by. -/
def constraint (w : Writer) (segment : String) (v : Variable) : String :=
  effectiveConstraint w.route.patterns segment v.name v.constraint

variable [Regex.Engine]

/-- Whether a variable has a constraint that can stand anywhere, and takes every value there that
is written for it. -/
structure Carries (w : Writer) (fs : Flags) (segment : String) (v : Variable) : Prop where
  floats : Floats fs (parenthesized (w.constraint segment v))
  takes  : ∀ value, w.writeVariable segment v.name v.constraint = .ok value →
    Takes fs (parenthesized (w.constraint segment v)) value.toList

theorem writeVariable_eq_ok {name value : String} {own : Option String}
    (h : w.writeVariable segment name own = .ok value) : ∃ r,
      Regex.compile (anchoredConstraint (effectiveConstraint w.route.patterns segment name own))
        Regex.defaultSizeLimit = .ok r ∧ r.isMatch value ∧ w.value? name = some value := by
  unfold writeVariable at h
  split at h
  case h_1 => cases h
  case h_2 given hgiven =>
    simp only at h
    split at h
    case h_1 => cases h
    case h_2 r hr =>
      split at h
      case isTrue hmatch =>
        obtain rfl := Except.ok.inj h
        exact ⟨r, hr, hmatch, hgiven⟩
      case isFalse => cases h

/-- **What the check of the generator says about a value in its place**, when the constraint can be
used and depends on nothing around it. -/
theorem carries_of_isLocal {v : Variable} {source : String} {count : Nat}
    (h : Pattern.IsLocal (w.constraint segment v))
    (hcheck : Pattern.checkConstraint source v.name (w.constraint segment v) = .ok count) :
    w.Carries {} segment v := by
  obtain ⟨pieces, n, hadds, hlocal, hleads⟩ := Pattern.exists_adds_of_isLocal h hcheck
  refine ⟨⟨pieces, n, hadds, hlocal⟩, fun value hvalue => ?_⟩
  obtain ⟨r, hr, hmatch, -⟩ := writeVariable_eq_ok hvalue
  exact ⟨pieces, n, hadds, hlocal, hleads r hr value hmatch⟩

theorem write_text (content : String) : w.write segment (.text content) = .ok content := by
  simp [write]

theorem write_optional {inner : List Token} {s : String}
    (h : w.write segment (.optional inner) = .ok s) :
    inner.any w.mentions = false ∧ s = "" ∨ inner.any w.mentions = true ∧
      ∃ ss, List.Forall₂ (fun t s => w.write segment t = .ok s) inner ss ∧ s = String.join ss := by
  cases hany : inner.any w.mentions with
  | false =>
      rw [write_unmentioned hany] at h
      exact .inl ⟨rfl, (Except.ok.inj h).symm⟩
  | true =>
      simp only [write, hany, if_true] at h
      obtain ⟨ss, hss, hjoin⟩ := bind_eq_ok.1 ((bind_pure_comp _ _).trans h)
      exact .inr ⟨rfl, ss, mapM_eq_ok.1 hss, (Except.ok.inj hjoin).symm⟩

theorem writePattern_eq_ok {p : Pattern} {s : String} (h : w.writePattern segment p = .ok s) :
    ∃ ss, List.Forall₂ (fun t s => w.write segment t = .ok s) p.tokens ss ∧
      s = String.join ss := by
  obtain ⟨ss, hss, hjoin⟩ := bind_eq_ok.1 ((bind_pure_comp _ _).trans h)
  exact ⟨ss, mapM_eq_ok.1 hss, (Except.ok.inj hjoin).symm⟩

end Writer

/-! ### Tokens and patterns -/

namespace Regex.Takes

variable {fs : Flags}

theorem chars (hfs : fs.IsBare) (cs : List Char) : Takes fs (cs.flatMap escapeChar) cs := by
  induction cs with
  | nil => exact .nil
  | cons c cs ih => exact (char hfs c).append ih

end Regex.Takes

namespace Token

variable {w : Writer} {fs : Flags} {segment : String} {overrides : Dict String}

theorem floats_expressionAll {ts : List Token}
    (h : ∀ t ∈ ts, Floats fs (t.expression segment overrides)) :
    Floats fs (expressionAll segment overrides ts) := by
  induction ts with
  | nil => exact .nil
  | cons t ts ih =>
      obtain ⟨ht, hts⟩ := List.forall_mem_cons.1 h
      exact ht.append (ih hts)

theorem takes_expressionAll {ts : List Token} {ss : List String}
    (h : List.Forall₂ (fun t s => Takes fs (t.expression segment overrides) s.toList) ts ss) :
    Takes fs (expressionAll segment overrides ts) (String.join ss).toList := by
  rw [String.toList_join]
  induction h with
  | nil => exact .nil
  | cons ht _ ih => exact ht.append ih

theorem forall_mem_vars_optional {P : Variable → Prop} {inner : List Token} {depth : Nat}
    (h : ∀ v ∈ (Token.optional inner).vars depth, P v) {t : Token} (ht : t ∈ inner) :
    ∀ v ∈ t.vars (depth + 1), P v := by
  intro v hv
  refine h v ?_
  rw [vars]
  exact List.mem_flatMap.2 ⟨t, ht, hv⟩

variable [Regex.Engine]

theorem floats_expression (hfs : fs.IsBare) {t : Token} {depth : Nat}
    (h : ∀ v ∈ t.vars depth, w.Carries fs segment v) :
    Floats fs (t.expression segment w.route.patterns) := by
  induction t using Token.induct generalizing depth with
  | text content => exact (Takes.chars hfs content.toList).floats
  | var name own default => exact (h ⟨name, depth, own, default⟩ (by simp [vars])).floats
  | optional inner ih =>
      rw [expression]
      exact (floats_expressionAll fun t ht => ih t ht (forall_mem_vars_optional h ht)).optional hfs

/-- The expression of a token takes what is written for the token. -/
theorem takes_write (hfs : fs.IsBare) {t : Token} {depth : Nat}
    (h : ∀ v ∈ t.vars depth, w.Carries fs segment v) {s : String}
    (hs : w.write segment t = .ok s) :
    Takes fs (t.expression segment w.route.patterns) s.toList := by
  induction t using Token.induct generalizing depth s with
  | text content =>
      obtain rfl := Except.ok.inj ((Writer.write_text content).symm.trans hs)
      exact .chars hfs _
  | var name own default =>
      rw [Writer.write] at hs
      exact (h ⟨name, depth, own, default⟩ (by simp [vars])).takes s hs
  | optional inner ih =>
      have hinner : ∀ t ∈ inner, ∀ v ∈ t.vars (depth + 1), w.Carries fs segment v :=
        fun t ht => forall_mem_vars_optional h ht
      rw [expression]
      rcases Writer.write_optional hs with ⟨-, rfl⟩ | ⟨-, ss, hss, rfl⟩
      · exact .leftOut hfs (floats_expressionAll fun t ht => floats_expression hfs (hinner t ht))
      · refine .optional hfs (takes_expressionAll (forall₂_of_mem hss fun t ht s hs => ?_))
        exact ih t ht (hinner t ht) hs

end Token

namespace Pattern

variable {source segment : String} {overrides : Dict String}

/-- The expression of the atoms of tokens is that of the tokens. -/
theorem expression_flatten {ts : List Token} {ass : List (List Atom)}
    (h : List.Forall₂ (fun t as => Atom.expression as = t.expression segment overrides) ts ass) :
    Atom.expression ass.flatten = Token.expressionAll segment overrides ts := by
  induction h with
  | nil => rfl
  | cons ht _ ih => rw [List.flatten_cons, Atom.text_append, ht, ih, Token.expressionAll]

variable [Regex.Engine]

theorem expression_of_tokenAtoms {t : Token} {as : List Atom}
    (h : tokenAtoms source segment overrides t = .ok as) :
    Atom.expression as = t.expression segment overrides := by
  induction t using Token.induct generalizing as with
  | text content =>
      obtain rfl := Except.ok.inj ((tokenAtoms_text content).symm.trans h)
      rw [Atom.expression, List.flatMap_map, Token.expression]
      rfl
  | var name own default =>
      obtain ⟨count, -, rfl⟩ := tokenAtoms_var.1 h
      simp [Atom.expression, Atom.text_ofVariable, Token.expression]
  | optional inner ih =>
      obtain ⟨ass, hass, rfl⟩ := tokenAtoms_optional.1 h
      have hinner := expression_flatten (forall₂_of_mem hass fun t ht bs hbs => ih t ht hbs)
      rw [Token.expression, ← hinner]
      simp [Atom.expression, Atom.text_optional]

theorem expression_of_atoms {p : Pattern} {as : List Atom}
    (h : p.atoms segment overrides = .ok as) :
    Atom.expression as = Token.expressionAll segment overrides p.tokens := by
  obtain ⟨ass, hass, rfl⟩ := atoms_eq_ok.1 h
  exact expression_flatten (hass.imp fun _ _ => expression_of_tokenAtoms)

/-- Every constraint of a token with atoms can be used. -/
theorem exists_checkConstraint {t : Token} {depth : Nat} {as : List Atom}
    (h : tokenAtoms source segment overrides t = .ok as) :
    ∀ v ∈ t.vars depth, ∃ count,
      checkConstraint source v.name (effectiveConstraint overrides segment v.name v.constraint) =
        .ok count := by
  induction t using Token.induct generalizing depth as with
  | text content => simp [Token.vars]
  | var name own default =>
      obtain ⟨count, hcount, -⟩ := tokenAtoms_var.1 h
      simpa [Token.vars] using ⟨count, hcount⟩
  | optional inner ih =>
      intro v hv
      obtain ⟨ass, hass, -⟩ := tokenAtoms_optional.1 h
      rw [Token.vars] at hv
      obtain ⟨t, ht, hv⟩ := List.mem_flatMap.1 hv
      obtain ⟨bs, -, hbs⟩ := exists_of_mem_right hass.flip ht
      exact ih t ht hbs v hv

end Pattern

/-- **The expression of a pattern takes what is written for the pattern**, when its variables are
carried. -/
theorem Writer.takes_writePattern [Regex.Engine] {w : Writer} {fs : Flags} (hfs : fs.IsBare)
    {segment : String} {p : Pattern} (h : ∀ v ∈ p.vars, w.Carries fs segment v) {as : List Atom}
    (has : p.atoms segment w.route.patterns = .ok as) {s : String}
    (hs : w.writePattern segment p = .ok s) : Takes fs (Atom.expression as) s.toList := by
  obtain ⟨ss, hss, rfl⟩ := writePattern_eq_ok hs
  rw [Pattern.expression_of_atoms has]
  refine Token.takes_expressionAll (forall₂_of_mem hss fun t ht s hs => ?_)
  exact Token.takes_write hfs (fun v hv => h v (List.mem_flatMap.2 ⟨t, ht, hv⟩)) hs

end Signpost
