import Signpost.Proofs.Collection.Compiled

/-!
# Collections — what can go wrong

The errors of a compilation, by where they come from: a route that cannot be compiled by itself
(`Error.IsOfRoute`), a route or a name that comes twice, an expression that the engine refuses, or
data that contradict each other.

* `Route.isOfRoute_of_compile`: a route is refused for what it says itself.
* `Collection.compile_error_cases`: where the error of a collection comes from.
-/

namespace Signpost

theorem bind_eq_error {ε α β : Type} {x : Except ε α} {f : α → Except ε β} {e : ε} :
    (x >>= f) = .error e ↔ x = .error e ∨ ∃ a, x = .ok a ∧ f a = .error e := by
  cases x with
  | error e' => simp [bind, Except.bind]
  | ok a => simp [bind, Except.bind]

/-- A computation on a list fails at one of its entries. -/
theorem exists_of_mapM_eq_error {ε α β : Type} {f : α → Except ε β} {l : List α} {e : ε}
    (h : l.mapM f = .error e) : ∃ a ∈ l, f a = .error e := by
  induction l with
  | nil => cases h
  | cons a l ih =>
      rw [List.mapM_cons] at h
      rcases bind_eq_error.1 h with ha | ⟨b, -, h⟩
      · exact ⟨a, List.mem_cons_self, ha⟩
      · rcases bind_eq_error.1 h with hl | ⟨bs, -, h⟩
        · obtain ⟨a', ha', herror⟩ := ih hl
          exact ⟨a', List.mem_cons_of_mem a ha', herror⟩
        · cases h

theorem mapError_eq_error {ε ε' α : Type} {f : ε → ε'} {x : Except ε α} {e : ε'}
    (h : x.mapError f = .error e) : ∃ e', x = .error e' ∧ e = f e' := by
  cases x with
  | error e' => exact ⟨e', rfl, (Except.error.inj h).symm⟩
  | ok a => cases h

/-- What is wrong with a route by itself: a pattern, a constraint or its methods. -/
inductive Error.IsOfRoute : Error → Prop where
  | pattern (source fragment : String) (fault : PatternFault) :
      IsOfRoute (.pattern source fragment fault)
  | constraint (source name : String) : IsOfRoute (.constraint source name)
  | noMethods (route : String) : IsOfRoute (.noMethods route)

/-! ### Patterns -/

namespace PatternReader

variable {fault : List Char → PatternFault → Error} {e : Error}

theorem stepInside_eq_error {r : PatternReader} {v : OpenVariable} {c : Char}
    (h : r.stepInside fault v c = .error e) : ∃ fragment cause, e = fault fragment cause := by
  unfold stepInside at h
  split at h
  case isTrue => cases h
  case isFalse =>
    split at h
    case h_3 =>
      obtain ⟨cause, -, rfl⟩ := mapError_eq_error h
      exact ⟨_, cause, rfl⟩
    all_goals cases h

theorem stepOutside_eq_error {r : PatternReader} {c : Char} {text : List Char}
    (h : r.stepOutside fault c text = .error e) : ∃ fragment cause, e = fault fragment cause := by
  unfold stepOutside at h
  split at h
  case h_3 =>
    split at h
    case h_1 => exact ⟨_, _, (Except.error.inj h).symm⟩
    case h_2 =>
      split at h
      case isTrue => exact ⟨_, _, (Except.error.inj h).symm⟩
      case isFalse => cases h
  case h_4 => exact ⟨_, _, (Except.error.inj h).symm⟩
  all_goals cases h

theorem finish_eq_error {r : PatternReader} (h : r.finish fault = .error e) :
    ∃ fragment cause, e = fault fragment cause := by
  unfold finish at h
  split at h
  case h_3 => cases h
  all_goals exact ⟨_, _, (Except.error.inj h).symm⟩

/-- Every fault of a pattern is reported with the fragment that it begins with. -/
theorem run_eq_error {r : PatternReader} {cs : List Char} (h : r.run fault cs = .error e) :
    ∃ fragment cause, e = fault fragment cause := by
  induction cs generalizing r with
  | nil => exact finish_eq_error h
  | cons c cs ih =>
      rw [run] at h
      split at h
      case h_1 =>
        rcases bind_eq_error.1 h with hstep | ⟨r', -, hrun⟩
        · exact stepInside_eq_error hstep
        · exact ih hrun
      case h_2 =>
        rcases bind_eq_error.1 h with hstep | ⟨r', -, hrun⟩
        · exact stepOutside_eq_error hstep
        · exact ih hrun

end PatternReader

variable [Regex.Engine]

namespace Pattern

variable {e : Error}

omit [Regex.Engine] in
theorem isOfRoute_of_parse {source : String} (h : parse source = .error e) : e.IsOfRoute := by
  rcases bind_eq_error.1 h with hrun | ⟨tokens, -, h⟩
  · obtain ⟨fragment, cause, rfl⟩ := PatternReader.run_eq_error hrun
    exact .pattern _ _ _
  · cases h

theorem isOfRoute_of_checkConstraint {source name constraint : String}
    (h : checkConstraint source name constraint = .error e) : e.IsOfRoute := by
  unfold checkConstraint at h
  split at h
  case h_1 =>
    obtain rfl := Except.error.inj h
    exact .constraint source name
  case h_2 =>
    split at h
    case isTrue =>
      obtain rfl := Except.error.inj h
      exact .pattern _ _ _
    case isFalse => cases h

theorem isOfRoute_of_tokenAtoms {source segment : String} {overrides : Dict String} {t : Token}
    (h : tokenAtoms source segment overrides t = .error e) : e.IsOfRoute := by
  induction t using Token.induct with
  | text content =>
      rw [tokenAtoms_text] at h
      cases h
  | var name own default =>
      simp only [tokenAtoms] at h
      rcases bind_eq_error.1 h with hcheck | ⟨count, -, h⟩
      · exact isOfRoute_of_checkConstraint hcheck
      · cases h
  | optional inner ih =>
      simp only [tokenAtoms] at h
      rcases bind_eq_error.1 h with hinner | ⟨atoms, -, h⟩
      · obtain ⟨t, ht, herror⟩ := exists_of_mapM_eq_error hinner
        exact ih t ht herror
      · cases h

theorem isOfRoute_of_atoms {p : Pattern} {segment : String} {overrides : Dict String}
    (h : p.atoms segment overrides = .error e) : e.IsOfRoute := by
  rcases bind_eq_error.1 h with htokens | ⟨atoms, -, h⟩
  · obtain ⟨t, -, herror⟩ := exists_of_mapM_eq_error htokens
    exact isOfRoute_of_tokenAtoms herror
  · cases h

end Pattern

/-! ### Routes -/

variable {e : Error}

/-- **A route is refused for what it says itself.** -/
theorem Route.isOfRoute_of_compile {r : Route} (h : r.compile = .error e) : e.IsOfRoute := by
  by_cases hmethods : r.methods = []
  · rw [compile_noMethods hmethods] at h
    obtain rfl := Except.error.inj h
    exact .noMethods _
  · have hempty : ¬ r.methods.isEmpty = true := fun hnil => hmethods (List.isEmpty_iff.1 hnil)
    simp only [compile, if_neg hempty] at h
    split at h
    case isTrue =>
      obtain rfl := Except.error.inj h
      exact .pattern _ _ _
    case isFalse =>
      rcases bind_eq_error.1 h with hparse | ⟨p, -, h⟩
      · exact Pattern.isOfRoute_of_parse hparse
      rcases bind_eq_error.1 h with hatoms | ⟨atoms, -, h⟩
      · exact Pattern.isOfRoute_of_atoms hatoms
      split at h
      case h_1 =>
        rcases bind_eq_error.1 h with hparse | ⟨host, -, h⟩
        · exact Pattern.isOfRoute_of_parse hparse
        rcases bind_eq_error.1 h with hatoms | ⟨hostAtoms, -, h⟩
        · exact Pattern.isOfRoute_of_atoms hatoms
        cases h
      case h_2 => cases h

/-! ### Collections -/

namespace Matcher

/-- Data without a fault can be refused for an expression only. -/
theorem ofData_eq_error {d : Data} (h : ofData d = .error e) :
    (∃ fault, d.fault? = some fault ∧ e = .badMatcher fault) ∨ ∃ fault, e = .regex fault := by
  unfold ofData at h
  split at h
  case h_1 fault hfault => exact .inl ⟨fault, hfault, (Except.error.inj h).symm⟩
  case h_2 =>
    have hcompile : ∀ expression, d.compile expression = .error e → ∃ fault, e = .regex fault :=
      fun expression herror => by
        obtain ⟨fault, -, rfl⟩ := mapError_eq_error herror
        exact ⟨fault, rfl⟩
    rcases bind_eq_error.1 h with hchunks | ⟨chunks, -, h⟩
    · obtain ⟨chunk, -, herror⟩ := exists_of_mapM_eq_error hchunks
      exact .inr (hcompile _ herror)
    rcases bind_eq_error.1 h with hleaves | ⟨leaves, -, h⟩
    · obtain ⟨leaf, -, herror⟩ := exists_of_mapM_eq_error hleaves
      exact .inr (hcompile _ herror)
    rcases bind_eq_error.1 h with hhosts | ⟨hosts, -, h⟩
    · obtain ⟨rule, -, herror⟩ := exists_of_mapM_eq_error hhosts
      split at herror
      case h_1 host hhost =>
        rcases hcompiled : d.compile host.expression with e' | r
        · rw [hcompiled] at herror
          obtain rfl : e' = e := Except.error.inj herror
          exact .inr (hcompile _ hcompiled)
        · rw [hcompiled] at herror
          cases herror
      case h_2 => cases herror
    · cases h

end Matcher

namespace Collection

theorem compileRoutes_eq_error {before : List (Route × CompiledRoute)} {rs : List Route}
    (h : compileRoutes before rs = .error e) :
    e.IsOfRoute ∨ ∃ first second, e = .duplicateRoute first second := by
  induction rs generalizing before with
  | nil => cases h
  | cons r rs ih =>
      rcases bind_eq_error.1 h with hroute | ⟨compiled, -, h⟩
      · exact .inl (Route.isOfRoute_of_compile hroute)
      · split at h
        case h_1 => exact .inr ⟨_, _, (Except.error.inj h).symm⟩
        case h_2 => exact ih h

/-- The data of the machine's expressions, or the fault that it ends with. -/
theorem matcherData_eq_error {options : CompileOptions} {compiled : List CompiledRoute}
    (h : matcherData options compiled = .error e) : ∃ fault, e = .regex fault := by
  rcases bind_eq_error.1 h with hmerge | ⟨merged, -, h⟩
  · rcases mergeChunks_start options
        ((sharedLeaves 0 compiled []).map SharedLeaf.atoms) with
      ⟨merged, n, hok, -⟩ | ⟨fault, s, n, herror, -, -⟩
    · rw [hok] at hmerge
      cases hmerge
    · rw [herror] at hmerge
      exact ⟨fault, (Except.error.inj hmerge).symm⟩
  · cases h

/-- **Where the error of a collection comes from**: a route, a name that comes twice, a route that
comes twice, an expression that the engine refuses, or data with a fault. -/
theorem compile_error_cases {c : Collection} {options : CompileOptions}
    (h : c.compile options = .error e) :
    e.IsOfRoute ∨ (∃ name, e = .duplicateName name) ∨
      (∃ first second, e = .duplicateRoute first second) ∨ (∃ fault, e = .regex fault) ∨
      ∃ compiled d fault, List.Forall₂ (fun r c => r.compile = .ok c) c.routes compiled ∧
        matcherData options compiled = .ok d ∧ d.fault? = some fault ∧ e = .badMatcher fault := by
  unfold compile at h
  split at h
  case h_1 name _ => exact .inr (.inl ⟨name, (Except.error.inj h).symm⟩)
  case h_2 =>
    rcases bind_eq_error.1 h with hroutes | ⟨all, hall, h⟩
    · rcases compileRoutes_eq_error hroutes with hroute | hduplicate
      · exact .inl hroute
      · exact .inr (.inr (.inl hduplicate))
    obtain ⟨compiled, hcompiled, heq⟩ := compileRoutes_eq_ok hall
    rw [List.map_nil, List.nil_append] at heq
    rw [heq] at h
    rcases bind_eq_error.1 h with hdata | ⟨d, hdata, h⟩
    · exact .inr (.inr (.inr (.inl (matcherData_eq_error hdata))))
    rcases Matcher.ofData_eq_error h with ⟨fault, hfault, rfl⟩ | hregex
    · exact .inr (.inr (.inr (.inr ⟨compiled, d, fault, hcompiled, hdata, hfault, rfl⟩)))
    · exact .inr (.inr (.inr (.inl hregex)))

end Collection

end Signpost
