import Signpost.Proofs.Matcher.Params
import Signpost.Proofs.Merge.Present
import Signpost.Regex.Estimate

/-!
# Matching — which parameters there are, and in which order

A variable has a value when it has captured one or has a default.  The parameters are the variables
of the path with a value, in the order of the pattern and without the names that the host sets
again, and behind them the variables of the host with a value, in the order of its pattern
(`Matcher.Reading.names`).

* `Matcher.Reading.names_params`: the names of what is read, once defaults are filled in.
* `Pattern.isSome_captured?_of_depth`: a variable outside of all optional segments takes part.
* `Matcher.names_of_found`: the parameters of whatever is found in a compiled collection.
-/

namespace Signpost

open Route (Patterns)
open Regex (Node)
open Token (IsRendering)

namespace Matcher

/-! ### Variables that have a value -/

/-- Whether a variable has captured a value or has a default. -/
def hasValue (default? : String → Option String) (values : List (String × Option String))
    (name : String) : Bool :=
  ((captured? values name).or (default? name)).isSome

variable {values : List (String × Option String)}

theorem captured?_of_mem (hnodup : (values.map Prod.fst).Nodup) {v : String × Option String}
    (hv : v ∈ values) : captured? values v.1 = v.2 := by
  induction values with
  | nil => cases hv
  | cons u values ih =>
      obtain ⟨hnew, hnodup⟩ := List.nodup_cons.1 hnodup
      rw [captured?, Dict.lookup_cons]
      rcases List.mem_cons.1 hv with rfl | hv
      · rw [if_pos rfl, Option.join_some]
      · rw [if_neg fun hname : v.1 = u.1 => hnew (hname ▸ List.mem_map_of_mem hv)]
        exact ih hnodup hv

/-- The names that are bound are those of the variables that have a value. -/
theorem map_fst_bound {defaults : Dict String} {default? : String → Option String}
    (hnodup : (values.map Prod.fst).Nodup)
    (hdefault : ∀ name ∈ values.map Prod.fst, defaults.get? name = default? name) :
    (bound defaults values).map Prod.fst =
      (values.map Prod.fst).filter (hasValue default? values) := by
  have hkept : ∀ vs : List (String × Option String), (bound defaults vs).map Prod.fst =
      (vs.filter fun v => (v.2.or (defaults.get? v.1)).isSome).map Prod.fst := by
    intro vs
    induction vs with
    | nil => rfl
    | cons v vs ih =>
        rw [bound, List.filterMap_cons, List.filter_cons]
        cases v.2.or (defaults.get? v.1) with
        | none => exact ih
        | some value => exact congrArg (v.1 :: ·) ih
  rw [hkept, List.filter_map]
  refine congrArg (List.map Prod.fst) (List.filter_congr fun v hv => ?_)
  rw [Function.comp_apply, hasValue, captured?_of_mem hnodup hv,
    hdefault v.1 (List.mem_map_of_mem hv)]

namespace Reading

/-- The names of the parameters: those of the path that the host does not set again, and then those
of the host, each list in the order of its pattern. -/
def names (reading : Reading) (r : Route) (patterns : Patterns) : List String :=
  let default? name := (r.defaults.get? name).or (patterns.default? name)
  let hosts := ((patterns.host.elim [] Pattern.vars).map Variable.name).filter
    (hasValue default? reading.host)
  let paths := (patterns.path.vars.map Variable.name).filter (hasValue default? reading.path)
  paths.filter (· ∉ hosts) ++ hosts

variable {reading : Reading} {r : Route} {patterns : Patterns}

/-- **The names of the parameters**, in order. -/
theorem names_params (h : reading.IsFor patterns) (hnames : patterns.HasNames) :
    (reading.params (patterns.defaults r.defaults)).names = reading.names r patterns := by
  have hpath : (reading.path.map Prod.fst).Nodup := h.path ▸ hnames.path
  have hhost := nodup_host h hnames
  have hdefault : ∀ name, patterns.hasVariable name = true →
      (patterns.defaults r.defaults).get? name =
        (r.defaults.get? name).or (patterns.default? name) := fun name hvar => by
    rw [Patterns.get?_defaults_eq hnames, if_pos hvar]
  have hpaths := map_fst_bound hpath fun name hname =>
    hdefault name ((mem_names_iff h).2 (.inl hname))
  have hhosts := map_fst_bound hhost fun name hname =>
    hdefault name ((mem_names_iff h).2 (.inr hname))
  have hempty : Params.empty.toList = [] := rfl
  rw [params, Params.names, toList_bindAll_eq hhost, toList_bindAll_eq hpath, hempty,
    List.filter_nil, List.nil_append, List.map_append, hhosts, names, ← h.path, ← h.host]
  refine congrArg (· ++ _) ?_
  rw [← hpaths]
  symm
  exact List.filter_map

theorem mem_names {name : String} : name ∈ reading.names r patterns ↔
    let default? name := (r.defaults.get? name).or (patterns.default? name)
    name ∈ patterns.path.vars.map Variable.name ∧ hasValue default? reading.path name = true ∨
      name ∈ (patterns.host.elim [] Pattern.vars).map Variable.name ∧
        hasValue default? reading.host name = true := by
  simp only [names, List.mem_append, List.mem_filter, decide_eq_true_eq]
  tauto

/-- Only variables are among the names. -/
theorem hasVariable_of_mem_names {name : String} (h : name ∈ reading.names r patterns) :
    patterns.hasVariable name = true := by
  obtain ⟨path, host⟩ := patterns
  rw [Patterns.hasVariable_iff]
  rcases mem_names.1 h with ⟨hname, -⟩ | ⟨hname, -⟩
  · exact .inl (List.mem_map.1 hname)
  · cases host with
    | none => cases hname
    | some host => exact .inr ⟨host, rfl, List.mem_map.1 hname⟩

theorem mem_names_of_path {name : String} (hname : name ∈ patterns.path.vars.map Variable.name)
    (h : (captured? reading.path name).isSome) : name ∈ reading.names r patterns :=
  mem_names.2 (.inl ⟨hname, by simp [hasValue, h]⟩)

theorem mem_names_of_host {name : String}
    (hname : name ∈ (patterns.host.elim [] Pattern.vars).map Variable.name)
    (h : (captured? reading.host name).isSome) : name ∈ reading.names r patterns :=
  mem_names.2 (.inr ⟨hname, by simp [hasValue, h]⟩)

end Reading

end Matcher

/-! ### Variables that take part -/

/-- **A variable outside of all optional segments takes part** in every match, of the path or of
the host. -/
theorem Pattern.isSome_captured?_of_depth [Regex.Engine] {p : Pattern} {segment : String}
    {overrides : Dict String} {as : List Atom}
    (hwhole : ∀ c ∈ p.constraints segment overrides, IsWhole c)
    (hnames : (p.vars.map Variable.name).Nodup) (has : p.atoms segment overrides = .ok as)
    {v : Variable} (hv : v ∈ p.vars) (hdepth : v.depth = 0) {n : Node}
    (hn : Node.ofText? (Merged.standalone as).1.toList = some n ∨
      Node.ofText? (Route.hostRule as).expression.toList = some n)
    {text : String} {captures : Regex.Captures}
    (h : (Regex.mk n).captures? text = some captures) :
    (Matcher.captured? (Matcher.valuesOf captures (Merged.standalone as).2) v.name).isSome := by
  obtain ⟨i, hbinding, hcertain⟩ := exists_isCertain_of_depth hwhole has hv hdepth
  have hsound : ∀ a ∈ as, a.IsSound := fun a ha => ((writes_of_atoms hwhole has).1 a ha).toIsSound
  have hsome := Node.isSome_get?_of_certain (Merged.mem_certain_standalone hsound hcertain hn) h
  have hnodup : ((Matcher.valuesOf captures (Merged.standalone as).2).map Prod.fst).Nodup := by
    rwa [Matcher.map_fst_valuesOf, Merged.map_name_standalone, vars_of_atoms has]
  have hvalue : (v.name, captures.get? i) ∈ Matcher.valuesOf captures (Merged.standalone as).2 :=
    List.mem_map.2 ⟨⟨v.name, i⟩, hbinding, rfl⟩
  rwa [Matcher.captured?_of_mem hnodup hvalue]

namespace Matcher

variable {c : Collection} {options : CompileOptions} {m : Matcher} {context : Context}
  {found : Match} {r : Route} {patterns : Patterns} {d : CompiledRoute}

theorem isSome_captured?_path [Regex.Engine] (hasks : r.Asks patterns d)
    (hwhole : ∀ constraint ∈ patterns.path.constraints pathSegment r.patterns,
      Pattern.IsWhole constraint) {path : String} {values : List (String × Option String)}
    (hvalues : d.values? path = some values) {v : Variable} (hv : v ∈ patterns.path.vars)
    (hdepth : v.depth = 0) : (captured? values v.name).isSome := by
  obtain ⟨n, hn, hmatch⟩ := Option.bind_eq_some_iff.1 hvalues
  obtain ⟨captures, hcaptures, rfl⟩ := Option.map_eq_some_iff.1 hmatch
  exact Pattern.isSome_captured?_of_depth hwhole (Patterns.hasNames_of_ofRoute hasks.reads).path
    hasks.atoms hv hdepth (.inl hn) hcaptures

theorem isSome_captured?_host [Regex.Engine] (hasks : r.Asks patterns d) {p : Pattern}
    (hp : patterns.host = some p)
    (hwhole : ∀ constraint ∈ p.constraints hostSegment r.patterns, Pattern.IsWhole constraint)
    {host : String} {values : List (String × Option String)}
    (hvalues : d.requirements.hostValues? host = some values) {v : Variable} (hv : v ∈ p.vars)
    (hdepth : v.depth = 0) : (captured? values v.name).isSome := by
  obtain ⟨as, n, captures, has, hn, hcaptures, rfl⟩ := exists_captures_of_host hasks hp hvalues
  exact Pattern.isSome_captured?_of_depth hwhole
    ((Patterns.hasNames_of_ofRoute hasks.reads).host p hp) has hv hdepth (.inr hn) hcaptures

/-- **Which parameters there are, and in which order.**  Whatever a lookup in a compiled collection
finds, the names of its parameters are different variables of the route, so that no default for
another name is among them: the variables of the path with a value, in the order of the pattern and
without those that the host sets again, and then the variables of the host with a value.  If all
constraints of paths are whole, this holds for the values that the expressions of the route by
themselves read, and each variable of the path outside of all optional segments is there; if those
of the host of the route are whole, so is each variable of the host. -/
theorem names_of_found [Regex.Engine] (h : c.compile options = .ok m)
    (hfound : m.lookup context = .ok (.found found)) :
    ∃ r patterns d, c.routes[found.route]? = some r ∧ Patterns.ofRoute r = .ok patterns ∧
      Route.compile r = .ok d ∧ found.params.names.Nodup ∧
      (∀ name ∈ found.params.names, patterns.hasVariable name = true) ∧
      (∃ reading : Reading, m.Reads context.path found.route reading.path ∧
        d.requirements.hostValues? context.host = some reading.host ∧
        reading.IsFor patterns ∧ found.params.names = reading.names r patterns) ∧
      ((∀ r ∈ c.routes, ∀ p, Pattern.parse r.path = .ok p →
          ∀ constraint ∈ p.constraints pathSegment r.patterns, Pattern.IsWhole constraint) →
        (∃ reading : Reading, d.values? context.path = some reading.path ∧
          d.requirements.hostValues? context.host = some reading.host ∧
          reading.IsFor patterns ∧ found.params.names = reading.names r patterns) ∧
        ∀ v ∈ patterns.path.vars, v.depth = 0 → v.name ∈ found.params.names) ∧
      ∀ p ∈ patterns.host,
        (∀ constraint ∈ p.constraints hostSegment r.patterns, Pattern.IsWhole constraint) →
          ∀ v ∈ p.vars, v.depth = 0 → v.name ∈ found.params.names := by
  obtain ⟨compiled, runs, hmade⟩ := Collection.isMadeOf_of_compile h
  obtain ⟨r, patterns, d, hr, hd, hcompile, hasks, reading, hreads, hhost, hfor, hparams⟩ :=
    exists_reading_of_found hmade hfound
  have hpatterns := Patterns.hasNames_of_ofRoute hasks.reads
  have hnames : found.params.names = reading.names r patterns := by
    rw [hparams, Reading.names_params hfor hpatterns]
  refine ⟨r, patterns, d, hr, hasks.reads, hcompile, found.params.distinct, ?_,
    ⟨reading, hreads, hhost, hfor, hnames⟩, fun hwhole => ?_, ?_⟩
  · intro name hname
    exact Reading.hasVariable_of_mem_names (hnames ▸ hname)
  · obtain ⟨own, hvalues, hhost', hfor', hparams'⟩ :=
      exists_own_reading_of_found hmade hwhole hfound hd hasks
    have hnames' : found.params.names = own.names r patterns := by
      rw [hparams', Reading.names_params hfor' hpatterns]
    refine ⟨⟨own, hvalues, hhost', hfor', hnames'⟩, fun v hv hdepth => ?_⟩
    have hpath := hwhole r (List.mem_of_getElem? hr) _ (Patterns.parses_of_ofRoute hasks.reads).1
    rw [hnames']
    exact Reading.mem_names_of_path (List.mem_map_of_mem hv)
      (isSome_captured?_path hasks hpath hvalues hv hdepth)
  · intro p hp hwhole v hv hdepth
    rw [hnames]
    refine Reading.mem_names_of_host ?_ (isSome_captured?_host hasks hp hwhole hhost hv hdepth)
    rw [Option.mem_def.1 hp]
    exact List.mem_map_of_mem hv

/-- A variable that the path and the host have stands where the host has set it. -/
theorem names_of_tenantPage : ∃ r patterns d,
    (Collection.alone tenantPage).routes[0]? = some r ∧ Patterns.ofRoute r = .ok patterns ∧
      Route.compile r = .ok d ∧
      (∃ reading : Reading, d.values? "/acme/x" = some reading.path ∧
        d.requirements.hostValues? "intra" = some reading.host ∧ reading.IsFor patterns ∧
        ["page", "tenant"] = reading.names r patterns) ∧
      ∀ v ∈ patterns.path.vars, v.depth = 0 → v.name ∈ ["page", "tenant"] := by
  obtain ⟨r, patterns, d, hr, hpatterns, hd, -, -, -, hown, -⟩ :=
    names_of_found compile_alone_tenantPage lookup_tenantPage
  exact ⟨r, patterns, d, hr, hpatterns, hd, hown isWhole_tenantPage⟩

/-! ### A group that no match keeps -/

/-- A route whose first variable has a constraint with a group that is dropped. -/
def dropping : Route where
  path := "/{x}/{y}"
  methods := ["GET"]
  handler := .named "pages"
  patterns := Dict.empty.insert "x" "b(a){0}"

def droppingPatterns : Patterns where
  path := ⟨"/{x}/{y}", [.text "/", .var "x" none none, .text "/", .var "y" none none]⟩
  host := none

def droppingCompiled : CompiledRoute where
  staticPath? := none
  atoms := [.char '/', .ofVariable "x" "b(a){0}" 0, .char '/', .ofVariable "y" pathSegment 0]
  expression := "/(b(a){0})/([^/]+)"
  vars := ["x", "y"]
  requirements := { methods := ["GET"], schemes := [], host := none, defaults := .empty }

def droppingData : Matcher.Data where
  staticPaths := .empty
  chunks := [⟨"^(?:/(b(a){0})/([^/]+)())$", 1⟩]
  leaves := [⟨3, [⟨"x", 1⟩, ⟨"y", 2⟩], "^(?:/(b(a){0})/([^/]+)())$", [⟨"x", 1⟩, ⟨"y", 2⟩], [0]⟩]
  routes := [droppingCompiled.requirements]
  sizeLimit := Regex.defaultSizeLimit

theorem parse_dropping : Pattern.parse dropping.path = .ok droppingPatterns.path := by
  have hlast : IsRendering [.text "/", .var "y" none none] "/{y}".toList :=
    .text "/" (.var .name (by decide) .nil)
  refine Pattern.parse_of_isRendering ⟨?_, ?_⟩ (.text "/" (.var .name (by decide) hlast))
  · exact .segment (.unconstrained (by decide) _) (.segment (.unconstrained (by decide) _) .nil)
  · simp [PatternReader.namesOf, Token.vars]

theorem compile_dropping : dropping.compile = .ok droppingCompiled := by
  have hx : Pattern.checkConstraint "/{x}/{y}" "x" "b(a){0}" = .ok 0 := by rfl
  have hy : Pattern.checkConstraint "/{x}/{y}" "y" pathSegment = .ok 0 := by rfl
  have hatoms : droppingPatterns.path.atoms pathSegment dropping.patterns =
      .ok droppingCompiled.atoms :=
    Pattern.atoms_eq_ok.2 ⟨_, .cons (Pattern.tokenAtoms_text _)
      (.cons (Pattern.tokenAtoms_var.2 ⟨0, hx, rfl⟩) (.cons (Pattern.tokenAtoms_text _)
        (.cons (Pattern.tokenAtoms_var.2 ⟨0, hy, rfl⟩) .nil))), rfl⟩
  have hslash : dropping.path.toList.head? = some '/' := by decide
  have hcompile :=
    Route.compile_of_atoms dropping _ _ (by simp [dropping]) hslash rfl parse_dropping hatoms
  have hdefaults : (Patterns.mk droppingPatterns.path none).defaults dropping.defaults =
    .empty := by
    simp [Patterns.defaults, Pattern.defaults, Pattern.vars, Token.vars, droppingPatterns, dropping]
    rfl
  have htext : Atom.expression droppingCompiled.atoms = "/(b(a){0})/([^/]+)".toList := by
    decide +kernel
  rw [hcompile, hdefaults, htext]
  rfl


def droppingPath : Regex where
  root := .cat (.look .textStart) (.cat (.cat (.char '/') (.cat
    (.group 1 none (.cat (.char 'b') .empty)) (.cat (.char '/') (.cat
      (.group 3 none (.repetition (.set slashless) 1 none true)) (.group 4 none .empty)))))
    (.look .textEnd))

def droppingMatcher : Matcher := ⟨droppingData, [droppingPath], [droppingPath], [none]⟩

theorem ofData_dropping : ofData droppingData = .ok droppingMatcher := by
  have hpath : droppingData.compile "^(?:/(b(a){0})/([^/]+)())$" = .ok droppingPath := by rfl
  have hfault : droppingData.fault? = none := by decide
  rw [ofData, hfault]
  refine bind_eq_ok.2 ⟨_, mapM_eq_ok.2 (.cons hpath .nil), ?_⟩
  refine bind_eq_ok.2 ⟨_, mapM_eq_ok.2 (.cons hpath .nil), ?_⟩
  exact bind_eq_ok.2 ⟨_, mapM_eq_ok.2 (.cons rfl .nil), rfl⟩

theorem compile_alone_dropping :
    (Collection.alone dropping).compile {} = .ok droppingMatcher := by
  obtain ⟨e, hfits⟩ : ∃ e, Regex.compile (Merged.ofFragments .segments
      [droppingCompiled.atoms]).expression Regex.defaultSizeLimit = .ok e := ⟨_, rfl⟩
  have hdata : Collection.matcherData {} [droppingCompiled] = .ok droppingData :=
    Collection.matcherData_singleton rfl hfits
  exact (Collection.compile_alone_eq_ofData compile_dropping hdata).trans ofData_dropping

/-- **A variable outside of all optional segments may be lost**, behind a constraint that is a
complete expression by itself and has a group that no match keeps. -/
theorem lost_of_dropping : (Collection.alone dropping).compile {} = .ok droppingMatcher ∧
    Patterns.ofRoute dropping = .ok droppingPatterns ∧
    (∀ constraint ∈ droppingPatterns.path.constraints pathSegment dropping.patterns,
      (Node.ofText? constraint.toList).isSome) ∧
    ⟨"y", 0, none, none⟩ ∈ droppingPatterns.path.vars ∧
    droppingMatcher.lookup (.of "GET" "/b/z") =
      .ok (.found ⟨0, Params.empty.insert "x" "b"⟩) := by
  have hvars : droppingPatterns.path.vars = [⟨"x", 0, none, none⟩, ⟨"y", 0, none, none⟩] := by
    simp [droppingPatterns, Pattern.vars, Token.vars]
  refine ⟨compile_alone_dropping, Route.ofRoute_of_parse rfl parse_dropping, ?_, ?_,
    toOption_eq_some.1 (by decide +kernel)⟩
  · rw [Pattern.constraints, hvars]
    decide +kernel
  · rw [hvars]
    decide

end Matcher

end Signpost
