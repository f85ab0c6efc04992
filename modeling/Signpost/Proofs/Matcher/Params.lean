import Signpost.Proofs.Collection.Alone
import Signpost.Proofs.Matcher.Found
import Signpost.Proofs.Matcher.Scan
import Signpost.Proofs.Pattern.Grammar
import Signpost.Proofs.Url.Hosts
import Signpost.Regex.Estimate

/-!
# Matching — which value a variable has

A route reads values in the path and in the host of a request (`Matcher.Reading`), and both go
through the same table of defaults, the host last.  So the host has its way, then the path, and then
the default; except that a variable of the host that takes no part is set to its default all the
same, over what the path has captured for that name (`Matcher.Reading.IsDisplaced`).

* `Matcher.Reading.get?_params`: the parameter of a variable.
* `Matcher.get?_of_found`: that of whatever is found in a compiled collection.
-/

namespace Signpost

open Route (Patterns)
open Token (IsRendering)

namespace Matcher

/-- What a variable has captured: nothing when it takes no part in the match. -/
def captured? (values : List (String × Option String)) (name : String) : Option String :=
  (values.lookup name).join

/-- Values for the variables in the path and in the host of a request. -/
structure Reading where
  path : List (String × Option String)
  host : List (String × Option String)

namespace Reading

/-- Whether values are for all variables of a route, in their order. -/
structure IsFor (reading : Reading) (patterns : Patterns) : Prop where
  path : reading.path.map Prod.fst = patterns.path.vars.map Variable.name
  host : reading.host.map Prod.fst = (patterns.host.elim [] Pattern.vars).map Variable.name

/-- The parameters that are set from the path and then from the host. -/
def params (reading : Reading) (defaults : Dict String) : Params :=
  bindAll defaults (bindAll defaults .empty reading.path) reading.host

/-- The value of a variable: what it has captured, in the host or else in the path, or else its
default. -/
def value? (reading : Reading) (default? : Option String) (name : String) : Option String :=
  (captured? reading.host name).or ((captured? reading.path name).or default?)

/-- Whether a default stands over what the path has captured: the host has a variable of the same
name that takes no part. -/
structure IsDisplaced (reading : Reading) (default? : Option String) (name : String) : Prop where
  inHost  : name ∈ reading.host.map Prod.fst
  noPart  : captured? reading.host name = none
  inPath  : (captured? reading.path name).isSome
  default : default?.isSome

/-- Whether each variable of a route has its value as a parameter, but for those that are displaced
by their default. -/
def Settles (reading : Reading) (r : Route) (patterns : Patterns) (params : Params) : Prop :=
  ∀ name, patterns.hasVariable name = true →
    let default? := (r.defaults.get? name).or (patterns.default? name)
    (¬ reading.IsDisplaced default? name → params.get? name = reading.value? default? name) ∧
    (reading.IsDisplaced default? name → params.get? name = default?)

variable {reading : Reading} {r : Route} {patterns : Patterns}

theorem mem_names_iff (h : reading.IsFor patterns) {name : String} :
    patterns.hasVariable name = true ↔
      name ∈ reading.path.map Prod.fst ∨ name ∈ reading.host.map Prod.fst := by
  rw [h.path, h.host, Patterns.hasVariable_iff, List.mem_map, List.mem_map]
  obtain ⟨path, host⟩ := patterns
  cases host with
  | none => simp
  | some host => simp

theorem nodup_host (h : reading.IsFor patterns) (hnames : patterns.HasNames) :
    (reading.host.map Prod.fst).Nodup := by
  rw [h.host]
  obtain ⟨path, host⟩ := patterns
  cases host with
  | none => exact .nil
  | some host => exact hnames.host host rfl

/-- **The parameter of a variable** is its value, unless its default displaces it. -/
theorem get?_params (h : reading.IsFor patterns) (hnames : patterns.HasNames) :
    reading.Settles r patterns (reading.params (patterns.defaults r.defaults)) := by
  intro name hvar default?
  have hdefault : (patterns.defaults r.defaults).get? name = default? := by
    rw [Patterns.get?_defaults_eq hnames, if_pos hvar]
  have hget : (reading.params (patterns.defaults r.defaults)).get? name =
      ((reading.host.lookup name).bind fun v => v.or default?).or
        ((reading.path.lookup name).bind fun v => v.or default?) := by
    have hpath : (reading.path.map Prod.fst).Nodup := h.path ▸ hnames.path
    have hempty : Params.empty.get? name = none := rfl
    rw [params, get?_bindAll (nodup_host h hnames), get?_bindAll hpath, hempty, Option.or_none,
      hdefault]
  have hmem := (mem_names_iff h).1 hvar
  rw [← Dict.isSome_lookup_iff, ← Dict.isSome_lookup_iff] at hmem
  rw [hget]
  refine ⟨fun hkept => ?_, fun hdisplaced => ?_⟩
  · unfold value? captured?
    cases hhost : reading.host.lookup name with
    | none =>
        -- then it is a variable of the path
        rw [hhost] at hmem
        obtain ⟨v, hv⟩ := Option.isSome_iff_exists.1 (hmem.resolve_right Bool.false_ne_true)
        rw [hv]
        cases v <;> rfl
    | some v =>
        cases v with
        | some value => rfl
        | none =>
            cases hpath : reading.path.lookup name with
            | none => cases default? <;> rfl
            | some u =>
                cases u with
                | none => cases default? <;> rfl
                | some value =>
                    cases hd : default? with
                    | none => rfl
                    | some d =>
                        refine absurd ⟨?_, ?_, ?_, ?_⟩ hkept
                        · rw [← Dict.isSome_lookup_iff, hhost]
                          rfl
                        · rw [captured?, hhost]
                          rfl
                        · rw [captured?, hpath]
                          rfl
                        · rw [hd]
                          rfl
  · obtain ⟨hin, hnone, -, hsome⟩ := hdisplaced
    obtain ⟨d, hd⟩ := Option.isSome_iff_exists.1 hsome
    obtain ⟨v, hv⟩ := Option.isSome_iff_exists.1 (Dict.isSome_lookup_iff.2 hin)
    rw [captured?, hv] at hnone
    obtain rfl : v = none := hnone
    rw [hv, hd]
    rfl

end Reading

/-! ### What is found -/

variable {c : Collection} {options : CompileOptions} {m : Matcher} {context : Context}
  {found : Match}

/-- What is read in a host is what the expression of its pattern captures. -/
theorem exists_captures_of_host [Regex.Engine] {r : Route} {patterns : Patterns} {d : CompiledRoute}
    (hasks : r.Asks patterns d) {p : Pattern} (hp : patterns.host = some p) {host : String}
    {hosts : List (String × Option String)} (h : d.requirements.hostValues? host = some hosts) :
    ∃ as n captures, p.atoms hostSegment r.patterns = .ok as ∧
      Regex.Node.ofText? (Route.hostRule as).expression.toList = some n ∧
      (Regex.mk n).captures? (String.ofList (hostName host.toList)) = some captures ∧
      hosts = valuesOf captures (Merged.standalone as).2 := by
  have hrule := hasks.rule
  rw [hp] at hrule
  unfold Requirements.hostValues? at h
  cases hd : d.requirements.host with
  | none =>
      rw [hd] at hrule
      cases hrule
  | some rule =>
      rw [hd] at hrule h
      obtain ⟨as, has, rfl⟩ := Option.rel_some_some.1 hrule
      obtain ⟨n, hn, hmatch⟩ := Option.bind_eq_some_iff.1 h
      obtain ⟨captures, hcaptures, rfl⟩ := Option.map_eq_some_iff.1 hmatch
      exact ⟨as, n, captures, has, hn, hcaptures, rfl⟩

/-- The names of what is read in a request. -/
theorem Reading.isFor_of_asks [Regex.Engine] {r : Route} {patterns : Patterns} {d : CompiledRoute}
    (hasks : r.Asks patterns d) {values hosts : List (String × Option String)}
    (hvalues : values.map Prod.fst = d.vars) {host : String}
    (hhosts : d.requirements.hostValues? host = some hosts) :
    (Reading.mk values hosts).IsFor patterns := by
  refine ⟨?_, ?_⟩
  · show values.map Prod.fst = _
    rw [hvalues, hasks.vars, Pattern.vars_of_atoms hasks.atoms]
  · show hosts.map Prod.fst = _
    cases hp : patterns.host with
    | none =>
        have hrule := hasks.rule
        rw [hp] at hrule
        have hnone : d.requirements.host = none := by
          cases hd : d.requirements.host with
          | none => rfl
          | some rule =>
              rw [hd] at hrule
              cases hrule
        rw [Requirements.hostValues?, hnone] at hhosts
        obtain rfl := Option.some.inj hhosts
        rfl
    | some p =>
        obtain ⟨as, n, captures, has, -, -, rfl⟩ := exists_captures_of_host hasks hp hhosts
        rw [map_fst_valuesOf]
        exact (Merged.map_name_standalone as).trans (Pattern.vars_of_atoms has)

/-- What a route reads in a request by its own expressions, if it accepts the request. -/
theorem exists_reading_of_accepts [Regex.Engine] {r : Route} {patterns : Patterns}
    {d : CompiledRoute} (hasks : r.Asks patterns d) (h : d.Accepts context) :
    ∃ reading : Reading,
      d.values? context.path = some reading.path ∧
      d.requirements.hostValues? context.host = some reading.host ∧ reading.IsFor patterns ∧
      d.params context = reading.params (patterns.defaults r.defaults) := by
  obtain ⟨values, hvalues⟩ := Option.isSome_iff_exists.1 h.path
  obtain ⟨hosts, hhosts, hsame⟩ : ∃ hosts, d.requirements.hostValues? context.host = some hosts ∧
      ((d.requirements.host.bind fun rule =>
        CompiledRoute.hostValues? rule context.host).getD []) = hosts := by
    unfold Requirements.hostValues?
    cases hrule : d.requirements.host with
    | none => exact ⟨[], rfl, rfl⟩
    | some rule =>
        obtain ⟨hosts, hhosts⟩ := Option.isSome_iff_exists.1 (h.host rule hrule)
        exact ⟨hosts, hhosts, by rw [Option.bind_some, hhosts, Option.getD_some]⟩
  have hnames : values.map Prod.fst = d.vars := by
    obtain ⟨n, -, hmatch⟩ := Option.bind_eq_some_iff.1 hvalues
    obtain ⟨captures, -, rfl⟩ := Option.map_eq_some_iff.1 hmatch
    rw [map_fst_valuesOf, Merged.map_name_standalone, hasks.vars]
  refine ⟨⟨values, hosts⟩, hvalues, hhosts, Reading.isFor_of_asks hasks hnames hhosts, ?_⟩
  rw [CompiledRoute.params, hvalues, hsame, hasks.defaults]
  rfl

/-- What is found comes with what has been read in the request. -/
theorem exists_reading_of_found [Regex.Engine] {compiled : List CompiledRoute}
    {runs : List (List Collection.SharedLeaf)} (hmade : c.IsMadeOf options m compiled runs)
    (hfound : m.lookup context = .ok (.found found)) :
    ∃ r patterns d, c.routes[found.route]? = some r ∧ compiled[found.route]? = some d ∧
      Route.compile r = .ok d ∧ r.Asks patterns d ∧ ∃ reading : Reading,
        m.Reads context.path found.route reading.path ∧
        d.requirements.hostValues? context.host = some reading.host ∧ reading.IsFor patterns ∧
        found.params = reading.params (patterns.defaults r.defaults) := by
  obtain ⟨values, hreads, hjudge⟩ := exists_reads_of_lookup hfound
  obtain ⟨d, hd, hnames⟩ := names_of_reads hmade hreads
  obtain ⟨r, hr, hcompile⟩ := exists_getElem?_of_forall₂ hmade.routes hd
  obtain ⟨patterns, hasks⟩ := Route.exists_asks hcompile
  have hroutes : m.data.routes = compiled.map CompiledRoute.requirements := by rw [hmade.data]
  obtain ⟨host, hhost, hverdict⟩ := exists_judge hroutes hmade.ready.hosts hd context
  rw [hverdict] at hjudge
  obtain ⟨hosts, hhosts, hparams⟩ := params_of_judge hhost hjudge
  refine ⟨r, patterns, d, hr, hd, hcompile, hasks, ⟨values, hosts⟩, hreads, hhosts,
    Reading.isFor_of_asks hasks hnames hhosts, ?_⟩
  rw [hparams, hasks.defaults]
  rfl

/-- What is found comes with what its own expressions read, if the constraints of paths are
whole. -/
theorem exists_own_reading_of_found [Regex.Engine] {compiled : List CompiledRoute}
    {runs : List (List Collection.SharedLeaf)} (hmade : c.IsMadeOf options m compiled runs)
    (hwhole : ∀ r ∈ c.routes, ∀ p, Pattern.parse r.path = .ok p →
      ∀ constraint ∈ p.constraints pathSegment r.patterns, Pattern.IsWhole constraint)
    (hfound : m.lookup context = .ok (.found found)) {r : Route} {patterns : Patterns}
    {d : CompiledRoute} (hd : compiled[found.route]? = some d) (hasks : r.Asks patterns d) :
    ∃ reading : Reading, d.values? context.path = some reading.path ∧
      d.requirements.hostValues? context.host = some reading.host ∧ reading.IsFor patterns ∧
      found.params = reading.params (patterns.defaults r.defaults) := by
  obtain ⟨res, hres, hanswers⟩ := (represents_of_isMadeOf hmade hwhole).answers_lookup context
  obtain rfl := Except.ok.inj (hfound.symm.trans hres)
  cases hanswers with
  | found id d' hd' haccepts _ =>
      obtain rfl := Option.some.inj (hd.symm.trans hd')
      exact exists_reading_of_accepts hasks haccepts

/-- **Which value a variable has.**  Whatever a lookup in a compiled collection finds, its
parameters have for each variable of the route what the host has captured for it, or else what the
path has captured, or else its default, or nothing if it has none; but where the host has a variable
of that name that takes no part in the match, and there is a default, they have the default.  What
is captured may be empty.  The values are those that the search has read, and also those that the
expressions of the route by themselves read if all constraints of paths are whole. -/
theorem get?_of_found [Regex.Engine] (h : c.compile options = .ok m)
    (hfound : m.lookup context = .ok (.found found)) :
    ∃ r patterns d, c.routes[found.route]? = some r ∧ Patterns.ofRoute r = .ok patterns ∧
      Route.compile r = .ok d ∧
      (∃ reading : Reading, m.Reads context.path found.route reading.path ∧
        d.requirements.hostValues? context.host = some reading.host ∧
        reading.IsFor patterns ∧ reading.Settles r patterns found.params) ∧
      ((∀ r ∈ c.routes, ∀ p, Pattern.parse r.path = .ok p →
          ∀ constraint ∈ p.constraints pathSegment r.patterns, Pattern.IsWhole constraint) →
        ∃ reading : Reading, d.values? context.path = some reading.path ∧
          d.requirements.hostValues? context.host = some reading.host ∧
          reading.IsFor patterns ∧ reading.Settles r patterns found.params) := by
  obtain ⟨compiled, runs, hmade⟩ := Collection.isMadeOf_of_compile h
  obtain ⟨r, patterns, d, hr, hd, hcompile, hasks, reading, hreads, hhost, hfor, hparams⟩ :=
    exists_reading_of_found hmade hfound
  have hnames := Patterns.hasNames_of_ofRoute hasks.reads
  refine ⟨r, patterns, d, hr, hasks.reads, hcompile, ⟨reading, hreads, hhost, hfor, ?_⟩,
    fun hwhole => ?_⟩
  · rw [hparams]
    exact Reading.get?_params hfor hnames
  · obtain ⟨own, hvalues, hhost', hfor', hparams'⟩ :=
      exists_own_reading_of_found hmade hwhole hfound hd hasks
    refine ⟨own, hvalues, hhost', hfor', ?_⟩
    rw [hparams']
    exact Reading.get?_params hfor' hnames

/-! ### A name in the path and in the host -/

/-- A route whose host may leave out the variable that its path has, too. -/
def tenantPage : Route where
  path := "/{tenant}/{page}"
  methods := ["GET"]
  handler := .named "page"
  defaults := Dict.empty.insert "tenant" "public"
  domain := some "[{tenant}]"

def tenantPagePatterns : Patterns where
  path := ⟨"/{tenant}/{page}",
    [.text "/", .var "tenant" none none, .text "/", .var "page" none none]⟩
  host := some ⟨"[{tenant}]", [.optional [.var "tenant" none none]]⟩

def tenantPageCompiled : CompiledRoute where
  staticPath? := none
  atoms := [.char '/', .ofVariable "tenant" pathSegment 0, .char '/',
    .ofVariable "page" pathSegment 0]
  expression := "/([^/]+)/([^/]+)"
  vars := ["tenant", "page"]
  requirements := {
    methods := ["GET"]
    schemes := []
    host := some (Route.hostRule [.optional [.ofVariable "tenant" hostSegment 0]])
    defaults := Dict.empty.insert "tenant" "public" }

theorem hasVariable_tenantPage : tenantPagePatterns.hasVariable "tenant" = true :=
  Patterns.hasVariable_iff.2 (.inl ⟨⟨"tenant", 0, none, none⟩,
    by simp [tenantPagePatterns, Pattern.vars, Token.vars], rfl⟩)

theorem parse_tenantPage : Pattern.parse tenantPage.path = .ok tenantPagePatterns.path := by
  have hlast : IsRendering [.text "/", .var "page" none none] "/{page}".toList :=
    .text "/" (.var .name (by decide) .nil)
  refine Pattern.parse_of_isRendering ⟨?_, ?_⟩ (.text "/" (.var .name (by decide) hlast))
  · exact .segment (.unconstrained (by decide) _) (.segment (.unconstrained (by decide) _) .nil)
  · simp [PatternReader.namesOf, Token.vars]

theorem compile_tenantPage : tenantPage.compile = .ok tenantPageCompiled := by
  have htenant : Pattern.checkConstraint "/{tenant}/{page}" "tenant" pathSegment = .ok 0 := by rfl
  have hpage : Pattern.checkConstraint "/{tenant}/{page}" "page" pathSegment = .ok 0 := by rfl
  have hhost : Pattern.checkConstraint "[{tenant}]" "tenant" hostSegment = .ok 0 := by rfl
  have hatoms : tenantPagePatterns.path.atoms pathSegment tenantPage.patterns =
      .ok tenantPageCompiled.atoms :=
    Pattern.atoms_eq_ok.2 ⟨_, .cons (Pattern.tokenAtoms_text _)
      (.cons (Pattern.tokenAtoms_var.2 ⟨0, htenant, rfl⟩) (.cons (Pattern.tokenAtoms_text _)
        (.cons (Pattern.tokenAtoms_var.2 ⟨0, hpage, rfl⟩) .nil))), rfl⟩
  have hhosts : (Pattern.mk "[{tenant}]" [.optional [.var "tenant" none none]]).atoms hostSegment
      tenantPage.patterns = .ok [.optional [.ofVariable "tenant" hostSegment 0]] :=
    Pattern.atoms_eq_ok.2 ⟨_, .cons (Pattern.tokenAtoms_optional.2
      ⟨_, .cons (Pattern.tokenAtoms_var.2 ⟨0, hhost, rfl⟩) .nil, rfl⟩) .nil, rfl⟩
  have hown : (tenantPage.defaults.toList.filter fun e => tenantPagePatterns.hasVariable e.1) =
      [("tenant", "public")] := List.filter_cons_of_pos hasVariable_tenantPage
  have hdefaults : tenantPagePatterns.defaults tenantPage.defaults =
      Dict.empty.insert "tenant" "public" := by
    rw [Patterns.defaults, hown]
    simp [Pattern.defaults, Pattern.vars, Token.vars, tenantPagePatterns]
    rfl
  have hdomain : Pattern.parse "[{tenant}]" =
      .ok ⟨"[{tenant}]", [.optional [.var "tenant" none none]]⟩ := by rfl
  have hslash : ¬ tenantPage.path.toList.head? ≠ some '/' := by decide
  simp only [Route.compile, if_neg hslash]
  refine bind_eq_ok.2 ⟨_, parse_tenantPage, bind_eq_ok.2 ⟨_, hatoms, ?_⟩⟩
  refine bind_eq_ok.2 ⟨_, hdomain, bind_eq_ok.2 ⟨_, hhosts, ?_⟩⟩
  show Except.ok _ = Except.ok _
  rw [show (Patterns.mk tenantPagePatterns.path _).defaults tenantPage.defaults = _ from hdefaults]
  rfl

def tenantPageData : Matcher.Data where
  staticPaths := .empty
  chunks := [⟨"^(?:/([^/]+)/([^/]+)())$", 1⟩]
  leaves := [⟨3, [⟨"tenant", 1⟩, ⟨"page", 2⟩], "^(?:/([^/]+)/([^/]+)())$",
    [⟨"tenant", 1⟩, ⟨"page", 2⟩], [0]⟩]
  routes := [tenantPageCompiled.requirements]
  sizeLimit := Regex.defaultSizeLimit

def tenantPagePath : Regex where
  root := .cat (.look .textStart) (.cat (.cat (.char '/') (.cat
    (.group 1 none (.repetition (.set slashless) 1 none true)) (.cat (.char '/') (.cat
      (.group 2 none (.repetition (.set slashless) 1 none true)) (.group 3 none .empty)))))
    (.look .textEnd))

/-- The host where case does not matter: a name without dots, or nothing. -/
def tenantPageHost : Regex where
  root := .cat .empty (.cat (.look .textStart) (.cat (.cat
    (.repetition (.group 1 none (.repetition (.set (.compl (.union Regex.dot (.ranges [])))) 1 none
      true)) 0 (some 1) true)
    (.group 2 none .empty)) (.look .textEnd)))

def tenantPageMatcher : Matcher :=
  ⟨tenantPageData, [tenantPagePath], [tenantPagePath], [some tenantPageHost]⟩

theorem ofText?_tenantPageHost : Regex.Node.ofText? "(?i)^(?:(?:([^.]+))?())$".toList =
    some tenantPageHost.root := by
  have hread : Regex.Node.ofText? "(?i)^(?:(?:([^.]+))?())$".toList =
      some (.cat .empty (.cat (.look .textStart) (.cat (.cat (.repetition (.group 1 none
        (.repetition (.set (.compl (Regex.dot.foldCase true))) 1 none true)) 0 (some 1) true)
        (.group 2 none .empty)) (.look .textEnd)))) := by rfl
  rw [hread, CharSet.foldCase_eq fun _ => Regex.containsCode_dot]
  rfl

theorem ofData_tenantPage : ofData tenantPageData = .ok tenantPageMatcher := by
  have hpath : tenantPageData.compile "^(?:/([^/]+)/([^/]+)())$" = .ok tenantPagePath := by rfl
  have hhost : tenantPageData.compile "(?i)^(?:(?:([^.]+))?())$" = .ok tenantPageHost := by
    rw [Data.compile, Regex.compile, ofText?_tenantPageHost]
    rfl
  have hrule : (Route.hostRule [.optional [.ofVariable "tenant" hostSegment 0]]).expression =
      "(?i)^(?:(?:([^.]+))?())$" := by decide +kernel
  have hfault : tenantPageData.fault? = none := by decide
  rw [ofData, hfault]
  refine bind_eq_ok.2 ⟨_, mapM_eq_ok.2 (.cons hpath .nil), ?_⟩
  refine bind_eq_ok.2 ⟨_, mapM_eq_ok.2 (.cons hpath .nil), ?_⟩
  refine bind_eq_ok.2 ⟨_, mapM_eq_ok.2 (.cons ?_ .nil), rfl⟩
  simp only [tenantPageCompiled, hrule, hhost]
  rfl

theorem compile_alone_tenantPage :
    (Collection.alone tenantPage).compile {} = .ok tenantPageMatcher := by
  obtain ⟨e, hfits⟩ : ∃ e, Regex.compile (Merged.ofFragments .segments
      [tenantPageCompiled.atoms]).expression Regex.defaultSizeLimit = .ok e := ⟨_, rfl⟩
  have hdata : Collection.matcherData {} [tenantPageCompiled] = .ok tenantPageData :=
    Collection.matcherData_singleton rfl hfits
  exact (Collection.compile_alone_eq_ofData compile_tenantPage hdata).trans ofData_tenantPage

theorem lookup_tenantPage :
    tenantPageMatcher.lookup ((Context.of "GET" "/acme/x").withHost "intra") =
      .ok (.found ⟨0, (Params.empty.insert "page" "x").insert "tenant" "intra"⟩) :=
  toOption_eq_some.1 (by decide +kernel)

theorem isWhole_tenantPage : ∀ r ∈ (Collection.alone tenantPage).routes, ∀ p,
    Pattern.parse r.path = .ok p → ∀ constraint ∈ p.constraints pathSegment r.patterns,
      Pattern.IsWhole constraint := by
  intro r hr p hp constraint hconstraint
  obtain rfl := List.mem_singleton.1 hr
  obtain rfl := Except.ok.inj (parse_tenantPage.symm.trans hp)
  obtain rfl : constraint = pathSegment := by
    simpa [Pattern.constraints, Pattern.vars, Token.vars, tenantPagePatterns, effectiveConstraint,
      tenantPage] using hconstraint
  exact ⟨by decide, by decide⟩

/-- A host that has a value for the variable goes before the path. -/
theorem get?_of_tenantPage : ∃ r patterns d,
    (Collection.alone tenantPage).routes[0]? = some r ∧ Patterns.ofRoute r = .ok patterns ∧
      Route.compile r = .ok d ∧ ∃ reading : Reading, d.values? "/acme/x" = some reading.path ∧
        d.requirements.hostValues? "intra" = some reading.host ∧ reading.IsFor patterns ∧
        reading.Settles r patterns
          ((Params.empty.insert "page" "x").insert "tenant" "intra") := by
  obtain ⟨r, patterns, d, hr, hpatterns, hd, -, hown⟩ :=
    get?_of_found compile_alone_tenantPage lookup_tenantPage
  exact ⟨r, patterns, d, hr, hpatterns, hd, hown isWhole_tenantPage⟩

/-- **A default displaces what the path has captured**, where the host leaves the variable out. -/
theorem displaced_of_tenantPage :
    (Collection.alone tenantPage).compile {} = .ok tenantPageMatcher ∧
      tenantPage.compile = .ok tenantPageCompiled ∧
      tenantPageCompiled.values? "/acme/x" =
        some [("tenant", some "acme"), ("page", some "x")] ∧
      tenantPageCompiled.requirements.hostValues? "" = some [("tenant", none)] ∧
      tenantPageMatcher.lookup (.of "GET" "/acme/x") =
        .ok (.found ⟨0, (Params.empty.insert "page" "x").insert "tenant" "public"⟩) := by
  have hhost : tenantPageCompiled.requirements.hostValues? "" = some [("tenant", none)] := by
    have hrule : Route.hostRule [.optional [.ofVariable "tenant" hostSegment 0]] =
        ⟨"(?i)^(?:(?:([^.]+))?())$", [⟨"tenant", 1⟩]⟩ := by decide +kernel
    show CompiledRoute.hostValues? (Route.hostRule _) "" = _
    rw [hrule, CompiledRoute.hostValues?, ofText?_tenantPageHost]
    decide +kernel
  exact ⟨compile_alone_tenantPage, compile_tenantPage, by decide +kernel, hhost,
    toOption_eq_some.1 (by decide +kernel)⟩

end Matcher

end Signpost
