import Signpost.Proofs.Collection.Alone
import Signpost.Proofs.Route.Defaults
import Signpost.Proofs.Url.Hosts
import Signpost.Proofs.Url.Reference
import Signpost.Regex.Estimate

/-!
# URLs — where they arrive

The generator checks each value alone, and the matcher sees it in its place.  A route *reads back*
what is written for it when the two agree (`Route.ReadsBack`): the constraints of its path are
complete expressions that do not look around, case makes no difference to its host, and no value
takes the URL apart in another place.  Then a request for the URL finds the route.

* `Collection.lookup_alone`: a lookup among the routes of a collection of one.
* `CompiledRoute.isSome_values?`: an expression that takes a text matches it.
* `Route.lookup_of_url`: a URL leads back to its route.
-/

namespace Signpost

open Regex (Node Takes)

/-! ### A collection of one route -/

/-- **A lookup in a collection of one** finds its route when that accepts the request. -/
theorem Collection.lookup_alone [Regex.Engine] {r : Route} {options : CompileOptions} {m : Matcher}
    (hm : (alone r).compile options = .ok m)
    (hwhole : ∀ p, Pattern.parse r.path = .ok p →
      ∀ constraint ∈ p.constraints pathSegment r.patterns, Pattern.IsWhole constraint) :
    ∃ d, r.compile = .ok d ∧ d.IsWithin options.sizeLimit ∧
      ∀ c : Context, d.Accepts c → m.lookup c = .ok (.found ⟨0, d.params c⟩) := by
  obtain ⟨compiled, runs, hmade⟩ := isMadeOf_of_compile hm
  obtain ⟨d, rest, hd, hrest, rfl⟩ := List.forall₂_cons_left_iff.1 hmade.routes
  obtain rfl := List.forall₂_nil_left_iff.1 hrest
  refine ⟨d, hd, isWithin_of_isMadeOf hmade d List.mem_cons_self, fun c haccepts => ?_⟩
  obtain ⟨res, hres, hanswers⟩ :=
    (Matcher.represents_of_isMadeOf hmade (by simpa [alone] using hwhole)).answers_lookup c
  rw [hres]
  cases hanswers with
  | found id r' hr' haccepts' hleast =>
      obtain ⟨hlt, hget⟩ := List.getElem?_eq_some_iff.1 hr'
      obtain rfl : id = 0 := Nat.lt_one_iff.1 hlt
      obtain rfl : d = r' := hget
      rfl
  | methodNotAllowed methods hfits hrefused =>
      exact absurd haccepts (hrefused d List.mem_cons_self)
  | notFound hmisfit => exact absurd haccepts.toFits (hmisfit d List.mem_cons_self)

/-! ### What takes a text matches it -/

theorem Merged.toList_standalone_eq_anchored (as : List Atom) :
    (standalone as).1.toList = Regex.anchored (Atom.expression as) := by
  rw [toList_standalone]
  simp [Regex.anchored]

namespace CompiledRoute

variable {r : Route} {d : CompiledRoute} {limit : Nat}

variable [Regex.Engine]

/-- The expression of a path can be read, be it literal or not. -/
theorem exists_ofText? (hd : r.compile = .ok d) (hwithin : d.IsWithin limit) :
    ∃ n, Node.ofText? (Merged.standalone d.atoms).1.toList = some n := by
  cases hliteral : d.staticPath? with
  | none =>
      obtain ⟨e, he⟩ := hwithin.path hliteral
      exact ⟨e.root, Regex.ofText?_of_compile he⟩
  | some literal =>
      obtain ⟨p, hp⟩ := Route.isCompiledTo_of_compile hd
      rw [Pattern.atoms_of_staticText? (hp.literal.symm.trans hliteral) hp.atoms]
      exact Merged.ofText?_literal literal.toList

/-- **A path that is taken matches.** -/
theorem isSome_values? (hd : r.compile = .ok d) (hwithin : d.IsWithin limit) {path : String}
    (htakes : Takes {} (Atom.expression d.atoms) path.toList) : (d.values? path).isSome := by
  obtain ⟨n, hn⟩ := exists_ofText? hd hwithin
  have hsearch := htakes.isSome_search? (n := n)
    (by rw [← Merged.toList_standalone_eq_anchored, hn])
  rw [values?, hn, Option.bind_some, Option.isSome_map, Regex.captures?, Option.isSome_map]
  exact hsearch

/-- **A host that is taken matches**, where case does not matter. -/
theorem isSome_hostValues? {as : List Atom}
    (hwithin : ∃ e, Regex.compile (Route.hostRule as).expression limit = .ok e) {host : String}
    (hname : Matcher.hostName host.toList = host.toList)
    (htakes : Takes .caseless (Atom.expression as) host.toList) :
    (hostValues? (Route.hostRule as) host).isSome := by
  obtain ⟨e, he⟩ := hwithin
  have hn := Regex.ofText?_of_compile he
  have htext : (Route.hostRule as).expression.toList =
      '(' :: '?' :: 'i' :: ')' :: Regex.anchored (Atom.expression as) := by
    rw [← Merged.toList_standalone_eq_anchored]
    exact String.toList_append
  have hsearch := htakes.isSome_search?_caseless (n := e.root) (by rw [← htext, hn])
  rw [hostValues?, hn, Option.bind_some, Option.isSome_map, hname, String.ofList_toList,
    Regex.captures?, Option.isSome_map]
  exact hsearch

end CompiledRoute

/-! ### What is written is found -/

namespace Route

/-- Whether a route reads back what is written for it. -/
structure ReadsBack [Regex.Engine] (r : Route) (given : List (String × String))
    (patterns : Patterns) : Prop where
  constraints : ∀ c ∈ patterns.path.constraints pathSegment r.patterns, Pattern.IsLocal c
  caseless    : ∀ p ∈ patterns.host, ∀ v ∈ p.vars, (r.writer given patterns).IgnoresCase v
  delimiters  : ∀ host path url, r.IsComposed given patterns host path url →
    r.KeepsDelimiters host path
  /-- A number after a colon would be taken for a port. -/
  port        : ∀ p ∈ patterns.host, ∀ host,
    (r.writer given patterns).writePattern hostSegment p = .ok host →
      Matcher.hostName host.toList = host.toList

/-- What is written for a pattern that begins with a slash begins with one. -/
theorem head?_of_writePattern [Regex.Engine] {w : Writer} {segment source path : String}
    {p : Pattern} (hparse : Pattern.parse source = .ok p) (hslash : source.toList.head? = some '/')
    (hpath : w.writePattern segment p = .ok path) : path.toList.head? = some '/' := by
  obtain ⟨content, ts, htokens, hbegins⟩ := Pattern.tokens_of_parse hparse hslash
  obtain ⟨ss, hss, rfl⟩ := Writer.writePattern_eq_ok hpath
  rw [htokens] at hss
  obtain ⟨s, rest, hs, -, rfl⟩ := List.forall₂_cons_left_iff.1 hss
  obtain rfl := Except.ok.inj ((Writer.write_text content).symm.trans hs)
  obtain ⟨cs, hcs⟩ := List.head?_eq_some_iff.1 hbegins
  simp [String.toList_join, hcs]

/-- **The path of a URL fits**, when what is written is taken where it stands. -/
theorem isSome_values?_of_isComposed [Regex.Engine] {r : Route} {given : List (String × String)}
    {patterns : Patterns} {host : Option String} {path url : String} {d : CompiledRoute}
    {limit : Nat} (hcomposed : r.IsComposed given patterns host path url)
    (hlocal : ∀ c ∈ patterns.path.constraints pathSegment r.patterns, Pattern.IsLocal c)
    (hd : r.compile = .ok d) (hwithin : d.IsWithin limit) : (d.values? path).isSome := by
  obtain ⟨patterns', hasks⟩ := exists_asks hd
  obtain rfl : patterns = patterns' := Except.ok.inj (hcomposed.reads.symm.trans hasks.reads)
  refine CompiledRoute.isSome_values? hd hwithin ?_
  refine Writer.takes_writePattern Regex.Flags.isBare_default (fun v hv => ?_) hasks.atoms
    hcomposed.writesPath
  obtain ⟨ass, hass, -⟩ := Pattern.atoms_eq_ok.1 hasks.atoms
  obtain ⟨t, ht, hvt⟩ := List.mem_flatMap.1 hv
  obtain ⟨as, -, has⟩ := exists_of_mem_right hass.flip ht
  obtain ⟨count, hcheck⟩ := Pattern.exists_checkConstraint has v hvt
  exact Writer.carries_of_isLocal (hlocal _ (List.mem_map.2 ⟨v, hv, rfl⟩)) hcheck

/-- The host of a URL fits. -/
theorem isSome_hostValues?_of_isComposed [Regex.Engine] {r : Route} {given : List (String × String)}
    {patterns : Patterns} {host : Option String} {path url : String} {d : CompiledRoute}
    {limit : Nat} (hcomposed : r.IsComposed given patterns host path url)
    (hback : r.ReadsBack given patterns) (hd : r.compile = .ok d) (hwithin : d.IsWithin limit) :
    ∀ rule, d.requirements.host = some rule →
      ∃ h, host = some h ∧ (CompiledRoute.hostValues? rule h).isSome := by
  intro rule hrule
  obtain ⟨patterns', hasks⟩ := exists_asks hd
  obtain rfl : patterns = patterns' := Except.ok.inj (hcomposed.reads.symm.trans hasks.reads)
  have hhost := hasks.rule
  rw [hrule] at hhost
  generalize hpatterns : patterns.host = pattern? at hhost
  cases hhost with
  | @some p _ hrule' =>
      obtain ⟨as, has, rfl⟩ := hrule'
      have hwritten := hcomposed.writesHost
      rw [hpatterns] at hwritten
      cases hwritten with
      | @some _ h hwritten =>
          refine ⟨h, rfl, CompiledRoute.isSome_hostValues? (hwithin.host _ hrule)
            (hback.port p hpatterns h hwritten) ?_⟩
          exact Writer.takes_writePattern Regex.Flags.isBare_caseless
            (fun v hv => (hback.caseless p hpatterns v hv).carries) has hwritten

/-! ### A sample -/

/-- A route whose host and path have variables. -/
def tenantDocs : Route where
  path := "/docs[/{page}]"
  methods := ["GET"]
  handler := .named "docs"
  domain := some "{tenant}"
  schemes := ["https"]

def tenantPatterns : Patterns where
  path := ⟨"/docs[/{page}]", [.text "/docs", .optional [.text "/", .var "page" none none]]⟩
  host := some ⟨"{tenant}", [.var "tenant" none none]⟩

/-- Values for its variables, and one for the query. -/
def tenantValues : List (String × String) := [("tenant", "acme"), ("page", "intro"), ("v", "2")]

theorem ofRoute_tenantDocs : Patterns.ofRoute tenantDocs = .ok tenantPatterns := by rfl

theorem write_tenantDocs :
    (tenantDocs.writer tenantValues tenantPatterns).writePattern pathSegment tenantPatterns.path =
        .ok "/docs/intro" ∧
      (tenantDocs.writer tenantValues tenantPatterns).writePattern hostSegment
        ⟨"{tenant}", [.var "tenant" none none]⟩ = .ok "acme" := by
  have hpage : ((tenantDocs.writer tenantValues tenantPatterns).writeVariable pathSegment "page"
      none).toOption = some "intro" := by decide +kernel
  have htenant : ((tenantDocs.writer tenantValues tenantPatterns).writeVariable hostSegment
      "tenant" none).toOption = some "acme" := by decide +kernel
  have hmentions : (tenantDocs.writer tenantValues tenantPatterns).mentions
      (.var "page" none none) = true := by
    rw [Writer.mentions, Token.vars]
    decide
  generalize tenantDocs.writer tenantValues tenantPatterns = w at *
  have hpage := toOption_eq_some.1 hpage
  have htenant := toOption_eq_some.1 htenant
  constructor
  · simp [tenantPatterns, Writer.writePattern, Writer.write, hpage, hmentions, bind, Except.bind,
      pure, Except.pure, Functor.map, Except.map, String.join]
  · simp [Writer.writePattern, Writer.write, htenant, bind, Except.bind, pure, Except.pure,
      Functor.map, Except.map, String.join]

theorem url_tenantDocs : tenantDocs.url tenantValues = .ok "https://acme/docs/intro?v=2" := by
  obtain ⟨hpath, hhost⟩ := write_tenantDocs
  have hvars : tenantPatterns.path.vars ++ tenantPatterns.host.elim [] Pattern.vars =
      [⟨"page", 1, none, none⟩, ⟨"tenant", 0, none, none⟩] := by
    simp [tenantPatterns, Pattern.vars, Token.vars]
  have hquery : (tenantValues.filter fun g => !tenantPatterns.hasVariable g.1) = [("v", "2")] := by
    simp only [Patterns.hasVariable, hvars]
    decide
  refine bind_eq_ok.2 ⟨_, ofRoute_tenantDocs, bind_eq_ok.2 ⟨"acme", hhost, ?_⟩⟩
  refine bind_eq_ok.2 ⟨"https://acme", rfl, bind_eq_ok.2 ⟨"/docs/intro", hpath, ?_⟩⟩
  rw [hquery]
  refine congrArg Except.ok ?_
  decide +kernel

def tenantAtoms : List Atom :=
  "/docs".toList.map .char ++ [.optional [.char '/', .ofVariable "page" pathSegment 0]]

/-- The route with its patterns read. -/
def tenantCompiled : CompiledRoute where
  staticPath? := none
  atoms := tenantAtoms
  expression := String.ofList (Atom.expression tenantAtoms)
  vars := Atom.vars tenantAtoms
  requirements := {
    methods := ["GET"]
    schemes := ["https"]
    host := some (hostRule [.ofVariable "tenant" hostSegment 0])
    defaults := tenantPatterns.defaults tenantDocs.defaults }

theorem compile_tenantDocs : tenantDocs.compile = .ok tenantCompiled := by
  have hpage : Pattern.checkConstraint "/docs[/{page}]" "page" pathSegment = .ok 0 := by rfl
  have htenant : Pattern.checkConstraint "{tenant}" "tenant" hostSegment = .ok 0 := by rfl
  have hatoms : tenantPatterns.path.atoms pathSegment tenantDocs.patterns = .ok tenantAtoms :=
    Pattern.atoms_eq_ok.2 ⟨_, .cons (Pattern.tokenAtoms_text _)
      (.cons (Pattern.tokenAtoms_optional.2 ⟨_, .cons (Pattern.tokenAtoms_text _)
        (.cons (Pattern.tokenAtoms_var.2 ⟨0, hpage, rfl⟩) .nil), rfl⟩) .nil), rfl⟩
  have hhost : (Pattern.mk "{tenant}" [.var "tenant" none none]).atoms hostSegment
      tenantDocs.patterns = .ok [.ofVariable "tenant" hostSegment 0] :=
    Pattern.atoms_eq_ok.2 ⟨_, .cons (Pattern.tokenAtoms_var.2 ⟨0, htenant, rfl⟩) .nil, rfl⟩
  have hparse : Pattern.parse tenantDocs.path = .ok tenantPatterns.path := by rfl
  have hdomain : Pattern.parse "{tenant}" = .ok ⟨"{tenant}", [.var "tenant" none none]⟩ := by rfl
  have hslash : ¬ tenantDocs.path.toList.head? ≠ some '/' := by decide
  simp only [compile, if_neg hslash]
  refine bind_eq_ok.2 ⟨_, hparse, bind_eq_ok.2 ⟨_, hatoms, ?_⟩⟩
  refine bind_eq_ok.2 ⟨_, hdomain, bind_eq_ok.2 ⟨_, hhost, rfl⟩⟩

/-- A host without constraints where case does not matter. -/
theorem ofText?_hostSegment : Node.ofText? "(?i)^(?:([^.]+)())$".toList =
    some (.cat .empty (.cat (.look .textStart) (.cat (.cat (.group 1 none (.repetition
      (.set (.compl (Regex.dot.foldCase true))) 1 none true)) (.group 2 none .empty))
        (.look .textEnd)))) := by
  rfl

theorem isWithin_tenantCompiled : tenantCompiled.IsWithin Regex.defaultSizeLimit := by
  constructor
  case path =>
    intro _
    have htext : (Merged.standalone tenantCompiled.atoms).1 = "^(?:/docs(?:/([^/]+))?())$" := by
      decide +kernel
    exact Collection.exists_compile_of_any _ _ (by rw [htext]; decide +kernel)
  case host =>
    rintro rule hrule
    obtain rfl : hostRule [.ofVariable "tenant" hostSegment 0] = rule := Option.some.inj hrule
    have htext : (hostRule [.ofVariable "tenant" hostSegment 0]).expression =
        "(?i)^(?:([^.]+)())$" := by decide +kernel
    refine Collection.exists_compile_of_any _ _ ?_
    rw [htext, ofText?_hostSegment, CharSet.foldCase_eq fun _ => Regex.containsCode_dot]
    decide +kernel

/-- What is written for the sample leaves the delimiters alone. -/
theorem readsBack_tenantDocs : tenantDocs.ReadsBack tenantValues tenantPatterns := by
  obtain ⟨hpath, hhost⟩ := write_tenantDocs
  constructor
  case constraints =>
    intro c hc
    have hvars : tenantPatterns.path.vars = [⟨"page", 1, none, none⟩] := by
      simp [tenantPatterns, Pattern.vars, Token.vars]
    rw [Pattern.constraints, hvars] at hc
    obtain rfl : c = pathSegment := by simpa [effectiveConstraint, tenantDocs] using hc
    exact ⟨⟨by decide, by decide⟩, by decide⟩
  case caseless =>
    rintro _ ⟨⟩ v hv
    obtain rfl : v = ⟨"tenant", 0, none, none⟩ := by
      simpa [Pattern.vars, Token.vars] using hv
    exact .inl rfl
  case delimiters =>
    intro host path url hcomposed
    obtain rfl := Except.ok.inj (hcomposed.writesPath.symm.trans hpath)
    have hwritten := hcomposed.writesHost
    cases hwritten with
    | some h =>
        obtain rfl := Except.ok.inj (h.symm.trans hhost)
        refine ⟨by decide, fun hnone => ?_, ?_, ?_⟩
        · cases hnone
        · rintro _ ⟨⟩
          decide
        · rintro _ ⟨⟩ -
          decide
  case port =>
    rintro _ ⟨⟩ host h
    obtain rfl := Except.ok.inj (h.symm.trans hhost)
    decide

/-! ### The way back -/

/-- Whether a route is for a scheme. -/
def Admits (r : Route) (scheme : String) : Prop :=
  r.schemes = [] ∨ ∃ s ∈ r.schemes, s.toLower = scheme.toLower

/-- **A URL leads back to its route.**  Take a route that compiles alone and reads back what is
written for it.  Its URL names a scheme only if that is one of its own, and a request for the path
of the URL, at its host if it has one, with a scheme and a method of the route finds the route. -/
theorem lookup_of_url [Regex.Engine] {r : Route} {options : CompileOptions} {m : Matcher}
    (hm : (Collection.alone r).compile options = .ok m) {given : List (String × String)}
    {url : String} (hurl : r.url given = .ok url)
    (hback : ∀ patterns, Patterns.ofRoute r = .ok patterns → r.ReadsBack given patterns) :
    (∀ scheme ∈ (Reference.ofText url).scheme, scheme ∈ r.schemes) ∧
      ∀ c : Context, c.path = (Reference.ofText url).path →
        (∀ host ∈ (Reference.ofText url).host, c.host = host) → r.Admits c.scheme →
        c.method ∈ r.methods → ∃ params, m.lookup c = .ok (.found ⟨0, params⟩) := by
  obtain ⟨patterns, host, path, hcomposed⟩ := exists_isComposed hurl
  have hback := hback patterns hcomposed.reads
  have hparse := parse_of_ofRoute hcomposed.reads
  have hwhole : ∀ p, Pattern.parse r.path = .ok p →
      ∀ c ∈ p.constraints pathSegment r.patterns, Pattern.IsWhole c := by
    intro p hp c hc
    obtain rfl := Except.ok.inj (hparse.symm.trans hp)
    exact (hback.constraints c hc).toIsWhole
  obtain ⟨d, hd, hwithin, hlookup⟩ := Collection.lookup_alone hm hwhole
  obtain ⟨patterns', hasks⟩ := exists_asks hd
  obtain rfl : patterns = patterns' := Except.ok.inj (hcomposed.reads.symm.trans hasks.reads)
  have hslash := head?_of_writePattern hparse hasks.slash hcomposed.writesPath
  rw [hcomposed.ofText (hback.delimiters host path url hcomposed) hslash]
  refine ⟨fun scheme hscheme => ?_, fun c hpath hhost hscheme hmethod => ?_⟩
  · obtain ⟨-, -, hhead⟩ := Option.bind_eq_some_iff.1 hscheme
    exact List.mem_of_mem_head? hhead
  · refine ⟨d.params c, hlookup c ⟨⟨?_, fun rule hrule => ?_, ?_⟩, ?_⟩⟩
    · rw [hpath]
      exact isSome_values?_of_isComposed hcomposed hback.constraints hd hwithin
    · obtain ⟨h, rfl, hfits⟩ :=
        isSome_hostValues?_of_isComposed hcomposed hback hd hwithin rule hrule
      rwa [hhost h rfl]
    · rw [hasks.schemes]
      exact hscheme
    · rw [hasks.methods, Matcher.serves, List.contains_iff_mem.2 hmethod, Bool.true_or]

theorem lookup_of_tenantDocs : ∃ m params,
    (Collection.alone tenantDocs).compile {} = .ok m ∧
      tenantDocs.url tenantValues = .ok "https://acme/docs/intro?v=2" ∧
      m.lookup ⟨"GET", "/docs/intro", "acme", "https"⟩ = .ok (.found ⟨0, params⟩) := by
  obtain ⟨m, hm⟩ : ∃ m, (Collection.alone tenantDocs).compile {} = .ok m :=
    Collection.exists_compile_alone.2
      ⟨tenantCompiled, compile_tenantDocs, isWithin_tenantCompiled⟩
  obtain ⟨-, hlookup⟩ := lookup_of_url hm url_tenantDocs fun patterns hpatterns => by
    obtain rfl := Except.ok.inj (ofRoute_tenantDocs.symm.trans hpatterns)
    exact readsBack_tenantDocs
  have hreference : Reference.ofText "https://acme/docs/intro?v=2" =
      ⟨some "https", some "acme", "/docs/intro"⟩ := by decide +kernel
  rw [hreference] at hlookup
  obtain ⟨params, hfound⟩ := hlookup ⟨"GET", "/docs/intro", "acme", "https"⟩ rfl
    (by rintro _ ⟨⟩; rfl) (.inr ⟨"https", by decide, rfl⟩) (by decide)
  exact ⟨m, params, hm, url_tenantDocs, hfound⟩

end Route

end Signpost
