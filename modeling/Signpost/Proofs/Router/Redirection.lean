import Signpost.Proofs.Collection.Alone
import Signpost.Proofs.Pattern.Grammar
import Signpost.Proofs.Router.Capitals
import Signpost.Proofs.Url.Resolution
import Signpost.Regex.Estimate

/-!
# Routers — where a redirection leads

A request that is redirected gets its own path back, with the slash at its end toggled, and its own
query.  A client reads this as a reference (`Address.resolve`): it leads to the same host, unless
the path begins with two slashes, what follows them being read as a host then (`Uri.NamesHost`).

* `Uri.isOrigin_of_parse?`: the parts of a target that begins with a slash.
* `Router.redirects_of_decide`: what is known of a redirection.
* `Site.redirection_of_origin`: when a redirection leads to the same host.
* `Site.redirection_leaves`: a redirection to another host.
-/

namespace Signpost

open Address (queryText AreWritable segments isDots withoutDots segments_append_slash)

/-! ### Targets that begin with a slash -/

namespace Uri

/-- What is known of a target that begins with a slash. -/
structure IsOrigin (uri : Uri) : Prop where
  scheme    : uri.scheme = none
  authority : uri.authority = none
  slash     : ∃ rest, uri.path = String.ofList ('/' :: rest)
  path      : ∀ c ∈ uri.path.toList, isPathChar c
  query     : ∀ q, uri.query = some q → ∀ c ∈ q.toList, isQueryChar c

theorem withPath?_eq_some {uri uri' : Uri} {text : List Char} (h : uri.withPath? text = some uri') :
    ∃ (path : List Char) (query : Option (List Char)),
      path = (text.takeWhile (· != '#')).takeWhile (· != '?') ∧
      path.all isPathChar ∧ query.all (·.all isQueryChar) ∧
      uri' = { uri with
        path := if path.isEmpty then "/" else String.ofList path
        query := query.map String.ofList } := by
  simp only [withPath?] at h
  split at h <;> split at h
  case h_1.isTrue | h_2.isTrue =>
    rename_i hall
    obtain ⟨hpath, hquery⟩ := Bool.and_eq_true_iff.1 hall
    exact ⟨_, _, rfl, hpath, hquery, (Option.some.inj h).symm⟩
  all_goals cases h

theorem isOrigin_of_parse? {text : String} {uri : Uri} (h : parse? text = some uri)
    (hslash : text.toList.head? = some '/') : uri.IsOrigin := by
  obtain ⟨rest, htext⟩ := List.head?_eq_some_iff.1 hslash
  rw [parse?, htext] at h
  split at h
  · cases h
  obtain ⟨path, query, hpath, hchars, hquery, rfl⟩ := withPath?_eq_some h
  rw [List.takeWhile_cons_of_pos rfl, List.takeWhile_cons_of_pos rfl] at hpath
  subst hpath
  refine ⟨rfl, rfl, ⟨_, rfl⟩, ?_, ?_⟩
  · intro c hc
    exact List.all_eq_true.1 hchars c (by simpa using hc)
  · intro q hq c hc
    obtain ⟨cs, rfl, rfl⟩ := Option.map_eq_some_iff.1 hq
    exact List.all_eq_true.1 hquery c (by simpa using hc)

theorem isPathChar_spec {c : Char} (h : isPathChar c) :
    (c ≠ '?' ∧ c ≠ '#') ∧ '!' ≤ c ∧ c ≤ '~' := by
  obtain ⟨hrange, hmarks⟩ := Bool.and_eq_true_iff.1 h
  refine ⟨⟨?_, ?_⟩, by simpa using hrange⟩ <;>
  · rintro rfl
    exact absurd hmarks (by decide)

theorem isQueryChar_spec {c : Char} (h : isQueryChar c) : c ≠ '#' ∧ '!' ≤ c ∧ c ≤ '~' := by
  obtain ⟨hrange, hmarks⟩ := Bool.and_eq_true_iff.1 h
  refine ⟨?_, by simpa using hrange⟩
  rintro rfl
  exact absurd hmarks (by decide)

theorem isHeaderValue_of_printable {text : String} (h : ∀ c ∈ text.toList, '!' ≤ c ∧ c ≤ '~') :
    isHeaderValue text := by
  refine List.all_eq_true.2 fun c hc => ?_
  obtain ⟨hlow, hhigh⟩ := h c hc
  have hdelete : c ≠ '\x7f' := by
    rintro rfl
    exact absurd hhigh (by decide)
  have hspace : ' ' ≤ c := Char.le_trans (by decide) hlow
  simp [hspace, hdelete]

/-- Whether a path is read as a host and a path once its slash is toggled. -/
structure NamesHost (path : String) : Prop where
  slashes : ['/', '/'] <+: path.toList
  more    : path ≠ "//"

theorem namesHost_iff {rest : List Char} : NamesHost (String.ofList ('/' :: rest)) ↔
    rest.head? = some '/' ∧ rest ≠ ['/'] := by
  have hslashes : ['/', '/'] <+: (String.ofList ('/' :: rest)).toList ↔ rest.head? = some '/' := by
    rw [String.toList_ofList, List.cons_prefix_cons]
    cases rest <;> simp [eq_comm]
  have hmore : String.ofList ('/' :: rest) ≠ "//" ↔ rest ≠ ['/'] := by
    rw [Ne, ← String.toList_inj, String.toList_ofList]
    exact not_congr ⟨fun h => (List.cons.inj h).2, congrArg (List.cons '/')⟩
  exact ⟨fun h => ⟨hslashes.1 h.slashes, hmore.1 h.more⟩,
    fun h => ⟨hslashes.2 h.1, hmore.2 h.2⟩⟩

end Uri

namespace Router

open Uri (NamesHost)

variable {r : Router} {m : Matcher} {req : Request}

theorem redirectOf?_eq_some {c : Context} {methods : List String} {target : String}
    (h : r.redirectOf? m c methods = .ok (some target)) :
    c.path ≠ "/" ∧ target = toggleSlash c.path := by
  rw [redirectOf?] at h
  split at h
  · rw [redirect?] at h
    split at h
    · cases h
    next hroot =>
      refine ⟨fun hpath => hroot (.inl hpath), ?_⟩
      obtain ⟨res, -, h⟩ := bind_eq_ok.1 h
      cases res with
      | found found => exact (Option.some.inj (Except.ok.inj h)).symm
      | methodNotAllowed methods | notFound => cases h
  · cases h

/-- What is known of a redirection. -/
theorem redirects_of_decide {location : String} {status : Nat}
    (h : r.decide m req = .ok (.redirect location status)) :
    req.uri.path ≠ "/" ∧ location = toggleSlash req.uri.path ++ queryText req.uri.query ∧
      status = if req.method = "GET" then 301 else 308 := by
  rw [decide_eq] at h
  obtain ⟨res, -, h⟩ := bind_eq_ok.1 h
  have hmap : (r.redirectOf? m (.ofRequest req) (instead res)).map
      (r.unfound req.method req.uri (Context.ofRequest req).path (instead res)) =
        .ok (.redirect location status) := by
    cases res with
    | found found => cases h
    | methodNotAllowed methods | notFound => exact h
  rcases htarget : r.redirectOf? m (.ofRequest req) (instead res) with e | _ | target
  · rw [htarget] at hmap
    cases hmap
  · rw [htarget] at hmap
    exact absurd (Except.ok.inj hmap) ((decline_ne r _ _ _).2 location status)
  · rw [htarget] at hmap
    obtain ⟨rfl, rfl⟩ := Decision.redirect.inj (Except.ok.inj hmap)
    obtain ⟨hroot, rfl⟩ := redirectOf?_eq_some htarget
    exact ⟨hroot, rfl, rfl⟩

theorem toggleSlash_of_last {path : String} {c : Char} (hlast : path.toList.getLast? = some c)
    (hslash : c ≠ '/') : toggleSlash path = path ++ "/" := by
  rw [toggleSlash, hlast]
  split
  next heq => exact absurd (Option.some.inj heq) hslash
  next => rfl

/-- The path of a redirection begins with two slashes just when that of the request names a host. -/
theorem exists_toggleSlash {rest : List Char} (hne : rest ≠ []) :
    ∃ rest', toggleSlash (String.ofList ('/' :: rest)) = String.ofList ('/' :: rest') ∧
      (∀ c ∈ rest', c ∈ rest ∨ c = '/') ∧
      (rest'.head? = some '/' ↔ NamesHost (String.ofList ('/' :: rest))) := by
  rw [Uri.namesHost_iff]
  obtain ⟨init, last, rfl⟩ := (List.eq_nil_or_concat' rest).resolve_left hne
  have hlast : (String.ofList ('/' :: (init ++ [last]))).toList.getLast? = some last := by
    rw [String.toList_ofList, ← List.cons_append, List.getLast?_concat]
  by_cases hslash : last = '/'
  · subst hslash
    refine ⟨init, ?_, fun c hc => .inl (List.mem_append_left _ hc), ?_⟩
    · rw [toggleSlash, hlast, String.toList_ofList, ← List.cons_append, List.dropLast_concat]
      rfl
    · cases init <;> simp
  · refine ⟨init ++ [last] ++ ['/'], ?_, fun c hc => ?_, ?_⟩
    · rw [toggleSlash_of_last hlast hslash, ← String.toList_inj, String.toList_append]
      simp
    · rcases List.mem_append.1 hc with hc | hc
      · exact .inl hc
      · exact .inr (List.mem_singleton.1 hc)
    · cases init <;> simp [hslash]

/-- Toggling a slash adds no segment of dots. -/
theorem isDots_toggleSlash {path : String} (h : ∀ s ∈ segments path, isDots s = false) :
    ∀ s ∈ segments (toggleSlash path), isDots s = false := by
  rcases List.eq_nil_or_concat' path.toList with hnil | ⟨init, last, hpath⟩
  · obtain rfl := String.toList_eq_nil_iff.1 hnil
    decide
  have hlast : path.toList.getLast? = some last := by rw [hpath, List.getLast?_concat]
  by_cases hslash : last = '/'
  · subst hslash
    have htoggle : toggleSlash path = String.ofList init := by
      rw [toggleSlash, hlast, hpath, List.dropLast_concat]
      rfl
    have hback : path = String.ofList init ++ "/" := by
      rw [← String.toList_inj, String.toList_append, String.toList_ofList, hpath]
      rfl
    rw [htoggle]
    rw [hback, segments_append_slash] at h
    exact fun s hs => h s (List.mem_append_left _ hs)
  · rw [toggleSlash_of_last hlast hslash, segments_append_slash]
    intro s hs
    rcases List.mem_append.1 hs with hs | hs
    · exact h s hs
    · rw [List.mem_singleton.1 hs]
      decide

end Router

/-! ### Sites -/

namespace Site

open Uri (NamesHost)

open Router (toggleSlash)

variable {s : Site} {m : Matcher} {req : Request} {target : String} {code : Nat}

/-- Whether a client that is sent to a target stays with the scheme and the host that it has asked,
for the other path and the same query. -/
def StaysAtHost (req : Request) (target : String) : Prop :=
  ∀ a : Address, a.path = req.uri.path → a.query = req.uri.query →
    a.resolve (.ofText target) = { a with path := withoutDots (toggleSlash req.uri.path) }

/-- What a request gets that is redirected to a target. -/
structure Redirection [Regex.Engine] (s : Site) (req : Request) (target : String)
    (code : Nat) : Prop where
  reply  : (s.serve req).1 =
    .ok (pure (.ok { status := code, headers := [("location", target)] }))
  status : code = if req.method = "GET" then 301 else 308
  text   : target = toggleSlash req.uri.path ++ queryText req.uri.query
  slash  : target.toList.head? = some '/'
  /-- It leads to the same host unless the path names one, -/
  stays  : StaysAtHost req target ↔ ¬NamesHost req.uri.path
  /-- and just then it begins with one slash. -/
  single : target.toList[1]? ≠ some '/' ↔ ¬NamesHost req.uri.path
  /-- If the path names a host, it leads there. -/
  leaves : NamesHost req.uri.path → ∃ rest, target = String.ofList ('/' :: '/' :: rest) ∧
    ∀ a : Address, (a.resolve (.ofText target)).authority =
      String.ofList (rest.takeWhile (!Address.isDelimiter ·))
  /-- A path without segments of dots is what the client asks for, but for the slash. -/
  plain  : (∀ s ∈ segments req.uri.path, isDots s = false) →
    withoutDots (toggleSlash req.uri.path) = toggleSlash req.uri.path

theorem queryText_head? (query : Option String) : (queryText query).toList.head? ≠ some '/' := by
  rcases Address.Reference.queryText_cases query with hnil | ⟨q, -, hq⟩
  · simp [hnil]
  · simp [hq]

section location

variable {uri : Uri}

theorem exists_location (huri : uri.IsOrigin) (hroot : uri.path ≠ "/") :
    ∃ rest, toggleSlash uri.path = String.ofList ('/' :: rest) ∧
      (∀ c ∈ '/' :: rest, Uri.isPathChar c) ∧ (rest.head? = some '/' ↔ NamesHost uri.path) := by
  obtain ⟨rest, hpath⟩ := huri.slash
  have hne : rest ≠ [] := by
    rintro rfl
    exact hroot hpath
  obtain ⟨rest', htoggle, hchars, hhead⟩ := Router.exists_toggleSlash hne
  rw [← hpath] at htoggle hhead
  refine ⟨rest', htoggle, fun c hc => ?_, hhead⟩
  rcases List.mem_cons.1 hc with rfl | hc
  · decide
  · rcases hchars c hc with hc | rfl
    · exact huri.path c (by rw [hpath, String.toList_ofList]; exact .tail _ hc)
    · decide

theorem areWritable_of_isOrigin (huri : uri.IsOrigin) {path : List Char}
    (hpath : ∀ c ∈ path, Uri.isPathChar c) : AreWritable (String.ofList path) uri.query := by
  refine ⟨fun c hc => ?_, fun q hq hmark => ?_⟩
  · exact (Uri.isPathChar_spec (hpath c (by rwa [String.toList_ofList] at hc))).1
  · exact (Uri.isQueryChar_spec (huri.query q hq _ hmark)).1 rfl

/-- What is made of a target can be sent in a header. -/
theorem isHeaderValue_of_isOrigin (huri : uri.IsOrigin) {path : List Char}
    (hpath : ∀ c ∈ path, Uri.isPathChar c) :
    isHeaderValue (String.ofList path ++ queryText uri.query) := by
  refine Uri.isHeaderValue_of_printable fun c hc => ?_
  rw [String.toList_append, String.toList_ofList] at hc
  rcases List.mem_append.1 hc with hc | hc
  · exact (Uri.isPathChar_spec (hpath c hc)).2
  · rcases Address.Reference.queryText_cases uri.query with hnil | ⟨q, hq, hchars⟩
    · simp [hnil] at hc
    · rw [hchars] at hc
      rcases List.mem_cons.1 hc with rfl | hc
      · decide
      · exact (Uri.isQueryChar_spec (huri.query q hq c hc)).2

end location

theorem redirection_of_isOrigin [Regex.Engine] (hkept : s.compile.1 = .ok m)
    (huri : req.uri.IsOrigin) (hdecide : s.router.decide m req = .ok (.redirect target code)) :
    s.Redirection req target code := by
  obtain ⟨hroot, htarget, hcode⟩ := Router.redirects_of_decide hdecide
  obtain ⟨rest, htoggle, hchars, hhead⟩ := exists_location huri hroot
  have hwritable := areWritable_of_isOrigin huri hchars
  have htext : target = String.ofList ('/' :: rest) ++ queryText req.uri.query := by
    rw [htarget, htoggle]
  have hlist : target.toList = '/' :: (rest ++ (queryText req.uri.query).toList) := by
    rw [htext, String.toList_append, String.toList_ofList]
    rfl
  have hreply : (s.serve req).1 =
      .ok (pure (.ok { status := code, headers := [("location", target)] })) := by
    rw [serve_eq hkept, Router.answer, hdecide]
    refine congrArg (fun reply => Except.ok (pure reply)) ?_
    rw [Router.headerReply, if_pos (htext ▸ isHeaderValue_of_isOrigin huri hchars)]
  have hstays : ¬NamesHost req.uri.path → StaysAtHost req target := by
    intro hhost a hapath hquery
    have hone : rest.head? ≠ some '/' := fun h => hhost (hhead.1 h)
    have hempty : String.ofList ('/' :: rest) ≠ "" := by simp
    rw [htext, Address.Reference.ofText_path hwritable hone, Address.resolve, if_neg hempty,
      if_pos (by rw [String.toList_ofList]; rfl), htoggle, ← hquery]
  have hleaves : NamesHost req.uri.path → ∃ rest, target = String.ofList ('/' :: '/' :: rest) ∧
      ∀ a : Address, (a.resolve (.ofText target)).authority =
        String.ofList (rest.takeWhile (!Address.isDelimiter ·)) := by
    intro hhost
    obtain ⟨more, rfl⟩ := List.head?_eq_some_iff.1 (hhead.2 hhost)
    refine ⟨more ++ (queryText req.uri.query).toList, ?_, fun a => ?_⟩
    · rw [← String.toList_inj, hlist, String.toList_ofList]
      rfl
    · rw [Address.Reference.takeWhile_append_queryText, htext,
        Address.Reference.ofText_network hwritable, Address.resolve]
  refine ⟨hreply, hcode, htarget, by rw [hlist]; rfl, ⟨?_, hstays⟩, ?_, hleaves, fun hdots => ?_⟩
  · intro hstay hhost
    obtain ⟨rest, -, hauthority⟩ := hleaves hhost
    -- a client that has asked another host is led away from it
    have hother := congrArg Address.authority (hstay
      ⟨"http", String.ofList (rest.takeWhile (!Address.isDelimiter ·)) ++ "x", _, _⟩ rfl rfl)
    rw [hauthority] at hother
    have hlength := congrArg String.length hother
    rw [String.length_append] at hlength
    exact absurd hlength (Nat.ne_of_lt (Nat.lt_add_of_pos_right (by decide)))
  · rw [hlist, List.getElem?_cons_succ, ← List.head?_eq_getElem?, List.head?_append, ← hhead]
    refine not_congr (Option.or_eq_some_iff.trans ?_)
    exact or_iff_left fun h => queryText_head? _ h.2
  · exact Address.withoutDots_eq (Router.isDots_toggleSlash hdots)

/-- **Where a redirection leads.**  Take a site with a matcher and a request whose target begins
with a slash.  If it is redirected, it gets the path and the query of its target back, the slash at
the end of the path toggled.  A client that resolves this against what it has asked for stays with
the scheme and the host, just when it does not begin with two slashes: unless the path of the
request does so, and is more than these. -/
theorem redirection_of_origin [Regex.Engine] {method text : String} {headers : Headers}
    (hkept : s.compile.1 = .ok m) (hreq : Request.ofTexts? method text headers = some req)
    (hslash : text.toList.head? = some '/')
    (hdecide : s.router.decide m req = .ok (.redirect target code)) :
    s.Redirection req target code := by
  rw [Request.ofTexts?] at hreq
  split at hreq
  · obtain ⟨uri, huri, rfl⟩ := Option.map_eq_some_iff.1 hreq
    exact redirection_of_isOrigin hkept (Uri.isOrigin_of_parse? huri hslash) hdecide
  · cases hreq

/-- A redirection in the sample. -/
theorem redirection_sample : ∃ m req, sample.compile.1 = .ok m ∧
    Request.ofTexts? "GET" "/b/?c" [] = some req ∧
    sample.router.decide m req = .ok (.redirect "/b?c" 301) ∧
    sample.Redirection req "/b?c" 301 := by
  obtain ⟨m, hdata, -, hkept⟩ := compileRoutes_sample
  have huri : Uri.parse? "/b/?c" = some { path := "/b/", query := some "c" } := by
    decide +kernel
  have hreq : Request.ofTexts? "GET" "/b/?c" [] =
      some ⟨"GET", { path := "/b/", query := some "c" }, [], none⟩ := by
    rw [Request.ofTexts?, if_pos (by decide), huri]
    rfl
  have hrun : ((Matcher.ofData Collection.sampleData).toOption.bind fun m =>
      (sample.router.decide m ⟨"GET", { path := "/b/", query := some "c" }, [], none⟩).toOption) =
        some (.redirect "/b?c" 301) := by
    decide +kernel
  rw [hdata] at hrun
  have hdecide := toOption_eq_some.1 hrun
  exact ⟨m, _, hkept, hreq, hdecide, redirection_of_origin hkept hreq (by decide) hdecide⟩

/-! ### A path of any characters -/

def anyPath : Route where
  path := "/{x:.*}/"
  methods := ["GET"]
  handler := .named "page"

def anyPathAtoms : List Atom := [.char '/', .ofVariable "x" ".*" 0, .char '/']

def anyPathCompiled : CompiledRoute where
  staticPath? := none
  atoms := anyPathAtoms
  expression := "/(.*)/"
  vars := ["x"]
  requirements := { methods := ["GET"], schemes := [], host := none, defaults := .empty }

def anyPathData : Matcher.Data where
  staticPaths := .empty
  chunks := [⟨"^(?:/(.*)/())$", 1⟩]
  leaves := [⟨2, [⟨"x", 1⟩], "^(?:/(.*)/())$", [⟨"x", 1⟩], [0]⟩]
  routes := [anyPathCompiled.requirements]
  sizeLimit := Regex.defaultSizeLimit

def anyPathPattern : Pattern := ⟨"/{x:.*}/", [.text "/", .var "x" (some ".*") none, .text "/"]⟩

theorem parse_anyPath : Pattern.parse anyPath.path = .ok anyPathPattern := by
  have hvariable : Token.IsVariable "x" (some ".*") none :=
    ⟨by decide, by simp, by simp [splitDefault], by simp⟩
  have hlast : Token.Formed [.text "/"] := .text (by simp) (by simp) (by simp) .nil
  exact Pattern.parse_of_isRendering
    ⟨.segment hvariable hlast, by simp [PatternReader.namesOf, Token.vars]⟩
    (.text "/" (.var (.constrained ".*") (by decide) (.text "/" .nil)))

theorem compile_anyPath : anyPath.compile = .ok anyPathCompiled := by
  have hcheck : Pattern.checkConstraint "/{x:.*}/" "x" ".*" = .ok 0 := by rfl
  have hatoms : anyPathPattern.atoms pathSegment anyPath.patterns = .ok anyPathAtoms :=
    Pattern.atoms_eq_ok.2 ⟨_, .cons (Pattern.tokenAtoms_text _)
      (.cons (Pattern.tokenAtoms_var.2 ⟨0, hcheck, rfl⟩)
        (.cons (Pattern.tokenAtoms_text _) .nil)), rfl⟩
  have hslash : anyPath.path.toList.head? = some '/' := by decide
  have hcompile :=
    Route.compile_of_atoms anyPath _ _ (by simp [anyPath]) hslash rfl parse_anyPath hatoms
  have hdefaults : (Route.Patterns.mk anyPathPattern none).defaults anyPath.defaults = .empty := by
    simp [Route.Patterns.defaults, Pattern.defaults, Pattern.vars, Token.vars, anyPathPattern,
      anyPath]
    rfl
  have htext : Atom.expression anyPathAtoms = "/(.*)/".toList := by
    decide +kernel
  rw [hcompile, hdefaults, htext]
  rfl

def anyPathSite : Site := { router := { collection := Collection.alone anyPath } }

theorem compileRoutes_anyPath : anyPathSite.compileRoutes = Matcher.ofData anyPathData := by
  obtain ⟨e, hfits⟩ : ∃ e, Regex.compile (Merged.ofFragments .segments
      [anyPathCompiled.atoms]).expression Regex.defaultSizeLimit = .ok e := ⟨_, rfl⟩
  have hdata : Collection.matcherData {} [anyPathCompiled] = .ok anyPathData :=
    Collection.matcherData_singleton rfl hfits
  exact Collection.compile_alone_eq_ofData compile_anyPath hdata

/-- **A redirection may lead to another host.** -/
theorem redirection_leaves : ∃ m req, anyPathSite.compile.1 = .ok m ∧
    Request.ofTexts? "GET" "//evil.com" [] = some req ∧
    anyPathSite.router.decide m req = .ok (.redirect "//evil.com/" 301) ∧
    ∀ a : Address, (a.resolve (.ofText "//evil.com/")).authority = "evil.com" := by
  have huri : Uri.parse? "//evil.com" = some { path := "//evil.com" } := by
    decide +kernel
  have hreq : Request.ofTexts? "GET" "//evil.com" [] =
      some ⟨"GET", { path := "//evil.com" }, [], none⟩ := by
    rw [Request.ofTexts?, if_pos (by decide), huri]
    rfl
  have hrun : ((Matcher.ofData anyPathData).toOption.bind fun m =>
      (anyPathSite.router.decide m ⟨"GET", { path := "//evil.com" }, [], none⟩).toOption) =
        some (.redirect "//evil.com/" 301) := by
    decide +kernel
  obtain ⟨m, hm, hdecide⟩ := Option.bind_eq_some_iff.1 hrun
  have hkept : anyPathSite.compile.1 = .ok m :=
    (compile_of_new rfl rfl).trans (compileRoutes_anyPath.trans (toOption_eq_some.1 hm))
  exact ⟨m, _, hkept, hreq, toOption_eq_some.1 hdecide, fun a => rfl⟩

end Site

end Signpost
