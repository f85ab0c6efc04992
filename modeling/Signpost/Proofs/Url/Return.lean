import Signpost.Proofs.Matcher.Binding
import Signpost.Proofs.Merge.Runs
import Signpost.Proofs.Pattern.Grammar
import Signpost.Proofs.Url.Arrival
import Signpost.Regex.Estimate

/-!
# URLs — what comes back

A path of segments is written from values and matched for values, in two ways that do not know of
each other.  What is written depends on which variables are given; what is matched depends on where
the slashes are.  Both choose the same optional segments, since what is left out of a path is left
out at its end (`Writer.settle_valuesOfRun`).

* `Route.params_of_url`: the parameters that a URL comes back with.
-/

namespace Signpost

open Regex (Node Copies)

open Token (Opens AreSegments IsRendering)

/-! ### What is written for segments -/

namespace Writer

variable {w : Writer} {ts : List Token} {ss : List String} {segment : String}

theorem head?_of_opens [Regex.Engine] (hts : Opens ts)
    (hss : List.Forall₂ (fun t s => w.write segment t = .ok s) ts ss) :
    (String.join ss).toList.head? = some '/' := by
  obtain ⟨content, rest, rfl, hslash⟩ := hts
  obtain ⟨s, ss, hs, -, rfl⟩ := List.forall₂_cons_left_iff.1 hss
  obtain rfl := Except.ok.inj ((write_text content).symm.trans hs)
  obtain ⟨cs, hcs⟩ := List.head?_eq_some_iff.1 hslash
  simp [String.toList_join, hcs]

/-- What is written for segments begins with a slash, if it is anything. -/
theorem nil_or_head?_of_areSegments [Regex.Engine] (hts : AreSegments ts)
    (hss : List.Forall₂ (fun t s => w.write segment t = .ok s) ts ss) :
    (String.join ss).toList = [] ∨ (String.join ss).toList.head? = some '/' := by
  rcases hts.opens with rfl | hopens | ⟨inner, hopens, rfl⟩
  · cases hss
    exact .inl rfl
  · exact .inr (head?_of_opens hopens hss)
  · obtain ⟨s, ss, hs, hnil, rfl⟩ := List.forall₂_cons_left_iff.1 hss
    cases hnil
    rcases write_optional hs with ⟨-, rfl⟩ | ⟨-, own, hown, rfl⟩
    · exact .inl rfl
    · have hhead := head?_of_opens hopens hown
      exact .inr (by simpa [String.toList_join] using hhead)

/-- What is not mentioned is not given. -/
theorem lookup_of_not_mentions {inner : List Token} (h : inner.any w.mentions = false) {depth : Nat}
    {v : Variable} (hv : v ∈ inner.flatMap (Token.vars depth)) : w.given.lookup v.name = none := by
  obtain ⟨t, ht, hvt⟩ := List.mem_flatMap.1 hv
  have hname := List.mem_map_of_mem (f := Variable.name) hvt
  rw [PatternReader.map_name_vars t depth 0] at hname
  obtain ⟨v', hv', heq⟩ := List.mem_map.1 hname
  have hnot := List.any_eq_false.1 h t ht
  rw [Writer.mentions, List.any_eq_true] at hnot
  rw [← heq]
  exact Option.not_isSome_iff_eq_none.1 fun hsome => hnot ⟨v', hv', hsome⟩

end Writer

/-! ### What passes for a segment -/

theorem Regex.ofText?_pathSegment : Node.ofText? (anchoredConstraint pathSegment).toList =
    some (.cat (.look .textStart) (.cat (.repetition (.set slashless) 1 none true)
      (.look .textEnd))) := by
  rfl

/-- A value that the generator accepts for an unconstrained variable has no slash in it. -/
theorem Writer.slash_notMem_of_write [Regex.Engine] {w : Writer} {name value : String}
    {own : Option String}
    (hsegment : effectiveConstraint w.route.patterns pathSegment name own = pathSegment)
    (h : w.writeVariable pathSegment name own = .ok value) : '/' ∉ value.toList := by
  obtain ⟨⟨root⟩, hr, hmatch, -⟩ := writeVariable_eq_ok h
  rw [hsegment] at hr
  obtain rfl := Option.some.inj (Regex.ofText?_pathSegment.symm.trans (Regex.ofText?_of_compile hr))
  obtain ⟨more, -, hcopies⟩ := Regex.reaches_of_isMatch hmatch
  have hinside : ∀ {count i j : Nat},
      Copies ((Node.set slashless).Reaches value.toList.toArray) count i j →
      ∀ k, i ≤ k → k < j → value.toList[k]? ≠ some '/' := by
    intro count i j hcopies
    induction hcopies with
    | none i => exact fun k hi hk => absurd hi (Nat.not_le.2 hk)
    | @more count i j k first rest ih =>
        obtain ⟨hany, rfl⟩ := first
        intro l hi hl hslash
        rcases Nat.eq_or_lt_of_le hi with rfl | hi
        · rw [List.getElem?_toArray, hslash, Option.any_some, contains_slashless] at hany
          cases hany
        · exact ih l hi hl hslash
  intro hmem
  obtain ⟨k, hk, hget⟩ := List.mem_iff_getElem.1 hmem
  exact hinside hcopies k (Nat.zero_le k) hk (by rw [List.getElem?_eq_getElem hk, hget])

/-! ### What is matched by segments -/

namespace Pattern

variable {source : String} {overrides : Dict String} {text : Array Char} {ts : List Token}
  {ass : List (List Atom)} {pos depth : Nat} {r : Run Record}

variable [Regex.Engine]

theorem getElem?_of_opens (hts : Opens ts)
    (hass : List.Forall₂ (fun t as => tokenAtoms source pathSegment overrides t = .ok as) ts ass)
    (hr : r ∈ Atom.runs (Ways.ofRegex text) ass.flatten pos) : text[pos]? = some '/' := by
  obtain ⟨content, rest, rfl, hslash⟩ := hts
  obtain ⟨as, ass, ht, -, rfl⟩ := List.forall₂_cons_left_iff.1 hass
  obtain rfl := Except.ok.inj ((tokenAtoms_text content).symm.trans ht)
  obtain ⟨cs, hcs⟩ := List.head?_eq_some_iff.1 hslash
  rw [List.flatten_cons] at hr
  obtain ⟨hbegins, -⟩ := Atom.exists_run_chars hr
  rw [hcs] at hbegins
  obtain ⟨more, hmore⟩ := hbegins
  have hhead : (text.toList.drop pos).head? = some '/' := by rw [← hmore]; rfl
  rw [List.head?_drop] at hhead
  simpa using hhead

/-- The atoms of tokens whose variables are not constrained. -/
theorem isSound_of_unconstrained
    (hfree : ∀ v ∈ ts.flatMap (Token.vars depth),
      effectiveConstraint overrides pathSegment v.name v.constraint = pathSegment)
    (hass : List.Forall₂ (fun t as => tokenAtoms source pathSegment overrides t = .ok as) ts ass) :
    ∀ a ∈ ass.flatten, a.IsSound := by
  refine forall_mem_flatten_of_forall₂ hass fun t ht as has => ?_
  have hin : ∀ v ∈ t.vars depth,
      staysInside (effectiveConstraint overrides pathSegment v.name v.constraint) = true := by
    intro v hv
    rw [hfree v (List.mem_flatMap.2 ⟨t, ht, hv⟩)]
    decide
  exact isSound_of_tokenAtoms hin has

/-- **Segments run to the end of the text** from nowhere but the end itself and a slash. -/
theorem ends_or_slash_of_run (hts : AreSegments ts)
    (hass : List.Forall₂ (fun t as => tokenAtoms source pathSegment overrides t = .ok as) ts ass)
    (hfree : ∀ v ∈ ts.flatMap (Token.vars depth),
      effectiveConstraint overrides pathSegment v.name v.constraint = pathSegment)
    (hr : r ∈ Atom.runs (Ways.ofRegex text) ass.flatten pos) (hstop : text.size ≤ r.stop) :
    text.size ≤ pos ∨ text[pos]? = some '/' := by
  rcases hts.opens with rfl | hopens | ⟨inner, hopens, rfl⟩
  · cases hass
    obtain rfl := List.mem_singleton.1 hr
    exact .inl hstop
  · exact .inr (getElem?_of_opens hopens hass hr)
  · obtain ⟨as, ass, ht, hnil, rfl⟩ := List.forall₂_cons_left_iff.1 hass
    cases hnil
    obtain ⟨ass, hinner, rfl⟩ := tokenAtoms_optional.1 ht
    have hvars : [Token.optional inner].flatMap (Token.vars depth) =
        inner.flatMap (Token.vars (depth + 1)) := by
      rw [List.flatMap_singleton, Token.vars]
    rw [hvars] at hfree
    have hsound := isSound_of_unconstrained hfree hinner
    rcases Atom.exists_run_optional hsound hr with ⟨hstay, -⟩ | ⟨r', hr', -⟩
    · exact .inl (hstay ▸ hstop)
    · exact .inr (getElem?_of_opens hopens hinner hr')

end Pattern

/-! ### What the variables get -/

namespace Writer

variable {w : Writer} {ts : List Token} {source : String} {ass : List (List Atom)}
  {ss : List String} {text : Array Char} {pos depth : Nat} {r : Run Record}

/-- A variable with the value that it is bound to, when a match gives it a value or none. -/
def settle (w : Writer) (v : String × Option String) : String × Option String :=
  (v.1, v.2.or (w.defaults.get? v.1))

theorem drop_of_append {T A B : List Char} (h : T.drop pos = A ++ B) :
    T.drop (pos + A.length) = B ∧ (pos ≤ T.length → pos + A.length ≤ T.length) := by
  have hlength := congrArg List.length h
  rw [List.length_drop, List.length_append] at hlength
  refine ⟨?_, fun hpos => by omega⟩
  rw [← List.drop_drop, h, List.drop_left]

/-- What is between slashes, or a slash and the end, can be told from the text alone. -/
theorem eq_of_slashes {T V J : List Char} {stop : Nat} (hrest : T.drop pos = V ++ J)
    (hV : '/' ∉ V) (hJ : J = [] ∨ J.head? = some '/') (hfrom : pos ≤ stop)
    (hto : stop ≤ T.length) (hinside : ∀ j, pos ≤ j → j < stop → T[j]? ≠ some '/')
    (hbound : T.length ≤ stop ∨ T[stop]? = some '/') : stop = pos + V.length := by
  have hget : ∀ k, T[pos + k]? = (V ++ J)[k]? := fun k => by rw [← List.getElem?_drop, hrest]
  have hlength := congrArg List.length hrest
  rw [List.length_drop, List.length_append] at hlength
  obtain ⟨k, rfl⟩ := Nat.exists_eq_add_of_le hfrom
  rcases Nat.lt_trichotomy k V.length with hlt | rfl | hlt
  · have hslash := hbound.resolve_left (by omega)
    rw [hget, List.getElem?_append_left hlt] at hslash
    exact absurd (List.mem_of_getElem? hslash) hV
  · rfl
  · have hne : J ≠ [] := by
      rintro rfl
      rw [List.length_nil] at hlength
      omega
    have hslash : T[pos + V.length]? = some '/' := by
      rw [hget, List.getElem?_append_right (Nat.le_refl _), Nat.sub_self, ← List.head?_eq_getElem?]
      exact hJ.resolve_left hne
    exact absurd hslash (hinside _ (Nat.le_add_right _ _) (by omega))

theorem toList_join_cons (s : String) (ss : List String) :
    (String.join (s :: ss)).toList = s.toList ++ (String.join ss).toList := by
  simp [String.toList_join]

/-- **A run through a value** that is written for a segment passes all of it, and nothing else. -/
theorem exists_run_of_value {name value : String} {count : Nat} {as : List Atom} {J : List Char}
    (hpos : pos ≤ text.toList.length) (hrest : text.toList.drop pos = value.toList ++ J)
    (hvalue : '/' ∉ value.toList) (hJ : J = [] ∨ J.head? = some '/')
    (hr : r ∈ Atom.runs (Ways.ofRegex text) (.ofVariable name pathSegment count :: as) pos)
    (hbound : ∀ stop, ∀ r' ∈ Atom.runs (Ways.ofRegex text) as stop, r'.stop = r.stop →
      text.size ≤ stop ∨ text[stop]? = some '/') :
    ∃ r' ∈ Atom.runs (Ways.ofRegex text) as (pos + value.toList.length), r'.stop = r.stop ∧
      Place.valuesOfRun text (.ofVariable name pathSegment count :: as) r =
        (name, some value) :: Place.valuesOfRun text as r' := by
  obtain ⟨stop, ⟨hfrom, hto⟩, hinside, r', hr', hend, hvalues⟩ :=
    Atom.exists_run_segment (by simpa using hpos) hr
  obtain rfl := eq_of_slashes hrest hvalue hJ hfrom (by simpa using hto)
    (by simpa using hinside) (by simpa using hbound stop r' hr' hend.symm)
  refine ⟨r', hr', hend.symm, ?_⟩
  have hextract : String.ofList (text.extract pos (pos + value.toList.length)).toList = value := by
    rw [Array.toList_extract, List.extract, hrest, Nat.add_sub_cancel_left, List.take_left,
      String.ofList_toList]
  rw [Place.valuesOfRun, hvalues, List.map_cons, Option.map_some, hextract]
  rfl

variable [Regex.Engine]

/-- **What is written at the end is matched, and what is left out is not.** -/
theorem exists_run_of_optional {inner : List Token} {s : String} (hopens : Opens inner)
    (hass : List.Forall₂
      (fun t as => Pattern.tokenAtoms source pathSegment w.route.patterns t = .ok as) inner ass)
    (hsound : ∀ a ∈ ass.flatten, a.IsSound) (hs : w.write pathSegment (.optional inner) = .ok s)
    (hrest : text.toList.drop pos = s.toList)
    (hr : r ∈ Atom.runs (Ways.ofRegex text) [.optional ass.flatten] pos)
    (hstop : text.size ≤ r.stop) :
    (inner.any w.mentions = false ∧ Place.valuesOfRun text [.optional ass.flatten] r =
        (Atom.vars ass.flatten).map fun name => (name, none)) ∨
      ∃ ss, List.Forall₂ (fun t s => w.write pathSegment t = .ok s) inner ss ∧ s = String.join ss ∧
        ∃ r' ∈ Atom.runs (Ways.ofRegex text) ass.flatten pos, r'.stop = r.stop ∧
          Place.valuesOfRun text [.optional ass.flatten] r =
            Place.valuesOfRun text ass.flatten r' := by
  have hrun := Atom.exists_run_optional hsound hr
  rcases write_optional hs with ⟨hnone, rfl⟩ | ⟨-, ss, hss, rfl⟩
  · -- nothing is written, so the run is at the end
    have hend : text.toList.length ≤ pos := List.drop_eq_nil_iff.1 hrest
    rcases hrun with ⟨-, hvalues⟩ | ⟨r', hr', -⟩
    · refine .inl ⟨hnone, ?_⟩
      rw [Place.valuesOfRun, hvalues, List.map_map]
      rfl
    · have hslash := Pattern.getElem?_of_opens hopens hass hr'
      rw [Array.getElem?_eq_none (by simpa using hend)] at hslash
      cases hslash
  · rcases hrun with ⟨hstay, -⟩ | ⟨r', hr', hend, hvalues⟩
    · have hdrop : text.toList.drop pos = [] :=
        List.drop_eq_nil_iff.2 (by rw [← hstay]; simpa using hstop)
      have hhead := head?_of_opens hopens hss
      rw [← hrest, hdrop] at hhead
      cases hhead
    · refine .inr ⟨ss, hss, rfl, r', hr', hend.symm, ?_⟩
      rw [Place.valuesOfRun, hvalues]
      rfl

/-- **A run through what is written for segments** gives each variable its value. -/
theorem settle_valuesOfRun (hts : AreSegments ts)
    (hfree : ∀ v ∈ ts.flatMap (Token.vars depth),
      effectiveConstraint w.route.patterns pathSegment v.name v.constraint = pathSegment)
    (hass : List.Forall₂
      (fun t as => Pattern.tokenAtoms source pathSegment w.route.patterns t = .ok as) ts ass)
    (hss : List.Forall₂ (fun t s => w.write pathSegment t = .ok s) ts ss)
    (hpos : pos ≤ text.toList.length) (hrest : text.toList.drop pos = (String.join ss).toList)
    (hr : r ∈ Atom.runs (Ways.ofRegex text) ass.flatten pos) (hstop : text.size ≤ r.stop) :
    (Place.valuesOfRun text ass.flatten r).map w.settle =
      (ts.flatMap (Token.vars depth)).map fun v => (v.name, w.value? v.name) := by
  have hliteral : ∀ content depth, (Token.text content).vars depth = [] := fun _ _ => by
    rw [Token.vars]
  induction hts generalizing depth ass ss pos r with
  | nil =>
      cases hass
      rfl
  | @text content ts hslash hsegments ih =>
      obtain ⟨as, ass', ht, hass', rfl⟩ := List.forall₂_cons_left_iff.1 hass
      obtain ⟨s, ss', hs, hss', rfl⟩ := List.forall₂_cons_left_iff.1 hss
      obtain rfl := Except.ok.inj ((Pattern.tokenAtoms_text content).symm.trans ht)
      obtain rfl := Except.ok.inj ((write_text content).symm.trans hs)
      rw [List.flatten_cons] at hr ⊢
      obtain ⟨-, r', hr', hend, hvalues⟩ := Atom.exists_run_chars hr
      rw [toList_join_cons] at hrest
      obtain ⟨hdrop, hle⟩ := drop_of_append hrest
      rw [List.flatMap_cons, hliteral, List.nil_append] at hfree ⊢
      rw [Place.valuesOfRun, hvalues]
      exact ih hfree hass' hss' (hle hpos) hdrop hr' (hend ▸ hstop)
  | @var content name default ts hslash hsegments ih =>
      obtain ⟨as, asv, ht, hassv, rfl⟩ := List.forall₂_cons_left_iff.1 hass
      obtain ⟨bs, ass', hv, hass', rfl⟩ := List.forall₂_cons_left_iff.1 hassv
      obtain ⟨s, ssv, hs, hssv, rfl⟩ := List.forall₂_cons_left_iff.1 hss
      obtain ⟨value, ss', hvalue, hss', rfl⟩ := List.forall₂_cons_left_iff.1 hssv
      obtain rfl := Except.ok.inj ((Pattern.tokenAtoms_text content).symm.trans ht)
      obtain rfl := Except.ok.inj ((write_text content).symm.trans hs)
      rw [Writer.write] at hvalue
      obtain ⟨count, -, rfl⟩ := Pattern.tokenAtoms_var.1 hv
      have hvar : (Token.var name none default).vars depth = [⟨name, depth, none, default⟩] := by
        rw [Token.vars]
      rw [List.flatMap_cons, hliteral, List.nil_append, List.flatMap_cons, hvar,
        List.singleton_append] at hfree ⊢
      obtain ⟨hsegment, hfree⟩ := List.forall_mem_cons.1 hfree
      have hsegment : effectiveConstraint w.route.patterns pathSegment name none = pathSegment :=
        hsegment
      rw [hsegment, List.flatten_cons, List.flatten_cons, List.singleton_append] at hr ⊢
      rw [toList_join_cons, toList_join_cons] at hrest
      obtain ⟨hdrop, hle⟩ := drop_of_append hrest
      obtain ⟨hdrop', hle'⟩ := drop_of_append hdrop
      obtain ⟨-, r₁, hr₁, hend₁, hvalues₁⟩ := Atom.exists_run_chars hr
      obtain ⟨r₂, hr₂, hend₂, hvalues₂⟩ := exists_run_of_value (hle hpos) hdrop
        (slash_notMem_of_write hsegment hvalue) (nil_or_head?_of_areSegments hsegments hss') hr₁
        fun stop r' hr' hend' =>
          Pattern.ends_or_slash_of_run hsegments hass' hfree hr' (by omega)
      obtain ⟨-, -, -, hgiven⟩ := writeVariable_eq_ok hvalue
      rw [Place.valuesOfRun, hvalues₁, ← Place.valuesOfRun, hvalues₂, List.map_cons, List.map_cons]
      congr 1
      · rw [settle, Option.some_or, hgiven]
      · exact ih hfree hass' hss' (hle' (hle hpos)) hdrop' hr₂ (by omega)
  | @tail inner hopens hinner ih =>
      obtain ⟨as, ass', ht, hnil, rfl⟩ := List.forall₂_cons_left_iff.1 hass
      obtain ⟨s, ss', hs, hnil', rfl⟩ := List.forall₂_cons_left_iff.1 hss
      cases hnil
      cases hnil'
      obtain ⟨asi, hinside, rfl⟩ := Pattern.tokenAtoms_optional.1 ht
      have hvars : [Token.optional inner].flatMap (Token.vars depth) =
          inner.flatMap (Token.vars (depth + 1)) := by
        rw [List.flatMap_singleton, Token.vars]
      rw [hvars] at hfree ⊢
      rw [toList_join_cons, String.join_nil, String.toList_empty, List.append_nil] at hrest
      rw [List.flatten_cons, List.flatten_nil, List.append_nil] at hr ⊢
      rcases exists_run_of_optional hopens hinside (Pattern.isSound_of_unconstrained hfree hinside)
        hs hrest hr hstop with ⟨hnone, hvalues⟩ | ⟨own, hown, rfl, r', hr', hend, hvalues⟩
      · have hnames : Atom.vars asi.flatten =
            (inner.flatMap (Token.vars (depth + 1))).map Variable.name :=
          Pattern.vars_flatten (hinside.imp fun _ _ => Pattern.vars_of_tokenAtoms)
        rw [hvalues, hnames, List.map_map, List.map_map]
        refine List.map_congr_left fun v hv => ?_
        simp [settle, value?, lookup_of_not_mentions hnone hv]
      · rw [hvalues]
        exact ih hfree hinside hown hpos hrest hr' (hend ▸ hstop)

end Writer

/-! ### What the parameters are -/

/-- What is settled is set. -/
theorem Writer.toList_bindAll_of_settle {w : Writer} {values : List (String × Option String)}
    {vs : List Variable} (hnodup : (vs.map Variable.name).Nodup)
    (hsettle : values.map w.settle = vs.map fun v => (v.name, w.value? v.name)) :
    (Matcher.bindAll w.defaults .empty values).toList =
      vs.filterMap fun v => (w.value? v.name).map fun value => (v.name, value) := by
  have hkeys := congrArg (List.map Prod.fst) hsettle
  rw [List.map_map, List.map_map] at hkeys
  have hnames : (values.map Prod.fst).Nodup := hkeys ▸ hnodup
  have hsettled : Matcher.bound w.defaults values =
      (values.map w.settle).filterMap fun v => v.2.map fun value => (v.1, value) := by
    rw [List.filterMap_map]
    rfl
  refine (Matcher.toList_bindAll hnames fun v _ hmem => by cases hmem).trans ?_
  rw [hsettled, hsettle, List.filterMap_map]
  rfl

/-! ### The parameters that come back -/

namespace Route

variable {r : Route} {given : List (String × String)} {p : Pattern}

/-- Without a host and a query there is nothing but a path. -/
theorem eq_path_of_isComposed [Regex.Engine] {host : Option String} {path url : String}
    (h : r.IsComposed given ⟨p, none⟩ host path url)
    (hgiven : ∀ g ∈ given, ∃ v ∈ p.vars, v.name = g.1) : url = path := by
  obtain ⟨query, rfl, -, hempty⟩ := h.joins
  have hall : ∀ g ∈ given, (Patterns.mk p none).hasVariable g.1 = true := by
    intro g hg
    obtain ⟨v, hv, hname⟩ := hgiven g hg
    exact List.any_eq_true.2 ⟨v, List.mem_append_left _ hv, decide_eq_true hname⟩
  have hhost := h.writesHost
  cases hhost
  rw [hempty hall]
  simp [authority]

/-- What comes back for a variable: what is given for it, or else its default. -/
def comesBack (r : Route) (given : List (String × String)) (v : Variable) :
    Option (String × String) :=
  ((given.lookup v.name).or ((r.defaults.get? v.name).or v.default)).map fun value =>
    (v.name, value)

/-- The values that the path of a URL gives to the variables. -/
theorem exists_values?_of_isComposed [Regex.Engine] {host : Option String} {path url : String}
    {d : CompiledRoute} {limit : Nat} (h : r.IsComposed given ⟨p, none⟩ host path url)
    (hsegments : AreSegments p.tokens) (hfree : ∀ v ∈ p.vars, r.patterns.get? v.name = none)
    (hd : r.compile = .ok d) (hwithin : d.IsWithin limit) :
    ∃ values, d.values? path = some values ∧
      values.map (r.writer given ⟨p, none⟩).settle =
        p.vars.map fun v => (v.name, (r.writer given ⟨p, none⟩).value? v.name) := by
  have hfree : ∀ v ∈ p.vars,
      effectiveConstraint r.patterns pathSegment v.name v.constraint = pathSegment := by
    intro v hv
    rw [effectiveConstraint, hfree v hv, hsegments.constraint_eq v hv]
    rfl
  have hlocal : ∀ c ∈ p.constraints pathSegment r.patterns, Pattern.IsLocal c := by
    intro c hc
    obtain ⟨v, hv, rfl⟩ := List.mem_map.1 hc
    rw [hfree v hv]
    exact ⟨⟨by decide, by decide⟩, by decide⟩
  obtain ⟨patterns, hasks⟩ := exists_asks hd
  obtain rfl : Patterns.mk p none = patterns := Except.ok.inj (h.reads.symm.trans hasks.reads)
  obtain ⟨ass, hass, hflatten⟩ := Pattern.atoms_eq_ok.1 hasks.atoms
  obtain ⟨ss, hss, rfl⟩ := Writer.writePattern_eq_ok h.writesPath
  have hsound : ∀ a ∈ d.atoms, a.IsSound := hflatten ▸ Pattern.isSound_of_unconstrained hfree hass
  have hsome := isSome_values?_of_isComposed h hlocal hd hwithin
  obtain ⟨values, hvalues⟩ := Option.isSome_iff_exists.1 hsome
  refine ⟨values, hvalues, ?_⟩
  obtain ⟨n, hn, hcaptures⟩ := Option.bind_eq_some_iff.1 hvalues
  rw [Merged.captures?_standalone hsound hn, Option.map_map] at hcaptures
  obtain ⟨run, hrun, rfl⟩ := Option.map_eq_some_iff.1 hcaptures
  rw [Function.comp_apply, Merged.valuesOf_standalone hsound hrun]
  rw [hflatten] at hrun ⊢
  refine Writer.settle_valuesOfRun hsegments hfree hass hss (Nat.zero_le _) ?_
    (List.mem_of_find?_eq_some hrun) (by simpa using List.find?_some hrun)
  simp

/-! ### A sample -/

/-- A route with optional segments, one with a default. -/
def page : Route where
  path := "/{a}[/{b=1}[/{c}]]"
  methods := ["GET"]
  handler := .named "page"

def pagePattern : Pattern where
  source := "/{a}[/{b=1}[/{c}]]"
  tokens := [.text "/", .var "a" none none, .optional [.text "/",
    .var "b" none (some "1"), .optional [.text "/", .var "c" none none]]]

def pageAtoms : List Atom :=
  [.char '/', .ofVariable "a" pathSegment 0, .optional [.char '/',
    .ofVariable "b" pathSegment 0, .optional [.char '/', .ofVariable "c" pathSegment 0]]]

theorem parse_page : Pattern.parse page.path = .ok pagePattern := by
  have hlast : IsRendering [.text "/", .var "c" none none] "/{c}".toList :=
    .text "/" (.var .name (by decide) .nil)
  have htail : IsRendering [.text "/", .var "b" none (some "1"),
      .optional [.text "/", .var "c" none none]] "/{b=1}[/{c}]".toList :=
    .text "/" (.var (.defaulted "1" (.bare (by simp))) (by decide) (.optional hlast .nil))
  refine Pattern.parse_of_isRendering ⟨?_, ?_⟩
    (.text "/" (.var .name (by decide) (.optional htail .nil)))
  · exact .segment (.unconstrained (by decide) _) (.optional (by simp)
      (.segment (.unconstrained (by decide) _) (.optional (by simp)
        (.segment (.unconstrained (by decide) _) .nil) .nil)) .nil)
  · simp [PatternReader.namesOf, Token.vars]

theorem vars_pagePattern : pagePattern.vars =
    [⟨"a", 0, none, none⟩, ⟨"b", 1, none, some "1"⟩, ⟨"c", 2, none, none⟩] := by
  simp [pagePattern, Pattern.vars, Token.vars]

theorem isSegmented_page : Pattern.IsSegmented page.path.toList := by
  have hlast : Pattern.IsSegmented "/{c}".toList :=
    @Pattern.IsSegmented.var "c".toList [] rfl (by decide) .nil
  have htail : Pattern.IsSegmented "/{b=1}[/{c}]".toList :=
    @Pattern.IsSegmented.var "b=1".toList _ rfl (by decide) (.tail rfl hlast)
  exact @Pattern.IsSegmented.var "a".toList _ rfl (by decide) (.tail rfl htail)

theorem exists_compile_page : ∃ m, (Collection.alone page).compile {} = .ok m := by
  have hcheck : ∀ name, name ∈ ["a", "b", "c"] →
      Pattern.checkConstraint pagePattern.source name pathSegment = .ok 0 := by
    decide +kernel
  have hatoms : pagePattern.atoms pathSegment page.patterns = .ok pageAtoms := by
    have hslash := @Pattern.tokenAtoms_text pagePattern.source pathSegment page.patterns _ "/"
    have hvar : ∀ name default, name ∈ ["a", "b", "c"] →
        Pattern.tokenAtoms pagePattern.source pathSegment page.patterns (.var name none default) =
          .ok [.ofVariable name pathSegment 0] :=
      fun name default hname => Pattern.tokenAtoms_var.2 ⟨0, hcheck name hname, rfl⟩
    have hlast := Pattern.tokenAtoms_optional.2
      ⟨_, .cons hslash (.cons (hvar "c" none (by decide)) .nil), rfl⟩
    have htail := Pattern.tokenAtoms_optional.2
      ⟨_, .cons hslash (.cons (hvar "b" (some "1") (by decide)) (.cons hlast .nil)), rfl⟩
    exact Pattern.atoms_eq_ok.2
      ⟨_, .cons hslash (.cons (hvar "a" none (by decide)) (.cons htail .nil)), rfl⟩
  have hcompile := compile_of_atoms page pagePattern pageAtoms (by decide) (by decide) rfl
    parse_page hatoms
  refine Collection.exists_compile_alone.2 ⟨_, hcompile, fun _ => ?_, fun rule hrule => ?_⟩
  · have htext : (Merged.standalone pageAtoms).1 =
        "^(?:/([^/]+)(?:/([^/]+)(?:/([^/]+))?)?())$" := by decide +kernel
    exact Collection.exists_compile_of_any _ _ (by rw [htext]; decide +kernel)
  · cases hrule

theorem url_page : page.url [("a", "x")] = .ok "/x" := by
  have hpage : ((page.writer [("a", "x")] ⟨pagePattern, none⟩).writeVariable
      pathSegment "a" none).toOption = some "x" := by decide +kernel
  have hmentions : [.text "/", .var "b" none (some "1"), .optional [.text "/",
      .var "c" none none]].any (page.writer [("a", "x")]
        ⟨pagePattern, none⟩).mentions = false := by
    simp [Writer.mentions, Token.vars, writer]
  have hpath : (page.writer [("a", "x")] ⟨pagePattern, none⟩).writePattern
      pathSegment pagePattern = .ok "/x" := by
    have hoptional := @Writer.write_unmentioned _ _ pathSegment _ hmentions
    have hpage := toOption_eq_some.1 hpage
    generalize page.writer [("a", "x")] ⟨pagePattern, none⟩ = w at *
    simp only [Writer.writePattern, pagePattern, List.mapM_cons, List.mapM_nil,
      Writer.write_text, hoptional, bind, Except.bind, pure, Except.pure]
    rw [Writer.write, hpage]
    rfl
  have hquery : ([("a", "x")].filter fun g =>
      !(Patterns.mk pagePattern none).hasVariable g.1) = [] := by
    simp [Patterns.hasVariable, vars_pagePattern]
  refine bind_eq_ok.2 ⟨_, ofRoute_of_parse rfl parse_page, bind_eq_ok.2 ⟨"", rfl, ?_⟩⟩
  refine bind_eq_ok.2 ⟨_, hpath, ?_⟩
  rw [hquery]
  rfl

/-! ### The way back -/

/-- **The parameters come back.**  Take a route for any host that compiles alone, with a path of
segments whose variables are not constrained, and a URL for values of its variables.  A request for
that path, with a scheme and a method of the route, finds the route; and each variable in turn has
the value that is given for it first, or else the default that the route has for it, or else its
own, and is left out if it has none of these. -/
theorem params_of_url [Regex.Engine] {options : CompileOptions} {m : Matcher}
    (hm : (Collection.alone r).compile options = .ok m) (hdomain : r.domain = none)
    (hparse : Pattern.parse r.path = .ok p) (hsegments : Pattern.IsSegmented r.path.toList)
    (hfree : ∀ v ∈ p.vars, r.patterns.get? v.name = none)
    (hgiven : ∀ g ∈ given, ∃ v ∈ p.vars, v.name = g.1) {url : String}
    (hurl : r.url given = .ok url) {c : Context} (hpath : c.path = url)
    (hscheme : r.Admits c.scheme) (hmethod : c.method ∈ r.methods) :
    ∃ params, m.lookup c = .ok (.found ⟨0, params⟩) ∧
      params.toList = p.vars.filterMap (r.comesBack given) := by
  obtain ⟨patterns, host, path, hcomposed⟩ := exists_isComposed hurl
  obtain rfl : Patterns.mk p none = patterns :=
    Except.ok.inj ((ofRoute_of_parse hdomain hparse).symm.trans hcomposed.reads)
  obtain rfl := eq_path_of_isComposed hcomposed hgiven
  have hsegments := Pattern.areSegments_of_parse hparse hsegments
  have hnodup := Pattern.nodup_names_of_parse hparse
  have hwhole : ∀ q, Pattern.parse r.path = .ok q →
      ∀ c ∈ q.constraints pathSegment r.patterns, Pattern.IsWhole c := by
    intro q hq c hc
    obtain rfl := Except.ok.inj (hparse.symm.trans hq)
    obtain ⟨v, hv, rfl⟩ := List.mem_map.1 hc
    rw [effectiveConstraint, hfree v hv, hsegments.constraint_eq v hv]
    exact ⟨by decide, by decide⟩
  obtain ⟨d, hd, hwithin, hlookup⟩ := Collection.lookup_alone hm hwhole
  obtain ⟨values, hvalues, hsettle⟩ :=
    exists_values?_of_isComposed hcomposed hsegments hfree hd hwithin
  obtain ⟨patterns, hasks⟩ := exists_asks hd
  obtain rfl : Patterns.mk p none = patterns :=
    Except.ok.inj (hcomposed.reads.symm.trans hasks.reads)
  have hhost := hasks.rule
  generalize hrule : d.requirements.host = rule at hhost
  cases hhost
  refine ⟨d.params c, hlookup c ⟨⟨?_, ?_, ?_⟩, ?_⟩, ?_⟩
  · rw [hpath, hvalues]
    rfl
  · intro rule hsome
    rw [hrule] at hsome
    cases hsome
  · rw [hasks.schemes]
    exact hscheme
  · rw [hasks.methods, Matcher.serves, List.contains_iff_mem.2 hmethod, Bool.true_or]
  · have hdefaults : d.requirements.defaults = (r.writer given ⟨p, none⟩).defaults := hasks.defaults
    rw [CompiledRoute.params, hrule, hpath, hvalues, hdefaults]
    refine (Writer.toList_bindAll_of_settle hnodup hsettle).trans ?_
    refine List.filterMap_congr fun v hv => ?_
    have hdefault : (r.writer given ⟨p, none⟩).defaults.get? v.name =
        (r.defaults.get? v.name).or v.default := Patterns.get?_defaults hnodup hv r.defaults
    rw [comesBack, Writer.value?, hdefault]
    rfl

/-- The last variable has neither a value nor a default, and the one before it has a default. -/
theorem params_of_page : ∃ m params, (Collection.alone page).compile {} = .ok m ∧
    page.url [("a", "x")] = .ok "/x" ∧
      m.lookup (.of "GET" "/x") = .ok (.found ⟨0, params⟩) ∧
        params.toList = [("a", "x"), ("b", "1")] := by
  obtain ⟨m, hm⟩ := exists_compile_page
  obtain ⟨params, hfound, hparams⟩ := params_of_url (c := .of "GET" "/x") hm rfl
    parse_page isSegmented_page (fun v _ => rfl)
    (by simp [vars_pagePattern]) url_page rfl (.inl rfl) (by decide +kernel)
  refine ⟨m, params, hm, url_page, hfound, ?_⟩
  rw [hparams, vars_pagePattern]
  decide

/-- A route for one scheme only. -/
def securePage : Route where
  path := "/x"
  methods := ["GET"]
  handler := .named "h"
  schemes := ["https"]

def securePageData : Matcher.Data where
  staticPaths := Dict.empty.insert "/x" [0]
  chunks := []
  leaves := []
  routes := [⟨["GET"], ["https"], none, .empty⟩]
  sizeLimit := Regex.defaultSizeLimit

theorem compile_securePage :
    (Collection.alone securePage).compile {} = Matcher.ofData securePageData := by
  have hroute : securePage.compile = .ok ⟨some "/x", [.char '/', .char 'x'], "/x", [],
      ⟨["GET"], ["https"], none, .empty⟩⟩ :=
    compile_of_literal securePage (by decide) rfl rfl rfl rfl
  have hdata : Collection.matcherData {} [⟨some "/x", [.char '/', .char 'x'], "/x", [],
      ⟨["GET"], ["https"], none, .empty⟩⟩] = .ok securePageData :=
    Collection.matcherData_of_literal {} (by simp)
  exact Collection.compile_alone_eq_ofData hroute hdata

/-- **A path has no scheme in it**: a route without a host that is bound to a scheme is not found by
its URL under another one. -/
theorem not_found_of_securePage : ∃ m, (Collection.alone securePage).compile {} = .ok m ∧
    securePage.domain = none ∧ Pattern.IsSegmented securePage.path.toList ∧
      securePage.url [] = .ok "/x" ∧ m.lookup (.of "GET" "/x") = .ok .notFound := by
  have hrun : ((Matcher.ofData securePageData).toOption.bind fun m =>
      (m.lookup (.of "GET" "/x")).toOption) = some .notFound := by decide +kernel
  obtain ⟨m, hm, hrun⟩ := Option.bind_eq_some_iff.1 hrun
  have hparse : Pattern.parse securePage.path = .ok ⟨"/x", [.text "/x"]⟩ := by rfl
  have hurl : securePage.url [] = .ok "/x" := by
    refine bind_eq_ok.2 ⟨_, ofRoute_of_parse rfl hparse, bind_eq_ok.2 ⟨"", rfl, ?_⟩⟩
    refine bind_eq_ok.2 ⟨"/x", ?_, rfl⟩
    simp only [Writer.writePattern, List.mapM_cons, List.mapM_nil, Writer.write_text, bind,
      Except.bind, pure, Except.pure]
    rfl
  exact ⟨m, compile_securePage.trans (toOption_eq_some.1 hm), rfl,
    @Pattern.IsSegmented.text ['x'] [] (by simp) .nil, hurl, toOption_eq_some.1 hrun⟩

end Route

end Signpost
