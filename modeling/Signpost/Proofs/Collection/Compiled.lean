import Signpost.Proofs.Collection.Halving
import Signpost.Proofs.Merge.Literal
import Signpost.Regex.Estimate

/-!
# Collections — what a matcher is made of

A collection that can be compiled has compiled each route by itself, and its leaves come in runs
that are merged into one expression each (`Collection.IsMadeOf`).

* `Route.isCompiledTo_of_compile`: what a compiled route has of its route.
* `Collection.exists_runs_of_steps`: the chunks are runs of the leaves, whatever the limit is.
* `Collection.isMadeOf_of_compile`: what a compiled collection is made of.
-/

namespace Signpost

open Matcher (Leaf Chunk)

/-- Lists that agree as far as two functions tell. -/
theorem forall₂_of_map_eq {α β γ : Type} {f : α → γ} {g : β → γ} {l : List α} {bs : List β}
    (h : l.map f = bs.map g) : List.Forall₂ (fun a b => f a = g b) l bs := by
  have hmap : List.Forall₂ Eq (l.map f) (bs.map g) := by
    rw [h]
    exact List.forall₂_refl _
  exact List.forall₂_map_right_iff.1 (List.forall₂_map_left_iff.1 hmap)

theorem exists_getElem?_of_forall₂ {α β : Type} {R : α → β → Prop} {l : List α} {bs : List β}
    (h : List.Forall₂ R l bs) {i : Nat} {b : β} (hb : bs[i]? = some b) :
    ∃ a, l[i]? = some a ∧ R a b := by
  obtain ⟨hlt, rfl⟩ := List.getElem?_eq_some_iff.1 hb
  have hlt' : i < l.length := h.length_eq ▸ hlt
  exact ⟨l[i], List.getElem?_eq_getElem hlt', h.get hlt' hlt⟩

namespace Merged

theorem length_layouts (strategy : Strategy) (fs : List (List Atom)) :
    (ofFragments strategy fs).layouts.length = fs.length := by
  have hlength := congrArg List.length (map_fragment_places strategy fs)
  rw [List.length_map, List.length_zipIdx] at hlength
  rw [layouts_eq, List.length_map, hlength]

end Merged

/-- What a compiled route has of a route, whose path is read as a pattern. -/
structure Route.IsCompiledTo [Regex.Engine] (r : Route) (p : Pattern)
    (compiled : CompiledRoute) : Prop where
  parse      : Pattern.parse r.path = .ok p
  atoms      : p.atoms pathSegment r.patterns = .ok compiled.atoms
  literal    : compiled.staticPath? = p.staticText?
  expression : compiled.expression = String.ofList (Atom.expression compiled.atoms)
  vars       : compiled.vars = Atom.vars compiled.atoms
  methods    : compiled.requirements.methods = r.methods
  nonempty   : r.methods ≠ []
  /-- There is a rule for the host if there is a host, be it empty. -/
  host       : compiled.requirements.host.isSome = r.domain.isSome

/-- What a route that is compiled has, and asks of a request. -/
structure Route.Asks [Regex.Engine] (r : Route) (patterns : Patterns) (d : CompiledRoute) : Prop
    extends r.IsCompiledTo patterns.path d where
  reads    : Patterns.ofRoute r = .ok patterns
  slash    : r.path.toList.head? = some '/'
  schemes  : d.requirements.schemes = r.schemes
  defaults : d.requirements.defaults = patterns.defaults r.defaults
  rule     : Option.Rel (fun p rule => ∃ as, p.atoms hostSegment r.patterns = .ok as ∧
    rule = hostRule as) patterns.host d.requirements.host

theorem Route.exists_asks [Regex.Engine] {r : Route} {d : CompiledRoute} (h : r.compile = .ok d) :
    ∃ patterns, r.Asks patterns d := by
  by_cases hmethods : r.methods = []
  · rw [compile_noMethods hmethods] at h
    cases h
  · have hempty : ¬ r.methods.isEmpty = true := fun hnil => hmethods (List.isEmpty_iff.1 hnil)
    simp only [compile, if_neg hempty] at h
    split at h
    case isTrue => cases h
    case isFalse hslash =>
      have hslash : r.path.toList.head? = some '/' := by simpa using hslash
      obtain ⟨p, hp, h⟩ := bind_eq_ok.1 h
      obtain ⟨as, has, h⟩ := bind_eq_ok.1 h
      split at h
      case h_1 domain hdomain =>
        obtain ⟨host, hhost, h⟩ := bind_eq_ok.1 h
        obtain ⟨bs, hbs, h⟩ := bind_eq_ok.1 h
        obtain rfl := Except.ok.inj h
        refine ⟨⟨p, some host⟩, ⟨hp, has, rfl, rfl, rfl, rfl, hmethods, by rw [hdomain]; rfl⟩,
          ?_, hslash, rfl, rfl, .some ⟨bs, hbs, rfl⟩⟩
        simp only [Patterns.ofRoute, hp, hdomain, hhost, bind, Except.bind]
        rfl
      case h_2 hdomain =>
        obtain rfl := Except.ok.inj h
        refine ⟨⟨p, none⟩, ⟨hp, has, rfl, rfl, rfl, rfl, hmethods, by rw [hdomain]; rfl⟩,
          ?_, hslash, rfl, rfl, .none⟩
        simp only [Patterns.ofRoute, hp, hdomain, bind, Except.bind]
        rfl

theorem Route.isCompiledTo_of_compile [Regex.Engine] {r : Route} {compiled : CompiledRoute}
    (h : r.compile = .ok compiled) : ∃ p, r.IsCompiledTo p compiled := by
  obtain ⟨patterns, hasks⟩ := exists_asks h
  exact ⟨patterns.path, hasks.toIsCompiledTo⟩

/-- A route for any host, when its path can be compiled. -/
theorem Route.compile_of_atoms [Regex.Engine] (r : Route) (p : Pattern) (as : List Atom)
    (hmethods : r.methods ≠ []) (hslash : r.path.toList.head? = some '/') (hhost : r.domain = none)
    (hp : Pattern.parse r.path = .ok p) (has : p.atoms pathSegment r.patterns = .ok as) :
    r.compile = .ok {
      staticPath? := p.staticText?
      atoms := as
      expression := String.ofList (Atom.expression as)
      vars := Atom.vars as
      requirements := ⟨r.methods, r.schemes, none, (Patterns.mk p none).defaults r.defaults⟩ } := by
  have hempty : ¬ r.methods.isEmpty = true := fun hnil => hmethods (List.isEmpty_iff.1 hnil)
  simp only [compile, if_neg hempty, hslash, hp, has, hhost, bind, Except.bind]
  rfl

/-- A route for any host whose path is one text. -/
theorem Route.compile_of_literal [Regex.Engine] (r : Route) (hmethods : r.methods ≠ [])
    (hslash : r.path.toList.head? = some '/') (hhost : r.domain = none)
    (hdefaults : r.defaults = .empty)
    (hp : Pattern.parse r.path = .ok ⟨r.path, [.text r.path]⟩) :
    r.compile = .ok {
      staticPath? := some r.path
      atoms := r.path.toList.map .char
      expression := String.ofList (Atom.expression (r.path.toList.map .char))
      vars := []
      requirements := ⟨r.methods, r.schemes, none, .empty⟩ } := by
  have hatoms : (Pattern.mk r.path [.text r.path]).atoms pathSegment r.patterns =
      .ok (r.path.toList.map .char) := by
    exact Pattern.atoms_eq_ok.2 ⟨_, .cons (Pattern.tokenAtoms_text _) .nil, by simp⟩
  have hvars : Atom.vars (r.path.toList.map .char) = [] := by
    rw [Atom.vars, Atom.captures_chars]
    rfl
  have hnone : (Patterns.mk ⟨r.path, [.text r.path]⟩ none).defaults .empty = .empty := by
    simp [Patterns.defaults, Pattern.defaults, Pattern.vars, Token.vars]
    rfl
  have hliteral : (Pattern.mk r.path [.text r.path]).staticText? = some r.path := by
    simp [Pattern.staticText?, Token.text?]
  rw [compile_of_atoms r _ _ hmethods hslash hhost hp hatoms, hvars, hdefaults, hnone, hliteral]

namespace Matcher

variable {d : Data} {m : Matcher} {expression : String} {r : Regex}

theorem compile_eq_ok [Regex.Engine] (h : d.compile expression = .ok r) :
    Regex.compile expression d.sizeLimit = .ok r := by
  unfold Data.compile at h
  cases hr : Regex.compile expression d.sizeLimit with
  | error fault =>
      rw [hr] at h
      cases h
  | ok r' =>
      rw [hr] at h
      exact congrArg Except.ok (Except.ok.inj h)

/-- What a host rule is compiled to. -/
def IsHost [Regex.Engine] (limit : Nat) (rule : Requirements) (host : Option Regex) : Prop :=
  match rule.host with
  | some h => ∃ r, Regex.compile h.expression limit = .ok r ∧ host = some r
  | none   => host = none

/-- Whether a matcher runs the expressions in its data, which has no fault. -/
structure IsReady [Regex.Engine] (m : Matcher) : Prop where
  noFault : m.data.fault? = none
  chunks  : List.Forall₂ (fun (c : Chunk) r => Regex.compile c.expression m.data.sizeLimit = .ok r)
    m.data.chunks m.chunks
  leaves  : List.Forall₂ (fun (l : Leaf) r => Regex.compile l.expression m.data.sizeLimit = .ok r)
    m.data.leaves m.leaves
  hosts   : List.Forall₂ (IsHost m.data.sizeLimit) m.data.routes m.hosts

/-- Data have no fault when they have all routes that they refer to, leaves have routes, and the
chunks claim the leaves. -/
theorem fault?_eq_none_iff : d.fault? = none ↔ (∀ id ∈ d.routeIds, id < d.routes.length) ∧
    (∀ l ∈ d.leaves, l.routes ≠ []) ∧ d.covered = d.leaves.length := by
  have hknown : d.routeIds.find? (fun id => d.routes.length ≤ id) = none ↔
      ∀ id ∈ d.routeIds, id < d.routes.length := by
    simp only [List.find?_eq_none, decide_eq_true_eq, Nat.not_le]
  have hempty : ¬ (d.leaves.any fun l => l.routes.isEmpty) = true ↔
      ∀ l ∈ d.leaves, l.routes ≠ [] := by
    simp only [List.any_eq_true, List.isEmpty_iff, not_exists, not_and, ne_eq]
  rw [← hknown, ← hempty]
  unfold Data.fault?
  cases d.routeIds.find? fun id => d.routes.length ≤ id with
  | some id => simp
  | none =>
      by_cases hany : (d.leaves.any fun l => l.routes.isEmpty) = true
      · simp [hany]
      · by_cases hcovered : d.covered = d.leaves.length
        · simp [hany, hcovered]
        · simp [hany, hcovered]

/-- The chunks of data without a fault claim its leaves. -/
theorem covered_of_fault? (h : d.fault? = none) : d.covered = d.leaves.length :=
  (fault?_eq_none_iff.1 h).2.2

theorem isReady_of_ofData [Regex.Engine] (h : ofData d = .ok m) : m.data = d ∧ m.IsReady := by
  unfold ofData at h
  split at h
  case h_1 => cases h
  case h_2 hfault =>
    obtain ⟨chunks, hchunks, h⟩ := bind_eq_ok.1 h
    obtain ⟨leaves, hleaves, h⟩ := bind_eq_ok.1 h
    obtain ⟨hosts, hhosts, h⟩ := bind_eq_ok.1 h
    obtain rfl := Except.ok.inj h
    refine ⟨rfl, hfault, ?_, ?_, ?_⟩
    · exact (mapM_eq_ok.1 hchunks).imp fun _ _ => compile_eq_ok
    · exact (mapM_eq_ok.1 hleaves).imp fun _ _ => compile_eq_ok
    · refine (mapM_eq_ok.1 hhosts).imp fun rule host hhost => ?_
      unfold IsHost
      cases hrule : rule.host with
      | none =>
          rw [hrule] at hhost
          exact (Except.ok.inj hhost).symm
      | some h =>
          simp only [hrule] at hhost
          obtain ⟨r, hr, hsome⟩ := bind_eq_ok.1 hhost
          exact ⟨r, compile_eq_ok hr, (Except.ok.inj hsome).symm⟩

end Matcher

namespace Collection

variable {options : CompileOptions} {c : Collection} {m : Matcher}

/-- Every route is compiled by itself. -/
theorem compileRoutes_eq_ok [Regex.Engine] {before all : List (Route × CompiledRoute)}
    {rs : List Route} (h : compileRoutes before rs = .ok all) :
    ∃ compiled, List.Forall₂ (fun r c => r.compile = .ok c) rs compiled ∧
      all.map Prod.snd = before.map Prod.snd ++ compiled := by
  induction rs generalizing before with
  | nil =>
      obtain rfl : before = all := Except.ok.inj h
      exact ⟨[], .nil, (List.append_nil _).symm⟩
  | cons r rs ih =>
      obtain ⟨first, hfirst, hrest⟩ := bind_eq_ok.1 h
      split at hrest
      case h_1 => cases hrest
      case h_2 =>
        obtain ⟨compiled, hcompiled, hall⟩ := ih hrest
        refine ⟨first :: compiled, .cons hfirst hcompiled, ?_⟩
        rw [hall, List.map_append, List.append_assoc]
        rfl

/-! ### The whole -/

/-- A leaf with its place in a merged expression. -/
def SharedLeaf.leaf (s : SharedLeaf) (layout : Layout) : Leaf :=
  ⟨layout.marker, layout.bindings, (Merged.standalone s.atoms).1, (Merged.standalone s.atoms).2,
    s.routes⟩

/-- The expression that merges a run of leaves. -/
def mergedRun (strategy : Strategy) (run : List SharedLeaf) : Merged :=
  Merged.ofFragments strategy (run.map SharedLeaf.atoms)

/-- A run of leaves, with their places in its merged expression. -/
def leavesOfRun (strategy : Strategy) (run : List SharedLeaf) : List Leaf :=
  List.zipWith (fun layout s => SharedLeaf.leaf s layout) (mergedRun strategy run).layouts run

section runs

variable (strategy : Strategy) (run : List SharedLeaf)

theorem length_layouts_mergedRun : (mergedRun strategy run).layouts.length = run.length := by
  rw [mergedRun, Merged.length_layouts, List.length_map]

theorem length_leavesOfRun : (leavesOfRun strategy run).length = run.length := by
  rw [leavesOfRun, List.length_zipWith, length_layouts_mergedRun, Nat.min_self]

theorem leavesOfRun_eq_map : leavesOfRun strategy run =
    ((mergedRun strategy run).layouts.zip run).map fun p => p.2.leaf p.1 := by
  rw [List.map_zip_eq_zipWith]
  rfl

theorem map_routes_leavesOfRun :
    (leavesOfRun strategy run).map Leaf.routes = run.map SharedLeaf.routes := by
  have hlength := length_layouts_mergedRun strategy run
  have hroutes : Leaf.routes ∘ (fun p : Layout × SharedLeaf => p.2.leaf p.1) =
      SharedLeaf.routes ∘ Prod.snd := rfl
  rw [leavesOfRun_eq_map, List.map_map, hroutes, ← List.map_map,
    List.map_snd_zip (Nat.le_of_eq hlength.symm)]

theorem map_layout_leavesOfRun :
    (leavesOfRun strategy run).map (fun l => Layout.mk l.marker l.bindings) =
      (mergedRun strategy run).layouts := by
  have hlength := length_layouts_mergedRun strategy run
  have hlayout : (fun l : Leaf => Layout.mk l.marker l.bindings) ∘
      (fun p : Layout × SharedLeaf => p.2.leaf p.1) = Prod.fst := rfl
  rw [leavesOfRun_eq_map, List.map_map, hlayout, List.map_fst_zip (Nat.le_of_eq hlength)]

end runs

/-- What a matcher of a collection is made of: the compiled routes, and runs of their leaves, one
for each chunk. -/
structure IsMadeOf [Regex.Engine] (c : Collection) (options : CompileOptions) (m : Matcher)
    (compiled : List CompiledRoute) (runs : List (List SharedLeaf)) : Prop where
  routes   : List.Forall₂ (fun r c => r.compile = .ok c) c.routes compiled
  shared   : runs.flatten = sharedLeaves 0 compiled []
  nonempty : ∀ run ∈ runs, run ≠ []
  data     : m.data = {
    staticPaths := staticPaths 0 compiled .empty
    chunks := runs.map fun run => ⟨(mergedRun options.strategy run).expression, run.length⟩
    leaves := runs.flatMap (leavesOfRun options.strategy)
    routes := compiled.map CompiledRoute.requirements
    sizeLimit := options.sizeLimit }
  ready    : m.IsReady

theorem IsMadeOf.exists_isCompiledTo [Regex.Engine] {compiled : List CompiledRoute}
    {runs : List (List SharedLeaf)} (h : IsMadeOf c options m compiled runs) {d : CompiledRoute}
    (hd : d ∈ compiled) : ∃ r ∈ c.routes, ∃ p, r.IsCompiledTo p d := by
  obtain ⟨r, hr, hcompile⟩ := exists_of_mem_right h.routes hd
  exact ⟨r, hr, Route.isCompiledTo_of_compile hcompile⟩

/-- Runs of leaves for runs of their atoms. -/
theorem exists_runs {shared : List SharedLeaf} {atoms : List (List (List Atom))}
    (h : atoms.flatten = shared.map SharedLeaf.atoms) :
    ∃ runs : List (List SharedLeaf), runs.flatten = shared ∧
      runs.map (List.map SharedLeaf.atoms) = atoms := by
  induction atoms generalizing shared with
  | nil => exact ⟨[], (List.map_eq_nil_iff.1 h.symm).symm, rfl⟩
  | cons fs atoms ih =>
      obtain ⟨run, rest, rfl, rfl, hrest⟩ := List.map_eq_append_iff.1 h.symm
      obtain ⟨runs, rfl, rfl⟩ := ih hrest.symm
      exact ⟨run :: runs, rfl, rfl⟩

/-- **The chunks are runs of the leaves**: whatever the engine has answered, each merged expression
is that of some leaves in a row, and together they have all of them. -/
theorem exists_runs_of_steps {engine : Engine} {strategy : Strategy} {n : Nat}
    {shared : List SharedLeaf} {merged : List Merged}
    (h : Merging.Steps engine strategy n (Merging.start (shared.map SharedLeaf.atoms))
      ⟨[], merged⟩) :
    ∃ runs : List (List SharedLeaf), runs.flatten = shared ∧ (∀ run ∈ runs, run ≠ []) ∧
      merged = runs.map (mergedRun strategy) := by
  obtain ⟨-, atoms, hne, hdone, hflatten⟩ := h.isMergingOf (Merging.isMergingOf_start _ _)
  obtain rfl : merged = atoms.map (Merged.ofFragments strategy) := hdone
  rw [List.flatten_nil, List.append_nil] at hflatten
  obtain ⟨runs, hruns, rfl⟩ := exists_runs hflatten
  refine ⟨runs, hruns, fun run hrun hnil => ?_, List.map_map⟩
  exact hne (run.map SharedLeaf.atoms) (List.mem_map_of_mem hrun) (by rw [hnil]; rfl)

/-- The leaves of all runs, by the layouts of all merged expressions. -/
theorem zipWith_flatten (strategy : Strategy) (runs : List (List SharedLeaf)) :
    List.zipWith (fun layout s => SharedLeaf.leaf s layout)
        ((runs.map (mergedRun strategy)).flatMap Merged.layouts) runs.flatten =
      runs.flatMap (leavesOfRun strategy) := by
  induction runs with
  | nil => rfl
  | cons run runs ih =>
      rw [List.map_cons, List.flatMap_cons, List.flatten_cons,
        List.zipWith_append (length_layouts_mergedRun strategy run), ih, List.flatMap_cons]
      rfl

/-- The data of a matcher, for any expressions that the leaves have been merged into. -/
def dataOf (options : CompileOptions) (compiled : List CompiledRoute) (chunks : List Merged) :
    Matcher.Data where
  staticPaths := staticPaths 0 compiled .empty
  chunks := chunks.map fun c => ⟨c.expression, c.layouts.length⟩
  leaves := (chunks.flatMap Merged.layouts).zipWith (fun layout s => SharedLeaf.leaf s layout)
    (sharedLeaves 0 compiled [])
  routes := compiled.map CompiledRoute.requirements
  sizeLimit := options.sizeLimit

theorem matcherData_eq [Regex.Engine] (options : CompileOptions) (compiled : List CompiledRoute) :
    matcherData options compiled =
      (mergeChunks options ((sharedLeaves 0 compiled []).map SharedLeaf.atoms)).map
        (dataOf options compiled) := by
  simp only [matcherData]
  cases mergeChunks options ((sharedLeaves 0 compiled []).map SharedLeaf.atoms) with
  | error e => rfl
  | ok chunks => rfl

/-- A route that competes with none of those before it is compiled behind them. -/
theorem compileRoutes_cons [Regex.Engine] {before : List (Route × CompiledRoute)} {r : Route}
    {d : CompiledRoute} {rs : List Route} (hd : r.compile = .ok d)
    (hnone : (before.find? fun b => samePlace b.2 d && overlaps b.1 r) = none) :
    compileRoutes before (r :: rs) = compileRoutes (before ++ [(r, d)]) rs := by
  simp only [compileRoutes, hd, bind, Except.bind, hnone]

/-- A collection is compiled to the matcher of its data. -/
theorem compile_eq_ofData [Regex.Engine] {c : Collection} {options : CompileOptions}
    {all : List (Route × CompiledRoute)} {d : Matcher.Data}
    (hnames : repeatedName? [] c.routes = none) (hall : compileRoutes [] c.routes = .ok all)
    (hdata : matcherData options (all.map Prod.snd) = .ok d) :
    c.compile options = Matcher.ofData d := by
  simp only [compile, hnames, hall, hdata, bind, Except.bind]

theorem sharedLeaves_of_literal {compiled : List CompiledRoute}
    (h : ∀ d ∈ compiled, d.staticPath?.isSome) (id : Nat) (ls : List SharedLeaf) :
    sharedLeaves id compiled ls = ls := by
  induction compiled generalizing id with
  | nil => rfl
  | cons d ds ih =>
      obtain ⟨hd, hds⟩ := List.forall_mem_cons.1 h
      rw [sharedLeaves, if_pos hd, ih hds]

/-- The data of literal routes have an index only. -/
theorem matcherData_of_literal [Regex.Engine] (options : CompileOptions)
    {compiled : List CompiledRoute} (h : ∀ d ∈ compiled, d.staticPath?.isSome) :
    matcherData options compiled = .ok {
      staticPaths := staticPaths 0 compiled .empty
      chunks := []
      leaves := []
      routes := compiled.map CompiledRoute.requirements
      sizeLimit := options.sizeLimit } := by
  rw [matcherData_eq, sharedLeaves_of_literal h, List.map_nil, mergeChunks_nil]
  rfl

/-- The data of runs of leaves. -/
theorem dataOf_runs {compiled : List CompiledRoute} {runs : List (List SharedLeaf)}
    (h : runs.flatten = sharedLeaves 0 compiled []) :
    dataOf options compiled (runs.map (mergedRun options.strategy)) =
      { staticPaths := staticPaths 0 compiled .empty
        chunks := runs.map fun run => ⟨(mergedRun options.strategy run).expression, run.length⟩
        leaves := runs.flatMap (leavesOfRun options.strategy)
        routes := compiled.map CompiledRoute.requirements
        sizeLimit := options.sizeLimit } := by
  rw [dataOf, ← h, zipWith_flatten, List.map_map]
  congr 1
  refine List.map_congr_left fun run _ => ?_
  rw [Function.comp_apply, length_layouts_mergedRun]

/-- The data of compiled routes are those of a run of the machine. -/
theorem exists_steps_of_matcherData [Regex.Engine] {compiled : List CompiledRoute}
    {d : Matcher.Data} (h : matcherData options compiled = .ok d) :
    ∃ n merged, d = dataOf options compiled merged ∧
      Merging.Steps (engineOf options) options.strategy n
        (Merging.start ((sharedLeaves 0 compiled []).map SharedLeaf.atoms)) ⟨[], merged⟩ := by
  rw [matcherData_eq] at h
  rcases mergeChunks_start options
      ((sharedLeaves 0 compiled []).map SharedLeaf.atoms) with
    ⟨merged, n, hok, hsteps⟩ | ⟨fault, s, n, herror, -, -⟩
  · rw [hok] at h
    exact ⟨n, merged, (Except.ok.inj h).symm, hsteps⟩
  · rw [herror] at h
    cases h

/-- A collection is compiled route by route, and its matcher is built from the data of them all. -/
theorem exists_matcherData_of_compile [Regex.Engine] (h : c.compile options = .ok m) :
    ∃ compiled d, List.Forall₂ (fun r c => r.compile = .ok c) c.routes compiled ∧
      matcherData options compiled = .ok d ∧ Matcher.ofData d = .ok m := by
  unfold compile at h
  split at h
  case h_1 => cases h
  case h_2 =>
    obtain ⟨all, hall, h⟩ := bind_eq_ok.1 h
    obtain ⟨d, hd, h⟩ := bind_eq_ok.1 h
    obtain ⟨compiled, hcompiled, heq⟩ := compileRoutes_eq_ok hall
    rw [heq, List.map_nil, List.nil_append] at hd
    exact ⟨compiled, d, hcompiled, hd, h⟩

/-- **What a compiled collection is made of.** -/
theorem isMadeOf_of_compile [Regex.Engine] (h : c.compile options = .ok m) :
    ∃ compiled runs, IsMadeOf c options m compiled runs := by
  obtain ⟨compiled, d, hcompiled, hd, h⟩ := exists_matcherData_of_compile h
  obtain ⟨n, merged, rfl, hsteps⟩ := exists_steps_of_matcherData hd
  obtain ⟨runs, hruns, hne, rfl⟩ := exists_runs_of_steps hsteps
  obtain ⟨hdata, hready⟩ := Matcher.isReady_of_ofData h
  exact ⟨compiled, runs, hcompiled, hruns, hne, hdata.trans (dataOf_runs hruns), hready⟩

/-! ### A collection with a literal path and a variable -/

def sample : Collection := { routes := [
  { path := "/a", methods := ["POST"], handler := .named "literal" },
  { path := "/{y}", methods := ["GET"], handler := .named "variable" }] }

def compiledSample : List CompiledRoute := [
  ⟨some "/a", [.char '/', .char 'a'], "/a", [], ⟨["POST"], [], none, .empty⟩⟩,
  ⟨none, [.char '/', .group "([^/]+)" [some "y"] true], "/([^/]+)", ["y"],
    ⟨["GET"], [], none, .empty⟩⟩]

def sampleData : Matcher.Data where
  staticPaths := Dict.empty.insert "/a" [0]
  chunks := [⟨"^(?:/([^/]+)())$", 1⟩]
  leaves := [⟨2, [⟨"y", 1⟩], "^(?:/([^/]+)())$", [⟨"y", 1⟩], [1]⟩]
  routes := [⟨["POST"], [], none, .empty⟩, ⟨["GET"], [], none, .empty⟩]
  sizeLimit := Regex.defaultSizeLimit

theorem compile_sampleLiteral : Route.compile
    { path := "/a", methods := ["POST"], handler := .named "literal" } =
      .ok ⟨some "/a", [.char '/', .char 'a'], "/a", [], ⟨["POST"], [], none, .empty⟩⟩ :=
  Route.compile_of_literal _ (by decide) rfl rfl rfl rfl

theorem compile_sampleVariable : Route.compile
    { path := "/{y}", methods := ["GET"], handler := .named "variable" } =
      .ok ⟨none, [.char '/', .group "([^/]+)" [some "y"] true], "/([^/]+)", ["y"],
        ⟨["GET"], [], none, .empty⟩⟩ := by
  have hcheck : Pattern.checkConstraint "/{y}" "y" pathSegment = .ok 0 := by rfl
  have hatoms : (Pattern.mk "/{y}" [.text "/", .var "y" none none]).atoms pathSegment .empty =
      .ok [.char '/', .group "([^/]+)" [some "y"] true] :=
    Pattern.atoms_eq_ok.2 ⟨_, .cons (Pattern.tokenAtoms_text _)
      (.cons (Pattern.tokenAtoms_var.2 ⟨0, hcheck, rfl⟩) .nil), rfl⟩
  rw [Route.compile_of_atoms
    { path := "/{y}", methods := ["GET"], handler := .named "variable" }
    ⟨"/{y}", [.text "/", .var "y" none none]⟩
    [.char '/', .group "([^/]+)" [some "y"] true] (by decide) rfl rfl rfl hatoms]
  simp [Route.Patterns.defaults, Pattern.defaults, Pattern.vars, Token.vars]
  decide

theorem compileRoutes_sample :
    ∃ all, compileRoutes [] sample.routes = .ok all ∧ all.map Prod.snd = compiledSample := by
  rw [sample, compileRoutes_cons compile_sampleLiteral rfl,
    compileRoutes_cons compile_sampleVariable rfl]
  exact ⟨_, rfl, rfl⟩

theorem matcherData_sample : matcherData {} compiledSample = .ok sampleData := by
  obtain ⟨r, hfits⟩ : ∃ r, Regex.compile (Merged.ofFragments .segments
      [[.char '/', .group "([^/]+)" [some "y"] true]]).expression Regex.defaultSizeLimit =
        .ok r := ⟨_, rfl⟩
  have hchunks := @mergeChunks_of_fits _ {} _ r (by simp) hfits
  have hshared : sharedLeaves 0 compiledSample [] =
      [⟨"/([^/]+)", ["y"], [.char '/', .group "([^/]+)" [some "y"] true], [1]⟩] := by rfl
  rw [matcherData_eq, hshared, List.map_singleton, hchunks]
  rfl

theorem compile_sample : sample.compile {} = Matcher.ofData sampleData := by
  obtain ⟨all, hall, hcompiled⟩ := compileRoutes_sample
  exact compile_eq_ofData rfl hall (hcompiled ▸ matcherData_sample)

theorem constraints_sample : ∀ r ∈ sample.routes, ∀ p, Pattern.parse r.path = .ok p →
    ∀ constraint ∈ p.constraints pathSegment r.patterns, constraint = pathSegment := by
  have hliteral : Pattern.parse "/a" = .ok ⟨"/a", [.text "/a"]⟩ := by rfl
  have hvariable : Pattern.parse "/{y}" = .ok ⟨"/{y}", [.text "/", .var "y" none none]⟩ := by rfl
  intro r hr p hp constraint hconstraint
  simp only [sample, List.mem_cons, List.not_mem_nil, or_false] at hr
  rcases hr with rfl | rfl
  · obtain rfl := Except.ok.inj (hliteral.symm.trans hp)
    simp [Pattern.constraints, Pattern.vars, Token.vars] at hconstraint
  · obtain rfl := Except.ok.inj (hvariable.symm.trans hp)
    simpa [Pattern.constraints, Pattern.vars, Token.vars, effectiveConstraint] using hconstraint

theorem isWhole_sample : ∀ r ∈ sample.routes, ∀ p, Pattern.parse r.path = .ok p →
    ∀ constraint ∈ p.constraints pathSegment r.patterns, Pattern.IsWhole constraint := by
  intro r hr p hp constraint hconstraint
  rw [constraints_sample r hr p hp constraint hconstraint]
  exact ⟨by decide, by decide⟩

end Collection

end Signpost
