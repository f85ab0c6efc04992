import Signpost.Proofs.Matcher.Binding
import Signpost.Proofs.Matcher.Scan
import Signpost.Proofs.Merge.Names

/-!
# Matching — where parameters come from

What a search finds comes with values for the variables in the path, which it has read in one of
three ways (`Matcher.Reads`).  The names are those of the route, in its order, whatever the
constraints are; the host adds values of its own, and both become parameters.

* `Matcher.exists_reads_of_lookup`: whatever is found has been read and accepted.
* `Matcher.names_of_reads`: the names of what is read.
* `Matcher.params_of_judge`: what the host adds.
-/

namespace Signpost

namespace Matcher

open Collection (SharedLeaf leavesOfRun)

/-! ### Reading a path -/

/-- How a search comes to values for the variables in the path of a route. -/
inductive Reads (m : Matcher) (path : String) (id : Nat) : List (String × Option String) → Prop
  /-- A literal path has no variables. -/
  | literal (indexed : id ∈ (m.data.staticPaths.get? path).getD []) : Reads m path id []
  /-- The first merged expression that matches marks a leaf of the route. -/
  | merged {offset count : Nat} {captures : Regex.Captures} {leaf : Leaf} {expression : Regex}
      (first : firstMatch? path 0 (m.data.chunks.zip m.chunks) = some (offset, count, captures))
      (among : (leaf, expression) ∈
        ((m.data.leaves.zip m.leaves).drop offset).take ((offset + count) % wordSize - offset))
      (marked : (captures.get? leaf.marker).isSome) (route : id ∈ leaf.routes) :
      Reads m path id (valuesOf captures leaf.bindings)
  /-- The expression of a leaf of the route matches by itself. -/
  | alone {leaf : Leaf} {expression : Regex} {captures : Regex.Captures}
      (among : (leaf, expression) ∈ m.data.leaves.zip m.leaves)
      (matched : expression.captures? path = some captures) (route : id ∈ leaf.routes) :
      Reads m path id (valuesOf captures leaf.standalone)

/-- Whether what has been found, if anything, has been read and accepted. -/
def Tally.IsRead (m : Matcher) (c : Context) (t : Tally) : Prop :=
  ∀ found, t.found? = some found → ∃ values, m.Reads c.path found.route values ∧
    m.judge c values found.route = .accepted found.params

variable {m : Matcher} {c : Context} {t : Tally} {values : List (String × Option String)}

theorem isRead_tryRoutes (h : t.IsRead m c) {ids : List Nat}
    (hids : ∀ id ∈ ids, m.Reads c.path id values) : (m.tryRoutes c values t ids).IsRead m c := by
  induction ids generalizing t with
  | nil => exact h
  | cons id ids ih =>
      obtain ⟨hid, hids⟩ := List.forall_mem_cons.1 hids
      rw [tryRoutes]
      split
      case isTrue =>
        split
        case h_1 params haccepted =>
          intro found hfound
          obtain rfl := Option.some.inj hfound
          exact ⟨values, hid, haccepted⟩
        case h_2 methods _ => exact ih h hids
        case h_3 => exact ih h hids
      case isFalse => exact h

theorem isRead_tryLeaves (h : t.IsRead m c) {leaves : List (Leaf × Regex)}
    (hleaves : ∀ l ∈ leaves, l ∈ m.data.leaves.zip m.leaves) :
    (m.tryLeaves c t leaves).IsRead m c := by
  induction leaves generalizing t with
  | nil => exact h
  | cons l leaves ih =>
      obtain ⟨hl, hleaves⟩ := List.forall_mem_cons.1 hleaves
      rw [tryLeaves]
      split
      case isTrue =>
        split
        case h_1 captures hmatch =>
          exact ih (isRead_tryRoutes h fun id hid => .alone hl hmatch hid) hleaves
        case h_2 => exact ih h hleaves
      case isFalse => exact h

theorem isRead_searchLeaves (h : t.IsRead m c) {t' : Tally} (ht' : m.searchLeaves c t = .ok t') :
    t'.IsRead m c := by
  rw [searchLeaves] at ht'
  split at ht'
  case h_1 =>
    obtain rfl := Except.ok.inj ht'
    exact h
  case h_2 offset count captures hfirst =>
    simp only at ht'
    split at ht'
    case isTrue => cases ht'
    case isFalse =>
      split at ht'
      case h_1 =>
        obtain rfl := Except.ok.inj ht'
        exact h
      case h_2 i hi =>
        split at ht'
        case h_1 =>
          obtain rfl := Except.ok.inj ht'
          exact h
        case h_2 leaf expression rest hrest =>
          obtain rfl := Except.ok.inj ht'
          obtain ⟨hlt, hmarked, -⟩ := List.findIdx?_eq_some_iff_getElem.1 hi
          -- the leaf that is marked is where the others begin
          have hleaf : (((m.data.leaves.zip m.leaves).drop offset).take
              ((offset + count) % wordSize - offset))[i] = (leaf, expression) := by
            have hget := List.getElem?_eq_getElem hlt
            rw [List.getElem?_take_of_lt (by simp at hlt; omega)] at hget
            have hhead := congrArg List.head? hrest
            rw [List.head?_drop, List.head?_cons, hget] at hhead
            exact Option.some.inj hhead
          have hmem := hleaf ▸ List.getElem_mem hlt
          rw [hleaf] at hmarked
          refine isRead_tryLeaves (isRead_tryRoutes h fun id hid =>
            .merged hfirst hmem hmarked hid) fun l hl => ?_
          have hafter : l ∈ ((m.data.leaves.zip m.leaves).drop offset).drop i :=
            hrest ▸ List.mem_cons_of_mem _ hl
          exact List.mem_of_mem_drop (List.mem_of_mem_drop hafter)

/-- **Whatever is found has been read and accepted.** -/
theorem exists_reads_of_lookup {found : Match} (h : m.lookup c = .ok (.found found)) :
    ∃ values, m.Reads c.path found.route values ∧
      m.judge c values found.route = .accepted found.params := by
  have hempty : ({} : Tally).IsRead m c := fun _ h => nomatch h
  have hliterals : (m.tryRoutes c [] {} ((m.data.staticPaths.get? c.path).getD [])).IsRead m c :=
    isRead_tryRoutes hempty fun id hid => .literal hid
  have hresolution : ∀ t : Tally, t.IsRead m c → t.resolution = .found found →
      ∃ values, m.Reads c.path found.route values ∧
        m.judge c values found.route = .accepted found.params := by
    intro t ht hfound
    rw [Tally.resolution] at hfound
    split at hfound
    case h_1 m' hm' =>
      obtain rfl := Resolution.found.inj hfound
      exact ht _ hm'
    case h_2 => split at hfound <;> cases hfound
  simp only [lookup] at h
  split at h
  case isTrue =>
    obtain ⟨t, ht, hfound⟩ := bind_eq_ok.1 h
    exact hresolution t (isRead_searchLeaves hliterals ht) (Except.ok.inj hfound)
  case isFalse => exact hresolution _ hliterals (Except.ok.inj h)

/-! ### The names of what is read -/

variable {rs : List CompiledRoute} {limit : Nat} {rule : Requirements} {host : Option Regex}

theorem map_fst_valuesOf (captures : Regex.Captures) (bindings : List Binding) :
    (valuesOf captures bindings).map Prod.fst = bindings.map Binding.name := by
  rw [valuesOf, List.map_map]
  rfl

/-- A leaf of a run has the routes and the variables of what it was made of, merged or alone. -/
theorem exists_of_mem_leavesOfRun {strategy : Strategy} {run : List SharedLeaf} {leaf : Leaf}
    (h : leaf ∈ leavesOfRun strategy run) : ∃ s ∈ run, leaf.routes = s.routes ∧
      leaf.bindings.map Binding.name = Atom.vars s.atoms ∧
      leaf.standalone.map Binding.name = Atom.vars s.atoms := by
  rw [Collection.leavesOfRun_eq_map] at h
  obtain ⟨⟨layout, s⟩, hmem, rfl⟩ := List.mem_map.1 h
  have hnames := Merged.map_names_layouts strategy (run.map SharedLeaf.atoms)
  rw [List.map_map] at hnames
  exact ⟨s, (List.of_mem_zip hmem).2, rfl,
    List.forall₂_zip (forall₂_of_map_eq hnames) hmem, Merged.map_name_standalone s.atoms⟩

variable [Regex.Engine]

/-- **The names of what is read** are the variables of the route. -/
theorem names_of_reads {collection : Collection} {options : CompileOptions}
    {runs : List (List SharedLeaf)} (h : collection.IsMadeOf options m rs runs) {path : String}
    {id : Nat} (hreads : m.Reads path id values) :
    ∃ r, rs[id]? = some r ∧ values.map Prod.fst = r.vars := by
  have hvars : ∀ r ∈ rs, r.vars = Atom.vars r.atoms := by
    intro r hr
    obtain ⟨route, -, p, hp⟩ := h.exists_isCompiledTo hr
    exact hp.vars
  have hleaf : ∀ l ∈ m.data.leaves.zip m.leaves, id ∈ l.1.routes → ∃ r, rs[id]? = some r ∧
      l.1.bindings.map Binding.name = r.vars ∧ l.1.standalone.map Binding.name = r.vars := by
    intro l hl hid
    have hmem := (List.of_mem_zip hl).1
    rw [h.data] at hmem
    obtain ⟨run, hrun, hmem⟩ := List.mem_flatMap.1 hmem
    obtain ⟨s, hs, hroutes, hbindings, hstandalone⟩ := exists_of_mem_leavesOfRun hmem
    have hshared : s ∈ Collection.sharedLeaves 0 rs [] :=
      h.shared ▸ List.mem_flatten_of_mem hrun hs
    have hof := (Collection.isShared_sharedLeaves rs).each s hshared
    obtain ⟨r, hr, -, -, hsame⟩ := hof.routes id (hroutes ▸ hid)
    obtain ⟨first, hfirst, hatoms, -, hsame'⟩ := hof.atoms
    have hown : Atom.vars s.atoms = r.vars := by
      rw [← hatoms, ← hvars first hfirst, hsame', hsame]
    exact ⟨r, hr, hbindings.trans hown, hstandalone.trans hown⟩
  cases hreads with
  | literal hindexed =>
      rw [h.data] at hindexed
      obtain ⟨r, hr, hliteral⟩ := ((Collection.isIndex_staticPaths rs).mem_iff _ _).1 hindexed
      obtain ⟨route, -, p, hp⟩ := h.exists_isCompiledTo (List.mem_of_getElem? hr)
      refine ⟨r, hr, ?_⟩
      rw [hp.vars, Pattern.atoms_of_staticText? (hp.literal.symm.trans hliteral) hp.atoms,
        Atom.vars, Atom.captures_chars]
      rfl
  | merged hfirst hamong hmarked hroute =>
      obtain ⟨r, hr, hnames, -⟩ :=
        hleaf _ (List.mem_of_mem_drop (List.mem_of_mem_take hamong)) hroute
      exact ⟨r, hr, (map_fst_valuesOf _ _).trans hnames⟩
  | alone hamong hmatched hroute =>
      obtain ⟨r, hr, -, hnames⟩ := hleaf _ hamong hroute
      exact ⟨r, hr, (map_fst_valuesOf _ _).trans hnames⟩

/-! ### What the host adds -/

/-- What the rule for the host, if there is one, gives to the variables in the host. -/
def Requirements.hostValues? (rule : Requirements) (host : String) :
    Option (List (String × Option String)) :=
  match rule.host with
  | some h => CompiledRoute.hostValues? h host
  | none   => some []

/-- A request that is accepted has a host that fits, and its parameters are those from the path and
then those from the host. -/
theorem params_of_judge (hhost : IsHost limit rule host) {params : Params}
    (h : rule.judge host values c = .accepted params) :
    ∃ hosts, rule.hostValues? c.host = some hosts ∧
      params = bindAll rule.defaults (bindAll rule.defaults .empty values) hosts := by
  have hparams : hostParams? rule host (bindAll rule.defaults .empty values) c = some params := by
    unfold Requirements.judge at h
    split at h
    case h_1 => cases h
    case h_2 own hown =>
      split at h
      case isTrue => cases h
      case isFalse =>
        split at h
        case isTrue => rw [hown, Verdict.accepted.inj h]
        case isFalse => cases h
  cases hrule : rule.host with
  | some hostRule =>
      rw [IsHost, hrule] at hhost
      obtain ⟨e, he, rfl⟩ := hhost
      simp only [hostParams?, hrule] at hparams
      obtain ⟨captures, hcaptures, rfl⟩ := Option.map_eq_some_iff.1 hparams
      refine ⟨valuesOf captures hostRule.bindings, ?_, rfl⟩
      rw [Requirements.hostValues?, hrule]
      show CompiledRoute.hostValues? hostRule c.host = _
      rw [CompiledRoute.hostValues?, Regex.ofText?_of_compile he, Option.bind_some, hcaptures,
        Option.map_some]
  | none =>
      simp only [hostParams?, hrule] at hparams
      refine ⟨[], ?_, (Option.some.inj hparams).symm⟩
      rw [Requirements.hostValues?, hrule]

end Matcher

end Signpost
