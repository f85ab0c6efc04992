import Signpost.Proofs.Matcher.Stored
import Signpost.Regex.Estimate
import Signpost.Router.Site

/-!
# Routers — the file for the matcher

A router that keeps no matcher looks for it in a file.  What it finds there counts only if it is a
matcher for the same routes (`Files.Stores`): a file that is absent, is not JSON, has another shape,
is for other routes, or has data that contradict themselves is as good as none, and is replaced.

* `Matcher.ofText?_store`: what is stored is read back.
* `Site.followsProtocol`: what a router does with the file, whatever is in it.
* `Site.mem_compileEach`: of routers that share the file, each gets what it compiles itself, what
  the file held at first, or what another one with its fingerprint compiled.
* `Site.followsProtocol_and_mem_compileEach`: both together.
-/

namespace Signpost

namespace Matcher

open Json

theorem Stored.ofJson?_toJson {s : Stored} (h : s.data.FitsWords) :
    Stored.ofJson? s.toJson = some s := by
  rw [Stored.ofJson?, Stored.toJson, Record.of?_ofFields]
  · simp [Record.get?, List.lookup, text?_ofText, Data.ofJson?_toJson h]
  · simp
  · simp

theorem Stored.isWritten_toJson (s : Stored) : s.toJson.IsWritten :=
  isWritten_ofFields (by simp [isWritten_ofText, Data.isWritten_toJson])

/-- **What is stored is read back**, with its fingerprint. -/
theorem ofText?_store {m : Matcher} (hwords : m.data.FitsWords) (fingerprint : String) :
    Stored.ofText? (m.store fingerprint) = some ⟨fingerprint, m.data⟩ := by
  rw [Stored.ofText?, store, parse?_render (Stored.isWritten_toJson _), Option.bind_some]
  exact Stored.ofJson?_toJson hwords

/-- A matcher is loaded just if the text has it under the same fingerprint. -/
theorem load_eq_ok_some [Regex.Engine] {text fingerprint : String} {m : Matcher} :
    load text fingerprint = .ok (some m) ↔ ∃ stored, Stored.ofText? text = some stored ∧
      stored.fingerprint = fingerprint ∧ ofData stored.data = .ok m := by
  rw [load]
  cases Stored.ofText? text with
  | none => simp
  | some stored =>
      by_cases hsame : stored.fingerprint = fingerprint
      · cases hdata : ofData stored.data <;> simp [hsame, hdata, Except.map]
      · simp [hsame]

end Matcher

section

variable [Regex.Engine]

namespace Collection

/-- A compiled matcher is built again from its data. -/
theorem ofData_of_compile {c : Collection} {options : CompileOptions} {m : Matcher}
    (h : c.compile options = .ok m) : Matcher.ofData m.data = .ok m := by
  obtain ⟨-, d, -, -, hdata⟩ := exists_matcherData_of_compile h
  rwa [Matcher.data_of_ofData hdata]

end Collection

/-- Whether a file has a matcher for the routes with the given fingerprint. -/
def Files.Stores (fs : Files) (path fingerprint : String) (m : Matcher) : Prop :=
  ∃ text stored, fs.read path = .ok text ∧ Matcher.Stored.ofText? text = some stored ∧
    stored.fingerprint = fingerprint ∧ Matcher.ofData stored.data = .ok m

/-- A router that has been built but not asked, with the given file for its matcher.  The numbers in
what its routes are compiled to are machine words. -/
structure Router.UsesFile (r : Router) (path : String) : Prop where
  memo  : r.memo = none
  path  : r.config.cachePath = some path
  words : ∀ m, r.collection.compile r.config.compile = .ok m → m.data.FitsWords

namespace Site

variable {s : Site} {path : String} {m : Matcher}

theorem load_eq_ok_some :
    s.load path = .ok (some m) ↔ s.files.Stores path s.router.fingerprint m := by
  rw [load, Files.Stores]
  cases s.files.read path with
  | error e => simp [bind, Except.bind]
  | ok text => simpa [bind, Except.bind] using Matcher.load_eq_ok_some

omit [Regex.Engine] in
theorem read_save (hheld : Files.holds path) (m : Matcher) :
    (s.save path m).read path = .ok (m.store s.router.fingerprint) := by
  have hreplace : ∃ files, s.files.replace path (m.store s.router.fingerprint) = .ok files := by
    rw [Files.replace, if_pos hheld]
    exact ⟨_, rfl⟩
  obtain ⟨files, hfiles⟩ := hreplace
  rw [save, hfiles]
  exact Files.read_replace hfiles

/-- What a router does that has a file for its matcher: it takes the matcher from there, or compiles
its routes, which may fail, and writes the file. -/
theorem compile_cases (h : s.router.UsesFile path) :
    (∃ m, s.files.Stores path s.router.fingerprint m ∧ s.compile.1 = .ok m ∧
      s.compile.2.files = s.files) ∨
    (∀ m, ¬s.files.Stores path s.router.fingerprint m) ∧
      ((∃ m, s.compileRoutes = .ok m ∧ s.compile.1 = .ok m ∧
        s.compile.2.files = s.save path m) ∨
      ∃ e, s.compileRoutes = .error e ∧ s.compile.1 = .error e ∧ s.compile.2.files = s.files) := by
  by_cases hstored : ∃ m, s.load path = .ok (some m)
  · obtain ⟨m, hload⟩ := hstored
    have hobtain : s.obtain = .ok (m, s.files) := by
      simp only [obtain, h.path, hload]
    refine .inl ⟨m, load_eq_ok_some.1 hload, ?_⟩
    rw [compile, h.memo, hobtain]
    exact ⟨rfl, rfl⟩
  · refine .inr ⟨fun m hm => hstored ⟨m, load_eq_ok_some.2 hm⟩, ?_⟩
    have hobtain : s.obtain = do
        let m ← s.compileRoutes
        return (m, s.save path m) := by
      simp only [obtain, h.path]
      cases hload : s.load path with
      | error e => rfl
      | ok found =>
          cases found with
          | none => rfl
          | some m => exact absurd ⟨m, hload⟩ hstored
    rw [compile, h.memo, hobtain]
    cases hroutes : s.compileRoutes with
    | ok m => exact .inl ⟨m, rfl, rfl, rfl⟩
    | error e => exact .inr ⟨e, rfl, rfl, rfl⟩

/-- What a router does with the file for its matcher, whatever is in it. -/
structure FollowsProtocol (s : Site) (path : String) : Prop where
  /-- A matcher for the routes is taken from the file as it is, and no file is touched. -/
  found : ∀ text stored m, s.files.read path = .ok text →
    Matcher.Stored.ofText? text = some stored → stored.fingerprint = s.router.fingerprint →
      Matcher.ofData stored.data = .ok m →
        s.compile.1 = .ok m ∧ m.data = stored.data ∧ s.compile.2.files = s.files
  /-- Without one in the file, the routes are compiled. -/
  compiled : (∀ m, ¬s.files.Stores path s.router.fingerprint m) → s.compile.1 = s.compileRoutes
  /-- It is the routes that cannot be compiled, and no file is touched. -/
  failed : ∀ e, s.compile.1 = .error e → s.compileRoutes = .error e ∧ s.compile.2.files = s.files
  /-- The file then has what the routes are compiled to, for these routes and no other ones. -/
  written : (∀ m, ¬s.files.Stores path s.router.fingerprint m) → ∀ m, s.compile.1 = .ok m →
    ∃ text, s.compile.2.files.read path = .ok text ∧
      Matcher.load text s.router.fingerprint = .ok (some m) ∧
        ∀ other, other ≠ s.router.fingerprint → Matcher.load text other = .ok none

/-- **What a router does with the file for its matcher.** -/
theorem followsProtocol (hheld : Files.holds path) (h : s.router.UsesFile path) :
    s.FollowsProtocol path := by
  rcases compile_cases h with ⟨m, hstored, hm, hfiles⟩ | ⟨hnone, hcompiled⟩
  · refine ⟨fun text stored m' hread htext hsame hdata => ?_, fun hnone => absurd hstored (hnone m),
      fun e he => ?_, fun hnone => absurd hstored (hnone m)⟩
    · obtain ⟨text', stored', hread', htext', -, hdata'⟩ := hstored
      cases hread.symm.trans hread'
      cases htext.symm.trans htext'
      cases hdata.symm.trans hdata'
      exact ⟨hm, Matcher.data_of_ofData hdata, hfiles⟩
    · cases hm.symm.trans he
  · have hnever : ∀ text stored m, s.files.read path = .ok text →
        Matcher.Stored.ofText? text = some stored → stored.fingerprint = s.router.fingerprint →
          Matcher.ofData stored.data ≠ .ok m := fun text stored m hread htext hsame hdata =>
      hnone m ⟨text, stored, hread, htext, hsame, hdata⟩
    rcases hcompiled with ⟨m, hroutes, hm, hfiles⟩ | ⟨e, hroutes, he, hfiles⟩
    · refine ⟨fun text stored m' hread htext hsame hdata =>
        absurd hdata (hnever text stored m' hread htext hsame), fun _ => hm.trans hroutes.symm,
        fun e he => ?_, fun _ m' hm' => ?_⟩
      · cases hm.symm.trans he
      · cases hm.symm.trans hm'
        have hwords := h.words m hroutes
        refine ⟨m.store s.router.fingerprint, ?_, ?_, fun other hother => ?_⟩
        · rw [hfiles]
          exact read_save hheld m
        · rw [Matcher.load_eq_ok_some]
          exact ⟨_, Matcher.ofText?_store hwords _, rfl, Collection.ofData_of_compile hroutes⟩
        · exact Matcher.load_otherFingerprint (Matcher.ofText?_store hwords _) hother.symm
    · refine ⟨fun text stored m' hread htext hsame hdata =>
        absurd hdata (hnever text stored m' hread htext hsame), fun _ => he.trans hroutes.symm,
        fun e' he' => ?_, fun _ m' hm' => ?_⟩
      · cases he.symm.trans he'
        exact ⟨hroutes, hfiles⟩
      · cases he.symm.trans hm'

/-! ### Routers that share the file -/

/-- Routers that are compiled one after the other, with what each of them gets. -/
def compileEach (files : Files) : List Router → List (Router × Except Error Matcher)
  | []      => []
  | r :: rs =>
    let s : Site := ⟨r, files⟩
    (r, s.compile.1) :: compileEach s.compile.2.files rs

/-- Whatever the file has after a router has been compiled was there before, or is what its routes
are compiled to. -/
theorem stores_compile (hheld : Files.holds path) (h : s.router.UsesFile path)
    {fingerprint : String} (hm : s.compile.2.files.Stores path fingerprint m) :
    s.files.Stores path fingerprint m ∨
      (fingerprint = s.router.fingerprint ∧ s.compileRoutes = .ok m) := by
  rcases compile_cases h with ⟨-, -, -, hfiles⟩ | ⟨-, ⟨m', hroutes, -, hfiles⟩ | ⟨-, -, -, hfiles⟩⟩
  · exact .inl (hfiles ▸ hm)
  · right
    obtain ⟨text, stored, hread, htext, hsame, hdata⟩ := hm
    rw [hfiles, read_save hheld] at hread
    obtain rfl := Except.ok.inj hread
    cases (Matcher.ofText?_store (h.words m' hroutes) _).symm.trans htext
    cases (Collection.ofData_of_compile hroutes).symm.trans hdata
    exact ⟨hsame.symm, hroutes⟩
  · exact .inl (hfiles ▸ hm)

/-- **What routers get that share a file**: what their routes are compiled to; a matcher that the
file had at first; or what the routes of another one with the same fingerprint are compiled to. -/
theorem mem_compileEach (hheld : Files.holds path) {rs : List Router}
    (h : ∀ r ∈ rs, r.UsesFile path) {files : Files} {known : String → Matcher → Prop}
    (hknown : ∀ fingerprint m, files.Stores path fingerprint m → known fingerprint m) {r : Router}
    {res : Except Error Matcher} (hmem : (r, res) ∈ compileEach files rs) :
    res = r.collection.compile r.config.compile ∨
      ∃ m, res = .ok m ∧ (known r.fingerprint m ∨ ∃ r' ∈ rs, r'.fingerprint = r.fingerprint ∧
        r'.collection.compile r'.config.compile = .ok m) := by
  induction rs generalizing files known with
  | nil => cases hmem
  | cons r₁ rs ih =>
      obtain ⟨hfirst, hrest⟩ := List.forall_mem_cons.1 h
      rcases List.mem_cons.1 hmem with heq | hmem
      · obtain ⟨hr, hres⟩ := Prod.mk.inj heq
        subst hr hres
        rcases compile_cases (s := ⟨r, files⟩) hfirst with
          ⟨m, hstored, hm, -⟩ | ⟨-, ⟨m, hroutes, hm, -⟩ | ⟨e, hroutes, he, -⟩⟩
        · exact .inr ⟨m, hm, .inl (hknown _ _ hstored)⟩
        · exact .inl (hm.trans hroutes.symm)
        · exact .inl (he.trans hroutes.symm)
      · have hknown' : ∀ fingerprint m,
            (Site.compile ⟨r₁, files⟩).2.files.Stores path fingerprint m →
              known fingerprint m ∨ (fingerprint = r₁.fingerprint ∧
                r₁.collection.compile r₁.config.compile = .ok m) := by
          intro fingerprint m hm
          rcases stores_compile (s := ⟨r₁, files⟩) hheld hfirst hm with hm | hm
          · exact .inl (hknown _ _ hm)
          · exact .inr hm
        rcases ih hrest hknown' hmem with hres | ⟨m, hm, (hm' | ⟨hsame, hroutes⟩) | ⟨r', hr', hm'⟩⟩
        · exact .inl hres
        · exact .inr ⟨m, hm, .inl hm'⟩
        · exact .inr ⟨m, hm, .inr ⟨r₁, List.mem_cons_self, hsame.symm, hroutes⟩⟩
        · exact .inr ⟨m, hm, .inr ⟨r', List.mem_cons_of_mem _ hr', hm'⟩⟩

/-- **The file for a matcher never makes its router fail.**  Whatever the file is, a router takes
from it a matcher for its routes, and touches no file; or it gets just what its routes are compiled
to, and writes that to the file, unless there is an error, which touches no file either.  So of
routers that share the file, in any order, each gets what its routes are compiled to, error or not;
or a matcher that was stored for its fingerprint, at first or by one of them. -/
theorem followsProtocol_and_mem_compileEach (hheld : Files.holds path) :
    (∀ s : Site, s.router.UsesFile path → s.FollowsProtocol path) ∧
      ∀ files rs, (∀ r ∈ rs, r.UsesFile path) → ∀ r res, (r, res) ∈ compileEach files rs →
        res = r.collection.compile r.config.compile ∨
          ∃ m, res = .ok m ∧ (files.Stores path r.fingerprint m ∨
            ∃ r' ∈ rs, r'.fingerprint = r.fingerprint ∧
              r'.collection.compile r'.config.compile = .ok m) :=
  ⟨fun _ h => followsProtocol hheld h,
    fun _ _ h _ _ hmem => mem_compileEach hheld h (fun _ _ hm => hm) hmem⟩

end Site

end

/-! ### A file that is not JSON -/

namespace Site

/-- A router with a literal path and a variable. -/
def filedSample : Router :=
  { collection := Collection.sample, config := { cachePath := some "routes.json" } }

theorem usesFile_sample : filedSample.UsesFile "routes.json" := by
  refine ⟨rfl, rfl, fun m hm => ?_⟩
  rw [Matcher.data_of_ofData (Collection.compile_sample.symm.trans hm)]
  constructor
  case staticPaths => decide
  case chunks => simp [Collection.sampleData, Matcher.Chunk.FitsWords, wordSize]
  case leaves =>
    intro l hl
    obtain rfl := List.mem_singleton.1 hl
    constructor <;> simp [Binding.FitsWords, wordSize]
  case routes => simp [Collection.sampleData, Matcher.Requirements.FitsWords]
  case sizeLimit => decide

def spoiled : Files := ⟨.ofList [("routes.json", "not json")]⟩

theorem not_stores_spoiled (fingerprint : String) (m : Matcher) :
    ¬spoiled.Stores "routes.json" fingerprint m := by
  rintro ⟨text, stored, hread, htext, -⟩
  have hspoiled : spoiled.read "routes.json" = .ok "not json" := rfl
  cases hspoiled.symm.trans hread
  cases htext

theorem followsProtocol_sample : Files.holds "routes.json" ∧ filedSample.UsesFile "routes.json" ∧
    ∃ m text, Matcher.ofData Collection.sampleData = .ok m ∧
      (Site.mk filedSample spoiled).compile.1 = .ok m ∧
      (Site.mk filedSample spoiled).compile.2.files.read "routes.json" = .ok text ∧
      Matcher.load text filedSample.fingerprint = .ok (some m) := by
  have hheld : Files.holds "routes.json" := by decide
  obtain ⟨hprotocol, -⟩ := followsProtocol_and_mem_compileEach hheld
  have hsample := hprotocol ⟨filedSample, spoiled⟩ usesFile_sample
  obtain ⟨m, hm⟩ : ∃ m, Matcher.ofData Collection.sampleData = .ok m := ⟨_, rfl⟩
  have hcompiled := (hsample.compiled (not_stores_spoiled _)).trans
    (Collection.compile_sample.trans hm)
  obtain ⟨text, hread, hload, -⟩ := hsample.written (not_stores_spoiled _) m hcompiled
  exact ⟨hheld, usesFile_sample, m, text, hm, hcompiled, hread, hload⟩

end Site

end Signpost
