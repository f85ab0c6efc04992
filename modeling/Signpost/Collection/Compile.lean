import Signpost.Collection
import Signpost.Collection.Options
import Signpost.Matcher.Basic
import Signpost.Route.Compile

/-!
# Collections — Compilation

The routes of a collection as the data of a matcher.  Literal paths are indexed; all other paths
become leaves, one for each expression with the same variables, and the leaves are merged into one
expression, or into several where the limit on their size demands it.

* `Collection.mergeChunks_of_fits` — fragments that fit into one expression are not split.
-/

namespace Signpost

namespace Collection

/-! ### Routes that compete -/

/-- Whether two routes with one host and one path compete for a request. -/
def overlaps (r s : Route) : Bool :=
  r.methods.any s.methods.contains &&
    (r.schemes.isEmpty || s.schemes.isEmpty || r.schemes.any s.schemes.contains)

/-- Whether two compiled routes have one host and one path. -/
def samePlace (c d : CompiledRoute) : Bool :=
  c.hostExpression = d.hostExpression && c.expression = d.expression

/-- The first name that two routes have. -/
def repeatedName? : (seen : List String) → List Route → Option String
  | _, []         => none
  | seen, r :: rs =>
    match r.name with
    | some name => if seen.contains name then some name else repeatedName? (name :: seen) rs
    | none      => repeatedName? seen rs

variable [Regex.Engine]

/-- Compiles routes in turn, given those before them, and refuses one that competes with an
earlier one. -/
def compileRoutes (before : List (Route × CompiledRoute)) : List Route →
    Except Error (List (Route × CompiledRoute))
  | []      => .ok before
  | r :: rs => do
    let compiled ← r.compile
    match before.find? fun b => samePlace b.2 compiled && overlaps b.1 r with
    | some first => throw (.duplicateRoute first.1.describe r.describe)
    | none       => compileRoutes (before ++ [(r, compiled)]) rs

/-! ### Literal paths and leaves -/

/-- The index of literal paths, whose routes begin with route `id`. -/
def staticPaths : (id : Nat) → List CompiledRoute → Dict (List Nat) → Dict (List Nat)
  | _, [], d       => d
  | id, c :: cs, d =>
    staticPaths (id + 1) cs <| match c.staticPath? with
      | some path => d.insert path ((d.get? path).getD [] ++ [id])
      | none      => d

/-- Routes that share a leaf, for their paths are the same and bind the same names. -/
structure SharedLeaf where
  expression : String
  vars       : List String
  atoms      : List Atom
  routes     : List Nat

/-- Adds a route to its leaf. -/
def share (c : CompiledRoute) (id : Nat) : List SharedLeaf → List SharedLeaf
  | []      => [⟨c.expression, c.vars, c.atoms, [id]⟩]
  | l :: ls =>
    if l.expression = c.expression ∧ l.vars = c.vars then
      { l with routes := l.routes ++ [id] } :: ls
    else l :: share c id ls

/-- The leaves of the routes, which begin with route `id`. -/
def sharedLeaves : (id : Nat) → List CompiledRoute → List SharedLeaf → List SharedLeaf
  | _, [], ls       => ls
  | id, c :: cs, ls =>
    sharedLeaves (id + 1) cs (if c.staticPath?.isSome then ls else share c id ls)

/-! ### Chunks -/

/-- Merges fragments into one expression, or halves them while it is too big. -/
def mergeChunks (options : CompileOptions) (fragments : List (List Atom)) :
    Except Error (List Merged) :=
  if fragments.isEmpty then .ok []
  else
    let merged := Merged.ofFragments options.strategy fragments
    match Regex.compile merged.expression options.sizeLimit with
    | .ok _           => .ok [merged]
    | .error .badText => .error (.regex .badText)
    | .error .tooBig  =>
      if _h : 1 < fragments.length then do
        let first ← mergeChunks options (fragments.take (fragments.length / 2))
        let second ← mergeChunks options (fragments.drop (fragments.length / 2))
        return first ++ second
      else .error (.regex .tooBig)
termination_by fragments.length
decreasing_by
  · simp only [List.length_take]; omega
  · simp only [List.length_drop]; omega

@[simp] theorem mergeChunks_nil (options : CompileOptions) : mergeChunks options [] = .ok [] := by
  unfold mergeChunks
  rfl

theorem mergeChunks_of_fits {options : CompileOptions} {fragments : List (List Atom)} {r : Regex}
    (h : fragments ≠ [])
    (fits : Regex.compile (Merged.ofFragments options.strategy fragments).expression
      options.sizeLimit = .ok r) :
    mergeChunks options fragments = .ok [Merged.ofFragments options.strategy fragments] := by
  unfold mergeChunks
  simp [h, fits]

/-! ### The whole -/

/-- The data of a matcher for compiled routes. -/
def matcherData (options : CompileOptions) (compiled : List CompiledRoute) :
    Except Error Matcher.Data := do
  let shared := sharedLeaves 0 compiled []
  let chunks ← mergeChunks options (shared.map SharedLeaf.atoms)
  let layouts := chunks.flatMap Merged.layouts
  return {
    staticPaths := staticPaths 0 compiled .empty
    chunks := chunks.map fun c => ⟨c.expression, c.layouts.length⟩
    leaves := layouts.zipWith (fun layout (leaf : SharedLeaf) =>
      let (expression, bindings) := Merged.standalone leaf.atoms
      ⟨layout.marker, layout.bindings, expression, bindings, leaf.routes⟩) shared
    routes := compiled.map CompiledRoute.requirements
    sizeLimit := options.sizeLimit }

/-- Compiles the routes. -/
def compile (c : Collection) (options : CompileOptions) : Except Error Matcher :=
  match repeatedName? [] c.routes with
  | some name => .error (.duplicateName name)
  | none      => do
    let compiled ← compileRoutes [] c.routes
    Matcher.ofData (← matcherData options (compiled.map Prod.snd))

end Collection

end Signpost
