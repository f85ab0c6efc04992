import Signpost.Proofs.Pattern.Taking
import Signpost.Proofs.Unicode.Orbits

/-!
# URLs — the values in a host

Case does not matter in a host, so its expression is read under other flags than the check of the
generator, and an expression that excludes characters may exclude more of them there.  A variable
that *ignores case* takes what the generator accepts for it under those flags, too
(`Writer.IgnoresCase`).

* `Regex.exists_adds_of_standsAlone`: an expression that stands alone, by reading it once.
* `Writer.IgnoresCase.carries`: what a variable of a host takes; without a constraint of its own it
  takes all that the generator accepts.
-/

namespace Signpost

namespace Regex

variable {fs : Flags} {text value : List Char}

/-- What an expression by itself is read as under some flags, when that leaves nothing open. -/
def sealed? (fs : Flags) (text : List Char) : Option Reader :=
  (Reader.trace? (text.length + 1) { flags := fs } text).bind fun x =>
    if x.1.groups.isEmpty && x.1.branches.isEmpty && x.1.flags = fs && x.1.names.isEmpty then
      some x.1
    else none

/-- Whether an expression leaves nothing open under some flags, and does not look around. -/
def standsAlone (fs : Flags) (text : List Char) : Bool :=
  (sealed? fs text).any fun r => r.pieces.all fun p => !p.node.looksAround

/-- Whether an expression by itself leads from one end of a text to the other. -/
def canTake (fs : Flags) (text value : List Char) : Bool :=
  (sealed? fs text).any fun r =>
    ((Piece.sequence r.pieces).node.advance value.toArray [⟨0, []⟩]).any (·.pos = value.length)

theorem adds_of_sealed? (hfs : fs.IsBare) (happart : Reader.IsApart text) {r : Reader}
    (h : sealed? fs text = some r) : Adds fs text r.pieces r.captures := by
  obtain ⟨⟨r', parens⟩, htrace, hclosed⟩ := Option.bind_eq_some_iff.1 h
  split at hclosed
  case isTrue hsealed =>
    obtain rfl := Option.some.inj hclosed
    simp only [Bool.and_eq_true, List.isEmpty_iff, decide_eq_true_eq] at hsealed
    obtain ⟨⟨⟨hgroups, hbranches⟩, hflags⟩, hnames⟩ := hsealed
    exact .of_trace? hfs htrace hgroups hbranches hflags hnames fun _ => happart
  case isFalse => cases hclosed

/-- **An expression that stands alone** depends on nothing around it, and takes what it takes by
itself. -/
theorem exists_adds_of_standsAlone (hfs : fs.IsBare) (happart : Reader.IsApart text)
    (h : standsAlone fs text = true) :
    ∃ pieces count, Adds fs text pieces count ∧ Piece.AreLocal pieces ∧
      ∀ value, canTake fs text value = true →
        Piece.Leads value.toArray pieces 0 value.length := by
  obtain ⟨r, hr, hlocal⟩ := (Option.any_eq_true _ _).1 h
  refine ⟨r.pieces, r.captures, adds_of_sealed? hfs happart hr, fun p hp => ?_,
    fun value hvalue => ?_⟩
  · simpa using List.all_eq_true.1 hlocal p hp
  · rw [canTake, hr, Option.any_some, List.any_eq_true] at hvalue
    obtain ⟨s, hs, hpos⟩ := hvalue
    have hstart : ∀ s ∈ [(⟨0, []⟩ : State)], s.pos ≤ value.toArray.size := by simp
    have hends : Ends ((Piece.sequence r.pieces).node.advance value.toArray [⟨0, []⟩])
        value.length := ⟨s, hs, of_decide_eq_true hpos⟩
    rw [Node.ends_advance _ hstart] at hends
    simpa [Piece.Leads] using hends

/-! ### Hosts without constraints -/

/-- What an unconstrained variable of a host leaves out. -/
def dot : CharSet := .union .empty (.singleton '.')

theorem containsCode_dot {n : Nat} (h : dot.containsCode n) : n ≤ 64 := by
  have hcode : 46 ≤ n ∧ n ≤ 46 := by
    simpa [dot, CharSet.containsCode, CharSet.empty, CharSet.singleton, Unicode.Ranges.contains]
      using h
  omega

/-- Case makes no difference to what is not a dot. -/
theorem contains_dotless :
    (CharSet.compl (dot.foldCase true)).contains = (CharSet.compl dot).contains := by
  funext c
  rw [CharSet.foldCase_eq fun _ => containsCode_dot]
  simp [CharSet.contains, CharSet.containsCode]

theorem ofText?_hostSegment : Node.ofText? (anchoredConstraint hostSegment).toList =
    some (.cat (.look .textStart) (.cat (.repetition (.set (.compl dot)) 1 none true)
      (.look .textEnd))) := by
  rfl

/-- What is not constrained in a host takes where case does not matter what its check takes. -/
theorem exists_adds_hostSegment [Engine] :
    ∃ pieces count, Adds .caseless (parenthesized hostSegment) pieces count ∧
      Piece.AreLocal pieces ∧
      ∀ r, compile (anchoredConstraint hostSegment) defaultSizeLimit = .ok r →
        ∀ value : String, r.isMatch value →
          Piece.Leads value.toList.toArray pieces 0 value.toList.length := by
  obtain ⟨reader, hreader, hpieces⟩ : ∃ reader,
      sealed? .caseless (parenthesized hostSegment) = some reader ∧ reader.pieces =
        [⟨.group 1 none (.repetition (.set (.compl (dot.foldCase true))) 1 none true), 3, true⟩] :=
    ⟨_, rfl, rfl⟩
  have hadds := adds_of_sealed? Flags.isBare_caseless
    ⟨by simp [parenthesized], by simp [parenthesized]⟩ hreader
  rw [hpieces] at hadds
  refine ⟨_, _, hadds, by simp [Piece.AreLocal, Node.looksAround], fun r hr value hmatch => ?_⟩
  obtain rfl : r = ⟨_⟩ :=
    congrArg Regex.mk (Option.some.inj ((ofText?_of_compile hr).symm.trans ofText?_hostSegment))
  obtain ⟨more, -, hcopies⟩ := reaches_of_isMatch hmatch
  refine ⟨more, by simp, hcopies.imp fun i j hstep => ?_⟩
  rw [Node.Reaches, contains_dotless]
  exact hstep

end Regex

/-! ### Variables that ignore case -/

namespace Writer

variable {w : Writer} {v : Variable}

variable [Regex.Engine]

/-- Whether case makes no difference to the values of a variable of a host: it is not constrained,
or its constraint can stand anywhere where case does not matter, and takes every value there that
the generator accepts for it. -/
def IgnoresCase (w : Writer) (v : Variable) : Prop :=
  w.constraint hostSegment v = hostSegment ∨
    Regex.standsAlone .caseless (parenthesized (w.constraint hostSegment v)) = true ∧
      ∀ value, w.writeVariable hostSegment v.name v.constraint = .ok value →
        Regex.canTake .caseless (parenthesized (w.constraint hostSegment v)) value.toList = true

/-- **A variable that ignores case** takes in a host what is written for it. -/
theorem IgnoresCase.carries (h : w.IgnoresCase v) : w.Carries .caseless hostSegment v := by
  rcases h with hsegment | ⟨halone, hvalues⟩
  · obtain ⟨pieces, count, hadds, hlocal, htakes⟩ := Regex.exists_adds_hostSegment
    rw [← hsegment] at hadds
    refine ⟨⟨pieces, count, hadds, hlocal⟩, fun value hvalue => ?_⟩
    obtain ⟨r, hr, hmatch, -⟩ := writeVariable_eq_ok hvalue
    have hr : Regex.compile (anchoredConstraint hostSegment) Regex.defaultSizeLimit = .ok r :=
      hsegment ▸ hr
    exact ⟨pieces, count, hadds, hlocal, htakes r hr value hmatch⟩
  · obtain ⟨pieces, count, hadds, hlocal, htakes⟩ := Regex.exists_adds_of_standsAlone
      Regex.Flags.isBare_caseless ⟨by simp [parenthesized], by simp [parenthesized]⟩ halone
    exact ⟨⟨pieces, count, hadds, hlocal⟩, fun value hvalue =>
      ⟨pieces, count, hadds, hlocal, htakes _ (hvalues value hvalue)⟩⟩

end Writer

end Signpost
