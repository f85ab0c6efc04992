import Signpost.Matcher.Stored
import Signpost.Proofs.Collection.Compiled
import Signpost.Proofs.Json.Records
import Signpost.Regex.Estimate

/-!
# Matching — a matcher is read from its text

The data of a matcher are written as a value and read back record by record, from the inside out: of
each record it is known what its fields are read as.  All that is asked of the data is that their
integers are machine words (`Matcher.Data.FitsWords`); texts, the keys of dictionaries and the
lengths of lists are arbitrary, and a host may be there or not.

* `Matcher.Data.ofJson?_toJson`: data are read from the value that they are written as.
* `Matcher.ofText_toText`: a matcher is built again from its text.
-/

namespace Signpost

open Json (Record)

namespace Binding

def FitsWords (b : Binding) : Prop := b.group < wordSize

theorem ofJson?_toJson {b : Binding} (h : b.FitsWords) : ofJson? b.toJson = some b := by
  rw [ofJson?, toJson, Record.of?_ofFields]
  · simp [Record.get?, List.lookup, Json.text?_ofText, Json.word64?_ofNat h]
  · simp
  · simp

theorem isWritten_toJson (b : Binding) : b.toJson.IsWritten :=
  Json.isWritten_ofFields (by simp [Json.isWritten_ofText, Json.isWritten_ofNat])

end Binding

namespace Json

/-- Numbers are read from their list. -/
theorem list?_ofNats {ns : List Nat} (h : ∀ n ∈ ns, n < wordSize) :
    list? word64? (ofList ofNat ns) = some ns :=
  list?_ofList fun n hn => word64?_ofNat (h n hn)

theorem list?_ofBindings {bs : List Binding} (h : ∀ b ∈ bs, b.FitsWords) :
    list? Binding.ofJson? (ofList Binding.toJson bs) = some bs :=
  list?_ofList fun b hb => Binding.ofJson?_toJson (h b hb)

theorem isWritten_ofNats (ns : List Nat) : (ofList ofNat ns).IsWritten :=
  isWritten_ofList fun n _ => isWritten_ofNat n

theorem isWritten_ofTexts (texts : List String) : (ofTexts texts).IsWritten :=
  isWritten_ofList fun text _ => isWritten_ofText text

theorem isWritten_ofBindings (bs : List Binding) : (ofList Binding.toJson bs).IsWritten :=
  isWritten_ofList fun b _ => b.isWritten_toJson

end Json

namespace Matcher

open Json

namespace Leaf

structure FitsWords (l : Leaf) : Prop where
  marker     : l.marker < wordSize
  bindings   : ∀ b ∈ l.bindings, b.FitsWords
  standalone : ∀ b ∈ l.standalone, b.FitsWords
  routes     : ∀ id ∈ l.routes, id < wordSize

theorem ofJson?_toJson {l : Leaf} (h : l.FitsWords) : ofJson? l.toJson = some l := by
  rw [ofJson?, toJson, Record.of?_ofFields]
  · simp [Record.get?, List.lookup, text?_ofText, word64?_ofNat h.marker,
      list?_ofBindings h.bindings, list?_ofBindings h.standalone, list?_ofNats h.routes]
  · simp
  · simp

theorem isWritten_toJson (l : Leaf) : l.toJson.IsWritten :=
  isWritten_ofFields (by
    simp [isWritten_ofText, isWritten_ofNat, isWritten_ofBindings, isWritten_ofNats])

end Leaf

namespace Chunk

def FitsWords (c : Chunk) : Prop := c.leafCount < wordSize

theorem ofJson?_toJson {c : Chunk} (h : c.FitsWords) : ofJson? c.toJson = some c := by
  rw [ofJson?, toJson, Record.of?_ofFields]
  · simp [Record.get?, List.lookup, text?_ofText, word64?_ofNat h]
  · simp
  · simp

theorem isWritten_toJson (c : Chunk) : c.toJson.IsWritten :=
  isWritten_ofFields (by simp [isWritten_ofText, isWritten_ofNat])

end Chunk

namespace HostRule

def FitsWords (h : HostRule) : Prop := ∀ b ∈ h.bindings, b.FitsWords

theorem ofJson?_toJson {rule : HostRule} (h : rule.FitsWords) :
    ofJson? rule.toJson = some rule := by
  rw [ofJson?, toJson, Record.of?_ofFields]
  · simp [Record.get?, List.lookup, text?_ofText, list?_ofBindings h]
  · simp
  · simp

theorem isWritten_toJson (rule : HostRule) : rule.toJson.IsWritten :=
  isWritten_ofFields (by simp [isWritten_ofText, isWritten_ofBindings])

end HostRule

namespace Requirements

def FitsWords (r : Requirements) : Prop := ∀ rule ∈ r.host, rule.FitsWords

theorem ofJson?_toJson {r : Requirements} (h : r.FitsWords) : ofJson? r.toJson = some r := by
  have hdefaults : dict? text? (ofDict Json.ofText r.defaults) = some r.defaults :=
    dict?_ofDict _ fun e _ => text?_ofText e.2
  rw [ofJson?, toJson, Record.of?_ofFields]
  · have hhost : Record.nullable? ⟨[("methods", ofTexts r.methods), ("schemes", ofTexts r.schemes),
        ("host", r.host.elim .null HostRule.toJson),
        ("defaults", ofDict Json.ofText r.defaults)], false⟩ "host" HostRule.ofJson? =
          some r.host := by
      have hnull : ∀ rule : HostRule, rule.toJson ≠ .null := fun rule => by
        simp [HostRule.toJson, ofFields]
      refine Record.nullable?_eq ?_ hnull fun rule hrule => HostRule.ofJson?_toJson (h rule hrule)
      simp [List.lookup]
    simp [Record.get?, List.lookup, texts?_ofTexts, hdefaults, hhost]
  · simp
  · simp

theorem isWritten_toJson (r : Requirements) : r.toJson.IsWritten := by
  have hhost : (r.host.elim Json.null HostRule.toJson).IsWritten := by
    cases r.host with
    | none => trivial
    | some rule => exact rule.isWritten_toJson
  exact isWritten_ofFields (by simp [isWritten_ofTexts, hhost, isWritten_ofDict, isWritten_ofText])

end Requirements

namespace Data

/-- Whether all integers in the data are machine words. -/
structure FitsWords (d : Data) : Prop where
  staticPaths : ∀ e ∈ d.staticPaths.toList, ∀ id ∈ e.2, id < wordSize
  chunks      : ∀ c ∈ d.chunks, c.FitsWords
  leaves      : ∀ l ∈ d.leaves, l.FitsWords
  routes      : ∀ r ∈ d.routes, r.FitsWords
  sizeLimit   : d.sizeLimit < wordSize

/-- **Data are read from the value that they are written as.** -/
theorem ofJson?_toJson {d : Data} (h : d.FitsWords) : ofJson? d.toJson = some d := by
  have hstatic : dict? (list? word64?) (ofDict (ofList ofNat) d.staticPaths) = some d.staticPaths :=
    dict?_ofDict _ fun e he => list?_ofNats (h.staticPaths e he)
  have hchunks : list? Chunk.ofJson? (ofList Chunk.toJson d.chunks) = some d.chunks :=
    list?_ofList fun c hc => Chunk.ofJson?_toJson (h.chunks c hc)
  have hleaves : list? Leaf.ofJson? (ofList Leaf.toJson d.leaves) = some d.leaves :=
    list?_ofList fun l hl => Leaf.ofJson?_toJson (h.leaves l hl)
  have hroutes : list? Requirements.ofJson? (ofList Requirements.toJson d.routes) =
      some d.routes := list?_ofList fun r hr => Requirements.ofJson?_toJson (h.routes r hr)
  rw [ofJson?, toJson, Record.of?_ofFields]
  · simp [Record.get?, Record.getD?, List.lookup, hstatic, hchunks, hleaves, hroutes,
      word64?_ofNat h.sizeLimit]
  · simp
  · simp

theorem isWritten_toJson (d : Data) : d.toJson.IsWritten := by
  have hchunks := isWritten_ofList fun c (_ : c ∈ d.chunks) => c.isWritten_toJson
  have hleaves := isWritten_ofList fun l (_ : l ∈ d.leaves) => l.isWritten_toJson
  have hroutes := isWritten_ofList fun r (_ : r ∈ d.routes) => r.isWritten_toJson
  exact isWritten_ofFields (by
    simp [isWritten_ofDict, isWritten_ofNats, hchunks, hleaves, hroutes, isWritten_ofNat])

end Data

/-- **A matcher is built again from its text**: whatever its data are, what is read from the text is
the matcher itself, and so are the answers that it gives. -/
theorem ofText_toText [Regex.Engine] {d : Data} {m : Matcher} (hwords : d.FitsWords)
    (h : ofData d = .ok m) :
    ofText m.toText = .ok m := by
  have hdata := data_of_ofData h
  have hread : (parse? m.toText).bind Data.ofJson? = some d := by
    rw [toText, hdata, parse?_render d.isWritten_toJson, Option.bind_some,
      Data.ofJson?_toJson hwords]
  rw [ofText, hread]
  exact h

/-- The data of the sample. -/
theorem ofText_sample : Collection.sampleData.FitsWords ∧
    ∃ m, ofData Collection.sampleData = .ok m ∧ ofText m.toText = .ok m := by
  have hwords : Collection.sampleData.FitsWords := by
    refine ⟨by decide, ?_, ?_, ?_, by decide⟩
    · simp [Collection.sampleData, Chunk.FitsWords, wordSize]
    · intro l hl
      obtain rfl := List.mem_singleton.1 hl
      refine ⟨by decide, ?_, ?_, by decide⟩
      all_goals simp [Binding.FitsWords, wordSize]
    · simp [Collection.sampleData, Requirements.FitsWords]
  obtain ⟨m, hm⟩ : ∃ m, ofData Collection.sampleData = .ok m := ⟨_, rfl⟩
  exact ⟨hwords, m, hm, ofText_toText hwords hm⟩

end Matcher

end Signpost
