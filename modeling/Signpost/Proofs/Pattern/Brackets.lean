import Signpost.Proofs.Pattern.Bodies

/-!
# Patterns — brackets in front of a default

A constraint ends at the first equals sign behind which no brackets are open.  The brackets are
counted character by character (`openBehind?`), while an expression is read piece by piece.  A
reader that goes from one place of the text to another changes the count in a known way, whatever it
reads, except for the comments that it passes (`Counts`); and if the comments are free of brackets
(`isQuiet`), the characters between the two places add up to just that (`Counts.passes`).

* `splitDefault_append`: the split goes through a text in which no equals sign is free.
* `Counts.passes`: what a reader counts, the split counts.
-/

namespace Signpost

/-- The characters that make a difference to where a constraint ends. -/
def marks : List Char := ['(', ')', '[', ']', '{', '}', '\\', '=']

theorem not_mem_marks {p : Char → Bool} (hmarks : marks.all (fun c => !p c) = true) {c : Char}
    (h : p c = true) : c ∉ marks := by
  intro hc
  have hnot := List.all_eq_true.1 hmarks c hc
  rw [h] at hnot
  cases hnot

/-! ### The count -/

/-- How many brackets are open behind a text, unless an equals sign is free in it or its last
character is a backslash that has nothing to escape. -/
def openBehind? : (depth : Nat) → List Char → Option Nat
  | depth, []              => some depth
  | depth, '\\' :: _ :: cs => openBehind? depth cs
  | depth, c :: cs         =>
    if c = '\\' ∨ (c = '=' ∧ depth = 0) then none else openBehind? (depthBehind depth c) cs

section count

variable {depth d : Nat} {c : Char} {s t : List Char}

theorem openBehind?_escaped (depth : Nat) (c : Char) (s : List Char) :
    openBehind? depth ('\\' :: c :: s) = openBehind? depth s := by
  rw [openBehind?]

theorem openBehind?_cons (hc : c ≠ '\\') (s : List Char) : openBehind? depth (c :: s) =
    if c = '=' ∧ depth = 0 then none else openBehind? (depthBehind depth c) s := by
  rw [openBehind?]
  · simp [hc]
  · exact fun _ _ heq => absurd heq hc

/-- The split goes through a text in which no equals sign is free. -/
theorem splitDefault_append (h : openBehind? depth s = some d) (t : List Char) :
    splitDefault depth (s ++ t) = (s ++ (splitDefault d t).1, (splitDefault d t).2) := by
  induction depth, s using openBehind?.induct generalizing d with
  | case1 depth =>
      obtain rfl := Option.some.inj h
      rfl
  | case2 depth c s ih =>
      rw [openBehind?_escaped] at h
      rw [List.cons_append, List.cons_append, splitDefault_escaped, ih h]
      rfl
  | case3 depth c s hs hstop =>
      rw [openBehind?, if_pos hstop] at h
      · cases h
      · exact hs
  | case4 depth c s hs hstop ih =>
      rw [openBehind?, if_neg hstop] at h
      · obtain ⟨hbackslash, hfree⟩ := not_or.1 hstop
        rw [List.cons_append, splitDefault_cons (fun _ _ heq => absurd heq hbackslash) hfree, ih h]
        rfl
      · exact hs

theorem openBehind?_append (h : openBehind? depth s = some d) (t : List Char) :
    openBehind? depth (s ++ t) = openBehind? d t := by
  induction depth, s using openBehind?.induct generalizing d with
  | case1 depth =>
      obtain rfl := Option.some.inj h
      rfl
  | case2 depth c s ih =>
      rw [openBehind?_escaped] at h
      rw [List.cons_append, List.cons_append, openBehind?_escaped, ih h]
  | case3 depth c s hs hstop =>
      rw [openBehind?, if_pos hstop] at h
      · cases h
      · exact hs
  | case4 depth c s hs hstop ih =>
      rw [openBehind?, if_neg hstop] at h
      · obtain ⟨hbackslash, hfree⟩ := not_or.1 hstop
        rw [List.cons_append, openBehind?_cons hbackslash, if_neg hfree, ih h]
      · exact hs

theorem depthBehind_of_not_mem_marks (hc : c ∉ marks) : depthBehind depth c = depth := by
  simp only [marks, List.mem_cons, List.not_mem_nil, or_false, not_or] at hc
  simp [depthBehind, hc]

/-- What has no marks changes nothing. -/
theorem openBehind?_of_plain (h : ∀ c ∈ s, c ∉ marks) : openBehind? depth s = some depth := by
  induction s with
  | nil => rfl
  | cons c s ih =>
      obtain ⟨hc, hs⟩ := List.forall_mem_cons.1 h
      have hbackslash : c ≠ '\\' := fun heq => hc (heq ▸ by decide)
      have hequals : c ≠ '=' := fun heq => hc (heq ▸ by decide)
      rw [openBehind?_cons hbackslash, if_neg (fun heq => hequals heq.1),
        depthBehind_of_not_mem_marks hc, ih hs]

end count

/-! ### The text between two places -/

/-- Whether what has been taken of `cs`, when `rest` is left of it, satisfies `P`. -/
def Taken (P : List Char → Prop) (cs rest : List Char) : Prop :=
  ∃ taken, cs = taken ++ rest ∧ P taken

instance (P : List Char → Prop) [DecidablePred P] (cs rest : List Char) :
    Decidable (Taken P cs rest) :=
  decidable_of_iff (cs = cs.take (cs.length - rest.length) ++ rest ∧
      P (cs.take (cs.length - rest.length))) <| by
    constructor
    · rintro ⟨hcs, h⟩
      exact ⟨_, hcs, h⟩
    · rintro ⟨taken, rfl, h⟩
      simpa using h

/-- Whether `d` brackets are open where `rest` is left, if `depth` are where `cs` is. -/
def Passes (depth d : Nat) : (cs rest : List Char) → Prop := Taken (openBehind? depth · = some d)

instance (depth d : Nat) (cs rest : List Char) : Decidable (Passes depth d cs rest) := by
  unfold Passes
  infer_instance

theorem Passes.trans {a b c : Nat} {cs rest left : List Char} (h₁ : Passes a b cs rest)
    (h₂ : Passes b c rest left) : Passes a c cs left := by
  obtain ⟨s, rfl, hs⟩ := h₁
  obtain ⟨t, rfl, ht⟩ := h₂
  exact ⟨s ++ t, (List.append_assoc ..).symm, (openBehind?_append hs t).trans ht⟩

/-- Whether there are no marks behind a number sign in its line. -/
def isQuiet : List Char → Bool
  | []              => true
  | '\\' :: _ :: cs => isQuiet cs
  | c :: cs         =>
    (c != '#' || (cs.takeWhile (· != '\n')).all (!marks.contains ·)) && isQuiet cs

theorem isQuiet_cons {c : Char} (hc : c ≠ '\\') (cs : List Char) : isQuiet (c :: cs) =
    ((c != '#' || (cs.takeWhile (· != '\n')).all (!marks.contains ·)) && isQuiet cs) := by
  rw [isQuiet]
  exact fun _ _ heq => absurd heq hc

theorem isQuiet_of_plain_append {s t : List Char} (h : ∀ c ∈ s, c ∉ marks)
    (hquiet : isQuiet (s ++ t) = true) : isQuiet t = true := by
  induction s with
  | nil => exact hquiet
  | cons c s ih =>
      obtain ⟨hc, hs⟩ := List.forall_mem_cons.1 h
      have hbackslash : c ≠ '\\' := fun heq => hc (heq ▸ by decide)
      rw [List.cons_append, isQuiet_cons hbackslash, Bool.and_eq_true] at hquiet
      exact ih hs hquiet.2

/-- A comment in a quiet text has no marks, and the text behind it is quiet. -/
theorem plain_of_isQuiet_comment {line t : List Char} (hline : ∀ c ∈ line, (c != '\n') = true)
    (hquiet : isQuiet ('#' :: (line ++ t)) = true) :
    (∀ c ∈ line, c ∉ marks) ∧ isQuiet t = true := by
  rw [isQuiet_cons (by decide), Bool.and_eq_true, List.takeWhile_append_of_pos hline] at hquiet
  obtain ⟨hall, hrest⟩ := hquiet
  simp only [bne_self_eq_false, Bool.false_or, List.all_append, Bool.and_eq_true,
    List.all_eq_true, Bool.not_eq_true', List.contains_eq_mem, decide_eq_false_iff_not] at hall
  exact ⟨hall.1, isQuiet_of_plain_append hall.1 hrest⟩

/-- How the count changes where a reader takes a text: it passes single characters, escapes and, in
a verbose expression, comments. -/
inductive Counts (verbose : Bool) : (depth d : Nat) → (cs rest : List Char) → Prop
  | done (depth : Nat) (cs : List Char) : Counts verbose depth depth cs cs
  | one {depth d : Nat} {c : Char} {cs rest : List Char} (backslash : c ≠ '\\')
      (free : ¬ (c = '=' ∧ depth = 0)) (next : Counts verbose (depthBehind depth c) d cs rest) :
      Counts verbose depth d (c :: cs) rest
  | escaped {depth d : Nat} {c : Char} {cs rest : List Char}
      (next : Counts verbose depth d cs rest) :
      Counts verbose depth d ('\\' :: c :: cs) rest
  | comment {depth d : Nat} {cs rest : List Char} (isVerbose : verbose = true)
      (next : Counts verbose depth d (cs.dropWhile (· != '\n')) rest) :
      Counts verbose depth d ('#' :: cs) rest

namespace Counts

variable {verbose : Bool} {depth d e : Nat} {c : Char} {cs rest left : List Char}

theorem trans (h₁ : Counts verbose depth d cs rest) (h₂ : Counts verbose d e rest left) :
    Counts verbose depth e cs left := by
  induction h₁ with
  | done => exact h₂
  | one hbackslash hfree _ ih => exact .one hbackslash hfree (ih h₂)
  | escaped _ ih => exact .escaped (ih h₂)
  | comment hverbose _ ih => exact .comment hverbose (ih h₂)

/-- A character without a meaning for the count. -/
theorem plain (hc : c ∉ marks) (h : Counts verbose depth d cs rest) :
    Counts verbose depth d (c :: cs) rest := by
  refine .one (fun heq => hc (heq ▸ by decide)) (fun heq => hc (heq.1 ▸ by decide)) ?_
  rwa [depthBehind_of_not_mem_marks hc]

/-- In brackets, an equals sign has no meaning for it either. -/
theorem nested (hc : c ∉ marks ∨ c = '=' ∧ 0 < depth) (h : Counts verbose depth d cs rest) :
    Counts verbose depth d (c :: cs) rest := by
  rcases hc with hc | ⟨rfl, hdepth⟩
  · exact .plain hc h
  · exact .one (by decide) (fun hfree => Nat.ne_of_gt hdepth hfree.2) h

theorem opens (hc : c ∈ ['(', '[', '{']) (h : Counts verbose (depth + 1) d cs rest) :
    Counts verbose depth d (c :: cs) rest := by
  simp only [List.mem_cons, List.not_mem_nil, or_false] at hc
  obtain rfl | rfl | rfl := hc <;> exact .one (by decide) (by simp) h

theorem closes (hc : c ∈ [')', ']', '}']) (h : Counts verbose depth d cs rest) :
    Counts verbose (depth + 1) d (c :: cs) rest := by
  simp only [List.mem_cons, List.not_mem_nil, or_false] at hc
  obtain rfl | rfl | rfl := hc <;> exact .one (by decide) (by simp) h

theorem plains {taken : List Char} (h : ∀ c ∈ taken, c ∉ marks) :
    Counts verbose depth depth (taken ++ rest) rest := by
  induction taken with
  | nil => exact .done ..
  | cons c taken ih =>
      obtain ⟨hc, htaken⟩ := List.forall_mem_cons.1 h
      exact .plain hc (ih htaken)

/-- What is between two places is counted alike, if there are no marks in its comments. -/
theorem exists_taken (h : Counts verbose depth d cs rest) : ∃ taken, cs = taken ++ rest ∧
    ((verbose = true → isQuiet taken = true) → openBehind? depth taken = some d) := by
  induction h with
  | done depth cs => exact ⟨[], rfl, fun _ => rfl⟩
  | @one depth d c cs rest hbackslash hfree _ ih =>
      obtain ⟨taken, rfl, hcount⟩ := ih
      refine ⟨c :: taken, rfl, fun hquiet => ?_⟩
      rw [openBehind?_cons hbackslash, if_neg hfree]
      refine hcount fun hverbose => ?_
      have hboth := hquiet hverbose
      rw [isQuiet_cons hbackslash, Bool.and_eq_true] at hboth
      exact hboth.2
  | @escaped depth d c cs rest _ ih =>
      obtain ⟨taken, rfl, hcount⟩ := ih
      refine ⟨'\\' :: c :: taken, rfl, fun hquiet => ?_⟩
      rw [openBehind?_escaped]
      exact hcount fun hverbose => by simpa [isQuiet] using hquiet hverbose
  | @comment depth d cs rest hverbose _ ih =>
      obtain ⟨taken, htaken, hcount⟩ := ih
      have hline : cs = cs.takeWhile (· != '\n') ++ (taken ++ rest) := by
        rw [← htaken, List.takeWhile_append_dropWhile]
      refine ⟨'#' :: (cs.takeWhile (· != '\n') ++ taken), by simp [← hline], fun hquiet => ?_⟩
      obtain ⟨hplain, hrest⟩ := plain_of_isQuiet_comment
        (List.all_eq_true.1 List.all_takeWhile) (hquiet hverbose)
      rw [openBehind?_cons (by decide), if_neg (by simp),
        depthBehind_of_not_mem_marks (by decide), openBehind?_append (openBehind?_of_plain hplain)]
      exact hcount fun _ => hrest

/-- **What a reader counts, the split counts**, if there are no marks in the comments. -/
theorem passes (h : Counts verbose depth d cs rest)
    (hquiet : verbose = true → Taken (isQuiet · = true) cs rest) : Passes depth d cs rest := by
  obtain ⟨taken, rfl, hcount⟩ := h.exists_taken
  refine ⟨taken, rfl, hcount fun hverbose => ?_⟩
  obtain ⟨taken', heq, htaken⟩ := hquiet hverbose
  rwa [List.append_cancel_right heq]

end Counts

end Signpost
