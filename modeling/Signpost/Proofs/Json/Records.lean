import Mathlib
import Signpost.Json.Record
import Signpost.Proofs.Json.RoundTrip

/-!
# JSON — records and what is in them

Numbers, lists, dictionaries and records are read back from the values that they are written as, if
what is in them is.

* `Json.isWord_toString`: a number is a word.
* `Json.word64?_ofNat`, `Json.list?_ofList`, `Json.dict?_ofDict`: what is read back.
* `Json.Record.of?_ofFields`: a record has the fields that it was written with.
-/

namespace Signpost

namespace Dict

variable {α : Type}

/-- A key that comes after all others is put at the end. -/
theorem place_of_lt {key : String} {value : α} {es : List (String × α)} (h : ∀ e ∈ es, e.1 < key) :
    place key value es = es ++ [(key, value)] := by
  induction es with
  | nil => rfl
  | cons e es ih =>
      obtain ⟨he, hes⟩ := List.forall_mem_cons.1 h
      have hnot : ¬ key < e.1 := fun hlt => String.lt_irrefl _ (String.lt_trans he hlt)
      have hne : key ≠ e.1 := fun heq => String.lt_irrefl _ (heq ▸ he)
      rw [place, if_neg hnot, if_neg hne, ih hes, List.cons_append]

theorem toList_insertAll (d : Dict α) {es : List (String × α)}
    (h : (d.toList ++ es).Pairwise fun a b => a.1 < b.1) :
    (d.insertAll es).toList = d.toList ++ es := by
  induction es generalizing d with
  | nil => exact (List.append_nil _).symm
  | cons e es ih =>
      have hlt : ∀ e' ∈ d.toList, e'.1 < e.1 := fun e' he' =>
        (List.pairwise_append.1 h).2.2 e' he' e List.mem_cons_self
      have hinsert : (d.insert e.1 e.2).toList = d.toList ++ [e] := place_of_lt hlt
      have hstep : (d.insertAll (e :: es)) = (d.insert e.1 e.2).insertAll es := rfl
      rw [hstep, ih, hinsert, List.append_assoc]
      · rfl
      · rwa [hinsert, List.append_assoc]

/-- A dictionary is read from its entries. -/
theorem ofList_toList (d : Dict α) : ofList d.toList = d := by
  have hlist : (ofList d.toList).toList = d.toList := toList_insertAll empty d.ascending
  obtain ⟨es, ascending⟩ := d
  unfold ofList at hlist ⊢
  cases hd : insertAll empty es with
  | mk es' ascending' =>
      rw [hd] at hlist
      obtain rfl : es' = es := hlist
      rfl

end Dict

namespace Json

/-! ### Numbers -/

theorem toList_toString (n : Nat) : (toString n).toList = Nat.toDigits 10 n :=
  String.toList_ofList

theorem isDigit_of_mem_toString {n : Nat} {c : Char} (h : c ∈ (toString n).toList) :
    c.isDigit = true := by
  rw [toList_toString] at h
  exact Nat.isDigit_of_mem_toDigits (by decide) (by decide) h

/-- A number does not begin with a zero unless it is one. -/
theorem head?_toDigits_ne {n : Nat} (h : 0 < n) : (Nat.toDigits 10 n).head? ≠ some '0' := by
  induction n using Nat.strongRecOn with
  | ind n ih =>
      by_cases hlt : n < 10
      · rw [Nat.toDigits_of_lt_base hlt]
        have hdigit : ∀ k < 10, 0 < k → [Nat.digitChar k].head? ≠ some '0' := by decide
        exact hdigit n hlt h
      · have hhigh := ih (n / 10) (by omega) (by omega)
        rw [Nat.toDigits_of_base_le (by decide) (Nat.le_of_not_lt hlt)]
        rwa [List.head?_append_of_ne_nil _ Nat.toDigits_ne_nil]

/-- Digits are a number, if a zero is followed by none. -/
theorem isNumber_of_digits {cs : List Char} (hne : cs ≠ []) (hdigits : ∀ c ∈ cs, c.isDigit = true)
    (hzero : cs.head? = some '0' → cs = ['0']) : isNumber cs = true := by
  obtain ⟨c, cs, rfl⟩ := List.exists_cons_of_ne_nil hne
  obtain ⟨hc, hcs⟩ := List.forall_mem_cons.1 hdigits
  have hminus : c ≠ '-' := by
    rintro rfl
    exact absurd hc (by decide)
  have hrest : isFraction (cs.dropWhile Char.isDigit) = true := by
    rw [List.dropWhile_eq_nil_iff.2 hcs]
    rfl
  by_cases heq : c = '0'
  · subst heq
    rw [hzero rfl]
    rfl
  · simp [isNumber, hminus, hc, hrest]

/-- **A number is a word.** -/
theorem isWord_toString (n : Nat) : IsWord (toString n) where
  nonempty := toList_toString n ▸ Nat.toDigits_ne_nil
  inside c hc := by
    have hdigit := isDigit_of_mem_toString hc
    cases hends : endsWord (some c) with
    | false => rfl
    | true =>
        simp only [endsWord, Option.all_some, isMark, isBlank, Bool.or_eq_true,
          decide_eq_true_eq] at hends
        -- six marks, four blanks and the quote
        rcases hends with
          ((((((rfl | rfl) | rfl) | rfl) | rfl) | rfl) | ((rfl | rfl) | rfl) | rfl) | rfl
        all_goals exact absurd hdigit (by decide)
  number := by
    have hnumber : isNumber (toString n).toList = true := by
      refine isNumber_of_digits (toList_toString n ▸ Nat.toDigits_ne_nil)
        (fun c => isDigit_of_mem_toString) fun hhead => ?_
      rw [toList_toString] at hhead ⊢
      rcases Nat.eq_zero_or_pos n with rfl | hpos
      · rfl
      · exact absurd hhead (head?_toDigits_ne hpos)
    -- no number is one of the three names
    have hname : ∀ name : String, ¬ name.toList.all Char.isDigit = true → toString n ≠ name := by
      rintro name hname rfl
      exact hname (List.all_eq_true.2 fun c => isDigit_of_mem_toString)
    unfold ofWord?
    split
    case h_1 heq => exact absurd heq (hname _ (by decide))
    case h_2 heq => exact absurd heq (hname _ (by decide))
    case h_3 heq => exact absurd heq (hname _ (by decide))
    case h_4 => exact if_pos hnumber

theorem word64?_ofNat {n : Nat} (h : n < wordSize) : word64? (.ofNat n) = some n := by
  have hdigits : (toString n).toList.all Char.isDigit = true :=
    List.all_eq_true.2 fun c hc => isDigit_of_mem_toString hc
  have hvalue : (toString n).toNat? = some n := Nat.toNat?_repr n
  rw [ofNat, word64?, if_pos hdigits, hvalue]
  simpa using h

theorem text?_ofText (text : String) : text? (ofText text) = some text := rfl

/-! ### Lists and dictionaries -/

section values

variable {α : Type} {read? : Json → Option α} {write : α → Json}

theorem mapM_eq_some {β γ : Type} {f : β → Option γ} {g : γ → β} {cs : List γ}
    (h : ∀ c ∈ cs, f (g c) = some c) : (cs.map g).mapM f = some cs := by
  induction cs with
  | nil => rfl
  | cons c cs ih =>
      obtain ⟨hc, hcs⟩ := List.forall_mem_cons.1 h
      rw [List.map_cons, List.mapM_cons, hc, ih hcs]
      rfl

theorem list?_ofList {as : List α} (h : ∀ a ∈ as, read? (write a) = some a) :
    list? read? (ofList write as) = some as :=
  mapM_eq_some h

theorem dict?_ofDict (d : Dict α) (h : ∀ e ∈ d.toList, read? (write e.2) = some e.2) :
    dict? read? (ofDict write d) = some d := by
  have hentries : ((d.toList.map fun e => (e.1, write e.2)).map
      fun f => (some f.1, f.2)).mapM (keyed? read?) = some d.toList := by
    rw [List.map_map]
    refine mapM_eq_some fun e he => ?_
    simp [keyed?, h e he]
  rw [ofDict, ofFields, dict?, hentries, Option.map_some, Dict.ofList_toList]

theorem isWritten_array {items : List Json} (h : ∀ j ∈ items, j.IsWritten) :
    (Json.array items).IsWritten := by
  induction items with
  | nil => trivial
  | cons j items ih =>
      obtain ⟨hj, hitems⟩ := List.forall_mem_cons.1 h
      exact ⟨hj, ih hitems⟩

theorem isWritten_ofList {as : List α} (h : ∀ a ∈ as, (write a).IsWritten) :
    (ofList write as).IsWritten :=
  isWritten_array (List.forall_mem_map.2 h)

theorem isWritten_ofNat (n : Nat) : (ofNat n).IsWritten := isWord_toString n

theorem isWritten_ofText (text : String) : (ofText text).IsWritten := trivial

theorem isWritten_ofFields {fields : List (String × Json)} (h : ∀ f ∈ fields, f.2.IsWritten) :
    (ofFields fields).IsWritten := by
  unfold ofFields
  induction fields with
  | nil => trivial
  | cons f fields ih =>
      obtain ⟨hf, hfields⟩ := List.forall_mem_cons.1 h
      exact ⟨hf, ih hfields⟩

theorem isWritten_ofDict (d : Dict α) (h : ∀ a, (write a).IsWritten) :
    (ofDict write d).IsWritten :=
  isWritten_ofFields (List.forall_mem_map.2 fun e _ => h e.2)

end values

/-! ### Records -/

namespace Record

/-- **A record has the fields that it was written with**, if they are known and distinct. -/
theorem of?_ofFields {names : List String} {fields : List (String × Json)}
    (hknown : ∀ f ∈ fields, names.contains f.1 = true) (hnodup : (fields.map Prod.fst).Nodup) :
    of? names (ofFields fields) = some ⟨fields, false⟩ := by
  have hentries : (fields.map fun f => (some f.1, f.2)).mapM
      (fun e : Option String × Json => e.1.map fun key => (key, e.2)) = some fields :=
    mapM_eq_some fun f _ => rfl
  have hfilter : fields.filter (fun e => names.contains e.1) = fields :=
    List.filter_eq_self.2 hknown
  simp only [ofFields, of?, hentries, bind, Option.bind, hfilter, if_pos hnodup]

/-- A field that may be null. -/
theorem nullable?_eq {α : Type} {read? : Json → Option α} {write : α → Json} {r : Record}
    {name : String} {a? : Option α} (hlookup : r.fields.lookup name = some (a?.elim .null write))
    (hnull : ∀ a, write a ≠ .null) (hread : ∀ a ∈ a?, read? (write a) = some a) :
    r.nullable? name read? = some a? := by
  unfold nullable?
  rw [hlookup]
  cases a? with
  | none => rfl
  | some a =>
      rw [Option.elim_some]
      split
      case h_1 hwrite => exact absurd (Option.some.inj hwrite) (hnull a)
      case h_2 j _ hwrite =>
        obtain rfl := Option.some.inj hwrite
        rw [hread a rfl]
        rfl
      case h_3 hwrite => cases hwrite

end Record

end Json

end Signpost
