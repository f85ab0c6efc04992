import Mathlib.Data.List.TakeWhile

/-!
# URLs — references, resolved

A client reads the URL that it is sent to as a reference to what it has asked for.  What the
reference leaves out, it takes over from there: the scheme if it names none, and the host too if it
does not begin with two slashes.  Segments of one or two dots are taken out of the path.

* `Address.Reference.ofText_path`: a path and a query are read as such, if the path begins with one
  slash.
* `Address.Reference.ofText_network`: a path that begins with two slashes names a host.
* `Address.withoutDots_eq`: a path without segments of dots stays as it is.
-/

namespace Signpost

/-- What a client asks for. -/
structure Address where
  scheme    : String
  authority : String
  path      : String
  query     : Option String := none
  deriving DecidableEq, Repr

namespace Address

/-- A reference to an address, taken apart; a fragment is dropped. -/
structure Reference where
  scheme    : Option String := none
  authority : Option String := none
  path      : String
  query     : Option String := none
  deriving DecidableEq, Repr

/-- Whether a character ends an authority. -/
def isDelimiter (c : Char) : Bool := c = '/' || c = '?' || c = '#'

namespace Reference

/-- The scheme in front of a colon, and what follows it. -/
def scheme? (text : List Char) : Option (List Char) × List Char :=
  match text.dropWhile fun c => !isDelimiter c && c != ':' with
  | ':' :: rest =>
    match text.takeWhile fun c => !isDelimiter c && c != ':' with
    | []     => (none, text)
    | scheme => (some scheme, rest)
  | _           => (none, text)

/-- The authority after two slashes, and what follows it. -/
def authority? : List Char → Option (List Char) × List Char
  | '/' :: '/' :: rest => (some (rest.takeWhile (!isDelimiter ·)), rest.dropWhile (!isDelimiter ·))
  | text               => (none, text)

/-- A path and the query after its first question mark. -/
def ofTail (scheme authority : Option (List Char)) (text : List Char) : Reference where
  scheme    := scheme.map String.ofList
  authority := authority.map String.ofList
  path      := String.ofList (text.takeWhile (· != '?'))
  query     := match text.dropWhile (· != '?') with
    | '?' :: query => some (String.ofList query)
    | _            => none

def ofText (text : String) : Reference :=
  let (scheme, text) := scheme? (text.toList.takeWhile (· != '#'))
  let (authority, text) := authority? text
  ofTail scheme authority text

end Reference

/-- Takes the segments of one dot out of a path, and each of two dots with the one before it.
The segments that stay so far are in `kept`, the last one first. -/
def settle (kept : List (List Char)) : List (List Char) → List (List Char)
  | []      => kept.reverse
  | s :: ss =>
    -- a path that ends in dots ends in a slash without them
    let leave (kept : List (List Char)) := if ss.isEmpty then [] :: kept else kept
    if s = ['.'] then settle (leave kept) ss
    else if s = ['.', '.'] then settle (leave kept.tail) ss
    else settle (s :: kept) ss

def segments (path : String) : List (List Char) := List.splitOn '/' path.toList

/-- Whether a segment is left out of a path. -/
def isDots (segment : List Char) : Bool := segment = ['.'] || segment = ['.', '.']

/-- A path without its segments of dots; one that does not begin with a slash is left alone. -/
def withoutDots (path : String) : String :=
  match segments path with
  | [] :: ss => String.ofList (['/'].intercalate ([] :: settle [] ss))
  | _        => path

/-- The path of a reference that begins with no slash, after that of an address. -/
def mergePath (base path : String) : String :=
  if base = "" then "/" ++ path
  else String.ofList (['/'].intercalate ((segments base).dropLast ++ [path.toList]))

/-- What a client asks for that has asked for an address and gets a reference. -/
def resolve (a : Address) (r : Reference) : Address :=
  match r.scheme, r.authority with
  | some scheme, authority => ⟨scheme, authority.getD "", withoutDots r.path, r.query⟩
  | none, some authority   => ⟨a.scheme, authority, withoutDots r.path, r.query⟩
  | none, none             =>
    if r.path = "" then { a with query := r.query.or a.query }
    else if r.path.toList.head? = some '/' then
      { a with path := withoutDots r.path, query := r.query }
    else { a with path := withoutDots (mergePath a.path r.path), query := r.query }

/-! ### Paths without dots -/

theorem segments_append_slash (path : String) : segments (path ++ "/") = segments path ++ [[]] := by
  rw [segments, String.toList_append]
  exact List.splitOn_append_cons_self path.toList []

theorem settle_eq {ss : List (List Char)} (h : ∀ s ∈ ss, isDots s = false)
    (kept : List (List Char)) : settle kept ss = kept.reverse ++ ss := by
  induction ss generalizing kept with
  | nil => exact (List.append_nil _).symm
  | cons s ss ih =>
      obtain ⟨hs, hss⟩ := List.forall_mem_cons.1 h
      obtain ⟨hone, htwo⟩ := Bool.or_eq_false_iff.1 hs
      rw [settle, if_neg (of_decide_eq_false hone), if_neg (of_decide_eq_false htwo), ih hss,
        List.reverse_cons, List.append_assoc]
      rfl

/-- A path without segments of dots stays as it is. -/
theorem withoutDots_eq {path : String} (h : ∀ s ∈ segments path, isDots s = false) :
    withoutDots path = path := by
  rw [withoutDots]
  split
  next ss hsegments =>
    rw [hsegments] at h
    rw [settle_eq (List.forall_mem_cons.1 h).2, List.reverse_nil, List.nil_append, ← hsegments,
      segments, List.intercalate_splitOn, String.ofList_toList]
  next => rfl

/-! ### References that are a path and a query -/

/-- What a query adds to a path. -/
def queryText (query : Option String) : String := query.elim "" ("?" ++ ·)

/-- Whether a path and a query can stand in a reference as they are. -/
structure AreWritable (path : String) (query : Option String) : Prop where
  path  : ∀ c ∈ path.toList, c ≠ '?' ∧ c ≠ '#'
  query : ∀ q, query = some q → '#' ∉ q.toList

namespace Reference

variable {path : String} {query : Option String} {rest : List Char}

theorem queryText_cases (query : Option String) : (queryText query).toList = [] ∨
    ∃ q, query = some q ∧ (queryText query).toList = '?' :: q.toList := by
  cases query with
  | none => exact .inl rfl
  | some q => exact .inr ⟨q, rfl, String.toList_append⟩

theorem ofTail_append (scheme authority : Option (List Char)) {text : List Char}
    (h : '?' ∉ text) (query : Option String) :
    ofTail scheme authority (text ++ (queryText query).toList) =
      ⟨scheme.map String.ofList, authority.map String.ofList, String.ofList text, query⟩ := by
  have hall : ∀ c ∈ text, (c != '?') = true := fun c hc => bne_iff_ne.2 fun heq => h (heq ▸ hc)
  rw [ofTail, List.takeWhile_append_of_pos hall, List.dropWhile_append_of_pos hall]
  rcases queryText_cases query with hnil | ⟨q, rfl, hq⟩
  · cases query with
    | none => simp [hnil]
    | some q => simp [queryText] at hnil
  · simp [hq]

theorem takeWhile_append_queryText {text : List Char} :
    (text ++ (queryText query).toList).takeWhile (!isDelimiter ·) =
      text.takeWhile (!isDelimiter ·) := by
  have hquery : (queryText query).toList.takeWhile (!isDelimiter ·) = [] := by
    rcases queryText_cases query with hnil | ⟨q, -, hq⟩
    · rw [hnil]
      rfl
    · rw [hq]
      rfl
  rw [List.takeWhile_append]
  split
  next hall =>
    rw [hquery, List.append_nil]
    exact ((List.takeWhile_prefix _).eq_of_length hall).symm
  next => rfl

theorem dropWhile_append_queryText {text : List Char} :
    (text ++ (queryText query).toList).dropWhile (!isDelimiter ·) =
      text.dropWhile (!isDelimiter ·) ++ (queryText query).toList := by
  rw [← List.append_right_inj (text.takeWhile (!isDelimiter ·)), ← List.append_assoc,
    List.takeWhile_append_dropWhile, ← takeWhile_append_queryText,
    List.takeWhile_append_dropWhile]

/-- A reference that begins with a slash has no scheme. -/
theorem ofText_slash (h : AreWritable (String.ofList ('/' :: rest)) query) :
    ofText (String.ofList ('/' :: rest) ++ queryText query) =
      ofTail none (authority? ('/' :: rest ++ (queryText query).toList)).1
        (authority? ('/' :: rest ++ (queryText query).toList)).2 := by
  have hpath : ∀ c ∈ '/' :: rest, (c != '#') = true := fun c hc =>
    bne_iff_ne.2 (h.path c (by rwa [String.toList_ofList])).2
  have hquery : ∀ c ∈ (queryText query).toList, (c != '#') = true := by
    rcases queryText_cases query with hnil | ⟨q, hq, htext⟩
    · simp [hnil]
    · intro c hc
      rw [htext] at hc
      rcases List.mem_cons.1 hc with rfl | hc
      · rfl
      · exact bne_iff_ne.2 fun heq => h.query q hq (heq ▸ hc)
  have hnone : (String.ofList ('/' :: rest) ++ queryText query).toList.takeWhile (· != '#') =
      '/' :: rest ++ (queryText query).toList := by
    rw [String.toList_append, String.toList_ofList, List.takeWhile_append_of_pos hpath,
      List.takeWhile_eq_self_iff.2 hquery]
  rw [ofText, hnone]
  rfl

/-- **A path and a query** are read as such if the path begins with one slash. -/
theorem ofText_path (h : AreWritable (String.ofList ('/' :: rest)) query)
    (hone : rest.head? ≠ some '/') :
    ofText (String.ofList ('/' :: rest) ++ queryText query) =
      { path := String.ofList ('/' :: rest), query } := by
  have hauthority : authority? ('/' :: rest ++ (queryText query).toList) =
      (none, '/' :: rest ++ (queryText query).toList) := by
    rw [List.cons_append, authority?]
    rintro rest' heq
    have hhead : (rest ++ (queryText query).toList).head? = some '/' := by
      rw [(List.cons.inj heq).2]
      rfl
    rw [List.head?_append, Option.or_eq_some_iff] at hhead
    rcases hhead with hhead | ⟨-, hhead⟩
    · exact hone hhead
    · rcases queryText_cases query with hnil | ⟨q, -, hq⟩
      · simp [hnil] at hhead
      · simp [hq] at hhead
  have hmark : '?' ∉ '/' :: rest := fun hmem =>
    (h.path '?' (by rwa [String.toList_ofList])).1 rfl
  rw [ofText_slash h, hauthority]
  exact ofTail_append none none hmark query

/-- **A path that begins with two slashes** names a host. -/
theorem ofText_network (h : AreWritable (String.ofList ('/' :: '/' :: rest)) query) :
    ofText (String.ofList ('/' :: '/' :: rest) ++ queryText query) =
      { authority := some (String.ofList (rest.takeWhile (!isDelimiter ·)))
        path := String.ofList (rest.dropWhile (!isDelimiter ·)), query } := by
  have hauthority : authority? ('/' :: '/' :: rest ++ (queryText query).toList) =
      (some (rest.takeWhile (!isDelimiter ·)),
        rest.dropWhile (!isDelimiter ·) ++ (queryText query).toList) := by
    rw [List.cons_append, List.cons_append, authority?, takeWhile_append_queryText,
      dropWhile_append_queryText]
  have hmark : '?' ∉ rest.dropWhile (!isDelimiter ·) := fun hmem =>
    (h.path '?' (by
      rw [String.toList_ofList]
      exact .tail _ (.tail _ ((List.dropWhile_suffix _).mem hmem)))).1 rfl
  rw [ofText_slash h, hauthority]
  exact ofTail_append none _ hmark query

end Reference

end Address

end Signpost
