import ObjectTransfer.Proofs.Link.BucketPaths

/-!
# Canonical queries are read back

The items of a query stand between its ampersands, and an item is a name and a
value with an equals sign between them.  Escaped texts hold neither of these
signs, so cutting a canonical query gives the escaped names and values, and
reading their escapes gives the names and values themselves.

Nothing in a canonical query has to be escaped in a URL, which therefore carries
it as it is: it holds unreserved characters and whole escapes besides the signs
that divide it.
-/

set_option autoImplicit false

namespace ObjectTransfer.BucketLinks

/-! ## Characters -/

def isEscapeCharacter (c : Char) : Bool := Percent.isPlain Percent.isUnreserved c || c == '%'

theorem isEscapeCharacter_of_mem (text : List Char) :
    ∀ c ∈ escape text, isEscapeCharacter c = true := by
  refine Percent.forall_mem_encode (forall_octet ?_) (by decide) ?_ text
  · decide +kernel
  · decide +kernel

theorem not_mem_escape (text : List Char) (c : Char) (foreign : isEscapeCharacter c = false) :
    c ∉ escape text := by
  intro inside
  rw [isEscapeCharacter_of_mem text c inside] at foreign
  cases foreign

/-! ## Items -/

def pairText (pair : Parameter) : List Char := pair.1.toList ++ '=' :: pair.2.toList

/-- Name and value in front of and behind the first equals sign; without one the value is empty. -/
def cutPair (item : List Char) : Parameter :=
  let (name, value) := (Text.cut? '=' item).getD (item, [])
  (String.ofList name, String.ofList value)

/-- The pairs of a query as they are written; an empty query has none. -/
def writtenPairs (query : List Char) : List Parameter :=
  if query.isEmpty then [] else (Text.split '&' query).map cutPair

/-- The signs that divide a query stand only where they divide this pair. -/
structure IsClean (pair : Parameter) : Prop where
  equals : '=' ∉ pair.1.toList
  name : '&' ∉ pair.1.toList
  value : '&' ∉ pair.2.toList

theorem cutPair_pairText (pair : Parameter) (clean : IsClean pair) :
    cutPair (pairText pair) = pair := by
  rw [cutPair, pairText, Text.cut_append _ _ _ clean.equals]
  simp

theorem ampersand_not_mem_pairText (pair : Parameter) (clean : IsClean pair) :
    '&' ∉ pairText pair := by
  simp [pairText, clean.name, clean.value]

theorem split_join_pairText (pairs : List Parameter) (some_pair : pairs ≠ [])
    (clean : ∀ pair ∈ pairs, IsClean pair) :
    Text.split '&' (Text.join '&' (pairs.map pairText)) = pairs.map pairText := by
  refine Text.split_join '&' _ (by simpa using some_pair) fun item inside => ?_
  obtain ⟨pair, member, rfl⟩ := List.mem_map.mp inside
  exact ampersand_not_mem_pairText pair (clean pair member)

theorem writtenPairs_join (pairs : List Parameter) (clean : ∀ pair ∈ pairs, IsClean pair) :
    writtenPairs (Text.join '&' (pairs.map pairText)) = pairs := by
  cases pairs with
  | nil => rfl
  | cons pair more =>
    have divided := split_join_pairText (pair :: more) (List.cons_ne_nil pair more) clean
    have written : Text.join '&' ((pair :: more).map pairText) ≠ [] := by
      intro nothing
      rw [nothing] at divided
      have first := (List.cons.inj divided).1
      simp [pairText] at first
    rw [writtenPairs, if_neg (by simpa using written), divided, List.map_map]
    calc (pair :: more).map (cutPair ∘ pairText)
        = (pair :: more).map id :=
          List.map_congr_left fun other inside => cutPair_pairText other (clean other inside)
      _ = pair :: more := List.map_id _

/-! ## Escaped pairs -/

def escaped (pair : Parameter) : Parameter :=
  (String.ofList (escape pair.1.toList), String.ofList (escape pair.2.toList))

theorem escapePair_eq (pair : Parameter) : escapePair pair = pairText (escaped pair) := by
  simp [escapePair, pairText, escaped]

theorem isClean_escaped (pair : Parameter) : IsClean (escaped pair) := by
  have absent := fun text => not_mem_escape text '&' (by decide)
  refine ⟨?_, ?_, ?_⟩ <;> rw [escaped, String.toList_ofList]
  · exact not_mem_escape _ '=' (by decide)
  · exact absent _
  · exact absent _

theorem canonicalQuery_eq (pairs : List Parameter) :
    canonicalQuery pairs = Text.join '&' ((pairs.map escaped).map pairText) := by
  rw [canonicalQuery, List.map_map]
  exact congrArg _ (List.map_congr_left fun pair _ => escapePair_eq pair)

theorem isClean_of_mem_map (pairs : List Parameter) :
    ∀ pair ∈ pairs.map escaped, IsClean pair := by
  intro pair inside
  obtain ⟨other, _, rfl⟩ := List.mem_map.mp inside
  exact isClean_escaped other

theorem writtenPairs_canonicalQuery (pairs : List Parameter) :
    writtenPairs (canonicalQuery pairs) = pairs.map escaped := by
  rw [canonicalQuery_eq, writtenPairs_join _ (isClean_of_mem_map pairs)]

/-! ## Reading -/

def readText? (text : String) : Option String :=
  Utf8.decode? (Percent.decode (Utf8.encode text))

def readPair? (pair : Parameter) : Option Parameter := do
  return (← readText? pair.1, ← readText? pair.2)

/-- The pairs that a query stands for, if all of them can be read. -/
def readQuery? (query : List Char) : Option (List Parameter) :=
  (writtenPairs query).mapM readPair?

theorem readPair?_escaped (pair : Parameter) : readPair? (escaped pair) = some pair := by
  have half : ∀ text : String, readText? (String.ofList (escape text.toList)) = some text := by
    intro text
    rw [readText?, Utf8.encode, String.toList_ofList]
    exact decode?_escape text
  simp [readPair?, escaped, half]

theorem readQuery?_canonicalQuery (pairs : List Parameter) :
    readQuery? (canonicalQuery pairs) = some pairs := by
  rw [readQuery?, writtenPairs_canonicalQuery]
  induction pairs with
  | nil => rfl
  | cons pair more ih => simp [readPair?_escaped, ih]

/-! ## In a URL -/

theorem isPlain_of_isEscapeCharacter (special : Bool) (c : Char)
    (fine : isEscapeCharacter c = true) : Percent.isPlain (Url.isPlainInQuery special) c = true := by
  have stands : ∀ octet, Percent.isUnreserved octet = true →
      Url.isPlainInQuery special octet = true := by
    cases special
    · exact forall_octet (by decide +kernel)
    · exact forall_octet (by decide +kernel)
  rcases Bool.or_eq_true_iff.mp fine with unreserved | sign
  · obtain ⟨ascii, plain⟩ := Bool.and_eq_true_iff.mp unreserved
    exact Bool.and_eq_true_iff.mpr ⟨ascii, stands _ plain⟩
  · rw [eq_of_beq sign]
    cases special <;> decide

/-- A URL carries a canonical query as it is. -/
theorem withQuery_canonicalQuery (url : Url) (pairs : List Parameter) :
    url.withQuery (some (canonicalQuery pairs)) =
      { url with query := some (canonicalQuery pairs) } := by
  have divides : ∀ c, c = '&' ∨ c = '=' →
      Percent.isPlain (Url.isPlainInQuery url.special) c = true := by
    rintro _ (rfl | rfl) <;> cases url.special <;> decide
  have plain : ∀ c ∈ canonicalQuery pairs,
      Percent.isPlain (Url.isPlainInQuery url.special) c = true := by
    intro c inside
    rcases Text.mem_join '&' c _ inside with same | ⟨item, member, found⟩
    · exact divides c (.inl same)
    · obtain ⟨pair, _, rfl⟩ := List.mem_map.mp member
      rcases List.mem_append.mp found with name | behind
      · exact isPlain_of_isEscapeCharacter _ c (isEscapeCharacter_of_mem _ c name)
      · rcases List.mem_cons.mp behind with same | value
        · exact divides c (.inr same)
        · exact isPlain_of_isEscapeCharacter _ c (isEscapeCharacter_of_mem _ c value)
  simp only [Url.withQuery, Option.map_some, Percent.encode_of_isPlain _ _ plain]

/-! ## What a canonical query is made of -/

def isQueryCharacter (c : Char) : Bool :=
  c.isAlphanum || ['-', '_', '.', '~', '=', '&'].contains c

theorem isWritten_escape (text : List Char) :
    Percent.IsWritten (isQueryCharacter · = true) (escape text) :=
  Percent.isWritten_encode (forall_octet (by decide +kernel)) text

theorem isWritten_canonicalQuery (pairs : List Parameter) :
    Percent.IsWritten (isQueryCharacter · = true) (canonicalQuery pairs) := by
  refine .join (by decide) fun item inside => ?_
  obtain ⟨pair, -, rfl⟩ := List.mem_map.mp inside
  exact (isWritten_escape _).append (.itself (by decide) (isWritten_escape _))

theorem canonicalQuery_inj {pairs others : List Parameter} :
    canonicalQuery pairs = canonicalQuery others ↔ pairs = others := by
  constructor
  · intro same
    have read := readQuery?_canonicalQuery pairs
    rw [same, readQuery?_canonicalQuery] at read
    exact (Option.some.inj read).symm
  · rintro rfl
    rfl

theorem canonicalQuery_eq_nil_iff (pairs : List Parameter) :
    canonicalQuery pairs = [] ↔ pairs = [] := by
  have nothing : canonicalQuery [] = [] := rfl
  rw [← nothing, canonicalQuery_inj]

/-- Cutting a canonical query and reading its escapes gives its pairs, whatever texts they hold, so
different pairs have different queries.  There is nothing in it but unreserved characters, escapes
and the signs that divide it, and a URL takes it on as it is. -/
theorem canonicalQuery_legible (pairs : List Parameter) :
    readQuery? (canonicalQuery pairs) = some pairs ∧
      Percent.IsWritten (isQueryCharacter · = true) (canonicalQuery pairs) ∧
      (∀ others, canonicalQuery pairs = canonicalQuery others ↔ pairs = others) ∧
      ∀ url : Url, url.withQuery (some (canonicalQuery pairs)) =
        { url with query := some (canonicalQuery pairs) } :=
  ⟨readQuery?_canonicalQuery pairs, isWritten_canonicalQuery pairs, fun _ => canonicalQuery_inj,
    fun url => withQuery_canonicalQuery url pairs⟩

end ObjectTransfer.BucketLinks
