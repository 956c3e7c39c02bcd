import ObjectTransfer.Encoding.Form
import ObjectTransfer.Proofs.Encoding.Percent

/-!
# Form encoded pairs are read back

A text in form encoding holds neither of the signs that divide a query, and no
sign that ends one.  So a pair that is added to a query is read as one more
pair, with just the name and the value that it was made from, and the pairs
before it are read as they were.

The encoding differs from percent escapes in one octet, which reading turns back
first.
-/

set_option autoImplicit false

namespace ObjectTransfer.Form

/-! ## Texts -/

def isPlainOrSpace (octet : UInt8) : Bool := isPlain octet || octet == 32

theorem faithful_isPlainOrSpace : Percent.Faithful isPlainOrSpace :=
  forall_octet (by decide +kernel)

theorem map_encodeOctet (octet : UInt8) :
    ((Utf8.encodeChars (encodeOctet octet)).map fun octet => if octet = 43 then 32 else octet) =
      Utf8.encodeChars (Percent.encodeOctet isPlainOrSpace octet) := by
  revert octet
  exact forall_octet (by decide +kernel)

theorem map_encode (octets : Octets) :
    ((Utf8.encodeChars (octets.flatMap encodeOctet)).map fun octet =>
        if octet = 43 then 32 else octet) =
      Utf8.encodeChars (Percent.encodeOctets isPlainOrSpace octets) := by
  induction octets with
  | nil => rfl
  | cons octet rest ih =>
    have step : Percent.encodeOctets isPlainOrSpace (octet :: rest) =
        Percent.encodeOctet isPlainOrSpace octet ++ Percent.encodeOctets isPlainOrSpace rest := rfl
    rw [List.flatMap_cons, Utf8.encodeChars_append, List.map_append, map_encodeOctet, ih, step,
      Utf8.encodeChars_append]

theorem decodeOctets_encode (text : String) :
    decodeOctets (Utf8.encodeChars (encode text)) = Utf8.encode text := by
  rw [decodeOctets, encode, map_encode]
  exact Percent.decode_encode isPlainOrSpace faithful_isPlainOrSpace text.toList

def isFormCharacter (c : Char) : Bool := Percent.isPlain isPlain c || c == '+' || c == '%'

theorem isFormCharacter_of_mem (text : String) : ∀ c ∈ encode text, isFormCharacter c = true := by
  have each : ∀ octet, (encodeOctet octet).all isFormCharacter = true :=
    forall_octet (by decide +kernel)
  intro c inside
  obtain ⟨octet, -, written⟩ := List.mem_flatMap.mp inside
  exact List.all_eq_true.mp (each octet) c written

theorem not_mem_encode (text : String) (c : Char) (foreign : isFormCharacter c = false) :
    c ∉ encode text := by
  intro inside
  rw [isFormCharacter_of_mem text c inside] at foreign
  cases foreign

/-! ## Pairs -/

theorem mem_encodePair {name value : String} {c : Char} (inside : c ∈ encodePair name value) :
    isFormCharacter c = true ∨ c = '=' := by
  rcases List.mem_append.mp inside with front | back
  · exact .inl (isFormCharacter_of_mem name c front)
  · rcases List.mem_cons.mp back with sign | behind
    · exact .inr sign
    · exact .inl (isFormCharacter_of_mem value c behind)

theorem not_mem_encodePair (name value : String) (c : Char) (foreign : isFormCharacter c = false)
    (other : c ≠ '=') : c ∉ encodePair name value := by
  intro inside
  rcases mem_encodePair inside with plain | sign
  · rw [plain] at foreign
    cases foreign
  · exact other sign

theorem decodePairs_append (left right : List Char) :
    decodePairs (left ++ '&' :: right) = decodePairs left ++ decodePairs right := by
  simp [decodePairs, Text.split_append]

theorem decodePairs_encodePair (name value : String) :
    decodePairs (encodePair name value) = [(Utf8.encode name, Utf8.encode value)] := by
  have whole := Text.split_of_not_mem '&' _
    (not_mem_encodePair name value '&' (by decide) (by decide))
  have cut : Text.cut? '=' (encodePair name value) = some (encode name, encode value) :=
    Text.cut_append '=' _ _ (not_mem_encode name '=' (by decide))
  have some_text : (!(encodePair name value).isEmpty) = true := by simp [encodePair]
  simp [decodePairs, whole, some_text, cut, decodeOctets_encode]

theorem decodePairs_appendPair (query : List Char) (name value : String) :
    decodePairs (appendPair query name value) =
      decodePairs query ++ [(Utf8.encode name, Utf8.encode value)] := by
  unfold appendPair
  split
  · rename_i empty
    rw [List.isEmpty_iff.mp empty, decodePairs_encodePair]
    rfl
  · rw [decodePairs_append, decodePairs_encodePair]

theorem mem_appendPair {query : List Char} {name value : String} {c : Char}
    (inside : c ∈ appendPair query name value) :
    c ∈ query ∨ c = '&' ∨ c ∈ encodePair name value := by
  unfold appendPair at inside
  split at inside
  · exact .inr (.inr inside)
  · simpa using inside

end ObjectTransfer.Form
