import ObjectTransfer.Proofs.Link.SignedQueries

/-!
# What signing adds to a URL

A signed URL has six items in its query that the URL without a key does not
have, those of the signing scheme, and differs from it in nothing else.  Whoever
takes the items with these names away has the other URL, without a query if no
parameters were asked for.

The pairs of the scheme are put among the parameters before they are all sorted.
Leaving them out afterwards comes to the same as never putting them in, as long
as no parameter has a name of theirs.  Since none of these names has anything to
escape in it, no escaped name is taken for one of them either.
-/

set_option autoImplicit false

namespace ObjectTransfer

namespace BucketLinks

def schemeNames : List String := signingNames ++ ["X-Amz-Signature"]

/-- A query without its items of these names; where no item is left, there is no query. -/
def withoutItems (names : List String) (query : List Char) : Option (List Char) :=
  match (Text.split '&' query).filter fun item => !names.contains (cutPair item).1 with
  | [] => none
  | items => some (Text.join '&' items)

end BucketLinks

namespace Url

def withoutSignature (url : Url) : Url :=
  { url with query := url.query.bind (BucketLinks.withoutItems BucketLinks.schemeNames) }

def itemNames (url : Url) : List String :=
  (BucketLinks.writtenPairs (url.query.getD [])).map Prod.fst

end Url

namespace BucketLinks

def withKey (links : BucketLinks) (accessKey : Option AccessKey) : BucketLinks :=
  { links with accessKey := accessKey }

/-! ## Items of a canonical query -/

section Names

variable {names : List String} (plain : ∀ name ∈ names, IsPlainText name)
include plain

theorem contains_escaped_fst (pair : Parameter) :
    names.contains (escaped pair).1 = names.contains pair.1 := by
  rw [Bool.eq_iff_iff, List.contains_iff_mem, List.contains_iff_mem]
  constructor
  · intro inside
    have itself := escaped_fst (escaped pair) (plain _ inside)
    have same : (escaped pair).1.toList = pair.1.toList := by
      apply escape_injective
      have written := congrArg String.toList itself
      rw [escaped, String.toList_ofList] at written
      rw [written, escaped, String.toList_ofList]
    rwa [← String.toList_inj.mp same]
  · intro inside
    rwa [escaped_fst pair (plain _ inside)]

theorem withoutItems_canonicalQuery (pairs : List Parameter) (some_pair : pairs ≠ []) :
    withoutItems names (canonicalQuery pairs) =
      queryOf? (pairs.filter fun pair => !names.contains pair.1) := by
  have clean := isClean_of_mem_map pairs
  have items : Text.split '&' (canonicalQuery pairs) = (pairs.map escaped).map pairText := by
    rw [canonicalQuery_eq]
    exact split_join_pairText _ (by simpa using some_pair) clean
  have kept : ((pairs.map escaped).map pairText).filter
        (fun item => !names.contains (cutPair item).1) =
      ((pairs.filter fun pair => !names.contains pair.1).map escaped).map pairText := by
    rw [List.map_map, List.map_map, List.filter_map]
    refine congrArg _ (List.filter_congr fun pair inside => ?_)
    have cut := cutPair_pairText (escaped pair) (isClean_escaped pair)
    simp only [Function.comp_apply, cut, contains_escaped_fst plain]
  rw [withoutItems, items, kept]
  cases there : pairs.filter fun pair => !names.contains pair.1 with
  | nil => rfl
  | cons pair more =>
    rw [queryOf?, if_neg (by simp), canonicalQuery_eq]
    rfl

theorem filter_names_escaped (pairs : List Parameter) :
    ((pairs.map escaped).map Prod.fst).filter names.contains =
      (pairs.map Prod.fst).filter names.contains := by
  induction pairs with
  | nil => rfl
  | cons pair more ih =>
    simp only [List.map_cons, List.filter_cons, contains_escaped_fst plain, ih]
    by_cases inside : names.contains pair.1 = true
    · have member := List.contains_iff_mem.mp inside
      rw [if_pos inside, if_pos inside, escaped_fst pair (plain _ member)]
    · rw [if_neg inside, if_neg inside]

end Names

/-! ## The pairs of the signing scheme -/

theorem plain_schemeNames : ∀ name ∈ schemeNames, IsPlainText name := by decide +kernel

theorem map_fst_signingParameters (accessKey : AccessKey) (scope stamp : List Char)
    (expires : UInt64) :
    (signingParameters accessKey scope stamp expires).map Prod.fst = signingNames := rfl

section Signed

variable {links : BucketLinks} {accessKey : AccessKey} {expires : UInt64}
  {parameters : List Parameter} {now : Int} (foreign : AreForeign parameters)
include foreign

theorem AreForeign.not_mem_schemeNames : ∀ pair ∈ parameters, pair.1 ∉ schemeNames := by
  have marked : ∀ name ∈ schemeNames, "X-Amz-".toList <+: name.toList := by decide
  intro pair inside member
  exact foreign pair inside (marked _ member)

theorem filter_signedPairs_kept :
    (sorted (links.signedPairs accessKey expires parameters now)).filter
      (fun pair => !schemeNames.contains pair.1) = sorted parameters := by
  rw [filter_sorted, signedPairs, List.filter_append, List.filter_eq_self.mpr,
    List.filter_eq_nil_iff.mpr, List.append_nil]
  · intro pair inside
    have member : pair.1 ∈ signingNames := List.mem_map_of_mem (f := Prod.fst) inside
    have known : pair.1 ∈ schemeNames := List.mem_append_left _ member
    simpa using known
  · intro pair inside
    simpa using foreign.not_mem_schemeNames pair inside

theorem filter_signedPairs_names :
    ((sorted (links.signedPairs accessKey expires parameters now)).map Prod.fst).filter
      schemeNames.contains = signingNames := by
  generalize there : links.scopeAt now = scope
  have own := map_fst_signingParameters accessKey scope (Calendar.stamp now) expires
  rw [List.filter_map, filter_sorted, signedPairs, there, List.filter_append,
    List.filter_eq_nil_iff.mpr, List.nil_append, List.filter_eq_self.mpr, sorted_of_ascending, own]
  · rw [own]
    decide
  · intro pair inside
    have member : pair.1 ∈ signingNames := own ▸ List.mem_map_of_mem inside
    have known : pair.1 ∈ schemeNames := List.mem_append_left _ member
    simpa using known
  · intro pair inside
    simpa using foreign.not_mem_schemeNames pair inside

/-! ## With a key and without -/

theorem withoutSignature_withSignature (method : String) (url : Url) :
    (links.withSignature accessKey expires parameters now method url).withoutSignature =
      { url with query := queryOf? (sorted parameters) } := by
  generalize signature : links.signatureOf accessKey expires parameters now method url = digits
  have own : ([signaturePair digits].filter fun pair => !schemeNames.contains pair.1) = [] := by
    simp [signaturePair, schemeNames]
  have left : withoutItems schemeNames (canonicalQuery
      (sorted (links.signedPairs accessKey expires parameters now) ++ [signaturePair digits])) =
      queryOf? (sorted parameters) := by
    rw [withoutItems_canonicalQuery plain_schemeNames _ (by simp), List.filter_append,
      filter_signedPairs_kept foreign, own, List.append_nil]
  rw [Url.withoutSignature, query_withSignature, signature, Option.bind_some, left]
  rfl

theorem itemNames_withSignature (method : String) (url : Url) :
    (links.withSignature accessKey expires parameters now method url).itemNames.filter
      schemeNames.contains = schemeNames := by
  generalize signature : links.signatureOf accessKey expires parameters now method url = digits
  have own : ([signaturePair digits].map Prod.fst).filter schemeNames.contains =
      ["X-Amz-Signature"] := by
    simp [signaturePair, schemeNames]
  rw [Url.itemNames, query_withSignature, signature, Option.getD_some,
    writtenPairs_canonicalQuery, filter_names_escaped plain_schemeNames, List.map_append,
    List.filter_append, filter_signedPairs_names foreign, own]
  rfl

end Signed

/-! ## The order of the parameters -/

theorem signed_eq_of_perm (links : BucketLinks) (method key : String) (expires : UInt64)
    {parameters others : List Parameter} (same : others.Perm parameters) (now : Int) :
    links.signed method key expires others now = links.signed method key expires parameters now := by
  cases keyed : links.accessKey with
  | none =>
    rw [signed_keyless keyed, signed_keyless keyed, sorted_eq_of_perm others parameters same]
  | some accessKey =>
    have pairs : sorted (links.signedPairs accessKey expires others now) =
        sorted (links.signedPairs accessKey expires parameters now) :=
      sorted_eq_of_perm _ _ (same.append_right _)
    have signatures : links.withSignature accessKey expires others now method =
        links.withSignature accessKey expires parameters now method := by
      funext url
      simp only [withSignature, signatureOf, signedRequest, pairs]
    rw [signed_eq keyed, signed_eq keyed, signatures]

/-- Neither with a key nor without does it matter in which order parameters are given.  A signed URL
has each item of the signing scheme once; without these items it is the URL that the same links give
without a key, with no query if there are no parameters.  Both fail alike. -/
theorem signing_only_adds (links : BucketLinks) (method key : String) (expires : UInt64)
    (parameters : List Parameter) (foreign : AreForeign parameters) (now : Int) :
    (∀ others, others.Perm parameters →
      links.signed method key expires others now =
        links.signed method key expires parameters now) ∧
    ∀ accessKey,
      ((links.withKey (some accessKey)).signed method key expires parameters now).map
          Url.withoutSignature =
        (links.withKey none).signed method key expires parameters now ∧
      ∀ url, (links.withKey (some accessKey)).signed method key expires parameters now = .ok url →
        url.itemNames.filter schemeNames.contains = schemeNames ∧
          (url.withoutSignature.query = none ↔ parameters = []) := by
  refine ⟨fun others same => signed_eq_of_perm links method key expires same now, ?_⟩
  intro accessKey
  have keyed : (links.withKey (some accessKey)).signed method key expires parameters now = _ :=
    signed_eq rfl method key
  have keyless : (links.withKey none).signed method key expires parameters now = _ :=
    signed_keyless rfl method key
  have plainly : (links.withKey (some accessKey)).plain key = (links.withKey none).plain key := rfl
  rw [keyed, keyless, plainly]
  cases (links.withKey none).plain key with
  | error failure =>
    refine ⟨rfl, ?_⟩
    rintro _ ⟨⟩
  | ok plainUrl =>
    refine ⟨congrArg Except.ok (withoutSignature_withSignature foreign method plainUrl), ?_⟩
    rintro _ ⟨⟩
    refine ⟨itemNames_withSignature foreign method plainUrl, ?_⟩
    have count := (sorted_perm parameters).length_eq
    rw [withoutSignature_withSignature foreign, queryOf?_eq_none_iff, ← List.length_eq_zero_iff,
      count, List.length_eq_zero_iff]

/-- A name without characters comes before the names of the scheme, and others come after them. -/
theorem signing_only_adds_around :
    let parameters : List Parameter := [("zone", "x y"), ("", ""), ("a&b", "="), ("zone", "")]
    AreForeign parameters ∧
      ∃ url, localSigner.signed "GET" "acme/abc" 900 parameters 1700000000 = .ok url ∧
        url.itemNames.filter schemeNames.contains = schemeNames ∧
        url.withoutSignature.query = some "=&a%26b=%3D&zone=&zone=x%20y".toList := by
  intro parameters
  have foreign : AreForeign parameters := by decide
  obtain ⟨-, keyed⟩ := signing_only_adds localSigner "GET" "acme/abc" 900 parameters foreign
    1700000000
  obtain ⟨same, named⟩ := keyed ⟨"AKIDEXAMPLE", "secret"⟩
  have ordered : sorted parameters = [("", ""), ("a&b", "="), ("zone", ""), ("zone", "x y")] :=
    (eq_sorted _ _ (by decide) (by decide)).symm
  have query : queryOf? (sorted parameters) = some "=&a%26b=%3D&zone=&zone=x%20y".toList := by
    rw [ordered]
    decide +kernel
  have keyless : (localSigner.withKey none).signed "GET" "acme/abc" 900 parameters 1700000000 = _ :=
    signed_keyless rfl "GET" "acme/abc"
  rw [keyless, query] at same
  obtain ⟨url, made⟩ : ∃ url, localSigner.signed "GET" "acme/abc" 900 parameters 1700000000 =
      .ok url := ⟨_, signed_eq rfl "GET" "acme/abc"⟩
  have found := same.symm.trans (congrArg (Except.map Url.withoutSignature) made)
  exact ⟨foreign, url, made, (named url made).1, (congrArg Url.query (Except.ok.inj found)).symm⟩

end BucketLinks

end ObjectTransfer
