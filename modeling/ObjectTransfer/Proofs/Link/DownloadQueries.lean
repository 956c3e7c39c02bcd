import ObjectTransfer.Link.Endpoints
import ObjectTransfer.Proofs.Link.SignedQueries
import ObjectTransfer.Proofs.Url.QueryTexts
import ObjectTransfer.Store.Bucket

/-!
# What the link of a download says

The link of a download from an endpoint has the pairs of the base in its query
and then those of the hints, as they were given.  So a server that reads the
query finds the hints again, unless the base has pairs of these names itself.

The link of a download from a bucket has the pairs that were asked for, and if
it is signed those of the signing scheme, each once.
-/

set_option autoImplicit false

namespace ObjectTransfer

/-! ## Hints in a query -/

namespace Hints

def pairs (hints : Hints) : List (Octets × Octets) :=
  hints.filename.toList.map (fun text => (Utf8.encode "filename", Utf8.encode text)) ++
    hints.disposition.toList.map fun text => (Utf8.encode "disposition", Utf8.encode text)

def textIn? (name : String) (pairs : List (Octets × Octets)) : Option String :=
  (pairs.find? fun pair => pair.1 == Utf8.encode name).bind fun pair => Utf8.decode? pair.2

def ofPairs (pairs : List (Octets × Octets)) : Hints :=
  ⟨textIn? "filename" pairs, textIn? "disposition" pairs⟩

/-- None of the pairs has the name of a hint. -/
def AreForeign (pairs : List (Octets × Octets)) : Prop :=
  ∀ pair ∈ pairs, pair.1 ≠ Utf8.encode "filename" ∧ pair.1 ≠ Utf8.encode "disposition"

instance (pairs : List (Octets × Octets)) : Decidable (AreForeign pairs) :=
  inferInstanceAs (Decidable (∀ pair ∈ pairs, _))

theorem ofPairs_append {earlier : List (Octets × Octets)} (foreign : AreForeign earlier)
    (hints : Hints) : ofPairs (earlier ++ hints.pairs) = hints := by
  have none_named : ∀ name : String, (∀ pair ∈ earlier, pair.1 ≠ Utf8.encode name) →
      textIn? name (earlier ++ hints.pairs) = textIn? name hints.pairs := by
    intro name other
    have absent : (earlier.find? fun pair => pair.1 == Utf8.encode name) = none :=
      List.find?_eq_none.mpr fun pair inside => by simpa using other pair inside
    rw [textIn?, List.find?_append, absent, Option.none_or, textIn?]
  have names : Utf8.encode "filename" ≠ Utf8.encode "disposition" := by decide
  rw [ofPairs, none_named _ fun pair inside => (foreign pair inside).1,
    none_named _ fun pair inside => (foreign pair inside).2]
  obtain ⟨filename, disposition⟩ := hints
  cases filename <;> cases disposition <;>
    simp [textIn?, pairs, Utf8.decode_encode, names, names.symm]

end Hints

/-! ## Downloads from endpoints -/

namespace Endpoints

theorem query_mapSegments (url : Url) (change : List Url.Segment → List Url.Segment) :
    (url.mapSegments change).query = url.query := by
  unfold Url.mapSegments
  split <;> rfl

theorem query_object (endpoints : Endpoints) (place oid : String) :
    (endpoints.object place oid).query = endpoints.base.query := by
  unfold object below Url.pushAll Url.popIfEmpty
  rw [query_mapSegments, query_mapSegments]

def pairsOf (url : Url) : List (Octets × Octets) := Form.decodePairs (url.query.getD [])

theorem pairsOf_appendHint (name : String) (hint : Option String) (url : Url) :
    pairsOf (appendHint name hint url) =
      pairsOf url ++ hint.toList.map fun text => (Utf8.encode name, Utf8.encode text) := by
  cases hint with
  | none => exact (List.append_nil _).symm
  | some text => exact Form.decodePairs_appendPair _ name text

theorem pairsOf_download (endpoints : Endpoints) (place oid : String) (hints : Hints) :
    pairsOf (endpoints.download place oid hints) = pairsOf endpoints.base ++ hints.pairs := by
  rw [download, pairsOf_appendHint, pairsOf_appendHint, Hints.pairs, List.append_assoc, pairsOf,
    query_object]
  rfl

theorem isParted_appendHint {url : Url} (parted : url.IsParted) (name : String)
    (hint : Option String) : (appendHint name hint url).IsParted := by
  cases hint with
  | none => exact parted
  | some text => exact parted.appendPair name text

theorem isParted_download {endpoints : Endpoints} (parted : endpoints.base.IsParted)
    (place oid : String) (hints : Hints) : (endpoints.download place oid hints).IsParted :=
  isParted_appendHint (isParted_appendHint (parted.popIfEmpty.pushAll _) _ _) _ _

end Endpoints

def pairsOfLink (href : String) : List (Octets × Octets) :=
  Form.decodePairs ((Url.queryOf? href).getD [])

theorem Endpoints.pairsOfLink_download {endpoints : Endpoints} (parted : endpoints.base.IsParted)
    (place oid : String) (hints : Hints) :
    pairsOfLink (endpoints.download place oid hints).text =
      pairsOf endpoints.base ++ hints.pairs := by
  rw [pairsOfLink, Url.queryOf?_text (isParted_download parted place oid hints)]
  exact endpoints.pairsOf_download place oid hints

/-! ## Downloads from buckets -/

namespace BucketLinks

theorem isParted_endpoint (endpoint region bucket : String) (address : BucketAddress)
    (addressed : BucketAddress.ofText endpoint region bucket = .ok address) :
    address.endpoint.IsParted := by
  unfold BucketAddress.ofText at addressed
  split at addressed
  · cases addressed
  · rename_i url read
    split at addressed
    · cases addressed
    · cases addressed
      exact Url.parse_parted endpoint url read

theorem plain_parted {links : BucketLinks} (parted : links.address.endpoint.IsParted)
    (key : String) : Ensures Url.IsParted (links.plain key) :=
  plain_ensures parted (fun text url made => parted.withHost text url made)
    (fun _ text parted => parted.withPath text) key

/-- The pairs that a link stands for, if all of them can be read. -/
def queryPairs? (href : String) : Option (List Parameter) :=
  readQuery? ((Url.queryOf? href).getD [])

theorem queryPairs?_of_query {url : Url} (parted : url.IsParted) {pairs : List Parameter}
    (carried : url.query.getD [] = canonicalQuery pairs) : queryPairs? url.text = some pairs := by
  rw [queryPairs?, Url.queryOf?_text parted, carried, readQuery?_canonicalQuery]

section Signed

variable {links : BucketLinks} {method key : String} {expires : UInt64}
  {parameters : List Parameter} {now : Int} {url : Url}

theorem queryPairs?_unsigned (parted : links.address.endpoint.IsParted)
    (keyless : links.accessKey = none)
    (made : links.signed method key expires parameters now = .ok url) :
    queryPairs? url.text = some (sorted parameters) := by
  unfold signed at made
  obtain ⟨plainUrl, there, rest⟩ := (bind_eq_ok_iff _ _ _).mp made
  rw [keyless] at rest
  cases rest
  refine queryPairs?_of_query ((plain_parted parted key plainUrl there).withQuery _) ?_
  split
  · rename_i nothing
    exact (List.isEmpty_iff.mp nothing).symm
  · rw [withQuery_canonicalQuery]
    rfl

theorem queryPairs?_signed (parted : links.address.endpoint.IsParted) {accessKey : AccessKey}
    (keyed : links.accessKey = some accessKey)
    (made : links.signed method key expires parameters now = .ok url) :
    ∃ signature, queryPairs? url.text =
      some (sorted (links.signedPairs accessKey expires parameters now) ++
        [signaturePair signature]) := by
  rw [signed_eq keyed] at made
  cases there : links.plain key with
  | error failure =>
    rw [there] at made
    cases made
  | ok plainUrl =>
    rw [there] at made
    cases made
    refine ⟨_, queryPairs?_of_query ?_ (congrArg (Option.getD · []) (query_withSignature _ _))⟩
    rw [withSignature_eq]
    exact (plain_parted parted key plainUrl there).withQuery _

end Signed

/-! ## Values of a name -/

def valuesOf (name : String) (pairs : List Parameter) : List String :=
  (pairs.filter fun pair => pair.1 == name).map Prod.snd

theorem valuesOf_append (name : String) (pairs more : List Parameter) :
    valuesOf name (pairs ++ more) = valuesOf name pairs ++ valuesOf name more := by
  rw [valuesOf, List.filter_append, List.map_append, valuesOf, valuesOf]

theorem valuesOf_perm (name : String) {pairs others : List Parameter} (same : pairs.Perm others) :
    (valuesOf name pairs).Perm (valuesOf name others) :=
  (same.filter _).map _

theorem valuesOf_eq_nil {name : String} {pairs : List Parameter}
    (other : ∀ pair ∈ pairs, pair.1 ≠ name) : valuesOf name pairs = [] := by
  rw [valuesOf, List.filter_eq_nil_iff.mpr fun pair inside => by simpa using other pair inside,
    List.map_nil]

/-- The pairs in the query of a link are those that were asked for and those of the signing scheme,
which has the lifetime among them if the link is signed. -/
theorem exists_queryPairs {links : BucketLinks} (parted : links.address.endpoint.IsParted)
    {method key : String} {expires : UInt64} {parameters : List Parameter} {now : Int} {url : Url}
    (made : links.signed method key expires parameters now = .ok url) :
    ∃ pairs added, queryPairs? url.text = some pairs ∧ pairs.Perm (parameters ++ added) ∧
      (∀ pair ∈ added, "X-Amz-".toList <+: pair.1.toList) ∧
      (links.accessKey.isSome = true →
        valuesOf "X-Amz-Expires" added = [toString expires.toNat]) := by
  cases keyed : links.accessKey with
  | none =>
    refine ⟨_, [], queryPairs?_unsigned parted keyed made, ?_, ?_, ?_⟩
    · rw [List.append_nil]
      exact sorted_perm parameters
    · rintro _ ⟨⟩
    · rintro ⟨⟩
  | some accessKey =>
    obtain ⟨signature, there⟩ := queryPairs?_signed parted keyed made
    refine ⟨_, signingParameters accessKey (links.scopeAt now) (Calendar.stamp now) expires ++
      [signaturePair signature], there, ?_, ?_, fun _ => rfl⟩
    · rw [← List.append_assoc]
      exact (sorted_perm _).append_right _
    · have own : ∀ name ∈ signingNames ++ ["X-Amz-Signature"], "X-Amz-".toList <+: name.toList := by
        decide
      intro pair inside
      exact own pair.1 (List.mem_map_of_mem (f := Prod.fst) inside)

end BucketLinks

namespace BucketStore

def presentationPairs (hints : Hints) : List BucketLinks.Parameter :=
  hints.presentation.toList.map fun value => ("response-content-disposition", value)

theorem downloadAction_eq (bucket : BucketStore) (now : Int) (place oid : String)
    (lifetime : UInt64) (hints : Hints) :
    bucket.downloadAction now place oid lifetime hints =
      (bucket.links.signed "GET" (bucket.key place oid) lifetime (presentationPairs hints) now).map
        fun url => some ⟨url.text, Dictionary.empty, lifetime⟩ := by
  unfold downloadAction presentationPairs
  cases hints.presentation <;> rfl

theorem valuesOf_presentationPairs (hints : Hints) :
    BucketLinks.valuesOf "response-content-disposition" (presentationPairs hints) =
        hints.presentation.toList ∧
      BucketLinks.valuesOf "X-Amz-Expires" (presentationPairs hints) = [] := by
  unfold presentationPairs
  cases hints.presentation with
  | none => exact ⟨rfl, rfl⟩
  | some value => exact ⟨rfl, rfl⟩

theorem queryPairs?_downloadAction {bucket : BucketStore}
    (parted : bucket.links.address.endpoint.IsParted) {now : Int} {place oid : String}
    {lifetime : UInt64} {hints : Hints} {offered : Option Action}
    (made : bucket.downloadAction now place oid lifetime hints = .ok offered) :
    ∃ action pairs, offered = some action ∧ action.lifetime = lifetime ∧
      BucketLinks.queryPairs? action.href = some pairs ∧
      BucketLinks.valuesOf "response-content-disposition" pairs = hints.presentation.toList ∧
      (bucket.links.accessKey.isSome = true →
        BucketLinks.valuesOf "X-Amz-Expires" pairs = [toString lifetime.toNat]) := by
  rw [downloadAction_eq] at made
  cases signed : bucket.links.signed "GET" (bucket.key place oid) lifetime
      (presentationPairs hints) now with
  | error error =>
    rw [signed] at made
    cases made
  | ok url =>
    rw [signed] at made
    cases made
    obtain ⟨pairs, added, there, same, own, expires⟩ := BucketLinks.exists_queryPairs parted signed
    obtain ⟨presented, unscheduled⟩ := valuesOf_presentationPairs hints
    refine ⟨_, pairs, rfl, rfl, there, ?_, fun keyed => ?_⟩
    · have foreign : BucketLinks.valuesOf "response-content-disposition" added = [] := by
        refine BucketLinks.valuesOf_eq_nil fun pair inside called => ?_
        exact absurd (called ▸ own pair inside) (by decide)
      have asked := BucketLinks.valuesOf_perm "response-content-disposition" same
      rw [BucketLinks.valuesOf_append, presented, foreign, List.append_nil] at asked
      cases there : hints.presentation with
      | none =>
        rw [there] at asked
        exact List.perm_nil.mp asked
      | some value =>
        rw [there] at asked
        exact List.perm_singleton.mp asked
    · have asked := BucketLinks.valuesOf_perm "X-Amz-Expires" same
      rw [BucketLinks.valuesOf_append, unscheduled, expires keyed] at asked
      exact List.perm_singleton.mp asked

end BucketStore

end ObjectTransfer
