import Mathlib.Data.List.Nodup
import ObjectTransfer.Proofs.Link.SigningScheme

/-!
# What a server makes of a signed URL

A signed URL has the signature behind the pairs that were signed, and a server
reads just these pairs out of it.  It comes to the text that was signed exactly
if escaping keeps the order of the pairs, for they are sorted before they are
escaped when the URL is made.  Names without anything to escape, no two of them
the same, are enough for that.
-/

set_option autoImplicit false

namespace ObjectTransfer.BucketLinks

/-! ## What is signed -/

/-- No name is one of those that the signing scheme uses itself. -/
def AreForeign (parameters : List Parameter) : Prop :=
  ∀ parameter ∈ parameters, ¬ "X-Amz-".toList <+: parameter.1.toList

instance (parameters : List Parameter) : Decidable (AreForeign parameters) :=
  inferInstanceAs (Decidable (∀ parameter ∈ parameters, _))

def signingNames : List String :=
  ["X-Amz-Algorithm", "X-Amz-Credential", "X-Amz-Date", "X-Amz-Expires", "X-Amz-SignedHeaders"]

section Signed

variable (links : BucketLinks) (accessKey : AccessKey) (expires : UInt64)
  (parameters : List Parameter) (now : Int)

def dateAt (now : Int) : List Char := (Calendar.stamp now).take 8

def scopeAt : List Char := credentialScope (dateAt now) links.address.region

/-- The pairs that are signed: those that were asked for and those of the signing scheme. -/
def signedPairs : List Parameter :=
  parameters ++ signingParameters accessKey (links.scopeAt now) (Calendar.stamp now) expires

def signedRequest (method : String) (url : Url) : List Char :=
  canonicalRequest method url.pathText
    (canonicalQuery (sorted (links.signedPairs accessKey expires parameters now)))
    (hostAndPort url)

def signatureOf (method : String) (url : Url) : List Char :=
  Hex.encode (Hmac.tag (signingKey accessKey.secret (dateAt now) links.address.region)
    (Utf8.encodeChars (textToSign (Calendar.stamp now) (links.scopeAt now)
      (links.signedRequest accessKey expires parameters now method url))))

/-- A URL with the query that was signed, and then the signature. -/
def withSignature (method : String) (url : Url) : Url :=
  { url with
    query := some (canonicalQuery (sorted (links.signedPairs accessKey expires parameters now)) ++
      "&X-Amz-Signature=".toList ++
      links.signatureOf accessKey expires parameters now method url) }

def signedQuery (method : String) (url : Url) : SignedQuery where
  stamp := String.ofList (Calendar.stamp now)
  credential := accessKey.id ++ "/" ++ String.ofList (links.scopeAt now)
  signature := String.ofList (links.signatureOf accessKey expires parameters now method url)
  pairs := sorted (links.signedPairs accessKey expires parameters now)

end Signed

variable {links : BucketLinks} {accessKey : AccessKey} {expires : UInt64}
  {parameters : List Parameter} {now : Int}

/-! ## The signature in the query -/

theorem escape_encode (octets : Octets) : escape (Hex.encode octets) = Hex.encode octets := by
  have plain : ∀ n : Fin 16, Percent.isPlain Percent.isUnreserved (Hex.digit n) = true := by
    decide +kernel
  exact Percent.encode_of_isPlain _ _ (Hex.forall_mem_encode plain octets)

def signaturePair (signature : List Char) : Parameter :=
  ("X-Amz-Signature", String.ofList signature)

theorem canonicalQuery_signed (pairs : List Parameter) (some_pair : pairs ≠ []) (octets : Octets) :
    canonicalQuery (pairs ++ [signaturePair (Hex.encode octets)]) =
      canonicalQuery pairs ++ "&X-Amz-Signature=".toList ++ Hex.encode octets := by
  have name : escape "X-Amz-Signature".toList = "X-Amz-Signature".toList := by decide +kernel
  have item : escapePair (signaturePair (Hex.encode octets)) =
      "X-Amz-Signature=".toList ++ Hex.encode octets := by
    simp only [escapePair, signaturePair, name, String.toList_ofList, escape_encode]
    rfl
  rw [canonicalQuery, List.map_append, List.map_singleton,
    Text.join_concat _ _ _ (by simpa using some_pair), item]
  simp [canonicalQuery]

theorem sorted_signedPairs_ne_nil :
    sorted (links.signedPairs accessKey expires parameters now) ≠ [] := by
  intro nothing
  have length := (sorted_perm (links.signedPairs accessKey expires parameters now)).length_eq
  rw [nothing] at length
  simp [signedPairs, signingParameters] at length

theorem query_withSignature (method : String) (url : Url) :
    (links.withSignature accessKey expires parameters now method url).query =
      some (canonicalQuery (sorted (links.signedPairs accessKey expires parameters now) ++
        [signaturePair (links.signatureOf accessKey expires parameters now method url)])) := by
  rw [signatureOf, canonicalQuery_signed _ sorted_signedPairs_ne_nil]
  rfl

theorem withSignature_eq (method : String) (url : Url) :
    links.withSignature accessKey expires parameters now method url =
      url.withQuery (some (canonicalQuery
        (sorted (links.signedPairs accessKey expires parameters now) ++
          [signaturePair (links.signatureOf accessKey expires parameters now method url)]))) := by
  rw [withQuery_canonicalQuery, ← query_withSignature]
  rfl

theorem signed_eq (keyed : links.accessKey = some accessKey) (method key : String) :
    links.signed method key expires parameters now =
      (links.plain key).map (links.withSignature accessKey expires parameters now method) := by
  unfold signed
  cases links.plain key with
  | error failure => rfl
  | ok url =>
    simp only [keyed, ok_bind, Except.map]
    refine congrArg Except.ok (Eq.trans ?_ (withSignature_eq method url).symm)
    rw [signatureOf, canonicalQuery_signed _ sorted_signedPairs_ne_nil]
    rfl

/-! ## Without a key -/

def queryOf? (pairs : List Parameter) : Option (List Char) :=
  if pairs.isEmpty then none else some (canonicalQuery pairs)

theorem queryOf?_eq_none_iff (pairs : List Parameter) : queryOf? pairs = none ↔ pairs = [] := by
  unfold queryOf?
  split
  · rename_i nothing
    exact iff_of_true rfl (List.isEmpty_iff.mp nothing)
  · rename_i something
    exact iff_of_false (Option.some_ne_none _) fun nothing => something (by simp [nothing])

theorem signed_keyless (keyless : links.accessKey = none) (method key : String) :
    links.signed method key expires parameters now =
      (links.plain key).map fun url => { url with query := queryOf? (sorted parameters) } := by
  have nothing : (canonicalQuery (sorted parameters)).isEmpty = (sorted parameters).isEmpty := by
    rw [Bool.eq_iff_iff, List.isEmpty_iff, List.isEmpty_iff]
    exact canonicalQuery_eq_nil_iff _
  unfold signed
  cases links.plain key with
  | error failure => rfl
  | ok url =>
    simp only [keyless, ok_bind, Except.map, nothing]
    refine congrArg Except.ok ?_
    unfold queryOf?
    split
    · rfl
    · exact withQuery_canonicalQuery url _

/-! ## Reading it back -/

/-- Names of the signing scheme are in the query once, whatever parameters were asked for. -/
theorem only?_eq_some (foreign : AreForeign parameters) (own pairs : List Parameter)
    (same : pairs.Perm (parameters ++ own)) (name value : String)
    (named : "X-Amz-".toList <+: name.toList)
    (once : (own.filter fun pair => pair.1 == name) = [(name, value)]) :
    SignedQuery.only? name pairs = some value := by
  have absent : (parameters.filter fun pair => pair.1 == name) = [] := by
    refine List.filter_eq_nil_iff.mpr fun pair inside called => ?_
    exact foreign pair inside (eq_of_beq called ▸ named)
  have found := same.filter fun pair => pair.1 == name
  rw [List.filter_append, absent, List.nil_append, once] at found
  rw [SignedQuery.only?, List.perm_singleton.mp found]

theorem mem_signedPairs {pair : Parameter}
    (inside : pair ∈ links.signedPairs accessKey expires parameters now) :
    pair ∈ parameters ∨ pair.1 ∈ signingNames :=
  (List.mem_append.mp inside).imp_right fun own => List.mem_map_of_mem (f := Prod.fst) own

theorem name_ne_signature (foreign : AreForeign parameters) :
    ∀ pair ∈ links.signedPairs accessKey expires parameters now, pair.1 ≠ "X-Amz-Signature" := by
  intro pair inside called
  rcases mem_signedPairs inside with asked | own
  · exact foreign pair asked (called ▸ by decide)
  · exact absurd (called ▸ own) (by decide)

theorem signedQuery?_withSignature (foreign : AreForeign parameters) (method : String) (url : Url) :
    (links.withSignature accessKey expires parameters now method url).signedQuery? =
      some (links.signedQuery accessKey expires parameters now method url) := by
  have perm := sorted_perm (links.signedPairs accessKey expires parameters now)
  rw [Url.signedQuery?, query_withSignature, Option.bind_some, SignedQuery.read?,
    readQuery?_canonicalQuery]
  generalize signature : links.signatureOf accessKey expires parameters now method url = digits
  have unsigned : ((sorted (links.signedPairs accessKey expires parameters now) ++
      [signaturePair digits]).filter fun pair => pair.1 != "X-Amz-Signature") =
      sorted (links.signedPairs accessKey expires parameters now) := by
    rw [List.filter_append, List.filter_eq_self.mpr]
    · simp [signaturePair]
    · intro pair inside
      simpa using name_ne_signature foreign pair (perm.mem_iff.mp inside)
  have same := perm.append_right [signaturePair digits]
  rw [signedPairs, List.append_assoc] at same
  have only := only?_eq_some foreign _ _ same
  simp only [Option.bind_eq_bind, Option.bind_some, unsigned, signedQuery, signature]
  rw [signedPairs] at *
  rw [only "X-Amz-Algorithm" algorithm (by decide) rfl,
    only "X-Amz-SignedHeaders" "host" (by decide) rfl,
    only "X-Amz-Date" (String.ofList (Calendar.stamp now)) (by decide) rfl,
    only "X-Amz-Credential" (accessKey.id ++ "/" ++ String.ofList (links.scopeAt now))
      (by decide) rfl,
    only "X-Amz-Signature" (String.ofList digits) (by decide) rfl]
  rfl

/-! ## The host -/

theorem hasOwnPort_endpoint (endpoint region bucket : String) (address : BucketAddress)
    (addressed : BucketAddress.ofText endpoint region bucket = .ok address) :
    address.endpoint.HasOwnPort := by
  unfold BucketAddress.ofText at addressed
  split at addressed
  · cases addressed
  · rename_i url read
    split at addressed
    · cases addressed
    · cases addressed
      exact Url.parse_own endpoint url read

theorem plain_own (links : BucketLinks) (own : links.address.endpoint.HasOwnPort) (key : String) :
    Ensures Url.HasOwnPort (links.plain key) :=
  plain_ensures own (fun text => Url.withHost_own _ text own) (fun _ _ own => own) key

/-! ## The order of what is signed -/

def IsPlainText (text : String) : Prop :=
  text.toList.all (Percent.isPlain Percent.isUnreserved) = true

instance (text : String) : Decidable (IsPlainText text) :=
  inferInstanceAs (Decidable (_ = true))

theorem escaped_fst (pair : Parameter) (plain : IsPlainText pair.1) :
    (escaped pair).1 = pair.1 := by
  rw [escaped, escape, Percent.encode_of_isPlain _ _ (List.all_eq_true.mp plain),
    String.ofList_toList]

/-- The names have nothing to escape in them, and no two pairs have the same. -/
structure HasPlainNames (pairs : List Parameter) : Prop where
  plain : ∀ pair ∈ pairs, IsPlainText pair.1
  nodup : (pairs.map Prod.fst).Nodup

/-- Such pairs are in the order of their names, which escaping leaves as they are. -/
theorem HasPlainNames.keepsOrder {pairs : List Parameter} (names : HasPlainNames pairs) :
    KeepsOrder pairs := by
  have itself : ∀ pair ∈ pairs, (escaped pair).1 = pair.1 :=
    fun pair inside => escaped_fst pair (names.plain pair inside)
  intro left leftIn right rightIn before
  rcases (precedes_iff left right).mp before with names | ⟨sameName, _⟩
  · rw [precedes_iff, itself left leftIn, itself right rightIn]
    exact .inl names
  · rw [List.inj_on_of_nodup_map names.nodup leftIn rightIn sameName]
    exact precedes_refl _

theorem HasPlainNames.signedPairs (names : HasPlainNames parameters)
    (foreign : AreForeign parameters) :
    HasPlainNames (links.signedPairs accessKey expires parameters now) where
  plain pair inside := by
    have own : ∀ name ∈ signingNames, IsPlainText name := by decide +kernel
    exact (mem_signedPairs inside).elim (names.plain pair) (own pair.1)
  nodup := by
    have own : ∀ name ∈ signingNames, "X-Amz-".toList <+: name.toList := by decide
    have whole : (links.signedPairs accessKey expires parameters now).map Prod.fst =
        parameters.map Prod.fst ++ signingNames := List.map_append
    rw [whole]
    refine names.nodup.append (by decide) fun name asked added => ?_
    obtain ⟨pair, inside, rfl⟩ := List.mem_map.mp asked
    exact foreign pair inside (own pair.1 added)

/-! ## Checking a signature -/

theorem request_signedQuery (method : String) (url : Url) (own : url.HasOwnPort) :
    (links.signedQuery accessKey expires parameters now method url).request method
        (links.withSignature accessKey expires parameters now method url) =
      SigningScheme.request method url.pathText
        (prescribedQuery (links.signedPairs accessKey expires parameters now))
        (hostAndPort url) := by
  rw [SignedQuery.request, signedQuery, prescribedQuery_eq_of_perm _ _ (sorted_perm _),
    hostAndPort_eq url own]
  rfl

theorem request_eq_signedRequest_iff (method : String) (url : Url) (own : url.HasOwnPort) :
    (links.signedQuery accessKey expires parameters now method url).request method
        (links.withSignature accessKey expires parameters now method url) =
        links.signedRequest accessKey expires parameters now method url ↔
      KeepsOrder (links.signedPairs accessKey expires parameters now) := by
  rw [request_signedQuery method url own, signedRequest, canonicalRequest_eq, request_inj,
    eq_comm, canonicalQuery_eq_prescribedQuery_iff]

theorem accepts_withSignature (foreign : AreForeign parameters) (method : String) (url : Url)
    (own : url.HasOwnPort)
    (keeps : KeepsOrder (links.signedPairs accessKey expires parameters now)) :
    accessKey.Accepts links.address.region method
      (links.withSignature accessKey expires parameters now method url) := by
  have date : (links.signedQuery accessKey expires parameters now method url).date = dateAt now := by
    rw [SignedQuery.date, signedQuery, String.toList_ofList]
    rfl
  have text : (links.signedQuery accessKey expires parameters now method url).text
      links.address.region method
      (links.withSignature accessKey expires parameters now method url) =
      textToSign (Calendar.stamp now) (links.scopeAt now)
        (links.signedRequest accessKey expires parameters now method url) := by
    rw [SignedQuery.text, (request_eq_signedRequest_iff method url own).mpr keeps, date,
      textToSign_eq, signedQuery, String.toList_ofList]
    rfl
  refine ⟨_, signedQuery?_withSignature foreign method url, ?_, ?_⟩
  · rw [date]
    rfl
  · rw [date, text, SigningScheme.signature, ← signingKey_eq, signedQuery, String.toList_ofList]
    rfl

/-- A signed URL has a host, and in its query the escaped pairs and then the signature.  The pairs are in the
prescribed form exactly if escaping keeps their order; exactly then a server rebuilds the request
that was signed, and it takes the signature.  Names with nothing to escape, no two of them the
same, are enough for that. -/
theorem signed_verifies (links : BucketLinks) (accessKey : AccessKey)
    (keyed : links.accessKey = some accessKey) (endpoint region bucket : String)
    (addressed : BucketAddress.ofText endpoint region bucket = .ok links.address)
    (method key : String) (expires : UInt64) (parameters : List Parameter)
    (foreign : AreForeign parameters) (now : Int) :
    let pairs := links.signedPairs accessKey expires parameters now
    let query := canonicalQuery (sorted pairs)
    links.signed method key expires parameters now =
        (links.plain key).map (links.withSignature accessKey expires parameters now method) ∧
      (writtenPairs query).Perm (pairs.map escaped) ∧
      (query = prescribedQuery pairs ↔ KeepsOrder pairs) ∧
      (∀ url, links.plain key = .ok url →
        let signedUrl := links.withSignature accessKey expires parameters now method url
        (∃ host, signedUrl.hostText? = some host) ∧
        ∃ signed, signedUrl.signedQuery? = some signed ∧
          (signed.request method signedUrl =
              links.signedRequest accessKey expires parameters now method url ↔
            KeepsOrder pairs) ∧
          (KeepsOrder pairs → accessKey.Accepts links.address.region method signedUrl)) ∧
      (HasPlainNames parameters → KeepsOrder pairs) := by
  have own := plain_own links (hasOwnPort_endpoint _ _ _ _ addressed) key
  refine ⟨signed_eq keyed method key, ?_, canonicalQuery_eq_prescribedQuery_iff _, ?_, ?_⟩
  · rw [writtenPairs_canonicalQuery]
    exact (sorted_perm _).map escaped
  · intro url made
    refine ⟨plain_hosted links key url made, _, signedQuery?_withSignature foreign method url, ?_, ?_⟩
    · exact request_eq_signedRequest_iff method url (own url made)
    · exact accepts_withSignature foreign method url (own url made)
  · intro names
    exact (names.signedPairs foreign).keepsOrder

def localSigner : BucketLinks := ⟨.onLocalHost, some ⟨"AKIDEXAMPLE", "secret"⟩, true⟩

theorem localSigner_addressed :
    BucketAddress.ofText "http://localhost:9000" "us-east-1" "bucket" =
      .ok localSigner.address := by
  decide +kernel

/-- A presentation of the download, spaces and quotes in it, is signed as it should be. -/
theorem signed_verifies_presented :
    let parameters : List Parameter :=
      [("response-content-disposition", "attachment; filename=\"a.bin\"")]
    AreForeign parameters ∧ HasPlainNames parameters ∧
      ∃ url, localSigner.signed "GET" "acme/widgets/abc" 900 parameters 1700000000 = .ok url ∧
        AccessKey.Accepts ⟨"AKIDEXAMPLE", "secret"⟩ "us-east-1" "GET" url := by
  intro parameters
  have foreign : AreForeign parameters := by decide
  have names : HasPlainNames parameters := ⟨by decide +kernel, by decide⟩
  obtain ⟨made, -, -, checked, keeps⟩ := signed_verifies localSigner ⟨"AKIDEXAMPLE", "secret"⟩ rfl
    "http://localhost:9000" "us-east-1" "bucket" localSigner_addressed "GET" "acme/widgets/abc" 900
    parameters foreign 1700000000
  obtain ⟨-, signed, -, -, accepted⟩ := checked _ rfl
  exact ⟨foreign, names, _, made, accepted (keeps names)⟩

/-- A digit comes before a colon, but after the percent sign that a colon is escaped with.  So not
every signed URL lets a server rebuild the request that was signed. -/
theorem signed_verifies_misordered :
    ¬ ∀ (links : BucketLinks) (accessKey : AccessKey), links.accessKey = some accessKey →
        ∀ endpoint region bucket : String,
          BucketAddress.ofText endpoint region bucket = .ok links.address →
          BucketRequest.isWeb links.address.endpoint = true →
          ∀ (method key : String) (expires : UInt64) (parameters : List Parameter),
            AreForeign parameters →
            ∀ now : Int, 0 ≤ (Calendar.dateOfDay (now.fdiv 86400)).year →
              (Calendar.dateOfDay (now.fdiv 86400)).year ≤ 9999 →
              ∀ plainUrl url, links.plain key = .ok plainUrl →
                links.signed method key expires parameters now = .ok url →
                url.signedQuery?.map (fun signed => signed.request method url) =
                  some (links.signedRequest accessKey expires parameters now method plainUrl) := by
  intro verifies
  have foreign : AreForeign [("tag:a", "1"), ("tag0", "2")] := by decide
  obtain ⟨plainUrl, made⟩ : ∃ url, localSigner.plain "acme/widgets/abc" = .ok url := ⟨_, rfl⟩
  have own := plain_own localSigner (hasOwnPort_endpoint _ _ _ _ localSigner_addressed) _ _ made
  have signed : localSigner.signed "GET" "acme/widgets/abc" 900 [("tag:a", "1"), ("tag0", "2")]
      1700000000 = _ := signed_eq rfl _ _
  rw [made] at signed
  have rebuilt := verifies localSigner _ rfl _ _ _ localSigner_addressed (by decide) "GET" _ 900 _
    foreign 1700000000 (by decide +kernel) (by decide +kernel) plainUrl _ made signed
  rw [signedQuery?_withSignature foreign, Option.map_some, Option.some_inj,
    request_eq_signedRequest_iff _ _ own] at rebuilt
  have kept := rebuilt ("tag0", "2") (by decide +kernel) ("tag:a", "1") (by decide +kernel)
    (by decide +kernel)
  revert kept
  decide +kernel

end ObjectTransfer.BucketLinks
