import ObjectTransfer.Proofs.Link.BucketPaths
import ObjectTransfer.Store.Bucket

/-!
# Where the requests for an object go

Every request that a store makes for an object of a bucket, and every download
that it hands out, has one of the URLs of the object's key.  So if neither the
folder nor the names of the object hold a dot segment, all of them name the
object's own path below the bucket and the folder.

That a store makes no other request is said through its transport: two
transports that carry these requests alike cannot be told apart.
-/

set_option autoImplicit false

namespace ObjectTransfer

/-- Two stores that cannot be told apart by what they do with one object. -/
structure Store.AgreeOn {σ : Type} (first second : Store σ) (place oid : String) : Prop where
  holds : first.holds place oid = second.holds place oid
  size : first.size place oid = second.size place oid
  get : first.get place oid = second.get place oid
  put : ∀ content, first.put place oid content = second.put place oid content
  mimeType : first.mimeType place oid = second.mimeType place oid
  downloadAction : ∀ size lifetime hints,
    first.downloadAction place oid size lifetime hints =
      second.downloadAction place oid size lifetime hints

namespace BucketStore

variable {τ α : Type}

/-! ## Objects below a folder -/

def base (bucket : BucketStore) : List String :=
  "" :: (bucket.links.root ++
    match bucket.folder with
    | some folder => Text.pieces '/' folder
    | none => [])

theorem wantedPath_key (bucket : BucketStore) (place oid : String) :
    bucket.links.wantedPath (bucket.key place oid) =
      bucket.base ++ (Text.pieces '/' place ++ Text.pieces '/' oid) := by
  unfold key base BucketLinks.wantedPath
  cases bucket.folder with
  | none => simp [Text.pieces_append]
  | some folder => simp [Text.pieces_append]

theorem isDotFree_append (left right : String) :
    BucketLinks.IsDotFree (left ++ "/" ++ right) ↔
      BucketLinks.IsDotFree left ∧ BucketLinks.IsDotFree right := by
  simp only [BucketLinks.IsDotFree, Text.pieces_append, List.mem_append, not_or]
  exact and_and_and_comm

theorem isDotFree_key (bucket : BucketStore) (place oid : String)
    (folders : ∀ folder ∈ bucket.folder, BucketLinks.IsDotFree folder)
    (placed : BucketLinks.IsDotFree place) (named : BucketLinks.IsDotFree oid) :
    BucketLinks.IsDotFree (bucket.key place oid) := by
  unfold key
  cases folder : bucket.folder with
  | none => exact (isDotFree_append place oid).mpr ⟨placed, named⟩
  | some name =>
    have below := (isDotFree_append name place).mpr ⟨folders name folder, placed⟩
    exact (isDotFree_append (name ++ "/" ++ place) oid).mpr ⟨below, named⟩

/-! ## Requests -/

theorem send_congr (first second : Transport τ) (request : BucketRequest)
    (alike : first request = second request) : send first request = send second request := by
  unfold send
  rw [alike]

theorem signed_bind_congr (bucket : BucketStore) (method place oid : String) (now : Int)
    (first second : Url → Step τ StoreFailure α)
    (alike : ∀ url, bucket.links.Gives (bucket.key place oid) url → first url = second url) :
    bucket.signed method place oid now >>= first =
      bucket.signed method place oid now >>= second := by
  unfold signed
  cases made : bucket.links.signed method (bucket.key place oid) ownLifetime [] now with
  | error error => rfl
  | ok url =>
    have same := alike url (.signed method ownLifetime [] now url made)
    simp only [pure_bind, same]

/-- The store sends requests to the URLs of an object's key only. -/
theorem agreeOn_of_transports (bucket : BucketStore) (now : Int) (place oid : String)
    (first second : Transport τ)
    (alike : ∀ request, bucket.links.Gives (bucket.key place oid) request.url →
      first request = second request) :
    (bucket.store first now).AgreeOn (bucket.store second now) place oid := by
  have heads : bucket.head first now place oid = bucket.head second now place oid := by
    refine signed_bind_congr bucket "HEAD" place oid now _ _ fun url given => ?_
    rw [send_congr first second _ (alike _ given)]
  refine ⟨?_, ?_, ?_, ?_, ?_, fun _ _ _ => rfl⟩
  · simp only [store, heads]
  · simp only [store, size, heads]
  · refine signed_bind_congr bucket "GET" place oid now _ _ fun url given => ?_
    rw [send_congr first second _ (alike _ given)]
  · intro content
    refine signed_bind_congr bucket "PUT" place oid now _ _ fun url given => ?_
    cases content.joined with
    | error error => rfl
    | ok body =>
      have sent := send_congr first second ⟨"PUT", url, some octetStream, body⟩ (alike _ given)
      simp only [sent]
  · simp only [store, mimeType, heads]

theorem downloadAction_eq_ok (bucket : BucketStore) (now : Int) (place oid : String)
    (lifetime : UInt64) (hints : Hints) (action : Action)
    (handed : bucket.downloadAction now place oid lifetime hints = .ok (some action)) :
    ∃ url, bucket.links.Gives (bucket.key place oid) url ∧ action.href = url.text := by
  obtain ⟨url, made, same⟩ := (bind_eq_ok_iff _ _ _).mp handed
  cases same
  exact ⟨url, .signed _ _ _ _ url made, rfl⟩

/-! ## Confinement -/

/-- Whether a URL is at the host of the bucket, with a path that names an object below the bucket and
the folder. -/
structure Names (bucket : BucketStore) (place oid : String) (url : Url) : Prop where
  host : bucket.links.Hosts url
  path : url.namedPath =
    (bucket.base ++ (Text.pieces '/' place ++ Text.pieces '/' oid)).map some

/-- Neither the store itself nor a client with a download from it goes anywhere but to the path of
the object, below the bucket and the folder. -/
structure Confines (bucket : BucketStore) (place oid : String) : Prop where
  requests : ∀ {τ : Type} (now : Int) (first second : Transport τ),
    (∀ request, bucket.Names place oid request.url → first request = second request) →
      (bucket.store first now).AgreeOn (bucket.store second now) place oid
  downloads : ∀ now lifetime hints action,
    bucket.downloadAction now place oid lifetime hints = .ok (some action) →
      ∃ url, action.href = url.text ∧ bucket.Names place oid url

theorem confines_of_isDotFree (bucket : BucketStore) (proper : bucket.links.IsProper)
    (place oid : String) (free : BucketLinks.IsDotFree (bucket.key place oid)) :
    bucket.Confines place oid := by
  have within : ∀ url, bucket.links.Gives (bucket.key place oid) url →
      bucket.Names place oid url := by
    intro url given
    refine ⟨given.hosts proper, ?_⟩
    rw [← wantedPath_key]
    exact bucket.links.namedPath_of_isDotFree proper _ url given free
  refine ⟨fun now first second alike => ?_, fun now lifetime hints action handed => ?_⟩
  · exact agreeOn_of_transports bucket now place oid first second fun request given =>
      alike request (within _ given)
  · obtain ⟨url, given, same⟩ := downloadAction_eq_ok bucket now place oid lifetime hints action
      handed
    exact ⟨url, same, within url given⟩

/-- The URLs of a key are all at the host of the bucket.  They name the bucket and the key exactly if
the key has no dot segments; such keys have different URLs if they are different, and whatever is
done with an object whose organization, repository and id have none stays at its own path below the
folder. -/
theorem urls_name_keys (bucket : BucketStore) (proper : bucket.links.IsProper) :
    (∀ key url, bucket.links.Gives key url → bucket.links.Hosts url ∧
      (url.namedPath = (bucket.links.wantedPath key).map some ↔ BucketLinks.IsDotFree key)) ∧
    (∀ key other url same, bucket.links.Gives key url → bucket.links.Gives other same →
      BucketLinks.IsDotFree key → BucketLinks.IsDotFree other → url.text = same.text →
        key = other) ∧
    ∀ organization repository oid, (∀ folder ∈ bucket.folder, BucketLinks.IsDotFree folder) →
      BucketLinks.IsDotFree organization → BucketLinks.IsDotFree repository →
      BucketLinks.IsDotFree oid → bucket.Confines (placeOf organization repository) oid := by
  refine ⟨?_, bucket.links.key_eq_of_text_eq proper, ?_⟩
  · intro key url given
    exact ⟨given.hosts proper, bucket.links.namedPath_eq_iff proper key url given⟩
  intro organization repository oid folders org repo named
  have placed := (isDotFree_append organization repository).mpr ⟨org, repo⟩
  exact confines_of_isDotFree bucket proper _ oid (isDotFree_key bucket _ oid folders placed named)

def localBucket : BucketStore := ⟨⟨.onLocalHost, none, true⟩, none⟩

theorem localBucket_isProper : localBucket.links.IsProper :=
  ⟨by decide, by decide, by decide⟩

def hostedBucket : BucketStore where
  links :=
    { address :=
        { endpoint := ⟨"https", some ⟨[], none, some (.domain "s3.example.com".toList), none⟩,
            false, .segments [[]], none, none⟩
          host := "s3.example.com".toList
          region := "eu-west-1"
          bucket := "my-bucket"
          hosted := rfl }
      accessKey := none
      pathStyle := false }
  folder := none

theorem hostedBucket_isProper : hostedBucket.links.IsProper :=
  ⟨by decide, by decide, by decide⟩

theorem urls_name_keys_both_styles :
    localBucket.links.IsProper ∧ hostedBucket.links.IsProper ∧
      (∃ url, localBucket.links.plain "acme/..b/%2e%2e/ü" = .ok url ∧
        localBucket.links.Hosts url ∧
        url.namedPath = ["", "bucket", "acme", "..b", "%2e%2e", "ü"].map some) ∧
      ∃ url, hostedBucket.links.plain "acme/..b/%2e%2e/ü" = .ok url ∧
        hostedBucket.links.Hosts url ∧ url.hostText? = some "my-bucket.s3.example.com".toList ∧
        url.namedPath = ["", "acme", "..b", "%2e%2e", "ü"].map some := by
  refine ⟨localBucket_isProper, hostedBucket_isProper, ⟨_, rfl, ?_⟩, ?_⟩
  · obtain ⟨hosts, named⟩ := (urls_name_keys localBucket localBucket_isProper).1
      "acme/..b/%2e%2e/ü" _ (.plain _ rfl)
    exact ⟨hosts, named.mpr (by decide +kernel)⟩
  · have hosted : (hostedBucket.links.plain "acme/..b/%2e%2e/ü").toOption.bind Url.hostText? =
        some "my-bucket.s3.example.com".toList := by decide +kernel
    cases made : hostedBucket.links.plain "acme/..b/%2e%2e/ü" with
    | error failure =>
      rw [made] at hosted
      cases hosted
    | ok url =>
      obtain ⟨hosts, named⟩ := (urls_name_keys hostedBucket hostedBucket_isProper).1 _ _
        (.plain url made)
      rw [made] at hosted
      exact ⟨url, rfl, hosts, hosted, named.mpr (by decide +kernel)⟩

/-- Dot segments in a key lead out of the bucket. -/
theorem urls_name_keys_outside :
    ¬ ∀ (links : BucketLinks), links.IsProper → ∀ key url, links.Gives key url →
        url.namedPath = (links.wantedPath key).map some := by
  intro exactly
  have named := exactly localBucket.links localBucket_isProper
    "acme/widgets/../../../other/secret" _ (.plain _ rfl)
  revert named
  decide +kernel

end BucketStore

end ObjectTransfer
