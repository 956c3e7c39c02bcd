import ObjectTransfer.Proofs.Exchange.MemoryRequests
import ObjectTransfer.Proofs.Link.DownloadQueries
import ObjectTransfer.Proofs.Store.BucketReplies
import ObjectTransfer.Proofs.Store.FileRequests
import ObjectTransfer.Store.Registry

/-!
# Every backend presents a download in the same way

The hints of a client come to one presentation, whichever way the download
takes.  A server that hands out links to itself finds the hints in their
queries again, and presents the content as they say when it is asked for it; a
bucket is asked for that presentation by the link itself.
-/

set_option autoImplicit false

namespace ObjectTransfer

variable {σ ρ : Type}

/-! ## What is there to be downloaded -/

/-- All that a download asks is answered with an object that is there, and changes nothing. -/
structure Store.Gives (store : Store σ) (place oid : String) (state : σ) (content : Content) :
    Prop where
  holds : store.holds place oid state = (.ok true, state)
  mimeType : store.mimeType place oid state = (.ok octetStream, state)
  get : store.get place oid state = (.ok content, state)

theorem Store.Gives.focus {store : Store ρ} {place oid : String} {view : σ → ρ}
    {update : ρ → σ → σ} {state : σ} {content : Content}
    (gives : store.Gives place oid (view state) content)
    (same : update (view state) state = state) :
    (store.focus view update).Gives place oid state content := by
  have kept : ∀ {α : Type} {step : Step ρ StoreFailure α} {outcome : Except StoreFailure α},
      step (view state) = (outcome, view state) →
      onPart view update step state = (outcome, state) := by
    intro α step outcome ran
    unfold onPart
    rw [ran]
    exact congrArg (Prod.mk outcome) same
  exact ⟨kept gives.holds, kept gives.mimeType, kept gives.get⟩

theorem MemoryStore.exists_gives {memory : MemoryStore} {place oid : String}
    {objects : MemoryObjects} (held : (memory.store.holds place oid objects).1 = .ok true) :
    ∃ content, memory.store.Gives place oid objects content := by
  obtain ⟨octets, there⟩ := Option.isSome_iff_exists.mp (Except.ok.inj held)
  refine ⟨Content.ofOctets octets, Prod.ext held rfl, rfl, ?_⟩
  rw [get_apply, there]

theorem FileStore.exists_gives {files : FileStore} {place oid : String} {world : FileWorld}
    (held : (files.store.holds place oid world).1 = .ok true) :
    ∃ content, files.store.Gives place oid world content := by
  obtain ⟨node, there⟩ := files.exists_found_of_holds place oid world held
  refine ⟨nodeContent node, Prod.ext held ?_, rfl, ?_⟩
  · rw [holds_apply]
  · rw [get_apply, there]
    rfl

/-! ## The headers of a download -/

namespace Objects

theorem presentation_downloadHeaders (hints : Hints) (mimeType : String) :
    (downloadHeaders hints mimeType).get? Download.presentationHeader = hints.presentation := by
  have other : Download.presentationHeader ≠ Download.typeHeader := by decide
  unfold downloadHeaders
  rw [Dictionary.get?_insert, if_neg other]
  cases hints.presentation with
  | none => rfl
  | some value => exact (Dictionary.get?_insert _ _ _ _).trans (if_pos rfl)

theorem fetch_of_gives {store : Store σ} {authority : Authority}
    {organization repository oid : String} {state : σ} {content : Content}
    (gives : store.Gives (placeOf organization repository) oid state content)
    (granted : authority organization repository .read (some oid) = true) (hints : Hints) :
    fetch store authority organization repository oid hints state =
      (.ok ⟨downloadHeaders hints octetStream, content⟩, state) := by
  unfold fetch allowed
  rw [if_pos granted, Step.bind_apply, Step.ofStore_apply, gives.holds]
  simp only [Except.mapError, if_true]
  rw [Step.bind_apply, Step.ofStore_apply, gives.mimeType]
  simp only [Except.mapError]
  rw [Step.bind_apply, Step.ofStore_apply, gives.get]
  rfl

end Objects

/-! ## Servers of their own downloads -/

namespace Backend

def endpoints? : Backend → Option Endpoints
  | .memory store => store.endpoints
  | .files store => store.endpoints
  | .bucket _ => none

variable {τ : Type} {backend : Backend} {endpoints : Endpoints} (transport : Transport τ)
  (now : Int)

theorem downloadAction_of_served (served : backend.endpoints? = some endpoints)
    (place oid : String) (size lifetime : UInt64) (hints : Hints) (world : StoreWorld τ) :
    ((backend.store transport now).downloadAction place oid size lifetime hints world).1 =
      .ok (some ⟨(endpoints.download place oid hints).text, Dictionary.empty, lifetime⟩) := by
  cases backend with
  | memory store =>
    change store.endpoints = some endpoints at served
    change Except.ok (MemoryStore.downloadFrom store.endpoints place oid lifetime hints) = _
    rw [served]
    rfl
  | files store =>
    change store.endpoints = some endpoints at served
    change Except.ok (MemoryStore.downloadFrom store.endpoints place oid lifetime hints) = _
    rw [served]
    rfl
  | bucket store => cases served

theorem exists_gives_of_served (served : backend.endpoints? = some endpoints) {place oid : String}
    {world : StoreWorld τ}
    (held : ((backend.store transport now).holds place oid world).1 = .ok true) :
    ∃ content, (backend.store transport now).Gives place oid world content := by
  cases backend with
  | memory store =>
    change (store.store.holds place oid world.objects).1 = .ok true at held
    obtain ⟨content, gives⟩ := store.exists_gives held
    exact ⟨content, gives.focus rfl⟩
  | files store =>
    obtain ⟨content, gives⟩ := store.exists_gives held
    exact ⟨content, gives.focus rfl⟩
  | bucket store => cases served

end Backend

/-- A download is presented as the hints say, whichever backend it comes from.  A backend that
offers downloads from endpoints puts the hints, as they are, behind the pairs in the query of the
base; unless that has pairs of their names itself, a reader who asks for an object that is there
with the hints in that query gets it with the header that they imply.  The link to a bucket asks for
that header itself, and if it is signed it holds as long as was asked for. -/
theorem presentation_agrees {τ : Type} (transport : Transport τ) (now : Int) (place oid : String)
    (size lifetime : UInt64) (hints : Hints) (world : StoreWorld τ) :
    (∀ (backend : Backend) (endpoints : Endpoints) (text : String),
      backend.endpoints? = some endpoints → Url.parse text = .ok endpoints.base →
      ∃ action,
        ((backend.store transport now).downloadAction place oid size lifetime hints world).1 =
          .ok (some action) ∧
        action.lifetime = lifetime ∧
        pairsOfLink action.href = Endpoints.pairsOf endpoints.base ++ hints.pairs ∧
        (Hints.AreForeign (Endpoints.pairsOf endpoints.base) →
          Hints.ofPairs (pairsOfLink action.href) = hints ∧
          ∀ (authority : Authority) (organization repository : String) (later : StoreWorld τ),
            placeOf organization repository = place →
            authority organization repository .read (some oid) = true →
            ((backend.store transport now).holds place oid later).1 = .ok true →
            ∃ download,
              (Objects.fetch (backend.store transport now) authority organization repository oid
                (Hints.ofPairs (pairsOfLink action.href)) later).1 = .ok download ∧
              download.headers.get? Download.presentationHeader = hints.presentation)) ∧
    ∀ (bucket : BucketStore) (endpoint region name : String) (offered : Option Action),
      BucketAddress.ofText endpoint region name = .ok bucket.links.address →
      (((Backend.bucket bucket).store transport now).downloadAction place oid size lifetime hints
        world).1 = .ok offered →
      ∃ action pairs, offered = some action ∧ action.lifetime = lifetime ∧
        BucketLinks.queryPairs? action.href = some pairs ∧
        BucketLinks.valuesOf "response-content-disposition" pairs = hints.presentation.toList ∧
        (bucket.links.accessKey.isSome = true →
          BucketLinks.valuesOf "X-Amz-Expires" pairs = [toString action.lifetime.toNat]) := by
  constructor
  · intro backend endpoints text served read
    have linked := endpoints.pairsOfLink_download (Url.parse_parted text _ read) place oid hints
    refine ⟨_, backend.downloadAction_of_served transport now served place oid size lifetime hints
      world, rfl, linked, fun foreign => ?_⟩
    have found : Hints.ofPairs (pairsOfLink (endpoints.download place oid hints).text) = hints := by
      rw [linked, Hints.ofPairs_append foreign]
    refine ⟨found, ?_⟩
    rintro authority organization repository later rfl granted held
    obtain ⟨content, gives⟩ := Backend.exists_gives_of_served transport now served held
    rw [found]
    exact ⟨_, congrArg Prod.fst (Objects.fetch_of_gives gives granted hints),
      Objects.presentation_downloadHeaders hints octetStream⟩
  · intro bucket endpoint region name offered addressed success
    have parted := BucketLinks.isParted_endpoint endpoint region name _ addressed
    have made : bucket.downloadAction now place oid lifetime hints = .ok offered := by
      change ((bucket.store transport now).downloadAction place oid size lifetime hints
        world.network).1 = .ok offered at success
      rwa [BucketStore.downloadAction_apply] at success
    obtain ⟨action, pairs, rfl, rfl, rest⟩ := BucketStore.queryPairs?_downloadAction parted made
    exact ⟨action, pairs, rfl, rfl, rest⟩

def queriedEndpoints : Endpoints :=
  ⟨⟨"http", some ⟨[], none, some (.domain "localhost".toList), some 8080⟩, false,
    .segments ["files".toList], some "a=b".toList, none⟩, rfl⟩

/-- A name with a slash in it loses the slash on every way. -/
theorem presentation_agrees_slash :
    let hints : Hints := ⟨some "a/b c.bin", some "inline"⟩
    let transport : Transport Unit := fun _ state => (none, state)
    let world : StoreWorld Unit := ⟨[(⟨"acme/widgets", "abc"⟩, [1])], ⟨[], 0⟩, ()⟩
    let served := (Backend.memory ⟨some queriedEndpoints⟩).store transport 1700000000
    let stored := (Backend.bucket ⟨BucketLinks.localSigner, none⟩).store transport 1700000000
    (∃ action download,
      (served.downloadAction "acme/widgets" "abc" 1 900 hints world).1 = .ok (some action) ∧
      (Objects.fetch served (fun _ _ permission _ => permission == .read) "acme" "widgets" "abc"
        (Hints.ofPairs (pairsOfLink action.href)) world).1 = .ok download ∧
      download.headers.get? "Content-Disposition" =
        some "attachment; filename=\"ab c.bin\"") ∧
    ∃ action pairs,
      (stored.downloadAction "acme/widgets" "abc" 1 900 hints world).1 = .ok (some action) ∧
      BucketLinks.queryPairs? action.href = some pairs ∧
      BucketLinks.valuesOf "response-content-disposition" pairs =
        ["attachment; filename=\"ab c.bin\""] ∧
      BucketLinks.valuesOf "X-Amz-Expires" pairs = ["900"] := by
  intro hints transport world served stored
  have presented : hints.presentation = some "attachment; filename=\"ab c.bin\"" := by
    decide +kernel
  have read : Url.parse "http://localhost:8080/files?a=b" = .ok queriedEndpoints.base := by
    decide +kernel
  have foreign : Hints.AreForeign (Endpoints.pairsOf queriedEndpoints.base) := by decide +kernel
  obtain ⟨ofServer, ofBucket⟩ := presentation_agrees transport 1700000000 "acme/widgets" "abc" 1 900
    hints world
  constructor
  · obtain ⟨action, made, -, -, again⟩ := ofServer (.memory ⟨some queriedEndpoints⟩)
      queriedEndpoints _ rfl read
    obtain ⟨-, delivered⟩ := again foreign
    obtain ⟨download, success, header⟩ := delivered
      (fun _ _ permission _ => permission == .read) "acme" "widgets" world rfl rfl rfl
    exact ⟨action, download, made, success, header.trans presented⟩
  · have keyed : BucketLinks.localSigner.accessKey = some ⟨"AKIDEXAMPLE", "secret"⟩ := rfl
    have made : ∃ offered, BucketStore.downloadAction ⟨BucketLinks.localSigner, none⟩ 1700000000
        "acme/widgets" "abc" 900 hints = .ok offered := by
      rw [BucketStore.downloadAction_eq, BucketLinks.signed_eq keyed]
      exact ⟨_, rfl⟩
    obtain ⟨offered, handed⟩ := made
    have success : (stored.downloadAction "acme/widgets" "abc" 1 900 hints world).1 = .ok offered :=
      (congrArg Prod.fst (BucketStore.downloadAction_apply ⟨BucketLinks.localSigner, none⟩
        transport 1700000000 "acme/widgets" "abc" 1 900 hints ())).trans handed
    obtain ⟨action, pairs, rfl, lasting, there, asked, expires⟩ := ofBucket
      ⟨BucketLinks.localSigner, none⟩ _ _ _ offered BucketLinks.localSigner_addressed success
    refine ⟨action, pairs, success, there, ?_, ?_⟩
    · rw [asked, presented]
      rfl
    · rw [expires rfl, lasting]
      rfl

end ObjectTransfer
