import ObjectTransfer.Proofs.Exchange.MemoryRequests
import ObjectTransfer.Proofs.Store.FileRequests

/-!
# Three checks of one object

Before an upload the store is asked whether the object is there and how big it
is, a verification has the store compare the sizes, and a download compares them
itself.  The three agree whenever the report of the store is coherent: what has
a size is there, and whatever is there can be downloaded.  So a client that has
nothing to upload is not turned away afterwards.

The reports of stores in memory and in files are coherent, whatever they hold.
-/

set_option autoImplicit false

namespace ObjectTransfer

variable {σ : Type} {steady : σ → Prop} {report : StoreReport}

/-- What has a size is there, and downloads never fail on their own. -/
structure StoreReport.IsCoherent (report : StoreReport) : Prop where
  holds : ∀ place oid stored, report.size place oid = .ok stored → report.holds place oid = .ok true
  downloadAction : ∀ place oid size lifetime hints,
    ∃ action, report.downloadAction place oid size lifetime hints = .ok action

theorem MemoryStore.isCoherent_report (memory : MemoryStore) (objects : MemoryObjects) :
    (memory.report objects).IsCoherent where
  holds place oid stored measured := by
    simp only [report] at measured ⊢
    cases held : objects.get? ⟨place, oid⟩ with
    | none =>
      rw [held] at measured
      cases measured
    | some content => rfl
  downloadAction _ _ _ _ _ := ⟨_, rfl⟩

theorem FileStore.isCoherent_report (files : FileStore) (tree : FileTree) :
    (files.report tree).IsCoherent where
  holds place oid stored measured := by
    simp only [report] at measured ⊢
    cases there : files.found tree place oid with
    | error error =>
      rw [there] at measured
      cases measured
    | ok node => rfl
  downloadAction _ _ _ _ _ := ⟨_, rfl⟩

/-! ## What each of the checks comes to -/

theorem Objects.verify_of_keeps {store : Store σ} (keeps : store.KeepsTo steady report)
    {authority : Authority} {organization repository oid : String}
    (granted : authority organization repository .readMeta (some oid) = true) (size : UInt64)
    {state : σ} (inside : steady state) :
    (Objects.verify store authority organization repository ⟨oid, size⟩ state).1 =
      match report.verify (placeOf organization repository) oid size with
      | .ok true => .ok ()
      | .ok false => .error (.invalidPayload "Object does not exist or size does not match")
      | .error error => .error (.store error) := by
  have settled := (keeps.verify (placeOf organization repository) oid size).ofStore
  unfold Objects.verify Objects.allowed
  rw [if_pos granted]
  cases compared : report.verify (placeOf organization repository) oid size with
  | error error =>
    rw [compared] at settled
    exact (settled.bind_error _ state inside).1
  | ok same =>
    rw [compared] at settled
    cases same with
    | true => exact (settled.bind_ok (Step.settled_pure ()) state inside).1
    | false => exact (settled.bind_ok (Step.settled_throw _) state inside).1

theorem StoreReport.verify_eq_ok_true_iff (place oid : String) (size : UInt64) :
    report.verify place oid size = .ok true ↔ report.size place oid = .ok size.toNat := by
  unfold StoreReport.verify
  cases report.size place oid with
  | ok held => simp
  | error error => cases error <;> simp

theorem Objects.verify_eq_ok_iff {store : Store σ} (keeps : store.KeepsTo steady report)
    {authority : Authority} {organization repository oid : String}
    (granted : authority organization repository .readMeta (some oid) = true) (size : UInt64)
    {state : σ} (inside : steady state) :
    (Objects.verify store authority organization repository ⟨oid, size⟩ state).1 = .ok () ↔
      report.size (placeOf organization repository) oid = .ok size.toNat := by
  rw [← StoreReport.verify_eq_ok_true_iff, Objects.verify_of_keeps keeps granted size inside]
  cases report.verify (placeOf organization repository) oid size with
  | error error => simp
  | ok same => cases same <;> simp

namespace BasicTransfer

variable (basic : BasicTransfer σ) (organization repository oid : String) (size : UInt64)
  (state : σ)

def IsUploaded (now : Int) : Prop :=
  ∃ answer, (basic.upload now organization repository oid size state).1 = .ok answer ∧
    answer.offers = none

def IsDownloadable (hints : Hints) : Prop :=
  ∃ answer, (basic.download organization repository oid size hints state).1 = .ok answer ∧
    answer.refusal = none

variable {basic organization repository oid size state}

theorem not_isUploaded_of_lacks (keeps : basic.store.KeepsTo steady report)
    (lacks : report.Lacks (placeOf organization repository) ⟨oid, size, none⟩)
    (inside : steady state) (now : Int) :
    ¬ basic.IsUploaded organization repository oid size state now := by
  rintro ⟨answer, answered, nothing⟩
  by_cases issues : basic.Issues now organization repository oid
  · obtain ⟨_, _, first, second⟩ := issues
    have offered := upload_of_issues now organization repository keeps lacks first second
    rw [(offered state inside).1] at answered
    cases answered
    cases nothing
  · obtain ⟨_, stopped⟩ := upload_of_not_issues now organization repository keeps lacks issues
    rw [(stopped state inside).1] at answered
    cases answered

theorem isUploaded_iff (keeps : basic.store.KeepsTo steady report) (coherent : report.IsCoherent)
    (inside : steady state) (now : Int) :
    basic.IsUploaded organization repository oid size state now ↔
      report.size (placeOf organization repository) oid = .ok size.toNat := by
  constructor
  · intro uploaded
    rcases report.upload_cases (placeOf organization repository) ⟨oid, size, none⟩
      basic.transferLifetime with ⟨fault, fails⟩ | has | lacks
    · obtain ⟨answer, answered, _⟩ := uploaded
      have stopped := upload_of_fails now organization repository keeps fails
      rw [(stopped state inside).1] at answered
      cases answered
    · exact has.2
    · exact absurd uploaded (not_isUploaded_of_lacks keeps lacks inside now)
  · intro measured
    have has : report.Has (placeOf organization repository) ⟨oid, size, none⟩ :=
      ⟨coherent.holds _ _ _ measured, measured⟩
    exact ⟨_, (upload_of_has now organization repository keeps has state inside).1, rfl⟩

theorem isDownloadable_iff (keeps : basic.store.KeepsTo steady report)
    (coherent : report.IsCoherent) (inside : steady state) (hints : Hints) :
    basic.IsDownloadable organization repository oid size state hints ↔
      report.size (placeOf organization repository) oid = .ok size.toNat := by
  constructor
  · rintro ⟨answer, answered, fine⟩
    refine Classical.byContradiction fun other => ?_
    obtain ⟨fault, fails⟩ : ∃ fault, report.Fails (placeOf organization repository)
        ⟨oid, size, some hints⟩ basic.transferLifetime .download fault := by
      cases measured : report.size (placeOf organization repository) oid with
      | error fault => exact ⟨fault, .size measured⟩
      | ok stored =>
        refine ⟨_, .mismatch measured fun same => other ?_⟩
        rw [measured, same]
    have refused := download_of_offer organization repository oid size hints
      (offer_of_fails keeps fails)
    rw [(refused state inside).1] at answered
    cases answered
    cases fine
  · intro measured
    obtain ⟨action, given⟩ := coherent.downloadAction (placeOf organization repository) oid size
      basic.transferLifetime hints
    have offered := offer_of_size keeps measured hints
    rw [given] at offered
    have answered := download_of_offer organization repository oid size hints offered
    refine ⟨_, (answered state inside).1, ?_⟩
    cases action <;> rfl

theorem isUploaded_iff_verified (keeps : basic.store.KeepsTo steady report)
    (coherent : report.IsCoherent) (inside : steady state) (now : Int) {authority : Authority}
    (granted : authority organization repository .readMeta (some oid) = true) :
    basic.IsUploaded organization repository oid size state now ↔
      (Objects.verify basic.store authority organization repository ⟨oid, size⟩ state).1 = .ok () :=
  (isUploaded_iff keeps coherent inside now).trans
    (Objects.verify_eq_ok_iff keeps granted size inside).symm

theorem verified_iff_isDownloadable (keeps : basic.store.KeepsTo steady report)
    (coherent : report.IsCoherent) (inside : steady state) (hints : Hints) {authority : Authority}
    (granted : authority organization repository .readMeta (some oid) = true) :
    (Objects.verify basic.store authority organization repository ⟨oid, size⟩ state).1 = .ok () ↔
      basic.IsDownloadable organization repository oid size state hints :=
  (Objects.verify_eq_ok_iff keeps granted size inside).trans
    (isDownloadable_iff keeps coherent inside hints).symm

end BasicTransfer

/-! ## Objects that a store in memory has not -/

namespace MemoryStore

variable {memory : MemoryStore} {objects : MemoryObjects} {organization repository oid : String}
  {size : UInt64}

def Misses (objects : MemoryObjects) (place oid : String) (size : UInt64) : Prop :=
  (objects.get? ⟨place, oid⟩).map List.length ≠ some size.toNat

theorem Misses.lacks {place : String} (misses : Misses objects place oid size) :
    (memory.report objects).Lacks place ⟨oid, size, none⟩ := by
  unfold Misses at misses
  simp only [StoreReport.Lacks, report]
  cases held : objects.get? ⟨place, oid⟩ with
  | none => exact .inl rfl
  | some content =>
    refine .inr ⟨rfl, content.length, rfl, fun same => misses ?_⟩
    rw [held, Option.map_some, same]

/-- The error of a download tells whether the object is absent or has another size. -/
theorem Misses.refused {basic : BasicTransfer MemoryObjects} (inMemory : basic.store = memory.store)
    (misses : Misses objects (placeOf organization repository) oid size) (hints : Hints) :
    ∃ answer refusal,
      (basic.download organization repository oid size hints objects).1 = .ok answer ∧
      answer.refusal = some refusal ∧
      (refusal.code = 404 ↔ objects.get? ⟨placeOf organization repository, oid⟩ = none) ∧
      (refusal.code = 422 ↔ ∃ content,
        objects.get? ⟨placeOf organization repository, oid⟩ = some content ∧
          content.length ≠ size.toNat) := by
  have keeps := memory.keepsTo objects
  rw [← inMemory] at keeps
  have answered : ∀ fault, (memory.report objects).Fails (placeOf organization repository)
      ⟨oid, size, some hints⟩ basic.transferLifetime .download fault →
      (basic.download organization repository oid size hints objects).1 =
        .ok ((Answer.ofObject oid size).refusing fault.refusal) := fun fault fails =>
    (BasicTransfer.download_of_offer organization repository oid size hints
      (BasicTransfer.offer_of_fails keeps fails) objects rfl).1
  cases held : objects.get? ⟨placeOf organization repository, oid⟩ with
  | none =>
    refine ⟨_, _, answered .notFound (.size ?_), rfl, by simp [StoreFailure.refusal,
      StoreFailure.code], by simp [StoreFailure.refusal, StoreFailure.code]⟩
    simp only [report, held]
  | some content =>
    have other : content.length ≠ size.toNat := fun same =>
      misses (by rw [held, Option.map_some, same])
    refine ⟨_, _, answered _ (.mismatch ?_ other), rfl, ?_, ?_⟩
    · simp only [report, held]
    · simp [StoreFailure.refusal, StoreFailure.code]
    · simp [StoreFailure.refusal, StoreFailure.code, other]

end MemoryStore

/-! ## Agreement -/

/-- Whatever a store in memory or in files holds, an object has nothing to upload exactly if it can
be verified, and exactly if its download is not refused.  If memory has no object of the size, the
upload is offered with its verification, the verification fails for the payload, and the error of
the download tells an absent object from one of another size. -/
theorem upload_verify_download_agree (authority : Authority) (organization repository oid : String)
    (granted : authority organization repository .readMeta (some oid) = true) (size : UInt64)
    (hints : Hints) (now : Int) :
    (∀ (memory : MemoryStore) (basic : BasicTransfer MemoryObjects) (objects : MemoryObjects),
      basic.store = memory.store →
      let verified :=
        (Objects.verify basic.store authority organization repository ⟨oid, size⟩ objects).1
      let held := objects.get? ⟨placeOf organization repository, oid⟩
      (basic.IsUploaded organization repository oid size objects now ↔ verified = .ok ()) ∧
      (verified = .ok () ↔ basic.IsDownloadable organization repository oid size objects hints) ∧
      (verified ≠ .ok () →
        (basic.Issues now organization repository oid → ∃ answer upload verify,
          (basic.upload now organization repository oid size objects).1 = .ok answer ∧
          answer.offers = some ⟨some upload, some verify, none⟩) ∧
        (∃ reason, verified = .error (.invalidPayload reason)) ∧
        ∃ answer refusal,
          (basic.download organization repository oid size hints objects).1 = .ok answer ∧
          answer.refusal = some refusal ∧ (refusal.code = 404 ↔ held = none) ∧
          (refusal.code = 422 ↔ ∃ content, held = some content ∧ content.length ≠ size.toNat))) ∧
    (∀ (files : FileStore) (basic : BasicTransfer FileWorld) (world : FileWorld),
      basic.store = files.store →
      let verified :=
        (Objects.verify basic.store authority organization repository ⟨oid, size⟩ world).1
      (basic.IsUploaded organization repository oid size world now ↔ verified = .ok ()) ∧
      (verified = .ok () ↔ basic.IsDownloadable organization repository oid size world hints)) := by
  constructor
  · intro memory basic objects inMemory verified held
    have keeps := memory.keepsTo objects
    rw [← inMemory] at keeps
    have coherent := memory.isCoherent_report objects
    refine ⟨BasicTransfer.isUploaded_iff_verified keeps coherent rfl now granted,
      BasicTransfer.verified_iff_isDownloadable keeps coherent rfl hints granted, fun failed => ?_⟩
    have outcome : verified =
        if held.map List.length = some size.toNat then .ok ()
        else .error (.invalidPayload "Object does not exist or size does not match") := by
      have whole := memory.verified authority organization repository objects ⟨oid, size⟩
      rw [← inMemory, if_pos granted] at whole
      exact congrArg Prod.fst whole
    have misses : MemoryStore.Misses objects (placeOf organization repository) oid size :=
      fun same => failed (outcome.trans (if_pos same))
    refine ⟨fun issues => ?_, ⟨_, outcome.trans (if_neg misses)⟩, misses.refused inMemory hints⟩
    obtain ⟨_, _, first, second⟩ := issues
    have offered := BasicTransfer.upload_of_issues now organization repository keeps misses.lacks
      first second
    exact ⟨_, _, _, (offered objects rfl).1, rfl⟩
  · intro files basic world inFiles verified
    have keeps := files.keepsTo world
    rw [← inFiles] at keeps
    have coherent := files.isCoherent_report world.tree
    exact ⟨BasicTransfer.isUploaded_iff_verified keeps coherent rfl now granted,
      BasicTransfer.verified_iff_isDownloadable keeps coherent rfl hints granted⟩

def memoryServer : BasicTransfer MemoryObjects :=
  ⟨(MemoryStore.mk none).store, .none, ExchangeSettings.localEndpoints, 900, 43200⟩

def fileServer : BasicTransfer FileWorld :=
  ⟨FileStore.nestedStore.store, .none, ExchangeSettings.localEndpoints, 900, 43200⟩

theorem upload_verify_download_agree_one_octet :
    let authority : Authority := fun _ _ permission _ => permission == .readMeta
    let objects : MemoryObjects := [(⟨"acme/widgets", "abc"⟩, [1, 2, 3])]
    (¬ memoryServer.IsUploaded "acme" "widgets" "abc" 1 objects 1700000000 ∧
      ∃ answer refusal,
        (memoryServer.download "acme" "widgets" "abc" 1 Hints.empty objects).1 = .ok answer ∧
        answer.refusal = some refusal ∧ refusal.code = 422) ∧
    (Objects.verify fileServer.store authority "acme" "widgets" ⟨"abc", 1⟩
        FileStore.nestedWorld).1 = .ok () ∧
      fileServer.IsDownloadable "acme" "widgets" "abc" 1 FileStore.nestedWorld Hints.empty := by
  intro authority objects
  obtain ⟨memory, files⟩ := upload_verify_download_agree authority "acme" "widgets" "abc"
    (by decide) 1 Hints.empty 1700000000
  obtain ⟨uploaded, -, missing⟩ := memory ⟨none⟩ memoryServer objects rfl
  obtain ⟨-, downloadable⟩ := files FileStore.nestedStore fileServer FileStore.nestedWorld rfl
  have failed : (Objects.verify memoryServer.store authority "acme" "widgets" ⟨"abc", 1⟩
      objects).1 ≠ .ok () := by decide +kernel
  have verified : (Objects.verify fileServer.store authority "acme" "widgets" ⟨"abc", 1⟩
      FileStore.nestedWorld).1 = .ok () := by decide +kernel
  obtain ⟨-, -, answer, refusal, answered, same, -, code⟩ := missing failed
  exact ⟨⟨fun done => failed (uploaded.mp done),
    answer, refusal, answered, same, code.mpr ⟨[1, 2, 3], by decide +kernel, by decide⟩⟩,
    verified, downloadable.mp verified⟩

end ObjectTransfer
