import ObjectTransfer.Exchange.Batch

/-!
# The status of a batch

The status is found in one walk over the answers, with the code that all of them
have had so far.  What it comes to can be said without the walk: which answers
there are decides it, in whatever order and however often they come.
-/

set_option autoImplicit false

namespace ObjectTransfer

namespace Answer

def code? (answer : Answer) : Option UInt16 := answer.refusal.map Refusal.code

theorem code?_eq_none_iff (answer : Answer) : answer.code? = none ↔ answer.refusal = none := by
  cases refused : answer.refusal <;> simp [code?, refused]

end Answer

namespace Batch.Response

/-- What the status of some answers has to be.  Only their members are looked at. -/
inductive Verdict (entries : List Answer) : UInt16 → Prop where
  | idle : entries = [] → Verdict entries 200
  | fine (entry : Answer) : entry ∈ entries → entry.code? = none → Verdict entries 200
  | agreed (code : UInt16) :
      entries ≠ [] → (∀ entry ∈ entries, entry.code? = some code) → Verdict entries code
  | mixed (first second : Answer) :
      (∀ entry ∈ entries, entry.code? ≠ none) → first ∈ entries → second ∈ entries →
        first.code? ≠ second.code? → Verdict entries 422

/-! ## The walk over the codes -/

theorem commonCode_of_success (common : Option UInt16) (codes : List (Option UInt16))
    (success : none ∈ codes) : commonCode common codes = 200 := by
  induction codes generalizing common with
  | nil => cases success
  | cons first rest ih =>
    cases first with
    | none => rfl
    | some code =>
      rw [commonCode]
      apply ih
      simpa using success

theorem commonCode_of_same (code : UInt16) (codes : List (Option UInt16))
    (same : ∀ other ∈ codes, other = some code) : commonCode (some code) codes = code := by
  induction codes with
  | nil => rfl
  | cons first rest ih =>
    obtain rfl := same first List.mem_cons_self
    rw [commonCode, if_pos rfl]
    exact ih fun other later => same other (List.mem_cons_of_mem _ later)

/-- A code that was given up never comes back. -/
theorem commonCode_none (codes : List (Option UInt16)) (failed : none ∉ codes) :
    commonCode none codes = 422 := by
  induction codes with
  | nil => rfl
  | cons first rest ih =>
    cases first with
    | none => exact absurd List.mem_cons_self failed
    | some code =>
      rw [commonCode, ite_self]
      exact ih fun later => failed (List.mem_cons_of_mem _ later)

theorem commonCode_of_other (code : UInt16) (codes : List (Option UInt16)) (failed : none ∉ codes)
    (broken : ∃ other ∈ codes, other ≠ some code) : commonCode (some code) codes = 422 := by
  induction codes with
  | nil =>
    obtain ⟨_, inside, _⟩ := broken
    cases inside
  | cons first rest ih =>
    have later : none ∉ rest := fun inside => failed (List.mem_cons_of_mem _ inside)
    cases first with
    | none => exact absurd List.mem_cons_self failed
    | some other =>
      rw [commonCode]
      by_cases same : some code = some other
      · rw [if_pos same]
        apply ih later
        obtain ⟨apart, inside, differs⟩ := broken
        rcases List.mem_cons.mp inside with rfl | further
        · exact absurd same.symm differs
        · exact ⟨apart, further, differs⟩
      · rw [if_neg same]
        exact commonCode_none rest later

theorem status_of_success (transfer : String) {first : Answer} (rest : List Answer)
    (succeeds : first.code? = none) : status ⟨transfer, first :: rest⟩ = 200 := by
  unfold Answer.code? at succeeds
  simp [status, succeeds]

theorem status_of_refused (transfer : String) {first : Answer} (rest : List Answer) {code : UInt16}
    (started : first.code? = some code) :
    status ⟨transfer, first :: rest⟩ = commonCode (some code) (rest.map Answer.code?) := by
  unfold Answer.code? at started
  simp only [status, List.map_cons, started]
  rfl

theorem Verdict.status {response : Response} {code : UInt16}
    (verdict : Verdict response.objects code) : response.status = code := by
  obtain ⟨transfer, entries⟩ := response
  cases entries with
  | nil =>
    cases verdict with
    | idle => rfl
    | fine _ inside => cases inside
    | agreed _ some_entry => exact absurd rfl some_entry
    | mixed _ _ _ inside => cases inside
  | cons first rest =>
    cases verdict with
    | idle nothing => cases nothing
    | fine entry inside succeeds =>
      cases started : first.code? with
      | none => exact status_of_success transfer rest started
      | some code =>
        have later : entry ∈ rest := by
          rcases List.mem_cons.mp inside with rfl | later
          · rw [succeeds] at started
            cases started
          · exact later
        have success : none ∈ rest.map Answer.code? :=
          List.mem_map.mpr ⟨entry, later, succeeds⟩
        rw [status_of_refused transfer rest started]
        exact commonCode_of_success _ _ success
    | agreed _ _ agree =>
      have same : ∀ other ∈ rest.map Answer.code?, other = some code := by
        intro other inside
        obtain ⟨entry, later, rfl⟩ := List.mem_map.mp inside
        exact agree entry (List.mem_cons_of_mem _ later)
      rw [status_of_refused transfer rest (agree first List.mem_cons_self)]
      exact commonCode_of_same code _ same
    | mixed one other refused oneInside otherInside differ =>
      cases started : first.code? with
      | none => exact absurd started (refused first List.mem_cons_self)
      | some code =>
        have failed : none ∉ rest.map Answer.code? := by
          intro inside
          obtain ⟨entry, later, succeeds⟩ := List.mem_map.mp inside
          exact refused entry (List.mem_cons_of_mem _ later) succeeds
        have later : ∀ entry ∈ first :: rest, entry.code? ≠ some code →
            ∃ other ∈ rest.map Answer.code?, other ≠ some code := by
          intro entry inside apart
          rcases List.mem_cons.mp inside with rfl | later
          · exact absurd started apart
          · exact ⟨_, List.mem_map_of_mem later, apart⟩
        have broken : ∃ other ∈ rest.map Answer.code?, other ≠ some code := by
          by_cases same : one.code? = some code
          · exact later other otherInside (same ▸ differ.symm)
          · exact later one oneInside same
        rw [status_of_refused transfer rest started]
        exact commonCode_of_other code _ failed broken

/-! ## Every batch has one status -/

theorem exists_verdict (entries : List Answer) : ∃ code, Verdict entries code := by
  by_cases fine : ∃ entry ∈ entries, entry.code? = none
  · obtain ⟨entry, inside, succeeds⟩ := fine
    exact ⟨200, .fine entry inside succeeds⟩
  have refused : ∀ entry ∈ entries, entry.code? ≠ none :=
    fun entry inside succeeds => fine ⟨entry, inside, succeeds⟩
  cases entries with
  | nil => exact ⟨200, .idle rfl⟩
  | cons first rest =>
    obtain ⟨code, started⟩ := Option.ne_none_iff_exists'.mp (refused first List.mem_cons_self)
    by_cases agree : ∀ entry ∈ first :: rest, entry.code? = some code
    · exact ⟨code, .agreed code (List.cons_ne_nil _ _) agree⟩
    · obtain ⟨entry, broken⟩ := Classical.not_forall.mp agree
      obtain ⟨inside, other⟩ := Classical.not_imp.mp broken
      exact ⟨422, .mixed first entry refused List.mem_cons_self inside
        (started ▸ Ne.symm other)⟩

theorem verdict_status (response : Response) : Verdict response.objects response.status := by
  obtain ⟨code, verdict⟩ := exists_verdict response.objects
  rw [verdict.status]
  exact verdict

theorem Verdict.of_same_members {first second : List Answer} {code : UInt16}
    (same : ∀ entry, entry ∈ first ↔ entry ∈ second) (verdict : Verdict first code) :
    Verdict second code := by
  have nil_iff : first = [] ↔ second = [] := by
    rw [List.eq_nil_iff_forall_not_mem, List.eq_nil_iff_forall_not_mem]
    exact forall_congr' fun entry => not_congr (same entry)
  cases verdict with
  | idle nothing => exact .idle (nil_iff.mp nothing)
  | fine entry inside succeeds => exact .fine entry ((same entry).mp inside) succeeds
  | agreed _ some_entry agree =>
    exact .agreed code (fun nothing => some_entry (nil_iff.mpr nothing))
      fun entry inside => agree entry ((same entry).mpr inside)
  | mixed one other refused oneInside otherInside differ =>
    exact .mixed one other (fun entry inside => refused entry ((same entry).mpr inside))
      ((same one).mp oneInside) ((same other).mp otherInside) differ

/-- The status is that of success if there is nothing that failed or something that did not, else
the one code of all answers, or 422 if there are two; and the answers count as a set. -/
theorem status_of_codes (response : Response) :
    (response.status = 200 ↔
      response.objects = [] ∨ (∃ entry ∈ response.objects, entry.refusal = none) ∨
        ∀ entry ∈ response.objects, entry.code? = some 200) ∧
    (response.objects ≠ [] → ∀ code, (∀ entry ∈ response.objects, entry.code? = some code) →
      response.status = code) ∧
    ((∀ entry ∈ response.objects, entry.refusal ≠ none) →
      (∃ first ∈ response.objects, ∃ second ∈ response.objects, first.code? ≠ second.code?) →
        response.status = 422) ∧
    (∀ other : Response, (∀ entry, entry ∈ response.objects ↔ entry ∈ other.objects) →
      response.status = other.status) := by
  refine ⟨⟨?_, ?_⟩, ?_, ?_, ?_⟩
  · intro fine
    have verdict := verdict_status response
    rw [fine] at verdict
    generalize made : (200 : UInt16) = code at verdict
    cases verdict with
    | idle nothing => exact .inl nothing
    | fine entry inside succeeds =>
      exact .inr (.inl ⟨entry, inside, entry.code?_eq_none_iff.mp succeeds⟩)
    | agreed _ _ agree => exact .inr (.inr (made ▸ agree))
    | mixed => exact absurd made (by decide)
  · rintro (nothing | ⟨entry, inside, succeeds⟩ | agree)
    · exact (Verdict.idle nothing).status
    · exact (Verdict.fine entry inside (entry.code?_eq_none_iff.mpr succeeds)).status
    · by_cases nothing : response.objects = []
      · exact (Verdict.idle nothing).status
      · exact (Verdict.agreed 200 nothing agree).status
  · intro some_entry code agree
    exact (Verdict.agreed code some_entry agree).status
  · rintro refused ⟨first, firstInside, second, secondInside, differ⟩
    have failed : ∀ entry ∈ response.objects, entry.code? ≠ none :=
      fun entry inside succeeds => refused entry inside (entry.code?_eq_none_iff.mp succeeds)
    exact (Verdict.mixed first second failed firstInside secondInside differ).status
  · intro other same
    exact ((verdict_status other).of_same_members fun entry => (same entry).symm).status

theorem status_of_codes_returning :
    status ⟨"basic", [⟨"0a", 1, none, none, some ⟨404, "Object was not found"⟩⟩,
      ⟨"0b", 1, none, none, some ⟨403, "Forbidden"⟩⟩,
      ⟨"0a", 1, none, none, some ⟨404, "Object was not found"⟩⟩]⟩ = 422 ∧
    status ⟨"basic", [⟨"0a", 1, none, none, some ⟨404, "Object was not found"⟩⟩,
      ⟨"0b", 1, none, none, some ⟨403, "Forbidden"⟩⟩,
      ⟨"0c", 1, none, none, none⟩]⟩ = 200 := by
  constructor
  · refine (status_of_codes _).2.2.1 (by decide) ⟨_, .head _, _, .tail _ (.head _), ?_⟩
    decide
  · exact (status_of_codes _).1.mpr (.inr (.inl ⟨⟨"0c", 1, none, none, none⟩, by decide, rfl⟩))

end Batch.Response
end ObjectTransfer
