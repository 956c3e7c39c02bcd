import ObjectTransfer.Proofs.Link.ObjectPaths
import ObjectTransfer.Proofs.Url.DotSegments
import ObjectTransfer.Proofs.Url.StepsBack

/-!
# Names stay below the base

The URLs of objects and of verifications have the segments of the base in front
of what the names of the place and the id add, and no dot segment in their path,
whatever these names are.  The id cannot take anything of the base away, and the
place can only if the first of its names that is not just dots is a step back:
two dots with a tab or a line break among them.

Such a place takes the last segment of the base away, but no more of it.  Its
URLs are outside of the base then.
-/

set_option autoImplicit false

namespace ObjectTransfer

namespace Url

def segmentsIn (path : List Char) : List Segment := (Text.split '/' path).tail

theorem segmentsIn_text {path : List Segment} (divided : Path.IsDivided path) :
    segmentsIn (Path.text path) = path := by
  rw [segmentsIn, Path.split_text path divided, List.tail_cons]

theorem Path.IsDivided.pushAll {path : List Segment} (divided : IsDivided path) (special : Bool)
    (names : List (List Char)) : IsDivided (pushAll special false path names) := by
  refine consists_ne_iff.mp ((consists_ne_iff.mpr divided).pushAll allowsDrives_ne_slash special ?_)
  rintro name - part - _ written rfl
  exact slash_not_mem_nameSegment special part written

theorem Path.IsDivided.popIfEmpty {path : List Segment} (divided : IsDivided path) :
    IsDivided (popIfEmpty path) :=
  consists_ne_iff.mp (consists_ne_iff.mpr divided).popIfEmpty

theorem Path.IsDivided.room {path : List Segment} (divided : IsDivided path) :
    IsDivided (room path) :=
  fun segment inside => divided segment (room_subset path inside)

end Url

namespace Endpoints

open Url (segmentsIn withoutLastSlash)
open Url.Path (IsDots firstKept? isStepBack startsWithDrive)

/-- The first name of the place that is not just dots is a step back. -/
def StepsBack (place : String) : Prop :=
  ∃ name ∈ firstKept? (Text.split '/' place.toList), isStepBack name = true

instance (place : String) : Decidable (StepsBack place) :=
  inferInstanceAs (Decidable (∃ name ∈ firstKept? _, _))

def baseSegments (endpoints : Endpoints) : List Url.Segment :=
  segmentsIn (withoutLastSlash endpoints.base.pathText)

def pushedNames (place last : String) : List (List Char) :=
  Text.split '/' place.toList ++ ["objects".toList, "storage".toList, last.toList]

theorem exists_firstKept (place last : String) :
    ∃ name, firstKept? (pushedNames place last) = some name ∧
      (isStepBack name = true ↔ StepsBack place) := by
  have fixed : firstKept? ["objects".toList, "storage".toList, last.toList] =
      some "objects".toList := rfl
  have first : firstKept? (pushedNames place last) =
      (firstKept? (Text.split '/' place.toList)).or (some "objects".toList) := by
    rw [← fixed]
    exact List.find?_append
  unfold StepsBack
  rw [first]
  cases firstKept? (Text.split '/' place.toList) with
  | none => exact ⟨_, rfl, by decide⟩
  | some name => exact ⟨name, rfl, by simp⟩

section Below

variable {endpoints : Endpoints} (segmented : endpoints.base.file = false)
  (divided : endpoints.base.IsDivided)
include segmented divided

theorem segmentsIn_below (place last : String) {path : List Url.Segment}
    (there : endpoints.base.path = .segments path) :
    segmentsIn (endpoints.below place last).pathText =
      Url.Path.pushAll endpoints.base.special false (Url.Path.popIfEmpty path)
        (pushedNames place last) := by
  have made : (endpoints.below place last).pathText =
      Url.Path.text (Url.Path.pushAll endpoints.base.special false (Url.Path.popIfEmpty path)
        (pushedNames place last)) := by
    rw [← segmented]
    simp only [below, Url.pushAll, Url.popIfEmpty, Url.mapSegments, there]
    rfl
  rw [made, Url.segmentsIn_text ((divided path there).popIfEmpty.pushAll _ _)]

omit segmented in
theorem baseSegments_eq (full : endpoints.base.HasFullPath) {path : List Url.Segment}
    (there : endpoints.base.path = .segments path) :
    endpoints.baseSegments = Url.Path.room (Url.Path.popIfEmpty path) := by
  have written : endpoints.base.pathText = Url.Path.text path := by rw [Url.pathText, there]
  rw [baseSegments, written, ← Url.Path.text_room_popIfEmpty path (divided path there)
    (full path there), Url.segmentsIn_text (divided path there).popIfEmpty.room]

end Below

/-- Whatever the names are, no dot segment is in the path, and at most the last segment of the base
is lost.  None is lost unless the place takes a step back.  A base with several segments then always
loses one, if that is no drive letter. -/
theorem names_stay_below (endpoints : Endpoints) (written : String)
    (read : Url.parse written = .ok endpoints.base)
    (web : endpoints.base.scheme = "http" ∨ endpoints.base.scheme = "https")
    (full : endpoints.base.HasFullPath) (place oid : String) :
    ∀ url ∈ [endpoints.object place oid, endpoints.verify place],
      (∀ segment ∈ segmentsIn url.pathText, ¬ IsDots segment) ∧
      (¬ StepsBack place → endpoints.baseSegments <+: segmentsIn url.pathText) ∧
      endpoints.baseSegments.dropLast <+: segmentsIn url.pathText ∧
      ∀ before last, endpoints.baseSegments = before ++ [last] → before ≠ [] →
        startsWithDrive last = false →
        (endpoints.baseSegments <+: segmentsIn url.pathText ↔ ¬ StepsBack place) := by
  have segmented := base_file_of_web web
  have divided : endpoints.base.IsDivided := Url.parse_divided written _ read
  have dotless : endpoints.base.IsDotless := Url.parse_dotless written _ read segmented
  obtain ⟨path, there⟩ := endpoints.exists_segments
  intro url among
  obtain ⟨last, rfl⟩ : ∃ last, url = endpoints.below place last := by
    rcases List.mem_cons.mp among with object | verify
    · exact ⟨oid, object⟩
    · exact ⟨"verify", List.mem_singleton.mp verify⟩
  obtain ⟨name, found, steps⟩ := exists_firstKept place last
  rw [segmentsIn_below segmented divided place last there, baseSegments_eq divided full there]
  have stays : ¬ StepsBack place → Url.Path.room (Url.Path.popIfEmpty path) <+:
      Url.Path.pushAll endpoints.base.special false (Url.Path.popIfEmpty path)
        (pushedNames place last) := by
    intro onward
    have forward : isStepBack name = false := by simpa [← steps] using onward
    exact Url.Path.pushAll_forward _ found forward _
  refine ⟨(dotless path there).popIfEmpty.pushAll _ _, stays, Url.Path.pushAll_dropLast _ found _, ?_⟩
  intro before final below some_before undriven
  refine ⟨fun leads back => ?_, stays⟩
  have gap := Url.Path.pushAll_back endpoints.base.special found (steps.mpr back)
    below some_before undriven
  rw [below] at leads
  have same : before ++ [final] = before ++ [[]] :=
    (List.prefix_of_prefix_length_le leads gap (by simp)).eq_of_length (by simp)
  have ended : final = [] := List.singleton_inj.mp (List.append_cancel_left same)
  refine Url.Path.ne_nil_of_mem_room (full path there) final ?_ ended
  rw [below]
  exact List.mem_append_right _ List.mem_cons_self

theorem names_stay_below_lfs :
    let endpoints := lfsEndpoints ["lfs".toList]
    let place := "../acme/.\t./widgets"
    Url.parse "https://lfs.example.com/lfs?tenant=1" = .ok endpoints.base ∧
      endpoints.base.HasFullPath ∧ ¬ StepsBack place ∧
      endpoints.baseSegments = ["lfs".toList] ∧
      (endpoints.object place ".\r.").pathText = "/lfs//widgets/objects/".toList ∧
      endpoints.baseSegments <+: segmentsIn (endpoints.object place ".\r.").pathText := by
  intro endpoints place
  have read : Url.parse "https://lfs.example.com/lfs?tenant=1" = .ok endpoints.base := rfl
  have full : endpoints.base.HasFullPath := by
    rintro _ ⟨⟩ segment inside
    cases inside
  have onward : ¬ StepsBack place := by decide +kernel
  obtain ⟨-, stays, -⟩ := names_stay_below endpoints _ read (.inr rfl) full place ".\r." _
    List.mem_cons_self
  exact ⟨read, full, onward, by decide +kernel, by decide +kernel, stays onward⟩

/-- A tab between two dots hides them until it is dropped.  So not every place stays below the
base. -/
theorem names_stay_below_stepped :
    ¬ ∀ (endpoints : Endpoints) (written : String), Url.parse written = .ok endpoints.base →
        endpoints.base.scheme = "http" ∨ endpoints.base.scheme = "https" →
        endpoints.base.HasFullPath → ∀ place oid : String,
          ∀ url ∈ [endpoints.object place oid, endpoints.verify place],
            endpoints.baseSegments <+: segmentsIn url.pathText ∧
              ∀ segment ∈ segmentsIn url.pathText, segment ≠ ['.'] ∧ segment ≠ ['.', '.'] := by
  intro stays
  have full : (lfsEndpoints ["lfs".toList]).base.HasFullPath := by
    rintro _ ⟨⟩ segment inside
    cases inside
  obtain ⟨leads, -⟩ := stays (lfsEndpoints ["lfs".toList]) "https://lfs.example.com/lfs?tenant=1" rfl
    (.inr rfl) full ".\t./widgets" "abc" _ List.mem_cons_self
  revert leads
  decide +kernel

end Endpoints

end ObjectTransfer
