import ObjectTransfer.Proofs.Url.EscapedPaths
import ObjectTransfer.Proofs.Url.ReadUrls

/-!
# Dot segments do not stay

Whatever text is read as a path, none of its segments is a dot segment, with its
dots written as they are or as escapes.  A step that adds a segment settles it at
once, and what was there before is settled already.  The same holds when names
are pushed onto such a path.

Files are left out: what is cut off from a drive letter is not settled.
-/

set_option autoImplicit false

namespace ObjectTransfer.Url

namespace Path

def IsDotless (segments : List Segment) : Prop := ∀ segment ∈ segments, ¬ IsDots segment

variable {trail : Trail} {path : List Segment}

theorem isDotless_nil : IsDotless [] := fun _ inside => by cases inside

theorem IsDotless.of_subset {fewer : List Segment} (dotless : IsDotless path)
    (subset : fewer ⊆ path) : IsDotless fewer :=
  fun segment inside => dotless segment (subset inside)

theorem IsDotless.reverse (dotless : IsDotless path) : IsDotless path.reverse :=
  dotless.of_subset (List.reverse_subset.mpr (List.Subset.refl _))

theorem IsDotless.add (dotless : IsDotless trail) (segment : Segment) (last : Bool) :
    IsDotless (add false trail segment last) := by
  intro found inside dots
  rcases mem_add trail segment found last inside with before | rfl | ⟨rfl, named⟩
  · exact dotless found before dots
  · unfold IsDots at dots
    exact absurd dots (by decide)
  · exact named dots

theorem IsDotless.addRaw (dotless : IsDotless trail) (encode : List Char → Segment)
    (raw : List Char) (last : Bool) : IsDotless (addRaw false encode trail raw last) := by
  rw [addRaw_false]
  exact dotless.add _ last

theorem IsDotless.addAll (dotless : IsDotless trail) (raws : List (List Char)) :
    IsDotless (addAll false trail raws) := by
  induction raws generalizing trail with
  | nil => exact dotless
  | cons raw rest ih =>
    cases rest with
    | nil => exact dotless.addRaw _ raw true
    | cons next more => exact ih (dotless.addRaw _ raw false)

theorem isDotless_segments (special : Bool) (text : List Char) :
    IsDotless (segments special false text) :=
  (isDotless_nil.addAll _).reverse

/-! ## Pushing names -/

theorem IsDotless.push (dotless : IsDotless trail) (special : Bool) (name : List Char) :
    IsDotless (push special false trail name) := by
  have before : IsDotless (if trail = [[]] then [] else trail) := by
    split
    · exact isDotless_nil
    · exact dotless
  unfold Path.push
  split
  · exact dotless
  · exact before.addRaw _ name true

theorem IsDotless.pushAll (dotless : IsDotless path) (special : Bool) (names : List (List Char)) :
    IsDotless (pushAll special false path names) := by
  have pushed : ∀ trail, IsDotless trail →
      IsDotless (names.foldl (Path.push special false) trail) := by
    induction names with
    | nil => exact fun _ before => before
    | cons name rest ih => exact fun _ before => ih _ (before.push special name)
  exact (pushed _ dotless.reverse).reverse

theorem IsDotless.popIfEmpty (dotless : IsDotless path) : IsDotless (popIfEmpty path) := by
  unfold Path.popIfEmpty
  split
  · exact dotless.of_subset (List.dropLast_subset path)
  · exact dotless

end Path

/-! ## URLs that are read -/

def IsDotless (url : Url) : Prop :=
  ∀ path, url.path = .segments path → Path.IsDotless path

theorem isDotless_readPath (special : Bool) (text : List Char) :
    Path.IsDotless (readPath special false text).1 :=
  holds_readPath Path.isDotless_nil (Path.isDotless_segments special) text

theorem parse_dotless (text : String) :
    Ensures (fun url => url.file = false → url.IsDotless) (parse text) := by
  intro url made unfiled
  cases parse_read text url made with
  | hosted =>
    rintro _ ⟨⟩
    exact isDotless_readPath _ _
  | file scheme _ _ _ _ _ isLocal =>
    have filed : isFile scheme = false := unfiled
    rw [isLocal] at filed
    cases filed
  | rooted =>
    rintro _ ⟨⟩
    exact isDotless_readPath _ _
  | bare => rintro _ ⟨⟩

end ObjectTransfer.Url
