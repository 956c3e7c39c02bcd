import ObjectTransfer.Encoding.Percent
import ObjectTransfer.Url.Path

/-!
# The characters of a path

The segments of a path are made from escaped texts.  Whatever the rules for dot
segments and for drive letters do to them, they bring no characters in but
letters and a colon.  So what holds of these, and of the characters of the
escaped texts, holds of all characters of the path.
-/

set_option autoImplicit false

namespace ObjectTransfer.Url.Path

def Consists (fine : Char → Prop) (segments : List Segment) : Prop :=
  ∀ segment ∈ segments, ∀ c ∈ segment, fine c

structure AllowsDrives (fine : Char → Prop) : Prop where
  letter : ∀ c : Char, c.isAlpha = true → fine c
  colon : fine ':'

variable {fine : Char → Prop} {file : Bool} {trail : Trail}

theorem consists_nil : Consists fine [] := fun _ inside => by cases inside

theorem consists_cons {first : Segment} {rest : List Segment} :
    Consists fine (first :: rest) ↔ (∀ c ∈ first, fine c) ∧ Consists fine rest :=
  List.forall_mem_cons

theorem Consists.of_subset {segments fewer : List Segment} (consists : Consists fine segments)
    (subset : fewer ⊆ segments) : Consists fine fewer :=
  fun segment inside => consists segment (subset inside)

theorem Consists.reverse {segments : List Segment} (consists : Consists fine segments) :
    Consists fine segments.reverse :=
  consists.of_subset (List.reverse_subset.mpr (List.Subset.refl _))

theorem Consists.shorten (consists : Consists fine trail) : Consists fine (shorten trail) := by
  unfold Path.shorten
  split
  · split
    · exact consists
    · exact (consists_cons.mp consists).2
  · exact consists_nil

theorem Consists.settle {segments : List Segment} (consists : Consists fine segments) :
    Consists fine (settle file segments) := by
  unfold Path.settle
  split
  · split
    · exact consists_cons.mpr ⟨List.forall_mem_nil _, consists_nil⟩
    · rename_i rest _
      exact consists.of_subset (List.dropWhile_sublist _).subset
  · exact consists

theorem cutDrive?_eq_some {raw rest : List Char} {drive : Segment}
    (cut : cutDrive? raw = some (drive, rest)) :
    rest ⊆ raw ∧ ∃ letter : Char, letter.isAlpha = true ∧ drive = [letter, ':'] := by
  unfold cutDrive? at cut
  split at cut
  · rename_i letter more front
    have behindLetter : more ⊆ raw := by
      intro c inside
      refine (List.dropWhile_sublist isIgnored).subset ?_
      rw [front]
      exact List.mem_cons_of_mem _ inside
    split at cut
    · rename_i later back
      have behindMark : later ⊆ raw := by
        intro c inside
        refine behindLetter ((List.dropWhile_sublist isIgnored).subset ?_)
        rw [back]
        exact List.mem_cons_of_mem _ inside
      split at cut
      · rename_i drives
        cases cut
        exact ⟨fun c inside => behindMark (List.mem_filter.mp inside).1, letter, drives.1, rfl⟩
      · cases cut
    · cases cut
  · cases cut

section Adding

variable (drives : AllowsDrives fine)
include drives

theorem Consists.addPlain (consists : Consists fine trail) {segment : Segment}
    (made : ∀ c ∈ segment, fine c) : Consists fine (addPlain file trail segment) := by
  unfold Path.addPlain
  split
  · refine consists_cons.mpr ⟨?_, consists_nil⟩
    intro c inside
    rcases List.mem_append.mp inside with letter | mark
    · exact made c (List.mem_of_mem_take letter)
    · rw [List.mem_singleton.mp mark]
      exact drives.colon
  · exact consists_cons.mpr ⟨made, consists⟩

theorem Consists.add (consists : Consists fine trail) {segment : Segment}
    (made : ∀ c ∈ segment, fine c) (last : Bool) : Consists fine (add file trail segment last) := by
  have ended : ∀ {more : Trail}, Consists fine more → Consists fine ([] :: more) :=
    fun more => consists_cons.mpr ⟨List.forall_mem_nil _, more⟩
  unfold Path.add
  split
  · split
    · exact ended consists.shorten
    · exact consists.shorten
  · split
    · split
      · exact ended consists
      · exact consists
    · exact consists.addPlain drives made

theorem Consists.addRaw (consists : Consists fine trail) {encode : List Char → Segment}
    {raw : List Char} (made : ∀ part ⊆ raw, ∀ c ∈ encode part, fine c) (last : Bool) :
    Consists fine (addRaw file encode trail raw last) := by
  unfold Path.addRaw
  split
  · rename_i drive rest cut
    have cutOff : cutDrive? raw = some (drive, rest) := by
      split at cut
      · exact cut
      · cases cut
    obtain ⟨behind, letter, alpha, rfl⟩ := cutDrive?_eq_some cutOff
    refine consists_cons.mpr ⟨made rest behind, consists_cons.mpr ⟨?_, consists_nil⟩⟩
    intro c inside
    rcases List.mem_cons.mp inside with rfl | mark
    · exact drives.letter c alpha
    · rw [List.mem_singleton.mp mark]
      exact drives.colon
  · exact consists.add drives (made _ List.filter_sublist.subset) last

theorem Consists.addAll (consists : Consists fine trail) {raws : List (List Char)}
    (made : ∀ raw ∈ raws, ∀ part ⊆ raw, ∀ c ∈ Percent.encode isPlainInPath part, fine c) :
    Consists fine (addAll file trail raws) := by
  induction raws generalizing trail with
  | nil => exact consists
  | cons raw rest ih =>
    have first := made raw List.mem_cons_self
    cases rest with
    | nil => exact consists.addRaw drives first true
    | cons next more =>
      exact ih (consists.addRaw drives first false)
        fun other inside => made other (List.mem_cons_of_mem raw inside)

theorem consists_segments (special : Bool) (text : List Char)
    (made : ∀ raw ∈ rawSegments special text, ∀ part ⊆ raw,
      ∀ c ∈ Percent.encode isPlainInPath part, fine c) :
    Consists fine (segments special file text) :=
  (consists_nil.addAll drives made).reverse

theorem Consists.push (consists : Consists fine trail) (special : Bool) {raw : List Char}
    (made : ∀ part ⊆ raw, ∀ c ∈ Percent.encode (isPlainInSegment special) part, fine c) :
    Consists fine (push special file trail raw) := by
  have before : Consists fine (if trail = [[]] then [] else trail) := by
    split
    · exact consists_nil
    · exact consists
  have after : Consists fine (Path.addRaw file (Percent.encode (isPlainInSegment special)) _ raw
      true) := before.addRaw drives made true
  unfold Path.push
  split
  · exact consists
  · simp only
    split
    · exact after.reverse.settle.reverse
    · exact after

theorem Consists.pushAll {path : List Segment} (consists : Consists fine path) (special : Bool)
    {raws : List (List Char)}
    (made : ∀ raw ∈ raws, ∀ part ⊆ raw,
      ∀ c ∈ Percent.encode (isPlainInSegment special) part, fine c) :
    Consists fine (pushAll special file path raws) := by
  have pushed : ∀ trail, Consists fine trail →
      Consists fine (raws.foldl (Path.push special file) trail) := by
    induction raws with
    | nil => exact fun _ made => made
    | cons raw rest ih =>
      intro trail before
      exact ih (fun other inside => made other (List.mem_cons_of_mem raw inside)) _
        (before.push drives special (made raw List.mem_cons_self))
  exact (pushed _ consists.reverse).reverse

end Adding

theorem Consists.popIfEmpty {path : List Segment} (consists : Consists fine path) :
    Consists fine (popIfEmpty path) := by
  unfold Path.popIfEmpty
  split
  · exact consists.of_subset (List.dropLast_subset path)
  · exact consists

end ObjectTransfer.Url.Path
