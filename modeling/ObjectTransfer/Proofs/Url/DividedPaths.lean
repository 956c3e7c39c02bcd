import ObjectTransfer.Proofs.Encoding.Percent
import ObjectTransfer.Proofs.Url.ReadUrls
import ObjectTransfer.Proofs.Url.SegmentCharacters

/-!
# Segments hold no slash

The path of a URL is cut at its slashes when it is read.  Escaping a piece
brings no slash back, and whatever the rules for dot segments and for drive
letters do to the pieces, they bring none in.  So the segments of a URL that was
read are the pieces of its path between the slashes.
-/

set_option autoImplicit false

namespace ObjectTransfer.Url

namespace Path

def IsDivided (segments : List Segment) : Prop := ∀ segment ∈ segments, '/' ∉ segment

theorem consists_ne_iff {c : Char} {segments : List Segment} :
    Consists (· ≠ c) segments ↔ ∀ segment ∈ segments, c ∉ segment := by
  constructor
  · exact fun consists segment inside found => consists segment inside c found rfl
  · rintro absent segment inside _ found rfl
    exact absent segment inside found

theorem allowsDrives_ne_slash : AllowsDrives (· ≠ '/') where
  letter := by
    rintro _ alpha rfl
    exact absurd alpha (by decide)
  colon := by decide

theorem slash_not_mem_encode {plain : UInt8 → Bool} {text : List Char} (clear : '/' ∉ text) :
    '/' ∉ Percent.encode plain text :=
  fun inside => clear (Percent.mem_of_mem_encode (by decide) (by decide) (by decide) inside)

theorem isDivided_segments (special file : Bool) (text : List Char) :
    IsDivided (segments special file text) := by
  refine consists_ne_iff.mp (consists_segments allowsDrives_ne_slash special text ?_)
  rintro raw member part within _ written rfl
  exact slash_not_mem_encode
    (fun inside => Text.not_mem_of_mem_split '/' _ raw member (within inside)) written

theorem IsDivided.settle {file : Bool} {segments : List Segment} (divided : IsDivided segments) :
    IsDivided (settle file segments) :=
  consists_ne_iff.mp (Consists.settle (consists_ne_iff.mpr divided))

theorem isDivided_nil : IsDivided [] := fun _ inside => by cases inside

end Path

/-! ## URLs that are read -/

def IsDivided (url : Url) : Prop :=
  ∀ path, url.path = .segments path → Path.IsDivided path

theorem isDivided_readPath (special file : Bool) (text : List Char) :
    Path.IsDivided (readPath special file text).1 :=
  holds_readPath Path.isDivided_nil (Path.isDivided_segments special file) text

theorem parse_divided (text : String) : Ensures IsDivided (parse text) := by
  intro url made
  cases parse_read text url made with
  | hosted =>
    rintro _ ⟨⟩
    exact isDivided_readPath _ _ _
  | file =>
    rintro _ ⟨⟩
    exact (isDivided_readPath _ _ _).settle
  | rooted =>
    rintro _ ⟨⟩
    exact isDivided_readPath _ _ _
  | bare => rintro _ ⟨⟩

end ObjectTransfer.Url
