import ObjectTransfer.Proofs.Url.DividedPaths
import ObjectTransfer.Proofs.Url.PushedNames

/-!
# What pushing names leaves of a path

Names that are just dots are left out when names are pushed.  But this is seen
before tabs and line breaks are dropped, and the rule for dot segments applies
after that: two dots with a tab between them are a step back, which takes the
last segment away and leaves an empty one in its place.

So each step back needs a segment to take.  Once a name was pushed there always
is one, as every other step leaves as many segments as before or one more.  What
was there before the names loses a segment only if the first of them that is not
left out is a step back, and even then no more than its last one.
-/

set_option autoImplicit false

namespace ObjectTransfer.Url.Path

/-! ## One name -/

def isLeftOut (name : List Char) : Bool := name == ['.'] || name == ['.', '.']

/-- Two dots once tabs and line breaks are dropped, but not before. -/
def isStepBack (name : List Char) : Bool :=
  !isLeftOut name && withoutIgnored name == ['.', '.']

variable (special : Bool) {base trail : Trail}

theorem isDoubleDot_nameSegment (name : List Char) :
    isDoubleDot (nameSegment special name) = true ↔ name = ['.', '.'] := by
  constructor
  · intro dots
    have read := decode_of_isDoubleDot dots
    rw [decode_nameSegment] at read
    exact Utf8.encodeChars_injective _ _ read
  · rintro rfl
    cases special <;> decide +kernel

theorem push_leftOut (trail : Trail) {name : List Char} (out : isLeftOut name = true) :
    push special false trail name = trail := by
  refine if_pos ?_
  simpa [isLeftOut] using out

theorem push_kept (trail : Trail) {name : List Char} (kept : isLeftOut name = false) :
    push special false trail name =
      add false (room trail) (nameSegment special (withoutIgnored name)) true := by
  have named : ¬ (name = ['.'] ∨ name = ['.', '.']) := by simpa [isLeftOut] using kept
  rw [push, if_neg named]
  exact addRaw_false _ (room trail) name true

theorem push_stepBack (trail : Trail) {name : List Char} (back : isStepBack name = true) :
    push special false trail name = [] :: shorten (room trail) := by
  obtain ⟨kept, dots⟩ := Bool.and_eq_true_iff.mp back
  rw [push_kept special trail (by simpa using kept), eq_of_beq dots, add,
    if_pos ((isDoubleDot_nameSegment special _).mpr rfl), if_pos rfl]

theorem push_forward (trail : Trail) {name : List Char} (kept : isLeftOut name = false)
    (forward : isStepBack name = false) :
    ∃ segment, push special false trail name = segment :: room trail := by
  have other : withoutIgnored name ≠ ['.', '.'] := by simpa [isStepBack, kept] using forward
  rw [push_kept special trail kept, add,
    if_neg fun dots => other ((isDoubleDot_nameSegment special _).mp dots)]
  by_cases single : isSingleDot (nameSegment special (withoutIgnored name)) = true
  · exact ⟨[], by rw [if_pos single, if_pos rfl]⟩
  · exact ⟨_, by rw [if_neg single, addPlain, if_neg (by simp)]⟩

/-- Pushing a name leaves it out, takes a step back or adds one segment. -/
theorem push_cases (trail : Trail) (name : List Char) :
    push special false trail name = trail ∨
      push special false trail name = [] :: shorten (room trail) ∨
      ∃ segment, push special false trail name = segment :: room trail := by
  cases kept : isLeftOut name with
  | true => exact .inl (push_leftOut special trail kept)
  | false =>
    cases back : isStepBack name with
    | true => exact .inr (.inl (push_stepBack special trail back))
    | false => exact .inr (.inr (push_forward special trail kept back))

theorem shorten_eq (trail : Trail) : shorten trail = trail ∨ shorten trail = trail.tail := by
  unfold shorten
  split
  · split
    · exact .inl rfl
    · exact .inr rfl
  · exact .inl rfl

/-! ## What stays below -/

/-- There is something above these segments. -/
def Covers (base trail : Trail) : Prop := ∃ top, top ≠ [] ∧ trail = top ++ base

theorem covers_cons (segment : Segment) (top base : Trail) :
    Covers base (segment :: (top ++ base)) :=
  ⟨segment :: top, List.cons_ne_nil segment top, rfl⟩

theorem Covers.room (covers : Covers base trail) :
    (base = [] ∧ room trail = []) ∨ Path.room trail = trail := by
  unfold Path.room
  split
  · rename_i lone
    obtain ⟨top, some_top, rfl⟩ := covers
    cases top with
    | nil => exact absurd rfl some_top
    | cons first rest =>
      have behind := (List.cons.inj lone).2
      exact .inl ⟨(List.append_eq_nil_iff.mp behind).2, rfl⟩
  · exact .inr rfl

theorem Covers.push (covers : Covers base trail) (name : List Char) :
    Covers base (push special false trail name) := by
  rcases push_cases special trail name with out | back | ⟨segment, forward⟩
  · rw [out]
    exact covers
  · rw [back]
    rcases covers.room with ⟨rfl, nothing⟩ | same
    · rw [nothing]
      exact covers_cons [] [] []
    · obtain ⟨top, some_top, rfl⟩ := covers
      rw [same]
      rcases shorten_eq (top ++ base) with all | fewer
      · rw [all]
        exact covers_cons [] top base
      · cases top with
        | nil => exact absurd rfl some_top
        | cons first rest =>
          rw [fewer]
          exact covers_cons [] rest base
  · rw [forward]
    rcases covers.room with ⟨rfl, nothing⟩ | same
    · rw [nothing]
      exact covers_cons segment [] []
    · obtain ⟨top, -, rfl⟩ := covers
      rw [same]
      exact covers_cons segment top base

theorem Covers.foldl_push (covers : Covers base trail) (names : List (List Char)) :
    Covers base (names.foldl (Path.push special false) trail) := by
  induction names generalizing trail with
  | nil => exact covers
  | cons name rest ih => exact ih (covers.push special name)

/-- An empty segment above others is never taken for good: a step back puts another in its place. -/
theorem gap_push (some_base : base ≠ []) (gap : [] :: base <:+ trail) (name : List Char) :
    [] :: base <:+ push special false trail name := by
  have same : room trail = trail := by
    refine if_neg fun lone => ?_
    rw [lone] at gap
    have length := gap.length_le
    have positive := List.length_pos_iff.mpr some_base
    simp only [List.length_cons, List.length_nil] at length
    omega
  rcases push_cases special trail name with out | back | ⟨segment, forward⟩
  · rw [out]
    exact gap
  · rw [back, same]
    rcases shorten_eq trail with all | fewer
    · rw [all]
      exact gap.trans (List.suffix_cons [] trail)
    · rw [fewer]
      obtain ⟨top, rfl⟩ := gap
      cases top with
      | nil => exact List.suffix_refl _
      | cons first rest => exact (List.suffix_append rest _).trans (List.suffix_cons [] _)
  · rw [forward, same]
    exact gap.trans (List.suffix_cons segment trail)

theorem gap_foldl_push (some_base : base ≠ []) (gap : [] :: base <:+ trail)
    (names : List (List Char)) : [] :: base <:+ names.foldl (push special false) trail := by
  induction names generalizing trail with
  | nil => exact gap
  | cons name rest ih => exact ih (gap_push special some_base gap name)

/-! ## The first name -/

def firstKept? (names : List (List Char)) : Option (List Char) :=
  names.find? fun name => !isLeftOut name

theorem foldl_push_first {names : List (List Char)} {name : List Char}
    (found : firstKept? names = some name) (trail : Trail) :
    ∃ later : List (List Char), names.foldl (push special false) trail =
      later.foldl (push special false) (push special false trail name) := by
  induction names with
  | nil => cases found
  | cons head rest ih =>
    rw [firstKept?, List.find?_cons] at found
    cases out : isLeftOut head with
    | true =>
      rw [out] at found
      rw [List.foldl_cons, push_leftOut special trail out]
      exact ih found
    | false =>
      rw [out] at found
      cases found
      exact ⟨rest, rfl⟩

theorem isLeftOut_of_firstKept? {names : List (List Char)} {name : List Char}
    (found : firstKept? names = some name) : isLeftOut name = false := by
  simpa using List.find?_some found

/-! ## All names -/

/-- The segments that names are pushed onto stay if the first name is no step back. -/
theorem pushAll_forward {names : List (List Char)} {name : List Char}
    (found : firstKept? names = some name) (forward : isStepBack name = false)
    (path : List Segment) : room path <+: pushAll special false path names := by
  obtain ⟨later, same⟩ := foldl_push_first special found path.reverse
  obtain ⟨segment, first⟩ :=
    push_forward special path.reverse (isLeftOut_of_firstKept? found) forward
  have covers : Covers (room path.reverse) (push special false path.reverse name) :=
    first ▸ covers_cons segment [] _
  obtain ⟨top, -, ends⟩ := covers.foldl_push special later
  refine ⟨top.reverse, ?_⟩
  rw [pushAll, same, ends, List.reverse_append, room_reverse, List.reverse_reverse]

theorem pushAll_dropLast {names : List (List Char)} {name : List Char}
    (found : firstKept? names = some name) (path : List Segment) :
    (room path).dropLast <+: pushAll special false path names := by
  cases back : isStepBack name with
  | false => exact (List.dropLast_prefix _).trans (pushAll_forward special found back path)
  | true =>
    obtain ⟨later, same⟩ := foldl_push_first special found path.reverse
    have covers : Covers (shorten (room path.reverse)) (push special false path.reverse name) :=
      push_stepBack special path.reverse back ▸ covers_cons [] [] _
    obtain ⟨top, -, ends⟩ := covers.foldl_push special later
    have kept : (room path).dropLast <+: (shorten (room path.reverse)).reverse := by
      rcases shorten_eq (room path.reverse) with all | fewer
      · rw [all, room_reverse, List.reverse_reverse]
        exact List.dropLast_prefix _
      · have shorter : (shorten (room path.reverse)).reverse = (room path).dropLast := by
          rw [fewer, room_reverse, List.tail_reverse, List.reverse_reverse]
        exact shorter ▸ List.prefix_refl _
    refine kept.trans ⟨top.reverse, ?_⟩
    rw [pushAll, same, ends, List.reverse_append]

/-- A step back at first leaves an empty segment in the place of the last one. -/
theorem pushAll_back {names : List (List Char)} {name : List Char}
    (found : firstKept? names = some name) (back : isStepBack name = true)
    {path before : List Segment} {last : Segment} (below : room path = before ++ [last])
    (some_before : before ≠ []) (undriven : startsWithDrive last = false) :
    before ++ [[]] <+: pushAll special false path names := by
  obtain ⟨later, same⟩ := foldl_push_first special found path.reverse
  have first : push special false path.reverse name = [] :: before.reverse := by
    rw [push_stepBack special _ back, room_reverse, below, List.reverse_append, List.reverse_singleton,
      List.singleton_append, shorten, if_neg (by simp [undriven])]
  have gap : [] :: before.reverse <:+ push special false path.reverse name :=
    first ▸ List.suffix_refl _
  obtain ⟨top, ends⟩ := gap_foldl_push special (by simpa using some_before) gap later
  refine ⟨top.reverse, ?_⟩
  rw [pushAll, same, ← ends]
  simp

end ObjectTransfer.Url.Path
