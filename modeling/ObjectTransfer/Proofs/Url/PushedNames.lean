import ObjectTransfer.Proofs.Url.EscapedPaths
import ObjectTransfer.Url.Basic

/-!
# Names that become segments

A name that is pushed onto a path becomes one segment, escaped as a whole, if it
has characters, is no dot segment and holds nothing that a URL ignores.  Its
slashes and percent signs are escaped too, so cutting the path at its slashes and
reading the escapes gives the name again.

Before names are pushed, an empty segment at the end of the path makes room for
them.  In the text of the path this is a last slash that is taken away.
-/

set_option autoImplicit false

namespace ObjectTransfer.Url

def namesIn (path : List Char) : List (Option String) :=
  (Text.split '/' path).map fun part => Utf8.decode? (Percent.decode (Utf8.encodeChars part))

def withoutLastSlash (text : List Char) : List Char :=
  if text.getLast? = some '/' then text.dropLast else text

theorem withoutLastSlash_append_slash (text : List Char) :
    withoutLastSlash (text ++ ['/']) = text := by
  simp [withoutLastSlash]

namespace Path

/-! ## One name -/

/-- A text that becomes a segment of its own. -/
structure IsName (text : List Char) : Prop where
  nonempty : text ≠ []
  notDots : text ≠ ['.'] ∧ text ≠ ['.', '.']
  kept : ∀ c ∈ text, isIgnored c = false

theorem isName_iff (text : List Char) :
    IsName text ↔ text ≠ [] ∧ (text ≠ ['.'] ∧ text ≠ ['.', '.']) ∧
      text.any isIgnored = false := by
  rw [List.any_eq_false]
  constructor
  · rintro ⟨nonempty, notDots, kept⟩
    exact ⟨nonempty, notDots, fun c inside => by simp [kept c inside]⟩
  · rintro ⟨nonempty, notDots, kept⟩
    exact ⟨nonempty, notDots, fun c inside => by simpa using kept c inside⟩

instance (text : List Char) : Decidable (IsName text) := decidable_of_iff' _ (isName_iff text)

def nameSegment (special : Bool) (name : List Char) : Segment :=
  Percent.encode (isPlainInSegment special) name

theorem faithful_isPlainInSegment (special : Bool) :
    Percent.Faithful (isPlainInSegment special) := by
  cases special <;> exact forall_octet (by decide +kernel)

theorem decode_nameSegment (special : Bool) (name : List Char) :
    Percent.decode (Utf8.encodeChars (nameSegment special name)) = Utf8.encodeChars name :=
  Percent.decode_encode _ (faithful_isPlainInSegment special) name

theorem slash_not_mem_nameSegment (special : Bool) (name : List Char) :
    '/' ∉ nameSegment special name := by
  intro inside
  have other : ∀ c ∈ nameSegment special name, c ≠ '/' := by
    refine Percent.forall_mem_encode (forall_octet ?_) (by decide) (by decide) name
    cases special <;> decide +kernel
  exact other '/' inside rfl

theorem not_isDots_nameSegment (special : Bool) {name : List Char} (proper : IsName name) :
    ¬ IsDots (nameSegment special name) := by
  intro dots
  have read := dots.decode
  rw [decode_nameSegment] at read
  rcases read with one | two
  · exact proper.notDots.1 (Utf8.encodeChars_injective _ _ one)
  · exact proper.notDots.2 (Utf8.encodeChars_injective _ _ two)

theorem IsName.withoutIgnored {name : List Char} (proper : IsName name) :
    withoutIgnored name = name :=
  List.filter_eq_self.mpr fun c inside => by simp [proper.kept c inside]

/-- The segments that names are pushed onto: a lone empty segment gives way to the first of them. -/
def room (path : List Segment) : List Segment := if path = [[]] then [] else path

theorem push_name (special : Bool) (trail : Trail) {name : List Char} (proper : IsName name) :
    push special false trail name = nameSegment special name :: room trail := by
  have notDots : ¬ (name = ['.'] ∨ name = ['.', '.']) := by
    rintro (one | two)
    · exact proper.notDots.1 one
    · exact proper.notDots.2 two
  simp only [push, if_neg notDots, Bool.false_eq_true, if_false, addRaw, Bool.false_and,
    proper.withoutIgnored]
  exact add_of_not_isDots _ _ true (not_isDots_nameSegment special proper)

/-! ## All names -/

theorem room_nameSegment (special : Bool) (trail : Trail) {name : List Char}
    (proper : IsName name) :
    room (nameSegment special name :: trail) = nameSegment special name :: trail := by
  refine if_neg fun same => proper.nonempty (Utf8.encodeChars_injective _ _ ?_)
  rw [← decode_nameSegment special, (List.cons.inj same).1]
  rfl

theorem foldl_push_names (special : Bool) (names : List (List Char)) (trail : Trail)
    (proper : ∀ name ∈ names, IsName name) (room_trail : room trail = trail) :
    names.foldl (push special false) trail = (names.map (nameSegment special)).reverse ++ trail := by
  induction names generalizing trail with
  | nil => rfl
  | cons name rest ih =>
    have first := proper name List.mem_cons_self
    rw [List.foldl_cons, push_name special trail first, room_trail,
      ih _ (fun other inside => proper other (List.mem_cons_of_mem name inside))
        (room_nameSegment special trail first)]
    simp

theorem room_subset (path : List Segment) : room path ⊆ path := by
  unfold room
  split
  · exact List.nil_subset _
  · exact List.Subset.refl _

theorem room_reverse (path : List Segment) : room path.reverse = (room path).reverse := by
  unfold room
  by_cases lone : path = [[]]
  · simp [lone]
  · have other : path.reverse ≠ [[]] := by simpa [List.reverse_eq_iff] using lone
    rw [if_neg lone, if_neg other]

theorem pushAll_names (special : Bool) (path : List Segment) (names : List (List Char))
    (some_name : names ≠ []) (proper : ∀ name ∈ names, IsName name) :
    pushAll special false path names = room path ++ names.map (nameSegment special) := by
  cases names with
  | nil => exact absurd rfl some_name
  | cons name rest =>
    have first := proper name List.mem_cons_self
    rw [pushAll, List.foldl_cons, push_name special _ first, room_reverse,
      foldl_push_names special rest _
        (fun other inside => proper other (List.mem_cons_of_mem name inside))
        (room_nameSegment special _ first)]
    simp

/-! ## The text of the path -/

theorem text_append (path more : List Segment) : text (path ++ more) = text path ++ text more :=
  List.flatMap_append

theorem namesIn_text (special : Bool) (names : List (List Char)) :
    namesIn (text (names.map (nameSegment special))) =
      some "" :: names.map fun name => some (String.ofList name) := by
  have clear : ∀ segment ∈ names.map (nameSegment special), '/' ∉ segment := by
    intro segment inside
    obtain ⟨name, _, rfl⟩ := List.mem_map.mp inside
    exact slash_not_mem_nameSegment special name
  rw [namesIn, split_text _ clear, List.map_cons, List.map_map]
  simp only [Function.comp_def, decode_nameSegment, Utf8.decode_encodeChars]
  rfl

theorem text_room_popIfEmpty (path : List Segment) (divided : ∀ segment ∈ path, '/' ∉ segment)
    (full : ∀ segment ∈ path.dropLast, segment ≠ []) :
    text (room (popIfEmpty path)) = withoutLastSlash (text path) := by
  rcases List.eq_nil_or_concat path with rfl | ⟨before, last, rfl⟩
  · rfl
  rw [List.concat_eq_append] at divided full ⊢
  rw [List.dropLast_concat] at full
  have ended : text (before ++ [last]) = text before ++ '/' :: last := by
    rw [text_append]
    simp [text]
  have lastOf : (before ++ [last]).getLast? = some last := List.getLast?_concat
  rw [ended]
  by_cases empty : last = []
  · subst empty
    rw [withoutLastSlash_append_slash]
    by_cases alone : before = []
    · subst alone
      rfl
    · have longer : 1 < (before ++ [[]]).length := by
        have := List.length_pos_iff.mpr alone
        simp only [List.length_append, List.length_singleton]
        omega
      have named : before ≠ [[]] := by
        rintro rfl
        exact full [] List.mem_cons_self rfl
      rw [popIfEmpty, if_pos ⟨lastOf, longer⟩, List.dropLast_concat, room, if_neg named]
  · have kept : popIfEmpty (before ++ [last]) = before ++ [last] :=
      if_neg fun both => empty (Option.some.inj (lastOf.symm.trans both.1))
    have named : before ++ [last] ≠ [[]] := by
      intro same
      rw [same] at lastOf
      exact empty (Option.some.inj lastOf).symm
    have unslashed : (text before ++ '/' :: last).getLast? ≠ some '/' := by
      obtain ⟨front, final, same⟩ := (List.eq_nil_or_concat last).resolve_left empty
      rw [List.concat_eq_append] at same
      have regroup : text before ++ '/' :: last = text before ++ '/' :: front ++ [final] := by
        simp [same]
      rw [regroup, List.getLast?_concat]
      intro slash
      refine divided last (by simp) ?_
      rw [same, Option.some.inj slash]
      simp
    rw [kept, room, if_neg named, ended, withoutLastSlash, if_neg unslashed]

theorem ne_nil_of_mem_room {path : List Segment}
    (full : ∀ segment ∈ path.dropLast, segment ≠ []) :
    ∀ segment ∈ room (popIfEmpty path), segment ≠ [] := by
  unfold popIfEmpty
  split
  · exact fun segment inside => full segment (room_subset _ inside)
  · rename_i unended
    rintro _ inside rfl
    obtain ⟨before, last, rfl⟩ : ∃ before last, path = before ++ [last] := by
      rcases List.eq_nil_or_concat path with rfl | ⟨before, last, same⟩
      · cases inside
      · exact ⟨before, last, by rw [same, List.concat_eq_append]⟩
    rw [List.dropLast_concat] at full
    rcases List.mem_append.mp (room_subset _ inside) with earlier | ends
    · exact full [] earlier rfl
    · rw [← List.mem_singleton.mp ends] at unended inside
      cases before with
      | nil => cases inside
      | cons first rest =>
        refine unended ⟨List.getLast?_concat, ?_⟩
        simp

end Path

end ObjectTransfer.Url
