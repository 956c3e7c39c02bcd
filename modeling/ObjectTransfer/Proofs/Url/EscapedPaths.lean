import ObjectTransfer.Proofs.Encoding.Percent
import ObjectTransfer.Url.Path

/-!
# Reading a path that is escaped already

A path whose segments are escaped is read segment by segment.  Escaping leaves
such a segment alone, and nothing in it is dropped or divides it, so the only
thing that can happen to it is the rule for dot segments.  Without dot segments
the path is read as it stands; with them, none is left of what is read.

A segment counts as a dot segment however its dots are written, and its escapes
stand for nothing but these dots.
-/

set_option autoImplicit false

namespace ObjectTransfer.Url.Path

/-! ## Escaped segments -/

def isSegmentCharacter (c : Char) : Bool :=
  Percent.isPlain isPlainInPath c && !isIgnored c && c != '/' && c != '\\'

def IsEscaped (segment : Segment) : Prop := ∀ c ∈ segment, isSegmentCharacter c = true

theorem IsEscaped.encode {segment : Segment} (escaped : IsEscaped segment) :
    Percent.encode isPlainInPath segment = segment := by
  refine Percent.encode_of_isPlain isPlainInPath segment fun c inside => ?_
  have fine := escaped c inside
  simp only [isSegmentCharacter, Bool.and_eq_true] at fine
  exact fine.1.1.1

theorem IsEscaped.withoutIgnored {segment : Segment} (escaped : IsEscaped segment) :
    withoutIgnored segment = segment := by
  refine List.filter_eq_self.mpr fun c inside => ?_
  have fine := escaped c inside
  simp only [isSegmentCharacter, Bool.and_eq_true] at fine
  exact fine.1.1.2

theorem IsEscaped.slash_not_mem {segment : Segment} (escaped : IsEscaped segment) :
    '/' ∉ segment :=
  fun inside => absurd (escaped '/' inside) (by decide)

theorem IsEscaped.backslash_not_mem {segment : Segment} (escaped : IsEscaped segment) :
    '\\' ∉ segment :=
  fun inside => absurd (escaped '\\' inside) (by decide)

theorem addRaw_false (encode : List Char → Segment) (trail : Trail) (raw : List Char)
    (last : Bool) :
    addRaw false encode trail raw last =
      add false trail (encode (withoutIgnored raw)) last := by
  simp only [addRaw, Bool.false_and, Bool.false_eq_true, if_false]

theorem addRaw_escaped (trail : Trail) (segment : Segment) (last : Bool)
    (escaped : IsEscaped segment) :
    addRaw false (Percent.encode isPlainInPath) trail segment last =
      add false trail segment last := by
  rw [addRaw_false, escaped.withoutIgnored, escaped.encode]

/-! ## Dot segments -/

def IsDots (segment : Segment) : Prop := isSingleDot segment = true ∨ isDoubleDot segment = true

theorem add_of_not_isDots (trail : Trail) (segment : Segment) (last : Bool)
    (named : ¬ IsDots segment) : add false trail segment last = segment :: trail := by
  have double : isDoubleDot segment = false := by
    simpa using fun dots => named (.inr dots)
  have single : isSingleDot segment = false := by
    simpa using fun dots => named (.inl dots)
  simp [add, addPlain, double, single]

theorem mem_shorten (trail : Trail) (segment : Segment) (inside : segment ∈ shorten trail) :
    segment ∈ trail := by
  unfold shorten at inside
  split at inside
  · split at inside
    · exact inside
    · exact List.mem_cons_of_mem _ inside
  · exact inside

theorem mem_add (trail : Trail) (segment found : Segment) (last : Bool)
    (inside : found ∈ add false trail segment last) :
    found ∈ trail ∨ found = [] ∨ (found = segment ∧ ¬ IsDots segment) := by
  by_cases dots : IsDots segment
  · have fewer : found = [] ∨ found ∈ trail := by
      unfold add at inside
      split at inside
      · split at inside
        · exact (List.mem_cons.mp inside).imp_right (mem_shorten trail found)
        · exact .inr (mem_shorten trail found inside)
      · rename_i notDouble
        rw [if_pos (dots.resolve_right notDouble)] at inside
        split at inside
        · exact List.mem_cons.mp inside
        · exact .inr inside
    exact fewer.elim (fun empty => .inr (.inl empty)) .inl
  · rw [add_of_not_isDots trail segment last dots] at inside
    exact (List.mem_cons.mp inside).elim (fun same => .inr (.inr ⟨same, dots⟩)) .inl

theorem decode_afterDot (segment rest : Segment) (dot : afterDot? segment = some rest) :
    Percent.decode (Utf8.encodeChars segment) =
      46 :: Percent.decode (Utf8.encodeChars rest) := by
  unfold afterDot? at dot
  split at dot
  · cases dot
    exact Percent.decode_cons_of_ne_percent 46 _ (by decide)
  · cases dot
    rfl
  · cases dot
    rfl
  · cases dot

theorem decode_of_isSingleDot {segment : Segment} (dot : isSingleDot segment = true) :
    Percent.decode (Utf8.encodeChars segment) = Utf8.encodeChars ['.'] :=
  decode_afterDot segment [] (beq_iff_eq.mp dot)

theorem decode_of_isDoubleDot {segment : Segment} (dots : isDoubleDot segment = true) :
    Percent.decode (Utf8.encodeChars segment) = Utf8.encodeChars ['.', '.'] := by
  unfold isDoubleDot at dots
  cases dot : afterDot? segment with
  | none => simp [dot] at dots
  | some rest =>
    rw [dot, Option.any_some] at dots
    rw [decode_afterDot segment rest dot, decode_of_isSingleDot dots]
    rfl

/-- A dot segment stands for a dot or for two. -/
theorem IsDots.decode {segment : Segment} (dots : IsDots segment) :
    Percent.decode (Utf8.encodeChars segment) = Utf8.encodeChars ['.'] ∨
      Percent.decode (Utf8.encodeChars segment) = Utf8.encodeChars ['.', '.'] :=
  dots.imp decode_of_isSingleDot decode_of_isDoubleDot

/-! ## Whole paths -/

theorem addAll_of_not_isDots (segments : List Segment) (trail : Trail)
    (escaped : ∀ segment ∈ segments, IsEscaped segment)
    (named : ∀ segment ∈ segments, ¬ IsDots segment) :
    addAll false trail segments = segments.reverse ++ trail := by
  induction segments generalizing trail with
  | nil => rfl
  | cons first rest ih =>
    have step : ∀ last, addRaw false (Percent.encode isPlainInPath) trail first last =
        first :: trail := fun last => by
      rw [addRaw_escaped trail first last (escaped first List.mem_cons_self),
        add_of_not_isDots trail first last (named first List.mem_cons_self)]
    cases rest with
    | nil => exact step true
    | cons next more =>
      rw [addAll, step, ih (first :: trail)
        (fun segment inside => escaped segment (List.mem_cons_of_mem first inside))
        (fun segment inside => named segment (List.mem_cons_of_mem first inside))]
      simp

theorem mem_addAll (segments : List Segment) (trail : Trail) (found : Segment)
    (escaped : ∀ segment ∈ segments, IsEscaped segment)
    (inside : found ∈ addAll false trail segments) :
    found ∈ trail ∨ found = [] ∨ (found ∈ segments ∧ ¬ IsDots found) := by
  induction segments generalizing trail with
  | nil => exact .inl inside
  | cons first rest ih =>
    have step : ∀ last, found ∈ addRaw false (Percent.encode isPlainInPath) trail first last →
        found ∈ trail ∨ found = [] ∨ (found ∈ first :: rest ∧ ¬ IsDots found) := by
      intro last added
      rw [addRaw_escaped trail first last (escaped first List.mem_cons_self)] at added
      rcases mem_add trail first found last added with before | empty | ⟨rfl, named⟩
      · exact .inl before
      · exact .inr (.inl empty)
      · exact .inr (.inr ⟨List.mem_cons_self, named⟩)
    cases rest with
    | nil => exact step true inside
    | cons next more =>
      rcases ih _ (fun segment later => escaped segment (List.mem_cons_of_mem first later)) inside
        with before | empty | ⟨later, named⟩
      · exact step false before
      · exact .inr (.inl empty)
      · exact .inr (.inr ⟨List.mem_cons_of_mem first later, named⟩)

theorem read_join (special : Bool) (segments : List Segment) (nonempty : segments ≠ [])
    (escaped : ∀ segment ∈ segments, IsEscaped segment) :
    read special false (Text.join '/' segments) = (addAll false [] segments).reverse := by
  have divided : rawSegments special (Text.join '/' segments) = segments := by
    have clear : ∀ c ∈ Text.join '/' segments, c ≠ '\\' := by
      rintro c inside rfl
      rcases Text.mem_join _ _ segments inside with same | ⟨segment, member, found⟩
      · cases same
      · exact (escaped segment member).backslash_not_mem found
    have kept : (Text.join '/' segments).map (fun c => if c = '\\' then '/' else c) =
        Text.join '/' segments := by
      conv => rhs; rw [← List.map_id (Text.join '/' segments)]
      exact List.map_congr_left fun c inside => if_neg (clear c inside)
    simp only [rawSegments, kept, ite_self]
    exact Text.split_join '/' segments nonempty fun segment inside =>
      (escaped segment inside).slash_not_mem
  simp only [read, Path.segments, divided, settle, Bool.false_eq_true, if_false]

theorem text_eq_join (segments : List Segment) (nonempty : segments ≠ []) :
    text segments = '/' :: Text.join '/' segments := by
  induction segments with
  | nil => exact absurd rfl nonempty
  | cons first rest ih =>
    cases rest with
    | nil => simp [text, Text.join]
    | cons next more =>
      have later := ih (by simp)
      simp only [text, List.flatMap_cons, Text.join] at later ⊢
      rw [later]
      simp

theorem split_text (segments : List Segment) (escaped : ∀ segment ∈ segments, '/' ∉ segment) :
    Text.split '/' (text segments) = [] :: segments := by
  cases segments with
  | nil => rfl
  | cons first rest =>
    rw [text_eq_join _ (List.cons_ne_nil first rest), Text.split, if_pos rfl,
      Text.split_join '/' _ (List.cons_ne_nil first rest) escaped]

end ObjectTransfer.Url.Path
