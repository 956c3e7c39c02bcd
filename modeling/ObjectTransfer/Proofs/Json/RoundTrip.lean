import ObjectTransfer.Proofs.Json.NumberRoundTrip
import ObjectTransfer.Proofs.Json.TextRoundTrip
import ObjectTransfer.Wire.OfText

/-!
# Written values are read back

A reader that reads each element or each member of a container in its written
form reads the whole container.  So a value is read back as it was, unless it
holds a binary number, a whole number beyond sixty-four bits, or containers too
deep inside each other.
-/

set_option autoImplicit false

namespace ObjectTransfer.Json.Reader

variable {α σ : Type}

/-! ## Marks between values -/

theorem moreElements_first (octet : UInt8) (rest : Octets) (notSpace : isSpace octet = false)
    (notEnd : octet ≠ 93) : moreElements true (octet :: rest) = .ok (true, octet :: rest) := by
  rw [moreElements, bind_read _ _ _ _ _ (next_read octet rest notSpace)]
  simp only [if_true, pure_read]

theorem moreElements_comma (octet : UInt8) (rest : Octets) (notSpace : isSpace octet = false)
    (notEnd : octet ≠ 93) :
    moreElements false (44 :: octet :: rest) = .ok (true, octet :: rest) := by
  rw [moreElements, bind_read _ _ _ _ _ (next_read 44 (octet :: rest) rfl)]
  change (drop >>= fun _ => next >>= _) (44 :: octet :: rest) = _
  rw [bind_read _ _ _ _ _ (drop_read 44 (octet :: rest)),
    bind_read _ _ _ _ _ (next_read octet rest notSpace)]
  simp only [pure_read]

theorem moreElements_close (first : Bool) (rest : Octets) :
    moreElements first (93 :: rest) = .ok (false, 93 :: rest) := rfl

theorem moreMembers_first (name : String) (rest : Octets) :
    moreMembers true (Utf8.encodeChars (writtenText name) ++ rest) =
      .ok (true, Utf8.encodeChars (writtenText name) ++ rest) := rfl

theorem moreMembers_comma (name : String) (rest : Octets) :
    moreMembers false (44 :: (Utf8.encodeChars (writtenText name) ++ rest)) =
      .ok (true, Utf8.encodeChars (writtenText name) ++ rest) := rfl

theorem moreMembers_close (first : Bool) (rest : Octets) :
    moreMembers first (125 :: rest) = .ok (false, 125 :: rest) := rfl

theorem key_written (name : String) (rest : Octets) :
    key (Utf8.encodeChars (writtenText name) ++ rest) = .ok (name, rest) :=
  textTail_written name rest

theorem colon_read (rest : Octets) : colon (58 :: rest) = .ok ((), rest) := rfl

/-! ## Lists -/

theorem encodeChars_writtenMoreElements (element : Json) (more : List Json) (rest : Octets) :
    Utf8.encodeChars (writtenMoreElements (element :: more)) ++ rest =
      44 :: (Utf8.encodeChars element.written ++
        (Utf8.encodeChars (writtenMoreElements more) ++ rest)) := by
  rw [writtenMoreElements, Utf8.encodeChars_cons, Utf8.encodeChars_append, List.append_assoc,
    List.append_assoc]
  rfl

theorem follows_writtenMoreElements (elements : List Json) (rest : Octets) :
    Follows (Utf8.encodeChars (writtenMoreElements elements) ++ rest) := by
  cases elements with
  | nil => exact follows_bracket rest
  | cons element more =>
    rw [encodeChars_writtenMoreElements]
    exact follows_comma _

theorem elements_more (element : Reader α) (toJson : α → Json) (values : List α) :
    (∀ value ∈ values, Reads element (toJson value).written value) →
    ∀ (fuel : Nat) (rest : Octets), values.length < fuel →
      elements element fuel false
        (Utf8.encodeChars (writtenMoreElements (values.map toJson)) ++ rest) =
          .ok (values, rest) := by
  induction values with
  | nil =>
    intro _ fuel rest enough
    obtain ⟨fuel, rfl⟩ := Nat.exists_eq_add_of_lt enough
    have close : Utf8.encodeChars (writtenMoreElements ([].map toJson)) ++ rest = 93 :: rest := rfl
    rw [close, elements, bind_read _ _ _ _ _ (moreElements_close false rest)]
    rfl
  | cons value more ih =>
    intro reads fuel rest enough
    obtain ⟨fuel, rfl⟩ := Nat.exists_eq_add_of_lt enough
    have here := reads value List.mem_cons_self
    have later := ih (fun other inside => reads other (List.mem_cons_of_mem _ inside))
      (more.length + 1 + fuel) rest (by omega)
    have whole := here.read _ (follows_writtenMoreElements (more.map toJson) rest)
    obtain ⟨octet, others, written, notSpace, notEnd⟩ := here.starts
    rw [List.map_cons, encodeChars_writtenMoreElements, elements]
    rw [written, List.cons_append] at whole ⊢
    rw [bind_read _ _ _ _ _ (moreElements_comma octet _ notSpace notEnd)]
    simp only [if_true]
    rw [bind_read _ _ _ _ _ whole, List.length_cons, bind_read _ _ _ _ _ later]
    rfl

theorem elements_written (element : Reader α) (toJson : α → Json) (values : List α)
    (reads : ∀ value ∈ values, Reads element (toJson value).written value) (fuel : Nat)
    (rest : Octets) (enough : values.length < fuel) :
    elements element fuel true
      (Utf8.encodeChars (writtenElements (values.map toJson)) ++ rest) = .ok (values, rest) := by
  obtain ⟨fuel, rfl⟩ := Nat.exists_eq_add_of_lt enough
  cases values with
  | nil =>
    have close : Utf8.encodeChars (writtenElements ([].map toJson)) ++ rest = 93 :: rest := rfl
    rw [close, elements, bind_read _ _ _ _ _ (moreElements_close true rest)]
    rfl
  | cons value more =>
    have here := reads value List.mem_cons_self
    have later := elements_more element toJson more
      (fun other inside => reads other (List.mem_cons_of_mem _ inside))
      (more.length + 1 + fuel) rest (by omega)
    have whole := here.read _ (follows_writtenMoreElements (more.map toJson) rest)
    obtain ⟨octet, others, written, notSpace, notEnd⟩ := here.starts
    rw [List.map_cons, writtenElements, Utf8.encodeChars_append, List.append_assoc, elements]
    rw [written, List.cons_append] at whole ⊢
    rw [bind_read _ _ _ _ _ (moreElements_first octet _ notSpace notEnd)]
    simp only [if_true]
    rw [bind_read _ _ _ _ _ whole, List.length_cons, bind_read _ _ _ _ _ later]
    rfl

/-! ## Objects -/

open Wire (eachMember)

theorem encodeChars_member (mark : Char) (name : String) (value : Json) (tail : List Char)
    (rest : Octets) :
    Utf8.encodeChars (mark :: (writtenText name ++ ':' :: (value.written ++ tail))) ++ rest =
      String.utf8EncodeChar mark ++ (Utf8.encodeChars (writtenText name) ++
        (58 :: (Utf8.encodeChars value.written ++ (Utf8.encodeChars tail ++ rest)))) := by
  have colonOctet : String.utf8EncodeChar ':' = [58] := rfl
  rw [Utf8.encodeChars_cons, Utf8.encodeChars_append, Utf8.encodeChars_cons,
    Utf8.encodeChars_append, colonOctet]
  simp only [List.append_assoc, List.cons_append, List.nil_append]

theorem follows_writtenMoreMembers (members : List (String × Json)) (rest : Octets) :
    Follows (Utf8.encodeChars (writtenMoreMembers members) ++ rest) := by
  cases members with
  | nil => exact follows_brace rest
  | cons member more => exact follows_comma _

/-- Steps that read the colon and the value of each member in turn lead from state to state. -/
def Steps (step : String → σ → Reader σ) : List (String × Json) → σ → σ → Prop
  | [], before, after => before = after
  | (name, value) :: more, before, after => ∃ between,
      (∀ rest, Follows rest →
        step name before (58 :: (Utf8.encodeChars value.written ++ rest)) = .ok (between, rest)) ∧
      Steps step more between after

theorem steps_append (step : String → σ → Reader σ) (earlier later : List (String × Json)) :
    ∀ before between after : σ, Steps step earlier before between →
      Steps step later between after → Steps step (earlier ++ later) before after := by
  induction earlier with
  | nil =>
    rintro before between after rfl rest
    exact rest
  | cons member more ih =>
    rintro before between after ⟨next, read, rest⟩ last
    exact ⟨next, read, ih next between after rest last⟩

theorem eachMember_round (step : String → σ → Reader σ) (fuel : Nat) (first : Bool)
    (name : String) (before between : σ) (octets value rest : Octets)
    (more : moreMembers first octets =
      .ok (true, Utf8.encodeChars (writtenText name) ++ (58 :: (value ++ rest))))
    (read : step name before (58 :: (value ++ rest)) = .ok (between, rest)) :
    eachMember step (fuel + 1) first before octets = eachMember step fuel false between rest := by
  rw [eachMember, bind_read _ _ _ _ _ more]
  simp only [if_true]
  rw [bind_read _ _ _ _ _ (key_written name _), bind_read _ _ _ _ _ read]

theorem eachMember_more (step : String → σ → Reader σ) (members : List (String × Json)) :
    ∀ (before after : σ), Steps step members before after →
    ∀ (fuel : Nat) (rest : Octets), members.length < fuel →
      eachMember step fuel false before
        (Utf8.encodeChars (writtenMoreMembers members) ++ rest) = .ok (after, rest) := by
  induction members with
  | nil =>
    rintro before after rfl fuel rest enough
    obtain ⟨fuel, rfl⟩ := Nat.exists_eq_add_of_lt enough
    have close : Utf8.encodeChars (writtenMoreMembers []) ++ rest = 125 :: rest := rfl
    rw [close, eachMember, bind_read _ _ _ _ _ (moreMembers_close false rest)]
    rfl
  | cons member more ih =>
    rintro before after ⟨between, read, later⟩ fuel rest enough
    obtain ⟨name, value⟩ := member
    obtain ⟨fuel, rfl⟩ := Nat.exists_eq_add_of_lt enough
    rw [writtenMoreMembers, encodeChars_member, List.length_cons]
    exact (eachMember_round step _ false name before between _ _ _ (moreMembers_comma name _)
      (read _ (follows_writtenMoreMembers more rest))).trans
        (ih between after later _ rest (by omega))

theorem eachMember_written (step : String → σ → Reader σ) (members : List (String × Json))
    (before after : σ) (steps : Steps step members before after) (fuel : Nat) (rest : Octets)
    (enough : members.length < fuel) :
    eachMember step fuel true before
      (Utf8.encodeChars (writtenMembers members) ++ rest) = .ok (after, rest) := by
  obtain ⟨fuel, rfl⟩ := Nat.exists_eq_add_of_lt enough
  cases members with
  | nil =>
    have close : Utf8.encodeChars (writtenMembers []) ++ rest = 125 :: rest := rfl
    rw [close, eachMember, bind_read _ _ _ _ _ (moreMembers_close true rest), steps]
    rfl
  | cons member more =>
    obtain ⟨name, value⟩ := member
    obtain ⟨between, read, later⟩ := steps
    have written := encodeChars_member ',' name value (writtenMoreMembers more) rest
    rw [Utf8.encodeChars_cons, List.append_assoc] at written
    rw [writtenMembers, List.append_cancel_left written, List.length_cons]
    exact (eachMember_round step _ true name before between _ _ _ (moreMembers_first name _)
      (read _ (follows_writtenMoreMembers more rest))).trans
        (eachMember_more step more between after later _ rest (by omega))

def collect (value : Reader α) (name : String) (seen : List (String × α)) :
    Reader (List (String × α)) := do
  colon
  let entry ← value
  pure (seen ++ [(name, entry)])

/-- Reading members is the loop whose state is what was collected. -/
theorem eachMember_collect (value : Reader α) (fuel : Nat) :
    ∀ (first : Bool) (seen : List (String × α)),
      eachMember (collect value) fuel first seen =
        (do
          let more ← members value fuel first
          pure (seen ++ more)) := by
  induction fuel with
  | zero =>
    intro first seen
    rfl
  | succ fuel ih =>
    intro first seen
    simp only [eachMember, members, bind_assoc]
    congr 1
    funext more
    cases more with
    | false => simp
    | true =>
      simp only [if_true, collect, bind_assoc, pure_bind, ih, List.append_assoc,
        List.singleton_append]

theorem steps_collect (reader : Reader α) (toJson : α → Json) (entries : List (String × α)) :
    (∀ entry ∈ entries, Reads reader (toJson entry.2).written entry.2) →
    ∀ seen : List (String × α),
      Steps (collect reader) (entries.map fun entry => (entry.1, toJson entry.2)) seen
        (seen ++ entries) := by
  induction entries with
  | nil =>
    intro _ seen
    exact (List.append_nil seen).symm
  | cons entry more ih =>
    intro reads seen
    have next := ih (fun other inside => reads other (List.mem_cons_of_mem _ inside))
      (seen ++ [entry])
    rw [List.append_assoc, List.singleton_append] at next
    refine ⟨seen ++ [entry], ?_, next⟩
    intro rest follows
    have whole := (reads entry List.mem_cons_self).read rest follows
    rw [collect, bind_read _ _ _ _ _ (colon_read _), bind_read _ _ _ _ _ whole]
    rfl

theorem members_written (reader : Reader α) (toJson : α → Json) (entries : List (String × α))
    (reads : ∀ entry ∈ entries, Reads reader (toJson entry.2).written entry.2) (fuel : Nat)
    (rest : Octets) (enough : entries.length < fuel) :
    members reader fuel true
      (Utf8.encodeChars (writtenMembers (entries.map fun entry => (entry.1, toJson entry.2))) ++
        rest) = .ok (entries, rest) := by
  have looped := eachMember_written _ _ [] entries (steps_collect reader toJson entries reads [])
    fuel rest (by simpa using enough)
  rw [eachMember_collect] at looped
  obtain ⟨pair, read, same⟩ := (bind_eq_ok_iff _ _ _).mp looped
  rw [read]
  exact same

end ObjectTransfer.Json.Reader

namespace ObjectTransfer.Json

open Reader

/-- No binary numbers, whole numbers of sixty-four bits, and containers that lie at most so deep
inside each other. -/
def Fits : Nat → Json → Prop
  | 0, _ => False
  | _ + 1, .null => True
  | _ + 1, .boolean _ => True
  | _ + 1, .integer value => -9223372036854775808 ≤ value ∧ value ≤ 18446744073709551615
  | _ + 1, .float _ => False
  | _ + 1, .text _ => True
  | depth + 1, .array elements => 0 < depth ∧ ∀ element ∈ elements, Fits depth element
  | depth + 1, .object members => 0 < depth ∧ ∀ member ∈ members, Fits depth member.2

/-! ## Values -/

theorem length_le_encodeChars (text : List Char) : text.length ≤ (Utf8.encodeChars text).length := by
  induction text with
  | nil => simp
  | cons c more ih =>
    have positive : 0 < (String.utf8EncodeChar c).length :=
      List.length_pos_iff.mpr String.utf8EncodeChar_ne_nil
    rw [Utf8.encodeChars_cons, List.length_append, List.length_cons]
    omega

theorem length_lt_writtenMoreElements (elements : List Json) :
    elements.length < (writtenMoreElements elements).length := by
  induction elements with
  | nil => simp [writtenMoreElements]
  | cons element more ih =>
    rw [writtenMoreElements, List.length_cons, List.length_cons, List.length_append]
    omega

theorem length_lt_writtenMoreMembers (members : List (String × Json)) :
    members.length < (writtenMoreMembers members).length := by
  induction members with
  | nil => simp [writtenMoreMembers]
  | cons member more ih =>
    rw [writtenMoreMembers, List.length_cons, List.length_cons, List.length_append,
      List.length_cons, List.length_append]
    omega

theorem elements_lt_rounds (elements : List Json) (rest : Octets) :
    elements.length < (Utf8.encodeChars (writtenElements elements) ++ rest).length + 1 := by
  have octets := length_le_encodeChars (writtenElements elements)
  rw [List.length_append]
  cases elements with
  | nil => simp
  | cons element more =>
    have later := length_lt_writtenMoreElements more
    rw [writtenElements, List.length_append] at octets
    rw [writtenElements, List.length_cons]
    omega

theorem members_lt_rounds (members : List (String × Json)) (rest : Octets) :
    members.length < (Utf8.encodeChars (writtenMembers members) ++ rest).length + 1 := by
  have octets := length_le_encodeChars (writtenMembers members)
  rw [List.length_append]
  cases members with
  | nil => simp
  | cons member more =>
    have later := length_lt_writtenMoreMembers more
    rw [writtenMembers, List.length_append, List.length_cons, List.length_append] at octets
    rw [writtenMembers, List.length_cons]
    omega

theorem listOf_written {α : Type} (element : Reader α) (toJson : α → Json) (values : List α)
    (reads : ∀ value ∈ values, Reads element (toJson value).written value) (rest : Octets) :
    listOf element (Utf8.encodeChars (writtenElements (values.map toJson)) ++ rest) =
      .ok (values, rest) := by
  have enough := elements_lt_rounds (values.map toJson) rest
  rw [List.length_map] at enough
  rw [listOf, bind_read _ _ _ _ _ (rounds_read _)]
  exact elements_written element toJson values reads _ rest enough

theorem membersOf_written {α : Type} (reader : Reader α) (toJson : α → Json)
    (entries : List (String × α))
    (reads : ∀ entry ∈ entries, Reads reader (toJson entry.2).written entry.2) (rest : Octets) :
    membersOf reader (Utf8.encodeChars
      (writtenMembers (entries.map fun entry => (entry.1, toJson entry.2))) ++ rest) =
        .ok (entries, rest) := by
  have enough := members_lt_rounds (entries.map fun entry => (entry.1, toJson entry.2)) rest
  rw [List.length_map] at enough
  rw [membersOf, bind_read _ _ _ _ _ (rounds_read _)]
  exact members_written reader toJson entries reads _ rest enough

/-! ## Whole numbers -/

theorem encodeChars_writtenInteger (value : Int) :
    Utf8.encodeChars (writtenInteger value) =
      if value < 0 then 45 :: decimal value.natAbs else decimal value.natAbs := by
  unfold writtenInteger
  split
  · rfl
  · rfl

theorem starts_integer (value : Int) : ∃ first more,
    Utf8.encodeChars (writtenInteger value) = first :: more ∧ isSpace first = false ∧
      first ≠ 93 := by
  rw [encodeChars_writtenInteger]
  split
  · exact ⟨45, _, rfl, rfl, by decide⟩
  · obtain ⟨first, more, written, digit, -, -⟩ := decimal_shape value.natAbs
    refine ⟨first, more, written, ?_⟩
    rcases eq_of_isDigit first digit with rfl | rfl | rfl | rfl | rfl | rfl | rfl | rfl | rfl | rfl
      <;> decide

theorem reads_writtenInteger {α : Type} (reader : Reader α) (finish : Reader.Number → Reader α)
    (signed : ∀ rest, reader (45 :: rest) = (number true >>= finish) rest)
    (unsigned : ∀ first, isDigit first = true → ∀ rest,
      reader (first :: rest) = (number false >>= finish) (first :: rest))
    (value : Int) (result : α)
    (fits : -9223372036854775808 ≤ value ∧ value ≤ 18446744073709551615)
    (finished : ∀ rest, finish (.integer value) rest = .ok (result, rest)) :
    Reads reader (writtenInteger value) result where
  starts := starts_integer value
  read rest follows := by
    have bound : value.natAbs ≤ largestWord := by
      simp only [largestWord, UInt64.size]
      omega
    rw [encodeChars_writtenInteger]
    split
    · rename_i negative
      have read := number_read true value.natAbs bound rest follows
      have whole : ¬ (value.natAbs = 0 ∨ UInt64.size / 2 < value.natAbs) := by
        simp only [UInt64.size]
        omega
      have back : -(value.natAbs : Int) = value := by omega
      rw [if_neg (by decide), if_neg whole, back] at read
      rw [List.cons_append, signed, bind_read _ _ _ _ _ read, finished]
    · have read := number_read false value.natAbs bound rest follows
      have back : (value.natAbs : Int) = value := by omega
      rw [if_pos rfl, back] at read
      obtain ⟨first, more, written, digit, -, -⟩ := decimal_shape value.natAbs
      rw [written, List.cons_append] at read ⊢
      rw [unsigned first digit, bind_read _ _ _ _ _ read, finished]

theorem json_digit (depth : Nat) (first : UInt8) (digit : isDigit first = true) (rest : Octets) :
    Reader.json (depth + 1) (first :: rest) =
      (do return (← number false).json) (first :: rest) := by
  rcases eq_of_isDigit first digit with rfl | rfl | rfl | rfl | rfl | rfl | rfl | rfl | rfl | rfl
    <;> rfl

theorem json_integer (depth : Nat) (value : Int)
    (fits : -9223372036854775808 ≤ value ∧ value ≤ 18446744073709551615) :
    Reads (Reader.json (depth + 1)) (writtenInteger value) (.integer value) :=
  reads_writtenInteger _ (fun read => pure read.json) (fun _ => rfl) (json_digit depth) value _ fits
    fun _ => rfl

/-! ## All values -/

/-- A value is read back from its written form, whatever follows it in a container. -/
theorem reads_written (depth : Nat) : ∀ value : Json, Fits depth value →
    Reads (Reader.json depth) value.written value := by
  induction depth with
  | zero =>
    intro value fits
    cases value <;> exact fits.elim
  | succ depth ih =>
    intro value fits
    cases value with
    | null => exact ⟨⟨110, _, rfl, rfl, by decide⟩, fun rest _ => rfl⟩
    | boolean value =>
      cases value with
      | false => exact ⟨⟨102, _, rfl, rfl, by decide⟩, fun rest _ => rfl⟩
      | true => exact ⟨⟨116, _, rfl, rfl, by decide⟩, fun rest _ => rfl⟩
    | integer value => exact json_integer depth value fits
    | float value => exact fits.elim
    | text value =>
      refine ⟨⟨34, _, rfl, rfl, by decide⟩, fun rest _ => ?_⟩
      change (textTail >>= fun content => pure (Json.text content))
        (Utf8.encodeChars (value.toList.flatMap escaped ++ ['"']) ++ rest) = _
      rw [bind_read _ _ _ _ _ (textTail_written value rest)]
      rfl
    | array elements =>
      obtain ⟨positive, inner⟩ := fits
      refine ⟨⟨91, _, rfl, rfl, by decide⟩, fun rest _ => ?_⟩
      have read := listOf_written (Reader.json depth) id elements
        (fun element inside => ih element (inner element inside)) rest
      rw [List.map_id] at read
      change (if depth = 0 then stopAtNext Fault.tooDeep
        else drop >>= fun _ => listOf (Reader.json depth) >>= fun elements =>
          pure (Json.array elements)) (91 :: (Utf8.encodeChars (writtenElements elements) ++ rest)) =
            _
      rw [if_neg (by omega), bind_read _ _ _ _ _ (drop_read 91 _), bind_read _ _ _ _ _ read]
      rfl
    | object members =>
      obtain ⟨positive, inner⟩ := fits
      refine ⟨⟨123, _, rfl, rfl, by decide⟩, fun rest _ => ?_⟩
      have read := membersOf_written (Reader.json depth) id members
        (fun member inside => ih member.2 (inner member inside)) rest
      simp only [id_eq, List.map_id'] at read
      change (if depth = 0 then stopAtNext Fault.tooDeep
        else drop >>= fun _ => membersOf (Reader.json depth) >>= fun members =>
          pure (Json.object members))
            (123 :: (Utf8.encodeChars (writtenMembers members) ++ rest)) = _
      rw [if_neg (by omega), bind_read _ _ _ _ _ (drop_read 123 _), bind_read _ _ _ _ _ read]
      rfl

end ObjectTransfer.Json
