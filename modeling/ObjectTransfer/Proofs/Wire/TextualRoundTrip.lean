import ObjectTransfer.Proofs.Json.RoundTrip
import ObjectTransfer.Proofs.Wire.ValueRoundTrip

/-!
# Messages survive the way into a text and back

The reader of a shape follows the text that a value of the shape is written as.
Each member of a record comes to its own slot, as no two fields share a key, and
a field that may be absent is told from a null by its first octet, since nothing
that such a field holds is written with the letter that a null begins with.

What the text itself asks for is that the containers of the shape do not lie too
deep inside each other.  So a format whose shape is sound and not too high loses
nothing, and different values have different texts.
-/

set_option autoImplicit false

namespace ObjectTransfer.Wire

open Json (Reader)
open Json.Reader

variable {α : Type}

mutual

/-- How many containers lie inside each other in a value of a shape, at most. -/
def Shape.height : Shape → Nat
  | .text _ => 0
  | .boolean => 0
  | .word16 => 0
  | .word64 => 0
  | .url => 0
  | .json => 0
  | .choice _ => 0
  | .list element => element.height + 1
  | .texts => 1
  | .record _ fields => fields.height + 1

def Fields.height : Fields → Nat
  | .nil => 0
  | .cons _ _ shape rest => max shape.height rest.height

end

mutual

def Shape.decideSound : (shape : Shape) → Decidable shape.Sound
  | .text _ => .isTrue trivial
  | .boolean => .isTrue trivial
  | .word16 => .isTrue trivial
  | .word64 => .isTrue trivial
  | .url => .isFalse id
  | .json => .isFalse id
  | .choice names => inferInstanceAs (Decidable names.Nodup)
  | .list element => element.decideSound
  | .texts => .isTrue trivial
  | .record _ fields => fields.decideSound

def Fields.decideSound : (fields : Fields) → Decidable fields.Sound
  | .nil => .isTrue trivial
  | .cons key _ shape rest =>
    have := shape.decideSound
    have := rest.decideSound
    inferInstanceAs (Decidable (key ∉ rest.keys ∧ shape.Sound ∧ rest.Sound))

end

instance (shape : Shape) : Decidable shape.Sound := shape.decideSound

/-! ## What a value begins with -/

/-- A value begins with neither a space, nor the end of a list, nor the letter of a null. -/
theorem Shape.starts (shape : Shape) (sound : shape.Sound) (value : shape.Value) :
    ∃ first more, Utf8.encodeChars (shape.toJson value).written = first :: more ∧
      isSpace first = false ∧ first ≠ 93 ∧ first ≠ 110 := by
  have number : ∀ n : Nat, ∃ first more,
      Utf8.encodeChars (Json.writtenInteger (Int.ofNat n)) = first :: more ∧
        isSpace first = false ∧ first ≠ 93 ∧ first ≠ 110 := by
    intro n
    obtain ⟨first, more, written, digit, -, -⟩ := decimal_shape n
    refine ⟨first, more, written, ?_⟩
    rcases eq_of_isDigit first digit with rfl | rfl | rfl | rfl | rfl | rfl | rfl | rfl | rfl | rfl
      <;> decide
  cases shape with
  | text expected => exact ⟨34, _, rfl, by decide⟩
  | boolean =>
    cases value with
    | false => exact ⟨102, _, rfl, by decide⟩
    | true => exact ⟨116, _, rfl, by decide⟩
  | word16 => exact number _
  | word64 => exact number _
  | url => exact sound.elim
  | json => exact sound.elim
  | choice names => exact ⟨34, _, rfl, by decide⟩
  | list element => exact ⟨91, _, rfl, by decide⟩
  | texts => exact ⟨123, _, rfl, by decide⟩
  | record name fields => exact ⟨123, _, rfl, by decide⟩

/-! ## Single values -/

theorem inside_read (body : Nat → Reader α) (bracket : UInt8) (rest : Octets) (depth : Nat)
    (room : 1 < depth) : inside depth body (bracket :: rest) = body (depth - 1) rest := by
  obtain ⟨deeper, rfl⟩ : ∃ deeper, depth = deeper + 2 := ⟨depth - 2, by omega⟩
  rfl

theorem reads_integer (expected : String) (accept : Json → Read α) (value : Int) (result : α)
    (fits : -9223372036854775808 ≤ value ∧ value ≤ 18446744073709551615)
    (accepted : accept (.integer value) = .ok result) :
    Reads (readInteger expected accept) (Json.writtenInteger value) result := by
  refine Json.reads_writtenInteger _ (fun read => settled (accept read.json)) (fun _ => rfl) ?_
    value result fits ?_
  · intro first digit rest
    rcases eq_of_isDigit first digit with
      rfl | rfl | rfl | rfl | rfl | rfl | rfl | rfl | rfl | rfl <;> rfl
  · intro rest
    rw [Json.Reader.Number.json, accepted]
    rfl

theorem readText_written (expected text : String) (rest : Octets) :
    readText expected (Utf8.encodeChars (Json.writtenText text) ++ rest) = .ok (text, rest) :=
  textTail_written text rest

theorem readBoolean_written (value : Bool) (rest : Octets) :
    readBoolean (Utf8.encodeChars (Json.boolean value).written ++ rest) = .ok (value, rest) := by
  cases value <;> rfl

theorem readChoice_written (names : List String) (distinct : names.Nodup)
    (place : Fin names.length) (depth : Nat) (rest : Octets) :
    readChoice names depth (Utf8.encodeChars (Json.writtenText (names.get place)) ++ rest) =
      .ok (place, rest) := by
  have read := textTail_written (names.get place) rest
  change (textTail >>= fun name => settled (choiceOf names name))
    (Utf8.encodeChars ((names.get place).toList.flatMap Json.escaped ++ ['"']) ++ rest) = _
  rw [bind_read _ _ _ _ _ read, choiceOf_get names distinct place]
  rfl

/-! ## Fields -/

/-- What a field holds is read behind the colon, and a null is not taken for it. -/
theorem readHeld_written (presence : Presence) (key : String) (shape : Shape)
    (sound : shape.Sound) (read : Reader shape.Value)
    (back : ∀ value rest, Follows rest →
      read (Utf8.encodeChars (shape.toJson value).written ++ rest) = .ok (value, rest))
    (held : presence.Held shape.Value) :
    ∀ member ∈ presence.members key shape.toJson held, ∀ rest, Follows rest →
      presence.readHeld read (Utf8.encodeChars member.2.written ++ rest) = .ok (held, rest) := by
  intro member inside rest follows
  cases presence with
  | required =>
    rw [List.mem_singleton.mp inside]
    exact back held rest follows
  | defaulted value =>
    rw [List.mem_singleton.mp inside]
    exact back held rest follows
  | omittable =>
    cases held with
    | none => cases inside
    | some value =>
      have whole := back value rest follows
      obtain ⟨first, more, written, notSpace, -, notNull⟩ := shape.starts sound value
      rw [List.mem_singleton.mp inside]
      rw [written, List.cons_append] at whole ⊢
      have other : some first ≠ some 110 := fun null => notNull (Option.some.inj null)
      rw [Presence.readHeld, bind_read _ _ _ _ _ (next_read first _ notSpace)]
      generalize some first = mark at other
      split
      · exact absurd rfl other
      · rw [bind_read _ _ _ _ _ whole]
        rfl

theorem steps_rest (key : String) (presence : Presence) (shape : Shape) (rest : Fields)
    (depth : Nat) (slot : Option (presence.Held shape.Value)) (members : List (String × Json)) :
    (∀ member ∈ members, member.1 ≠ key) → ∀ before after : rest.Slots,
      Steps (rest.readMember depth) members before after →
      Steps ((Fields.cons key presence shape rest).readMember depth) members
        (slot, before) (slot, after) := by
  induction members with
  | nil =>
    rintro _ before after rfl
    rfl
  | cons member more ih =>
    obtain ⟨name, value⟩ := member
    rintro others before after ⟨between, read, later⟩
    have other : name ≠ key := others _ List.mem_cons_self
    refine ⟨(slot, between), ?_,
      ih (fun next inside => others next (List.mem_cons_of_mem _ inside)) between after later⟩
    intro octets follows
    rw [Fields.readMember.eq_def]
    simp only
    rw [if_neg other, bind_read _ _ _ _ _ (read octets follows)]
    rfl

theorem steps_first (key : String) (presence : Presence) (shape : Shape) (rest : Fields)
    (depth : Nat) (sound : shape.Sound)
    (back : ∀ value octets, Follows octets →
      shape.read depth (Utf8.encodeChars (shape.toJson value).written ++ octets) =
        .ok (value, octets))
    (held : presence.Held shape.Value) (values : rest.Values) (slots : rest.Slots) :
    Steps ((Fields.cons key presence shape rest).readMember depth)
      (presence.members key shape.toJson held) (none, slots)
      (((Fields.cons key presence shape rest).slotsOf (held, values)).1, slots) := by
  have one : ∀ value, (key, value) ∈ presence.members key shape.toJson held →
      Steps ((Fields.cons key presence shape rest).readMember depth) [(key, value)]
        (none, slots) (some held, slots) := by
    intro value inside
    refine ⟨(some held, slots), fun octets follows => ?_, rfl⟩
    have read := readHeld_written presence key shape sound _ back held _ inside octets follows
    rw [Fields.readMember, if_pos rfl]
    change (colon >>= fun _ => presence.readHeld (shape.read depth) >>= fun held =>
      pure (some held, slots)) _ = _
    rw [bind_read _ _ _ _ _ (colon_read _), bind_read _ _ _ _ _ read]
    rfl
  cases presence with
  | required => exact one _ List.mem_cons_self
  | defaulted value => exact one _ List.mem_cons_self
  | omittable =>
    cases held with
    | none => rfl
    | some value => exact one _ List.mem_cons_self

/-! ## Shapes -/

mutual

/-- A value of a sound shape is read back from its text, whatever follows it in a container. -/
theorem Shape.read_written : (shape : Shape) → shape.Sound → ∀ depth, shape.height < depth →
    ∀ (value : shape.Value) (rest : Octets), Follows rest →
      shape.read depth (Utf8.encodeChars (shape.toJson value).written ++ rest) = .ok (value, rest)
  | .text expected, _, _, _, value, rest, _ => readText_written expected value rest
  | .boolean, _, _, _, value, rest, _ => readBoolean_written value rest
  | .word16, _, _, _, value, rest, follows => by
    have accepted := naturalOf_ofNat UInt16.size "u16" value.toNat value.toNat_lt
    refine (reads_integer "u16" _ (Int.ofNat value.toNat) value ?_ ?_).read rest follows
    · have small := value.toNat_lt
      simp only [Int.ofNat_eq_natCast]
      omega
    · rw [accepted, ok_bind]
      exact congrArg Except.ok UInt16.ofNat_toNat
  | .word64, _, _, _, value, rest, follows => by
    have accepted := naturalOf_ofNat UInt64.size "u64" value.toNat value.toNat_lt
    refine (reads_integer "u64" _ (Int.ofNat value.toNat) value ?_ ?_).read rest follows
    · have small := value.toNat_lt
      simp only [Int.ofNat_eq_natCast]
      omega
    · rw [accepted, ok_bind]
      exact congrArg Except.ok UInt64.ofNat_toNat
  | .choice names, distinct, depth, _, place, rest, _ =>
    readChoice_written names distinct place depth rest
  | .list element, sound, depth, room, values, rest, follows => by
    have reads : ∀ value ∈ values, Reads (element.read (depth - 1)) (element.toJson value).written
        value := by
      intro value _
      obtain ⟨first, more, written, notSpace, notEnd, -⟩ := element.starts sound value
      have lower : element.height < depth - 1 := by
        simp only [Shape.height] at room
        omega
      exact ⟨⟨first, more, written, notSpace, notEnd⟩,
        element.read_written sound (depth - 1) lower value⟩
    have read := Json.listOf_written (element.read (depth - 1)) element.toJson values reads rest
    have within := inside_read (fun deeper => listOf (element.read deeper)) 91
      (Utf8.encodeChars (Json.writtenElements (values.map element.toJson)) ++ rest) depth
      (by simp only [Shape.height] at room; omega)
    exact within.trans read
  | .texts, _, depth, room, entries, rest, follows => by
    have reads : ∀ entry ∈ entries, Reads (readText "a string") (Json.text entry.2).written
        entry.2 :=
      fun entry _ => ⟨⟨34, _, rfl, by decide⟩, fun rest _ => readText_written _ entry.2 rest⟩
    have read := Json.membersOf_written (readText "a string") Json.text entries reads rest
    have within := inside_read (fun _ => membersOf (readText "a string")) 123
      (Utf8.encodeChars (Json.writtenMembers
        (entries.map fun entry => (entry.1, Json.text entry.2))) ++ rest) depth room
    exact within.trans read
  | .record name fields, sound, depth, room, values, rest, follows => by
    have lower : fields.height < depth - 1 := by
      simp only [Shape.height] at room
      omega
    have enough := Json.members_lt_rounds (fields.toMembers values) rest
    have members := eachMember_written _ _ _ _ (fields.steps_written sound _ lower values) _ rest
      enough
    have within := inside_read (fun deeper => do
        let slots ← eachMember (fields.readMember deeper) (← rounds) true fields.noSlots
        settled (fields.complete false slots)) 123
      (Utf8.encodeChars (Json.writtenMembers (fields.toMembers values)) ++ rest) depth (by omega)
    refine within.trans ?_
    rw [bind_read _ _ _ _ _ (rounds_read _), bind_read _ _ _ _ _ members,
      fields.complete_slotsOf false values]
    rfl

theorem Fields.steps_written : (fields : Fields) → fields.Sound → ∀ depth, fields.height < depth →
    ∀ values : fields.Values,
      Steps (fields.readMember depth) (fields.toMembers values) fields.noSlots
        (fields.slotsOf values)
  | .nil, _, _, _, () => rfl
  | .cons key presence shape rest, sound, depth, room, (held, values) => by
    obtain ⟨fresh, shapeSound, restSound⟩ := sound
    simp only [Fields.height, Nat.max_lt] at room
    have first := steps_first key presence shape rest depth shapeSound
      (shape.read_written shapeSound depth room.1) held values rest.noSlots
    have others : ∀ member ∈ rest.toMembers values, member.1 ≠ key := by
      intro member inside same
      exact fresh (same ▸ mem_keys_of_mem_toMembers rest values member inside)
    have whole := steps_append _ _ _ _ _ _ first
      (steps_rest key presence shape rest depth _ _ others _ _
        (rest.steps_written restSound depth room.2 values))
    cases presence with
    | required => exact whole
    | defaulted value => exact whole
    | omittable => cases held <;> exact whole

end

/-! ## Formats -/

/-- A message is read back from its text. -/
theorem Format.ofText_toText (format : Format α) (sound : format.shape.Sound)
    (shallow : format.shape.height < Json.depthLimit) (value : α) :
    format.ofText (format.toText value) = .ok value := by
  obtain ⟨first, more, written, notSpace, notEnd, -⟩ :=
    format.shape.starts sound (format.pack value)
  have reads : Reads (format.shape.read Json.depthLimit) (format.toJson value).written
      (format.pack value) :=
    ⟨⟨first, more, written, notSpace, notEnd⟩,
      format.shape.read_written sound Json.depthLimit shallow (format.pack value)⟩
  rw [ofText, ofOctets, toText, Json.toText, Utf8.encode, String.toList_ofList,
    run_written _ _ _ reads]
  exact congrArg Except.ok (format.unpack_pack value)

theorem Format.toText_ne (format : Format α) (sound : format.shape.Sound)
    (shallow : format.shape.height < Json.depthLimit) {value other : α}
    (different : value ≠ other) : format.toText value ≠ format.toText other := by
  intro same
  have back := format.ofText_toText sound shallow value
  rw [same, format.ofText_toText sound shallow other] at back
  exact different (Except.ok.inj back).symm

end ObjectTransfer.Wire
