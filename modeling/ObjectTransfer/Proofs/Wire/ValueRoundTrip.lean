import ObjectTransfer.Proofs.Control.Outcome
import ObjectTransfer.Wire.OfJson
import ObjectTransfer.Wire.ToJson

/-!
# Messages survive the way into a JSON value and back

A record is written member by member, and each member finds its own slot when
it is read, because no two fields of a sound record share a key.  A field that
may be absent is written only if it holds something, and what it holds is never
written as null, so the two cases stay apart.
-/

set_option autoImplicit false

namespace ObjectTransfer.Wire

def Fields.keys : Fields → List String
  | .nil => []
  | .cons key _ _ rest => key :: rest.keys

mutual

/-- No free-form parts, and no name or key twice where one must be told from another. -/
def Shape.Sound : Shape → Prop
  | .text _ => True
  | .boolean => True
  | .word16 => True
  | .word64 => True
  | .url => False
  | .json => False
  | .choice names => names.Nodup
  | .list element => element.Sound
  | .texts => True
  | .record _ fields => fields.Sound

def Fields.Sound : Fields → Prop
  | .nil => True
  | .cons key _ shape rest => key ∉ rest.keys ∧ shape.Sound ∧ rest.Sound

end

/-- The slots after all members of written fields were read. -/
def Fields.slotsOf : (fields : Fields) → fields.Values → fields.Slots
  | .nil, _ => ()
  | .cons _ .required _ rest, (held, values) => (some held, rest.slotsOf values)
  | .cons _ (.defaulted _) _ rest, (held, values) => (some held, rest.slotsOf values)
  | .cons _ .omittable _ rest, (none, values) => (none, rest.slotsOf values)
  | .cons _ .omittable _ rest, (some held, values) => (some (some held), rest.slotsOf values)

/-! ## Single values -/

theorem toJson_ne_null (shape : Shape) (sound : shape.Sound) (value : shape.Value) :
    shape.toJson value ≠ .null := by
  cases shape <;> simp_all [Shape.toJson, Shape.Sound]

theorem choiceOf_get (names : List String) (distinct : names.Nodup) (place : Fin names.length) :
    choiceOf names (names.get place) = .ok place := by
  have found : names.findIdx (· == names.get place) = place.val := by
    exact distinct.idxOf_getElem place.val place.isLt
  have inside : names.findIdx (· == names.get place) < names.length := by
    rw [found]
    exact place.isLt
  rw [choiceOf, dif_pos inside]
  exact congrArg Except.ok (Fin.ext found)

theorem textsOf_map (entries : List (String × String)) :
    textsOf (entries.map fun entry => (entry.1, .text entry.2)) = .ok entries := by
  induction entries with
  | nil => rfl
  | cons entry more ih =>
    rw [List.map_cons, textsOf, ih]
    rfl

theorem mapM_ok {α β ε : Type} (write : α → β) (read : β → Except ε α) (values : List α)
    (back : ∀ value ∈ values, read (write value) = .ok value) :
    (values.map write).mapM read = .ok values := by
  induction values with
  | nil => rfl
  | cons value more ih =>
    have later := ih fun other inside => back other (List.mem_cons_of_mem _ inside)
    rw [List.map_cons, List.mapM_cons, back value List.mem_cons_self, ok_bind, later]
    rfl

theorem naturalOf_ofNat (limit : Nat) (expected : String) (value : Nat) (small : value < limit) :
    naturalOf limit expected (.integer (Int.ofNat value)) = .ok value := by
  simp [naturalOf, small]

/-! ## Fields -/

theorem foldlM_takeMember_rest (buffered : Bool) (key : String) (presence : Presence)
    (shape : Shape) (rest : Fields) (slot : Option (presence.Held shape.Value))
    (members : List (String × Json)) (others : ∀ member ∈ members, member.1 ≠ key) :
    ∀ slots : rest.Slots,
      members.foldlM (fun (slots : (Fields.cons key presence shape rest).Slots) member =>
          (Fields.cons key presence shape rest).takeMember buffered member.1 member.2 slots)
          (slot, slots) =
        (members.foldlM (fun slots member =>
          rest.takeMember buffered member.1 member.2 slots) slots).map fun more => (slot, more) := by
  induction members with
  | nil =>
    intro slots
    rfl
  | cons member more ih =>
    intro slots
    have other := others member List.mem_cons_self
    have step := ih fun later inside => others later (List.mem_cons_of_mem _ inside)
    simp only [List.foldlM_cons, Fields.takeMember, if_neg other]
    cases taken : rest.takeMember buffered member.1 member.2 slots with
    | error fault => rfl
    | ok next => exact step next

theorem mem_keys_of_mem_toMembers (fields : Fields) :
    ∀ (values : fields.Values), ∀ member ∈ fields.toMembers values, member.1 ∈ fields.keys := by
  induction fields using Fields.keys.induct with
  | case1 =>
    intro values member inside
    simp [Fields.toMembers] at inside
  | case2 key presence shape rest ih =>
    rintro ⟨held, values⟩ member inside
    rw [Fields.toMembers, List.mem_append] at inside
    rcases inside with here | later
    · have same : member.1 = key := by
        cases presence with
        | required => exact congrArg Prod.fst (List.mem_singleton.mp here)
        | defaulted value => exact congrArg Prod.fst (List.mem_singleton.mp here)
        | omittable =>
          cases held with
          | none => simp [Presence.members] at here
          | some value => exact congrArg Prod.fst (List.mem_singleton.mp here)
      simp [Fields.keys, same]
    · simp [Fields.keys, ih values member later]

theorem held_omittable {α : Type} (read : Json → Read α) (value : Json) (holds : value ≠ .null) :
    Presence.held .omittable read value = (read value).map some := by
  cases value <;> first | exact absurd rfl holds | rfl

theorem foldlM_takeMember_first (buffered : Bool) (key : String) (presence : Presence)
    (shape : Shape) (rest : Fields) (sound : shape.Sound)
    (back : ∀ value : shape.Value, shape.ofJson buffered (shape.toJson value) = .ok value)
    (held : presence.Held shape.Value) (values : rest.Values) (slots : rest.Slots) :
    (presence.members key shape.toJson held).foldlM
        (fun (slots : (Fields.cons key presence shape rest).Slots) member =>
          (Fields.cons key presence shape rest).takeMember buffered member.1 member.2 slots)
        (none, slots) =
      .ok (((Fields.cons key presence shape rest).slotsOf (held, values)).1, slots) := by
  cases presence with
  | required =>
    simp [Presence.members, Fields.takeMember, Presence.held, back, Fields.slotsOf]
  | defaulted value =>
    simp [Presence.members, Fields.takeMember, Presence.held, back, Fields.slotsOf]
  | omittable =>
    cases held with
    | none => rfl
    | some value =>
      have read := held_omittable (shape.ofJson buffered) (shape.toJson value)
        (toJson_ne_null shape sound value)
      simp [Presence.members, Fields.takeMember, read, back, Fields.slotsOf, Except.map]

theorem Fields.complete_slotsOf (buffered : Bool) : (fields : Fields) →
    ∀ values : fields.Values, fields.complete buffered (fields.slotsOf values) = .ok values
  | .nil, () => rfl
  | .cons key presence shape rest, (held, values) => by
    have later := rest.complete_slotsOf buffered values
    cases presence with
    | required => simp [Fields.complete, Fields.slotsOf, later]
    | defaulted value => simp [Fields.complete, Fields.slotsOf, later]
    | omittable =>
      cases held <;> simp [Fields.complete, Fields.slotsOf, Presence.absent, later]

/-! ## Shapes -/

mutual

/-- A value of a sound shape is read back from the JSON value that it is written as. -/
theorem Shape.ofJson_toJson (buffered : Bool) : (shape : Shape) → shape.Sound →
    ∀ value : shape.Value, shape.ofJson buffered (shape.toJson value) = .ok value
  | .text _, _, value => rfl
  | .boolean, _, value => rfl
  | .word16, _, value => by
    simp only [Shape.toJson, Shape.ofJson]
    rw [naturalOf_ofNat _ _ _ value.toNat_lt, ok_bind]
    exact congrArg Except.ok UInt16.ofNat_toNat
  | .word64, _, value => by
    simp only [Shape.toJson, Shape.ofJson]
    rw [naturalOf_ofNat _ _ _ value.toNat_lt, ok_bind]
    exact congrArg Except.ok UInt64.ofNat_toNat
  | .choice names, distinct, value => choiceOf_get names distinct value
  | .list element, sound, values => by
    simp only [Shape.toJson, Shape.ofJson]
    exact mapM_ok element.toJson (element.ofJson buffered) values fun value _ =>
      element.ofJson_toJson buffered sound value
  | .texts, _, entries => textsOf_map entries
  | .record _ fields, sound, values => by
    simp only [Shape.toJson, Shape.ofJson]
    rw [fields.takeMembers buffered sound values, ok_bind]
    exact fields.complete_slotsOf buffered values

theorem Fields.takeMembers (buffered : Bool) : (fields : Fields) → fields.Sound →
    ∀ values : fields.Values,
      (fields.toMembers values).foldlM (fun slots member =>
        fields.takeMember buffered member.1 member.2 slots) fields.noSlots =
          .ok (fields.slotsOf values)
  | .nil, _, () => rfl
  | .cons key presence shape rest, sound, (held, values) => by
    obtain ⟨fresh, shapeSound, restSound⟩ := sound
    have first := foldlM_takeMember_first buffered key presence shape rest shapeSound
      (shape.ofJson_toJson buffered shapeSound) held values rest.noSlots
    have others : ∀ member ∈ rest.toMembers values, member.1 ≠ key := by
      intro member inside same
      exact fresh (same ▸ mem_keys_of_mem_toMembers rest values member inside)
    rw [Fields.toMembers, List.foldlM_append, Fields.noSlots]
    rw [first, ok_bind, foldlM_takeMember_rest buffered key presence shape rest _ _ others,
      rest.takeMembers buffered restSound values]
    cases presence with
    | required => rfl
    | defaulted value => rfl
    | omittable => cases held <;> rfl

end

theorem Format.ofMembers_pack {α : Type} (format : Format α) (sound : format.shape.Sound)
    (value : α) (members : List (String × Json))
    (written : format.toJson value = .object members) :
    format.ofMembers members = .ok value := by
  rw [Format.ofMembers, ← written, Format.toJson, Shape.ofJson_toJson true _ sound]
  exact congrArg Except.ok (format.unpack_pack value)

end ObjectTransfer.Wire
