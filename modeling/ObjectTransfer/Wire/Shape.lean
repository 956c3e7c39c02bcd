import ObjectTransfer.Json.Value
import ObjectTransfer.Url.Parse

/-!
# Shapes of messages

A shape says how a message is laid out in JSON: which fields a record has, in which order they are
written, and which of them may be absent. Every shape has a type of values. A `Format` ties a type
of the domain to a shape: `pack` lays a value out and `unpack` takes it up again, and packing loses
nothing.
-/

set_option autoImplicit false

namespace ObjectTransfer.Wire

/-- Whether a field must be there. An omittable field holds a value or nothing, and nothing is not
written; a field with a default is always written but may be absent from what is read. -/
inductive Presence where
  | required
  | omittable
  | defaulted (value : Json)

mutual

inductive Shape where
  | text (expected : String)
  | boolean
  | word16
  | word64
  | url
  | json
  | choice (names : List String)
  | list (element : Shape)
  | texts
  | record (name : String) (fields : Fields)

inductive Fields where
  | nil
  | cons (key : String) (presence : Presence) (shape : Shape) (rest : Fields)

end

/-- What a field holds for a value of its shape. -/
abbrev Presence.Held (presence : Presence) (α : Type) : Type :=
  match presence with
  | .omittable => Option α
  | .required => α
  | .defaulted _ => α

mutual

@[reducible] def Shape.Value : Shape → Type
  | .text _ => String
  | .boolean => Bool
  | .word16 => UInt16
  | .word64 => UInt64
  | .url => Url
  | .json => Json
  | .choice names => Fin names.length
  | .list element => List element.Value
  | .texts => List (String × String)
  | .record _ fields => fields.Values

@[reducible] def Fields.Values : Fields → Type
  | .nil => Unit
  | .cons _ presence shape rest => presence.Held shape.Value × rest.Values

end

/-- The fields of which some may not have been read yet. -/
@[reducible] def Fields.Slots : Fields → Type
  | .nil => Unit
  | .cons _ presence shape rest => Option (presence.Held shape.Value) × rest.Slots

def Fields.noSlots : (fields : Fields) → fields.Slots
  | .nil => ()
  | .cons _ _ _ rest => (none, rest.noSlots)

def Fields.count : Fields → Nat
  | .nil => 0
  | .cons _ _ _ rest => rest.count + 1

def lengthText (name : String) (count : Nat) : String :=
  s!"struct {name} with {count} element" ++ (if count = 1 then "" else "s")

/-- A type of the domain laid out in a shape. -/
structure Format (α : Type) where
  shape : Shape
  pack : α → shape.Value
  unpack : shape.Value → α
  unpack_pack : ∀ value, unpack (pack value) = value

def Format.named {α : Type} [DecidableEq α] (all : List α) (complete : ∀ value, value ∈ all)
    (name : α → String) : Format α where
  shape := .choice (all.map name)
  pack value := ⟨all.idxOf value, by simpa using List.idxOf_lt_length_of_mem (complete value)⟩
  unpack place := all.get ⟨place.val, by simpa using place.isLt⟩
  unpack_pack value := by simp

end ObjectTransfer.Wire
