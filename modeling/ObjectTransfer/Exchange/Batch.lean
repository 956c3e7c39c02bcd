import ObjectTransfer.Access.Identity
import ObjectTransfer.Exchange.Transfer

/-!
# Batches

A batch asks for the same operation on many objects and gets one answer for each, in the same order.
An object that the asker may not touch is answered without a look at the store, and an error of
the store is an answer too; any other error ends the batch.
-/

set_option autoImplicit false

namespace ObjectTransfer

inductive Operation where
  | upload
  | download
  deriving DecidableEq, Repr

namespace Operation

def all : List Operation := [.upload, .download]

def name : Operation → String
  | .upload => "upload"
  | .download => "download"

def permission : Operation → Permission
  | .upload => .write
  | .download => .read

theorem mem_all (operation : Operation) : operation ∈ all := by cases operation <;> simp [all]

def wire : Wire.Format Operation := .named all mem_all name

end Operation

structure Reference where
  name : String
  deriving DecidableEq, Repr

def Reference.wire : Wire.Format Reference where
  shape := .record "RefSpec" <| .cons "name" .required (.text "a string") .nil
  pack reference := (reference.name, ())
  unpack := fun (name, _) => ⟨name⟩
  unpack_pack _ := rfl

namespace Batch

structure Item where
  oid : String
  size : UInt64
  hints : Option Hints
  deriving DecidableEq, Repr

def Item.wire : Wire.Format Item where
  shape := .record "BatchObject" <|
    .cons "oid" .required (.text "a string") <|
    .cons "size" .required .word64 <|
    .cons "extra" .omittable Hints.wire.shape .nil
  pack object := (object.oid, object.size, object.hints.map Hints.wire.pack, ())
  unpack := fun (oid, size, hints, _) => ⟨oid, size, hints.map Hints.wire.unpack⟩
  unpack_pack object := by
    obtain ⟨oid, size, hints⟩ := object
    cases hints <;> rfl

structure Request where
  operation : Operation
  transfers : Option (List String)
  reference : Option Reference
  objects : List Item
  deriving DecidableEq, Repr

namespace Request

def wire : Wire.Format Request where
  shape := .record "BatchRequest" <|
    .cons "operation" .required Operation.wire.shape <|
    .cons "transfers" .omittable (.list (.text "a string")) <|
    .cons "ref" .omittable Reference.wire.shape <|
    .cons "objects" .required (.list Item.wire.shape) .nil
  pack request :=
    (Operation.wire.pack request.operation, request.transfers,
      request.reference.map Reference.wire.pack, request.objects.map Item.wire.pack, ())
  unpack := fun (operation, transfers, reference, objects, _) =>
    ⟨Operation.wire.unpack operation, transfers, reference.map Reference.wire.unpack,
      objects.map Item.wire.unpack⟩
  unpack_pack request := by
    obtain ⟨operation, transfers, reference, objects⟩ := request
    have first : Operation.wire.unpack (Operation.wire.pack operation) = operation :=
      Operation.wire.unpack_pack operation
    have second : (reference.map Reference.wire.pack).map Reference.wire.unpack = reference := by
      cases reference <;> rfl
    have third : (objects.map Item.wire.pack).map Item.wire.unpack = objects := by
      rw [List.map_map]
      exact (List.map_congr_left fun object _ => Item.wire.unpack_pack object).trans
        (List.map_id _)
    simp only [first, second, third]

/-- A request that names no transfers leaves the choice open. -/
def accepts (request : Request) (transfer : String) : Bool :=
  let offered := request.transfers.getD []
  offered.isEmpty || offered.contains transfer

end Request

structure Response where
  transfer : String
  objects : List Answer
  deriving DecidableEq

namespace Response

def wire : Wire.Format Response where
  shape := .record "BatchResponse" <|
    .cons "transfer" .required (.text "a string") <|
    .cons "objects" .required (.list Answer.wire.shape) .nil
  pack response := (response.transfer, response.objects.map Answer.wire.pack, ())
  unpack := fun (transfer, objects, _) => ⟨transfer, objects.map Answer.wire.unpack⟩
  unpack_pack response := by
    obtain ⟨transfer, objects⟩ := response
    have back : (objects.map Answer.wire.pack).map Answer.wire.unpack = objects := by
      rw [List.map_map]
      exact (List.map_congr_left fun object _ => Answer.wire.unpack_pack object).trans
        (List.map_id _)
    simp only [back]

/-- Goes on through the codes while `common` is the code of all so far, or none when two differ. -/
def commonCode : Option UInt16 → List (Option UInt16) → UInt16
  | common, [] => common.getD 422
  | _, none :: _ => 200
  | common, some code :: rest => commonCode (if common = some code then common else none) rest

/-- Fine if anything is, or if nothing was asked for; else the code of all errors, if it is one. -/
def status (response : Response) : UInt16 :=
  match response.objects.map fun object => object.refusal.map Refusal.code with
  | some first :: rest => commonCode (some first) rest
  | _ => 200

end Response

variable {σ : Type}

def noCommonTransfer : ExchangeFailure :=
  .invalidPayload
    ("Unable to offer any of the requested transfers: only " ++ BasicTransfer.name ++ " is supported")

def forbidden : Refusal := ⟨403, "Forbidden"⟩

/-- An error of the store becomes an answer about the object. -/
def uploadAnswer (transfer : Transfer σ) (organization repository : String) (object : Item)
    (hints : Hints) : Step σ ExchangeFailure Answer :=
  tryCatch (transfer.upload organization repository object.oid object.size hints) fun error =>
    match error with
    | .store inner => pure ((Answer.ofObject object.oid object.size).refusing inner.refusal)
    | other => throw other

def answer (transfer : Transfer σ) (authority : Authority) (organization repository : String)
    (operation : Operation) (object : Item) : Step σ ExchangeFailure Answer :=
  let hints := object.hints.getD Hints.empty
  if authority organization repository operation.permission (some object.oid) then
    match operation with
    | .upload => uploadAnswer transfer organization repository object hints
    | .download => transfer.download organization repository object.oid object.size hints
  else
    pure ((Answer.ofObject object.oid object.size).refusing forbidden)

def answers (transfer : Transfer σ) (authority : Authority) (organization repository : String)
    (operation : Operation) : List Item → Step σ ExchangeFailure (List Answer)
  | [] => pure []
  | object :: rest => do
    let first ← answer transfer authority organization repository operation object
    let more ← answers transfer authority organization repository operation rest
    return first :: more

def carryOut (transfer : Transfer σ) (authority : Authority) (organization repository : String)
    (request : Request) : Step σ ExchangeFailure Response := do
  if request.accepts transfer.name then
    let objects ←
      answers transfer authority organization repository request.operation request.objects
    return ⟨transfer.name, objects⟩
  else
    throw noCommonTransfer

end Batch

end ObjectTransfer
