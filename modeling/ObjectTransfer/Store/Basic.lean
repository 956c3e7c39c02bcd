import ObjectTransfer.Link.Action
import ObjectTransfer.Link.Hints
import ObjectTransfer.Store.Content

/-!
# Store

A store keeps the content of objects. An object is named by its place, which stands for a
repository, and its id. Every method may fail, and may change the state of the world `σ` even then.
-/

set_option autoImplicit false

namespace ObjectTransfer

/-- Steps on a state that may end with an error; what they did to the state stays done. -/
abbrev Step (σ ε α : Type) := ExceptT ε (StateM σ) α

def placeOf (organization repository : String) : String := organization ++ "/" ++ repository

def octetStream : String := "application/octet-stream"

structure Store (σ : Type) where
  holds : String → String → Step σ StoreFailure Bool
  size : String → String → Step σ StoreFailure Nat
  get : String → String → Step σ StoreFailure Content
  put : String → String → Content → Step σ StoreFailure Unit
  mimeType : String → String → Step σ StoreFailure String
  /-- Where a client may download an object itself; place, id, size, lifetime and hints. -/
  downloadAction : String → String → UInt64 → UInt64 → Hints → Step σ StoreFailure (Option Action)

namespace Store
variable {σ ρ : Type}

/-- Whether an object is there with just this size. An object that is not there has no size. -/
def verify (store : Store σ) (place oid : String) (size : UInt64) : Step σ StoreFailure Bool :=
  tryCatch (do return (← store.size place oid) == size.toNat) fun error =>
    match error with
    | .notFound => pure false
    | other => throw other

/-- The methods that can be made to fail. -/
inductive Method where
  | holds
  | size
  | get
  | put
  | mimeType
  | downloadAction
  deriving DecidableEq, Repr

def failingWith {α : Type} (fault : Option StoreFailure) (step : Step σ StoreFailure α) :
    Step σ StoreFailure α :=
  match fault with
  | some error => throw error
  | none => step

/-- A store of which some methods fail before anything is done. -/
def withFaults (store : Store σ) (fault : Method → Option StoreFailure) : Store σ where
  holds place oid := failingWith (fault .holds) (store.holds place oid)
  size place oid := failingWith (fault .size) (store.size place oid)
  get place oid := failingWith (fault .get) (store.get place oid)
  put place oid content := failingWith (fault .put) (store.put place oid content)
  mimeType place oid := failingWith (fault .mimeType) (store.mimeType place oid)
  downloadAction place oid size lifetime hints :=
    failingWith (fault .downloadAction) (store.downloadAction place oid size lifetime hints)

def onPart {α : Type} (view : σ → ρ) (update : ρ → σ → σ) (step : Step ρ StoreFailure α) :
    Step σ StoreFailure α :=
  fun state =>
    let (result, part) := step (view state)
    (result, update part state)

def focus (store : Store ρ) (view : σ → ρ) (update : ρ → σ → σ) : Store σ where
  holds place oid := onPart view update (store.holds place oid)
  size place oid := onPart view update (store.size place oid)
  get place oid := onPart view update (store.get place oid)
  put place oid content := onPart view update (store.put place oid content)
  mimeType place oid := onPart view update (store.mimeType place oid)
  downloadAction place oid size lifetime hints :=
    onPart view update (store.downloadAction place oid size lifetime hints)

end Store

end ObjectTransfer
