import ObjectTransfer.Store.FileTree
import ObjectTransfer.Store.Memory
import ObjectTransfer.Text.Quoted

/-!
# Objects in files

An object is a file below a root: the segments of its place are directories and its id is the name.
A segment that is empty, begins with a point or holds a separator is refused, so a path never leaves
the root and never hits a file that begins with a point.

An upload is written to such a file first, whose name holds the id, the process and a count, and is
renamed when it is complete. If the content fails the unfinished file is removed; if renaming fails
it stays.
-/

set_option autoImplicit false

namespace ObjectTransfer

structure FileStore where
  root : FilePath
  process : Nat
  endpoints : Option Endpoints
  deriving DecidableEq

/-- The tree, and how many uploads there were. -/
structure FileWorld where
  tree : FileTree
  uploads : Nat

namespace FileStore

def isRefused (segment : String) : Bool :=
  segment.isEmpty || segment.toList.head? == some '.' ||
    segment.toList.any fun c => c == '/' || c == '\\' || c == '\x00'

def segments (place oid : String) : List String := Text.pieces '/' place ++ [oid]

def refusal (segment : String) : StoreFailure :=
  .invalidObject ("Invalid object path segment: " ++ Text.quoted segment)

def path (files : FileStore) (place oid : String) : Except StoreFailure FilePath :=
  let parts := segments place oid
  match parts.find? isRefused with
  | some segment => .error (refusal segment)
  | none => .ok (files.root ++ parts)

/-- The name of an unfinished upload. -/
def partialName (files : FileStore) (oid : String) (upload : Nat) : String :=
  "." ++ oid ++ "." ++ toString files.process ++ "." ++ toString upload ++ ".part"

def io (fault : FileFault) : StoreFailure := .io fault.message

/-- A missing file is a missing object. -/
def lookupFault : FileFault → StoreFailure
  | .notFound => .notFound
  | other => io other

def resolve (files : FileStore) (place oid : String) : Step FileWorld StoreFailure FilePath :=
  match files.path place oid with
  | .ok path => pure path
  | .error error => throw error

/-- Takes a change of the tree over, whether it went through or not. -/
def change (act : FileTree → FileTree × Except FileFault Unit) :
    Step FileWorld StoreFailure Unit :=
  fun world =>
    let (tree, result) := act world.tree
    ((match result with
      | .ok _ => .ok ()
      | .error fault => .error (io fault)), { world with tree := tree })

def holds (files : FileStore) (place oid : String) : Step FileWorld StoreFailure Bool := do
  let path ← files.resolve place oid
  match (← get).tree.find path with
  | .ok _ => return true
  | .error .notFound => return false
  | .error fault => throw (io fault)

def find (files : FileStore) (place oid : String) : Step FileWorld StoreFailure FileNode := do
  let path ← files.resolve place oid
  match (← get).tree.find path with
  | .ok node => return node
  | .error fault => throw (lookupFault fault)

def directorySize : Nat := 4096

def nodeSize : FileNode → Nat
  | .directory => directorySize
  | .file content => content.length

/-- A directory can be opened, but not read. -/
def nodeContent : FileNode → Content
  | .directory => [.error (io .isDirectory)]
  | .file content => .ofOctets content

def nextUpload : Step FileWorld StoreFailure Nat :=
  fun world => (.ok world.uploads, { world with uploads := world.uploads + 1 })

def put (files : FileStore) (place oid : String) (content : Content) :
    Step FileWorld StoreFailure Unit := do
  let path ← files.resolve place oid
  let directory := path.dropLast
  change fun tree => tree.makeDirectories directory
  let name := files.partialName oid (← nextUpload)
  let unfinished := directory ++ [name]
  change fun tree => tree.create directory name
  match content.joined with
  | .ok octets => do
    modify fun world => { world with tree := world.tree.write unfinished octets }
    change fun tree => tree.rename unfinished path octets
  | .error error => do
    modify fun world => { world with tree := world.tree.remove unfinished }
    throw error

def store (files : FileStore) : Store FileWorld where
  holds := files.holds
  size place oid := do return nodeSize (← files.find place oid)
  get place oid := do return nodeContent (← files.find place oid)
  put := files.put
  mimeType _ _ := return octetStream
  downloadAction place oid _ lifetime hints :=
    return MemoryStore.downloadFrom files.endpoints place oid lifetime hints

end FileStore

/-! ## Listings -/

namespace FileTree

def shownName (name : String) : String :=
  match (Text.split '.' name.toList).reverse with
  | last :: _ :: _ :: id :: earlier =>
    if name.toList.head? = some '.' ∧ last = "part".toList then
      String.ofList (Text.join '.' (last :: id :: earlier).reverse)
    else name
  | _ => name

def entry (node : (Nat × FilePath) × FileNode) : String × Option Nat :=
  (String.intercalate "/" (node.1.2.map shownName),
    match node.2 with
    | .directory => none
    | .file content => some content.length)

def isListed (path : FilePath) : Bool := path.head?.any (· != FilePath.parentName)

def listing (tree : FileTree) : List (String × Option Nat) :=
  ((tree.filter fun node => isListed node.1.2).map entry).mergeSort fun left right =>
    !decide (right.1 < left.1)

end FileTree

end ObjectTransfer
