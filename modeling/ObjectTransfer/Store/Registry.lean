import ObjectTransfer.Store.Bucket
import ObjectTransfer.Store.Files
import ObjectTransfer.Wire.OfJson

/-!
# Stores from settings

Settings name a kind of store and give its options. A registry knows how to construct each kind of
store; options that are missing are read as an object without members.
-/

set_option autoImplicit false

namespace ObjectTransfer

inductive StoreKind where
  | memory
  | fileSystem
  | bucket
  deriving DecidableEq, Repr

namespace StoreKind

def all : List StoreKind := [.memory, .fileSystem, .bucket]

def wireName : StoreKind → String
  | .memory => "memory"
  | .fileSystem => "file_system"
  | .bucket => "s3"

def name : StoreKind → String
  | .memory => "Memory"
  | .fileSystem => "FileSystem"
  | .bucket => "S3"

theorem mem_all (kind : StoreKind) : kind ∈ all := by cases kind <;> simp [all]

def wire : Wire.Format StoreKind := .named all mem_all wireName

end StoreKind

structure StoreSettings where
  kind : StoreKind
  options : Json

namespace StoreSettings

def standard : StoreSettings := ⟨.memory, .null⟩

def wire : Wire.Format StoreSettings where
  shape := .record "StorageSettings" <|
    .cons "kind" .required StoreKind.wire.shape <|
    .cons "options" (.defaulted .null) .json .nil
  pack settings := (StoreKind.wire.pack settings.kind, settings.options, ())
  unpack := fun (kind, options, _) => ⟨StoreKind.wire.unpack kind, options⟩
  unpack_pack settings := by
    obtain ⟨kind, options⟩ := settings
    exact congrArg (fun kind => StoreSettings.mk kind options) (StoreKind.wire.unpack_pack kind)

end StoreSettings

/-! ## Options -/

structure MemoryOptions where
  downloadBase : Option Url

def MemoryOptions.wire : Wire.Format MemoryOptions where
  shape := .record "MemoryOptions" <| .cons "download_base" .omittable .url .nil
  pack options := (options.downloadBase, ())
  unpack := fun (downloadBase, _) => ⟨downloadBase⟩
  unpack_pack _ := rfl

structure FileOptions where
  path : String
  downloadBase : Option Url

def FileOptions.wire : Wire.Format FileOptions where
  shape := .record "FileSystemOptions" <|
    .cons "path" .required (.text "path string") <|
    .cons "download_base" .omittable .url .nil
  pack options := (options.path, options.downloadBase, ())
  unpack := fun (path, downloadBase, _) => ⟨path, downloadBase⟩
  unpack_pack _ := rfl

structure BucketOptions where
  endpoint : String
  region : String
  bucket : String
  accessKeyId : Option String
  secretAccessKey : Option String
  folder : Option String
  pathStyle : Option Bool

def BucketOptions.wire : Wire.Format BucketOptions where
  shape := .record "S3Options" <|
    .cons "endpoint" .required (.text "a string") <|
    .cons "region" .required (.text "a string") <|
    .cons "bucket" .required (.text "a string") <|
    .cons "access_key_id" .omittable (.text "a string") <|
    .cons "secret_access_key" .omittable (.text "a string") <|
    .cons "path_prefix" .omittable (.text "a string") <|
    .cons "path_style" .omittable .boolean .nil
  pack options :=
    (options.endpoint, options.region, options.bucket, options.accessKeyId,
      options.secretAccessKey, options.folder, options.pathStyle, ())
  unpack := fun (endpoint, region, bucket, accessKeyId, secretAccessKey, folder, pathStyle, _) =>
    ⟨endpoint, region, bucket, accessKeyId, secretAccessKey, folder, pathStyle⟩
  unpack_pack _ := rfl

def readOptions {α : Type} (format : Wire.Format α) (options : Json) : Except StoreFailure α :=
  let given := match options with
    | .null => .object []
    | other => other
  match format.ofJson given with
  | .ok value => .ok value
  | .error fault => .error (.configuration ("Invalid storage options: " ++ fault.message))

/-! ## Construction -/

def endpointsOf (base : Option Url) : Except StoreFailure (Option Endpoints) :=
  match base with
  | none => .ok none
  | some url => (Endpoints.ofBase url).map some

def MemoryStore.ofOptions (options : MemoryOptions) : Except StoreFailure MemoryStore :=
  (endpointsOf options.downloadBase).map MemoryStore.mk

def FileStore.rootOf (path : String) : FilePath :=
  (Text.pieces '/' path).filter fun name => !(name.isEmpty || name == ".")

def FileStore.ofOptions (options : FileOptions) : Except StoreFailure FileStore :=
  (endpointsOf options.downloadBase).map fun endpoints =>
    ⟨FileStore.rootOf options.path, 1, endpoints⟩

def BucketStore.ofOptions (options : BucketOptions) : Except StoreFailure BucketStore := do
  let address ← BucketAddress.ofText options.endpoint options.region options.bucket
  let accessKey ← match options.accessKeyId, options.secretAccessKey with
    | some id, some secret => pure (some (AccessKey.mk id secret))
    | none, none => pure none
    | _, _ => throw (.configuration "S3 access key id and secret must be given together")
  let links := BucketLinks.ofAddress address accessKey
  return ⟨{ links with pathStyle := options.pathStyle.getD links.pathStyle },
    options.folder.bind BucketStore.folderOf⟩

inductive Backend where
  | memory (store : MemoryStore)
  | files (store : FileStore)
  | bucket (store : BucketStore)

structure StoreWorld (τ : Type) where
  objects : MemoryObjects
  files : FileWorld
  network : τ

def Backend.store {τ : Type} (backend : Backend) (transport : Transport τ) (now : Int) :
    Store (StoreWorld τ) :=
  match backend with
  | .memory inner =>
    inner.store.focus StoreWorld.objects fun objects world => { world with objects := objects }
  | .files inner =>
    inner.store.focus StoreWorld.files fun part world => { world with files := part }
  | .bucket inner =>
    (inner.store transport now).focus StoreWorld.network fun network world =>
      { world with network := network }

abbrev Constructor := Json → Except StoreFailure Backend

/-- How each kind of store is constructed. -/
abbrev Registry := Table StoreKind Constructor

namespace Registry

def empty : Registry := []

def register (registry : Registry) (kind : StoreKind) (construct : Constructor) : Registry :=
  registry.put kind construct

def memory : Constructor := fun options => do
  return .memory (← MemoryStore.ofOptions (← readOptions MemoryOptions.wire options))

def files : Constructor := fun options => do
  return .files (← FileStore.ofOptions (← readOptions FileOptions.wire options))

def bucket : Constructor := fun options => do
  return .bucket (← BucketStore.ofOptions (← readOptions BucketOptions.wire options))

def standard : Registry :=
  ((empty.register .memory memory).register .fileSystem files).register .bucket bucket

def build (registry : Registry) (settings : StoreSettings) : Except StoreFailure Backend :=
  match registry.get? settings.kind with
  | some construct => construct settings.options
  | none =>
    .error (.configuration ("No storage backend registered for " ++ settings.kind.name))

def kinds (registry : Registry) : List String :=
  (registry.map fun entry => entry.1.name).mergeSort fun left right => !decide (right < left)

end Registry

end ObjectTransfer
