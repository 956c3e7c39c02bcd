import ObjectTransfer.Exchange.Settings
import ObjectTransfer.Proofs.Store.FileRequests
import ObjectTransfer.Proofs.Store.ObjectFiles
import ObjectTransfer.Proofs.Store.StoreRuns

/-!
# Files and memory answer alike

A store with its objects in files and one with its objects in memory start with
nothing in them, and are then asked the same things about objects whose names a
file can have.  They give the same replies, call by call: the tree mirrors the
table all the while, whether uploads succeed or fail on the way.
-/

set_option autoImplicit false

namespace ObjectTransfer

open FileTree (Has way)

namespace FileTree

theorem create_of_fits (tree : FileTree) (directory : FilePath) (name : String)
    (fine : FilePath.fault? (directory ++ [name]) = none)
    (fits : FilePath.isTooLong name = false) :
    tree.create directory name =
      (tree.put (FilePath.key (directory.settled ++ [name])) (.file []), .ok ()) := by
  simp [create, fine, fits]

end FileTree

namespace FileStore

variable {files : FileStore} (memory : MemoryStore) {objects : MemoryObjects} {world : FileWorld}
  {address : ObjectAddress} {limit : Nat}

/-! ## Looking for an object -/

theorem Mirrors.find (mirrors : files.Mirrors objects world.tree) (founded : files.IsFounded)
    (suits : files.Suits limit address) (counted : 0 < limit) :
    world.tree.find (files.root ++ address.directories ++ [address.oid]) =
      match objects.get? address.name with
      | some octets => .ok (.file octets)
      | none => .error .notFound := by
  have fine := suits.fault?_object counted
  have short := suits.isShort founded
  have fits := suits.oid_short counted
  have down := ne_parentName_of_not_isRefused suits.plain.oid
  have object := mirrors.object address suits.plain
  rw [objectPlace, ← settled_directories files suits.plain] at object
  cases held : objects.get? address.name with
  | none =>
    rw [held] at object
    exact FileTree.find_of_missing fine short fits down (mirrors.free address suits.plain) object
  | some octets =>
    have present : objects.get? address.name ≠ none := by
      rw [held]
      exact Option.some_ne_none octets
    rw [held] at object
    rw [FileTree.find_of_has fine short fits down (mirrors.there address suits.plain present),
      object]
    rfl

section Asked

variable (mirrors : files.Mirrors objects world.tree) (founded : files.IsFounded)
  (suits : files.Suits limit address) (counted : 0 < limit)
include mirrors founded suits counted

theorem Mirrors.found :
    files.found world.tree address.place address.oid =
      match objects.get? address.name with
      | some octets => .ok (.file octets)
      | none => .error .notFound := by
  simp only [FileStore.found, path_of_isPlain files suits.plain,
    mirrors.find founded suits counted]
  cases objects.get? address.name <;> rfl

theorem Mirrors.holds :
    files.store.holds address.place address.oid world =
      (.ok (objects.get? address.name).isSome, world) := by
  rw [holds_apply]
  simp only [FileStore.report, mirrors.found founded suits counted]
  cases objects.get? address.name <;> rfl

theorem Mirrors.size :
    files.store.size address.place address.oid world =
      ((memory.store.size address.place address.oid objects).1, world) := by
  rw [size_apply, MemoryStore.size_apply]
  simp only [FileStore.report, mirrors.found founded suits counted, MemoryStore.report,
    ObjectAddress.mk_eq_name]
  cases objects.get? address.name <;> rfl

theorem Mirrors.get :
    files.store.get address.place address.oid world =
      ((memory.store.get address.place address.oid objects).1, world) := by
  rw [get_apply, mirrors.found founded suits counted, MemoryStore.get_apply]
  simp only [ObjectAddress.mk_eq_name]
  cases objects.get? address.name <;> rfl

end Asked

/-! ## Uploads -/

/-- The unfinished file has been written where the way to the object has been made. -/
def Written (files : FileStore) (address : ObjectAddress) (upload : Nat) (octets : Octets)
    (before written : FileTree) : Prop :=
  ∀ place, written.node? place =
    if place = files.unfinishedPlace address upload then some (.file octets)
    else if place ∈ files.wayTo address then some .directory
    else before.node? place

section Written

variable {upload : Nat} {octets : Octets} {written : FileTree}

theorem Written.again (wrote : files.Written address upload octets world.tree written)
    (more : Octets) :
    files.Written address upload more world.tree
      (written.put (FilePath.key (files.unfinishedPlace address upload)) (.file more)) := by
  intro place
  rw [FileTree.node?_put _ _ _ _ (not_isAbove_unfinishedPlace files address upload), wrote]
  split <;> rfl

/-- When the unfinished file is gone again, no object has been touched. -/
theorem Mirrors.discarded (mirrors : files.Mirrors objects world.tree) (founded : files.IsFounded)
    (plain : address.IsPlain) (wrote : files.Written address upload octets world.tree written) :
    let discarded := written.erase (FilePath.key (files.unfinishedPlace address upload))
    files.Mirrors objects discarded ∧ FileTree.Has discarded (files.wayTo address) := by
  refine mirrors.prepared founded plain upload fun place => ?_
  rw [FileTree.node?_erase _ _ _ (not_isAbove_unfinishedPlace files address upload), wrote]
  split <;> rfl

theorem Mirrors.unblocked (mirrors : files.Mirrors objects world.tree) (founded : files.IsFounded)
    (plain : address.IsPlain) (wrote : files.Written address upload octets world.tree written) :
    written.node? (files.objectPlace address) ≠ some .directory := by
  rw [wrote, if_neg (objectPlace_ne_unfinishedPlace files plain address upload),
    if_neg (objectPlace_not_mem_wayTo founded plain address), mirrors.object address plain]
  cases objects.get? address.name <;> simp

end Written

theorem store_put (files : FileStore) : files.store.put = files.put := rfl

/-- An upload goes as far as its content goes, and it does to the files what it does to the
table. -/
theorem Mirrors.put (mirrors : files.Mirrors objects world.tree) (founded : files.IsFounded)
    (suits : files.Suits limit address) (counted : world.uploads < limit) (content : Content) :
    let uploaded := files.store.put address.place address.oid content world
    let collected := memory.store.put address.place address.oid content objects
    uploaded.1 = collected.1 ∧ files.Mirrors collected.2 uploaded.2.tree ∧
      uploaded.2.uploads = world.uploads + 1 := by
  have plain := suits.plain
  obtain ⟨fits, fine⟩ := suits.unfinished world.uploads counted
  obtain ⟨made, nodes⟩ := FileTree.makeDirectories_of_free world.tree
    (files.root ++ address.directories) (FilePath.fault?_of_append _ _ fine)
    (suits.isShort founded) (mirrors.free address plain)
  have created := FileTree.create_of_fits
    (world.tree.makeDirectories (files.root ++ address.directories)).1 _ _ fine fits
  rw [store_put, put_apply files _ _ content world _ (path_of_isPlain files plain),
    MemoryStore.put_apply]
  simp only [List.dropLast_concat, ObjectAddress.mk_eq_name]
  generalize world.tree.makeDirectories (files.root ++ address.directories) = directories at *
  obtain ⟨tree, outcome⟩ := directories
  obtain rfl : outcome = .ok () := made
  rw [settled_directories files plain, ← unfinishedPlace] at created
  have wrote : files.Written address world.uploads [] world.tree
      (tree.put (FilePath.key (files.unfinishedPlace address world.uploads)) (.file [])) := by
    intro place
    rw [FileTree.node?_put _ _ _ _ (not_isAbove_unfinishedPlace files address _), nodes]
    rfl
  simp only [created]
  cases content.joined with
  | error error =>
    simp only [FileTree.remove, settled_unfinished files plain]
    exact ⟨trivial, (mirrors.discarded founded plain wrote).1, trivial⟩
  | ok octets =>
    have filled := wrote.again octets
    simp only [FileTree.write, settled_unfinished files plain]
    rcases FileTree.rename_cases _ _ _ octets with ⟨blocked, -⟩ | ⟨-, renamed⟩
    · rw [settled_object files plain] at blocked
      exact absurd blocked (mirrors.unblocked founded plain filled)
    · rw [renamed]
      obtain ⟨emptied, has⟩ := mirrors.discarded founded plain filled
      simp only [FileTree.remove, FileTree.write, settled_unfinished files plain,
        settled_object files plain]
      refine ⟨rfl, emptied.stored founded plain has octets fun place => ?_, trivial⟩
      exact FileTree.node?_put _ _ _ _ (not_isAbove_objectPlace files plain)

/-! ## Runs -/

theorem Mirrors.serve (mirrors : files.Mirrors objects world.tree) (founded : files.IsFounded)
    (sameBase : files.endpoints = memory.endpoints) (task : StoreTask)
    (suits : files.Suits limit address) (counted : world.uploads < limit) :
    let served := files.store.serve ⟨address, task⟩ world
    let answered := memory.store.serve ⟨address, task⟩ objects
    served.1 = answered.1 ∧ files.Mirrors answered.2 served.2.tree ∧
      served.2.uploads ≤ world.uploads + 1 := by
  have some : 0 < limit := by omega
  cases task with
  | holds =>
    simp only [Store.serve, mirrors.holds founded suits some]
    exact ⟨rfl, mirrors, Nat.le_succ _⟩
  | size =>
    simp only [Store.serve, mirrors.size memory founded suits some,
      MemoryStore.size_apply]
    exact ⟨rfl, mirrors, Nat.le_succ _⟩
  | get =>
    simp only [Store.serve, mirrors.get memory founded suits some,
      MemoryStore.get_apply]
    exact ⟨rfl, mirrors, Nat.le_succ _⟩
  | put content =>
    obtain ⟨same, kept, uploads⟩ := mirrors.put memory founded suits counted content
    simp only [Store.serve, Prod.map_fst, Prod.map_snd, id]
    exact ⟨congrArg StoreReply.put same, kept, Nat.le_of_eq uploads⟩
  | mimeType => exact ⟨rfl, mirrors, Nat.le_succ _⟩
  | verify size =>
    simp only [Store.serve, Store.verify_apply, mirrors.size memory founded suits some,
      MemoryStore.size_apply]
    exact ⟨rfl, mirrors, Nat.le_succ _⟩
  | downloadAction size lifetime hints =>
    refine ⟨?_, mirrors, Nat.le_succ _⟩
    change StoreReply.downloadAction (.ok (MemoryStore.downloadFrom files.endpoints _ _ _ _)) = _
    rw [sameBase]
    rfl

/-- Any number of calls, as long as no count of an upload makes a name too long. -/
theorem Mirrors.run (mirrors : files.Mirrors objects world.tree) (founded : files.IsFounded)
    (sameBase : files.endpoints = memory.endpoints) (calls : List StoreCall)
    (suits : ∀ call ∈ calls, files.Suits limit call.address)
    (counted : world.uploads + calls.length ≤ limit) :
    (files.store.run calls world).1 = (memory.store.run calls objects).1 := by
  induction calls generalizing objects world with
  | nil => rfl
  | cons call rest ih =>
    rw [List.length_cons] at counted
    obtain ⟨same, kept, uploads⟩ := mirrors.serve memory founded sameBase call.task
      (suits call List.mem_cons_self) (by omega)
    rw [Store.run_cons, Store.run_cons, same]
    exact congrArg _ (ih kept (fun later inside => suits later (List.mem_cons_of_mem _ inside))
      (by omega))

/-- A store in files and one in memory that offer the same downloads are both empty, and are asked
the same about objects whose names files can have.  They give the same replies, and the reply to an
upload that breaks off is the first error of its content. -/
theorem run_interchangeable (files : FileStore) (memory : MemoryStore)
    (sameBase : files.endpoints = memory.endpoints) (founded : files.IsFounded)
    (world : FileWorld) (empty : files.IsEmpty world.tree) (calls : List StoreCall)
    (suits : ∀ call ∈ calls, files.Suits (world.uploads + calls.length) call.address) :
    let replies := (files.store.run calls world).1
    replies = (memory.store.run calls []).1 ∧
      ∀ (place : Nat) (address : ObjectAddress) (chunks : List Octets) (error : StoreFailure)
        (rest : Content),
        calls[place]? = some ⟨address, .put (chunks.map .ok ++ .error error :: rest)⟩ →
        replies[place]? = some (.put (.error error)) := by
  have same := empty.mirrors.run memory founded sameBase calls suits (Nat.le_refl _)
  refine ⟨same, ?_⟩
  intro place address chunks error rest asked
  rw [same, Store.run_reply, asked, Option.map_some, Store.serve]
  simp only [MemoryStore.put_apply, Content.joined_broken]
  rfl

def mirrored : FileStore := ⟨["objects"], 7, some ExchangeSettings.localEndpoints⟩

def mirroring : MemoryStore := ⟨some ExchangeSettings.localEndpoints⟩

def questions : List StoreCall :=
  let widget : ObjectAddress := ⟨"acme", "widgets", "0a"⟩
  let gadget : ObjectAddress := ⟨"acme", "gadgets", "0a"⟩
  [⟨widget, .put [.ok [1], .ok [2, 3]]⟩, ⟨widget, .put [.ok [4], .error (.backend "reset")]⟩,
    ⟨widget, .get⟩, ⟨widget, .verify 3⟩, ⟨gadget, .holds⟩,
    ⟨widget, .downloadAction 3 900 Hints.empty⟩]

theorem run_interchangeable_questions :
    let replies := (mirrored.store.run questions ⟨[], 0⟩).1
    replies = (mirroring.store.run questions []).1 ∧
      replies[1]? = some (.put (.error (.backend "reset"))) ∧
      replies[2]? = some (.get (.ok (.ok [1, 2, 3]))) := by
  have short : ∀ name ∈ ["objects"], FilePath.isTooLong name = false := by decide
  have founded := isFounded_of_down mirrored short (by decide)
  obtain ⟨same, broken⟩ := run_interchangeable mirrored mirroring rfl founded ⟨[], 0⟩
    (isEmpty_nil mirrored) questions (by decide +kernel)
  refine ⟨same, broken 1 _ [[4]] (.backend "reset") [] rfl, ?_⟩
  rw [same]
  rfl

end FileStore

end ObjectTransfer
