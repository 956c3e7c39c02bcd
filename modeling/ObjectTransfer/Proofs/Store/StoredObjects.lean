import ObjectTransfer.Proofs.Store.FileRequests
import ObjectTransfer.Proofs.Store.ObjectFiles

/-!
# Which objects a store in files has

After any uploads to an empty root, a file is found for an object exactly if one
of the uploads of this very object succeeded.  But the store does not look
whether it is a file that it finds: the directories that were made for the
objects of a deeper place count as objects as well.

A history is the uploads so far with their outcomes, and it is recorded in the
tree: every file that an object can have is of a success in the history, every
directory that is found instead of one has been made for an upload in the
history, and every success is still found.
-/

set_option autoImplicit false

namespace ObjectTransfer

open FilePath (waypoints IsShort)
open FileTree (Grown Has way)

structure Upload where
  place : String
  oid : String
  content : Content

abbrev UploadHistory := List (Upload × Except StoreFailure Unit)

/-- One of the uploads of this object succeeded. -/
def UploadHistory.Stored (history : UploadHistory) (place oid : String) : Prop :=
  ∃ content, (⟨place, oid, content⟩, .ok ()) ∈ history

theorem UploadHistory.stored_append {history : UploadHistory} {upload : Upload}
    {outcome : Except StoreFailure Unit} {place oid : String} :
    UploadHistory.Stored (history ++ [(upload, outcome)]) place oid ↔
      history.Stored place oid ∨ upload.place = place ∧ upload.oid = oid ∧ outcome = .ok () := by
  constructor
  · rintro ⟨content, inside⟩
    rcases List.mem_append.mp inside with earlier | last
    · exact .inl ⟨content, earlier⟩
    · cases List.mem_singleton.mp last
      exact .inr ⟨rfl, rfl, rfl⟩
  · rintro (⟨content, earlier⟩ | ⟨rfl, rfl, rfl⟩)
    · exact ⟨content, List.mem_append_left _ earlier⟩
    · exact ⟨upload.content, List.mem_append_right _ (List.mem_singleton_self _)⟩

namespace FileStore

/-- Uploads one after the other, each with its outcome, and the world after the last of them. -/
def putAll (files : FileStore) : List Upload → FileWorld → UploadHistory × FileWorld
  | [], world => ([], world)
  | upload :: rest, world =>
    let (outcome, between) := files.put upload.place upload.oid upload.content world
    let (history, after) := putAll files rest between
    ((upload, outcome) :: history, after)

theorem putAll_cons (files : FileStore) (upload : Upload) (rest : List Upload)
    (world : FileWorld) :
    files.putAll (upload :: rest) world =
      let ended := files.put upload.place upload.oid upload.content world
      ((upload, ended.1) :: (files.putAll rest ended.2).1, (files.putAll rest ended.2).2) := rfl

theorem putAll_uploads (files : FileStore) (uploads : List Upload) (world : FileWorld) :
    (files.putAll uploads world).1.map Prod.fst = uploads := by
  induction uploads generalizing world with
  | nil => rfl
  | cons upload rest ih =>
    rw [putAll_cons]
    exact congrArg (upload :: ·) (ih _)

/-- The way to the root does not lead through anything that lies below the root.  It cannot while the
root is empty. -/
def IsDirect (files : FileStore) : Prop :=
  ∀ place ∈ waypoints [] files.root, ∀ below, place = files.root.settled ++ below → below = []

theorem isDirect_of_down (files : FileStore)
    (down : ∀ name ∈ files.root, name ≠ FilePath.parentName) : files.IsDirect := by
  intro place inside below same
  have length := FilePath.length_of_mem_waypoints _ _ _ inside
  rw [same, FilePath.settled_of_down _ down, List.length_append] at length
  exact List.eq_nil_of_length_eq_zero (by simp only [List.length_nil] at length; omega)

/-! ## The path of an object -/

/-- None of the segments is empty, begins with a point or holds a separator. -/
def IsAllowed (place oid : String) : Prop := ∀ segment ∈ segments place oid, isRefused segment = false

def directory (files : FileStore) (place : String) : FilePath :=
  files.root ++ Text.pieces '/' place

def locate (files : FileStore) (place oid : String) : FilePath :=
  files.root.settled ++ segments place oid

theorem segments_inj {place oid other another : String} :
    segments place oid = segments other another ↔ place = other ∧ oid = another := by
  constructor
  · intro same
    obtain ⟨places, ids⟩ := List.append_inj' same rfl
    exact ⟨Text.pieces_injective '/' place other places, List.singleton_inj.mp ids⟩
  · rintro ⟨rfl, rfl⟩
    rfl

theorem path_eq_ok_iff (files : FileStore) (place oid : String) (path : FilePath) :
    files.path place oid = .ok path ↔
      path = files.directory place ++ [oid] ∧ IsAllowed place oid := by
  cases refused : (segments place oid).find? isRefused with
  | some segment =>
    have stopped : files.path place oid = .error (refusal segment) := by
      simp only [FileStore.path, refused]
    rw [stopped]
    refine iff_of_false (fun same => by cases same) ?_
    rintro ⟨-, allowed⟩
    have fine := allowed segment (List.mem_of_find?_eq_some refused)
    rw [List.find?_some refused] at fine
    cases fine
  | none =>
    have whole : files.path place oid = .ok (files.directory place ++ [oid]) := by
      simp only [FileStore.path, refused]
      rw [directory, List.append_assoc, ← segments]
    have allowed : IsAllowed place oid := by simpa [IsAllowed] using refused
    rw [whole]
    exact ⟨fun same => ⟨(Except.ok.inj same).symm, allowed⟩, fun both => congrArg _ both.1.symm⟩

section Paths

variable {files : FileStore} {place oid : String} (allowed : IsAllowed place oid)
include allowed

theorem IsAllowed.last : isRefused oid = false := allowed oid (by simp [segments])

theorem IsAllowed.piece {name : String} (inside : name ∈ Text.pieces '/' place) :
    isRefused name = false := allowed name (List.mem_append_left _ inside)

theorem IsAllowed.down_pieces : ∀ name ∈ Text.pieces '/' place, name ≠ FilePath.parentName :=
  fun _ inside => ne_parentName_of_not_isRefused (allowed.piece inside)

theorem settled_directory (files : FileStore) :
    (files.directory place).settled = files.root.settled ++ Text.pieces '/' place :=
  FilePath.settled_append_of_down _ _ allowed.down_pieces

theorem settled_path (files : FileStore) :
    (files.directory place ++ [oid]).settled = files.locate place oid := by
  rw [FilePath.settled_append_name _ _ (ne_parentName_of_not_isRefused allowed.last),
    settled_directory allowed, locate, segments, List.append_assoc]

theorem not_isAbove_locate (files : FileStore) : ¬ FilePath.IsAbove (files.locate place oid) := by
  rw [locate, segments, ← List.append_assoc]
  exact FilePath.not_isAbove_append_name _ _ (ne_parentName_of_not_isRefused allowed.last)

theorem mem_way_iff (direct : files.IsDirect) {below : FilePath} (some_name : below ≠ []) :
    files.root.settled ++ below ∈ way (files.directory place) ↔ below <+: Text.pieces '/' place := by
  rw [directory, FileTree.way_append, List.mem_append,
    FilePath.mem_waypoints_of_down _ _ _ allowed.down_pieces]
  constructor
  · rintro (outside | ⟨front, -, begins, same⟩)
    · rcases List.mem_cons.mp outside with top | root
      · exact absurd (List.append_eq_nil_iff.mp top).2 some_name
      · exact absurd (direct _ root below rfl) some_name
    · rwa [List.append_cancel_left same]
  · intro begins
    exact .inr ⟨below, some_name, begins, rfl⟩

end Paths

def locateUnfinished (files : FileStore) (place oid : String) (upload : Nat) : FilePath :=
  files.root.settled ++ (Text.pieces '/' place ++ [files.partialName oid upload])

theorem locate_ne_locateUnfinished (files : FileStore) {place oid : String}
    (allowed : IsAllowed place oid) (other another : String) (upload : Nat) :
    files.locate place oid ≠ files.locateUnfinished other another upload := by
  intro same
  obtain ⟨-, last⟩ := List.append_inj' (List.append_cancel_left same) rfl
  exact ne_partialName allowed.last files another upload (List.singleton_inj.mp last)

theorem locateUnfinished_not_mem_way {files : FileStore} (direct : files.IsDirect)
    {place oid : String} (allowed : IsAllowed place oid) (other another : String) (upload : Nat) :
    files.locateUnfinished other another upload ∉ way (files.directory place) := by
  intro inside
  have begins := (mem_way_iff allowed direct (by simp)).mp inside
  have piece : files.partialName another upload ∈ Text.pieces '/' place :=
    begins.subset (by simp)
  exact ne_partialName (allowed.piece piece) files another upload rfl

/-! ## What can be found -/

/-- The path of the object can be followed up to its last name. -/
structure Reaches (files : FileStore) (tree : FileTree) (place oid : String) : Prop where
  allowed : IsAllowed place oid
  fine : FilePath.fault? (files.directory place ++ [oid]) = none
  short : IsShort (files.directory place)
  fits : FilePath.isTooLong oid = false
  has : tree.Has (way (files.directory place))

section Found

variable {files : FileStore} {tree : FileTree} {place oid : String}

theorem Reaches.of_has {after : FileTree} (reaches : files.Reaches tree place oid)
    (has : ∀ p, tree.node? p = some .directory → p ∈ way (files.directory place) →
      after.node? p = some .directory) : files.Reaches after place oid :=
  { reaches with has := fun p inside => has p (reaches.has p inside) inside }

theorem Reaches.found (reaches : files.Reaches tree place oid) :
    files.found tree place oid =
      match tree.node? (files.locate place oid) with
      | none => .error .notFound
      | some node => .ok node := by
  have path := (files.path_eq_ok_iff place oid _).mpr ⟨rfl, reaches.allowed⟩
  have node := FileTree.find_of_has reaches.fine reaches.short reaches.fits
    (ne_parentName_of_not_isRefused reaches.allowed.last) reaches.has
  rw [settled_directory reaches.allowed, List.append_assoc, ← segments, ← locate] at node
  simp only [FileStore.found, path, node]
  cases tree.node? (files.locate place oid) <;> rfl

theorem node?_of_found {node : FileNode} (found : files.found tree place oid = .ok node) :
    IsAllowed place oid ∧ tree.node? (files.locate place oid) = some node := by
  unfold FileStore.found at found
  split at found
  · rename_i path named
    obtain ⟨rfl, allowed⟩ := (files.path_eq_ok_iff place oid _).mp named
    refine ⟨allowed, ?_⟩
    cases there : tree.find (files.directory place ++ [oid]) with
    | error fault =>
      rw [there] at found
      cases found
    | ok other =>
      rw [there] at found
      cases found
      rw [← settled_path allowed]
      exact FileTree.node?_of_find tree _ _ (by simp) there
  · cases found

/-- Where a path can be followed, there are directories at all places that it leads through. -/
theorem Reaches.through (direct : files.IsDirect) {other another : String}
    (reaches : files.Reaches tree place oid)
    (begins : segments other another <+: Text.pieces '/' place) :
    files.found tree other another = .ok .directory := by
  obtain ⟨more, whole⟩ : files.directory other ++ [another] <+: files.directory place := by
    rw [directory, directory, List.append_assoc]
    exact (List.prefix_append_right_inj _).mpr begins
  have inner : files.Reaches tree other another := by
    obtain ⟨allowed, fine, short, -, has⟩ := reaches
    rw [← whole, List.append_assoc] at fine short has
    exact
      { allowed := fun segment inside => allowed.piece (begins.subset inside)
        fine := FilePath.fault?_of_append _ _ fine
        short := fun name inside => short name (List.mem_append_left _ inside)
        fits := short another (by simp)
        has := fun place inside => has place (FileTree.way_subset_append _ _ inside) }
  have passed := (mem_way_iff reaches.allowed direct (by simp [segments])).mpr begins
  rw [inner.found, locate, reaches.has _ passed]

end Found

/-! ## What an upload does to the nodes -/

/-- Directories are made on the way to the object, and if the upload succeeds the object is there
at its end; the place of the unfinished file aside, nothing else changes. -/
inductive Effect (files : FileStore) (place oid : String) (unfinished : FilePath)
    (before after : FileTree) : Except StoreFailure Unit → Prop
  | failed (error : StoreFailure) (made : FileTree)
      (grown : before.Grown (way (files.directory place)) made)
      (nodes : ∀ p, p ≠ unfinished → after.node? p = made.node? p) :
      Effect files place oid unfinished before after (.error error)
  | stored (octets : Octets) (made : FileTree)
      (grown : before.Grown (way (files.directory place)) made)
      (reaches : files.Reaches made place oid)
      (clear : made.node? (files.locate place oid) ≠ some .directory)
      (nodes : ∀ p, p ≠ unfinished → after.node? p =
        if p = files.locate place oid then some (.file octets) else made.node? p) :
      Effect files place oid unfinished before after (.ok ())

section Effects

variable {files : FileStore} {place oid : String}

theorem settled_unfinishedPath (files : FileStore) (allowed : IsAllowed place oid) (upload : Nat) :
    (files.unfinishedPath oid (files.directory place ++ [oid]) upload).settled =
      files.locateUnfinished place oid upload := by
  rw [unfinishedPath_settled, List.dropLast_concat, settled_directory allowed, locateUnfinished,
    List.append_assoc]

theorem not_isAbove_locateUnfinished (files : FileStore) (place oid : String) (upload : Nat) :
    ¬ FilePath.IsAbove (files.locateUnfinished place oid upload) := by
  rw [locateUnfinished, ← List.append_assoc]
  exact FilePath.not_isAbove_append_name _ _ (partialName_ne_parentName files oid upload)

theorem effect_of_renamed (octets : Octets) (upload : Nat) {before made written : FileTree}
    (grown : before.Grown (way (files.directory place)) made)
    (reaches : files.Reaches made place oid)
    (nodes : ∀ p, p ≠ files.locateUnfinished place oid upload → written.node? p = made.node? p) :
    let path := files.directory place ++ [oid]
    let renamed := written.rename (files.unfinishedPath oid path upload) path octets
    Effect files place oid (files.locateUnfinished place oid upload) before renamed.1
      (renamed.2.mapError io) := by
  intro path renamed
  have allowed := reaches.allowed
  rcases written.rename_cases (files.unfinishedPath oid path upload) path octets with
    ⟨-, same⟩ | ⟨clear, same⟩
  · simp only [renamed, same]
    exact .failed _ made grown nodes
  · simp only [renamed, same]
    rw [settled_path allowed,
      nodes _ (locate_ne_locateUnfinished files allowed place oid upload)] at clear
    refine .stored octets made grown reaches clear fun p other => ?_
    rw [FileTree.write, settled_path allowed,
      FileTree.node?_put _ _ _ _ (not_isAbove_locate allowed files), FileTree.remove,
      settled_unfinishedPath files allowed,
      FileTree.node?_erase _ _ _ (not_isAbove_locateUnfinished files place oid upload),
      if_neg other, nodes p other]

theorem put_effect (files : FileStore) (allowed : IsAllowed place oid) (content : Content)
    (world : FileWorld)
    (hung : ∀ content, world.tree.node? [] ≠ some (.file content)) :
    Effect files place oid (files.locateUnfinished place oid world.uploads) world.tree
      (files.put place oid content world).2.tree (files.put place oid content world).1 := by
  have named := (files.path_eq_ok_iff place oid _).mpr ⟨rfl, allowed⟩
  have grown := world.tree.grown_makeDirectories (files.directory place) hung
  have ready := world.tree.has_of_makeDirectories (files.directory place)
  rw [put_apply files place oid content world _ named]
  simp only [List.dropLast_concat]
  generalize world.tree.makeDirectories (files.directory place) = directories at grown ready
  obtain ⟨made, outcome⟩ := directories
  cases outcome with
  | error fault => exact .failed _ made grown fun _ _ => rfl
  | ok _ =>
    obtain ⟨short, has⟩ := ready rfl
    rcases made.create_cases (files.directory place) (files.partialName oid world.uploads) with
      ⟨fault, -, refused⟩ | ⟨fine, fits, created⟩
    · simp only [refused]
      exact .failed _ made grown fun _ _ => rfl
    · have within := not_isAbove_locateUnfinished files place oid world.uploads
      have settled := settled_unfinishedPath files allowed world.uploads
      rw [unfinishedPath_settled, List.dropLast_concat] at settled
      rw [settled] at created
      have nodes := fun p => FileTree.node?_put made _ p (.file []) within
      simp only [created]
      cases content.joined with
      | error error =>
        refine .failed error made grown fun p other => ?_
        rw [FileTree.remove, settled_unfinishedPath files allowed, FileTree.node?_erase _ _ _ within,
          if_neg other, nodes, if_neg other]
      | ok octets =>
        have reaches : files.Reaches made place oid :=
          ⟨allowed, fault?_of_partialName files _ allowed.last fine, short,
            isTooLong_of_partialName files oid _ fits, has⟩
        refine effect_of_renamed octets world.uploads grown reaches fun p other => ?_
        rw [FileTree.write, settled_unfinishedPath files allowed, FileTree.node?_put _ _ _ _ within,
          if_neg other, nodes, if_neg other]

end Effects

/-! ## A tree with its history -/

/-- The tree has what the uploads of the history have put there: a file for every success, no other
files, and no directories in the place of objects but those that uploads led through. -/
structure Recorded (files : FileStore) (history : UploadHistory) (tree : FileTree) : Prop where
  hung : ∀ content, tree.node? [] ≠ some (.file content)
  file : ∀ place oid content, IsAllowed place oid →
    tree.node? (files.locate place oid) = some (.file content) → history.Stored place oid
  directory : ∀ place oid, IsAllowed place oid →
    tree.node? (files.locate place oid) = some .directory →
    ∃ entry ∈ history, segments place oid <+: Text.pieces '/' entry.1.place
  there : ∀ place oid, history.Stored place oid →
    files.Reaches tree place oid ∧
      ∃ content, tree.node? (files.locate place oid) = some (.file content)

section Recorded

variable {files : FileStore}

theorem IsEmpty.recorded {tree : FileTree} (empty : files.IsEmpty tree) :
    files.Recorded [] tree := by
  have nothing : ∀ place oid, IsAllowed place oid → tree.node? (files.locate place oid) = none := by
    intro place oid allowed
    rw [locate, segments, ← List.append_assoc]
    exact empty.node? _ _ (ne_parentName_of_not_isRefused allowed.last)
  constructor
  case hung =>
    intro content there
    rcases empty.free [] List.mem_cons_self with missing | hung
    · rw [missing] at there
      cases there
    · rw [hung] at there
      cases there
  case file =>
    intro place oid content allowed there
    rw [nothing place oid allowed] at there
    cases there
  case directory =>
    intro place oid allowed there
    rw [nothing place oid allowed] at there
    cases there
  case there =>
    rintro place oid ⟨_, inside⟩
    cases inside

variable {history : UploadHistory} {tree after : FileTree} {upload : Upload}

theorem Recorded.of_nodes (recorded : files.Recorded history tree) (direct : files.IsDirect)
    (place oid : String) (uploads : Nat)
    (nodes : ∀ p, p ≠ files.locateUnfinished place oid uploads → after.node? p = tree.node? p) :
    files.Recorded history after := by
  have object := fun other another (allowed : IsAllowed other another) =>
    nodes _ (locate_ne_locateUnfinished files allowed place oid uploads)
  constructor
  case hung =>
    rw [nodes [] (by simp [locateUnfinished])]
    exact recorded.hung
  case file =>
    intro other another content allowed there
    rw [object other another allowed] at there
    exact recorded.file other another content allowed there
  case directory =>
    intro other another allowed there
    rw [object other another allowed] at there
    exact recorded.directory other another allowed there
  case there =>
    intro other another stored
    obtain ⟨reaches, there⟩ := recorded.there other another stored
    refine ⟨reaches.of_has fun p here inside => ?_, by rwa [object other another reaches.allowed]⟩
    rw [nodes, here]
    rintro rfl
    exact locateUnfinished_not_mem_way direct reaches.allowed place oid uploads inside

theorem Recorded.refused (recorded : files.Recorded history tree) (upload : Upload)
    (error : StoreFailure) : files.Recorded (history ++ [(upload, .error error)]) tree := by
  have same : ∀ place oid, UploadHistory.Stored (history ++ [(upload, .error error)]) place oid ↔
      history.Stored place oid := by
    intro place oid
    rw [UploadHistory.stored_append]
    exact or_iff_left fun ⟨_, _, success⟩ => by cases success
  constructor
  case hung => exact recorded.hung
  case file =>
    intro place oid content allowed there
    exact (same place oid).mpr (recorded.file place oid content allowed there)
  case directory =>
    intro place oid allowed there
    obtain ⟨entry, inside, begins⟩ := recorded.directory place oid allowed there
    exact ⟨entry, List.mem_append_left _ inside, begins⟩
  case there =>
    intro place oid stored
    exact recorded.there place oid ((same place oid).mp stored)

/-- Until its file is there, an upload counts as failed. -/
theorem Recorded.grown (recorded : files.Recorded history tree) (direct : files.IsDirect)
    (allowed : IsAllowed upload.place upload.oid)
    (grown : tree.Grown (way (files.directory upload.place)) after) (error : StoreFailure) :
    files.Recorded (history ++ [(upload, .error error)]) after := by
  have noted := recorded.refused upload error
  constructor
  case hung => exact fun content there => noted.hung content (grown.file there)
  case file =>
    intro place oid content fine there
    exact noted.file place oid content fine (grown.file there)
  case directory =>
    intro place oid fine there
    rcases grown (files.locate place oid) with same | ⟨inside, -, -⟩
    · exact noted.directory place oid fine (by rw [← same, there])
    · exact ⟨_, List.mem_append_right _ (List.mem_singleton_self _),
        (mem_way_iff allowed direct (by simp [segments])).mp inside⟩
  case there =>
    intro place oid stored
    obtain ⟨reaches, content, there⟩ := noted.there place oid stored
    exact ⟨reaches.of_has fun p here _ => grown.kept here, content, grown.kept there⟩

theorem Recorded.stored {error : StoreFailure}
    (recorded : files.Recorded (history ++ [(upload, .error error)]) tree)
    (reaches : files.Reaches tree upload.place upload.oid)
    (clear : tree.node? (files.locate upload.place upload.oid) ≠ some .directory)
    (octets : Octets) :
    files.Recorded (history ++ [(upload, .ok ())])
      (tree.put (FilePath.key (files.locate upload.place upload.oid)) (.file octets)) := by
  have nodes := fun p => FileTree.node?_put tree (files.locate upload.place upload.oid) p
    (.file octets) (not_isAbove_locate reaches.allowed files)
  have onWay : ∀ {place oid : String}, files.Reaches tree place oid →
      files.Reaches (tree.put (FilePath.key (files.locate upload.place upload.oid)) (.file octets))
        place oid := by
    intro place oid other
    refine other.of_has fun p here _ => ?_
    rw [nodes, if_neg, here]
    rintro rfl
    exact clear here
  constructor
  case hung =>
    intro content there
    rw [nodes, if_neg (by simp [locate, segments])] at there
    exact recorded.hung content there
  case file =>
    intro place oid content allowed there
    rw [nodes] at there
    split at there
    · rename_i same
      obtain ⟨rfl, rfl⟩ := segments_inj.mp (List.append_cancel_left same)
      exact UploadHistory.stored_append.mpr (.inr ⟨rfl, rfl, rfl⟩)
    · have earlier := recorded.file place oid content allowed there
      rcases UploadHistory.stored_append.mp earlier with stored | ⟨_, _, success⟩
      · exact UploadHistory.stored_append.mpr (.inl stored)
      · cases success
  case directory =>
    intro place oid allowed there
    rw [nodes] at there
    split at there
    · cases there
    · obtain ⟨entry, inside, begins⟩ := recorded.directory place oid allowed there
      rcases List.mem_append.mp inside with earlier | last
      · exact ⟨entry, List.mem_append_left _ earlier, begins⟩
      · rw [List.mem_singleton.mp last] at begins
        exact ⟨_, List.mem_append_right _ (List.mem_singleton_self _), begins⟩
  case there =>
    intro place oid stored
    rcases UploadHistory.stored_append.mp stored with earlier | ⟨rfl, rfl, -⟩
    · obtain ⟨ready, content, there⟩ :=
        recorded.there place oid (UploadHistory.stored_append.mpr (.inl earlier))
      refine ⟨onWay ready, ?_⟩
      rw [nodes]
      split
      · exact ⟨octets, rfl⟩
      · exact ⟨content, there⟩
    · exact ⟨onWay reaches, octets, by rw [nodes, if_pos rfl]⟩

theorem Recorded.put {world : FileWorld} (recorded : files.Recorded history world.tree)
    (direct : files.IsDirect) (upload : Upload) :
    let ended := files.put upload.place upload.oid upload.content world
    files.Recorded (history ++ [(upload, ended.1)]) ended.2.tree := by
  intro ended
  by_cases allowed : IsAllowed upload.place upload.oid
  · have effect := put_effect files allowed upload.content world recorded.hung
    change Effect files _ _ _ _ ended.2.tree ended.1 at effect
    generalize ended.1 = outcome at effect
    cases effect with
    | failed error made grown nodes =>
      exact (recorded.grown direct allowed grown error).of_nodes direct _ _ _ nodes
    | stored octets made grown reaches clear nodes =>
      refine ((recorded.grown direct allowed grown .notFound).stored reaches clear octets).of_nodes
        direct upload.place upload.oid world.uploads fun p other => ?_
      rw [nodes p other, FileTree.node?_put _ _ _ _ (not_isAbove_locate allowed files)]
  · cases named : files.path upload.place upload.oid with
    | ok path => exact absurd ((files.path_eq_ok_iff _ _ path).mp named).2 allowed
    | error error =>
      have same := put_refused files _ _ upload.content world error named
      simp only [ended, same]
      exact recorded.refused upload error

theorem Recorded.putAll {world : FileWorld} (recorded : files.Recorded history world.tree)
    (direct : files.IsDirect) (uploads : List Upload) :
    files.Recorded (history ++ (files.putAll uploads world).1)
      (files.putAll uploads world).2.tree := by
  induction uploads generalizing history world with
  | nil => rwa [FileStore.putAll, List.append_nil]
  | cons upload rest ih =>
    have further := ih (recorded.put direct upload)
    rw [List.append_assoc] at further
    rwa [putAll_cons]

end Recorded

/-! ## What the store says -/

/-- After uploads to an empty root, a file is found for an object exactly if one of the uploads of
this object succeeded.  The object is said to be there if such a file or a directory is found, and a
directory is found only where an upload led through, and after a success always. -/
theorem holds_iff_stored (files : FileStore) (direct : files.IsDirect) (world : FileWorld)
    (empty : files.IsEmpty world.tree) (uploads : List Upload) (place oid : String) :
    let history := (files.putAll uploads world).1
    let after := (files.putAll uploads world).2
    ((∃ octets, (files.find place oid after).1 = .ok (.file octets)) ↔
      history.Stored place oid) ∧
    ((files.holds place oid after).1 = .ok true ↔
      history.Stored place oid ∨ (files.find place oid after).1 = .ok .directory) ∧
    ((files.find place oid after).1 = .ok .directory →
      ∃ upload ∈ uploads, segments place oid <+: Text.pieces '/' upload.place) ∧
    ∀ upload, (upload, .ok ()) ∈ history → segments place oid <+: Text.pieces '/' upload.place →
      (files.find place oid after).1 = .ok .directory := by
  intro history after
  have recorded : files.Recorded history after.tree := empty.recorded.putAll direct uploads
  have file : (∃ octets, files.found after.tree place oid = .ok (.file octets)) ↔
      history.Stored place oid := by
    constructor
    · rintro ⟨octets, found⟩
      obtain ⟨allowed, there⟩ := node?_of_found found
      exact recorded.file place oid octets allowed there
    · intro stored
      obtain ⟨reaches, content, there⟩ := recorded.there place oid stored
      exact ⟨content, by rw [reaches.found, there]⟩
  simp only [find_apply]
  refine ⟨file, ?_, ?_, ?_⟩
  · change (files.store.holds place oid after).1 = _ ↔ _
    rw [holds_apply, ← file]
    simp only [FileStore.report]
    cases files.found after.tree place oid with
    | ok node => cases node <;> simp
    | error error => cases error <;> simp
  · intro found
    obtain ⟨allowed, there⟩ := node?_of_found found
    obtain ⟨entry, inside, begins⟩ := recorded.directory place oid allowed there
    have asked := List.mem_map_of_mem (f := Prod.fst) inside
    rw [putAll_uploads] at asked
    exact ⟨entry.1, asked, begins⟩
  · intro upload success begins
    exact (recorded.there _ _ ⟨upload.content, success⟩).1.through direct begins

def nestedUploads : List Upload := [⟨"acme/widgets", "abc", [.ok [1]]⟩]

theorem nestedStore_isDirect : nestedStore.IsDirect := isDirect_of_down _ (by decide)

theorem putAll_nestedUploads :
    (nestedStore.putAll nestedUploads ⟨[], 0⟩).1 =
      [(⟨"acme/widgets", "abc", [.ok [1]]⟩, .ok ())] := by
  have success : (nestedStore.put "acme/widgets" "abc" [.ok [1]] ⟨[], 0⟩).1 = .ok () := by
    decide +kernel
  simp only [nestedUploads, putAll_cons, success]
  rfl

theorem holds_iff_stored_nested :
    let after := (nestedStore.putAll nestedUploads ⟨[], 0⟩).2
    (nestedStore.holds "acme/widgets" "abc" after).1 = .ok true ∧
      (nestedStore.find "acme" "widgets" after).1 = .ok .directory := by
  intro after
  have empty := isEmpty_nil nestedStore
  have history := putAll_nestedUploads
  obtain ⟨-, holds, -, -⟩ := holds_iff_stored nestedStore nestedStore_isDirect ⟨[], 0⟩ empty
    nestedUploads "acme/widgets" "abc"
  obtain ⟨-, -, -, through⟩ := holds_iff_stored nestedStore nestedStore_isDirect ⟨[], 0⟩ empty
    nestedUploads "acme" "widgets"
  rw [history] at holds through
  exact ⟨holds.mpr (.inl ⟨_, List.mem_singleton_self _⟩),
    through _ (List.mem_singleton_self _) (by decide)⟩

/-- An object may be said to be there that was never stored: here it has the name of the directory
of another one. -/
theorem holds_without_upload :
    ¬ ∀ (files : FileStore) (world : FileWorld) (uploads : List Upload) (place oid : String),
        files.IsDirect → files.IsEmpty world.tree →
        ((files.holds place oid (files.putAll uploads world).2).1 = .ok true ↔
          (files.putAll uploads world).1.Stored place oid) := by
  intro claimed
  have holds : (nestedStore.holds "acme" "widgets"
      (nestedStore.putAll nestedUploads ⟨[], 0⟩).2).1 = .ok true := by decide +kernel
  obtain ⟨content, inside⟩ := (claimed nestedStore ⟨[], 0⟩ nestedUploads "acme" "widgets"
    nestedStore_isDirect (isEmpty_nil _)).mp holds
  rw [putAll_nestedUploads] at inside
  have same : "acme" = "acme/widgets" :=
    congrArg (fun entry => entry.1.place) (List.mem_singleton.mp inside)
  exact absurd same (by decide)

end FileStore

end ObjectTransfer
