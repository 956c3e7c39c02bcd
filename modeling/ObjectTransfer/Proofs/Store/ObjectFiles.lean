import ObjectTransfer.Proofs.Store.Addresses
import ObjectTransfer.Proofs.Store.Directories
import ObjectTransfer.Proofs.Store.FailedUploads

/-!
# Where objects are in the tree

The object of an address whose names a file can have is three names below the
root, under its organization and its repository.  So the paths of different
objects never meet, and neither do they meet the unfinished file of an upload,
whose name begins with a point.

A tree mirrors a table of objects if its files three names below the root are
these objects and all that is above them are directories.  It still does when
an upload has made directories and taken its unfinished file away again, and
when a file at the end of a way becomes the object.
-/

set_option autoImplicit false

namespace ObjectTransfer

open FilePath (waypoints IsShort)
open FileTree (Free Has way)

/-! ## Short paths -/

namespace FilePath

theorem size_append (path more : FilePath) : size (path ++ more) = size path + size more := by
  have shifted : ∀ (names : FilePath) (start : Nat),
      names.foldl (fun sum name => sum + (Utf8.encode name).length + 1) start =
        start + size names := by
    intro names
    induction names with
    | nil => intro start; rfl
    | cons name rest ih =>
      intro start
      have once : size (name :: rest) = 0 + (Utf8.encode name).length + 1 + size rest := ih _
      rw [List.foldl_cons, ih, once]
      omega
  rw [size, List.foldl_append, shifted]
  rfl

theorem fault?_eq_none_iff (path : FilePath) :
    fault? path = none ↔ (∀ name ∈ path, '\x00' ∉ name.toList) ∧ size path ≤ longestPath := by
  unfold fault?
  by_cases zero : path.any (fun name => name.toList.contains '\x00') = true
  · rw [if_pos zero]
    obtain ⟨name, inside, holds⟩ := List.any_eq_true.mp zero
    simp only [reduceCtorEq, false_iff, not_and]
    intro clear
    exact absurd (by simpa using holds) (clear name inside)
  · have clear : ∀ name ∈ path, '\x00' ∉ name.toList := by simpa using zero
    rw [if_neg zero]
    by_cases long : longestPath < size path
    · rw [if_pos long]
      simp only [reduceCtorEq, false_iff, not_and]
      omega
    · rw [if_neg long]
      exact iff_of_true rfl ⟨clear, by omega⟩

theorem fault?_of_append (path more : FilePath) (fine : fault? (path ++ more) = none) :
    fault? path = none := by
  rw [fault?_eq_none_iff, size_append] at fine
  rw [fault?_eq_none_iff]
  exact ⟨fun name inside => fine.1 name (List.mem_append_left _ inside), by omega⟩

end FilePath

/-! ## Names that a file can have -/

namespace FileStore

theorem head?_of_not_isRefused {name : String} (fine : isRefused name = false) :
    name.toList.head? ≠ some '.' := by
  intro pointed
  simp [isRefused, pointed] at fine

theorem not_mem_of_not_isRefused {name : String} (fine : isRefused name = false) :
    '/' ∉ name.toList ∧ '\x00' ∉ name.toList := by
  simp only [isRefused, Bool.or_eq_false_iff, List.any_eq_false] at fine
  constructor
  · intro slash
    exact fine.2 '/' slash (by simp)
  · intro zero
    exact fine.2 '\x00' zero (by simp)

theorem ne_parentName_of_not_isRefused {name : String} (fine : isRefused name = false) :
    name ≠ FilePath.parentName := by
  rintro rfl
  exact head?_of_not_isRefused fine rfl

theorem ne_partialName {name : String} (fine : isRefused name = false) (files : FileStore)
    (oid : String) (upload : Nat) : name ≠ files.partialName oid upload := by
  rintro rfl
  exact head?_of_not_isRefused fine (partialName_head files oid upload)

theorem partialName_length (files : FileStore) (oid : String) (upload : Nat) :
    (Utf8.encode oid).length ≤ (Utf8.encode (files.partialName oid upload)).length := by
  simp only [partialName, Utf8.encode, String.toList_append, Utf8.encodeChars_append,
    List.length_append]
  omega

theorem isTooLong_of_partialName (files : FileStore) (oid : String) (upload : Nat)
    (fits : FilePath.isTooLong (files.partialName oid upload) = false) :
    FilePath.isTooLong oid = false := by
  have length := partialName_length files oid upload
  simp only [FilePath.isTooLong, decide_eq_false_iff_not] at fits ⊢
  omega

theorem fault?_of_partialName (files : FileStore) {directory : FilePath} {oid : String}
    (upload : Nat) (allowed : isRefused oid = false)
    (fine : FilePath.fault? (directory ++ [files.partialName oid upload]) = none) :
    FilePath.fault? (directory ++ [oid]) = none := by
  have length := partialName_length files oid upload
  rw [FilePath.fault?_eq_none_iff, FilePath.size_append] at fine
  rw [FilePath.fault?_eq_none_iff, FilePath.size_append]
  constructor
  · intro name inside
    rcases List.mem_append.mp inside with above | last
    · exact fine.1 name (List.mem_append_left _ above)
    · rw [List.mem_singleton.mp last]
      exact (not_mem_of_not_isRefused allowed).2
  · have sizes := fine.2
    simp only [FilePath.size, List.foldl_cons, List.foldl_nil] at sizes ⊢
    omega

end FileStore

namespace ObjectAddress

/-- None of the three names is empty, begins with a point or holds a slash, a backslash or a zero. -/
structure IsPlain (address : ObjectAddress) : Prop where
  organization : FileStore.isRefused address.organization = false
  repository : FileStore.isRefused address.repository = false
  oid : FileStore.isRefused address.oid = false

def directories (address : ObjectAddress) : FilePath := [address.organization, address.repository]

theorem IsPlain.name_inj {address other : ObjectAddress} (plain : address.IsPlain)
    (otherPlain : other.IsPlain) : address.name = other.name ↔ address = other :=
  ObjectAddress.name_inj (FileStore.not_mem_of_not_isRefused plain.organization).1
    (FileStore.not_mem_of_not_isRefused otherPlain.organization).1

end ObjectAddress

namespace FileStore

/-- The root has no name that is too long, and the way to it does not lead through a directory
where there should be an object. -/
structure IsFounded (files : FileStore) : Prop where
  short : IsShort files.root
  outside : ∀ place ∈ waypoints [] files.root, ∀ organization repository name : String,
    place ≠ files.root.settled ++ [organization, repository] ++ [name]

/-- The names are plain, and short enough for the files of the next uploads, as long as fewer than
`limit` are counted. -/
structure Suits (files : FileStore) (limit : Nat) (address : ObjectAddress) : Prop where
  plain : address.IsPlain
  organization : FilePath.isTooLong address.organization = false
  repository : FilePath.isTooLong address.repository = false
  unfinished : ∀ upload < limit,
    FilePath.isTooLong (files.partialName address.oid upload) = false ∧
      FilePath.fault? (files.root ++ address.directories ++
        [files.partialName address.oid upload]) = none

instance (files : FileStore) (limit : Nat) (address : ObjectAddress) :
    Decidable (files.Suits limit address) :=
  decidable_of_iff
    ((isRefused address.organization = false ∧ isRefused address.repository = false ∧
      isRefused address.oid = false) ∧ FilePath.isTooLong address.organization = false ∧
      FilePath.isTooLong address.repository = false ∧ ∀ upload < limit,
        FilePath.isTooLong (files.partialName address.oid upload) = false ∧
          FilePath.fault? (files.root ++ address.directories ++
            [files.partialName address.oid upload]) = none)
    ⟨fun ⟨⟨organization, repository, oid⟩, short, shorter, unfinished⟩ =>
      ⟨⟨organization, repository, oid⟩, short, shorter, unfinished⟩,
     fun ⟨⟨organization, repository, oid⟩, short, shorter, unfinished⟩ =>
      ⟨⟨organization, repository, oid⟩, short, shorter, unfinished⟩⟩

theorem isFounded_of_down (files : FileStore) (short : IsShort files.root)
    (down : ∀ name ∈ files.root, name ≠ FilePath.parentName) : files.IsFounded where
  short := short
  outside place inside organization repository name same := by
    have length := FilePath.length_of_mem_waypoints _ _ _ inside
    rw [same, FilePath.settled_of_down _ down] at length
    simp only [List.length_append, List.length_cons, List.length_nil] at length
    omega

section Names

variable {files : FileStore} {limit : Nat} {address : ObjectAddress}

theorem path_of_isPlain (files : FileStore) (plain : address.IsPlain) :
    files.path address.place address.oid =
      .ok (files.root ++ address.directories ++ [address.oid]) := by
  have single : ∀ name, isRefused name = false → Text.pieces '/' name = [name] := by
    intro name fine
    rw [Text.pieces, Text.split_of_not_mem '/' _ (not_mem_of_not_isRefused fine).1]
    simp
  have parts : segments address.place address.oid =
      [address.organization, address.repository, address.oid] := by
    rw [segments, ObjectAddress.place, placeOf, Text.pieces_append, single _ plain.organization,
      single _ plain.repository]
    rfl
  have fine : [address.organization, address.repository, address.oid].find? isRefused = none := by
    simp [plain.organization, plain.repository, plain.oid]
  simp only [path, parts, fine]
  simp [ObjectAddress.directories]

theorem settled_directories (files : FileStore) (plain : address.IsPlain) :
    (files.root ++ address.directories).settled = files.root.settled ++ address.directories := by
  refine FilePath.settled_append_of_down _ _ fun name inside => ?_
  simp only [ObjectAddress.directories, List.mem_cons, List.not_mem_nil, or_false] at inside
  rcases inside with rfl | rfl
  · exact ne_parentName_of_not_isRefused plain.organization
  · exact ne_parentName_of_not_isRefused plain.repository

theorem Suits.isShort (suits : files.Suits limit address) (founded : files.IsFounded) :
    IsShort (files.root ++ address.directories) := by
  intro name inside
  rcases List.mem_append.mp inside with root | below
  · exact founded.short name root
  · simp only [ObjectAddress.directories, List.mem_cons, List.not_mem_nil, or_false] at below
    rcases below with rfl | rfl
    · exact suits.organization
    · exact suits.repository

theorem Suits.oid_short (suits : files.Suits limit address) (counted : 0 < limit) :
    FilePath.isTooLong address.oid = false :=
  isTooLong_of_partialName files address.oid 0 (suits.unfinished 0 counted).1

theorem Suits.fault?_object (suits : files.Suits limit address) (counted : 0 < limit) :
    FilePath.fault? (files.root ++ address.directories ++ [address.oid]) = none :=
  fault?_of_partialName files 0 suits.plain.oid (suits.unfinished 0 counted).2

end Names

/-! ## Places below the root -/

def objectPlace (files : FileStore) (address : ObjectAddress) : FilePath :=
  files.root.settled ++ address.directories ++ [address.oid]

def unfinishedPlace (files : FileStore) (address : ObjectAddress) (upload : Nat) : FilePath :=
  files.root.settled ++ address.directories ++ [files.partialName address.oid upload]

/-- Where the directories of an object are, from the tree's own on. -/
def wayTo (files : FileStore) (address : ObjectAddress) : List FilePath :=
  way (files.root ++ address.directories)

section Places

variable {files : FileStore} {address other : ObjectAddress}

theorem settled_object (files : FileStore) (plain : address.IsPlain) :
    (files.root ++ address.directories ++ [address.oid]).settled = files.objectPlace address := by
  rw [FilePath.settled_append_name _ _ (ne_parentName_of_not_isRefused plain.oid),
    settled_directories files plain, objectPlace]

theorem settled_unfinished (files : FileStore) (plain : address.IsPlain) (upload : Nat) :
    (files.unfinishedPath address.oid (files.root ++ address.directories ++ [address.oid])
      upload).settled = files.unfinishedPlace address upload := by
  rw [unfinishedPath_settled, List.dropLast_concat, settled_directories files plain,
    unfinishedPlace]

theorem not_isAbove_objectPlace (files : FileStore) (plain : address.IsPlain) :
    ¬ FilePath.IsAbove (files.objectPlace address) :=
  FilePath.not_isAbove_append_name _ _ (ne_parentName_of_not_isRefused plain.oid)

theorem not_isAbove_unfinishedPlace (files : FileStore) (address : ObjectAddress) (upload : Nat) :
    ¬ FilePath.IsAbove (files.unfinishedPlace address upload) :=
  FilePath.not_isAbove_append_name _ _ (partialName_ne_parentName _ _ _)

/-- The way to an object leads to the root and through its two directories. -/
theorem wayTo_eq (files : FileStore) (plain : address.IsPlain) :
    files.wayTo address =
      way files.root ++ [files.root.settled ++ [address.organization],
        files.root.settled ++ address.directories] := by
  simp only [wayTo, way, FilePath.waypoints_append, ObjectAddress.directories, waypoints,
    FilePath.enter_of_down _ _ (ne_parentName_of_not_isRefused plain.organization),
    FilePath.enter_of_down _ _ (ne_parentName_of_not_isRefused plain.repository)]
  simp [FilePath.settled]

theorem not_mem_wayTo (founded : files.IsFounded) (plain : other.IsPlain)
    (address : ObjectAddress) (name : String) :
    files.root.settled ++ address.directories ++ [name] ∉ files.wayTo other := by
  rw [wayTo_eq files plain]
  intro inside
  rcases List.mem_append.mp inside with root | below
  · rcases List.mem_cons.mp root with empty | waypoint
    · simp at empty
    · exact founded.outside _ waypoint address.organization address.repository name rfl
  · have lengths : ∀ first second : FilePath, first = second → first.length = second.length :=
      fun _ _ same => congrArg List.length same
    simp only [List.mem_cons, List.not_mem_nil, or_false] at below
    rcases below with same | same
    · simpa [ObjectAddress.directories] using lengths _ _ same
    · simpa [ObjectAddress.directories] using lengths _ _ same

theorem objectPlace_not_mem_wayTo (founded : files.IsFounded) (plain : other.IsPlain)
    (address : ObjectAddress) : files.objectPlace address ∉ files.wayTo other :=
  not_mem_wayTo founded plain address address.oid

theorem unfinishedPlace_not_mem_wayTo (founded : files.IsFounded) (plain : other.IsPlain)
    (address : ObjectAddress) (upload : Nat) :
    files.unfinishedPlace address upload ∉ files.wayTo other :=
  not_mem_wayTo founded plain address _

theorem objectPlace_ne_unfinishedPlace (files : FileStore) (plain : other.IsPlain)
    (address : ObjectAddress) (upload : Nat) :
    files.objectPlace other ≠ files.unfinishedPlace address upload := by
  intro same
  obtain ⟨-, last⟩ := List.append_inj' same rfl
  exact ne_partialName plain.oid files address.oid upload (List.singleton_inj.mp last)

theorem objectPlace_inj (files : FileStore) :
    files.objectPlace other = files.objectPlace address ↔ other = address := by
  constructor
  · intro same
    obtain ⟨above, last⟩ := List.append_inj' same rfl
    have directories := List.append_cancel_left above
    cases other
    cases address
    simp_all [ObjectAddress.directories]
  · rintro rfl
    rfl

end Places

/-! ## A tree that mirrors a table -/

/-- The files three names below the root are the objects of the table, the way to each of them is
there, and what is on the way to any other is no file. -/
structure Mirrors (files : FileStore) (objects : MemoryObjects) (tree : FileTree) : Prop where
  free : ∀ address : ObjectAddress, address.IsPlain → tree.Free (files.wayTo address)
  object : ∀ address : ObjectAddress, address.IsPlain →
    tree.node? (files.objectPlace address) = (objects.get? address.name).map .file
  there : ∀ address : ObjectAddress, address.IsPlain → objects.get? address.name ≠ none →
    tree.Has (files.wayTo address)

/-- Nothing is below the root, and nothing but directories is on the way to it. -/
structure IsEmpty (files : FileStore) (tree : FileTree) : Prop where
  below : ∀ place below node, tree.get? (FilePath.key place) = some node →
    place = files.root.settled ++ below → below = []
  free : tree.Free (way files.root)

theorem isEmpty_nil (files : FileStore) : files.IsEmpty [] where
  below _ _ _ present := by cases present
  free place _ := by
    unfold FileTree.node?
    split
    · exact .inr rfl
    · exact .inl rfl

theorem IsEmpty.node? {files : FileStore} {tree : FileTree} (empty : files.IsEmpty tree)
    (below : FilePath) (name : String) (down : name ≠ FilePath.parentName) :
    tree.node? (files.root.settled ++ below ++ [name]) = none := by
  rw [FileTree.node?_of_not_isAbove _ _ (FilePath.not_isAbove_append_name _ _ down)]
  refine Option.eq_none_iff_forall_ne_some.mpr fun node present => ?_
  have nothing := empty.below _ (below ++ [name]) node present (by simp)
  simp at nothing

theorem IsEmpty.mirrors {files : FileStore} {tree : FileTree} (empty : files.IsEmpty tree) :
    files.Mirrors [] tree where
  free address plain place inside := by
    rw [wayTo_eq files plain] at inside
    rcases List.mem_append.mp inside with root | below
    · exact empty.free place root
    · have organization := empty.node? [] address.organization
        (ne_parentName_of_not_isRefused plain.organization)
      have repository := empty.node? [address.organization] address.repository
        (ne_parentName_of_not_isRefused plain.repository)
      simp only [List.mem_cons, List.not_mem_nil, or_false] at below
      rcases below with rfl | rfl
      · exact .inl (by simpa using organization)
      · exact .inl (by simpa [ObjectAddress.directories] using repository)
  object address plain :=
    empty.node? address.directories address.oid (ne_parentName_of_not_isRefused plain.oid)
  there _ _ present := absurd rfl present

section Mirrors

variable {files : FileStore} {objects : MemoryObjects} {tree after : FileTree}
  {address : ObjectAddress}

theorem Mirrors.prepared (mirrors : files.Mirrors objects tree) (founded : files.IsFounded)
    (plain : address.IsPlain) (upload : Nat)
    (nodes : ∀ place, after.node? place =
      if place = files.unfinishedPlace address upload then none
      else if place ∈ files.wayTo address then some .directory
      else tree.node? place) :
    files.Mirrors objects after ∧ after.Has (files.wayTo address) := by
  have onWay : ∀ other : ObjectAddress, other.IsPlain → ∀ place ∈ files.wayTo other,
      after.node? place =
        if place ∈ files.wayTo address then some .directory else tree.node? place := by
    intro other otherPlain place inside
    rw [nodes, if_neg]
    rintro rfl
    exact unfinishedPlace_not_mem_wayTo founded otherPlain address upload inside
  refine ⟨⟨?_, ?_, ?_⟩, ?_⟩
  · intro other otherPlain place inside
    rw [onWay other otherPlain place inside]
    split
    · exact .inr rfl
    · exact mirrors.free other otherPlain place inside
  · intro other otherPlain
    rw [nodes, if_neg (objectPlace_ne_unfinishedPlace files otherPlain address upload),
      if_neg (objectPlace_not_mem_wayTo founded plain other), mirrors.object other otherPlain]
  · intro other otherPlain present place inside
    rw [onWay other otherPlain place inside]
    split
    · rfl
    · exact mirrors.there other otherPlain present place inside
  · intro place inside
    rw [onWay address plain place inside, if_pos inside]

theorem Mirrors.stored (mirrors : files.Mirrors objects tree) (founded : files.IsFounded)
    (plain : address.IsPlain) (has : tree.Has (files.wayTo address)) (octets : Octets)
    (nodes : ∀ place, after.node? place =
      if place = files.objectPlace address then some (.file octets) else tree.node? place) :
    files.Mirrors (objects.put address.name octets) after := by
  have onWay : ∀ other : ObjectAddress, other.IsPlain → ∀ place ∈ files.wayTo other,
      after.node? place = tree.node? place := by
    intro other otherPlain place inside
    rw [nodes, if_neg]
    rintro rfl
    exact objectPlace_not_mem_wayTo founded otherPlain address inside
  refine ⟨?_, ?_, ?_⟩
  · intro other otherPlain place inside
    rw [onWay other otherPlain place inside]
    exact mirrors.free other otherPlain place inside
  · intro other otherPlain
    rw [nodes, Table.get?_put]
    by_cases same : other = address
    · rw [if_pos ((objectPlace_inj files).mpr same),
        if_pos ((plain.name_inj otherPlain).mpr same.symm)]
      rfl
    · rw [if_neg fun places => same ((objectPlace_inj files).mp places),
        if_neg fun names => same ((plain.name_inj otherPlain).mp names).symm]
      exact mirrors.object other otherPlain
  · intro other otherPlain present place inside
    rw [onWay other otherPlain place inside]
    rw [Table.get?_put] at present
    by_cases same : address.name = other.name
    · rw [(plain.name_inj otherPlain).mp same] at has
      exact has place inside
    · rw [if_neg same] at present
      exact mirrors.there other otherPlain present place inside

end Mirrors

end FileStore

end ObjectTransfer
