import ObjectTransfer.Store.FileTree

/-!
# What a change of the tree does to its files

A tree is looked at through its files alone: what is stored under each path,
where a directory counts as nothing.  Making directories leaves every file
alone, whether it succeeds or stops on the way.  A new file and a written one
change what is under one path, and so does removing a file.  Of the faults of a
system only a change of name can meet a directory in the place of a file.
-/

set_option autoImplicit false

namespace ObjectTransfer

/-! ## Paths -/

namespace FilePath

theorem key_inj {path other : FilePath} : key path = key other ↔ path = other := by
  constructor
  · intro same
    exact congrArg Prod.snd same
  · rintro rfl
    rfl

theorem settled_append_name (directory : FilePath) (name : String) (down : name ≠ parentName) :
    settled (directory ++ [name]) = settled directory ++ [name] := by
  simp [settled, enter, down]

end FilePath

/-! ## Files -/

def FileNode.content? : FileNode → Option Octets
  | .directory => none
  | .file content => some content

namespace FileTree

def fileAt (tree : FileTree) (path : FilePath) : Option Octets :=
  (tree.get? (FilePath.key path)).bind FileNode.content?

@[simp] theorem fileAt_put (tree : FileTree) (path other : FilePath) (node : FileNode) :
    fileAt (tree.put (FilePath.key path) node) other =
      if path = other then node.content? else tree.fileAt other := by
  simp only [fileAt, Table.get?_put, FilePath.key_inj]
  split <;> rfl

@[simp] theorem fileAt_erase (tree : FileTree) (path other : FilePath) :
    fileAt (tree.erase (FilePath.key path)) other =
      if path = other then none else tree.fileAt other := by
  simp only [fileAt, Table.get?_erase, FilePath.key_inj]
  split <;> rfl

theorem fileAt_write (tree : FileTree) (path other : FilePath) (content : Octets) :
    (tree.write path content).fileAt other =
      if path.settled = other then some content else tree.fileAt other :=
  fileAt_put tree path.settled other (.file content)

theorem fileAt_remove (tree : FileTree) (path other : FilePath) :
    (tree.remove path).fileAt other =
      if path.settled = other then none else tree.fileAt other :=
  fileAt_erase tree path.settled other

/-! ## Directories -/

theorem fileAt_eq_none_of_node (tree : FileTree) (path : FilePath)
    (absent : tree.node? path = none) : tree.fileAt path = none := by
  unfold node? at absent
  split at absent
  · cases absent
  · simp [fileAt, absent]

theorem fileAt_put_directory (tree : FileTree) (path other : FilePath)
    (free : tree.fileAt path = none) :
    fileAt (tree.put (FilePath.key path) .directory) other = tree.fileAt other := by
  rw [fileAt_put]
  split
  · rename_i same
    rw [← same, free]
    rfl
  · rfl

theorem fileAt_makeFrom (path : FilePath) (tree : FileTree) (base other : FilePath) :
    (tree.makeFrom base path).1.fileAt other = tree.fileAt other := by
  induction path generalizing tree base with
  | nil => rfl
  | cons name rest ih =>
    simp only [makeFrom]
    split
    · rfl
    · split
      · rename_i absent
        rw [ih, fileAt_put_directory _ _ _ (fileAt_eq_none_of_node tree _ absent)]
      · rw [ih]
      · rfl

theorem fileAt_makeDirectories (tree : FileTree) (path other : FilePath)
    (rooted : tree.fileAt [] = none) :
    (tree.makeDirectories path).1.fileAt other = tree.fileAt other := by
  unfold makeDirectories
  split
  · rfl
  · rw [fileAt_makeFrom, fileAt_put_directory tree [] other rooted]

/-! ## Faults -/

theorem fault_ne_isDirectory (path : FilePath) (fault : FileFault)
    (faulty : FilePath.fault? path = some fault) : fault ≠ .isDirectory := by
  unfold FilePath.fault? at faulty
  rintro rfl
  split at faulty
  · cases faulty
  · split at faulty <;> cases faulty

theorem makeFrom_ne_isDirectory (path : FilePath) (tree : FileTree) (base : FilePath)
    (fault : FileFault) (failed : (tree.makeFrom base path).2 = .error fault) :
    fault ≠ .isDirectory := by
  induction path generalizing tree base with
  | nil => cases failed
  | cons name rest ih =>
    simp only [makeFrom] at failed
    split at failed
    · cases failed
      decide
    · split at failed
      · exact ih _ _ failed
      · exact ih _ _ failed
      · cases failed
        split <;> decide

theorem makeDirectories_ne_isDirectory (tree : FileTree) (path : FilePath) (fault : FileFault)
    (failed : (tree.makeDirectories path).2 = .error fault) : fault ≠ .isDirectory := by
  unfold makeDirectories at failed
  split at failed
  · rename_i first faulty
    cases failed
    exact fault_ne_isDirectory path _ faulty
  · exact makeFrom_ne_isDirectory path _ [] fault failed

theorem create_cases (tree : FileTree) (directory : FilePath) (name : String) :
    (∃ fault, fault ≠ .isDirectory ∧ tree.create directory name = (tree, .error fault)) ∨
      FilePath.fault? (directory ++ [name]) = none ∧ FilePath.isTooLong name = false ∧
        tree.create directory name =
          (tree.put (FilePath.key (directory.settled ++ [name])) (.file []), .ok ()) := by
  unfold create
  split
  · rename_i fault faulty
    exact .inl ⟨fault, fault_ne_isDirectory _ fault faulty, rfl⟩
  · rename_i fine
    split
    · exact .inl ⟨.nameTooLong, by decide, rfl⟩
    · rename_i fits
      exact .inr ⟨fine, by simpa using fits, rfl⟩

theorem rename_cases (tree : FileTree) (source target : FilePath) (content : Octets) :
    (tree.node? target.settled = some .directory ∧
      tree.rename source target content = (tree, .error .isDirectory)) ∨
    (tree.node? target.settled ≠ some .directory ∧
      tree.rename source target content = ((tree.remove source).write target content, .ok ())) := by
  unfold rename
  split
  · rename_i blocked
    exact .inl ⟨blocked, rfl⟩
  · rename_i clear
    exact .inr ⟨clear, rfl⟩

end FileTree

end ObjectTransfer
