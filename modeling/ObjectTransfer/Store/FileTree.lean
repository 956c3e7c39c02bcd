import ObjectTransfer.Collections.Table
import ObjectTransfer.Encoding.Utf8
import ObjectTransfer.Text.Pieces

/-!
# A tree of files

A path is a list of names, and the empty path is the directory that the tree hangs from, which is
made with the first directory below it. A path is followed name by name, so an error is the one of
the first name that is in the way: too long, not there, or a file where a directory is needed. The
name `..` leads back to the directory above, but only where there is a directory to lead back from;
what lies above the tree is kept apart from it. A path that no system takes, because it is too long
as a whole or has a zero in it, is not followed at all.

Making directories, writing, renaming and removing change the tree as they do on a system with the
usual rules.
-/

set_option autoImplicit false

namespace ObjectTransfer

abbrev FilePath := List String

inductive FileNode where
  | directory
  | file (content : Octets)
  deriving DecidableEq, Repr

/-- The nodes under their paths. A path is kept with its length, which tells most paths apart before
any name is compared. -/
abbrev FileTree := Table (Nat × FilePath) FileNode

inductive FileFault where
  | notFound
  | alreadyThere
  | notDirectory
  | isDirectory
  | nameTooLong
  | zeroInName
  deriving DecidableEq, Repr

def FileFault.message : FileFault → String
  | .notFound => "No such file or directory (os error 2)"
  | .alreadyThere => "File exists (os error 17)"
  | .notDirectory => "Not a directory (os error 20)"
  | .isDirectory => "Is a directory (os error 21)"
  | .nameTooLong => "File name too long (os error 36)"
  | .zeroInName => "file name contained an unexpected NUL byte"

/-! ## Paths -/

namespace FilePath

def parentName : String := ".."

/-- The path of the directory above; above the tree the names count the directories passed. -/
def above (path : FilePath) : FilePath :=
  if path.all (· == parentName) then path ++ [parentName] else path.dropLast

def enter (path : FilePath) (name : String) : FilePath :=
  if name = parentName then above path else path ++ [name]

/-- Where a path leads, if all of its directories are there. -/
def settled (path : FilePath) : FilePath := path.foldl enter []

def longestName : Nat := 255

/-- The longest path, in octets. The path of the tree itself takes some of what a system allows. -/
def longestPath : Nat := 4064

def size (path : FilePath) : Nat :=
  path.foldl (fun sum name => sum + (Utf8.encode name).length + 1) 0

def fault? (path : FilePath) : Option FileFault :=
  if path.any fun name => name.toList.contains '\x00' then some .zeroInName
  else if longestPath < size path then some .nameTooLong
  else none

def isTooLong (name : String) : Bool := longestName < (Utf8.encode name).length

def key (path : FilePath) : Nat × FilePath := (path.length, path)

end FilePath

/-! ## Nodes -/

namespace FileTree

/-- The directories above the tree are always there. -/
def node? (tree : FileTree) (path : FilePath) : Option FileNode :=
  if path ≠ [] ∧ path.all (· == FilePath.parentName) then some .directory
  else tree.get? (FilePath.key path)

def follow (tree : FileTree) (base : FilePath) : FilePath → Except FileFault FileNode
  | [] => .ok .directory
  | name :: rest =>
    if FilePath.isTooLong name then .error .nameTooLong
    else
      let here := FilePath.enter base name
      match tree.node? here with
      | none => .error .notFound
      | some .directory => follow tree here rest
      | some (.file content) => if rest = [] then .ok (.file content) else .error .notDirectory

def find (tree : FileTree) (path : FilePath) : Except FileFault FileNode :=
  match FilePath.fault? path with
  | some fault => .error fault
  | none => if tree.node? [] = none then .error .notFound else tree.follow [] path

/-- Makes the directories of a path that are not there yet, followed from a directory. Those before
the first error are made all the same. -/
def makeFrom (tree : FileTree) (base : FilePath) : FilePath → FileTree × Except FileFault Unit
  | [] => (tree, .ok ())
  | name :: rest =>
    if FilePath.isTooLong name then (tree, .error .nameTooLong)
    else
      let here := FilePath.enter base name
      match tree.node? here with
      | none => makeFrom (tree.put (FilePath.key here) .directory) here rest
      | some .directory => makeFrom tree here rest
      | some (.file _) => (tree, .error (if rest = [] then .alreadyThere else .notDirectory))

def makeDirectories (tree : FileTree) (path : FilePath) : FileTree × Except FileFault Unit :=
  match FilePath.fault? path with
  | some fault => (tree, .error fault)
  | none => makeFrom (tree.put (FilePath.key []) .directory) [] path

def create (tree : FileTree) (directory : FilePath) (name : String) :
    FileTree × Except FileFault Unit :=
  match FilePath.fault? (directory ++ [name]) with
  | some fault => (tree, .error fault)
  | none =>
    if FilePath.isTooLong name then (tree, .error .nameTooLong)
    else (tree.put (FilePath.key (FilePath.settled directory ++ [name])) (.file []), .ok ())

def write (tree : FileTree) (path : FilePath) (content : Octets) : FileTree :=
  tree.put (FilePath.key (FilePath.settled path)) (.file content)

def remove (tree : FileTree) (path : FilePath) : FileTree :=
  tree.erase (FilePath.key (FilePath.settled path))

/-- Gives a file another name in its directory; a directory of that name is in the way. -/
def rename (tree : FileTree) (source target : FilePath) (content : Octets) :
    FileTree × Except FileFault Unit :=
  match tree.node? (FilePath.settled target) with
  | some .directory => (tree, .error .isDirectory)
  | _ => ((tree.remove source).write target content, .ok ())

end FileTree

end ObjectTransfer
