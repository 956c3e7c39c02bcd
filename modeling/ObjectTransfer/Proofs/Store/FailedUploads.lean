import Mathlib.Control.Monad.Basic
import ObjectTransfer.Proofs.Control.Stepping
import ObjectTransfer.Proofs.Store.FileEffects
import ObjectTransfer.Store.Files

/-!
# What a failed upload leaves behind

An upload to a file that does not go through leaves every file as it was, at
whatever step it fails, with one exception: if the content arrived as a whole
and a directory is where the object should be, the unfinished file keeps the
content and stays beside that directory.

The statement is about worlds that earlier uploads led to.  Their files have
names that an object can have, or names of unfinished uploads before this one.
So the unfinished file of an upload is a new one, and taking it away again loses
nothing.
-/

set_option autoImplicit false

namespace ObjectTransfer

namespace FileStore

/-! ## Names -/

theorem partialName_reverse (files : FileStore) (oid : String) (upload : Nat) :
    ∃ rest, (files.partialName oid upload).toList.reverse =
      ".part".toList.reverse ++ ((Nat.toDigits 10 upload).reverse ++ '.' :: rest) := by
  refine ⟨("." ++ oid ++ "." ++ toString files.process).toList.reverse, ?_⟩
  simp [partialName, String.toList_append, Nat.toString_eq_repr, Nat.toList_repr]

theorem point_not_mem_digits (upload : Nat) : '.' ∉ (Nat.toDigits 10 upload).reverse := by
  intro inside
  have digit := Nat.isDigit_of_mem_toDigits (by decide) (by decide) (List.mem_reverse.mp inside)
  cases digit

/-- Two unfinished uploads of one name are the same upload, whichever store they belong to. -/
theorem upload_eq_of_partialName_eq (files others : FileStore) (oid other : String)
    (upload earlier : Nat)
    (same : files.partialName oid upload = others.partialName other earlier) :
    upload = earlier := by
  obtain ⟨rest, name⟩ := partialName_reverse files oid upload
  obtain ⟨more, title⟩ := partialName_reverse others other earlier
  rw [same, title] at name
  have tails := List.append_cancel_left name
  have cuts := congrArg (Text.cut? '.') tails
  rw [Text.cut_append _ _ _ (point_not_mem_digits earlier),
    Text.cut_append _ _ _ (point_not_mem_digits upload)] at cuts
  have digits : (Nat.toDigits 10 earlier).reverse = (Nat.toDigits 10 upload).reverse := by
    simpa using congrArg (Option.map Prod.fst) cuts
  calc upload = Nat.ofDigitChars 10 (Nat.toDigits 10 upload) 0 := by simp
    _ = Nat.ofDigitChars 10 (Nat.toDigits 10 earlier) 0 := by rw [List.reverse_inj.mp digits]
    _ = earlier := by simp

theorem partialName_head (files : FileStore) (oid : String) (upload : Nat) :
    (files.partialName oid upload).toList.head? = some '.' := by
  simp [partialName, String.toList_append]

theorem partialName_ne_parentName (files : FileStore) (oid : String) (upload : Nat) :
    files.partialName oid upload ≠ FilePath.parentName := by
  intro same
  obtain ⟨rest, name⟩ := partialName_reverse files oid upload
  rw [same] at name
  cases congrArg List.head? name

theorem path_eq_ok (files : FileStore) (place oid : String) (path : FilePath)
    (named : files.path place oid = .ok path) :
    path = path.dropLast ++ [oid] ∧ oid.toList.head? ≠ some '.' := by
  simp only [FileStore.path] at named
  split at named
  · cases named
  · rename_i clear
    cases named
    have fine : isRefused oid = false := by
      simpa using List.find?_eq_none.mp clear oid (by simp [segments])
    constructor
    · simp [segments, ← List.append_assoc]
    · intro pointed
      simp [isRefused, pointed] at fine

theorem path_eq_error (files : FileStore) (place oid : String) (error : StoreFailure)
    (refused : files.path place oid = .error error) : ∃ segment, error = refusal segment := by
  simp only [FileStore.path] at refused
  split at refused
  · rename_i segment _
    cases refused
    exact ⟨segment, rfl⟩
  · cases refused

/-! ## How an upload ends -/

def unfinishedPath (files : FileStore) (oid : String) (path : FilePath) (upload : Nat) : FilePath :=
  path.dropLast ++ [files.partialName oid upload]

/-- The ways that an upload with a proper path can end, each with all that it does to the files:
nothing was written, the content broke off and was thrown away, it was left in the unfinished file,
or it became the object. -/
inductive Ending (unfinished path : FilePath) (content : Content) (before after : FileWorld) :
    Except StoreFailure Unit → Prop
  | unwritten (fault : FileFault) (other : fault ≠ .isDirectory)
      (counted : before.uploads ≤ after.uploads)
      (files : ∀ p, after.tree.fileAt p = before.tree.fileAt p) :
      Ending unfinished path content before after (.error (io fault))
  | brokenOff (error : StoreFailure) (broken : content.joined = .error error)
      (counted : after.uploads = before.uploads + 1)
      (files : ∀ p, after.tree.fileAt p =
        if unfinished.settled = p then none else before.tree.fileAt p) :
      Ending unfinished path content before after (.error error)
  | unnamed (octets : Octets) (whole : content.joined = .ok octets)
      (blocked : after.tree.node? path.settled = some .directory)
      (counted : after.uploads = before.uploads + 1)
      (files : ∀ p, after.tree.fileAt p =
        if unfinished.settled = p then some octets else before.tree.fileAt p) :
      Ending unfinished path content before after (.error (io .isDirectory))
  | stored (octets : Octets) (whole : content.joined = .ok octets)
      (counted : after.uploads = before.uploads + 1)
      (files : ∀ p, after.tree.fileAt p =
        if path.settled = p then some octets
        else if unfinished.settled = p then none else before.tree.fileAt p) :
      Ending unfinished path content before after (.ok ())

theorem change_apply (act : FileTree → FileTree × Except FileFault Unit) (world : FileWorld) :
    change act world =
      ((act world.tree).2.mapError io, { world with tree := (act world.tree).1 }) := by
  unfold change
  rcases act world.tree with ⟨tree, outcome⟩
  cases outcome <;> rfl

theorem put_apply (files : FileStore) (place oid : String) (content : Content)
    (world : FileWorld) (path : FilePath) (named : files.path place oid = .ok path) :
    files.put place oid content world =
      let made := world.tree.makeDirectories path.dropLast
      match made.2 with
      | .error fault => (.error (io fault), ⟨made.1, world.uploads⟩)
      | .ok () =>
        let unfinished := files.unfinishedPath oid path world.uploads
        let created := made.1.create path.dropLast (files.partialName oid world.uploads)
        match created.2, content.joined with
        | .error fault, _ => (.error (io fault), ⟨created.1, world.uploads + 1⟩)
        | .ok (), .error error => (.error error, ⟨created.1.remove unfinished, world.uploads + 1⟩)
        | .ok (), .ok octets =>
          let renamed := (created.1.write unfinished octets).rename unfinished path octets
          (renamed.2.mapError io, ⟨renamed.1, world.uploads + 1⟩) := by
  have resolved : files.resolve place oid world = (.ok path, world) := by
    simp only [resolve, named]
    rfl
  simp only [put, Step.bind_apply, resolved, change_apply]
  cases (world.tree.makeDirectories path.dropLast).2 with
  | error fault => rfl
  | ok _ =>
    simp only [Except.mapError, nextUpload, unfinishedPath]
    cases (FileTree.create _ path.dropLast (files.partialName oid world.uploads)).2 with
    | error fault => rfl
    | ok _ =>
      cases content.joined with
      | error error => rfl
      | ok octets =>
        change (modify _ >>= fun _ => change _ : Step FileWorld StoreFailure Unit) _ = _
        rw [Step.bind_apply]
        exact change_apply _ _

theorem unfinishedPath_settled (files : FileStore) (oid : String) (path : FilePath)
    (upload : Nat) :
    (files.unfinishedPath oid path upload).settled =
      FilePath.settled path.dropLast ++ [files.partialName oid upload] :=
  FilePath.settled_append_name _ _ (partialName_ne_parentName files oid upload)

theorem ending_of_renamed (unfinished path : FilePath) (content : Content) (octets : Octets)
    (before : FileWorld) (written : FileTree) (whole : content.joined = .ok octets)
    (files : ∀ p, written.fileAt p =
      if unfinished.settled = p then some octets else before.tree.fileAt p) :
    let renamed := written.rename unfinished path octets
    Ending unfinished path content before ⟨renamed.1, before.uploads + 1⟩
      (renamed.2.mapError io) := by
  simp only [FileTree.rename]
  split
  · rename_i blocked
    exact .unnamed octets whole blocked rfl files
  · refine .stored octets whole rfl fun p => ?_
    rw [FileTree.fileAt_write, FileTree.fileAt_remove, files]
    split
    · rfl
    · split <;> rfl

theorem put_ending (files : FileStore) (place oid : String) (content : Content)
    (world : FileWorld) (path : FilePath) (named : files.path place oid = .ok path)
    (rooted : world.tree.fileAt [] = none) :
    Ending (files.unfinishedPath oid path world.uploads) path content world
      (files.put place oid content world).2 (files.put place oid content world).1 := by
  have kept := fun p => FileTree.fileAt_makeDirectories world.tree path.dropLast p rooted
  have calm := FileTree.makeDirectories_ne_isDirectory world.tree path.dropLast
  rw [put_apply files place oid content world path named]
  simp only
  generalize world.tree.makeDirectories path.dropLast = made at kept calm
  obtain ⟨tree, outcome⟩ := made
  cases outcome with
  | error fault => exact .unwritten fault (calm fault rfl) (Nat.le_refl _) kept
  | ok _ =>
    rcases tree.create_cases path.dropLast (files.partialName oid world.uploads) with
      ⟨fault, other, refused⟩ | ⟨-, -, created⟩
    · simp only [refused]
      exact .unwritten fault other (Nat.le_succ _) kept
    · simp only [created, ← unfinishedPath_settled]
      cases joined : content.joined with
      | error error =>
        refine .brokenOff error joined rfl fun p => ?_
        rw [FileTree.fileAt_remove, FileTree.fileAt_put, kept]
        split <;> rfl
      | ok octets =>
        refine ending_of_renamed _ path content octets world _ joined fun p => ?_
        rw [FileTree.fileAt_write, FileTree.fileAt_put, kept]
        split <;> rfl

/-! ## Worlds of uploads -/

/-- The names that files have after so many uploads: those of objects, which do not begin with a
point, and those of unfinished uploads among these. -/
def IsUsed (uploads : Nat) (name : String) : Prop :=
  name.toList.head? ≠ some '.' ∨
    ∃ (files : FileStore) (oid : String) (upload : Nat),
      upload < uploads ∧ name = files.partialName oid upload

theorem IsUsed.mono {uploads later : Nat} {name : String} (used : IsUsed uploads name)
    (counted : uploads ≤ later) : IsUsed later name := by
  rcases used with proper | ⟨files, oid, upload, earlier, same⟩
  · exact .inl proper
  · exact .inr ⟨files, oid, upload, Nat.lt_of_lt_of_le earlier counted, same⟩

theorem not_isUsed_partialName (files : FileStore) (oid : String) (uploads : Nat) :
    ¬ IsUsed uploads (files.partialName oid uploads) := by
  rintro (proper | ⟨others, other, upload, earlier, same⟩)
  · exact proper (partialName_head files oid uploads)
  · have := upload_eq_of_partialName_eq files others oid other uploads upload same
    omega

end FileStore

namespace FileWorld

/-- The worlds that uploads lead to from a tree with nothing in it.  Any store may have been used,
and uploads to other trees are counted as well. -/
inductive Reached : FileWorld → Prop
  | empty (uploads : Nat) : Reached ⟨[], uploads⟩
  | elsewhere (world : FileWorld) (more : Nat) (reached : Reached world) :
      Reached { world with uploads := world.uploads + more }
  | put (world : FileWorld) (files : FileStore) (place oid : String) (content : Content)
      (reached : Reached world) : Reached (files.put place oid content world).2

/-- Every file has a name of a kind that an earlier upload gave it. -/
def Orderly (world : FileWorld) : Prop :=
  ∀ path, world.tree.fileAt path ≠ none →
    ∃ directory name, path = directory ++ [name] ∧ FileStore.IsUsed world.uploads name

theorem Orderly.rooted {world : FileWorld} (orderly : world.Orderly) :
    world.tree.fileAt [] = none := by
  refine Classical.byContradiction fun present => ?_
  obtain ⟨directory, name, same, _⟩ := orderly [] present
  simp at same

/-- No file is where an upload now puts its unfinished file. -/
theorem Orderly.fresh {world : FileWorld} (orderly : world.Orderly) (files : FileStore)
    (oid : String) (path : FilePath) :
    world.tree.fileAt (files.unfinishedPath oid path world.uploads).settled = none := by
  refine Classical.byContradiction fun present => ?_
  obtain ⟨directory, name, same, used⟩ := orderly _ present
  rw [FileStore.unfinishedPath_settled] at same
  obtain ⟨_, last⟩ := List.append_inj' same rfl
  cases last
  exact FileStore.not_isUsed_partialName files oid world.uploads used

theorem Orderly.named {world : FileWorld} (orderly : world.Orderly) {later : Nat}
    (counted : world.uploads ≤ later) {path : FilePath} (present : world.tree.fileAt path ≠ none) :
    ∃ directory name, path = directory ++ [name] ∧ FileStore.IsUsed later name := by
  obtain ⟨directory, name, same, used⟩ := orderly path present
  exact ⟨directory, name, same, used.mono counted⟩

theorem Orderly.ending {before after : FileWorld} {files : FileStore} {oid : String}
    {path : FilePath} {content : Content} {outcome : Except StoreFailure Unit}
    (orderly : before.Orderly) (last : path = path.dropLast ++ [oid])
    (proper : oid.toList.head? ≠ some '.')
    (ending : FileStore.Ending (files.unfinishedPath oid path before.uploads) path content
      before after outcome) : after.Orderly := by
  intro p present
  cases ending with
  | unwritten fault other counted files =>
    rw [files] at present
    exact orderly.named counted present
  | brokenOff error broken counted files =>
    rw [files] at present
    split at present
    · exact absurd rfl present
    · exact orderly.named (by omega) present
  | unnamed octets whole blocked counted left =>
    rw [left] at present
    split at present
    · rename_i same
      refine ⟨_, _, same.symm.trans (FileStore.unfinishedPath_settled files oid path _), ?_⟩
      exact .inr ⟨files, oid, before.uploads, by omega, rfl⟩
    · exact orderly.named (by omega) present
  | stored octets whole counted found =>
    rw [found] at present
    split at present
    · rename_i same
      have down : oid ≠ FilePath.parentName := by
        rintro rfl
        exact proper rfl
      rw [last, FilePath.settled_append_name _ _ down] at same
      exact ⟨_, _, same.symm, .inl proper⟩
    · split at present
      · exact absurd rfl present
      · exact orderly.named (by omega) present

end FileWorld

namespace FileStore

theorem put_refused (files : FileStore) (place oid : String) (content : Content)
    (world : FileWorld) (error : StoreFailure) (refused : files.path place oid = .error error) :
    files.put place oid content world = (.error error, world) := by
  have resolved : files.resolve place oid world = (.error error, world) := by
    simp only [resolve, refused]
    rfl
  simp only [put, Step.bind_apply, resolved]

theorem orderly_put (files : FileStore) (place oid : String) (content : Content)
    (world : FileWorld) (orderly : world.Orderly) :
    (files.put place oid content world).2.Orderly := by
  cases named : files.path place oid with
  | error error => rwa [put_refused files place oid content world error named]
  | ok path =>
    obtain ⟨last, proper⟩ := path_eq_ok files place oid path named
    exact orderly.ending last proper
      (put_ending files place oid content world path named orderly.rooted)

end FileStore

theorem FileWorld.Reached.orderly {world : FileWorld} (reached : world.Reached) :
    world.Orderly := by
  induction reached with
  | empty uploads =>
    intro path present
    exact absurd rfl present
  | elsewhere world more _ ih => exact fun _ present => ih.named (Nat.le_add_right _ _) present
  | put world files place oid content _ ih =>
    exact FileStore.orderly_put files place oid content world ih

namespace FileStore

/-! ## Failed uploads -/

theorem io_inj {fault other : FileFault} : io fault = io other ↔ fault = other := by
  cases fault <;> cases other <;> decide

/-- The whole content is in an unfinished file, where no file was before, and in no other, because
a directory is where the object should be. -/
def Stranded (files : FileStore) (place oid : String) (content : Content)
    (before after : FileWorld) : Prop :=
  ∃ path octets, files.path place oid = .ok path ∧ content.joined = .ok octets ∧
    after.tree.node? path.settled = some .directory ∧
    let unfinished := (files.unfinishedPath oid path before.uploads).settled
    before.tree.fileAt unfinished = none ∧
    ∀ p, after.tree.fileAt p = if unfinished = p then some octets else before.tree.fileAt p

/-- A failed upload leaves every file as it was, unless the content arrived as a whole and a
directory was in the way. -/
theorem put_error_files (files : FileStore) (place oid : String) (content : Content)
    (world after : FileWorld) (error : StoreFailure) (reached : world.Reached)
    (failed : files.put place oid content world = (.error error, after)) :
    if content.joined.toBool ∧ error = io .isDirectory
    then files.Stranded place oid content world after
    else ∀ p, after.tree.fileAt p = world.tree.fileAt p := by
  have orderly := reached.orderly
  cases named : files.path place oid with
  | error first =>
    rw [put_refused files place oid content world first named] at failed
    cases failed
    obtain ⟨segment, rfl⟩ := path_eq_error files place oid _ named
    rw [if_neg fun both => by cases both.2]
    exact fun _ => rfl
  | ok path =>
    have ending := put_ending files place oid content world path named orderly.rooted
    rw [failed] at ending
    cases ending with
    | unwritten fault other counted same =>
      rw [if_neg fun both => other (io_inj.mp both.2)]
      exact same
    | brokenOff error broken counted gone =>
      rw [if_neg fun both => by simp [broken, Except.toBool] at both]
      intro p
      rw [gone]
      split
      · rename_i same
        rw [← same, orderly.fresh]
      · rfl
    | unnamed octets whole blocked counted left =>
      rw [if_pos ⟨by simp [whole, Except.toBool], rfl⟩]
      exact ⟨path, octets, named, whole, blocked, orderly.fresh files oid path, left⟩

def nestedStore : FileStore := ⟨["objects"], 7, none⟩

def nestedWorld : FileWorld := (nestedStore.put "acme/widgets" "abc" [.ok [1]] ⟨[], 0⟩).2

theorem nestedWorld_reached : nestedWorld.Reached := .put _ _ _ _ _ (.empty 0)

/-- An upload that breaks off leaves nothing behind even where a directory would be in its way. -/
theorem put_error_files_broken_off :
    let content : Content := [.ok [2, 3], .error (.backend "client went away")]
    let uploaded := nestedStore.put "acme" "widgets" content nestedWorld
    nestedWorld.Reached ∧ uploaded.1 = .error (.backend "client went away") ∧
      uploaded.2.tree.node? ["objects", "acme", "widgets"] = some .directory ∧
      ∀ p, uploaded.2.tree.fileAt p = nestedWorld.tree.fileAt p := by
  intro content uploaded
  have failed : uploaded.1 = .error (.backend "client went away") := by decide +kernel
  have broken : content.joined.toBool = false := rfl
  have kept := put_error_files nestedStore "acme" "widgets" content nestedWorld uploaded.2 _
    nestedWorld_reached (Prod.ext failed rfl)
  rw [if_neg fun both => by simp [broken] at both] at kept
  exact ⟨nestedWorld_reached, failed, by decide +kernel, kept⟩

/-- A failed upload does not always leave the files as they were: here the whole content meets the
directory of another object, and an unfinished file stays. -/
theorem put_error_files_changed :
    ¬ ∀ (files : FileStore) (place oid : String) (content : Content) (world after : FileWorld)
        (error : StoreFailure), world.Reached →
        files.put place oid content world = (.error error, after) →
        ∀ p, after.tree.fileAt p = world.tree.fileAt p := by
  intro kept
  have failed : (nestedStore.put "acme" "widgets" [.ok [2]] nestedWorld).1 =
      .error (io .isDirectory) := by decide +kernel
  have changed :
      (nestedStore.put "acme" "widgets" [.ok [2]] nestedWorld).2.tree.fileAt
        ["objects", "acme", ".widgets.7.1.part"] ≠
      nestedWorld.tree.fileAt ["objects", "acme", ".widgets.7.1.part"] := by decide +kernel
  exact changed (kept nestedStore "acme" "widgets" [.ok [2]] nestedWorld _ _ nestedWorld_reached
    (Prod.ext failed rfl) _)

end FileStore

end ObjectTransfer
