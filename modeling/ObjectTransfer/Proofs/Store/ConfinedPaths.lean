import ObjectTransfer.Proofs.Store.StoredObjects

/-!
# Paths that stay below the root

A place and an id either have no path, because one of the names is refused, or
their path is the one of the root with the names of the place and the id behind
it.  None of these names leads anywhere but from a directory to something right
in it, so the path ends below the root, and as no name holds a slash the path
tells the place and the id.

An unfinished upload has a name that begins with a point, which no name of a
path does.  So whatever an upload does to the files, it does to the file of its
own object, or to a file that is not the one of any object.
-/

set_option autoImplicit false

namespace ObjectTransfer

namespace FileStore

/-- The name leads from a directory to something right in it. -/
structure LeadsDown (name : String) : Prop where
  notEmpty : name ≠ ""
  notHere : name ≠ "."
  notAbove : name ≠ ".."
  whole : ∀ separator ∈ ['/', '\\', '\x00'], separator ∉ name.toList

theorem isRefused_eq_false_iff (name : String) :
    isRefused name = false ↔ LeadsDown name ∧ name.toList.head? ≠ some '.' := by
  constructor
  · intro fine
    have unpointed := head?_of_not_isRefused fine
    refine ⟨⟨?_, ?_, ne_parentName_of_not_isRefused fine, ?_⟩, unpointed⟩
    · rintro rfl
      cases fine
    · rintro rfl
      exact unpointed rfl
    · simp only [isRefused, Bool.or_eq_false_iff, List.any_eq_false] at fine
      intro separator one inside
      simp only [List.mem_cons, List.not_mem_nil, or_false] at one
      exact fine.2 separator inside (by rcases one with rfl | rfl | rfl <;> rfl)
  · rintro ⟨down, unpointed⟩
    have clear : (name.toList.any fun c => c == '/' || c == '\\' || c == '\x00') = false := by
      rw [List.any_eq_false]
      intro c inside separator
      simp only [Bool.or_eq_true, beq_iff_eq, or_assoc] at separator
      exact down.whole c (by simpa using separator) inside
    simp [isRefused, down.notEmpty, unpointed, clear]

theorem not_leadsDown_of_isRefused {name : String} (refused : isRefused name = true) :
    ¬ LeadsDown name ∨ name.toList.head? = some '.' := by
  have unfit := mt (isRefused_eq_false_iff name).mpr (by simp [refused])
  by_cases pointed : name.toList.head? = some '.'
  · exact .inr pointed
  · exact .inl fun down => unfit ⟨down, pointed⟩

theorem IsAllowed.leadsDown {place oid : String} (allowed : IsAllowed place oid) :
    ∀ name ∈ segments place oid, LeadsDown name ∧ name.toList.head? ≠ some '.' :=
  fun name inside => (isRefused_eq_false_iff name).mp (allowed name inside)

/-- The path of an object never is the one of an unfinished upload, to this store or to another. -/
theorem settled_ne_unfinished {files others : FileStore} {place oid another : String}
    {path : FilePath} (named : files.path place oid = .ok path) (more : FilePath) (upload : Nat) :
    path.settled ≠ (others.unfinishedPath another more upload).settled := by
  obtain ⟨rfl, allowed⟩ := (files.path_eq_ok_iff place oid path).mp named
  rw [FilePath.settled_append_name _ _ (ne_parentName_of_not_isRefused allowed.last),
    unfinishedPath_settled]
  intro same
  obtain ⟨-, last⟩ := List.append_inj' same rfl
  exact ne_partialName allowed.last others another upload (List.singleton_inj.mp last)

theorem changed_of_put (files : FileStore) (place oid : String) (content : Content)
    (world : FileWorld) (rooted : world.tree.fileAt [] = none) (p : FilePath)
    (changed : (files.put place oid content world).2.tree.fileAt p ≠ world.tree.fileAt p) :
    ∃ path, files.path place oid = .ok path ∧
      (p = path.settled ∨ p = (files.unfinishedPath oid path world.uploads).settled) := by
  cases named : files.path place oid with
  | error error =>
    rw [put_refused files place oid content world error named] at changed
    exact absurd rfl changed
  | ok path =>
    refine ⟨path, rfl, ?_⟩
    have ending := put_ending files place oid content world path named rooted
    refine Classical.byContradiction fun neither => ?_
    obtain ⟨notObject, notUnfinished⟩ := not_or.mp neither
    apply changed
    generalize (files.put place oid content world).1 = outcome at ending
    cases ending with
    | unwritten fault other counted same => exact same p
    | brokenOff error broken counted gone => rw [gone, if_neg (Ne.symm notUnfinished)]
    | unnamed octets whole blocked counted left => rw [left, if_neg (Ne.symm notUnfinished)]
    | stored octets whole counted found =>
      rw [found, if_neg (Ne.symm notObject), if_neg (Ne.symm notUnfinished)]

/-- A path is refused as invalid, or it is the root with the names of the place and the id behind
it, all of which lead down.  Different objects have different paths, none of them is the one of an
unfinished upload, and an upload touches no file that is the one of another object. -/
theorem paths_confined (files : FileStore) :
    (∀ place oid,
      let names := Text.pieces '/' place ++ [oid]
      match files.path place oid with
      | .error error =>
        ∃ name ∈ names, (¬ LeadsDown name ∨ name.toList.head? = some '.') ∧
          error = .invalidObject ("Invalid object path segment: " ++ Text.quoted name)
      | .ok path =>
        path = files.root ++ names ∧ path.settled = files.root.settled ++ names ∧
          ∀ name ∈ names, LeadsDown name ∧ name.toList.head? ≠ some '.') ∧
    (∀ place oid other another path more,
      files.path place oid = .ok path → files.path other another = .ok more →
      path.settled = more.settled → place = other ∧ oid = another) ∧
    (∀ place oid path, files.path place oid = .ok path →
      ∀ (others : FileStore) (other another : String) (more : FilePath) (upload : Nat),
        others.path other another = .ok more →
        path.settled ≠ (others.unfinishedPath another more upload).settled) ∧
    ∀ (place oid : String) (content : Content) (world : FileWorld) (p : FilePath), world.Reached →
      (files.put place oid content world).2.tree.fileAt p ≠ world.tree.fileAt p →
      ∃ path, files.path place oid = .ok path ∧
        (p = path.settled ∨ p = (files.unfinishedPath oid path world.uploads).settled ∧
          ∀ other another more, files.path other another = .ok more → more.settled ≠ p) := by
  refine ⟨?shape, ?apart, ?unfinished, ?upload⟩
  case shape =>
    intro place oid names
    cases named : files.path place oid with
    | error error =>
      simp only [FileStore.path] at named
      split at named
      · rename_i name found
        cases named
        exact ⟨name, List.mem_of_find?_eq_some found,
          not_leadsDown_of_isRefused (List.find?_some found), rfl⟩
      · cases named
    | ok path =>
      obtain ⟨rfl, allowed⟩ := (files.path_eq_ok_iff place oid path).mp named
      refine ⟨?_, settled_path allowed files, allowed.leadsDown⟩
      rw [directory, List.append_assoc]
  case apart =>
    intro place oid other another path more named alsoNamed same
    obtain ⟨rfl, allowed⟩ := (files.path_eq_ok_iff place oid path).mp named
    obtain ⟨rfl, alsoAllowed⟩ := (files.path_eq_ok_iff other another more).mp alsoNamed
    rw [settled_path allowed, settled_path alsoAllowed] at same
    exact segments_inj.mp (List.append_cancel_left same)
  case unfinished =>
    intro place oid path named others other another more upload _
    exact settled_ne_unfinished named more upload
  case upload =>
    intro place oid content world p reached changed
    obtain ⟨path, named, own | unfinished⟩ :=
      changed_of_put files place oid content world reached.orderly.rooted p changed
    · exact ⟨path, named, .inl own⟩
    · refine ⟨path, named, .inr ⟨unfinished, fun other another more alsoNamed => ?_⟩⟩
      rw [unfinished]
      exact settled_ne_unfinished alsoNamed path world.uploads

theorem paths_confined_nested :
    let path := ["objects", "acme", "widgets", "abc"]
    nestedStore.path "acme/widgets" "abc" = .ok path ∧
      nestedStore.path "acme/widgets" "xyz" = .ok ["objects", "acme", "widgets", "xyz"] ∧
      nestedWorld.tree.fileAt path = some [1] ∧
      (nestedStore.put "acme/widgets" "xyz" [.ok [2]] nestedWorld).2.tree.fileAt path =
        some [1] := by
  intro path
  have named : nestedStore.path "acme/widgets" "abc" = .ok path := by decide +kernel
  have beside : nestedStore.path "acme/widgets" "xyz" =
      .ok ["objects", "acme", "widgets", "xyz"] := by decide +kernel
  have there : nestedWorld.tree.fileAt path = some [1] := by decide +kernel
  have settled : path = FilePath.settled path := by decide
  refine ⟨named, beside, there, Classical.byContradiction fun changed => ?_⟩
  obtain ⟨-, apart, -, upload⟩ := paths_confined nestedStore
  obtain ⟨other, alsoNamed, own | ⟨-, untouched⟩⟩ :=
    upload "acme/widgets" "xyz" [.ok [2]] nestedWorld path nestedWorld_reached (by rwa [there])
  · obtain ⟨-, same⟩ := apart _ _ _ _ path other named alsoNamed (settled.symm.trans own)
    exact absurd same (by decide)
  · exact untouched _ _ path named settled.symm

end FileStore

end ObjectTransfer
