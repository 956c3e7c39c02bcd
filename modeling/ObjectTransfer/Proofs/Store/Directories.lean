import ObjectTransfer.Proofs.Store.FileEffects

/-!
# The way through directories

A path is followed from directory to directory, and where it comes by are its
waypoints.  A way is free if nothing but directories is on it, even though some
may be missing; then its directories can be made, and this adds what is missing
and changes nothing else.  A file or a directory at the end of a free way is
found if the way is there, and otherwise nothing is found.

Whatever is on a way, making its directories never does more than to put some
where nothing was, and if no error comes up the whole way is there afterwards.
-/

set_option autoImplicit false

namespace ObjectTransfer

/-! ## Ways -/

namespace FilePath

/-- Where a path comes by when it is followed from a directory. -/
def waypoints (base : FilePath) : FilePath → List FilePath
  | [] => []
  | name :: rest => enter base name :: waypoints (enter base name) rest

theorem waypoints_append (path more base : FilePath) :
    waypoints base (path ++ more) = waypoints base path ++ waypoints (path.foldl enter base) more := by
  induction path generalizing base with
  | nil => rfl
  | cons name rest ih =>
    simp only [List.cons_append, waypoints, List.foldl_cons]
    rw [ih]

theorem enter_of_down (base : FilePath) (name : String) (down : name ≠ parentName) :
    enter base name = base ++ [name] := if_neg down

theorem length_enter (base : FilePath) (name : String) :
    (enter base name).length ≤ base.length + 1 := by
  unfold enter above
  split
  · split <;> simp; omega
  · simp

theorem length_of_mem_waypoints (path base place : FilePath) (inside : place ∈ waypoints base path) :
    place.length ≤ base.length + path.length := by
  induction path generalizing base with
  | nil => cases inside
  | cons name rest ih =>
    have once := length_enter base name
    simp only [List.length_cons]
    rcases List.mem_cons.mp inside with rfl | later
    · omega
    · have := ih _ later
      omega

theorem foldl_enter_of_down (path base : FilePath) (down : ∀ name ∈ path, name ≠ parentName) :
    path.foldl enter base = base ++ path := by
  induction path generalizing base with
  | nil => simp
  | cons name rest ih =>
    rw [List.foldl_cons, enter_of_down _ _ (down name List.mem_cons_self),
      ih _ fun later inside => down later (List.mem_cons_of_mem _ inside)]
    simp

theorem settled_of_down (path : FilePath) (down : ∀ name ∈ path, name ≠ parentName) :
    path.settled = path := foldl_enter_of_down path [] down

theorem settled_append_of_down (path more : FilePath) (down : ∀ name ∈ more, name ≠ parentName) :
    (path ++ more).settled = path.settled ++ more := by
  rw [settled, List.foldl_append, foldl_enter_of_down more _ down]
  rfl

/-- Going down, the waypoints are what the path begins with. -/
theorem mem_waypoints_of_down (path base place : FilePath)
    (down : ∀ name ∈ path, name ≠ parentName) :
    place ∈ waypoints base path ↔ ∃ front, front ≠ [] ∧ front <+: path ∧ place = base ++ front := by
  induction path generalizing base with
  | nil =>
    refine iff_of_false (by simp [waypoints]) ?_
    rintro ⟨front, some_name, begins, _⟩
    exact some_name (List.prefix_nil.mp begins)
  | cons name rest ih =>
    have here := enter_of_down base name (down name List.mem_cons_self)
    simp only [waypoints, List.mem_cons, here,
      ih _ fun later inside => down later (List.mem_cons_of_mem _ inside)]
    constructor
    · rintro (rfl | ⟨front, -, begins, rfl⟩)
      · exact ⟨[name], List.cons_ne_nil _ _, List.cons_prefix_cons.mpr ⟨rfl, List.nil_prefix⟩, rfl⟩
      · exact ⟨name :: front, List.cons_ne_nil _ _, List.cons_prefix_cons.mpr ⟨rfl, begins⟩,
          by simp⟩
    · rintro ⟨front, some_name, begins, rfl⟩
      obtain ⟨first, more, rfl⟩ := List.exists_cons_of_ne_nil some_name
      obtain ⟨rfl, further⟩ := List.cons_prefix_cons.mp begins
      by_cases ended : more = []
      · exact .inl (by rw [ended])
      · exact .inr ⟨more, ended, further, by simp⟩

def IsShort (path : FilePath) : Prop := ∀ name ∈ path, isTooLong name = false

def IsAbove (path : FilePath) : Prop := path ≠ [] ∧ path.all (· == parentName) = true

theorem not_isAbove_append_name (path : FilePath) (name : String) (down : name ≠ parentName) :
    ¬ IsAbove (path ++ [name]) := by
  rintro ⟨_, all⟩
  exact down (by simpa using List.all_eq_true.mp all name (by simp))

end FilePath

open FilePath (waypoints IsShort IsAbove)

namespace FileTree

/-! ## Nodes after a change -/

theorem node?_of_not_isAbove (tree : FileTree) (path : FilePath) (within : ¬ IsAbove path) :
    tree.node? path = tree.get? (FilePath.key path) := if_neg within

theorem not_isAbove_of_node?_eq_none (tree : FileTree) (path : FilePath)
    (missing : tree.node? path = none) : ¬ IsAbove path := by
  intro above
  have there : tree.node? path = some .directory := if_pos above
  rw [missing] at there
  cases there

theorem node?_put (tree : FileTree) (path other : FilePath) (node : FileNode)
    (within : ¬ IsAbove path) :
    node? (tree.put (FilePath.key path) node) other =
      if other = path then some node else tree.node? other := by
  by_cases same : other = path
  · subst same
    rw [node?_of_not_isAbove _ _ within, Table.get?_put, if_pos rfl, if_pos rfl]
  · have keys : FilePath.key path ≠ FilePath.key other :=
      fun equal => same (FilePath.key_inj.mp equal).symm
    rw [if_neg same, node?, node?, Table.get?_put, if_neg keys]

theorem node?_erase (tree : FileTree) (path other : FilePath) (within : ¬ IsAbove path) :
    node? (tree.erase (FilePath.key path)) other =
      if other = path then none else tree.node? other := by
  by_cases same : other = path
  · subst same
    rw [node?_of_not_isAbove _ _ within, Table.get?_erase, if_pos rfl, if_pos rfl]
  · have keys : FilePath.key path ≠ FilePath.key other :=
      fun equal => same (FilePath.key_inj.mp equal).symm
    rw [if_neg same, node?, node?, Table.get?_erase, if_neg keys]

/-! ## Following a way -/

/-- Nothing but directories is at these places, and maybe not even these. -/
def Free (tree : FileTree) (places : List FilePath) : Prop :=
  ∀ place ∈ places, tree.node? place = none ∨ tree.node? place = some .directory

def Has (tree : FileTree) (places : List FilePath) : Prop :=
  ∀ place ∈ places, tree.node? place = some .directory

theorem follow_of_has (tree : FileTree) (path more base : FilePath) (short : IsShort path)
    (has : tree.Has (waypoints base path)) :
    tree.follow base (path ++ more) = tree.follow (path.foldl FilePath.enter base) more := by
  induction path generalizing base with
  | nil => rfl
  | cons name rest ih =>
    have fits : FilePath.isTooLong name = false := short name List.mem_cons_self
    have here := has _ List.mem_cons_self
    simp only [List.cons_append, follow, fits, Bool.false_eq_true, if_false, here]
    exact ih _ (fun later inside => short later (List.mem_cons_of_mem _ inside))
      fun place inside => has place (List.mem_cons_of_mem _ inside)

theorem follow_of_not_has (tree : FileTree) (path more base : FilePath) (short : IsShort path)
    (free : tree.Free (waypoints base path)) (lacking : ¬ tree.Has (waypoints base path)) :
    tree.follow base (path ++ more) = .error .notFound := by
  induction path generalizing base with
  | nil => exact absurd (fun _ inside => by cases inside) lacking
  | cons name rest ih =>
    have fits : FilePath.isTooLong name = false := short name List.mem_cons_self
    simp only [List.cons_append, follow, fits, Bool.false_eq_true, if_false]
    rcases free _ List.mem_cons_self with missing | here
    · simp only [missing]
    · simp only [here]
      apply ih
      · exact fun later inside => short later (List.mem_cons_of_mem _ inside)
      · exact fun place inside => free place (List.mem_cons_of_mem _ inside)
      · intro has
        apply lacking
        intro place inside
        rcases List.mem_cons.mp inside with rfl | later
        · exact here
        · exact has place later

def way (directory : FilePath) : List FilePath := [] :: waypoints [] directory

theorem way_append (directory more : FilePath) :
    way (directory ++ more) = way directory ++ waypoints directory.settled more := by
  rw [way, FilePath.waypoints_append]
  rfl

theorem way_subset_append (directory more : FilePath) : way directory ⊆ way (directory ++ more) := by
  rw [way_append]
  exact List.subset_append_left _ _

section Find

variable {tree : FileTree} {directory : FilePath} {name : String}

theorem find_of_has (fine : FilePath.fault? (directory ++ [name]) = none)
    (short : IsShort directory) (fits : FilePath.isTooLong name = false)
    (down : name ≠ FilePath.parentName) (has : tree.Has (way directory)) :
    tree.find (directory ++ [name]) =
      match tree.node? (directory.settled ++ [name]) with
      | none => .error .notFound
      | some node => .ok node := by
  have hung : tree.node? [] ≠ none := by
    rw [has [] List.mem_cons_self]
    exact fun none => by cases none
  rw [find, fine]
  simp only [if_neg hung]
  rw [follow_of_has tree directory [name] [] short
    fun place inside => has place (List.mem_cons_of_mem _ inside)]
  simp only [follow, fits, Bool.false_eq_true, if_false, FilePath.enter_of_down _ name down,
    FilePath.settled]
  cases tree.node? (directory.foldl FilePath.enter [] ++ [name]) with
  | none => rfl
  | some node => cases node <;> rfl

theorem find_of_missing (fine : FilePath.fault? (directory ++ [name]) = none)
    (short : IsShort directory) (fits : FilePath.isTooLong name = false)
    (down : name ≠ FilePath.parentName) (free : tree.Free (way directory))
    (missing : tree.node? (directory.settled ++ [name]) = none) :
    tree.find (directory ++ [name]) = .error .notFound := by
  by_cases has : tree.Has (way directory)
  · rw [find_of_has fine short fits down has, missing]
  · rw [find, fine]
    by_cases hung : tree.node? [] = none
    · simp only [if_pos hung]
    · simp only [if_neg hung]
      apply follow_of_not_has tree directory [name] [] short
      · exact fun place inside => free place (List.mem_cons_of_mem _ inside)
      · intro rest
        apply has
        intro place inside
        rcases List.mem_cons.mp inside with rfl | later
        · exact (free [] List.mem_cons_self).resolve_left hung
        · exact rest place later

end Find

/-! ## Making directories -/

theorem makeFrom_of_free (path : FilePath) (tree : FileTree) (base : FilePath)
    (short : IsShort path) (free : tree.Free (waypoints base path)) :
    (tree.makeFrom base path).2 = .ok () ∧
      ∀ place, (tree.makeFrom base path).1.node? place =
        if place ∈ waypoints base path then some .directory else tree.node? place := by
  induction path generalizing tree base with
  | nil => exact ⟨rfl, fun place => by simp [makeFrom, waypoints]⟩
  | cons name rest ih =>
    have fits : FilePath.isTooLong name = false := short name List.mem_cons_self
    have shorter : IsShort rest := fun later inside => short later (List.mem_cons_of_mem _ inside)
    have onward : tree.Free (waypoints (FilePath.enter base name) rest) :=
      fun place inside => free place (List.mem_cons_of_mem _ inside)
    simp only [makeFrom, fits, Bool.false_eq_true, if_false]
    rcases free _ List.mem_cons_self with missing | here
    · simp only [missing]
      have nodes := fun place => node?_put tree (FilePath.enter base name) place .directory
        (not_isAbove_of_node?_eq_none tree _ missing)
      have still : Free (tree.put (FilePath.key (FilePath.enter base name)) .directory)
          (waypoints (FilePath.enter base name) rest) := by
        intro place inside
        rw [nodes]
        split
        · exact .inr rfl
        · exact onward place inside
      obtain ⟨made, after⟩ := ih _ _ shorter still
      refine ⟨made, fun place => ?_⟩
      rw [after, nodes]
      simp only [waypoints, List.mem_cons]
      by_cases first : place = FilePath.enter base name <;>
        by_cases later : place ∈ waypoints (FilePath.enter base name) rest <;>
        simp [first, later]
    · simp only [here]
      obtain ⟨made, after⟩ := ih tree _ shorter onward
      refine ⟨made, fun place => ?_⟩
      rw [after]
      simp only [waypoints, List.mem_cons]
      by_cases first : place = FilePath.enter base name <;>
        by_cases later : place ∈ waypoints (FilePath.enter base name) rest <;>
        simp [first, later, here]

theorem makeDirectories_of_free (tree : FileTree) (path : FilePath)
    (fine : FilePath.fault? path = none) (short : IsShort path) (free : tree.Free (way path)) :
    (tree.makeDirectories path).2 = .ok () ∧
      ∀ place, (tree.makeDirectories path).1.node? place =
        if place ∈ way path then some .directory else tree.node? place := by
  have hung := fun place => node?_put tree [] place .directory fun above => above.1 rfl
  have still : Free (tree.put (FilePath.key []) .directory) (waypoints [] path) := by
    intro place inside
    rw [hung]
    split
    · exact .inr rfl
    · exact free place (List.mem_cons_of_mem _ inside)
  obtain ⟨made, after⟩ := makeFrom_of_free path _ [] short still
  simp only [makeDirectories, fine]
  refine ⟨made, fun place => ?_⟩
  rw [after, hung]
  simp only [way, List.mem_cons]
  by_cases first : place = [] <;> by_cases later : place ∈ waypoints [] path <;>
    simp [first, later]

/-! ## Making some of the directories -/

/-- Directories were made at some of these places, where nothing was, and nothing else changed. -/
def Grown (before : FileTree) (places : List FilePath) (after : FileTree) : Prop :=
  ∀ place, after.node? place = before.node? place ∨
    place ∈ places ∧ before.node? place = none ∧ after.node? place = some .directory

namespace Grown

variable {before between after : FileTree} {places more : List FilePath}

theorem refl (tree : FileTree) (places : List FilePath) : tree.Grown places tree :=
  fun _ => .inl rfl

theorem mono (grown : before.Grown places after) (within : places ⊆ more) :
    before.Grown more after :=
  fun place => (grown place).imp id fun ⟨inside, rest⟩ => ⟨within inside, rest⟩

theorem trans (first : before.Grown places between) (second : between.Grown places after) :
    before.Grown places after := by
  intro place
  rcases first place with same | ⟨inside, missing, made⟩
  · have later := second place
    rwa [same] at later
  · rcases second place with kept | ⟨_, absent, _⟩
    · exact .inr ⟨inside, missing, kept.trans made⟩
    · rw [made] at absent
      cases absent

theorem kept (grown : before.Grown places after) {place : FilePath} {node : FileNode}
    (there : before.node? place = some node) : after.node? place = some node := by
  rcases grown place with same | ⟨_, missing, _⟩
  · rw [same, there]
  · rw [missing] at there
    cases there

theorem file (grown : before.Grown places after) {place : FilePath} {content : Octets}
    (there : after.node? place = some (.file content)) :
    before.node? place = some (.file content) := by
  rcases grown place with same | ⟨_, _, made⟩
  · rw [← same, there]
  · rw [made] at there
    cases there

theorem put_directory (tree : FileTree) (path : FilePath) (missing : tree.node? path = none) :
    tree.Grown [path] (tree.put (FilePath.key path) .directory) := by
  intro place
  rw [node?_put _ _ _ _ (not_isAbove_of_node?_eq_none tree path missing)]
  split
  · rename_i same
    exact .inr ⟨by simp [same], by rw [same, missing], rfl⟩
  · exact .inl rfl

end Grown

theorem grown_makeFrom (path : FilePath) (tree : FileTree) (base : FilePath) :
    tree.Grown (waypoints base path) (tree.makeFrom base path).1 := by
  induction path generalizing tree base with
  | nil => exact .refl tree _
  | cons name rest ih =>
    have first : [FilePath.enter base name] ⊆ waypoints base (name :: rest) := by
      simp [waypoints]
    have later : waypoints (FilePath.enter base name) rest ⊆ waypoints base (name :: rest) :=
      List.subset_cons_self _ _
    simp only [makeFrom]
    split
    · exact .refl tree _
    · split
      · rename_i missing
        exact ((Grown.put_directory tree _ missing).mono first).trans ((ih _ _).mono later)
      · exact (ih _ _).mono later
      · exact .refl tree _

/-- If no error comes up, the whole way is there. -/
theorem has_of_makeFrom (path : FilePath) (tree : FileTree) (base : FilePath)
    (made : (tree.makeFrom base path).2 = .ok ()) :
    IsShort path ∧ (tree.makeFrom base path).1.Has (waypoints base path) := by
  induction path generalizing tree base with
  | nil => simp [IsShort, Has, waypoints]
  | cons name rest ih =>
    have step : FilePath.isTooLong name = false → ∀ between : FileTree,
        between.node? (FilePath.enter base name) = some .directory →
        (between.makeFrom (FilePath.enter base name) rest).2 = .ok () →
        IsShort (name :: rest) ∧
          (between.makeFrom (FilePath.enter base name) rest).1.Has (waypoints base (name :: rest)) := by
      intro fits between here further
      obtain ⟨short, has⟩ := ih between _ further
      constructor
      · intro other inside
        rcases List.mem_cons.mp inside with rfl | later
        · exact fits
        · exact short other later
      · intro place inside
        rcases List.mem_cons.mp inside with rfl | later
        · exact (grown_makeFrom rest between _).kept here
        · exact has place later
    simp only [makeFrom] at made ⊢
    split at made
    · cases made
    · rename_i fits
      simp only [fits, Bool.false_eq_true, if_false]
      split at made
      · rename_i missing
        refine step (by simpa using fits) _ ?_ made
        rw [node?_put _ _ _ _ (not_isAbove_of_node?_eq_none tree _ missing), if_pos rfl]
      · rename_i here
        exact step (by simpa using fits) tree here made
      · split at made <;> cases made

theorem grown_makeDirectories (tree : FileTree) (path : FilePath)
    (hung : ∀ content, tree.node? [] ≠ some (.file content)) :
    tree.Grown (way path) (tree.makeDirectories path).1 := by
  unfold makeDirectories
  split
  · exact .refl tree _
  · refine Grown.trans ?_ ((grown_makeFrom path _ []).mono (List.subset_cons_self _ _))
    intro place
    rw [node?_put _ _ _ _ fun above => above.1 rfl]
    split
    · rename_i top
      subst top
      cases there : tree.node? [] with
      | none => exact .inr ⟨List.mem_cons_self, rfl, rfl⟩
      | some node =>
        cases node with
        | directory => exact .inl rfl
        | file content => exact absurd there (hung content)
    · exact .inl rfl

theorem has_of_makeDirectories (tree : FileTree) (path : FilePath)
    (made : (tree.makeDirectories path).2 = .ok ()) :
    IsShort path ∧ (tree.makeDirectories path).1.Has (way path) := by
  unfold makeDirectories at made ⊢
  split at made
  · cases made
  · obtain ⟨short, has⟩ := has_of_makeFrom path _ [] made
    refine ⟨short, fun place inside => ?_⟩
    rcases List.mem_cons.mp inside with rfl | further
    · refine (grown_makeFrom path _ []).kept ?_
      rw [node?_put _ _ _ _ fun above => above.1 rfl, if_pos rfl]
    · exact has place further

/-! ## What is found -/

theorem node?_of_follow (path : FilePath) (tree : FileTree) (base : FilePath) (node : FileNode)
    (some_name : path ≠ []) (found : tree.follow base path = .ok node) :
    tree.node? (path.foldl FilePath.enter base) = some node := by
  induction path generalizing base with
  | nil => exact absurd rfl some_name
  | cons name rest ih =>
    simp only [follow] at found
    split at found
    · cases found
    · split at found
      · cases found
      · rename_i here
        by_cases ended : rest = []
        · subst ended
          cases found
          exact here
        · exact ih _ ended found
      · rename_i content here
        split at found
        · rename_i ended
          subst ended
          cases found
          exact here
        · cases found

theorem node?_of_find (tree : FileTree) (path : FilePath) (node : FileNode) (some_name : path ≠ [])
    (found : tree.find path = .ok node) : tree.node? path.settled = some node := by
  unfold find at found
  split at found
  · cases found
  · split at found
    · cases found
    · exact node?_of_follow path tree [] node some_name found

end FileTree

end ObjectTransfer
