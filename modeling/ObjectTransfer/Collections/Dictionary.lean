/-!
# Dictionaries

A dictionary maps texts to values and keeps its entries in the order of their keys, each key once.
So two dictionaries with the same entries are the same value: `ext_get?` says that looking up
decides equality. `insert` replaces an earlier entry, and `get?_insert` says what is found after.
-/

set_option autoImplicit false

namespace ObjectTransfer

/-- Entries in the order of their keys, each key once. -/
def Ordered {α : Type} (entries : List (String × α)) : Prop :=
  entries.Pairwise fun earlier later => earlier.1 < later.1

/-- Puts an entry at its place, instead of an entry with the same key. -/
def insertEntry {α : Type} (key : String) (value : α) :
    List (String × α) → List (String × α)
  | [] => [(key, value)]
  | entry :: rest =>
    if key < entry.1 then (key, value) :: entry :: rest
    else if key = entry.1 then (key, value) :: rest
    else entry :: insertEntry key value rest

def findEntry {α : Type} (key : String) : List (String × α) → Option α
  | [] => none
  | entry :: rest => if key = entry.1 then some entry.2 else findEntry key rest

theorem mem_insertEntry {α : Type} (key : String) (value : α) (entries : List (String × α))
    (entry : String × α) (inside : entry ∈ insertEntry key value entries) :
    entry = (key, value) ∨ entry ∈ entries := by
  induction entries with
  | nil => simpa [insertEntry] using inside
  | cons first rest ih =>
    simp only [insertEntry] at inside
    split at inside
    · simpa using inside
    · split at inside
      · rcases List.mem_cons.mp inside with same | later
        · exact .inl same
        · exact .inr (List.mem_cons_of_mem _ later)
      · rcases List.mem_cons.mp inside with same | later
        · exact .inr (by simp [same])
        · rcases ih later with same | older
          · exact .inl same
          · exact .inr (List.mem_cons_of_mem _ older)

theorem lt_of_not_lt_of_ne {first second : String} (notLess : ¬ first < second)
    (different : first ≠ second) : second < first := by
  apply Classical.byContradiction
  intro notGreater
  exact different (String.le_antisymm (String.not_lt.mp notGreater) (String.not_lt.mp notLess))

theorem ordered_insertEntry {α : Type} (key : String) (value : α) (entries : List (String × α))
    (ordered : Ordered entries) : Ordered (insertEntry key value entries) := by
  induction entries with
  | nil => simp [Ordered, insertEntry]
  | cons first rest ih =>
    have parts := List.pairwise_cons.mp ordered
    simp only [insertEntry]
    split
    · rename_i less
      refine List.pairwise_cons.mpr ⟨?_, ordered⟩
      intro entry inside
      rcases List.mem_cons.mp inside with same | later
      · simpa [same] using less
      · exact String.lt_trans less (parts.1 entry later)
    · split
      · rename_i same
        exact List.pairwise_cons.mpr ⟨fun entry later => same ▸ parts.1 entry later, parts.2⟩
      · rename_i notLess different
        refine List.pairwise_cons.mpr ⟨?_, ih parts.2⟩
        intro entry inside
        rcases mem_insertEntry key value rest entry inside with same | later
        · simpa [same] using lt_of_not_lt_of_ne notLess different
        · exact parts.1 entry later

theorem findEntry_insertEntry {α : Type} (key other : String) (value : α)
    (entries : List (String × α)) :
    findEntry other (insertEntry key value entries) =
      if other = key then some value else findEntry other entries := by
  induction entries with
  | nil => simp [insertEntry, findEntry]
  | cons first rest ih =>
    simp only [insertEntry]
    split
    · simp [findEntry]
    · split
      · rename_i same
        by_cases here : other = key <;> simp [findEntry, here, ← same]
      · rename_i different
        simp only [findEntry, ih]
        by_cases here : other = key
        · simp [here, different]
        · simp [here]

theorem findEntry_of_mem {α : Type} (entries : List (String × α)) (ordered : Ordered entries)
    (entry : String × α) (inside : entry ∈ entries) :
    findEntry entry.1 entries = some entry.2 := by
  induction entries with
  | nil => simp at inside
  | cons first rest ih =>
    have parts := List.pairwise_cons.mp ordered
    rcases List.mem_cons.mp inside with same | later
    · simp [findEntry, same]
    · have less := parts.1 entry later
      have different : entry.1 ≠ first.1 := fun same => by
        rw [same] at less
        exact String.lt_irrefl _ less
      simp [findEntry, different, ih parts.2 later]

theorem mem_of_findEntry {α : Type} (entries : List (String × α)) (key : String) (value : α)
    (found : findEntry key entries = some value) : (key, value) ∈ entries := by
  induction entries with
  | nil => simp [findEntry] at found
  | cons first rest ih =>
    simp only [findEntry] at found
    split at found
    · rename_i same
      rw [same, ← Option.some.inj found]
      simp
    · exact List.mem_cons_of_mem _ (ih found)

theorem ordered_ext {α : Type} (left right : List (String × α)) (leftOrdered : Ordered left)
    (rightOrdered : Ordered right)
    (same : ∀ key, findEntry key left = findEntry key right) : left = right := by
  induction left generalizing right with
  | nil =>
    cases right with
    | nil => rfl
    | cons entry rest =>
      have found := same entry.1
      simp [findEntry] at found
  | cons first rest ih =>
    cases right with
    | nil =>
      have found := same first.1
      simp [findEntry] at found
    | cons other more =>
      have leftParts := List.pairwise_cons.mp leftOrdered
      have rightParts := List.pairwise_cons.mp rightOrdered
      have firstInside : (first.1, first.2) ∈ other :: more :=
        mem_of_findEntry _ _ _ (by rw [← same first.1]; simp [findEntry])
      have otherInside : (other.1, other.2) ∈ first :: rest :=
        mem_of_findEntry _ _ _ (by rw [same other.1]; simp [findEntry])
      have equal : first = other := by
        rcases List.mem_cons.mp firstInside with same | later
        · exact same
        · rcases List.mem_cons.mp otherInside with back | earlier
          · exact back.symm
          · exact absurd (String.lt_trans (rightParts.1 _ later) (leftParts.1 _ earlier))
              (String.lt_irrefl _)
      subst equal
      congr 1
      refine ih more leftParts.2 rightParts.2 fun key => ?_
      by_cases here : key = first.1
      · have none_left : findEntry key rest = none := by
          cases found : findEntry key rest with
          | none => rfl
          | some value =>
            have less := leftParts.1 _ (mem_of_findEntry _ _ _ found)
            rw [here] at less
            exact absurd less (String.lt_irrefl _)
        have none_right : findEntry key more = none := by
          cases found : findEntry key more with
          | none => rfl
          | some value =>
            have less := rightParts.1 _ (mem_of_findEntry _ _ _ found)
            rw [here] at less
            exact absurd less (String.lt_irrefl _)
        rw [none_left, none_right]
      · have step := same key
        simpa [findEntry, here] using step

structure Dictionary (α : Type) where
  entries : List (String × α)
  ordered : Ordered entries

namespace Dictionary
variable {α : Type}

instance [DecidableEq α] : DecidableEq (Dictionary α) := fun left right =>
  if same : left.entries = right.entries then
    .isTrue (by cases left; cases right; simpa using same)
  else .isFalse fun equal => same (congrArg entries equal)

def empty : Dictionary α := ⟨[], List.Pairwise.nil⟩

instance : Inhabited (Dictionary α) := ⟨empty⟩

instance : EmptyCollection (Dictionary α) := ⟨empty⟩

def get? (dictionary : Dictionary α) (key : String) : Option α :=
  findEntry key dictionary.entries

def insert (dictionary : Dictionary α) (key : String) (value : α) : Dictionary α :=
  ⟨insertEntry key value dictionary.entries, ordered_insertEntry _ _ _ dictionary.ordered⟩

def update (dictionary : Dictionary α) (key : String) (fresh : α) (change : α → α) :
    Dictionary α :=
  dictionary.insert key (change ((dictionary.get? key).getD fresh))

def isEmpty (dictionary : Dictionary α) : Bool := dictionary.entries.isEmpty

/-- The last of several entries with one key wins. -/
def ofList (entries : List (String × α)) : Dictionary α :=
  entries.foldl (fun dictionary entry => dictionary.insert entry.1 entry.2) empty

def toList (dictionary : Dictionary α) : List (String × α) := dictionary.entries

@[simp] theorem get?_empty (key : String) : (empty : Dictionary α).get? key = none := rfl

@[simp] theorem get?_insert (dictionary : Dictionary α) (key other : String) (value : α) :
    (dictionary.insert key value).get? other =
      if other = key then some value else dictionary.get? other :=
  findEntry_insertEntry key other value dictionary.entries

@[simp] theorem get?_update (dictionary : Dictionary α) (key other : String) (fresh : α)
    (change : α → α) :
    (dictionary.update key fresh change).get? other =
      if other = key then some (change ((dictionary.get? key).getD fresh))
      else dictionary.get? other := by
  simp [update]

theorem ext_get? (left right : Dictionary α) (same : ∀ key, left.get? key = right.get? key) :
    left = right := by
  obtain ⟨leftEntries, leftOrdered⟩ := left
  obtain ⟨rightEntries, rightOrdered⟩ := right
  have equal := ordered_ext leftEntries rightEntries leftOrdered rightOrdered same
  subst equal
  rfl

theorem get?_of_mem (dictionary : Dictionary α) (entry : String × α)
    (inside : entry ∈ dictionary.toList) : dictionary.get? entry.1 = some entry.2 :=
  findEntry_of_mem _ dictionary.ordered entry inside

theorem ofList_toList (dictionary : Dictionary α) : ofList dictionary.toList = dictionary := by
  obtain ⟨entries, ordered⟩ := dictionary
  apply ext_get?
  intro key
  suffices general : ∀ (rest : List (String × α)) (start : Dictionary α), Ordered rest →
      (rest.foldl (fun dictionary entry => dictionary.insert entry.1 entry.2) start).get? key =
        (findEntry key rest).or (start.get? key) by
    have whole := general entries empty ordered
    simpa [ofList, toList, get?, empty, findEntry] using whole
  intro rest
  induction rest with
  | nil => intro start _; rfl
  | cons entry more ih =>
    intro start sorted
    have parts := List.pairwise_cons.mp sorted
    rw [List.foldl_cons, ih _ parts.2, get?_insert]
    by_cases here : key = entry.1
    · have missing : findEntry key more = none := by
        cases found : findEntry key more with
        | none => rfl
        | some value =>
          have less := parts.1 _ (mem_of_findEntry _ _ _ found)
          rw [here] at less
          exact absurd less (String.lt_irrefl _)
      rw [missing]
      simp [findEntry, here]
    · simp [findEntry, here]

theorem isEmpty_iff (dictionary : Dictionary α) : dictionary.isEmpty = true ↔ dictionary = empty := by
  obtain ⟨entries, ordered⟩ := dictionary
  cases entries with
  | nil => simp [isEmpty, empty]
  | cons entry rest =>
    refine ⟨fun none => by simp [isEmpty] at none, fun same => ?_⟩
    exact absurd (congrArg Dictionary.entries same) (by simp [empty])

end Dictionary

end ObjectTransfer
