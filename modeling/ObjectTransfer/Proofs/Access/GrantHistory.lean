import Mathlib.Data.List.Induction
import ObjectTransfer.Access.Grants

/-!
# Grants as a history

A tree is built by grants in a row.  Here the row itself is asked: which
coordinates it knows, what was given at each of them, and which coordinate
decides a question.  The tree and the row give the same answers, so the order
of the levels inside the tree never shows.
-/

set_option autoImplicit false

namespace ObjectTransfer

theorem PermissionSet.contains_union_iff (first second : PermissionSet) (permission : Permission) :
    (first.union second).contains permission = true ↔
      first.contains permission = true ∨ second.contains permission = true := by
  rw [contains_union, Bool.or_eq_true]

/-- The grant gives this permission at just this coordinate. -/
def Grant.Gives (grant : Grant) (place : Coordinate) (permission : Permission) : Prop :=
  grant.place = place ∧ ∃ set, grant.permissions = some set ∧ set.contains permission = true

theorem Grant.gives_iff (grant : Grant) (place : Coordinate) (permission : Permission) :
    grant.Gives place permission ↔
      grant.place = place ∧
        (grant.permissions.getD PermissionSet.empty).contains permission = true := by
  unfold Gives
  cases grant.permissions <;> simp

abbrev GrantHistory := List Grant

namespace GrantHistory

/-- Some grant was made at exactly this coordinate, with permissions or without. -/
def Knows (history : GrantHistory) (place : Coordinate) : Prop :=
  ∃ grant ∈ history, grant.place = place

def NamesOrganization (history : GrantHistory) (organization : Option String) : Prop :=
  ∃ grant ∈ history, grant.place.organization = organization

def NamesRepository (history : GrantHistory) (organization repository : Option String) : Prop :=
  ∃ grant ∈ history,
    grant.place.organization = organization ∧ grant.place.repository = repository

instance (history : GrantHistory) (place : Coordinate) : Decidable (history.Knows place) :=
  inferInstanceAs (Decidable (∃ grant ∈ history, grant.place = place))

instance (history : GrantHistory) (organization : Option String) :
    Decidable (history.NamesOrganization organization) :=
  inferInstanceAs (Decidable (∃ grant ∈ history, grant.place.organization = organization))

instance (history : GrantHistory) (organization repository : Option String) :
    Decidable (history.NamesRepository organization repository) :=
  inferInstanceAs (Decidable (∃ grant ∈ history,
    grant.place.organization = organization ∧ grant.place.repository = repository))

/-- The union of the sets of permissions that were given at exactly this coordinate. -/
def given (history : GrantHistory) (place : Coordinate) : PermissionSet :=
  ((history.filter fun grant => grant.place = place).filterMap Grant.permissions).foldl
    PermissionSet.union PermissionSet.empty

/-- The coordinate whose permissions answer for an object of a repository. -/
def decidingPlace (history : GrantHistory) (organization repository : String)
    (oid : Option String) : Coordinate :=
  if ¬ history.NamesOrganization (some organization) then ⟨none, none, oid⟩
  else if ¬ history.NamesRepository (some organization) (some repository) then
    ⟨some organization, none, none⟩
  else if history.Knows ⟨some organization, some repository, oid⟩ then
    ⟨some organization, some repository, oid⟩
  else ⟨some organization, some repository, none⟩

/-! ## One more grant -/

theorem knows_concat (history : GrantHistory) (grant : Grant) (place : Coordinate) :
    Knows (history ++ [grant]) place ↔ history.Knows place ∨ grant.place = place := by
  simp [Knows, or_and_right, exists_or]

theorem namesOrganization_concat (history : GrantHistory) (grant : Grant)
    (organization : Option String) :
    NamesOrganization (history ++ [grant]) organization ↔
      history.NamesOrganization organization ∨ grant.place.organization = organization := by
  simp [NamesOrganization, or_and_right, exists_or]

theorem namesRepository_concat (history : GrantHistory) (grant : Grant)
    (organization repository : Option String) :
    NamesRepository (history ++ [grant]) organization repository ↔
      history.NamesRepository organization repository ∨
        grant.place.organization = organization ∧ grant.place.repository = repository := by
  simp [NamesRepository, or_and_right, exists_or]

theorem given_concat (history : GrantHistory) (grant : Grant) (place : Coordinate) :
    given (history ++ [grant]) place =
      if grant.place = place then
        (history.given place).union (grant.permissions.getD PermissionSet.empty)
      else history.given place := by
  obtain ⟨here, permissions⟩ := grant
  by_cases same : here = place
  · cases permissions with
    | none => simp [given, same, PermissionSet.union_empty]
    | some set => simp [given, same]
  · simp [given, same]

theorem contains_given (history : GrantHistory) (place : Coordinate) (permission : Permission) :
    (history.given place).contains permission = true ↔
      ∃ grant ∈ history, grant.Gives place permission := by
  induction history using List.reverseRecOn with
  | nil => simp [given]
  | append_singleton earlier grant ih =>
    rw [given_concat]
    by_cases here : grant.place = place <;>
      simp [here, Grant.gives_iff, or_and_right, exists_or, ih]

theorem given_of_not_knows (history : GrantHistory) (place : Coordinate)
    (unknown : ¬ history.Knows place) : history.given place = PermissionSet.empty := by
  have nothing : (history.filter fun grant => decide (grant.place = place)) = [] := by
    apply List.filter_eq_nil_iff.mpr
    intro grant inside
    simpa using fun same => unknown ⟨grant, inside, same⟩
  simp [given, nothing]

end GrantHistory

namespace Grants

def repository? (tree : Grants) (organization repository : Option String) :
    Option (Branch PermissionSet) :=
  (tree.organizations.get? organization).bind fun repositories => repositories.get? repository

theorem entry?_eq_bind (tree : Grants) (place : Coordinate) :
    entry? tree place =
      (tree.repository? place.organization place.repository).bind
        fun objects => objects.get? place.oid := by
  simp only [ entry?, repository?, Option.bind_eq_bind, Option.bind_assoc]

/-! ## What one grant does to a tree -/

theorem organization_add (tree : Grants) (grant : Grant) (organization : Option String) :
    ((tree.add grant).organizations.get? organization).isSome ↔
      (tree.organizations.get? organization).isSome ∨
        grant.place.organization = organization := by
  by_cases here : organization = grant.place.organization
  · simp [add, here]
  · simp [add, here, Ne.symm here]

theorem repository?_add (tree : Grants) (grant : Grant) (organization repository : Option String) :
    (tree.add grant).repository? organization repository =
      if organization = grant.place.organization ∧ repository = grant.place.repository then
        some (((tree.repository? organization repository).getD Branch.empty).update
          grant.place.oid PermissionSet.empty
            fun set => set.union (grant.permissions.getD PermissionSet.empty))
      else tree.repository? organization repository := by
  by_cases here : organization = grant.place.organization
  · subst here
    cases found : tree.organizations.get? grant.place.organization <;>
      by_cases there : repository = grant.place.repository <;>
        simp [add, repository?, found, there]
  · simp [add, repository?, here]

theorem isSome_repository?_add (tree : Grants) (grant : Grant)
    (organization repository : Option String) :
    ((tree.add grant).repository? organization repository).isSome ↔
      (tree.repository? organization repository).isSome ∨
        grant.place.organization = organization ∧ grant.place.repository = repository := by
  rw [repository?_add]
  by_cases here : organization = grant.place.organization ∧ repository = grant.place.repository
  · simp [here]
  · have apart : ¬ (grant.place.organization = organization ∧
        grant.place.repository = repository) :=
      fun same => here ⟨same.1.symm, same.2.symm⟩
    simp [here, apart]

theorem entry?_add (tree : Grants) (grant : Grant) (place : Coordinate) :
    entry? (tree.add grant) place =
      if grant.place = place then
        some ((( entry? tree place).getD PermissionSet.empty).union
          (grant.permissions.getD PermissionSet.empty))
      else entry? tree place := by
  obtain ⟨organization, repository, oid⟩ := place
  obtain ⟨⟨organization', repository', oid'⟩, permissions⟩ := grant
  rw [entry?_eq_bind, entry?_eq_bind, repository?_add]
  by_cases level : organization = organization' ∧ repository = repository'
  · obtain ⟨rfl, rfl⟩ := level
    by_cases leaf : oid = oid'
    · subst leaf
      cases tree.repository? organization repository <;> simp
    · cases tree.repository? organization repository <;> simp [leaf, Ne.symm leaf]
  · have apart : ¬ (⟨organization', repository', oid'⟩ : Coordinate) =
        ⟨organization, repository, oid⟩ := by
      intro same
      cases same
      exact level ⟨rfl, rfl⟩
    simp only [level, apart, if_false]

theorem addAll_concat (tree : Grants) (history : GrantHistory) (grant : Grant) :
    tree.addAll (history ++ [grant]) = (tree.addAll history).add grant := by
  simp [addAll]

/-! ## What a tree knows after a history -/

theorem organization_addAll (history : GrantHistory) (organization : Option String) :
    ((empty.addAll history).organizations.get? organization).isSome ↔
      history.NamesOrganization organization := by
  induction history using List.reverseRecOn with
  | nil => simp [addAll, empty, GrantHistory.NamesOrganization]
  | append_singleton earlier grant ih =>
    rw [addAll_concat, organization_add, ih, GrantHistory.namesOrganization_concat]

theorem repository?_addAll (history : GrantHistory) (organization repository : Option String) :
    ((empty.addAll history).repository? organization repository).isSome ↔
      history.NamesRepository organization repository := by
  induction history using List.reverseRecOn with
  | nil => simp [addAll, empty, repository?, GrantHistory.NamesRepository]
  | append_singleton earlier grant ih =>
    rw [addAll_concat, isSome_repository?_add, ih, GrantHistory.namesRepository_concat]

theorem entry?_addAll (history : GrantHistory) (place : Coordinate) :
    entry? (empty.addAll history) place =
      if history.Knows place then some (history.given place) else none := by
  induction history using List.reverseRecOn with
  | nil => simp [addAll, empty, entry?, GrantHistory.Knows]
  | append_singleton earlier grant ih =>
    rw [addAll_concat, entry?_add, ih, GrantHistory.given_concat]
    by_cases here : grant.place = place
    · have known : GrantHistory.Knows (earlier ++ [grant]) place :=
        (GrantHistory.knows_concat ..).mpr (.inr here)
      rw [if_pos here, if_pos known, if_pos here]
      by_cases before : GrantHistory.Knows earlier place
      · simp [before]
      · simp [before, GrantHistory.given_of_not_knows earlier place before]
    · simp [here, GrantHistory.knows_concat]

theorem any_entry?_addAll (history : GrantHistory) (place : Coordinate)
    (permission : Permission) :
    ( entry? (empty.addAll history) place).any (fun set => set.contains permission) =
      (history.given place).contains permission := by
  rw [entry?_addAll]
  by_cases known : history.Knows place
  · simp [known]
  · simp [known, GrantHistory.given_of_not_knows history place known]

/-! ## Which entry decides -/

theorem deciding?_eq (tree : Grants) (organization repository : String) (oid : Option String) :
    tree.deciding? organization repository oid =
      if ¬ (tree.organizations.get? (some organization)).isSome then
        entry? tree ⟨none, none, oid⟩
      else if ¬ (tree.repository? (some organization) (some repository)).isSome then
        entry? tree ⟨some organization, none, none⟩
      else if ( entry? tree ⟨some organization, some repository, oid⟩).isSome then
        entry? tree ⟨some organization, some repository, oid⟩
      else entry? tree ⟨some organization, some repository, none⟩ := by
  cases first : tree.organizations.get? (some organization) with
  | none => simp [deciding?, first]
  | some repositories =>
    cases second : repositories.get? (some repository) with
    | none => simp [deciding?, repository?, first, second]
    | some objects =>
      cases third : objects.get? oid <;>
        simp [deciding?, repository?, entry?, first, second, third]

/-- A tree answers every question from the one coordinate that its history picks for it: with yes
if one of the grants at just this coordinate gives the permission. -/
theorem permits_addAll (history : GrantHistory) (organization repository : String)
    (permission : Permission) (oid : Option String) :
    (empty.addAll history).permits organization repository permission oid = true ↔
      ∃ grant ∈ history,
        grant.Gives (history.decidingPlace organization repository oid) permission := by
  have leafKnown : ( entry? (empty.addAll history)
      ⟨some organization, some repository, oid⟩).isSome ↔
        history.Knows ⟨some organization, some repository, oid⟩ := by
    rw [entry?_addAll]
    split <;> simp [*]
  have same : (empty.addAll history).permits organization repository permission oid =
      (history.given (history.decidingPlace organization repository oid)).contains permission := by
    rw [permits, deciding?_eq, GrantHistory.decidingPlace]
    simp only [organization_addAll, repository?_addAll, leafKnown]
    split_ifs <;> exact any_entry?_addAll history _ permission
  rw [same, GrantHistory.contains_given]

/-! ## A single grant -/

theorem permits_single (organization repository : String) (oid : Option String)
    (set : PermissionSet) (askedOrganization askedRepository : String) (permission : Permission)
    (askedOid : Option String) :
    (empty.add ⟨⟨some organization, some repository, oid⟩, some set⟩).permits askedOrganization
        askedRepository permission askedOid = true ↔
      askedOrganization = organization ∧ askedRepository = repository ∧
        set.contains permission = true ∧ (oid = none ∨ askedOid = oid) := by
  by_cases sameOrganization : askedOrganization = organization
  · by_cases sameRepository : askedRepository = repository
    · cases oid with
      | none =>
        by_cases anyObject : askedOid = none <;>
          simp [permits, deciding?, add, empty, sameOrganization, sameRepository, anyObject]
      | some object =>
        by_cases sameOid : askedOid = some object <;>
          simp [permits, deciding?, add, empty, sameOrganization, sameRepository, sameOid]
    · simp [permits, deciding?, add, empty, entry?, sameOrganization, sameRepository]
  · simp [permits, deciding?, add, empty, entry?, sameOrganization]

end Grants
end ObjectTransfer
