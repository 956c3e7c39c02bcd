import ObjectTransfer.Proofs.Access.GrantHistory

/-!
# Histories that build the same tree

A tree remembers which coordinates were named and what was given at each of
them, and nothing else: not the order of the grants, not how often one was made,
and not how the permissions were divided among them.  Three descriptions of this
come to the same.  The trees are equal; they hold the same entries; one history
turns into the other by laws that reorder grants, repeat them, and divide or
join the sets that they give.
-/

set_option autoImplicit false

namespace ObjectTransfer

namespace GrantHistory

def Agrees (left right : GrantHistory) : Prop :=
  ∀ place, (left.Knows place ↔ right.Knows place) ∧ left.given place = right.given place

/-- One history is the other, given in another way. -/
inductive Rearranges : GrantHistory → GrantHistory → Prop where
  | symm {left right : GrantHistory} : Rearranges left right → Rearranges right left
  | trans {first second third : GrantHistory} :
      Rearranges first second → Rearranges second third → Rearranges first third
  | reorder {left right : GrantHistory} : left.Perm right → Rearranges left right
  | again {grant : Grant} {history : GrantHistory} :
      grant ∈ history → Rearranges (grant :: history) history
  | divide {place : Coordinate} {whole first second : PermissionSet} {rest : GrantHistory} :
      (∀ permission, whole.contains permission = true ↔
        first.contains permission = true ∨ second.contains permission = true) →
      Rearranges (⟨place, some whole⟩ :: rest)
        (⟨place, some first⟩ :: ⟨place, some second⟩ :: rest)
  | silent (place : Coordinate) (rest : GrantHistory) :
      Rearranges (⟨place, none⟩ :: rest) (⟨place, some PermissionSet.empty⟩ :: rest)

/-! ## Histories that agree -/

theorem agrees_iff (left right : GrantHistory) :
    left.Agrees right ↔
      (∀ place, left.Knows place ↔ right.Knows place) ∧
        ∀ place permission, (∃ grant ∈ left, grant.Gives place permission) ↔
          ∃ grant ∈ right, grant.Gives place permission := by
  constructor
  · intro agree
    refine ⟨fun place => (agree place).1, ?_⟩
    intro place permission
    rw [← contains_given, ← contains_given, (agree place).2]
  · rintro ⟨known, gives⟩ place
    refine ⟨known place, ?_⟩
    apply PermissionSet.ext_contains
    intro permission
    apply Bool.eq_iff_iff.mpr
    rw [contains_given, contains_given]
    exact gives place permission

theorem given_cons (grant : Grant) (history : GrantHistory) (place : Coordinate) :
    given (grant :: history) place =
      if grant.place = place then
        (grant.permissions.getD PermissionSet.empty).union (history.given place)
      else history.given place := by
  apply PermissionSet.ext_contains
  intro permission
  apply Bool.eq_iff_iff.mpr
  by_cases here : grant.place = place <;> simp [here, contains_given, Grant.gives_iff]

theorem namesOrganization_iff (history : GrantHistory) (organization : Option String) :
    history.NamesOrganization organization ↔
      ∃ repository oid, history.Knows ⟨organization, repository, oid⟩ := by
  constructor
  · rintro ⟨⟨⟨_, repository, oid⟩, permissions⟩, inside, rfl⟩
    exact ⟨repository, oid, _, inside, rfl⟩
  · rintro ⟨_, _, grant, inside, same⟩
    exact ⟨grant, inside, congrArg Coordinate.organization same⟩

theorem namesRepository_iff (history : GrantHistory) (organization repository : Option String) :
    history.NamesRepository organization repository ↔
      ∃ oid, history.Knows ⟨organization, repository, oid⟩ := by
  constructor
  · rintro ⟨⟨⟨_, _, oid⟩, permissions⟩, inside, rfl, rfl⟩
    exact ⟨oid, _, inside, rfl⟩
  · rintro ⟨_, grant, inside, same⟩
    exact ⟨grant, inside, congrArg Coordinate.organization same,
      congrArg Coordinate.repository same⟩

theorem exists_mem_again {grant : Grant} {history : GrantHistory} (inside : grant ∈ history)
    (property : Grant → Prop) :
    (∃ other ∈ grant :: history, property other) ↔ ∃ other ∈ history, property other := by
  constructor
  · rintro ⟨other, among, told⟩
    rcases List.mem_cons.mp among with rfl | later
    · exact ⟨other, inside, told⟩
    · exact ⟨other, later, told⟩
  · rintro ⟨other, later, told⟩
    exact ⟨other, List.mem_cons_of_mem _ later, told⟩

theorem Rearranges.agrees {left right : GrantHistory} (rearranged : left.Rearranges right) :
    left.Agrees right := by
  induction rearranged with
  | symm _ ih => exact fun place => ⟨(ih place).1.symm, (ih place).2.symm⟩
  | trans _ _ first second =>
    exact fun place =>
      ⟨(first place).1.trans (second place).1, (first place).2.trans (second place).2⟩
  | reorder permuted =>
    apply (agrees_iff _ _).mpr
    simp only [Knows, permuted.mem_iff, implies_true, and_self]
  | again inside =>
    apply (agrees_iff _ _).mpr
    exact ⟨fun place => exists_mem_again inside _,
      fun place permission => exists_mem_again inside _⟩
  | divide joined =>
    apply (agrees_iff _ _).mpr
    simp [Knows, Grant.gives_iff, joined, and_or_left, or_assoc]
  | silent here rest =>
    apply (agrees_iff _ _).mpr
    simp [Knows, Grant.gives_iff]

/-! ## From agreement to the laws -/

theorem Rearranges.refl (history : GrantHistory) : history.Rearranges history :=
  .reorder (.refl history)

instance : Trans Rearranges Rearranges Rearranges := ⟨Rearranges.trans⟩

theorem Rearranges.cons (grant : Grant) {left right : GrantHistory}
    (rearranged : left.Rearranges right) :
    Rearranges (grant :: left) (grant :: right) := by
  -- A law rewrites what stands in front, so the grant goes behind it and comes back afterwards.
  have swapped : ∀ (other : Grant) (rest : GrantHistory),
      Rearranges (grant :: other :: rest) (other :: grant :: rest) :=
    fun other rest => .reorder (.swap other grant rest)
  induction rearranged with
  | symm _ ih => exact ih.symm
  | trans _ _ first second => exact first.trans second
  | reorder permuted => exact .reorder (permuted.cons grant)
  | again inside => exact (swapped _ _).trans (.again (List.mem_cons_of_mem _ inside))
  | @divide place whole first second rest joined =>
    have divided : Rearranges (⟨place, some whole⟩ :: grant :: rest)
        (⟨place, some first⟩ :: ⟨place, some second⟩ :: grant :: rest) := .divide joined
    have back := (swapped ⟨place, some first⟩ (⟨place, some second⟩ :: rest)).trans
      (.reorder (.cons _ (.swap ⟨place, some second⟩ grant rest)))
    exact ((swapped _ _).trans divided).trans back.symm
  | silent place rest =>
    exact ((swapped _ _).trans (.silent place (grant :: rest))).trans (swapped _ _).symm

theorem rearranges_set (grant : Grant) (rest : GrantHistory) :
    Rearranges (⟨grant.place, some (grant.permissions.getD PermissionSet.empty)⟩ :: rest)
      (grant :: rest) := by
  obtain ⟨place, permissions⟩ := grant
  cases permissions with
  | none => exact (Rearranges.silent place rest).symm
  | some set => exact .refl _

theorem rearranges_given (history : GrantHistory) (place : Coordinate)
    (known : history.Knows place) :
    Rearranges (⟨place, some (history.given place)⟩ :: history) history := by
  induction history with
  | nil =>
    obtain ⟨_, inside, _⟩ := known
    cases inside
  | cons grant rest ih =>
    rw [given_cons]
    by_cases here : grant.place = place
    · subst here
      rw [if_pos rfl]
      by_cases later : Knows rest grant.place
      · calc Rearranges _ _ := .divide (PermissionSet.contains_union_iff _ _)
          Rearranges _ (grant :: ⟨grant.place, some (given rest grant.place)⟩ :: grant :: rest) :=
            rearranges_set grant _
          Rearranges _ (⟨grant.place, some (given rest grant.place)⟩ :: grant :: rest) :=
            .again (by simp)
          Rearranges _ (grant :: ⟨grant.place, some (given rest grant.place)⟩ :: rest) :=
            .reorder (.swap ..)
          Rearranges _ (grant :: rest) := (ih later).cons grant
      · rw [given_of_not_knows rest grant.place later, PermissionSet.union_empty]
        calc Rearranges _ (grant :: grant :: rest) := rearranges_set grant _
          Rearranges _ (grant :: rest) := .again List.mem_cons_self
    · have later : Knows rest place := by
        obtain ⟨other, inside, same⟩ := known
        rcases List.mem_cons.mp inside with rfl | later
        · exact absurd same here
        · exact ⟨other, later, same⟩
      rw [if_neg here]
      calc Rearranges _ (grant :: ⟨place, some (given rest place)⟩ :: rest) := .reorder (.swap ..)
        Rearranges _ (grant :: rest) := (ih later).cons grant

/-- A grant that says nothing new can be left out. -/
theorem rearranges_covered {history : GrantHistory} {grant : Grant}
    (known : history.Knows grant.place)
    (covered : ∀ permission, grant.Gives grant.place permission →
      (history.given grant.place).contains permission = true) :
    Rearranges (grant :: history) history := by
  have absorbed : (grant.permissions.getD PermissionSet.empty).union (history.given grant.place) =
      history.given grant.place := by
    apply PermissionSet.ext_contains
    intro permission
    rw [PermissionSet.contains_union, Bool.or_eq_right_iff_imp]
    exact fun gives => covered permission ((grant.gives_iff ..).mpr ⟨rfl, gives⟩)
  have parts := PermissionSet.contains_union_iff (grant.permissions.getD PermissionSet.empty)
    (history.given grant.place)
  rw [absorbed] at parts
  have joined : Rearranges (⟨grant.place, some (grant.permissions.getD PermissionSet.empty)⟩ ::
      ⟨grant.place, some (history.given grant.place)⟩ :: history)
      (⟨grant.place, some (history.given grant.place)⟩ :: history) :=
    (Rearranges.divide parts).symm
  calc Rearranges _ (⟨grant.place, some (grant.permissions.getD PermissionSet.empty)⟩ :: history) :=
        (rearranges_set grant history).symm
    Rearranges _ (⟨grant.place, some (grant.permissions.getD PermissionSet.empty)⟩ ::
        ⟨grant.place, some (history.given grant.place)⟩ :: history) :=
      (rearranges_given history grant.place known).symm.cons _
    Rearranges _ (⟨grant.place, some (history.given grant.place)⟩ :: history) := joined
    Rearranges _ history := rearranges_given history grant.place known

theorem Agrees.rearranges_append {left right : GrantHistory} (agree : left.Agrees right)
    (more : GrantHistory) (inside : more ⊆ right) : Rearranges (more ++ left) left := by
  induction more with
  | nil => exact .refl left
  | cons grant rest ih =>
    have among := inside List.mem_cons_self
    have told := (ih fun other later => inside (List.mem_cons_of_mem _ later)).cons grant
    refine told.trans (rearranges_covered ?_ ?_)
    · exact (agree grant.place).1.mpr ⟨grant, among, rfl⟩
    · intro permission gives
      rw [(agree grant.place).2, contains_given]
      exact ⟨grant, among, gives⟩

/-- The laws are enough: each history absorbs the grants of the other. -/
theorem rearranges_iff_agrees (left right : GrantHistory) :
    left.Rearranges right ↔ left.Agrees right := by
  constructor
  · exact Rearranges.agrees
  · intro agree
    have back : right.Agrees left := fun place => ⟨(agree place).1.symm, (agree place).2.symm⟩
    calc Rearranges left (right ++ left) := (agree.rearranges_append right (List.Subset.refl _)).symm
      Rearranges _ (left ++ right) := .reorder List.perm_append_comm
      Rearranges _ right := back.rearranges_append left (List.Subset.refl _)

end GrantHistory

namespace Grants

/-! ## Trees with the same entries -/

theorem agrees_iff_entries (left right : GrantHistory) :
    left.Agrees right ↔
      ∀ place, entry? (empty.addAll left) place = entry? (empty.addAll right) place := by
  constructor
  · intro agree place
    rw [entry?_addAll, entry?_addAll, (agree place).2]
    simp only [(agree place).1]
  · intro same place
    have entries := same place
    rw [entry?_addAll, entry?_addAll] at entries
    by_cases known : left.Knows place
    · by_cases also : right.Knows place
      · rw [if_pos known, if_pos also] at entries
        exact ⟨iff_of_true known also, Option.some.inj entries⟩
      · rw [if_pos known, if_neg also] at entries
        cases entries
    · by_cases also : right.Knows place
      · rw [if_neg known, if_pos also] at entries
        cases entries
      · refine ⟨iff_of_false known also, ?_⟩
        rw [left.given_of_not_knows place known, right.given_of_not_knows place also]

theorem repository?_eq_of_agrees {left right : GrantHistory} (agree : left.Agrees right)
    (organization repository : Option String) :
    (empty.addAll left).repository? organization repository =
      (empty.addAll right).repository? organization repository := by
  have known : ((empty.addAll left).repository? organization repository).isSome ↔
      ((empty.addAll right).repository? organization repository).isSome := by
    rw [repository?_addAll, repository?_addAll, GrantHistory.namesRepository_iff,
      GrantHistory.namesRepository_iff]
    exact exists_congr fun oid => (agree _).1
  have entries := (agrees_iff_entries left right).mp agree
  cases first : (empty.addAll left).repository? organization repository with
  | none =>
    have nothing : (empty.addAll right).repository? organization repository = none := by
      simpa [first] using known
    exact nothing.symm
  | some objects =>
    cases second : (empty.addAll right).repository? organization repository with
    | none => simp [first, second] at known
    | some others =>
      apply congrArg some
      apply Branch.ext_get?
      intro oid
      have leaf := entries ⟨organization, repository, oid⟩
      simpa only [entry?_eq_bind, first, second, Option.bind_some] using leaf

theorem addAll_eq_of_agrees {left right : GrantHistory} (agree : left.Agrees right) :
    empty.addAll left = empty.addAll right := by
  suffices same : (empty.addAll left).organizations = (empty.addAll right).organizations by
    exact congrArg Grants.mk same
  apply Branch.ext_get?
  intro organization
  have known : ((empty.addAll left).organizations.get? organization).isSome ↔
      ((empty.addAll right).organizations.get? organization).isSome := by
    rw [organization_addAll, organization_addAll, GrantHistory.namesOrganization_iff,
      GrantHistory.namesOrganization_iff]
    exact exists_congr fun repository => exists_congr fun oid => (agree _).1
  cases first : (empty.addAll left).organizations.get? organization with
  | none =>
    have nothing : (empty.addAll right).organizations.get? organization = none := by
      simpa [first] using known
    exact nothing.symm
  | some repositories =>
    cases second : (empty.addAll right).organizations.get? organization with
    | none => simp [first, second] at known
    | some others =>
      apply congrArg some
      apply Branch.ext_get?
      intro repository
      have below := repository?_eq_of_agrees agree organization repository
      simpa only [repository?, first, second, Option.bind_some] using below

/-- The tree of a history is what was given at which coordinates, however it was given. -/
theorem addAll_eq_iff (left right : GrantHistory) :
    (empty.addAll left = empty.addAll right ↔
      ∀ place, entry? (empty.addAll left) place = entry? (empty.addAll right) place) ∧
    (empty.addAll left = empty.addAll right ↔
      (∀ place, left.Knows place ↔ right.Knows place) ∧
        ∀ place permission, (∃ grant ∈ left, grant.Gives place permission) ↔
          ∃ grant ∈ right, grant.Gives place permission) ∧
    (empty.addAll left = empty.addAll right ↔ left.Rearranges right) ∧
    (left.Rearranges right →
      (∀ organization repository permission oid,
        (empty.addAll left).permits organization repository permission oid =
          (empty.addAll right).permits organization repository permission oid) ∧
      (empty.addAll left).isEmpty = (empty.addAll right).isEmpty) := by
  have entries := agrees_iff_entries left right
  have built : empty.addAll left = empty.addAll right ↔ left.Agrees right := by
    constructor
    · intro same
      exact entries.mpr fun place => by rw [same]
    · exact addAll_eq_of_agrees
  have laws := left.rearranges_iff_agrees right
  refine ⟨built.trans entries, built.trans (left.agrees_iff right), built.trans laws.symm, ?_⟩
  intro rearranged
  have same := built.mpr (laws.mp rearranged)
  rw [same]
  exact ⟨fun _ _ _ _ => rfl, rfl⟩

def joinedGrants : GrantHistory :=
  [⟨⟨some "acme", some "widgets", none⟩, some ⟨true, false, true⟩⟩,
    ⟨⟨some "acme", none, none⟩, none⟩]

def dividedGrants : GrantHistory :=
  [⟨⟨some "acme", none, none⟩, none⟩,
    ⟨⟨some "acme", some "widgets", none⟩, some ⟨true, false, false⟩⟩,
    ⟨⟨some "acme", some "widgets", none⟩, some ⟨true, false, false⟩⟩,
    ⟨⟨some "acme", some "widgets", none⟩, some ⟨false, false, true⟩⟩]

theorem addAll_eq_iff_divided :
    joinedGrants.Rearranges dividedGrants ∧
      empty.addAll joinedGrants = empty.addAll dividedGrants ∧
      (empty.addAll joinedGrants).permits "acme" "widgets" .write (some "0a") =
        (empty.addAll dividedGrants).permits "acme" "widgets" .write (some "0a") ∧
      (empty.addAll joinedGrants).permits "acme" "widgets" .write (some "0a") = true := by
  have rearranged : joinedGrants.Rearranges dividedGrants :=
    calc GrantHistory.Rearranges joinedGrants
          (⟨⟨some "acme", some "widgets", none⟩, some ⟨true, false, false⟩⟩ ::
            ⟨⟨some "acme", some "widgets", none⟩, some ⟨false, false, true⟩⟩ ::
              [⟨⟨some "acme", none, none⟩, none⟩]) := .divide fun permission => by cases permission <;> decide
      GrantHistory.Rearranges _ _ := .symm (.again List.mem_cons_self)
      GrantHistory.Rearranges _ dividedGrants := .reorder (by decide)
  obtain ⟨-, -, built, answers⟩ := addAll_eq_iff joinedGrants dividedGrants
  refine ⟨rearranged, built.mpr rearranged, (answers rearranged).1 _ _ _ _, ?_⟩
  decide

end Grants
end ObjectTransfer
