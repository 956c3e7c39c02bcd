import ObjectTransfer.Proofs.Access.GrantHistory

/-!
# What another grant can take away

An entry only ever grows, but a question may be answered from another entry than
before.  That happens in three cases, one for each level of the tree: the grant
makes known the organization, the repository or the object that the question is
about, where the tree had answered from a wider entry.  In every other case the
question is answered from the same coordinate, so nothing that was permitted is
lost.
-/

set_option autoImplicit false

namespace ObjectTransfer.Grants

section Known

variable (tree : Grants)

def KnowsOrganization (organization : String) : Prop :=
  (tree.organizations.get? (some organization)).isSome

def KnowsRepository (organization repository : String) : Prop :=
  (tree.repository? (some organization) (some repository)).isSome

/-- There is an entry at just this coordinate, maybe an empty one. -/
def Records (place : Coordinate) : Prop := ( entry? tree place).isSome

instance (organization : String) : Decidable (tree.KnowsOrganization organization) :=
  inferInstanceAs (Decidable (_ = true))

instance (organization repository : String) :
    Decidable (tree.KnowsRepository organization repository) :=
  inferInstanceAs (Decidable (_ = true))

instance (place : Coordinate) : Decidable (tree.Records place) :=
  inferInstanceAs (Decidable (_ = true))

def decidingPlace (organization repository : String) (oid : Option String) : Coordinate :=
  if ¬ tree.KnowsOrganization organization then ⟨none, none, oid⟩
  else if ¬ tree.KnowsRepository organization repository then ⟨some organization, none, none⟩
  else if tree.Records ⟨some organization, some repository, oid⟩ then
    ⟨some organization, some repository, oid⟩
  else ⟨some organization, some repository, none⟩

/-- The grant makes known what a question is about, at the level where the tree knew nothing of it
and gave a wider answer. -/
inductive Shadows (grant : Grant) (organization repository : String) (oid : Option String) :
    Prop where
  | organization :
      ¬ tree.KnowsOrganization organization → grant.place.organization = some organization →
        Shadows grant organization repository oid
  | repository :
      tree.KnowsOrganization organization → ¬ tree.KnowsRepository organization repository →
        grant.place.organization = some organization → grant.place.repository = some repository →
          Shadows grant organization repository oid
  | object (name : String) :
      tree.KnowsRepository organization repository → oid = some name →
        ¬ tree.Records ⟨some organization, some repository, some name⟩ →
          grant.place = ⟨some organization, some repository, some name⟩ →
            Shadows grant organization repository oid

end Known

variable {tree : Grants} {grant : Grant} {organization repository : String} {oid : Option String}

/-! ## What is known before and after -/

theorem KnowsRepository.knowsOrganization (known : tree.KnowsRepository organization repository) :
    tree.KnowsOrganization organization :=
  Option.isSome_of_isSome_bind known

theorem Records.knowsRepository (recorded : tree.Records ⟨some organization, some repository, oid⟩) :
    tree.KnowsRepository organization repository := by
  unfold Records at recorded
  rw [entry?_eq_bind] at recorded
  exact Option.isSome_of_isSome_bind recorded

theorem Records.knowsOrganization {place : Coordinate} (recorded : tree.Records place)
    (here : place.organization = some organization) : tree.KnowsOrganization organization := by
  unfold Records entry? at recorded
  rw [here] at recorded
  exact Option.isSome_of_isSome_bind recorded

theorem knowsOrganization_add :
    (tree.add grant).KnowsOrganization organization ↔
      tree.KnowsOrganization organization ∨ grant.place.organization = some organization :=
  organization_add tree grant (some organization)

theorem knowsRepository_add :
    (tree.add grant).KnowsRepository organization repository ↔
      tree.KnowsRepository organization repository ∨
        grant.place.organization = some organization ∧
          grant.place.repository = some repository :=
  isSome_repository?_add tree grant (some organization) (some repository)

theorem records_add {place : Coordinate} :
    (tree.add grant).Records place ↔ tree.Records place ∨ grant.place = place := by
  unfold Records
  rw [entry?_add]
  by_cases here : grant.place = place <;> simp [here]

/-! ## From which coordinate a question is answered -/

theorem deciding?_eq_at_place (tree : Grants) (organization repository : String)
    (oid : Option String) :
    tree.deciding? organization repository oid =
      entry? tree (tree.decidingPlace organization repository oid) := by
  rw [deciding?_eq, decidingPlace, apply_ite tree.entry?, apply_ite tree.entry?,
    apply_ite tree.entry?]
  rfl

theorem decidingPlace_organization (tree : Grants) (organization repository : String)
    (oid : Option String) :
    (tree.decidingPlace organization repository oid).organization =
      if tree.KnowsOrganization organization then some organization else none := by
  unfold decidingPlace
  split_ifs <;> rfl

theorem decidingPlace_repository (known : tree.KnowsOrganization organization) :
    (tree.decidingPlace organization repository oid).repository =
      if tree.KnowsRepository organization repository then some repository else none := by
  unfold decidingPlace
  rw [if_neg (not_not_intro known)]
  split_ifs <;> rfl

theorem decidingPlace_oid (known : tree.KnowsRepository organization repository) :
    (tree.decidingPlace organization repository oid).oid =
      if tree.Records ⟨some organization, some repository, oid⟩ then oid else none := by
  unfold decidingPlace
  rw [if_neg (not_not_intro known.knowsOrganization), if_neg (not_not_intro known)]
  split_ifs <;> rfl

theorem Shadows.decidingPlace_ne (shadows : tree.Shadows grant organization repository oid) :
    (tree.add grant).decidingPlace organization repository oid ≠
      tree.decidingPlace organization repository oid := by
  intro same
  cases shadows with
  | organization unknown here =>
    have now := knowsOrganization_add.mpr (.inr here : tree.KnowsOrganization organization ∨ _)
    have level := congrArg Coordinate.organization same
    rw [decidingPlace_organization, decidingPlace_organization, if_pos now,
      if_neg unknown] at level
    cases level
  | repository known unknown here there =>
    have still := knowsOrganization_add.mpr (.inl known : _ ∨ grant.place.organization = _)
    have now := knowsRepository_add.mpr
      (.inr ⟨here, there⟩ : tree.KnowsRepository organization repository ∨ _)
    have level := congrArg Coordinate.repository same
    rw [decidingPlace_repository still, decidingPlace_repository known, if_pos now,
      if_neg unknown] at level
    cases level
  | object name known asked missing here =>
    subst asked
    have still := knowsRepository_add.mpr (.inl known : _ ∨ grant.place.organization = _ ∧ _)
    have now := records_add.mpr (.inr here : tree.Records _ ∨ _)
    have level := congrArg Coordinate.oid same
    rw [decidingPlace_oid still, decidingPlace_oid known, if_pos now, if_neg missing] at level
    cases level

theorem decidingPlace_add_of_not_shadows
    (clear : ¬ tree.Shadows grant organization repository oid) :
    (tree.add grant).decidingPlace organization repository oid =
      tree.decidingPlace organization repository oid := by
  have sameOrganization : (tree.add grant).KnowsOrganization organization ↔
      tree.KnowsOrganization organization := by
    rw [knowsOrganization_add]
    apply or_iff_left_of_imp
    intro here
    exact Classical.byContradiction fun unknown => clear (.organization unknown here)
  by_cases known : tree.KnowsOrganization organization
  · have sameRepository : (tree.add grant).KnowsRepository organization repository ↔
        tree.KnowsRepository organization repository := by
      rw [knowsRepository_add]
      apply or_iff_left_of_imp
      rintro ⟨here, there⟩
      exact Classical.byContradiction fun unknown => clear (.repository known unknown here there)
    by_cases below : tree.KnowsRepository organization repository
    · cases oid with
      | none => simp [decidingPlace, sameOrganization, sameRepository]
      | some name =>
        have sameRecords : (tree.add grant).Records
            ⟨some organization, some repository, some name⟩ ↔
              tree.Records ⟨some organization, some repository, some name⟩ := by
          rw [records_add]
          apply or_iff_left_of_imp
          intro here
          exact Classical.byContradiction fun missing => clear (.object name below rfl missing here)
        simp [decidingPlace, sameOrganization, sameRepository, sameRecords]
    · simp [decidingPlace, sameOrganization, sameRepository, known, below]
  · simp [decidingPlace, sameOrganization, known]

/-- A question is answered from another coordinate exactly if the grant shadows the one before. -/
theorem shadows_iff (tree : Grants) (grant : Grant) (organization repository : String)
    (oid : Option String) :
    tree.Shadows grant organization repository oid ↔
      (tree.add grant).decidingPlace organization repository oid ≠
        tree.decidingPlace organization repository oid := by
  constructor
  · exact Shadows.decidingPlace_ne
  · intro moved
    exact Classical.byContradiction fun clear => moved (decidingPlace_add_of_not_shadows clear)

/-! ## What becomes of the answers -/

theorem permits_add_of_not_shadows (permission : Permission)
    (clear : ¬ tree.Shadows grant organization repository oid) :
    (tree.add grant).permits organization repository permission oid =
      (tree.permits organization repository permission oid ||
        decide (grant.place = tree.decidingPlace organization repository oid) &&
          (grant.permissions.getD PermissionSet.empty).contains permission) := by
  unfold permits
  rw [deciding?_eq_at_place, deciding?_eq_at_place, decidingPlace_add_of_not_shadows clear, entry?_add]
  by_cases here : grant.place = tree.decidingPlace organization repository oid
  · cases tree.entry? (tree.decidingPlace organization repository oid) <;> simp [here]
  · simp [here]

theorem permits_add_of_ne (permission : Permission)
    (clear : ¬ tree.Shadows grant organization repository oid)
    (elsewhere : grant.place ≠ tree.decidingPlace organization repository oid) :
    (tree.add grant).permits organization repository permission oid =
      tree.permits organization repository permission oid := by
  simp [permits_add_of_not_shadows permission clear, elsewhere]

theorem Shadows.place_organization (shadows : tree.Shadows grant organization repository oid) :
    grant.place.organization = some organization := by
  cases shadows with
  | organization _ here => exact here
  | repository _ _ here _ => exact here
  | object _ _ _ _ here => rw [here]

theorem not_shadows_of_records (recorded : tree.Records grant.place) :
    ¬ tree.Shadows grant organization repository oid := by
  intro shadows
  cases shadows with
  | organization unknown here => exact unknown (recorded.knowsOrganization here)
  | repository _ unknown here there =>
    obtain ⟨⟨_, _, object⟩, permissions⟩ := grant
    cases here
    cases there
    exact unknown recorded.knowsRepository
  | object _ _ _ missing here => exact missing (here ▸ recorded)

/-- Entries only grow, and an answer is lost only where the grant shadows the entry that gave it. -/
theorem add_revokes_by_shadowing (tree : Grants) (grant : Grant) :
    (∀ place, place ≠ grant.place →
      entry? (tree.add grant) place = entry? tree place) ∧
    (∃ set, entry? (tree.add grant) grant.place = some set ∧
      ∀ permission, set.contains permission = true ↔
        (∃ before, entry? tree grant.place = some before ∧ before.contains permission = true) ∨
          grant.Gives grant.place permission) ∧
    (∀ organization repository oid,
      tree.Shadows grant organization repository oid ↔
        (tree.add grant).decidingPlace organization repository oid ≠
          tree.decidingPlace organization repository oid) ∧
    (∀ organization repository permission oid,
      tree.permits organization repository permission oid = true →
      (tree.add grant).permits organization repository permission oid = false →
        tree.Shadows grant organization repository oid) ∧
    (tree.Records grant.place → ∀ organization repository permission oid,
      tree.permits organization repository permission oid = true →
        (tree.add grant).permits organization repository permission oid = true) ∧
    (∀ own other, grant.place.organization = some own → other ≠ own →
      ∀ repository permission oid,
        (tree.add grant).permits other repository permission oid =
          tree.permits other repository permission oid) ∧
    (grant.place.organization = none → ∀ organization, tree.KnowsOrganization organization →
      ∀ repository permission oid,
        (tree.add grant).permits organization repository permission oid =
          tree.permits organization repository permission oid) := by
  have kept : ∀ organization repository permission oid,
      ¬ tree.Shadows grant organization repository oid →
      tree.permits organization repository permission oid = true →
        (tree.add grant).permits organization repository permission oid = true := by
    intro organization repository permission oid clear before
    rw [permits_add_of_not_shadows permission clear, before, Bool.true_or]
  refine ⟨?_, ?_, shadows_iff tree grant, ?_, ?_, ?_, ?_⟩
  · intro place other
    rw [entry?_add, if_neg other.symm]
  · refine ⟨_, by rw [entry?_add, if_pos rfl], ?_⟩
    intro permission
    rw [PermissionSet.contains_union_iff, Grant.gives_iff]
    cases entry? tree grant.place <;> simp
  · intro organization repository permission oid before after
    apply Classical.byContradiction
    intro clear
    rw [kept organization repository permission oid clear before] at after
    cases after
  · intro recorded organization repository permission oid before
    exact kept organization repository permission oid (not_shadows_of_records recorded) before
  · intro own other here apart repository permission oid
    have clear : ¬ tree.Shadows grant other repository oid := by
      intro shadows
      exact apart (Option.some.inj (shadows.place_organization.symm.trans here))
    apply permits_add_of_ne permission clear
    intro same
    have level := congrArg Coordinate.organization same
    rw [here, decidingPlace_organization] at level
    split_ifs at level
    · exact apart (Option.some.inj level).symm
  · intro here organization known repository permission oid
    have clear : ¬ tree.Shadows grant organization repository oid := by
      intro shadows
      cases here.symm.trans shadows.place_organization
    apply permits_add_of_ne permission clear
    intro same
    have level := congrArg Coordinate.organization same
    rw [here, decidingPlace_organization, if_pos known] at level
    cases level

def organizationReaders : Grants :=
  empty.add ⟨⟨some "acme", none, none⟩, some ⟨true, false, false⟩⟩

/-- A repository named without permissions is closed by that, and a grant for any organization opens
nothing in it. -/
theorem add_revokes_by_shadowing_widgets :
    organizationReaders.Shadows ⟨⟨some "acme", some "widgets", none⟩, none⟩ "acme" "widgets" none ∧
      (organizationReaders.add ⟨⟨some "acme", some "widgets", none⟩, none⟩).permits "acme"
        "widgets" .read none = false ∧
      (organizationReaders.add ⟨⟨none, none, none⟩, some ⟨true, true, true⟩⟩).permits "acme"
          "widgets" .write none =
        organizationReaders.permits "acme" "widgets" .write none := by
  have before : organizationReaders.permits "acme" "widgets" .read none = true := by decide
  have after : (organizationReaders.add ⟨⟨some "acme", some "widgets", none⟩, none⟩).permits "acme"
      "widgets" .read none = false := by decide
  obtain ⟨-, -, -, revoked, -, -, -⟩ :=
    add_revokes_by_shadowing organizationReaders ⟨⟨some "acme", some "widgets", none⟩, none⟩
  obtain ⟨-, -, -, -, -, -, known⟩ :=
    add_revokes_by_shadowing organizationReaders ⟨⟨none, none, none⟩, some ⟨true, true, true⟩⟩
  exact ⟨revoked _ _ _ _ before after, after, known rfl "acme" (by decide) _ _ _⟩

end ObjectTransfer.Grants
