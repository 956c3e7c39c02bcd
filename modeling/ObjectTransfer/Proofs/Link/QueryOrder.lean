import ObjectTransfer.Proofs.Link.CanonicalQuery

/-!
# The order of a canonical query

Pairs are sorted by their names and then by their values, which is a linear
order.  So the sorted list depends only on which pairs there are, not on where
they stood.

Services prescribe that pairs are escaped before they are sorted.  Escaping does
not always keep the order: a letter or a digit comes after every percent sign,
but before many of the characters that are written with one.  Sorting pairs
before they are escaped gives the prescribed query exactly if escaping keeps the
order of these pairs.
-/

set_option autoImplicit false

namespace ObjectTransfer.BucketLinks

/-! ## Sorting -/

theorem precedes_iff (left right : Parameter) :
    precedes left right = true ↔ left.1 < right.1 ∨ left.1 = right.1 ∧ left.2 ≤ right.2 := by
  simp only [precedes, Bool.or_eq_true, Bool.and_eq_true, decide_eq_true_eq, beq_iff_eq,
    Bool.not_eq_true', decide_eq_false_iff_not, String.not_lt]

theorem precedes_refl (pair : Parameter) : precedes pair pair = true :=
  (precedes_iff pair pair).mpr (.inr ⟨rfl, String.le_refl _⟩)

theorem precedes_trans (first second third : Parameter) (before : precedes first second = true)
    (after : precedes second third = true) : precedes first third = true := by
  rw [precedes_iff] at before after ⊢
  rcases before with names | ⟨sameNames, values⟩
  · rcases after with later | ⟨sameLater, _⟩
    · exact .inl (String.lt_trans names later)
    · exact .inl (sameLater ▸ names)
  · rw [sameNames]
    exact after.imp_right fun ⟨sameLater, later⟩ => ⟨sameLater, String.le_trans values later⟩

theorem precedes_antisymm (left right : Parameter) (there : precedes left right = true)
    (back : precedes right left = true) : left = right := by
  rw [precedes_iff] at there back
  rcases there with names | ⟨sameNames, values⟩
  · rcases back with others | ⟨sameNames, _⟩
    · exact absurd others (String.lt_asymm names)
    · exact absurd sameNames.symm (String.ne_of_lt names)
  · rcases back with others | ⟨_, others⟩
    · exact absurd sameNames.symm (String.ne_of_lt others)
    · exact Prod.ext sameNames (String.le_antisymm values others)

theorem precedes_total (left right : Parameter) :
    precedes left right = true ∨ precedes right left = true := by
  rw [precedes_iff, precedes_iff]
  by_cases names : left.1 < right.1
  · exact .inl (.inl names)
  · by_cases others : right.1 < left.1
    · exact .inr (.inl others)
    · have same := String.le_antisymm (String.not_lt.mp others) (String.not_lt.mp names)
      exact (String.le_total left.2 right.2).imp (fun values => .inr ⟨same, values⟩)
        fun values => .inr ⟨same.symm, values⟩

theorem sorted_perm (pairs : List Parameter) : (sorted pairs).Perm pairs :=
  List.mergeSort_perm pairs precedes

theorem pairwise_sorted (pairs : List Parameter) :
    (sorted pairs).Pairwise fun left right => precedes left right = true := by
  refine List.pairwise_mergeSort precedes_trans ?_ pairs
  intro left right
  rw [Bool.or_eq_true_iff]
  exact precedes_total left right

/-- There is only one way to sort pairs. -/
theorem eq_sorted (pairs others : List Parameter) (same : pairs.Perm others)
    (ordered : pairs.Pairwise fun left right => precedes left right = true) :
    pairs = sorted others := by
  refine List.Perm.eq_of_pairwise ?_ ordered (pairwise_sorted others)
    (same.trans (sorted_perm others).symm)
  exact fun left right _ _ => precedes_antisymm left right

theorem sorted_eq_of_perm (pairs others : List Parameter) (same : pairs.Perm others) :
    sorted pairs = sorted others :=
  eq_sorted _ _ ((sorted_perm pairs).trans same) (pairwise_sorted pairs)

theorem filter_sorted (keep : Parameter → Bool) (pairs : List Parameter) :
    (sorted pairs).filter keep = sorted (pairs.filter keep) :=
  eq_sorted _ _ ((sorted_perm pairs).filter keep) ((pairwise_sorted pairs).filter keep)

theorem sorted_of_ascending (pairs : List Parameter)
    (ascending : (pairs.map Prod.fst).Pairwise (· < ·)) : sorted pairs = pairs := by
  rw [List.pairwise_map] at ascending
  refine (eq_sorted pairs pairs (List.Perm.refl pairs) (ascending.imp fun before => ?_)).symm
  exact (precedes_iff _ _).mpr (.inl before)

/-! ## Escaping before sorting -/

/-- The canonical query as services prescribe it: the pairs are escaped and then sorted. -/
def prescribedQuery (pairs : List Parameter) : List Char :=
  Text.join '&' ((sorted (pairs.map escaped)).map pairText)

theorem prescribedQuery_eq_of_perm (pairs others : List Parameter) (same : pairs.Perm others) :
    prescribedQuery pairs = prescribedQuery others := by
  rw [prescribedQuery, sorted_eq_of_perm _ _ (same.map escaped), prescribedQuery]

theorem writtenPairs_prescribedQuery (pairs : List Parameter) :
    writtenPairs (prescribedQuery pairs) = sorted (pairs.map escaped) := by
  refine writtenPairs_join _ fun pair inside => ?_
  exact isClean_of_mem_map pairs pair ((sorted_perm _).mem_iff.mp inside)

/-- Pairs that are in order still are when they are escaped. -/
def KeepsOrder (pairs : List Parameter) : Prop :=
  ∀ left ∈ pairs, ∀ right ∈ pairs, precedes left right = true →
    precedes (escaped left) (escaped right) = true

instance (pairs : List Parameter) : Decidable (KeepsOrder pairs) :=
  inferInstanceAs (Decidable (∀ left ∈ pairs, ∀ right ∈ pairs, _ → _))

theorem map_escaped_sorted_iff (pairs : List Parameter) :
    (sorted pairs).map escaped = sorted (pairs.map escaped) ↔ KeepsOrder pairs := by
  have members := fun pair => (sorted_perm pairs).mem_iff (a := pair)
  constructor
  · intro same left leftIn right rightIn before
    have ordered := pairwise_sorted (pairs.map escaped)
    rw [← same, List.pairwise_map] at ordered
    obtain ⟨i, bound, rfl⟩ := List.getElem_of_mem ((members left).mpr leftIn)
    obtain ⟨j, limit, rfl⟩ := List.getElem_of_mem ((members right).mpr rightIn)
    rcases Nat.lt_or_ge i j with earlier | later
    · exact List.pairwise_iff_getElem.mp ordered i j bound limit earlier
    · have back : precedes (sorted pairs)[j] (sorted pairs)[i] = true := by
        rcases Nat.eq_or_lt_of_le later with rfl | later
        · exact before
        · exact List.pairwise_iff_getElem.mp (pairwise_sorted pairs) j i limit bound later
      rw [precedes_antisymm _ _ before back]
      exact precedes_refl _
  · intro keeps
    refine eq_sorted _ _ ((sorted_perm pairs).map escaped) ?_
    rw [List.pairwise_map]
    refine (pairwise_sorted pairs).imp_of_mem fun leftIn rightIn before => ?_
    exact keeps _ ((members _).mp leftIn) _ ((members _).mp rightIn) before

/-- The query that is signed is the prescribed one exactly if escaping keeps the order. -/
theorem canonicalQuery_eq_prescribedQuery_iff (pairs : List Parameter) :
    canonicalQuery (sorted pairs) = prescribedQuery pairs ↔ KeepsOrder pairs := by
  rw [← map_escaped_sorted_iff]
  constructor
  · intro same
    rw [← writtenPairs_canonicalQuery, same, writtenPairs_prescribedQuery]
  · intro same
    rw [canonicalQuery_eq, same, prescribedQuery]

end ObjectTransfer.BucketLinks
