import ObjectTransfer.Store.Memory
import ObjectTransfer.Text.Pieces

/-!
# Addresses of objects

An object is addressed by an organization, a repository and an id, and a store
keeps it under a name in which the first two are one text with a slash between
them.  Organizations without a slash in their own names can be read off that
text, so then different addresses have different names.
-/

set_option autoImplicit false

namespace ObjectTransfer

structure ObjectAddress where
  organization : String
  repository : String
  oid : String
  deriving DecidableEq, Repr

namespace ObjectAddress

def place (address : ObjectAddress) : String :=
  placeOf address.organization address.repository

def name (address : ObjectAddress) : ObjectName := ⟨address.place, address.oid⟩

theorem mk_eq_name (address : ObjectAddress) : ⟨address.place, address.oid⟩ = address.name := rfl

end ObjectAddress

theorem placeOf_inj {organization repository otherOrganization otherRepository : String}
    (clear : '/' ∉ organization.toList) (otherClear : '/' ∉ otherOrganization.toList)
    (same : placeOf organization repository = placeOf otherOrganization otherRepository) :
    organization = otherOrganization ∧ repository = otherRepository := by
  have cut : ∀ first second : String, '/' ∉ first.toList →
      Text.cut? '/' (placeOf first second).toList = some (first.toList, second.toList) := by
    intro first second absent
    have whole : (placeOf first second).toList = first.toList ++ '/' :: second.toList := by
      simp [placeOf]
    rw [whole, Text.cut_append _ _ _ absent]
  have pieces := cut organization repository clear
  rw [same, cut otherOrganization otherRepository otherClear] at pieces
  obtain ⟨first, second⟩ := Prod.mk.inj (Option.some.inj pieces)
  exact ⟨(String.toList_inj.mp first).symm, (String.toList_inj.mp second).symm⟩

theorem ObjectAddress.name_inj {address other : ObjectAddress}
    (clear : '/' ∉ address.organization.toList) (otherClear : '/' ∉ other.organization.toList) :
    address.name = other.name ↔ address = other := by
  constructor
  · intro same
    obtain ⟨samePlace, sameOid⟩ := ObjectName.mk.inj same
    obtain ⟨sameOrganization, sameRepository⟩ := placeOf_inj clear otherClear samePlace
    cases address
    cases other
    simp_all
  · rintro rfl
    rfl

end ObjectTransfer
