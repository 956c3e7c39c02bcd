import ObjectTransfer.Proofs.Control.Outcome
import ObjectTransfer.Proofs.Encoding.Base64Spelling
import ObjectTransfer.Proofs.Encoding.Utf8
import ObjectTransfer.Token.Authorizer

/-!
# Which tokens are accepted

A token is accepted at some time or other exactly if it consists of a payload
that carries claims, a dot, and the one text that spells the keyed digest of that
payload.  Time only decides between a scope and an expired token, so no other
text can stand behind the dot.
-/

set_option autoImplicit false

namespace ObjectTransfer.Signer

open Base64Url (Spells)

/-! ## Octets as text -/

theorem eq_base64_iff (text : List Char) (octets : Octets) :
    text = base64 octets ↔ Spells text octets := by
  have written : Spells (base64 octets) octets := Base64Url.spells_encode octets
  constructor
  · rintro rfl
    exact written
  · exact fun spells => spells.eq written

theorem encodeChars_base64 (octets : Octets) :
    Utf8.encodeChars (base64 octets) = Base64Url.encode octets := by
  apply Utf8.encodeChars_ofNat
  intro written inside
  obtain ⟨value, small, rfl⟩ := Base64Url.exists_symbol_of_mem_encode octets written inside
  exact Base64Url.symbol_lt value small

theorem unbase64_base64 (octets : Octets) : unbase64 (base64 octets) = .ok octets := by
  rw [unbase64, encodeChars_base64, Base64Url.decode_encode]

theorem unbase64_eq_ok_iff (text : List Char) (octets : Octets) :
    unbase64 text = .ok octets ↔ text = base64 octets := by
  constructor
  · intro read
    unfold unbase64 at read
    split at read
    · rename_i decoded
      cases read
      have written := (Base64Url.decode_eq_ok_iff _ _).mp decoded
      rw [← encodeChars_base64] at written
      exact Utf8.encodeChars_injective _ _ written
    · cases read
  · rintro rfl
    exact unbase64_base64 octets

theorem unbase64_failure (text : List Char) (foreign : ∀ octets, text ≠ base64 octets) :
    ∃ reason, unbase64 text = .error (.invalid reason) := by
  cases read : unbase64 text with
  | ok octets => exact absurd ((unbase64_eq_ok_iff text octets).mp read) (foreign octets)
  | error failure =>
    unfold unbase64 at read
    split at read
    · cases read
    · cases read
      exact ⟨_, rfl⟩

theorem symbol_clear (c : Char) (octets : Octets) (inside : c ∈ base64 octets) :
    c ≠ '.' ∧ Text.isBlank c = false := by
  have all : ∀ value : Fin 64, Char.ofNat (Base64Url.symbol value.val).toNat ≠ '.' ∧
      Text.isBlank (Char.ofNat (Base64Url.symbol value.val).toNat) = false := by decide
  obtain ⟨written, symbols, rfl⟩ := List.mem_map.mp inside
  obtain ⟨value, small, rfl⟩ := Base64Url.exists_symbol_of_mem_encode octets written symbols
  exact all ⟨value, small⟩

theorem dot_not_mem_base64 (octets : Octets) : '.' ∉ base64 octets := by
  intro inside
  exact (symbol_clear '.' octets inside).1 rfl

/-! ## Accepted tokens -/

/-- A payload text that carries claims: it spells octets that say them. -/
def Carries (payload : List Char) (claims : Claims) : Prop :=
  ∃ octets, Spells payload octets ∧ Claims.ofOctets octets = .ok claims

/-- The text behind a payload spells the keyed digest of the payload as it is written. -/
def Certifies (signer : Signer) (payload tag : List Char) : Prop :=
  Spells tag (Hmac.tag signer.secret (Utf8.encodeChars payload))

/-- A certified payload with claims, which is what stands before the first dot. -/
def Accepts (signer : Signer) (token : List Char) (claims : Claims) : Prop :=
  ∃ payload tag, '.' ∉ payload ∧ token = payload ++ '.' :: tag ∧ signer.Certifies payload tag ∧
    Carries payload claims

theorem certifies_iff (signer : Signer) (payload tag : List Char) :
    signer.Certifies payload tag ↔ tag = base64 (signer.signature payload) :=
  (eq_base64_iff tag _).symm

theorem verify_accepted (signer : Signer) (token : List Char) (claims : Claims) (now : Int)
    (accepted : signer.Accepts token claims) :
    signer.verify token now =
      if claims.expiry ≤ now then .error .expired else .ok claims.scope := by
  obtain ⟨payload, tag, noDot, rfl, certified, octets, spelled, said⟩ := accepted
  obtain rfl := (signer.certifies_iff payload tag).mp certified
  obtain rfl := (eq_base64_iff payload octets).mpr spelled
  simp only [verify, Text.cut_append '.' _ _ noDot, unbase64_base64, ok_bind, said, ne_eq,
    not_true_eq_false, if_false]
  rfl

/-- A payload behind which stands what is not its signature. -/
theorem verify_foreign_tag (signer : Signer) (payload tag : List Char) (now : Int)
    (noDot : '.' ∉ payload) (foreign : ¬ signer.Certifies payload tag) :
    ∃ reason, signer.verify (payload ++ '.' :: tag) now = .error (.invalid reason) := by
  -- The tag may hold dots of its own: the cut is at the first dot, so it is no part of the payload.
  by_cases written : ∃ octets, tag = base64 octets
  · obtain ⟨given, rfl⟩ := written
    have different : given ≠ signer.signature payload := by
      rintro rfl
      exact foreign ((signer.certifies_iff payload _).mpr rfl)
    refine ⟨"Signature mismatch", ?_⟩
    simp only [verify, Text.cut_append '.' _ _ noDot, unbase64_base64, ok_bind]
    rw [if_pos different]
    rfl
  · obtain ⟨reason, failed⟩ := unbase64_failure tag (fun octets same => written ⟨octets, same⟩)
    refine ⟨reason, ?_⟩
    simp only [verify, Text.cut_append '.' _ _ noDot, failed, error_bind]

theorem verify_foreign_payload (signer : Signer) (payload tag : List Char) (now : Int)
    (noDot : '.' ∉ payload) (certified : signer.Certifies payload tag)
    (silent : ∀ claims, ¬ Carries payload claims) :
    ∃ reason, signer.verify (payload ++ '.' :: tag) now = .error (.invalid reason) := by
  obtain rfl := (signer.certifies_iff payload tag).mp certified
  simp only [verify, Text.cut_append '.' _ _ noDot, unbase64_base64, ok_bind, ne_eq,
    not_true_eq_false, if_false]
  by_cases written : ∃ octets, payload = base64 octets
  · obtain ⟨octets, rfl⟩ := written
    rw [unbase64_base64]
    cases said : Claims.ofOctets octets with
    | ok claims => exact absurd ⟨octets, (eq_base64_iff _ _).mp rfl, said⟩ (silent claims)
    | error stop =>
      refine ⟨stop.message octets, ?_⟩
      simp only [ok_bind, said]
      rfl
  · obtain ⟨reason, failed⟩ := unbase64_failure payload
      (fun octets same => written ⟨octets, same⟩)
    refine ⟨reason, ?_⟩
    rw [failed]
    rfl

theorem verify_rejected (signer : Signer) (token : List Char) (now : Int)
    (rejected : ∀ claims, ¬ signer.Accepts token claims) :
    ∃ reason, signer.verify token now = .error (.invalid reason) := by
  cases parts : Text.cut? '.' token with
  | none =>
    refine ⟨"Missing signature", ?_⟩
    simp only [verify, parts]
    rfl
  | some pair =>
    obtain ⟨payload, tag⟩ := pair
    obtain ⟨rfl, noDot⟩ := Text.eq_of_cut '.' token payload tag parts
    by_cases certified : signer.Certifies payload tag
    · apply verify_foreign_payload signer payload tag now noDot certified
      intro claims carried
      exact rejected claims ⟨payload, tag, noDot, rfl, certified, carried⟩
    · exact verify_foreign_tag signer payload tag now noDot certified

/-! ## Acceptance is exact -/

theorem verify_eq_ok_iff (signer : Signer) (token : List Char) (scope : Scope) (now : Int) :
    signer.verify token now = .ok scope ↔
      ∃ claims, signer.Accepts token claims ∧ claims.scope = scope ∧ now < claims.expiry := by
  constructor
  · intro verified
    by_cases some_claims : ∃ claims, signer.Accepts token claims
    · obtain ⟨claims, accepted⟩ := some_claims
      rw [verify_accepted signer token claims now accepted] at verified
      split at verified
      · cases verified
      · cases verified
        exact ⟨claims, accepted, rfl, by omega⟩
    · obtain ⟨reason, failed⟩ := verify_rejected signer token now (not_exists.mp some_claims)
      rw [failed] at verified
      cases verified
  · rintro ⟨claims, accepted, rfl, early⟩
    rw [verify_accepted signer token claims now accepted, if_neg (by omega)]

theorem verify_eq_expired_iff (signer : Signer) (token : List Char) (now : Int) :
    signer.verify token now = .error .expired ↔
      ∃ claims, signer.Accepts token claims ∧ claims.expiry ≤ now := by
  constructor
  · intro verified
    by_cases some_claims : ∃ claims, signer.Accepts token claims
    · obtain ⟨claims, accepted⟩ := some_claims
      rw [verify_accepted signer token claims now accepted] at verified
      split at verified
      · exact ⟨claims, accepted, by assumption⟩
      · cases verified
    · obtain ⟨reason, failed⟩ := verify_rejected signer token now (not_exists.mp some_claims)
      rw [failed] at verified
      cases verified
  · rintro ⟨claims, accepted, late⟩
    rw [verify_accepted signer token claims now accepted, if_pos late]

theorem verify_invalid_iff (signer : Signer) (token : List Char) (now : Int) :
    (∃ reason, signer.verify token now = .error (.invalid reason)) ↔
      ∀ claims, ¬ signer.Accepts token claims := by
  constructor
  · rintro ⟨reason, failed⟩ claims accepted
    rw [verify_accepted signer token claims now accepted] at failed
    split at failed <;> cases failed
  · exact verify_rejected signer token now

/-- A scope or an expired token comes only from a payload that carries it, with the keyed digest of
the payload behind the dot; everything else is invalid.  The digest has thirty-two octets, which are
spelled by forty-three letters and by no other text, so any other text in their place is invalid
too. -/
theorem verify_exact (signer : Signer) :
    (∀ token scope now, signer.verify token now = .ok scope ↔
      ∃ claims, signer.Accepts token claims ∧ claims.scope = scope ∧ now < claims.expiry) ∧
    (∀ token now, signer.verify token now = .error .expired ↔
      ∃ claims, signer.Accepts token claims ∧ claims.expiry ≤ now) ∧
    (∀ token now, (∃ reason, signer.verify token now = .error (.invalid reason)) ↔
      ∀ claims, ¬ signer.Accepts token claims) ∧
    (∀ payload tag now, '.' ∉ payload →
      (∀ reason, signer.verify (payload ++ '.' :: tag) now ≠ .error (.invalid reason)) →
        Spells tag (Hmac.tag signer.secret (Utf8.encodeChars payload)) ∧ tag.length = 43 ∧
          ∀ other later, other ≠ tag →
            ∃ reason, signer.verify (payload ++ '.' :: other) later = .error (.invalid reason)) := by
  refine ⟨signer.verify_eq_ok_iff, signer.verify_eq_expired_iff, signer.verify_invalid_iff, ?_⟩
  intro payload tag now noDot reached
  have certified : signer.Certifies payload tag := by
    apply Classical.byContradiction
    intro foreign
    obtain ⟨reason, failed⟩ := verify_foreign_tag signer payload tag now noDot foreign
    exact reached reason failed
  have long : tag.length = 43 := by rw [certified.length, Hmac.length_tag]
  refine ⟨certified, long, ?_⟩
  intro other later different
  apply verify_foreign_tag signer payload other later noDot
  intro also
  exact different (also.eq certified)

end ObjectTransfer.Signer
