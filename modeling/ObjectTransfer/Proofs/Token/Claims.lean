import ObjectTransfer.Proofs.Wire.TextualRoundTrip
import ObjectTransfer.Token.Claims

/-!
# The payload of a token says what was put into it

The members of a scope are set aside in their order, the expiry is taken where
it stands, and the members that were set aside make up the scope again.
-/

set_option autoImplicit false

namespace ObjectTransfer

open Json.Reader Wire

theorem Scope.sound_wire : Scope.wire.shape.Sound := by decide

namespace Claims

def scopeMembers (scope : Scope) : List (String × Json) :=
  Scope.fields.toMembers (Scope.wire.pack scope)

theorem fits_scopeMembers (scope : Scope) :
    ∀ member ∈ scopeMembers scope, Json.Fits 127 member.2 := by
  have actionsFit : Json.Fits 127 (.array ((scope.actions.toList.map TokenAction.wire.pack).map
      TokenAction.wire.shape.toJson)) := by
    refine ⟨by decide, ?_⟩
    intro element inside
    obtain ⟨place, -, rfl⟩ := List.mem_map.mp inside
    trivial
  obtain ⟨organization, repository, oid, actions⟩ := scope
  intro member inside
  cases oid with
  | none =>
    simp only [scopeMembers, Scope.fields, Scope.wire, Fields.toMembers, Presence.members,
      List.cons_append, List.nil_append, List.mem_cons, List.not_mem_nil, or_false] at inside
    rcases inside with rfl | rfl | rfl
    · trivial
    · trivial
    · exact actionsFit
  | some oid =>
    simp only [scopeMembers, Scope.fields, Scope.wire, Fields.toMembers, Presence.members,
      List.cons_append, List.nil_append, List.mem_cons, List.not_mem_nil, or_false] at inside
    rcases inside with rfl | rfl | rfl | rfl
    · trivial
    · trivial
    · trivial
    · exact actionsFit

theorem name_ne_expiry (scope : Scope) : ∀ member ∈ scopeMembers scope, member.1 ≠ "exp" := by
  intro member inside same
  have key := mem_keys_of_mem_toMembers Scope.fields (Scope.wire.pack scope) member inside
  rw [same] at key
  exact absurd key (by decide)

theorem steps_scopeMembers (members : List (String × Json)) :
    (∀ member ∈ members, Json.Fits 127 member.2 ∧ member.1 ≠ "exp") →
    ∀ earlier : List (String × Json),
      Steps (readMember 127) members ⟨none, earlier⟩ ⟨none, earlier ++ members⟩ := by
  induction members with
  | nil =>
    intro _ earlier
    rw [List.append_nil]
    rfl
  | cons member more ih =>
    intro facts earlier
    obtain ⟨fits, other⟩ := facts member List.mem_cons_self
    have later := ih (fun next inside => facts next (List.mem_cons_of_mem _ inside))
      (earlier ++ [member])
    rw [List.append_assoc, List.singleton_append] at later
    refine ⟨⟨none, earlier ++ [member]⟩, ?_, later⟩
    intro rest follows
    have whole := (Json.reads_written 127 member.2 fits).read rest follows
    rw [readMember, if_neg other, bind_read _ _ _ _ _ (colon_read _),
      bind_read _ _ _ _ _ whole]
    rfl

theorem read_expiry (expiry : Int) (low : leastTime ≤ expiry) (high : expiry ≤ largestTime)
    (rest : Octets) (follows : Follows rest) :
    readInteger "i64" timeOf (Utf8.encodeChars (Json.writtenInteger expiry) ++ rest) =
      .ok (expiry, rest) := by
  have accepted : timeOf (.integer expiry) = .ok expiry := by simp [timeOf, low, high]
  simp only [leastTime] at low
  simp only [largestTime] at high
  exact (reads_integer "i64" timeOf expiry expiry (by omega) accepted).read rest follows

theorem steps_claims (claims : Claims) (low : leastTime ≤ claims.expiry)
    (high : claims.expiry ≤ largestTime) :
    Steps (readMember 127)
      (scopeMembers claims.scope ++ [("exp", .integer claims.expiry)]) ⟨none, []⟩
      ⟨some claims.expiry, scopeMembers claims.scope⟩ := by
  have earlier := steps_scopeMembers (scopeMembers claims.scope)
    (fun member inside =>
      ⟨fits_scopeMembers claims.scope member inside, name_ne_expiry claims.scope member inside⟩) []
  rw [List.nil_append] at earlier
  refine steps_append _ _ _ _ _ _ earlier ⟨_, ?_, rfl⟩
  intro rest follows
  have read := read_expiry claims.expiry low high rest follows
  rw [readMember, if_pos rfl]
  change (colon >>= fun _ => readInteger "i64" timeOf >>= fun expiry =>
    pure (⟨some expiry, scopeMembers claims.scope⟩ : Collected)) _ = _
  rw [bind_read _ _ _ _ _ (colon_read _), Json.written, bind_read _ _ _ _ _ read]
  rfl

theorem settle_collected (claims : Claims) :
    settle ⟨some claims.expiry, scopeMembers claims.scope⟩ = .ok claims := by
  have scope := Format.ofMembers_pack Scope.wire Scope.sound_wire claims.scope
    (scopeMembers claims.scope) rfl
  simp only [settle, scope, ok_bind]

/-- What reading claims comes to, behind the brace that opens them. -/
theorem read_brace (octets : Octets) :
    read (123 :: octets) = (do
      let seen ← eachMember (readMember 127) (octets.length + 1) true ⟨none, []⟩
      settled (settle seen)) octets := rfl

theorem encodeChars_written (claims : Claims) :
    Utf8.encodeChars claims.toJson.written = 123 :: Utf8.encodeChars (Json.writtenMembers
      (scopeMembers claims.scope ++ [("exp", .integer claims.expiry)])) := by
  rw [toJson, Json.written, Utf8.encodeChars_cons]
  rfl

/-- Claims are read back from their payload as long as their expiry fits. -/
theorem ofOctets_toOctets (claims : Claims) (low : leastTime ≤ claims.expiry)
    (high : claims.expiry ≤ largestTime) : ofOctets claims.toOctets = .ok claims := by
  apply run_written
  refine ⟨⟨123, _, encodeChars_written claims, rfl, by decide⟩, ?_⟩
  intro rest _
  have enough := Json.members_lt_rounds
    (scopeMembers claims.scope ++ [("exp", .integer claims.expiry)]) rest
  have members := eachMember_written _ _ _ _ (steps_claims claims low high) _ rest enough
  rw [encodeChars_written, List.cons_append, read_brace, bind_read _ _ _ _ _ members,
    settle_collected]
  rfl

end Claims

end ObjectTransfer
