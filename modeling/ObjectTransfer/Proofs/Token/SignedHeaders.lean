import ObjectTransfer.Proofs.Access.GrantHistory
import ObjectTransfer.Proofs.Token.Acceptance
import ObjectTransfer.Proofs.Token.Claims

/-!
# Headers that were issued are honoured

What a signer hands out for a scope is recognized by the same signer wherever
the header turns up, up to the second at which it expires, and stands for the
permissions of that scope and for nothing else.  A clock never shows the last
second that a payload can carry, so an expiry that was cut down to this second
never comes too early.
-/

set_option autoImplicit false

namespace ObjectTransfer

/-- The seconds that a clock can show are below the last one that a payload can carry. -/
def ClockTime (seconds : Int) : Prop := leastTime ≤ seconds ∧ seconds < largestTime

instance (seconds : Int) : Decidable (ClockTime seconds) :=
  inferInstanceAs (Decidable (leastTime ≤ seconds ∧ seconds < largestTime))

/-! ## Headers under any spelling -/

/-- Headers that hold a value under one spelling of a name, and nothing under the others. -/
def Headers.Carry (headers : Headers) (name value : String) : Prop :=
  ∃ spelling, Headers.sameName spelling name = true ∧ headers.get? spelling = some value ∧
    ∀ other, Headers.sameName other name = true → other ≠ spelling → headers.get? other = none

theorem Headers.find?_carried (headers : Headers) (name value : String)
    (carried : headers.Carry name value) : headers.find? name = some value := by
  obtain ⟨spelling, same, held, alone⟩ := carried
  have inside : (spelling, value) ∈ headers.toList := mem_of_findEntry _ _ _ held
  unfold Headers.find?
  cases found : headers.toList.find? fun entry => sameName entry.1 name with
  | none => exact absurd same (by simpa using List.find?_eq_none.mp found _ inside)
  | some entry =>
    have fits := List.find?_some found
    have value_of : headers.get? entry.1 = some entry.2 :=
      headers.get?_of_mem entry (List.mem_of_find?_eq_some found)
    by_cases here : entry.1 = spelling
    · rw [here, held] at value_of
      rw [Option.map_some, value_of]
    · rw [alone entry.1 fits here] at value_of
      cases value_of

theorem Headers.carry_insert (name value : String) :
    Headers.Carry (Dictionary.empty.insert name value) name value := by
  refine ⟨name, by simp [Headers.sameName], by simp, ?_⟩
  intro other _ different
  simp [different]

/-! ## What a scope grants -/

theorem contains_foldl_actions (actions : List TokenAction) (permission : Permission) :
    ∀ start : PermissionSet,
      (actions.foldl (fun set action => set.union action.permissions) start).contains
          permission = true ↔
        start.contains permission = true ∨
          ∃ action ∈ actions, action.permissions.contains permission = true := by
  induction actions with
  | nil => simp
  | cons action more ih =>
    intro start
    rw [List.foldl_cons, ih]
    simp [or_assoc]

theorem Scope.contains_permissions (scope : Scope) (permission : Permission) :
    scope.permissions.contains permission = true ↔
      ∃ action, scope.actions.contains action = true ∧
        action.permissions.contains permission = true := by
  have listed : ∀ action, action ∈ scope.actions.toList ↔ scope.actions.contains action = true := by
    intro action
    simp [ActionSet.toList, TokenAction.mem_all]
  rw [Scope.permissions, contains_foldl_actions]
  simp [listed]

/-- Authority over just what a scope names, for just what its actions need. -/
def Scope.Delimits (scope : Scope) (authority : Authority) : Prop :=
  ∀ organization repository permission oid,
    authority organization repository permission oid = true ↔
      organization = scope.organization ∧ repository = scope.repository ∧
        (∃ action, scope.actions.contains action = true ∧
          action.permissions.contains permission = true) ∧
        (scope.oid = none ∨ oid = scope.oid)

theorem Signer.delimits_holder (scope : Scope) : scope.Delimits (Signer.holder scope).authority := by
  intro organization repository permission oid
  rw [← Scope.contains_permissions]
  exact Grants.permits_single scope.organization scope.repository scope.oid scope.permissions
    organization repository permission oid

namespace Signer

/-! ## From the issue to the presentation -/

theorem accepts_sign (signer : Signer) (claims : Claims) (low : leastTime ≤ claims.expiry)
    (high : claims.expiry ≤ largestTime) : signer.Accepts (signer.sign claims) claims :=
  ⟨base64 claims.toOctets, _, dot_not_mem_base64 _, rfl, (signer.certifies_iff _ _).mpr rfl,
    claims.toOctets, (eq_base64_iff _ _).mp rfl, Claims.ofOctets_toOctets claims low high⟩

theorem sign_clear (signer : Signer) (claims : Claims) :
    ∀ c ∈ signer.sign claims, Text.isBlank c = false := by
  intro c inside
  rcases List.mem_append.mp inside with payload | rest
  · exact (symbol_clear c _ payload).2
  · rcases List.mem_cons.mp rest with rfl | tag
    · decide
    · exact (symbol_clear c _ tag).2

def headerText (signer : Signer) (claims : Claims) : String :=
  String.ofList (bearer ++ signer.sign claims)

theorem tokenIn?_headerText (signer : Signer) (claims : Claims) :
    tokenIn? (signer.headerText claims) = some (signer.sign claims) := by
  have marked : bearer.isPrefixOf (bearer ++ signer.sign claims) = true :=
    List.isPrefixOf_iff_prefix.mpr (List.prefix_append _ _)
  rw [tokenIn?, headerText, String.toList_ofList, if_pos marked, List.drop_left,
    Text.trimBy_eq_self Text.isBlank _ (sign_clear signer claims)]

theorem authenticate_headerText (signer : Signer) (claims : Claims) (low : leastTime ≤ claims.expiry)
    (high : claims.expiry ≤ largestTime) (presented : Headers) (now : Int)
    (carried : presented.Carry signer.headerName (signer.headerText claims)) :
    signer.authenticate presented now =
      if claims.expiry ≤ now then .error .expired else .ok (some (holder claims.scope)) := by
  have accepted := accepts_sign signer claims low high
  rw [authenticate, Headers.find?_carried _ _ _ carried, Option.bind_some, tokenIn?_headerText]
  simp only [verify_accepted signer _ claims now accepted]
  split <;> rfl

/-- The claims of a token that is issued: an expiry that no payload can carry is cut down. -/
def issued (scope : Scope) (lifetime : UInt64) (now : Int) : Claims :=
  ⟨scope, min (now + lifetime.toNat) largestTime⟩

theorem headers_eq (signer : Signer) (scope : Scope) (lifetime : UInt64) (now : Int) :
    signer.headers scope lifetime now =
      if largestTime < (lifetime.toNat : Int) then
        .error (.signing s!"Lifetime {lifetime}s is out of range")
      else .ok (Dictionary.empty.insert signer.headerName
        (signer.headerText (issued scope lifetime now))) := by
  unfold headers issue
  by_cases long : largestTime < (lifetime.toNat : Int)
  · simp [long, bind, Except.bind]
  · simp [long, bind, Except.bind, pure, Except.pure, headerText, issued]

theorem expiry_issued_le_iff (scope : Scope) (lifetime : UInt64) (now shown : Int)
    (shownClock : ClockTime shown) :
    (issued scope lifetime now).expiry ≤ shown ↔ now + lifetime.toNat ≤ shown := by
  -- Where the cut changes the expiry, both sides are false: no clock gets that far.
  obtain ⟨-, high⟩ := shownClock
  simp only [issued]
  omega

theorem authenticate_issued (signer : Signer) (scope : Scope) (lifetime : UInt64)
    (now shown : Int) (nowClock : ClockTime now) (shownClock : ClockTime shown)
    (presented : Headers)
    (carried : presented.Carry signer.headerName
      (signer.headerText (issued scope lifetime now))) :
    signer.authenticate presented shown =
      if now + lifetime.toNat ≤ shown then .error .expired else .ok (some (holder scope)) := by
  have low : leastTime ≤ (issued scope lifetime now).expiry := by
    obtain ⟨low, -⟩ := nowClock
    simp only [issued, leastTime, largestTime] at low ⊢
    omega
  have high : (issued scope lifetime now).expiry ≤ largestTime := by
    simp only [issued]
    omega
  rw [authenticate_headerText signer _ low high presented shown carried]
  have scopeKept : (issued scope lifetime now).scope = scope := rfl
  simp only [expiry_issued_le_iff scope lifetime now shown shownClock, scopeKept]

/-- Headers are issued for every lifetime that fits, and whoever presents them before they expire
holds just what their scope delimits. -/
theorem headers_authenticate (signer : Signer) (scope : Scope) (lifetime : UInt64) (now : Int)
    (nowClock : ClockTime now) :
    ((∃ reason, signer.headers scope lifetime now = .error (.signing reason)) ↔
      largestTime < (lifetime.toNat : Int)) ∧
    ((lifetime.toNat : Int) ≤ largestTime → ∃ value,
      signer.headers scope lifetime now =
        .ok (Dictionary.empty.insert signer.headerName value) ∧
      ∀ presented : Headers, presented.Carry signer.headerName value →
        ∀ shown, ClockTime shown →
          (now + lifetime.toNat ≤ shown → signer.authenticate presented shown = .error .expired) ∧
          (shown < now + lifetime.toNat → ∃ identity,
            signer.authenticate presented shown = .ok (some identity) ∧
              scope.Delimits identity.authority)) := by
  constructor
  · rw [headers_eq]
    constructor
    · rintro ⟨reason, failed⟩
      split at failed
      · assumption
      · cases failed
    · intro long
      exact ⟨_, if_pos long⟩
  · intro short
    refine ⟨signer.headerText (issued scope lifetime now), ?_, ?_⟩
    · rw [headers_eq, if_neg (by omega)]
    · intro presented carried shown shownClock
      have decided := authenticate_issued signer scope lifetime now shown nowClock shownClock
        presented carried
      constructor
      · intro late
        rw [decided, if_pos late]
      · intro early
        refine ⟨holder scope, ?_, delimits_holder scope⟩
        rw [decided, if_neg (by omega)]

theorem headers_authenticate_quarter_hour :
    ∃ value, (Signer.mk [107, 101, 121] "Authorization").headers
        ⟨"acme", "wïdgets", some "0a", ⟨false, true, true⟩⟩ 900 1700000000 =
          .ok (Dictionary.empty.insert "Authorization" value) ∧
      (Signer.mk [107, 101, 121] "Authorization").authenticate
        (Dictionary.empty.insert "authorization" value) 1700000900 = .error .expired ∧
      ∃ identity, (Signer.mk [107, 101, 121] "Authorization").authenticate
        (Dictionary.empty.insert "authorization" value) 1700000899 = .ok (some identity) ∧
          identity.authority "acme" "wïdgets" .write (some "0a") = true ∧
          identity.authority "acme" "wïdgets" .read (some "0a") = false := by
  have nowClock : ClockTime 1700000000 := by decide
  obtain ⟨-, issues⟩ := headers_authenticate ⟨[107, 101, 121], "Authorization"⟩
    ⟨"acme", "wïdgets", some "0a", ⟨false, true, true⟩⟩ 900 1700000000 nowClock
  obtain ⟨value, headers, honoured⟩ := issues (by decide)
  have respelled : Headers.Carry (Dictionary.empty.insert "authorization" value)
      "Authorization" value := by
    refine ⟨"authorization", by decide, by simp, ?_⟩
    intro other _ different
    simp [different]
  refine ⟨value, headers, ?_, ?_⟩
  · exact (honoured _ respelled 1700000900 (by decide)).1 (by decide)
  · obtain ⟨identity, known, delimits⟩ :=
      (honoured _ respelled 1700000899 (by decide)).2 (by decide)
    refine ⟨identity, known, ?_, ?_⟩
    · exact (delimits _ _ _ _).mpr ⟨rfl, rfl, ⟨.write, rfl, rfl⟩, .inr rfl⟩
    · rw [Bool.eq_false_iff]
      intro reading
      obtain ⟨-, -, ⟨action, chosen, allowed⟩, -⟩ := (delimits _ _ _ _).mp reading
      cases action <;> cases chosen <;> cases allowed

end Signer

end ObjectTransfer
