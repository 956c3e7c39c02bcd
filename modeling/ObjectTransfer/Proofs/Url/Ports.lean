import ObjectTransfer.Proofs.Url.ReadUrls

/-!
# Ports that are written

A URL that is read never keeps a port that its scheme implies, and neither does
one that is given another host.  So its port, where there is one, is what a
client writes after the host in a request.
-/

set_option autoImplicit false

namespace ObjectTransfer.Url

/-- A port that is there is not the one that the scheme implies. -/
def IsOwnPort (scheme : String) (port : Option Nat) : Prop :=
  ∀ number, port = some number → defaultPort? scheme ≠ some number

def HasOwnPort (url : Url) : Prop := IsOwnPort url.scheme url.port?

theorem isOwnPort_none (scheme : String) : IsOwnPort scheme none := by
  rintro _ ⟨⟩

/-! ## Reading -/

theorem readPort_own (scheme : String) (text : List Char) :
    Ensures (fun read => IsOwnPort scheme read.1) (readPort scheme text) := by
  have own : ∀ (digits : List Char) (value : Nat), IsOwnPort scheme
      (if digits.isEmpty ∨ defaultPort? scheme = some value then none else some value) := by
    intro digits value number written implied
    split at written
    · cases written
    · rename_i other
      cases written
      exact other (.inr implied)
  unfold readPort
  refine .ite (fun _ => ensures_error _) fun _ => ?_
  split
  · exact ensures_ok _ (own _ _)
  · exact .ite (fun _ => ensures_ok _ (own _ _)) fun _ => ensures_error _

theorem parse_own (text : String) : Ensures HasOwnPort (parse text) := by
  intro url made
  cases parse_read text url made with
  | hosted scheme named authority read rest =>
    obtain ⟨userInfo, host, found, port, numbered⟩ := read
    rintro number ⟨⟩
    obtain ⟨text, rest, there⟩ := numbered number rfl
    exact readPort_own scheme text _ there number rfl
  | file => exact isOwnPort_none _
  | rooted => exact isOwnPort_none _
  | bare => exact isOwnPort_none _

/-! ## Another host -/

theorem port?_toHost (url : Url) (host : Host) : (url.toHost host).port? = url.port? := by
  simp only [port?, toHost]
  cases url.authority <;> rfl

theorem withHost_own (url : Url) (host : List Char) (own : url.HasOwnPort) :
    Ensures HasOwnPort (url.withHost host) := by
  intro changed made
  obtain ⟨found, -, rfl⟩ := withHost_read url host changed made
  rw [HasOwnPort, port?_toHost]
  exact own

end ObjectTransfer.Url
