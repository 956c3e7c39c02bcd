import ObjectTransfer.Proofs.Control.Outcome
import ObjectTransfer.Url.Parse

/-!
# How a URL is read

A URL that is read has one of four forms, and each part of it was read from some
text: a scheme with an authority and segments behind it, a file, segments right
after the scheme, or an opaque path.  What holds of all URLs that can be read is
therefore shown for these four, with no need to follow the text once more.
-/

set_option autoImplicit false

namespace ObjectTransfer.Url

def IsScheme (scheme : String) : Prop := ∃ text rest, cutScheme? text = some (scheme, rest)

def IsHost (host : Host) : Prop :=
  ∃ text, readHost text = .ok host ∨ readOpaqueHost text = .ok host

/-- Every part of the authority was read from some text. -/
inductive IsAuthority (scheme : String) : Authority → Prop
  | read (userInfo : List Char) (host : Option Host) (named : ∀ found ∈ host, IsHost found)
      (port : Option Nat)
      (numbered : ∀ number ∈ port, ∃ text rest, readPort scheme text = .ok (some number, rest)) :
      IsAuthority scheme
        ⟨(credentials userInfo).username, (credentials userInfo).password, host, port⟩

inductive IsRead : Url → Prop
  | hosted (scheme : String) (named : IsScheme scheme) (authority : Authority)
      (read : IsAuthority scheme authority) (rest : List Char) :
      IsRead (finish scheme (some authority)
        (.segments (readPath (isSpecial scheme) false rest).1)
        (readPath (isSpecial scheme) false rest).2)
  | file (scheme : String) (named : IsScheme scheme) (host : Option Host)
      (read : ∀ found ∈ host, IsHost found) (text rest : List Char)
      (isLocal : isFile scheme = true) :
      IsRead (finish scheme (some ⟨[], none, host, none⟩)
        (.segments (Path.settle true (readPath true true text).1)) rest)
  | rooted (scheme : String) (named : IsScheme scheme) (text : List Char) :
      IsRead (finish scheme none (.segments (readPath false false text).1)
        (readPath false false text).2)
  | bare (scheme : String) (named : IsScheme scheme) (text rest : List Char) :
      IsRead (finish scheme none
        (.opaquePath (Percent.encode isPrintable (text.takeWhile fun c => !endsPath c))) rest)

/-! ## Hosts and authorities -/

theorem readHost_isHost (text : List Char) : Ensures IsHost (readHost text) :=
  fun _ read => ⟨text, .inl read⟩

theorem readOpaqueHost_isHost (text : List Char) : Ensures IsHost (readOpaqueHost text) :=
  fun _ read => ⟨text, .inr read⟩

theorem readAuthority_read (scheme : String) (text : List Char) :
    Ensures (fun read => IsAuthority scheme read.1) (readAuthority scheme text) := by
  -- The authority is put together at the end, with the host and the port that were read before.
  have ended : ∀ (condition : Prop) [Decidable condition] (userInfo : List Char)
      (host : Option Host) (read : Option Nat × List Char), (∀ found ∈ host, IsHost found) →
      (∀ number ∈ read.1, ∃ text rest, readPort scheme text = .ok (some number, rest)) →
      Ensures (fun read => IsAuthority scheme read.1) (do
        if condition then throw Fault.emptyHost
        return (⟨(credentials userInfo).username, (credentials userInfo).password, host, read.1⟩,
          read.2) : Except Fault (Authority × List Char)) := by
    intro condition _ userInfo host read named numbered
    exact .ite (fun _ => ensures_throw_bind _ _) fun _ =>
      ensures_ok _ (.read userInfo host named read.1 numbered)
  unfold readAuthority
  refine .ite (fun _ => ensures_throw_bind _ _) fun _ => ?_
  refine .ite (fun _ => ensures_throw_bind _ _) fun _ => ?_
  refine .ite (fun _ => ?_) fun _ => ?_
  all_goals
    refine .bind (by first | exact readHost_isHost _ | exact readOpaqueHost_isHost _)
      fun host named => ?_
    have kept : ∀ found ∈ (if host = .domain [] then none else some host), IsHost found := by
      intro found there
      split at there
      · cases there
      · cases there
        exact named
    simp only
    split
    · refine .ite (fun _ => ensures_throw_bind _ _) fun _ => ?_
      rename_i portText _ _
      intro read made
      obtain ⟨⟨port, rest⟩, there, made⟩ := (bind_eq_ok_iff _ _ _).mp made
      refine ended _ _ _ (port, rest) kept ?_ read made
      rintro number ⟨⟩
      exact ⟨portText, rest, there⟩
    · refine .bind (ensures_ok _ ?_) fun read numbered => ended _ _ _ read kept numbered
      rintro _ ⟨⟩

theorem readFileHost_read (text : List Char) :
    Ensures (fun read => ∀ found ∈ read.1, IsHost found) (readFileHost text) := by
  unfold readFileHost
  refine .ite (fun _ => ensures_ok _ ?_) fun _ => ?_
  · rintro _ ⟨⟩
  refine .ite (fun _ => ensures_ok _ ?_) fun _ => .bind (readHost_isHost _) fun host named => ?_
  · rintro _ ⟨⟩
  refine ensures_ok _ ?_
  split
  · rintro _ ⟨⟩
  · rintro _ ⟨⟩
    exact named

/-- A URL that is given another host. -/
def toHost (url : Url) (host : Host) : Url :=
  { url with
    authority := some { url.authority.getD ⟨[], none, none, none⟩ with host := some host } }

theorem withHost_read (url : Url) (text : List Char) :
    Ensures (fun changed => ∃ host, IsHost host ∧ changed = url.toHost host)
      (url.withHost text) := by
  unfold withHost
  refine .ite (fun _ => ensures_throw_bind _ _) fun _ => ?_
  refine .ite (fun _ => ensures_throw_bind _ _) fun _ => ?_
  refine .ite (fun _ => ?_) fun _ => ?_
  all_goals
    refine .bind (by first | exact readHost_isHost _ | exact readOpaqueHost_isHost _)
      fun host named => ?_
    unfold toHost
    split
    · rename_i authority there
      exact ensures_ok _ ⟨host, named, by rw [there]; rfl⟩
    · rename_i there
      exact ensures_ok _ ⟨host, named, by rw [there]; rfl⟩

/-! ## Paths -/

theorem holds_readPath {special file : Bool} {holds : List Segment → Prop} (missing : holds [])
    (made : ∀ text, holds (Path.segments special file text)) (text : List Char) :
    holds (readPath special file text).1 := by
  unfold readPath
  simp only
  split
  · split
    · exact made []
    · exact missing
  · exact made _

/-! ## URLs -/

variable {scheme : String} (named : IsScheme scheme)
include named

theorem withAuthority_read (text : List Char) : Ensures IsRead (withAuthority scheme text) := by
  intro url made
  obtain ⟨⟨authority, rest⟩, read, made⟩ := (bind_eq_ok_iff _ _ _).mp made
  cases made
  exact .hosted scheme named authority (readAuthority_read scheme text _ read) rest

theorem readFile_read (isLocal : isFile scheme = true) (text : List Char) :
    Ensures IsRead (readFile scheme text) := by
  have kept : ∀ (host : Option Host) (drives : Bool),
      (∀ found ∈ host, IsHost found) →
      ∀ found ∈ (if drives = true then none else host), IsHost found := by
    intro host drives read found there
    split at there
    · cases there
    · exact read found there
  unfold readFile
  simp only
  split
  · exact .bind (readFileHost_read _) fun read given =>
      ensures_ok _ (IsRead.file scheme named _ (kept read.1 _ given) _ _ isLocal)
  · refine .bind (ensures_ok _ ?_) fun read given =>
      ensures_ok _ (IsRead.file scheme named _ (kept read.1 _ given) _ _ isLocal)
    rintro _ ⟨⟩

theorem readOther_read (text : List Char) : Ensures IsRead (readOther scheme text) := by
  unfold readOther
  split
  · exact withAuthority_read named _
  · rename_i rest _
    have rooted := IsRead.rooted scheme named ('/' :: rest)
    exact ensures_ok _ rooted
  · exact ensures_ok _ (IsRead.bare scheme named _ _)

omit named in
theorem parse_read (text : String) : Ensures IsRead (parse text) := by
  unfold parse parseChars
  simp only
  split
  · exact ensures_error _
  · rename_i found rest cut
    have named : IsScheme found := ⟨_, rest, cut⟩
    refine .ite (fun isLocal => readFile_read named isLocal _) fun _ => ?_
    exact .ite (fun _ => withAuthority_read named _) fun _ => readOther_read named _

end ObjectTransfer.Url
