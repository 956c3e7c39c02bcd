import Mathlib.Data.List.TakeWhile
import ObjectTransfer.Proofs.Encoding.Form
import ObjectTransfer.Proofs.Url.HostTexts
import ObjectTransfer.Proofs.Url.PathText
import ObjectTransfer.Proofs.Url.ReadUrls
import ObjectTransfer.Proofs.Url.SegmentCharacters

/-!
# The query in the text of a URL

The query of a URL begins behind the first question mark of its text, if that
comes before any number sign, and lasts to the first number sign.  So whoever
has only the text finds the query that the URL was made with, as long as its
parts are properly divided: neither of the two signs stands before the query,
and no number sign stands in it.

This holds of every URL that is read, and no change to its host, its path or its
query takes it away.
-/

set_option autoImplicit false

namespace ObjectTransfer.Url

def queryOf? (text : String) : Option (List Char) :=
  (Text.cut? '?' (text.toList.takeWhile (· ≠ '#'))).map Prod.snd

/-- No part of the authority ends it. -/
structure Authority.IsParted (authority : Authority) : Prop where
  username : Continues authority.username
  password : ∀ password ∈ authority.password, Continues password
  host : ∀ host ∈ authority.host, Continues host.text

/-- The text of the URL can be cut into its parts. -/
structure IsParted (url : Url) : Prop where
  scheme : Continues url.scheme.toList
  authority : ∀ authority ∈ url.authority, authority.IsParted
  path : Continues url.pathText
  query : ∀ query ∈ url.query, '#' ∉ query

/-! ## Finding the query -/

theorem Authority.IsParted.continues_text {authority : Authority} (parted : authority.IsParted) :
    Continues authority.text := by
  have marked : ∀ credentials : List Char, Continues credentials →
      Continues (if credentials.isEmpty then [] else credentials ++ ['@']) := by
    intro credentials continues
    split
    · exact continues_nil
    · exact continues_append.mpr ⟨continues, by decide⟩
  unfold Authority.text
  refine continues_append.mpr ⟨continues_append.mpr ⟨marked _ ?_, ?_⟩, ?_⟩
  · refine continues_append.mpr ⟨parted.username, ?_⟩
    split
    · rename_i password there
      exact continues_cons.mpr ⟨by decide, parted.password password there⟩
    · exact continues_nil
  · split
    · rename_i host there
      exact parted.host host there
    · exact continues_nil
  · split
    · exact continues_cons.mpr ⟨by decide, continues_toDigits 10 _ (by decide) (by decide)⟩
    · exact continues_nil

theorem IsParted.continues_front {url : Url} (parted : url.IsParted) : Continues url.front := by
  unfold front
  refine continues_append.mpr ⟨parted.scheme, continues_cons.mpr ⟨by decide, ?_⟩⟩
  refine continues_append.mpr ⟨?_, ?_⟩
  · split
    · rename_i authority there
      exact continues_cons.mpr ⟨by decide, continues_cons.mpr
        ⟨by decide, (parted.authority authority there).continues_text⟩⟩
    · exact continues_nil
  · split <;> decide

theorem queryOf?_text {url : Url} (parted : url.IsParted) : queryOf? url.text = url.query := by
  have front := continues_append.mpr ⟨parted.continues_front, parted.path⟩
  have before : ∀ c ∈ url.front ++ url.pathText, decide (c ≠ '#') = true := by
    intro c inside
    have fine := front c inside
    simp only [endsPath, Bool.or_eq_false_iff, beq_eq_false_iff_ne] at fine
    exact decide_eq_true fine.2
  have unasked : '?' ∉ url.front ++ url.pathText := fun inside => by
    have fine := front '?' inside
    cases fine
  unfold queryOf?
  rw [text, String.toList_ofList, chars_eq, ← List.append_assoc,
    List.takeWhile_append_of_pos before]
  cases there : url.query with
  | none =>
    have behind : url.back.takeWhile (fun c => decide (c ≠ '#')) = [] := by
      unfold back
      rw [there]
      cases url.fragment <;> simp
    rw [behind, List.append_nil]
    cases cut : Text.cut? '?' (url.front ++ url.pathText) with
    | none => rfl
    | some parts =>
      obtain ⟨whole, -⟩ := Text.eq_of_cut '?' _ parts.1 parts.2 cut
      exact absurd (whole ▸ List.mem_append_right _ List.mem_cons_self) unasked
  | some query =>
    have inside : ∀ c ∈ '?' :: query, decide (c ≠ '#') = true := by
      intro c member
      refine decide_eq_true ?_
      rintro rfl
      rcases List.mem_cons.mp member with sign | found
      · exact absurd sign (by decide)
      · exact parted.query query there found
    have behind : url.back.takeWhile (fun c => decide (c ≠ '#')) = '?' :: query := by
      unfold back
      rw [there]
      simp only
      rw [List.takeWhile_append_of_pos inside]
      cases url.fragment <;> simp
    rw [behind, Text.cut_append '?' _ _ unasked]
    rfl

/-! ## Reading -/

theorem continues_scheme {scheme : String} (named : IsScheme scheme) : Continues scheme.toList := by
  obtain ⟨text, rest, cut⟩ := named
  have ascii : ∀ code : Fin 128, isSchemeCharacter (Char.ofNat code) = true →
      endsPath (Char.ofNat code).toLower = false := by decide +kernel
  have lower : ∀ c, isSchemeCharacter c = true → endsPath c.toLower = false := by
    intro c fine
    have small : c.toNat < 128 := by
      have below : ∀ bound : UInt32, c.val ≤ bound → bound.toNat < 128 → c.toNat < 128 :=
        fun bound least little => Nat.lt_of_le_of_lt (UInt32.le_iff_toNat_le.mp least) little
      simp only [isSchemeCharacter, Bool.or_eq_true, beq_iff_eq] at fine
      rcases fine with (((letter | digit) | rfl) | rfl) | rfl
      · rcases Bool.or_eq_true_iff.mp letter with upper | lower
        · exact below 'Z'.val (of_decide_eq_true upper).2 (by decide)
        · exact below 'z'.val (of_decide_eq_true (Bool.and_eq_true_iff.mp lower).2) (by decide)
      · exact below '9'.val (of_decide_eq_true (Bool.and_eq_true_iff.mp digit).2) (by decide)
      · decide
      · decide
      · decide
    have here := ascii ⟨c.toNat, small⟩
    rw [Char.ofNat_toNat] at here
    exact here fine
  unfold cutScheme? at cut
  simp only at cut
  split at cut
  · split at cut
    · cases cut
      rw [String.toList_ofList]
      intro c inside
      obtain ⟨written, among, rfl⟩ := List.mem_map.mp inside
      exact lower written (List.mem_takeWhile_imp among)
    · cases cut
  · cases cut

theorem continues_userInfo (text : List Char) :
    Continues (Percent.encode isPlainInUserInfo text) :=
  Percent.forall_mem_encode (forall_octet (by decide +kernel)) (by decide) (by decide) text

theorem isParted_credentials (text : List Char) :
    Continues (credentials text).username ∧
      ∀ password ∈ (credentials text).password, Continues password := by
  unfold credentials
  split
  · exact ⟨continues_userInfo text, by rintro _ ⟨⟩⟩
  · refine ⟨continues_userInfo _, ?_⟩
    simp only
    split
    · rintro _ ⟨⟩
    · rintro _ ⟨⟩
      exact continues_userInfo _

theorem IsHost.continues_text {host : Host} (read : IsHost host) : Continues host.text := by
  obtain ⟨text, given | given⟩ := read
  · exact readHost_continues text host given
  · exact readOpaqueHost_continues text host given

theorem IsAuthority.isParted {scheme : String} {authority : Authority}
    (read : IsAuthority scheme authority) : authority.IsParted := by
  obtain ⟨userInfo, host, named, port, -⟩ := read
  obtain ⟨username, password⟩ := isParted_credentials userInfo
  exact ⟨username, password, fun found there => (named found there).continues_text⟩

namespace Path

theorem allowsDrives_continues : AllowsDrives fun c => endsPath c = false where
  letter := by
    intro c alpha
    refine Bool.eq_false_iff.mpr fun ends => ?_
    rcases (endsPath_iff c).mp ends with rfl | rfl
    · exact absurd alpha (by decide)
    · exact absurd alpha (by decide)
  colon := by decide

theorem continues_encode_path (text : List Char) : Continues (Percent.encode isPlainInPath text) :=
  Percent.forall_mem_encode (forall_octet (by decide +kernel)) (by decide) (by decide) text

theorem continues_encode_segment (special : Bool) (text : List Char) :
    Continues (Percent.encode (isPlainInSegment special) text) := by
  refine Percent.forall_mem_encode (forall_octet ?_) (by decide) (by decide) text
  cases special <;> decide +kernel

theorem consists_continues_segments (special file : Bool) (text : List Char) :
    Consists (fun c => endsPath c = false) (segments special file text) :=
  consists_segments allowsDrives_continues special text fun _ _ part _ => continues_encode_path part

theorem continues_text_iff {path : List Segment} :
    Continues (Path.text path) ↔ Consists (fun c => endsPath c = false) path := by
  constructor
  · intro continues segment among c inside
    exact continues c (List.mem_flatMap.mpr ⟨segment, among, List.mem_cons_of_mem _ inside⟩)
  · intro consists c inside
    obtain ⟨segment, among, found⟩ := List.mem_flatMap.mp inside
    rcases List.mem_cons.mp found with rfl | within
    · decide
    · exact consists segment among c within

end Path

theorem consists_readPath (special file : Bool) (text : List Char) :
    Path.Consists (fun c => endsPath c = false) (readPath special file text).1 :=
  holds_readPath Path.consists_nil (Path.consists_continues_segments special file) text

theorem numberSign_not_mem_query (special : Bool) (text : List Char) :
    '#' ∉ Percent.encode (isPlainInQuery special) text := by
  have other : ∀ c ∈ Percent.encode (isPlainInQuery special) text, c ≠ '#' := by
    refine Percent.forall_mem_encode (forall_octet ?_) (by decide) (by decide) text
    cases special <;> decide +kernel
  exact fun inside => other '#' inside rfl

theorem isParted_finish {scheme : String} (named : IsScheme scheme) (authority : Option Authority)
    (authorityParted : ∀ found ∈ authority, found.IsParted) (path : PathKind) (rest : List Char)
    (pathContinues : Continues (finish scheme authority path rest).pathText) :
    (finish scheme authority path rest).IsParted where
  scheme := continues_scheme named
  authority := authorityParted
  path := pathContinues
  query := by
    intro query there
    simp only [finish, readTail] at there
    split at there
    · cases there
      exact numberSign_not_mem_query _ _
    · cases there

theorem parse_parted (text : String) : Ensures IsParted (parse text) := by
  intro url made
  cases parse_read text url made with
  | hosted scheme named authority read rest =>
    refine isParted_finish named _ ?_ _ _ (Path.continues_text_iff.mpr (consists_readPath _ _ _))
    rintro _ ⟨⟩
    exact read.isParted
  | file scheme named host read =>
    refine isParted_finish named _ ?_ _ _
      (Path.continues_text_iff.mpr (consists_readPath _ _ _).settle)
    rintro _ ⟨⟩
    exact ⟨continues_nil, by rintro _ ⟨⟩, fun found there => (read found there).continues_text⟩
  | rooted scheme named =>
    refine isParted_finish named _ ?_ _ _ (Path.continues_text_iff.mpr (consists_readPath _ _ _))
    rintro _ ⟨⟩
  | bare scheme named text =>
    refine isParted_finish named _ ?_ _ _ ?_
    · rintro _ ⟨⟩
    · have clear : Continues (text.takeWhile fun c => !endsPath c) :=
        fun c inside => by simpa using List.mem_takeWhile_imp inside
      exact clear.encode isPrintable

/-! ## Changes -/

theorem IsParted.mapSegments {url : Url} (parted : url.IsParted)
    (change : List Segment → List Segment)
    (kept : ∀ path, Path.Consists (fun c => endsPath c = false) path →
      Path.Consists (fun c => endsPath c = false) (change path)) :
    (url.mapSegments change).IsParted := by
  unfold Url.mapSegments
  split
  · rename_i path there
    have before : Continues (Path.text path) := by
      have whole := parted.path
      rwa [pathText, there] at whole
    exact
      { parted with
        path := Path.continues_text_iff.mpr (kept path (Path.continues_text_iff.mp before)) }
  · exact parted

theorem IsParted.popIfEmpty {url : Url} (parted : url.IsParted) : url.popIfEmpty.IsParted :=
  parted.mapSegments _ fun _ consists => consists.popIfEmpty

theorem IsParted.pushAll {url : Url} (parted : url.IsParted) (segments : List (List Char)) :
    (url.pushAll segments).IsParted :=
  parted.mapSegments _ fun _ consists =>
    consists.pushAll Path.allowsDrives_continues _ fun _ _ part _ =>
      Path.continues_encode_segment _ part

theorem IsParted.withPath {url : Url} (parted : url.IsParted) (text : List Char) :
    (url.withPath text).IsParted :=
  { parted with
    path := Path.continues_text_iff.mpr (Path.consists_continues_segments _ _ _).settle }

theorem IsParted.withQuery {url : Url} (parted : url.IsParted) (query : Option (List Char)) :
    (url.withQuery query).IsParted :=
  { parted with
    query := by
      intro escaped there
      obtain ⟨text, -, rfl⟩ := Option.map_eq_some_iff.mp there
      exact numberSign_not_mem_query _ _ }

theorem IsParted.appendPair {url : Url} (parted : url.IsParted) (name value : String) :
    (url.appendPair name value).IsParted :=
  { parted with
    query := by
      rintro _ ⟨⟩ inside
      rcases Form.mem_appendPair inside with before | divides | pair
      · cases there : url.query with
        | none =>
          rw [there] at before
          cases before
        | some query =>
          rw [there] at before
          exact parted.query query there before
      · exact absurd divides (by decide)
      · exact Form.not_mem_encodePair name value '#' (by decide) (by decide) pair }

theorem IsParted.withHost {url : Url} (parted : url.IsParted) (text : List Char) :
    Ensures IsParted (url.withHost text) := by
  intro changed made
  obtain ⟨host, read, rfl⟩ := withHost_read url text changed made
  have before : (url.authority.getD ⟨[], none, none, none⟩).IsParted := by
    cases there : url.authority with
    | none => exact ⟨continues_nil, by rintro _ ⟨⟩, by rintro _ ⟨⟩⟩
    | some authority => exact parted.authority authority there
  refine { parted with authority := ?_ }
  rintro _ ⟨⟩
  refine { before with host := ?_ }
  rintro _ ⟨⟩
  exact read.continues_text

end ObjectTransfer.Url
