import ObjectTransfer.Link.BucketLinks
import ObjectTransfer.Proofs.Url.EscapedPaths
import ObjectTransfer.Proofs.Url.PathText
import ObjectTransfer.Proofs.Url.ReadUrls
import ObjectTransfer.Store.Transport

/-!
# What the URL of a key names

The path of a URL names the texts that its segments stand for once their
escapes are read.  The URLs of a key should name the bucket, unless that is in
the host, and then the pieces of the key.

They do so exactly if no piece of the key is a dot or two dots.  Such a piece
has no escaped form, and reading the path takes it, or even the segment before
it, away; so the URL of such a key can name another object of the bucket, or
something outside of it.  Keys without such pieces have different URLs if they
are different.
-/

set_option autoImplicit false

namespace ObjectTransfer

namespace BucketLinks

open Url.Path (IsEscaped IsDots)

/-! ## Escaped keys -/

theorem isEscaped_escape (text : List Char) : IsEscaped (escape text) := by
  refine Percent.forall_mem_encode (forall_octet ?_) (by decide) ?_ text
  · decide +kernel
  · decide +kernel

theorem decode_escape (text : List Char) :
    Percent.decode (Utf8.encodeChars (escape text)) = Utf8.encodeChars text :=
  Percent.decode_encode Percent.isUnreserved Percent.faithful_isUnreserved text

theorem escape_injective (text other : List Char) (same : escape text = escape other) :
    text = other := by
  have read := decode_escape text
  rw [same, decode_escape] at read
  exact (Utf8.encodeChars_injective _ _ read).symm

/-- Only the dots themselves are escaped to dots. -/
theorem isDots_escape (text : List Char) :
    IsDots (escape text) ↔ text = ['.'] ∨ text = ['.', '.'] := by
  constructor
  · intro dots
    have read := dots.decode
    rw [decode_escape] at read
    exact read.imp (Utf8.encodeChars_injective _ _) (Utf8.encodeChars_injective _ _)
  · rintro (rfl | rfl)
    · exact .inl (by decide +kernel)
    · exact .inr (by decide +kernel)

theorem escapePath_cons (text : List Char) :
    escapePath ('/' :: text) = '/' :: Text.join '/' ((Text.split '/' text).map escape) := by
  have first : Text.split '/' ('/' :: text) = [] :: Text.split '/' text := by
    rw [Text.split, if_pos rfl]
  cases pieces : Text.split '/' text with
  | nil => exact absurd pieces (Text.split_ne_nil '/' text)
  | cons piece more =>
    rw [escapePath, first, pieces]
    rfl

/-! ## The path of a URL -/

def root (links : BucketLinks) : List String :=
  if links.pathStyle then [links.address.bucket] else []

/-- The path that the URLs of a key should name, with an empty text before its first slash. -/
def wantedPath (links : BucketLinks) (key : String) : List String :=
  "" :: (links.root ++ Text.pieces '/' key)

/-- The URLs that are made for a key, with or without a query of their own. -/
inductive Gives (links : BucketLinks) (key : String) : Url → Prop
  | plain (url : Url) (made : links.plain key = .ok url) : Gives links key url
  | signed (method : String) (expires : UInt64) (parameters : List Parameter) (now : Int)
      (url : Url) (made : links.signed method key expires parameters now = .ok url) :
      Gives links key url

def isBucketLetter (c : Char) : Bool := c.isLower || c.isDigit || c == '-'

/-- Links over the web to a bucket whose name has lower case letters, digits and hyphens only. -/
structure IsProper (links : BucketLinks) : Prop where
  web : BucketRequest.isWeb links.address.endpoint = true
  named : links.address.bucket ≠ ""
  letters : links.address.bucket.toList.all isBucketLetter = true

theorem IsProper.not_mem {links : BucketLinks} (proper : links.IsProper) (c : Char)
    (foreign : isBucketLetter c = false) : c ∉ links.address.bucket.toList := by
  intro inside
  have letter := List.all_eq_true.mp proper.letters c inside
  rw [foreign] at letter
  cases letter

/-- The endpoint, with the bucket in its host unless that goes into the path. -/
def site (links : BucketLinks) : Except Url.Fault Url :=
  if links.pathStyle then .ok links.address.endpoint
  else links.address.endpoint.withHost (links.address.bucket.toList ++ '.' :: links.address.host)

def segments (links : BucketLinks) (key : String) : List Url.Segment :=
  (links.root ++ Text.pieces '/' key).map fun piece => escape piece.toList

theorem map_split_escape (key : String) :
    (Text.split '/' key.toList).map escape =
      (Text.pieces '/' key).map fun piece => escape piece.toList := by
  simp [Text.pieces, Function.comp_def]

theorem plain_eq_ok (links : BucketLinks) (proper : links.IsProper) (key : String) (url : Url)
    (made : links.plain key = .ok url) :
    ∃ site, links.site = .ok site ∧
      url = site.withPath ('/' :: Text.join '/' (links.segments key)) := by
  simp only [plain] at made
  cases style : links.pathStyle with
  | true =>
    have divided : (Text.split '/' (links.address.bucket.toList ++ '/' :: key.toList)).map escape =
        links.segments key := by
      rw [Text.split_append_separator _ _ _ (proper.not_mem '/' rfl), List.map_cons,
        map_split_escape]
      simp [segments, root, style]
    rw [if_pos style, List.cons_append, escapePath_cons, divided] at made
    cases made
    exact ⟨links.address.endpoint, by simp [site, style], rfl⟩
  | false =>
    have divided : (Text.split '/' key.toList).map escape = links.segments key := by
      rw [map_split_escape]
      simp [segments, root, style]
    rw [if_neg (by simp [style]), escapePath_cons, divided] at made
    split at made
    · cases made
    · rename_i site there
      cases made
      refine ⟨site, ?_, rfl⟩
      rw [BucketLinks.site, if_neg (by simp [style]), there]

/-- What holds of the endpoint holds of what is made from it, if no other host and no other path takes
it away. -/
theorem plain_ensures {links : BucketLinks} {holds : Url → Prop}
    (here : holds links.address.endpoint)
    (there : ∀ text, Ensures holds (links.address.endpoint.withHost text))
    (kept : ∀ url text, holds url → holds (url.withPath text)) (key : String) :
    Ensures holds (links.plain key) := by
  unfold plain
  refine .ite (fun _ => ensures_ok _ (kept _ _ here)) fun _ => ?_
  split
  · exact ensures_error _
  · rename_i url made
    exact ensures_ok _ (kept _ _ (there _ url made))

theorem plain_hosted (links : BucketLinks) (key : String) :
    Ensures (fun url => ∃ host, url.hostText? = some host) (links.plain key) := by
  refine plain_ensures ⟨_, links.address.hosted⟩ (fun text url made => ?_)
    (fun _ _ hosted => hosted) key
  obtain ⟨host, -, rfl⟩ := Url.withHost_read _ text url made
  exact ⟨host.text, rfl⟩

theorem isEscaped_segments (links : BucketLinks) (key : String) :
    ∀ segment ∈ links.segments key, IsEscaped segment := by
  intro segment inside
  obtain ⟨piece, _, rfl⟩ := List.mem_map.mp inside
  exact isEscaped_escape piece.toList

theorem segments_ne_nil (links : BucketLinks) (key : String) : links.segments key ≠ [] := by
  have pieces := Text.split_ne_nil '/' key.toList
  simp [segments, Text.pieces, pieces]

def settledSegments (links : BucketLinks) (key : String) : List Url.Segment :=
  (Url.Path.addAll false [] (links.segments key)).reverse

theorem mem_settledSegments (links : BucketLinks) (key : String) (segment : Url.Segment)
    (inside : segment ∈ links.settledSegments key) :
    segment = [] ∨ (segment ∈ links.segments key ∧ ¬ IsDots segment) := by
  rcases Url.Path.mem_addAll _ [] segment (isEscaped_segments links key)
    (List.mem_reverse.mp inside) with before | found
  · cases before
  · exact found

theorem isEscaped_settledSegments (links : BucketLinks) (key : String) :
    ∀ segment ∈ links.settledSegments key, IsEscaped segment := by
  intro segment inside
  rcases mem_settledSegments links key segment inside with rfl | ⟨member, _⟩
  · exact fun _ nothing => by cases nothing
  · exact isEscaped_segments links key segment member

theorem site_file (links : BucketLinks) (proper : links.IsProper) (site : Url)
    (there : links.site = .ok site) : site.file = false := by
  have scheme : site.scheme = links.address.endpoint.scheme := by
    unfold BucketLinks.site at there
    split at there
    · cases there
      rfl
    · exact Url.withHost_scheme _ site _ there
  have web := proper.web
  simp only [BucketRequest.isWeb, Bool.or_eq_true, beq_iff_eq] at web
  rw [Url.file, scheme]
  rcases web with http | https
  · rw [http]
    decide
  · rw [https]
    decide

/-- The URLs of a key differ from the site of the bucket in their path and their query alone. -/
theorem Gives.eq {links : BucketLinks} {key : String} {url : Url} (given : links.Gives key url)
    (proper : links.IsProper) :
    ∃ site, links.site = .ok site ∧
      url = { site with path := .segments (links.settledSegments key), query := url.query } := by
  have plainly : ∀ found, links.plain key = .ok found → ∃ site, links.site = .ok site ∧
      found = { site with path := .segments (links.settledSegments key) } := by
    intro found made
    obtain ⟨site, there, rfl⟩ := plain_eq_ok links proper key found made
    refine ⟨site, there, ?_⟩
    have settled := Url.Path.read_join site.special _ (segments_ne_nil links key)
      (isEscaped_segments links key)
    have segmented := site_file links proper site there
    simp only [Url.withPath, List.drop_one, List.tail_cons, segmented, settled]
    rfl
  cases given with
  | plain _ made =>
    obtain ⟨site, there, same⟩ := plainly url made
    exact ⟨site, there, by rw [same]⟩
  | signed method expires parameters now _ made =>
    obtain ⟨found, first, rest⟩ := (bind_eq_ok_iff _ _ _).mp made
    obtain ⟨site, there, rfl⟩ := plainly found first
    refine ⟨site, there, ?_⟩
    split at rest
    · cases rest
      rfl
    · cases rest
      rfl

/-- The URL differs from the site of the bucket in its path and its query at most, so it has the host
that the endpoint has, with the bucket in front of it unless that is in the path. -/
def Hosts (links : BucketLinks) (url : Url) : Prop :=
  ∃ site, links.site = .ok site ∧ url = { site with path := url.path, query := url.query }

theorem Gives.hosts {links : BucketLinks} {key : String} {url : Url} (given : links.Gives key url)
    (proper : links.IsProper) : links.Hosts url := by
  obtain ⟨site, there, same⟩ := given.eq proper
  have path : url.path = .segments (links.settledSegments key) := by rw [same]
  refine ⟨site, there, ?_⟩
  rw [path]
  exact same

/-! ## What the path names -/

/-- No piece of the text is a dot segment. -/
def IsDotFree (text : String) : Prop :=
  "." ∉ Text.pieces '/' text ∧ ".." ∉ Text.pieces '/' text

instance (text : String) : Decidable (IsDotFree text) :=
  inferInstanceAs (Decidable (_ ∧ _))

theorem namedPath_eq (links : BucketLinks) (proper : links.IsProper) (key : String) (url : Url)
    (given : links.Gives key url) :
    url.namedPath = some "" :: (links.settledSegments key).map fun part =>
      Utf8.decode? (Percent.decode (Utf8.encodeChars part)) := by
  obtain ⟨site, _, same⟩ := given.eq proper
  have path : url.pathText = Url.Path.text (links.settledSegments key) := by rw [same]; rfl
  rw [Url.namedPath, path, Url.Path.split_text _ fun segment inside =>
    (isEscaped_settledSegments links key segment inside).slash_not_mem]
  rfl

theorem decode?_escape (text : String) :
    Utf8.decode? (Percent.decode (Utf8.encodeChars (escape text.toList))) = some text := by
  rw [decode_escape, Utf8.decode_encodeChars, String.ofList_toList]

theorem not_isDots_segments (links : BucketLinks) (proper : links.IsProper) (key : String)
    (free : IsDotFree key) : ∀ segment ∈ links.segments key, ¬ IsDots segment := by
  intro segment inside dots
  obtain ⟨piece, member, rfl⟩ := List.mem_map.mp inside
  have same : piece = "." ∨ piece = ".." :=
    ((isDots_escape piece.toList).mp dots).imp (fun one => String.toList_inj.mp one)
      (fun two => String.toList_inj.mp two)
  rcases List.mem_append.mp member with bucket | here
  · have point : '.' ∈ piece.toList := by rcases same with rfl | rfl <;> decide
    unfold root at bucket
    split at bucket
    · rw [List.mem_singleton.mp bucket] at point
      exact proper.not_mem '.' rfl point
    · cases bucket
  · rcases same with rfl | rfl
    · exact free.1 here
    · exact free.2 here

theorem namedPath_of_isDotFree (links : BucketLinks) (proper : links.IsProper) (key : String)
    (url : Url) (given : links.Gives key url) (free : IsDotFree key) :
    url.namedPath = (links.wantedPath key).map some := by
  have settled : links.settledSegments key = links.segments key := by
    rw [settledSegments, Url.Path.addAll_of_not_isDots _ [] (isEscaped_segments links key)
      (not_isDots_segments links proper key free), List.append_nil, List.reverse_reverse]
  rw [namedPath_eq links proper key url given, settled, segments, List.map_map]
  simp only [Function.comp_def, decode?_escape]
  rfl

/-- No part of the path of a key's URL stands for a dot segment. -/
theorem not_mem_namedPath (links : BucketLinks) (proper : links.IsProper) (key : String)
    (url : Url) (given : links.Gives key url) (dots : String)
    (some_dots : dots = "." ∨ dots = "..") : some dots ∉ url.namedPath := by
  have nonempty : "" ≠ dots := by rcases some_dots with rfl | rfl <;> decide
  rw [namedPath_eq links proper key url given]
  intro inside
  rcases List.mem_cons.mp inside with first | later
  · exact nonempty (Option.some.inj first).symm
  · obtain ⟨part, member, read⟩ := List.mem_map.mp later
    rcases mem_settledSegments links key part member with rfl | ⟨written, notDots⟩
    · have empty : Utf8.decode? (Percent.decode (Utf8.encodeChars [])) = some "" :=
        decode?_escape ""
      rw [empty] at read
      exact nonempty (Option.some.inj read)
    · obtain ⟨piece, _, rfl⟩ := List.mem_map.mp written
      rw [decode?_escape] at read
      cases read
      refine notDots ((isDots_escape dots.toList).mpr ?_)
      rcases some_dots with rfl | rfl
      · exact .inl rfl
      · exact .inr rfl

theorem namedPath_eq_iff (links : BucketLinks) (proper : links.IsProper) (key : String)
    (url : Url) (given : links.Gives key url) :
    url.namedPath = (links.wantedPath key).map some ↔ IsDotFree key := by
  constructor
  · intro exactly
    have absent : ∀ dots, dots = "." ∨ dots = ".." → dots ∉ Text.pieces '/' key := by
      intro dots some_dots member
      refine not_mem_namedPath links proper key url given dots some_dots ?_
      rw [exactly]
      refine List.mem_map_of_mem ?_
      exact List.mem_cons_of_mem _ (List.mem_append_right _ member)
    exact ⟨absent "." (.inl rfl), absent ".." (.inr rfl)⟩
  · exact namedPath_of_isDotFree links proper key url given

/-! ## Different keys -/

theorem endsPath_pathText (links : BucketLinks) (key : String) :
    ∀ c ∈ Url.Path.text (links.settledSegments key), Url.endsPath c = false := by
  intro c inside
  obtain ⟨segment, member, here⟩ := List.mem_flatMap.mp inside
  rcases List.mem_cons.mp here with rfl | found
  · rfl
  · have fine := isEscaped_settledSegments links key segment member c found
    by_cases ends : c = '?' ∨ c = '#'
    · rcases ends with rfl | rfl
      · exact absurd fine (by decide)
      · exact absurd fine (by decide)
    · simpa [Url.endsPath, not_or] using ends

theorem pathText_eq_of_text_eq (links : BucketLinks) (proper : links.IsProper)
    (key other : String) (url same : Url) (given : links.Gives key url)
    (too : links.Gives other same) (alike : url.text = same.text) :
    url.pathText = same.pathText := by
  obtain ⟨site, there, made⟩ := given.eq proper
  obtain ⟨again, here, built⟩ := too.eq proper
  rw [there] at here
  cases here
  have chars : url.chars = same.chars := String.ofList_injective alike
  have fronts : url.front = same.front := by
    rw [made, built]
    rfl
  have clear : ∀ c ∈ url.pathText, Url.endsPath c = false := by
    rw [made]
    exact endsPath_pathText links key
  have pure : ∀ c ∈ same.pathText, Url.endsPath c = false := by
    rw [built]
    exact endsPath_pathText links other
  exact Url.pathText_eq_of_chars_eq url same clear pure fronts chars

theorem key_eq_of_text_eq (links : BucketLinks) (proper : links.IsProper) (key other : String)
    (url same : Url) (given : links.Gives key url) (too : links.Gives other same)
    (free : IsDotFree key) (clean : IsDotFree other) (alike : url.text = same.text) :
    key = other := by
  have paths : url.namedPath = same.namedPath := by
    rw [Url.namedPath, pathText_eq_of_text_eq links proper key other url same given too alike]
    rfl
  rw [namedPath_of_isDotFree links proper key url given free,
    namedPath_of_isDotFree links proper other same too clean] at paths
  have wanted := (List.map_inj_right fun _ _ => Option.some.inj).mp paths
  simp only [wantedPath, List.cons.injEq, List.append_cancel_left_eq, true_and] at wanted
  exact Text.pieces_injective '/' key other wanted

end BucketLinks

def BucketAddress.onLocalHost : BucketAddress where
  endpoint := ⟨"http", some ⟨[], none, some (.domain "localhost".toList), some 9000⟩, false,
    .segments [[]], none, none⟩
  host := "localhost".toList
  region := "us-east-1"
  bucket := "bucket"
  hosted := rfl

end ObjectTransfer
