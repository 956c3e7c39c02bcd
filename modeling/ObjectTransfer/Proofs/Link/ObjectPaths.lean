import ObjectTransfer.Link.Endpoints
import ObjectTransfer.Proofs.Control.Outcome
import ObjectTransfer.Proofs.Url.DividedPaths
import ObjectTransfer.Proofs.Url.PathText
import ObjectTransfer.Proofs.Url.PushedNames

/-!
# What the URL of an object names

The URL of an object is that of the base with a longer path: the path of the
base, without a slash at its end, and then the names of the place, two fixed
names and the id, each escaped as a whole.  Cutting what was added at its slashes
and reading the escapes gives these names back, so under one base different
objects have different URLs, and only the object whose id is the fixed name for
verification has the URL at which uploads to its place are verified.

This is so for names that become segments of their own, and for bases that have
no empty segment but maybe the last one.
-/

set_option autoImplicit false

namespace ObjectTransfer

/-- The path has no empty segment, unless it is the last one. -/
def Url.HasFullPath (url : Url) : Prop :=
  ∀ path, url.path = .segments path → ∀ segment ∈ path.dropLast, segment ≠ []

namespace Endpoints

open Url (withoutLastSlash namesIn)
open Url.Path (IsName nameSegment)

def objectNames (place oid : String) : List String :=
  Text.pieces '/' place ++ ["objects", "storage", oid]

/-- The names of the place and the id all become segments of their own. -/
def AreNames (place oid : String) : Prop :=
  ∀ name ∈ Text.pieces '/' place ++ [oid], IsName name.toList

instance (place oid : String) : Decidable (AreNames place oid) :=
  inferInstanceAs (Decidable (∀ name ∈ Text.pieces '/' place ++ [oid], IsName name.toList))

theorem AreNames.objectNames {place oid : String} (named : AreNames place oid) :
    ∀ name ∈ objectNames place oid, IsName name.toList := by
  intro name inside
  simp only [Endpoints.objectNames, List.mem_append, List.mem_cons, List.not_mem_nil,
    or_false] at inside
  rcases inside with here | rfl | rfl | rfl
  · exact named name (List.mem_append_left _ here)
  · decide
  · decide
  · exact named name (by simp)

theorem objectNames_inj {place oid other another : String} :
    objectNames place oid = objectNames other another ↔ place = other ∧ oid = another := by
  constructor
  · intro same
    obtain ⟨places, fixed⟩ := List.append_inj' same rfl
    simp only [List.cons.injEq, and_true, true_and] at fixed
    exact ⟨Text.pieces_injective '/' place other places, fixed⟩
  · rintro ⟨rfl, rfl⟩
    rfl

/-! ## The URL of an object -/

theorem exists_segments (endpoints : Endpoints) : ∃ path, endpoints.base.path = .segments path := by
  cases there : endpoints.base.path with
  | segments path => exact ⟨path, rfl⟩
  | opaquePath text =>
    have carries := endpoints.carriesPath
    simp [Url.isOpaque, there] at carries

def objectSegments (endpoints : Endpoints) (place oid : String) : List Url.Segment :=
  (objectNames place oid).map fun name => nameSegment endpoints.base.special name.toList

def objectPath (endpoints : Endpoints) (place oid : String) : List Char :=
  Url.Path.text (endpoints.objectSegments place oid)

theorem namesIn_objectPath (endpoints : Endpoints) (place oid : String) :
    namesIn (endpoints.objectPath place oid) = ("" :: objectNames place oid).map some := by
  have names := Url.Path.namesIn_text endpoints.base.special
    ((objectNames place oid).map String.toList)
  simp only [List.map_map, Function.comp_def, String.ofList_toList] at names
  exact names

theorem pushAll_objectNames (endpoints : Endpoints) {place oid : String}
    (named : AreNames place oid) (path : List Url.Segment) :
    Url.Path.pushAll endpoints.base.special false path
        (Text.split '/' place.toList ++ ["objects".toList, "storage".toList, oid.toList]) =
      Url.Path.room path ++ endpoints.objectSegments place oid := by
  have names : (objectNames place oid).map String.toList =
      Text.split '/' place.toList ++ ["objects".toList, "storage".toList, oid.toList] := by
    simp [objectNames, Text.pieces, Function.comp_def]
  have proper : ∀ name ∈ (objectNames place oid).map String.toList, IsName name := by
    intro name inside
    obtain ⟨text, member, rfl⟩ := List.mem_map.mp inside
    exact named.objectNames text member
  rw [← names, Url.Path.pushAll_names _ path _ (by simp [objectNames]) proper, List.map_map]
  rfl

section Objects

variable {endpoints : Endpoints} (segmented : endpoints.base.file = false)
  (divided : endpoints.base.IsDivided) (full : endpoints.base.HasFullPath)
include segmented divided full

theorem object_eq {place oid : String} (named : AreNames place oid) :
    ∃ path, endpoints.object place oid = { endpoints.base with path := path } ∧
      (endpoints.object place oid).pathText =
        withoutLastSlash endpoints.base.pathText ++ endpoints.objectPath place oid := by
  obtain ⟨path, there⟩ := endpoints.exists_segments
  have made : endpoints.object place oid = { endpoints.base with
      path := .segments (Url.Path.room (Url.Path.popIfEmpty path) ++
        endpoints.objectSegments place oid) } := by
    have pushed := endpoints.pushAll_objectNames named (Url.Path.popIfEmpty path)
    rw [← segmented] at pushed
    simp only [object, below, Url.pushAll, Url.popIfEmpty, Url.mapSegments, there]
    exact congrArg (fun path => { endpoints.base with path := Url.PathKind.segments path }) pushed
  refine ⟨_, made, ?_⟩
  rw [made]
  simp only [Url.pathText, there]
  rw [Url.Path.text_append, Url.Path.text_room_popIfEmpty path (divided path there)
    (full path there)]
  rfl

theorem chars_object {place oid : String} (named : AreNames place oid) :
    (endpoints.object place oid).chars =
      endpoints.base.front ++ (withoutLastSlash endpoints.base.pathText ++
        endpoints.objectPath place oid ++ endpoints.base.back) := by
  obtain ⟨path, made, pathText⟩ := object_eq segmented divided full named
  rw [Url.chars_eq, pathText, made]
  rfl

theorem object_text_inj {place oid other another : String} (named : AreNames place oid)
    (also : AreNames other another) :
    (endpoints.object place oid).text = (endpoints.object other another).text ↔
      place = other ∧ oid = another := by
  constructor
  · intro same
    have chars := String.ofList_injective same
    rw [chars_object segmented divided full named, chars_object segmented divided full also] at chars
    have paths : endpoints.objectPath place oid = endpoints.objectPath other another :=
      List.append_cancel_left (List.append_cancel_right (List.append_cancel_left chars))
    have names := namesIn_objectPath endpoints place oid
    rw [paths, namesIn_objectPath] at names
    have lists := (List.map_inj_right fun _ _ => Option.some.inj).mp names
    exact objectNames_inj.mp (List.cons.inj lists).2.symm
  · rintro ⟨rfl, rfl⟩
    rfl

end Objects

/-! ## A slash at the end of the base -/

theorem withoutLastSlash_of_full {base : Url} {text : List Char} (divided : base.IsDivided)
    (full : base.HasFullPath) {path : List Url.Segment} (there : base.path = .segments path)
    (slashed : base.pathText = text ++ ['/']) : withoutLastSlash text = text := by
  refine if_neg fun ended => ?_
  obtain ⟨before, rfl⟩ : ∃ before, text = before ++ ['/'] := by
    obtain ⟨before, last, same⟩ := (List.eq_nil_or_concat text).resolve_left (by
      rintro rfl
      cases ended)
    rw [List.concat_eq_append] at same
    rw [same, List.getLast?_concat] at ended
    exact ⟨before, by rw [same, Option.some.inj ended]⟩
  have pieces := Url.Path.split_text path (divided path there)
  have written : Url.Path.text path = base.pathText := by rw [Url.pathText, there]
  rw [written, slashed, Text.split_append, Text.split_append] at pieces
  obtain ⟨first, rest, cut⟩ := List.exists_cons_of_ne_nil (Text.split_ne_nil '/' before)
  rw [cut] at pieces
  have ends : path = rest ++ [[]] ++ [[]] := (List.cons.inj pieces).2.symm
  exact full path there [] (by simp [ends]) rfl

/-! ## Reading an object back -/

theorem AreNames.verify {place oid : String} (named : AreNames place oid) :
    AreNames place "verify" := by
  intro name inside
  rcases List.mem_append.mp inside with here | last
  · exact named name (List.mem_append_left _ here)
  · rw [List.mem_singleton.mp last]
    decide

theorem base_file_of_web {endpoints : Endpoints}
    (web : endpoints.base.scheme = "http" ∨ endpoints.base.scheme = "https") :
    endpoints.base.file = false := by
  rcases web with scheme | scheme <;> simp [Url.file, Url.isFile, scheme]

/-- URLs are compared as they are written.  Below a web base with a full path, the URL of an object
names its place and its id and keeps the query and the fragment of the base, so different objects
have different URLs and only the fixed id shares the URL of the verification.  A slash at the end of
the base changes no URL. -/
theorem objects_readable (endpoints : Endpoints) (written : String)
    (read : Url.parse written = .ok endpoints.base)
    (web : endpoints.base.scheme = "http" ∨ endpoints.base.scheme = "https")
    (full : endpoints.base.HasFullPath) :
    (∀ place oid, AreNames place oid →
      ∃ path names, endpoints.object place oid = { endpoints.base with path := path } ∧
        (endpoints.object place oid).pathText = withoutLastSlash endpoints.base.pathText ++ names ∧
        namesIn names = ("" :: Text.pieces '/' place ++ ["objects", "storage", oid]).map some) ∧
    (∀ place oid other another, AreNames place oid → AreNames other another →
      ((endpoints.object place oid).text = (endpoints.object other another).text ↔
        place = other ∧ oid = another)) ∧
    (∀ place oid, AreNames place oid →
      ((endpoints.object place oid).text = (endpoints.verify place).text ↔ oid = "verify")) ∧
    (∀ (slashed : Endpoints) (another : String), Url.parse another = .ok slashed.base →
      slashed.base.HasFullPath →
      slashed.base = { endpoints.base with path := slashed.base.path } →
      slashed.base.pathText = endpoints.base.pathText ++ ['/'] →
      ∀ place oid, AreNames place oid →
        (slashed.object place oid).text = (endpoints.object place oid).text ∧
          (slashed.verify place).text = (endpoints.verify place).text) := by
  have segmented := base_file_of_web web
  have divided : endpoints.base.IsDivided := Url.parse_divided written _ read
  refine ⟨fun place oid named => ?_, fun place oid other another named also =>
    object_text_inj segmented divided full named also, fun place oid named => ?_, ?_⟩
  · obtain ⟨path, made, pathText⟩ := object_eq segmented divided full named
    exact ⟨path, endpoints.objectPath place oid, made, pathText,
      namesIn_objectPath endpoints place oid⟩
  · exact (object_text_inj segmented divided full named named.verify).trans (and_iff_right rfl)
  · intro slashed another also fullAlso differs ends
    have dividedAlso : slashed.base.IsDivided := Url.parse_divided another _ also
    obtain ⟨path, there⟩ := slashed.exists_segments
    have room : withoutLastSlash slashed.base.pathText = withoutLastSlash endpoints.base.pathText := by
      rw [withoutLastSlash_of_full dividedAlso fullAlso there ends, ends,
        Url.withoutLastSlash_append_slash]
    have special : slashed.base.special = endpoints.base.special := by rw [differs]; rfl
    have front : slashed.base.front = endpoints.base.front := by rw [differs]; rfl
    have back : slashed.base.back = endpoints.base.back := by rw [differs]; rfl
    have notFile : slashed.base.file = false := by rw [differs]; exact segmented
    have same : ∀ place oid, AreNames place oid →
        (slashed.object place oid).text = (endpoints.object place oid).text := by
      intro place oid named
      refine congrArg String.ofList ?_
      rw [chars_object notFile dividedAlso fullAlso named,
        chars_object segmented divided full named, room, front, back,
        objectPath, objectPath, objectSegments, objectSegments, special]
    exact fun place oid named => ⟨same place oid named, same place "verify" named.verify⟩

def lfsEndpoints (path : List Url.Segment) : Endpoints where
  base :=
    { scheme := "https"
      authority := some ⟨[], none, some (.domain "lfs.example.com".toList), none⟩
      dotted := false
      path := .segments path
      query := some "tenant=1".toList
      fragment := none }
  carriesPath := rfl

theorem objects_readable_lfs :
    Url.parse "https://lfs.example.com/lfs?tenant=1" = .ok (lfsEndpoints ["lfs".toList]).base ∧
    Url.parse "https://lfs.example.com/lfs/?tenant=1" = .ok (lfsEndpoints ["lfs".toList, []]).base ∧
    AreNames "acme/50% off" "a/b?" ∧
    (∃ names,
      ((lfsEndpoints ["lfs".toList]).object "acme/50% off" "a/b?").pathText = "/lfs".toList ++ names ∧
      namesIn names = ["", "acme", "50% off", "objects", "storage", "a/b?"].map some) ∧
    ((lfsEndpoints ["lfs".toList, []]).object "acme/50% off" "a/b?").text =
      ((lfsEndpoints ["lfs".toList]).object "acme/50% off" "a/b?").text := by
  have read : Url.parse "https://lfs.example.com/lfs?tenant=1" =
      .ok (lfsEndpoints ["lfs".toList]).base := rfl
  have readSlashed : Url.parse "https://lfs.example.com/lfs/?tenant=1" =
      .ok (lfsEndpoints ["lfs".toList, []]).base := rfl
  have named : AreNames "acme/50% off" "a/b?" := by decide +kernel
  have full : (lfsEndpoints ["lfs".toList]).base.HasFullPath := by
    rintro _ ⟨⟩ segment inside
    cases inside
  have fullSlashed : (lfsEndpoints ["lfs".toList, []]).base.HasFullPath := by
    rintro _ ⟨⟩ segment inside
    rw [List.mem_singleton.mp inside]
    decide
  obtain ⟨reads, -, -, slash⟩ := objects_readable _ _ read (.inr rfl) full
  obtain ⟨path, names, -, pathText, found⟩ := reads _ _ named
  exact ⟨read, readSlashed, named, ⟨names, pathText, found⟩,
    (slash _ _ readSlashed fullSlashed rfl rfl _ _ named).1⟩

end Endpoints

end ObjectTransfer
