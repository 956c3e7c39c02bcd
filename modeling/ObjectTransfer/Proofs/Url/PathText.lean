import ObjectTransfer.Proofs.Control.Outcome
import ObjectTransfer.Url.Parse

/-!
# The path in the text of a URL

The path names the texts that stand between its slashes once their escapes are
read.  In the text of a URL it comes after the scheme, the authority and the dot
segment before it, and lasts to the first question mark or number sign, if it
holds none itself.  So URLs that agree on what stands before the path have the
same path if they have the same text.
-/

set_option autoImplicit false

namespace ObjectTransfer.Url

/-- What the parts of the path between its slashes stand for; nothing where that is no text. -/
def namedPath (url : Url) : List (Option String) :=
  (Text.split '/' url.pathText).map fun part =>
    Utf8.decode? (Percent.decode (Utf8.encodeChars part))

def front (url : Url) : List Char :=
  url.scheme.toList ++ ':' ::
    ((match url.authority with
      | some authority => '/' :: '/' :: authority.text
      | none => []) ++
      (if url.dotted then ['/', '.'] else []))

def back (url : Url) : List Char :=
  (match url.query with
    | some query => '?' :: query
    | none => []) ++
  (match url.fragment with
    | some fragment => '#' :: fragment
    | none => [])

theorem chars_eq (url : Url) : url.chars = url.front ++ (url.pathText ++ url.back) := by
  have regroup : ∀ scheme authority dots path query fragment : List Char,
      scheme ++ ':' :: (authority ++ dots ++ path ++ query ++ fragment) =
        (scheme ++ ':' :: (authority ++ dots)) ++ (path ++ (query ++ fragment)) := by
    simp
  exact regroup _ _ _ _ _ _

theorem takeWhile_back (url : Url) : url.back.takeWhile (fun c => !endsPath c) = [] := by
  unfold back
  cases url.query <;> cases url.fragment <;> simp [endsPath]

theorem takeWhile_drop_front (url : Url) (clear : ∀ c ∈ url.pathText, endsPath c = false) :
    (url.chars.drop url.front.length).takeWhile (fun c => !endsPath c) = url.pathText := by
  have all : ∀ c ∈ url.pathText, (!endsPath c) = true := fun c inside => by simp [clear c inside]
  rw [chars_eq, List.drop_left, List.takeWhile_append_of_pos all, takeWhile_back, List.append_nil]

theorem pathText_eq_of_chars_eq (url other : Url)
    (clear : ∀ c ∈ url.pathText, endsPath c = false)
    (pure : ∀ c ∈ other.pathText, endsPath c = false) (fronts : url.front = other.front)
    (chars : url.chars = other.chars) : url.pathText = other.pathText := by
  rw [← takeWhile_drop_front url clear, ← takeWhile_drop_front other pure, chars, fronts]

theorem withHost_scheme (url changed : Url) (host : List Char)
    (there : url.withHost host = .ok changed) : changed.scheme = url.scheme := by
  simp only [withHost] at there
  split at there
  · cases there
  · split at there
    · cases there
    · split at there
      all_goals
        obtain ⟨found, _, made⟩ := (bind_eq_ok_iff _ _ _).mp there
        split at made
        all_goals
          cases made
          rfl

end ObjectTransfer.Url
