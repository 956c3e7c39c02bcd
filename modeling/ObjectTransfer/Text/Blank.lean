/-!
# Blank characters

The blank characters are those with the White_Space property: tab to carriage return, the space,
next line, and the spaces and separators beyond the first 128 code points.
-/

set_option autoImplicit false

namespace ObjectTransfer.Text

def isBlank (c : Char) : Bool :=
  let code := c.toNat
  (9 ≤ code && code ≤ 13) || code == 32 || code == 0x85 || code == 0xA0 || code == 0x1680 ||
    (0x2000 ≤ code && code ≤ 0x200A) || code == 0x2028 || code == 0x2029 || code == 0x202F ||
    code == 0x205F || code == 0x3000

def trimBy {α : Type} (blank : α → Bool) (items : List α) : List α :=
  ((items.dropWhile blank).reverse.dropWhile blank).reverse

theorem trimBy_eq_self {α : Type} (blank : α → Bool) (items : List α)
    (clear : ∀ item ∈ items, blank item = false) : trimBy blank items = items := by
  have keep : ∀ these : List α, (∀ item ∈ these, blank item = false) →
      these.dropWhile blank = these := by
    intro these all
    cases these with
    | nil => rfl
    | cons item rest => simp [List.dropWhile, all item (by simp)]
  rw [trimBy, keep items clear, keep items.reverse (by simpa using clear), List.reverse_reverse]

end ObjectTransfer.Text
