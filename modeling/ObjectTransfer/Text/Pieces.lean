/-!
# Pieces between separators

`split` cuts a list at every separator and gives at least one piece; `join` puts the separators
back. `join_split` and `split_join` say that the two undo each other, the latter for pieces that
hold no separator. `cut?` cuts at the first separator only.
-/

set_option autoImplicit false

namespace ObjectTransfer.Text

section Pieces
variable {α : Type} [DecidableEq α]

def extendFirst (item : α) : List (List α) → List (List α)
  | [] => [[item]]
  | piece :: more => (item :: piece) :: more

def split (separator : α) : List α → List (List α)
  | [] => [[]]
  | item :: rest =>
    if item = separator then [] :: split separator rest
    else extendFirst item (split separator rest)

def join (separator : α) : List (List α) → List α
  | [] => []
  | [piece] => piece
  | piece :: next :: more => piece ++ separator :: join separator (next :: more)

def cut? (separator : α) : List α → Option (List α × List α)
  | [] => none
  | item :: rest =>
    if item = separator then some ([], rest)
    else (cut? separator rest).map fun (before, after) => (item :: before, after)

theorem split_ne_nil (separator : α) (items : List α) : split separator items ≠ [] := by
  cases items with
  | nil => simp [split]
  | cons item rest =>
    simp only [split]
    split
    · simp
    · cases Text.split separator rest <;> simp [extendFirst]

omit [DecidableEq α] in
theorem join_extendFirst (separator item : α) (pieces : List (List α)) (some_piece : pieces ≠ []) :
    join separator (extendFirst item pieces) = item :: join separator pieces := by
  cases pieces with
  | nil => exact absurd rfl some_piece
  | cons piece more => cases more <;> simp [extendFirst, join]

theorem join_split (separator : α) (items : List α) :
    join separator (split separator items) = items := by
  induction items with
  | nil => rfl
  | cons item rest ih =>
    simp only [split]
    split
    · rename_i same
      have nonempty := split_ne_nil separator rest
      cases pieces : Text.split separator rest with
      | nil => exact absurd pieces nonempty
      | cons piece more => simp [join, ← pieces, ih, same]
    · rw [join_extendFirst _ _ _ (split_ne_nil separator rest), ih]

theorem split_of_not_mem (separator : α) (piece : List α) (absent : separator ∉ piece) :
    split separator piece = [piece] := by
  induction piece with
  | nil => rfl
  | cons item rest ih =>
    have other : item ≠ separator := fun same => absent (by simp [same])
    have tail : separator ∉ rest := fun inside => absent (by simp [inside])
    simp [split, other, ih tail, extendFirst]

theorem split_append_separator (separator : α) (piece rest : List α) (absent : separator ∉ piece) :
    split separator (piece ++ separator :: rest) = piece :: split separator rest := by
  induction piece with
  | nil => simp [split]
  | cons item tail ih =>
    have other : item ≠ separator := fun same => absent (by simp [same])
    have clear : separator ∉ tail := fun inside => absent (by simp [inside])
    simp [split, other, ih clear, extendFirst]

theorem split_join (separator : α) (pieces : List (List α)) (some_piece : pieces ≠ [])
    (absent : ∀ piece ∈ pieces, separator ∉ piece) :
    split separator (join separator pieces) = pieces := by
  induction pieces with
  | nil => exact absurd rfl some_piece
  | cons piece more ih =>
    cases more with
    | nil => exact split_of_not_mem separator piece (absent piece (by simp))
    | cons next others =>
      rw [join, split_append_separator _ _ _ (absent piece (by simp))]
      rw [ih (by simp) (fun p inside => absent p (by simp [List.mem_cons.mp inside]))]

theorem split_append (separator : α) (left right : List α) :
    split separator (left ++ separator :: right) =
      split separator left ++ split separator right := by
  induction left with
  | nil => simp [split]
  | cons item rest ih =>
    simp only [List.cons_append, split, ih]
    split
    · rfl
    · cases pieces : Text.split separator rest with
      | nil => exact absurd pieces (split_ne_nil separator rest)
      | cons piece more => rfl

omit [DecidableEq α] in
theorem mem_join (separator item : α) (pieces : List (List α))
    (inside : item ∈ join separator pieces) :
    item = separator ∨ ∃ piece ∈ pieces, item ∈ piece := by
  induction pieces with
  | nil => cases inside
  | cons piece more ih =>
    cases more with
    | nil => exact .inr ⟨piece, List.mem_cons_self, inside⟩
    | cons next others =>
      rcases List.mem_append.mp inside with here | later
      · exact .inr ⟨piece, List.mem_cons_self, here⟩
      · rcases List.mem_cons.mp later with same | later
        · exact .inl same
        · refine (ih later).imp_right ?_
          rintro ⟨other, member, found⟩
          exact ⟨other, List.mem_cons_of_mem piece member, found⟩

omit [DecidableEq α] in
theorem mem_join_of_mem (separator item : α) (pieces : List (List α)) (piece : List α)
    (among : piece ∈ pieces) (inside : item ∈ piece) : item ∈ join separator pieces := by
  induction pieces with
  | nil => cases among
  | cons first more ih =>
    cases more with
    | nil =>
      rw [List.mem_singleton.mp among] at inside
      exact inside
    | cons next others =>
      rcases List.mem_cons.mp among with rfl | later
      · exact List.mem_append_left _ inside
      · exact List.mem_append_right _ (List.mem_cons_of_mem _ (ih later))

theorem mem_of_mem_split (separator item : α) (items piece : List α)
    (among : piece ∈ split separator items) (inside : item ∈ piece) : item ∈ items := by
  have whole := mem_join_of_mem separator item _ piece among inside
  rwa [join_split] at whole

omit [DecidableEq α] in
theorem join_concat (separator : α) (pieces : List (List α)) (last : List α)
    (some_piece : pieces ≠ []) :
    join separator (pieces ++ [last]) = join separator pieces ++ separator :: last := by
  induction pieces with
  | nil => exact absurd rfl some_piece
  | cons piece more ih =>
    cases more with
    | nil => rfl
    | cons next others =>
      have later := ih (List.cons_ne_nil next others)
      simp only [List.cons_append, join] at later ⊢
      rw [later]
      simp

theorem not_mem_of_mem_split (separator : α) (items piece : List α)
    (inside : piece ∈ split separator items) : separator ∉ piece := by
  induction items generalizing piece with
  | nil =>
    simp only [split, List.mem_singleton] at inside
    simp [inside]
  | cons item rest ih =>
    simp only [split] at inside
    split at inside
    · rcases List.mem_cons.mp inside with first | later
      · simp [first]
      · exact ih piece later
    · rename_i other
      cases pieces : Text.split separator rest with
      | nil => exact absurd pieces (split_ne_nil separator rest)
      | cons head more =>
        rw [pieces] at inside
        rcases List.mem_cons.mp inside with first | later
        · have clear := ih head (by simp [pieces])
          simp [first, clear, Ne.symm other]
        · exact ih piece (by simp [pieces, later])

theorem cut_append (separator : α) (before after : List α) (absent : separator ∉ before) :
    cut? separator (before ++ separator :: after) = some (before, after) := by
  induction before with
  | nil => simp [cut?]
  | cons item rest ih =>
    have other : item ≠ separator := fun same => absent (by simp [same])
    have clear : separator ∉ rest := fun inside => absent (by simp [inside])
    simp [cut?, other, ih clear]

theorem eq_of_cut (separator : α) (items before after : List α)
    (found : cut? separator items = some (before, after)) :
    items = before ++ separator :: after ∧ separator ∉ before := by
  induction items generalizing before after with
  | nil => simp [cut?] at found
  | cons item rest ih =>
    simp only [cut?] at found
    split at found
    · rename_i same
      simp only [Option.some.injEq, Prod.mk.injEq] at found
      simp [← found.1, ← found.2, same]
    · rename_i other
      obtain ⟨⟨head, tail⟩, inner, same⟩ := Option.map_eq_some_iff.mp found
      simp only [Prod.mk.injEq] at same
      obtain ⟨rfl, rfl⟩ := same
      have rebuilt := ih head tail inner
      simp [← rebuilt.1, rebuilt.2, Ne.symm other]

end Pieces

/-- The pieces of a text between separators. -/
def pieces (separator : Char) (text : String) : List String :=
  (split separator text.toList).map String.ofList

theorem pieces_append (left right : String) :
    pieces '/' (left ++ "/" ++ right) = pieces '/' left ++ pieces '/' right := by
  have divided : (left ++ "/" ++ right).toList = left.toList ++ '/' :: right.toList := by
    simp [String.toList_append]
  rw [pieces, divided, split_append, List.map_append]
  rfl

theorem pieces_injective (separator : Char) (text other : String)
    (same : pieces separator text = pieces separator other) : text = other := by
  have cut : split separator text.toList = split separator other.toList :=
    (List.map_inj_right fun _ _ => String.ofList_injective).mp same
  have joined := congrArg (join separator) cut
  rw [join_split, join_split] at joined
  exact String.toList_inj.mp joined

end ObjectTransfer.Text
