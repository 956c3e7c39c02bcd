import ObjectTransfer.Proofs.Control.Outcome
import ObjectTransfer.Proofs.Encoding.Percent
import ObjectTransfer.Url.Parse

/-!
# Nothing in a host ends it

A text continues a URL if it holds neither a question mark nor a number sign,
with which a query and a fragment begin.  Hosts are of this kind, in whatever
form they were written: what a domain name may not hold is refused before its
labels are brought into ASCII, and there they are written with letters, digits
and hyphens; addresses are written with digits and marks of their own.
-/

set_option autoImplicit false

namespace ObjectTransfer.Url

/-- Neither a query nor a fragment begins in the text. -/
def Continues (text : List Char) : Prop := ∀ c ∈ text, endsPath c = false

instance (text : List Char) : Decidable (Continues text) := List.decidableBAll _ text

theorem endsPath_iff (c : Char) : endsPath c = true ↔ c = '?' ∨ c = '#' := by
  simp [endsPath]

theorem continues_nil : Continues [] := List.forall_mem_nil _

theorem continues_cons {c : Char} {text : List Char} :
    Continues (c :: text) ↔ endsPath c = false ∧ Continues text := List.forall_mem_cons

theorem continues_append {text more : List Char} :
    Continues (text ++ more) ↔ Continues text ∧ Continues more := List.forall_mem_append

theorem Continues.of_subset {text part : List Char} (continues : Continues text)
    (subset : part ⊆ text) : Continues part :=
  fun c inside => continues c (subset inside)

theorem continues_join {separator : Char} {pieces : List (List Char)}
    (divides : endsPath separator = false) (each : ∀ piece ∈ pieces, Continues piece) :
    Continues (Text.join separator pieces) := by
  intro c inside
  rcases Text.mem_join separator c pieces inside with rfl | ⟨piece, among, found⟩
  · exact divides
  · exact each piece among c found

theorem continues_of_allowed {forbidden : Char → Bool} {text : List Char}
    (marks : ∀ c, c = '?' ∨ c = '#' → forbidden c = true)
    (allowed : ¬ text.any forbidden = true) : Continues text := by
  intro c inside
  refine Bool.eq_false_iff.mpr fun ends => allowed (List.any_eq_true.mpr ⟨c, inside, ?_⟩)
  exact marks c ((endsPath_iff c).mp ends)

theorem Continues.encode {text : List Char} (continues : Continues text) (plain : UInt8 → Bool) :
    Continues (Percent.encode plain text) := by
  have kept : ∀ c, endsPath c = true → c ∉ text → c ∉ Percent.encode plain text := by
    intro c ends absent inside
    rcases (endsPath_iff c).mp ends with rfl | rfl
    · exact absent (Percent.mem_of_mem_encode (by decide) (by decide) (by decide) inside)
    · exact absent (Percent.mem_of_mem_encode (by decide) (by decide) (by decide) inside)
  intro c inside
  refine Bool.eq_false_iff.mpr fun ends => kept c ends (fun here => ?_) inside
  rw [continues c here] at ends
  cases ends

/-! ## Addresses -/

theorem continues_toDigits (base n : Nat) (some_base : 2 ≤ base) (small : base ≤ 16) :
    Continues (Nat.toDigits base n) := by
  have digit : ∀ value : Fin 16, endsPath (Nat.digitChar value) = false := by decide
  induction n using Nat.strongRecOn with
  | ind n ih =>
    by_cases below : n < base
    · rw [Nat.toDigits_of_lt_base below]
      exact continues_cons.mpr ⟨digit ⟨n, by omega⟩, continues_nil⟩
    · have least : n % base < base := Nat.mod_lt n (by omega)
      rw [Nat.toDigits_of_base_le (by omega) (by omega)]
      refine continues_append.mpr ⟨ih _ (Nat.div_lt_self (by omega) (by omega)), ?_⟩
      exact continues_cons.mpr ⟨digit ⟨n % base, by omega⟩, continues_nil⟩

theorem continues_ipv4Text (address : Nat) : Continues (ipv4Text address) := by
  refine continues_join (by decide) fun piece among => ?_
  obtain ⟨octet, -, rfl⟩ := List.mem_map.mp among
  exact continues_toDigits 10 octet (by decide) (by decide)

theorem continues_wordsText (words : List Nat) : Continues (wordsText words) := by
  refine continues_join (by decide) fun piece among => ?_
  obtain ⟨word, -, rfl⟩ := List.mem_map.mp among
  exact continues_toDigits 16 word (by decide) (by decide)

theorem continues_ipv6Text (words : List Nat) : Continues (ipv6Text words) := by
  unfold ipv6Text
  simp only
  split
  · exact continues_wordsText words
  · have gap : Continues [':', ':'] := by decide
    exact continues_append.mpr
      ⟨continues_append.mpr ⟨continues_wordsText _, gap⟩, continues_wordsText _⟩

/-! ## Domain names -/

theorem continues_numberDigits (fuel bias place number : Nat) :
    Continues (Punycode.numberDigits fuel bias place number) := by
  have digit : ∀ value : Fin 36, endsPath (Punycode.digit value) = false := by decide
  have least : ∀ place, 1 ≤ Punycode.threshold place bias ∧ Punycode.threshold place bias ≤ 26 := by
    intro place
    unfold Punycode.threshold
    split
    · omega
    · split <;> omega
  induction fuel generalizing place number with
  | zero => exact continues_nil
  | succ fuel ih =>
    obtain ⟨positive, bounded⟩ := least place
    unfold Punycode.numberDigits
    simp only
    split
    · exact continues_cons.mpr ⟨digit ⟨number, by omega⟩, continues_nil⟩
    · have rest : (number - Punycode.threshold place bias) %
          (36 - Punycode.threshold place bias) < 36 - Punycode.threshold place bias :=
        Nat.mod_lt _ (by omega)
      exact continues_cons.mpr ⟨digit ⟨_, by omega⟩, ih _ _⟩

theorem continues_writeCode (basic : Nat) (state : Punycode.Writing) (c : Char)
    (before : Continues state.written) : Continues (Punycode.writeCode basic state c).written := by
  unfold Punycode.writeCode
  split
  · exact before
  · split
    · exact continues_append.mpr ⟨before, continues_numberDigits _ _ _ _⟩
    · exact before

theorem continues_writeCodes (label : List Char) (basic fuel : Nat) (state : Punycode.Writing)
    (before : Continues state.written) :
    ∀ written ∈ Punycode.writeCodes label basic fuel state, Continues written := by
  have folded : ∀ (label : List Char) (state : Punycode.Writing), Continues state.written →
      Continues (label.foldl (Punycode.writeCode basic) state).written := by
    intro label
    induction label with
    | nil => exact fun _ before => before
    | cons c rest ih => exact fun state before => ih _ (continues_writeCode basic state c before)
  induction fuel generalizing state with
  | zero =>
    rintro _ ⟨⟩
    exact before
  | succ fuel ih =>
    unfold Punycode.writeCodes
    simp only
    split
    · rintro _ ⟨⟩
      exact before
    · split
      · rintro _ ⟨⟩
      · exact ih _ (folded label _ before)

theorem continues_punycode (label : List Char) (continues : Continues label) :
    ∀ written ∈ Punycode.encode label, Continues written := by
  refine continues_writeCodes label _ _ _ ?_
  simp only
  split
  · exact continues_nil
  · exact continues_append.mpr ⟨continues.of_subset List.filter_sublist.subset, by decide⟩

theorem continues_labelToAscii (label : List Char) (continues : Continues label) :
    ∀ written ∈ labelToAscii? label, Continues written := by
  unfold labelToAscii?
  split
  · rintro _ ⟨⟩
    exact continues
  · split
    · rintro _ ⟨⟩
    · intro written made
      obtain ⟨code, encoded, rfl⟩ := Option.map_eq_some_iff.mp made
      exact continues_append.mpr ⟨by decide, continues_punycode label continues code encoded⟩

theorem mem_of_mapM {α β : Type} {f : α → Option β} {items : List α} {made : List β}
    (whole : items.mapM f = some made) : ∀ value ∈ made, ∃ item ∈ items, f item = some value := by
  induction items generalizing made with
  | nil =>
    cases whole
    exact List.forall_mem_nil _
  | cons item rest ih =>
    rw [List.mapM_cons] at whole
    obtain ⟨first, given, whole⟩ := Option.bind_eq_some_iff.mp whole
    obtain ⟨more, others, whole⟩ := Option.bind_eq_some_iff.mp whole
    cases whole
    refine List.forall_mem_cons.mpr ⟨⟨item, List.mem_cons_self, given⟩, fun value inside => ?_⟩
    obtain ⟨other, among, same⟩ := ih others value inside
    exact ⟨other, List.mem_cons_of_mem _ among, same⟩

theorem continues_domainToAscii (domain : List Char) :
    ∀ name ∈ domainToAscii? domain, Continues name := by
  intro name made
  obtain ⟨mapped, -, made⟩ := Option.bind_eq_some_iff.mp made
  simp only at made
  split at made
  · cases made
  · rename_i allowed
    have plain : Continues (Unicode.composed mapped.flatten) :=
      continues_of_allowed (by rintro _ (rfl | rfl) <;> decide) allowed
    obtain ⟨meanings, -, made⟩ := Option.bind_eq_some_iff.mp made
    split at made
    · obtain ⟨labels, written, made⟩ := Option.bind_eq_some_iff.mp made
      cases made
      refine continues_join (by decide) fun label among => ?_
      obtain ⟨piece, cut, same⟩ := mem_of_mapM written label among
      refine continues_labelToAscii piece (plain.of_subset fun c inside => ?_) label same
      exact Text.mem_of_mem_split '.' c _ piece cut inside
    · cases made

/-! ## Hosts -/

theorem continues_bracketed (text : List Char) :
    ∀ outcome ∈ bracketed? text, Ensures (fun host => Continues host.text) outcome := by
  unfold bracketed?
  split
  · split
    · split
      · rintro _ ⟨⟩
        refine ensures_ok _ (continues_cons.mpr ⟨by decide, ?_⟩)
        exact continues_append.mpr ⟨continues_ipv6Text _, by decide⟩
      · rintro _ ⟨⟩
        exact ensures_error _
    · rintro _ ⟨⟩
      exact ensures_error _
  · rintro _ ⟨⟩

theorem readHost_continues (text : List Char) :
    Ensures (fun host => Continues host.text) (readHost text) := by
  unfold readHost
  split
  · rename_i outcome read
    exact continues_bracketed text outcome read
  · simp only
    split
    · exact ensures_error _
    · exact ensures_error _
    · rename_i name _ _ made
      obtain ⟨decoded, -, made⟩ := Option.bind_eq_some_iff.mp made
      refine .ite (fun _ => ?_) fun _ => ?_
      · split
        · exact ensures_ok _ (continues_ipv4Text _)
        · exact ensures_error _
      · exact ensures_ok _ (continues_domainToAscii _ _ made)

theorem readOpaqueHost_continues (text : List Char) :
    Ensures (fun host => Continues host.text) (readOpaqueHost text) := by
  unfold readOpaqueHost
  split
  · rename_i outcome read
    exact continues_bracketed text outcome read
  · refine .ite (fun _ => ensures_error _) fun allowed => ensures_ok _ ?_
    have clear : Continues text :=
      continues_of_allowed (by rintro _ (rfl | rfl) <;> decide) allowed
    exact clear.encode isPrintable

end ObjectTransfer.Url
