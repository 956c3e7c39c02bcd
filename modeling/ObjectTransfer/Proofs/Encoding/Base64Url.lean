import ObjectTransfer.Encoding.Base64Url
import ObjectTransfer.Proofs.Control.Outcome

/-!
# The one written form of octets

What `encode` writes is read back, and nothing else is read: a text that
decodes to some octets is the very text that `encode` writes for them.  So
padding, foreign symbols, impossible lengths and unused bits that are set are
all refused.
-/

set_option autoImplicit false

namespace ObjectTransfer.Base64Url

/-! ## Symbols -/

theorem value?_symbol (value : Nat) (small : value < 64) :
    value? (symbol value) = some value := by
  have all : ∀ index : Fin 64, value? (symbol index.val) = some index.val := by decide
  exact all ⟨value, small⟩

theorem symbol_of_value? (octet : UInt8) (value : Nat) (found : value? octet = some value) :
    value < 64 ∧ symbol value = octet := by
  have all : ∀ code : Fin 256, ∀ answer ∈ value? (UInt8.ofNat code.val),
      answer < 64 ∧ symbol answer = UInt8.ofNat code.val := by decide +kernel
  have here := all ⟨octet.toNat, octet.toNat_lt⟩ value
  simp only [UInt8.ofNat_toNat, Option.mem_def] at here
  exact here found

theorem symbol_ne_of_foreign (value : Nat) (small : value < 64) (octet : UInt8)
    (foreign : value? octet = none) : symbol value ≠ octet := by
  intro same
  have read := value?_symbol value small
  rw [same, foreign] at read
  cases read

theorem symbol_lt (value : Nat) (small : value < 64) : (symbol value).toNat < 128 := by
  have all : ∀ index : Fin 64, (symbol index.val).toNat < 128 := by decide
  exact all ⟨value, small⟩

theorem exists_symbol_of_mem_encode (octets : Octets) (written : UInt8)
    (inside : written ∈ encode octets) : ∃ value, value < 64 ∧ written = symbol value := by
  induction octets using encode.induct with
  | case1 => simp [encode] at inside
  | case2 a =>
    have bound := a.toNat_lt
    simp only [encode, List.mem_cons, List.not_mem_nil, or_false] at inside
    rcases inside with same | same
    · exact ⟨_, by omega, same⟩
    · exact ⟨_, by omega, same⟩
  | case3 a b =>
    have first := a.toNat_lt
    have second := b.toNat_lt
    simp only [encode, List.mem_cons, List.not_mem_nil, or_false] at inside
    rcases inside with same | same | same
    · exact ⟨_, by omega, same⟩
    · exact ⟨_, by omega, same⟩
    · exact ⟨_, by omega, same⟩
  | case4 a b c rest ih =>
    have first := a.toNat_lt
    have second := b.toNat_lt
    have third := c.toNat_lt
    simp only [encode, List.mem_cons] at inside
    rcases inside with same | same | same | same | later
    · exact ⟨_, by omega, same⟩
    · exact ⟨_, by omega, same⟩
    · exact ⟨_, by omega, same⟩
    · exact ⟨_, by omega, same⟩
    · exact ih later

/-! ## Groups of symbols -/

theorem encode_group (p q r s : Nat) (pSmall : p < 64) (qSmall : q < 64) (rSmall : r < 64)
    (sSmall : s < 64) (rest : Octets) :
    encode (UInt8.ofNat (p * 4 + q / 16) :: UInt8.ofNat (q % 16 * 16 + r / 4) ::
        UInt8.ofNat (r % 4 * 64 + s) :: rest) =
      symbol p :: symbol q :: symbol r :: symbol s :: encode rest := by
  have first : (UInt8.ofNat (p * 4 + q / 16)).toNat = p * 4 + q / 16 :=
    UInt8.toNat_ofNat_of_lt (by simp only [UInt8.size]; omega)
  have second : (UInt8.ofNat (q % 16 * 16 + r / 4)).toNat = q % 16 * 16 + r / 4 :=
    UInt8.toNat_ofNat_of_lt (by simp only [UInt8.size]; omega)
  have third : (UInt8.ofNat (r % 4 * 64 + s)).toNat = r % 4 * 64 + s :=
    UInt8.toNat_ofNat_of_lt (by simp only [UInt8.size]; omega)
  have one : (p * 4 + q / 16) / 4 = p := by omega
  have two : (p * 4 + q / 16) % 4 * 16 + (q % 16 * 16 + r / 4) / 16 = q := by omega
  have three : (q % 16 * 16 + r / 4) % 16 * 4 + (r % 4 * 64 + s) / 64 = r := by omega
  have four : (r % 4 * 64 + s) % 64 = s := by omega
  rw [encode, first, second, third, one, two, three, four]

theorem encode_pair (p q : Nat) (pSmall : p < 64) (qSmall : q < 64) (unused : q % 16 = 0) :
    encode [UInt8.ofNat (p * 4 + q / 16)] = [symbol p, symbol q] := by
  have first : (UInt8.ofNat (p * 4 + q / 16)).toNat = p * 4 + q / 16 :=
    UInt8.toNat_ofNat_of_lt (by simp only [UInt8.size]; omega)
  have one : (p * 4 + q / 16) / 4 = p := by omega
  have two : (p * 4 + q / 16) % 4 * 16 = q := by omega
  rw [encode, first, one, two]

theorem encode_triple (p q r : Nat) (pSmall : p < 64) (qSmall : q < 64) (rSmall : r < 64)
    (unused : r % 4 = 0) :
    encode [UInt8.ofNat (p * 4 + q / 16), UInt8.ofNat (q % 16 * 16 + r / 4)] =
      [symbol p, symbol q, symbol r] := by
  have first : (UInt8.ofNat (p * 4 + q / 16)).toNat = p * 4 + q / 16 :=
    UInt8.toNat_ofNat_of_lt (by simp only [UInt8.size]; omega)
  have second : (UInt8.ofNat (q % 16 * 16 + r / 4)).toNat = q % 16 * 16 + r / 4 :=
    UInt8.toNat_ofNat_of_lt (by simp only [UInt8.size]; omega)
  have one : (p * 4 + q / 16) / 4 = p := by omega
  have two : (p * 4 + q / 16) % 4 * 16 + (q % 16 * 16 + r / 4) / 16 = q := by omega
  have three : (q % 16 * 16 + r / 4) % 16 * 4 = r := by omega
  rw [encode, first, second, one, two, three]

theorem octets_of_group (a b c : UInt8) :
    UInt8.ofNat (a.toNat / 4 * 4 + (a.toNat % 4 * 16 + b.toNat / 16) / 16) = a ∧
      UInt8.ofNat ((a.toNat % 4 * 16 + b.toNat / 16) % 16 * 16 +
        (b.toNat % 16 * 4 + c.toNat / 64) / 4) = b ∧
      UInt8.ofNat ((b.toNat % 16 * 4 + c.toNat / 64) % 4 * 64 + c.toNat % 64) = c := by
  have first := a.toNat_lt
  have second := b.toNat_lt
  have third := c.toNat_lt
  have one : a.toNat / 4 * 4 + (a.toNat % 4 * 16 + b.toNat / 16) / 16 = a.toNat := by omega
  have two : (a.toNat % 4 * 16 + b.toNat / 16) % 16 * 16 +
      (b.toNat % 16 * 4 + c.toNat / 64) / 4 = b.toNat := by omega
  have three : (b.toNat % 16 * 4 + c.toNat / 64) % 4 * 64 + c.toNat % 64 = c.toNat := by omega
  rw [one, two, three]
  exact ⟨UInt8.ofNat_toNat, UInt8.ofNat_toNat, UInt8.ofNat_toNat⟩

/-! ## The last group -/

theorem lastGroup_symbols (offset : Nat) (more : List Nat) (small : ∀ value ∈ more, value < 64) :
    ∀ (place : Nat) (values : List Nat),
      lastGroup offset place none values (more.map symbol) = .ok (values ++ more, none) := by
  induction more with
  | nil =>
    intro place values
    simp [lastGroup]
  | cons value rest ih =>
    intro place values
    have valueSmall : value < 64 := small value List.mem_cons_self
    have restSmall : ∀ later ∈ rest, later < 64 :=
      fun later inside => small later (List.mem_cons_of_mem _ inside)
    have notPad : symbol value ≠ padOctet :=
      symbol_ne_of_foreign value valueSmall padOctet (by decide)
    simp only [List.map_cons, lastGroup, if_neg notPad, value?_symbol value valueSmall,
      ih restSmall, List.append_assoc, List.singleton_append]

/-- Behind a pad only pads are read, and no value. -/
theorem lastGroup_pad (offset : Nat) (group : Octets) :
    ∀ (place pad : Nat) (values result : List Nat) (ended : Option Nat),
      lastGroup offset place (some pad) values group = .ok (result, ended) →
        result = values ∧ ended = some pad := by
  induction group with
  | nil =>
    intro place pad values result ended read
    simp only [lastGroup, Except.ok.injEq, Prod.mk.injEq] at read
    exact ⟨read.1.symm, read.2.symm⟩
  | cons octet rest ih =>
    intro place pad values result ended read
    simp only [lastGroup] at read
    split at read
    · split at read
      · cases read
      · exact ih _ _ _ _ _ read
    · cases read

/-- What the last group was if its values were read: symbols only, or fewer values than octets. -/
theorem group_of_lastGroup (offset : Nat) (group : Octets) :
    ∀ (place : Nat) (values result : List Nat) (ended : Option Nat),
      lastGroup offset place none values group = .ok (result, ended) →
        ∃ more, result = values ++ more ∧ (∀ value ∈ more, value < 64) ∧
          (ended = none → group = more.map symbol) ∧
          (ended ≠ none → more.length < group.length) := by
  induction group with
  | nil =>
    intro place values result ended read
    simp only [lastGroup, Except.ok.injEq, Prod.mk.injEq] at read
    obtain ⟨rfl, rfl⟩ := read
    exact ⟨[], by simp, by simp, by simp, by simp⟩
  | cons octet rest ih =>
    intro place values result ended read
    simp only [lastGroup] at read
    split at read
    · split at read
      · cases read
      · obtain ⟨rfl, rfl⟩ := lastGroup_pad _ _ _ _ _ _ _ read
        exact ⟨[], by simp, by simp, by simp, by simp⟩
    · cases found : value? octet with
      | none =>
        rw [found] at read
        cases read
      | some value =>
        rw [found] at read
        obtain ⟨small, written⟩ := symbol_of_value? octet value found
        obtain ⟨more, exact, moreSmall, symbols, fewer⟩ := ih _ _ _ _ read
        refine ⟨value :: more, by simp [exact], ?_, ?_, ?_⟩
        · intro later inside
          rcases List.mem_cons.mp inside with same | inside
          · exact same ▸ small
          · exact moreSmall later inside
        · intro none
          rw [List.map_cons, written, ← symbols none]
        · intro padded
          have shorter := fewer padded
          simp only [List.length_cons]
          omega

theorem decodeLast_pair (offset p q : Nat) (pSmall : p < 64) (qSmall : q < 64)
    (unused : q % 16 = 0) :
    decodeLast offset [symbol p, symbol q] = .ok [UInt8.ofNat (p * 4 + q / 16)] := by
  have read := lastGroup_symbols offset [p, q] (by simp [pSmall, qSmall]) 0 []
  simp only [List.map_cons, List.map_nil, List.nil_append] at read
  simp only [decodeLast, read, bind, Except.bind, unused, Option.isSome_none, Bool.false_eq_true,
    if_false, ne_eq, not_true_eq_false]

theorem decodeLast_triple (offset p q r : Nat) (pSmall : p < 64) (qSmall : q < 64)
    (rSmall : r < 64) (unused : r % 4 = 0) :
    decodeLast offset [symbol p, symbol q, symbol r] =
      .ok [UInt8.ofNat (p * 4 + q / 16), UInt8.ofNat (q % 16 * 16 + r / 4)] := by
  have read := lastGroup_symbols offset [p, q, r] (by simp [pSmall, qSmall, rSmall]) 0 []
  simp only [List.map_cons, List.map_nil, List.nil_append] at read
  simp only [decodeLast, read, bind, Except.bind, unused, Option.isSome_none, Bool.false_eq_true,
    if_false, ne_eq, not_true_eq_false]

theorem decodeLast_quadruple (offset p q r s : Nat) (pSmall : p < 64) (qSmall : q < 64)
    (rSmall : r < 64) (sSmall : s < 64) :
    decodeLast offset [symbol p, symbol q, symbol r, symbol s] =
      .ok [UInt8.ofNat (p * 4 + q / 16), UInt8.ofNat (q % 16 * 16 + r / 4),
        UInt8.ofNat (r % 4 * 64 + s)] := by
  have read :=
    lastGroup_symbols offset [p, q, r, s] (by simp [pSmall, qSmall, rSmall, sSmall]) 0 []
  simp only [List.map_cons, List.map_nil, List.nil_append] at read
  simp only [decodeLast, read, bind, Except.bind]

theorem decodeLast_encode (offset : Nat) (octets : Octets) (short : octets.length ≤ 3) :
    decodeLast offset (encode octets) = .ok octets := by
  match octets, short with
  | [], _ => rfl
  | [a], _ =>
    have bound := a.toNat_lt
    have back : a.toNat / 4 * 4 + a.toNat % 4 * 16 / 16 = a.toNat := by omega
    rw [encode, decodeLast_pair offset _ _ (by omega) (by omega) (by omega), back,
      UInt8.ofNat_toNat]
  | [a, b], _ =>
    have first := a.toNat_lt
    have second := b.toNat_lt
    have one : a.toNat / 4 * 4 + (a.toNat % 4 * 16 + b.toNat / 16) / 16 = a.toNat := by omega
    have two : (a.toNat % 4 * 16 + b.toNat / 16) % 16 * 16 + b.toNat % 16 * 4 / 4 = b.toNat := by
      omega
    rw [encode, decodeLast_triple offset _ _ _ (by omega) (by omega) (by omega) (by omega), one,
      two, UInt8.ofNat_toNat, UInt8.ofNat_toNat]
  | [a, b, c], _ =>
    have first := a.toNat_lt
    have second := b.toNat_lt
    have third := c.toNat_lt
    obtain ⟨one, two, three⟩ := octets_of_group a b c
    rw [encode, encode, decodeLast_quadruple offset _ _ _ _ (by omega) (by omega) (by omega)
      (by omega), one, two, three]

theorem encode_of_decodeLast (offset : Nat) (group octets : Octets) (short : group.length ≤ 4)
    (read : decodeLast offset group = .ok octets) : encode octets = group := by
  simp only [decodeLast, bind, Except.bind] at read
  split at read
  · cases read
  · rename_i answer inner
    obtain ⟨values, ended⟩ := answer
    obtain ⟨more, exact, small, symbols, fewer⟩ := group_of_lastGroup _ _ _ _ _ _ inner
    rw [List.nil_append] at exact
    subst exact
    cases ended with
    | none =>
      have whole : group = values.map symbol := symbols rfl
      match values, small with
      | [], _ =>
        simp only [whole, List.map_nil, List.isEmpty_nil, if_true, Except.ok.injEq] at read
        rw [← read, whole, List.map_nil, encode]
      | [p], _ => simp [whole] at read
      | [p, q], small =>
        simp only [Option.isSome_none, Bool.false_eq_true, if_false, ne_eq, ite_not] at read
        split at read
        · rename_i unused
          cases read
          exact (encode_pair p q (small p (by simp)) (small q (by simp)) unused).trans whole.symm
        · cases read
      | [p, q, r], small =>
        simp only [Option.isSome_none, Bool.false_eq_true, if_false, ne_eq, ite_not] at read
        split at read
        · rename_i unused
          cases read
          exact (encode_triple p q r (small p (by simp)) (small q (by simp)) (small r (by simp))
            unused).trans whole.symm
        · cases read
      | [p, q, r, s], small =>
        cases read
        exact (encode_group p q r s (small p (by simp)) (small q (by simp)) (small r (by simp))
          (small s (by simp)) []).trans whole.symm
      | p :: q :: r :: s :: t :: rest, _ =>
        have long := congrArg List.length whole
        simp only [List.length_map, List.length_cons] at long
        omega
    | some pad =>
      have shorter := fewer (by simp)
      match values with
      | [] =>
        cases group with
        | nil => simp at shorter
        | cons octet rest => simp at read
      | [p] =>
        cases group with
        | nil => simp at shorter
        | cons octet rest => simp at read
      | [p, q] => simp at read
      | [p, q, r] => simp at read
      | p :: q :: r :: s :: rest =>
        simp only [List.length_cons] at shorter
        omega

/-! ## Whole texts -/

theorem readSymbol_symbol (offset value : Nat) (small : value < 64) :
    readSymbol offset (symbol value) = .ok value := by
  simp [readSymbol, value?_symbol value small]

theorem symbol_of_readSymbol (offset value : Nat) (octet : UInt8)
    (read : readSymbol offset octet = .ok value) : value < 64 ∧ symbol value = octet := by
  simp only [readSymbol] at read
  split at read
  · rename_i found
    cases read
    exact symbol_of_value? octet value found
  · cases read

theorem decodeFrom_encode (octets : Octets) (offset : Nat) :
    decodeFrom offset (encode octets) = .ok octets := by
  induction octets using encode.induct generalizing offset with
  | case1 => rfl
  | case2 a => exact decodeLast_encode offset [a] (by simp)
  | case3 a b => exact decodeLast_encode offset [a, b] (by simp)
  | case4 a b c rest ih =>
    have later := ih (offset + 4)
    cases more : encode rest with
    | nil =>
      rw [more] at later
      have none : rest = [] := (Except.ok.inj later).symm
      subst none
      exact decodeLast_encode offset [a, b, c] (by simp)
    | cons next others =>
      have first := a.toNat_lt
      have second := b.toNat_lt
      have third := c.toNat_lt
      obtain ⟨one, two, three⟩ := octets_of_group a b c
      rw [more] at later
      rw [encode, more, decodeFrom, readSymbol_symbol _ _ (by omega),
        readSymbol_symbol _ _ (by omega), readSymbol_symbol _ _ (by omega),
        readSymbol_symbol _ _ (by omega), later]
      simp only [ok_bind, one, two, three]

theorem encode_of_decodeFrom (symbols : Octets) (offset : Nat) (octets : Octets)
    (read : decodeFrom offset symbols = .ok octets) : encode octets = symbols := by
  induction offset, symbols using decodeFrom.induct generalizing octets with
  | case1 offset a b c d e rest ih =>
    rw [decodeFrom] at read
    obtain ⟨p, first, afterFirst⟩ := (bind_eq_ok_iff _ _ _).mp read
    obtain ⟨q, second, afterSecond⟩ := (bind_eq_ok_iff _ _ _).mp afterFirst
    obtain ⟨r, third, afterThird⟩ := (bind_eq_ok_iff _ _ _).mp afterSecond
    obtain ⟨s, fourth, afterFourth⟩ := (bind_eq_ok_iff _ _ _).mp afterThird
    obtain ⟨more, later, whole⟩ := (bind_eq_ok_iff _ _ _).mp afterFourth
    obtain ⟨pSmall, rfl⟩ := symbol_of_readSymbol _ _ _ first
    obtain ⟨qSmall, rfl⟩ := symbol_of_readSymbol _ _ _ second
    obtain ⟨rSmall, rfl⟩ := symbol_of_readSymbol _ _ _ third
    obtain ⟨sSmall, rfl⟩ := symbol_of_readSymbol _ _ _ fourth
    rw [← Except.ok.inj whole, encode_group p q r s pSmall qSmall rSmall sSmall, ih more later]
  | case2 offset group short =>
    have atMostFour : group.length ≤ 4 := by
      match group, short with
      | [], _ | [_], _ | [_, _], _ | [_, _, _], _ | [_, _, _, _], _ => simp
      | a :: b :: c :: d :: e :: rest, short => exact absurd rfl (short a b c d e rest)
    rw [decodeFrom.eq_2 offset group short] at read
    exact encode_of_decodeLast offset group octets atMostFour read

theorem length_encode_mod_four (octets : Octets) : (encode octets).length % 4 ≠ 1 := by
  induction octets using encode.induct with
  | case1 => simp [encode]
  | case2 a => simp [encode]
  | case3 a b => simp [encode]
  | case4 a b c rest ih =>
    simp only [encode, List.length_cons]
    omega

theorem decode_encode (octets : Octets) : decode (encode octets) = .ok octets := by
  have whole := decodeFrom_encode octets 0
  simp only [decode]
  split
  · rw [if_neg fun lone => length_encode_mod_four octets lone.1, whole]
  · rename_i none
    rw [List.getLast?_eq_none_iff.mp none] at whole
    exact whole

theorem encode_of_decode (symbols octets : Octets) (read : decode symbols = .ok octets) :
    encode octets = symbols := by
  simp only [decode] at read
  split at read
  · split at read
    · cases read
    · exact encode_of_decodeFrom symbols 0 octets read
  · rename_i none
    cases read
    rw [List.getLast?_eq_none_iff.mp none, encode]

/-- Octets have one written form, and the reader accepts nothing else. -/
theorem decode_eq_ok_iff (symbols octets : Octets) :
    decode symbols = .ok octets ↔ symbols = encode octets :=
  ⟨fun read => (encode_of_decode symbols octets read).symm,
    fun written => written ▸ decode_encode octets⟩

end ObjectTransfer.Base64Url
