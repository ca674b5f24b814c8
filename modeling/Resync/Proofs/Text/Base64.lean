import Resync.Proofs.Text.Utf8
import Resync.Text.Base64

/-! # Reading base64 back

A text is decoded to bytes exactly if it is their encoding. So every other text is refused: with a
symbol from outside of the alphabet, with padding that is missing, too much or out of place, and with
left-over bits that are not zero.
-/
namespace Resync.Base64

open Utf8 (toNat_ofNat eq_of_toNat)

variable {b : UInt8} {n v offset place : Nat} {text bytes group : List UInt8}

theorem value?_symbol (h : n < 64) : value? (symbol n) = some n := by
  have hall : ∀ n < 64, value? (symbol n) = some n := by decide
  exact hall n h

theorem symbol_ne_pad (h : n < 64) : symbol n ≠ pad := by
  have hall : ∀ n < 64, symbol n ≠ pad := by decide
  exact hall n h

theorem value?_eq_some (h : value? b = some v) : b = symbol v ∧ v < 64 := by
  have hall : ∀ m < 256, ∀ w ∈ value? (UInt8.ofNat m), UInt8.ofNat m = symbol w ∧ w < 64 := by
    decide +kernel
  have hb := hall b.toNat b.toNat_lt v
  rw [UInt8.ofNat_toNat] at hb
  exact hb h

theorem valueAt_eq_ok : valueAt offset b = .ok v ↔ value? b = some v := by
  unfold valueAt
  cases value? b with
  | none => simp
  | some w => simp

theorem valueAt_symbol (h : n < 64) : valueAt offset (symbol n) = .ok n :=
  valueAt_eq_ok.mpr (value?_symbol h)

section Groups

variable {x y z w : Nat}

theorem encode_full (hx : x < 64) (hy : y < 64) (hz : z < 64) (hw : w < 64) (rest : List UInt8) :
    encode (UInt8.ofNat (x * 4 + y / 16) :: UInt8.ofNat (y % 16 * 16 + z / 4) ::
        UInt8.ofNat (z % 4 * 64 + w) :: rest) =
      symbol x :: symbol y :: symbol z :: symbol w :: encode rest := by
  have hx' : (x * 4 + y / 16) / 4 = x := by omega
  have hy' : (x * 4 + y / 16) % 4 * 16 + (y % 16 * 16 + z / 4) / 16 = y := by omega
  have hz' : (y % 16 * 16 + z / 4) % 16 * 4 + (z % 4 * 64 + w) / 64 = z := by omega
  have hw' : (z % 4 * 64 + w) % 64 = w := by omega
  rw [encode, toNat_ofNat (by omega), toNat_ofNat (by omega), toNat_ofNat (by omega), hx', hy', hz', hw']

theorem encode_two (hx : x < 64) (hy : y < 64) (hz : z < 64) (hspill : z % 4 = 0) :
    encode [UInt8.ofNat (x * 4 + y / 16), UInt8.ofNat (y % 16 * 16 + z / 4)] =
      [symbol x, symbol y, symbol z, pad] := by
  have hx' : (x * 4 + y / 16) / 4 = x := by omega
  have hy' : (x * 4 + y / 16) % 4 * 16 + (y % 16 * 16 + z / 4) / 16 = y := by omega
  have hz' : (y % 16 * 16 + z / 4) % 16 * 4 = z := by omega
  rw [encode, toNat_ofNat (by omega), toNat_ofNat (by omega), hx', hy', hz']

theorem encode_one (hx : x < 64) (hy : y < 64) (hspill : y % 16 = 0) :
    encode [UInt8.ofNat (x * 4 + y / 16)] = [symbol x, symbol y, pad, pad] := by
  have hx' : (x * 4 + y / 16) / 4 = x := by omega
  have hy' : (x * 4 + y / 16) % 4 * 16 = y := by omega
  rw [encode, toNat_ofNat (by omega), hx', hy']

end Groups

section Soundness

/-- What has been read of a last group is symbols, and behind them padding. -/
theorem of_readTail {t t' : Tail} (h : readTail offset place t group = .ok t') :
    ∃ vs k, group = vs.map symbol ++ List.replicate k pad ∧ (∀ v ∈ vs, v < 64) ∧
      t'.values = t.values ++ vs ∧ t'.pads = t.pads + k ∧ (0 < t.pads → vs = []) := by
  induction group generalizing place t with
  | nil =>
    cases h
    exact ⟨[], 0, by simp⟩
  | cons b rest ih =>
    unfold readTail at h
    split at h
    · rename_i hpad
      split at h
      · cases h
      · obtain ⟨vs, k, hrest, -, hvalues, hpads, hnone⟩ := ih h
        rw [hnone (Nat.succ_pos _)] at hrest hvalues
        refine ⟨[], k + 1, ?_, by simp, hvalues, hpads.trans (Nat.succ_add_eq_add_succ _ _), fun _ => rfl⟩
        rw [hrest, hpad]
        rfl
    · split at h
      · cases h
      · rename_i hpads
        split at h
        · cases h
        · rename_i v hv
          obtain ⟨hb, hlt⟩ := value?_eq_some (valueAt_eq_ok.mp hv)
          obtain ⟨vs, k, hrest, hvs, hvalues, hpads', -⟩ := ih h
          refine ⟨v :: vs, k, ?_, ?_, ?_, hpads', fun hp => absurd hp hpads⟩
          · rw [hrest, hb]
            rfl
          · simpa [hlt] using hvs
          · simpa using hvalues

theorem eq_encode_of_tailBytes {t : Tail} (hlt : ∀ v ∈ t.values, v < 64) (htwo : ¬ t.values.length < 2)
    {k : Nat} (hfour : t.values.length + k = 4) (h : tailBytes offset t = .ok bytes) :
    t.values.map symbol ++ List.replicate k pad = encode bytes := by
  unfold tailBytes at h
  generalize t.values = vs at *
  rcases vs with _ | ⟨x, _ | ⟨y, _ | ⟨z, _ | ⟨w, _ | ⟨u, vs⟩⟩⟩⟩⟩
  · simp at htwo
  · simp at htwo
  · obtain rfl : k = 2 := Nat.add_left_cancel hfour
    simp only [List.forall_mem_cons] at hlt
    dsimp only at h
    split at h
    · rename_i hspill
      cases h
      rw [encode_one hlt.1 hlt.2.1 hspill]
      rfl
    · cases h
  · obtain rfl : k = 1 := Nat.add_left_cancel hfour
    simp only [List.forall_mem_cons] at hlt
    dsimp only at h
    split at h
    · rename_i hspill
      cases h
      rw [encode_two hlt.1 hlt.2.1 hlt.2.2.1 hspill]
      rfl
    · cases h
  · obtain rfl : k = 0 := Nat.add_left_cancel hfour
    simp only [List.forall_mem_cons] at hlt
    cases h
    rw [encode_full hlt.1 hlt.2.1 hlt.2.2.1 hlt.2.2.2.1]
    rfl
  · simp at hfour
    omega

theorem eq_encode_of_decodeTail (h : decodeTail offset group = .ok bytes) : group = encode bytes := by
  unfold decodeTail at h
  split at h
  · cases h
  rename_i t ht
  obtain ⟨vs, k, hgroup, hvs, hvalues, hpads, -⟩ := of_readTail ht
  obtain rfl : t.values = vs := hvalues
  split at h
  · rename_i hnil
    cases h
    exact hnil
  split at h
  · cases h
  split at h
  · cases h
  rename_i _ htwo hfour
  rw [hpads, Nat.zero_add, Decidable.not_not] at hfour
  rw [hgroup]
  exact eq_encode_of_tailBytes hvs htwo hfour h

theorem eq_encode_of_decodeGroups (h : decodeGroups offset text = .ok bytes) : text = encode bytes := by
  fun_induction decodeGroups offset text generalizing bytes with
  | case1 offset a b c d e rest ih =>
    simp only [bind, Except.bind] at h
    split at h
    · cases h
    rename_i x hx
    split at h
    · cases h
    rename_i y hy
    split at h
    · cases h
    rename_i z hz
    split at h
    · cases h
    rename_i w hw
    split at h
    · cases h
    rename_i tail htail
    cases h
    obtain ⟨ha, hx⟩ := value?_eq_some (valueAt_eq_ok.mp hx)
    obtain ⟨hb, hy⟩ := value?_eq_some (valueAt_eq_ok.mp hy)
    obtain ⟨hc, hz⟩ := value?_eq_some (valueAt_eq_ok.mp hz)
    obtain ⟨hd, hw⟩ := value?_eq_some (valueAt_eq_ok.mp hw)
    rw [encode_full hx hy hz hw, ← ih htail, ha, hb, hc, hd]
  | case2 offset group _ => exact eq_encode_of_decodeTail h

end Soundness

section Completeness

variable {x y z w : Nat}

theorem readTail_symbol {t : Tail} (h : n < 64) (hp : t.pads = 0) (rest : List UInt8) :
    readTail offset place t (symbol n :: rest) =
      readTail offset (place + 1) { t with values := t.values ++ [n], last := symbol n } rest := by
  simp [readTail, symbol_ne_pad h, hp, valueAt_symbol h]

theorem decodeTail_one (hx : x < 64) (hy : y < 64) (hspill : y % 16 = 0) :
    decodeTail offset [symbol x, symbol y, pad, pad] = .ok [UInt8.ofNat (x * 4 + y / 16)] := by
  rw [decodeTail, readTail_symbol hx rfl, readTail_symbol hy rfl]
  simp [readTail, tailBytes, hspill]

theorem decodeTail_two (hx : x < 64) (hy : y < 64) (hz : z < 64) (hspill : z % 4 = 0) :
    decodeTail offset [symbol x, symbol y, symbol z, pad] =
      .ok [UInt8.ofNat (x * 4 + y / 16), UInt8.ofNat (y % 16 * 16 + z / 4)] := by
  rw [decodeTail, readTail_symbol hx rfl, readTail_symbol hy rfl, readTail_symbol hz rfl]
  simp [readTail, tailBytes, hspill]

theorem decodeTail_full (hx : x < 64) (hy : y < 64) (hz : z < 64) (hw : w < 64) :
    decodeTail offset [symbol x, symbol y, symbol z, symbol w] =
      .ok [UInt8.ofNat (x * 4 + y / 16), UInt8.ofNat (y % 16 * 16 + z / 4), UInt8.ofNat (z % 4 * 64 + w)] := by
  rw [decodeTail, readTail_symbol hx rfl, readTail_symbol hy rfl, readTail_symbol hz rfl,
    readTail_symbol hw rfl]
  simp [readTail, tailBytes]

theorem decodeGroups_cons (hx : x < 64) (hy : y < 64) (hz : z < 64) (hw : w < 64)
    (b : UInt8) (rest : List UInt8) :
    decodeGroups offset (symbol x :: symbol y :: symbol z :: symbol w :: b :: rest) =
      (decodeGroups (offset + 4) (b :: rest)).map fun tail =>
        UInt8.ofNat (x * 4 + y / 16) :: UInt8.ofNat (y % 16 * 16 + z / 4) ::
          UInt8.ofNat (z % 4 * 64 + w) :: tail := by
  rw [decodeGroups, valueAt_symbol hx, valueAt_symbol hy, valueAt_symbol hz, valueAt_symbol hw]
  simp only [bind, Except.bind]
  cases decodeGroups (offset + 4) (b :: rest) with
  | error f => rfl
  | ok tail => rfl

theorem decodeGroups_last (h : text.length ≤ 4) : decodeGroups offset text = decodeTail offset text := by
  unfold decodeGroups
  split
  · simp only [List.length_cons] at h
    omega
  · rfl

theorem decodeGroups_encode (offset : Nat) (bytes : List UInt8) :
    decodeGroups offset (encode bytes) = .ok bytes := by
  fun_induction encode bytes generalizing offset with
  | case1 => rfl
  | case2 a =>
    have ha := a.toNat_lt
    rw [decodeGroups_last (by simp), decodeTail_one (by omega) (by omega) (by omega),
      eq_of_toNat (a := a) (by omega)]
  | case3 a b =>
    have ha := a.toNat_lt
    have hb := b.toNat_lt
    rw [decodeGroups_last (by simp), decodeTail_two (by omega) (by omega) (by omega) (by omega),
      eq_of_toNat (a := a) (by omega), eq_of_toNat (a := b) (by omega)]
  | case4 a b c rest ih =>
    have ha := a.toNat_lt
    have hb := b.toNat_lt
    have hc := c.toNat_lt
    have hbytes := ih (offset + 4)
    cases hrest : encode rest with
    | nil =>
      rw [hrest] at hbytes
      cases hbytes
      rw [decodeGroups_last (by simp), decodeTail_full (by omega) (by omega) (by omega) (by omega),
        eq_of_toNat (a := a) (by omega), eq_of_toNat (a := b) (by omega), eq_of_toNat (a := c) (by omega)]
    | cons s more =>
      rw [hrest] at hbytes
      rw [decodeGroups_cons (by omega) (by omega) (by omega) (by omega), hbytes,
        eq_of_toNat (a := a) (by omega), eq_of_toNat (a := b) (by omega), eq_of_toNat (a := c) (by omega)]
      rfl

theorem length_encode (bytes : List UInt8) : (encode bytes).length = (bytes.length + 2) / 3 * 4 := by
  fun_induction encode bytes with
  | case1 => rfl
  | case2 a => simp
  | case3 a b => simp
  | case4 a b c rest ih =>
    simp only [List.length_cons, ih]
    omega

theorem decode_eq_ok_iff : decode text = .ok bytes ↔ text = encode bytes := by
  unfold decode
  constructor
  · intro h
    split at h
    · cases h
    · exact eq_encode_of_decodeGroups h
  · rintro rfl
    have hstray : strayByte (encode bytes) = none := by
      rw [strayByte, if_neg]
      rw [length_encode]
      omega
    rw [hstray]
    exact decodeGroups_encode 0 bytes

end Completeness

theorem mem_encode (h : b ∈ encode bytes) : b = pad ∨ ∃ n < 64, b = symbol n := by
  fun_induction encode bytes with
  | case1 => cases h
  | case2 a =>
    have ha := a.toNat_lt
    simp only [List.mem_cons, List.not_mem_nil, or_false] at h
    rcases h with rfl | rfl | rfl | rfl
    · exact .inr ⟨_, by omega, rfl⟩
    · exact .inr ⟨_, by omega, rfl⟩
    · exact .inl rfl
    · exact .inl rfl
  | case3 a b =>
    have ha := a.toNat_lt
    have hb := b.toNat_lt
    simp only [List.mem_cons, List.not_mem_nil, or_false] at h
    rcases h with rfl | rfl | rfl | rfl
    · exact .inr ⟨_, by omega, rfl⟩
    · exact .inr ⟨_, by omega, rfl⟩
    · exact .inr ⟨_, by omega, rfl⟩
    · exact .inl rfl
  | case4 a b c rest ih =>
    have ha := a.toNat_lt
    have hb := b.toNat_lt
    have hc := c.toNat_lt
    simp only [List.mem_cons] at h
    rcases h with rfl | rfl | rfl | rfl | h
    · exact .inr ⟨_, by omega, rfl⟩
    · exact .inr ⟨_, by omega, rfl⟩
    · exact .inr ⟨_, by omega, rfl⟩
    · exact .inr ⟨_, by omega, rfl⟩
    · exact ih h

end Resync.Base64
