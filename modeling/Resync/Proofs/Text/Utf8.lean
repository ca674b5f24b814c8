import Resync.Text.Utf8

/-! # Reading UTF-8 back

Bytes are decoded to characters exactly if they are the encoding of these characters. Between the
two directions stands the grammar of the bytes of one character: the decoder takes such bytes off
the front and nothing else, and every character is encoded by such bytes.
-/
namespace Resync.Utf8

/-- The bytes that stand for one character, whose number they make up. -/
inductive Spells : List UInt8 → Char → Prop where
  | one {a : UInt8} (ha : a.toNat < 128) : Spells [a] (Char.ofNat a.toNat)
  | two {a b : UInt8} (ha : 194 ≤ a.toNat ∧ a.toNat ≤ 223) (hb : isContinuation b = true) :
      Spells [a, b] (Char.ofNat (a.toNat % 0x20 * 0x40 + payload b))
  | three {a b c : UInt8} (ha : 224 ≤ a.toNat ∧ a.toNat ≤ 239) (hb : follows3 a b = true)
      (hc : isContinuation c = true) :
      Spells [a, b, c] (Char.ofNat ((a.toNat % 0x10 * 0x40 + payload b) * 0x40 + payload c))
  | four {a b c d : UInt8} (ha : 240 ≤ a.toNat ∧ a.toNat ≤ 244) (hb : follows4 a b = true)
      (hc : isContinuation c = true) (hd : isContinuation d = true) :
      Spells [a, b, c, d] (Char.ofNat
        (((a.toNat % 0x08 * 0x40 + payload b) * 0x40 + payload c) * 0x40 + payload d))

variable {a b : UInt8} {bytes rest : List UInt8} {ch : Char} {cs ds : List Char} {i : Nat}

theorem between_iff {m n : UInt8} :
    (decide (m ≤ a) && decide (a ≤ n)) = true ↔ m.toNat ≤ a.toNat ∧ a.toNat ≤ n.toNat := by
  simp [UInt8.le_iff_toNat_le]

theorem isContinuation_iff : isContinuation b = true ↔ 128 ≤ b.toNat ∧ b.toNat ≤ 191 :=
  between_iff

theorem follows3_iff : follows3 a b = true ↔
    (128 ≤ b.toNat ∧ b.toNat ≤ 191) ∧ (a.toNat = 224 → 160 ≤ b.toNat) ∧
      (a.toNat = 237 → b.toNat ≤ 159) := by
  have ha : ∀ n : UInt8, a = n ↔ a.toNat = n.toNat := fun n => UInt8.toNat_inj.symm
  simp [follows3, isContinuation_iff, UInt8.lt_iff_toNat_lt, ha]
  omega

theorem follows4_iff : follows4 a b = true ↔
    (128 ≤ b.toNat ∧ b.toNat ≤ 191) ∧ (a.toNat = 240 → 144 ≤ b.toNat) ∧
      (a.toNat = 244 → b.toNat ≤ 143) := by
  have ha : ∀ n : UInt8, a = n ↔ a.toNat = n.toNat := fun n => UInt8.toNat_inj.symm
  simp [follows4, isContinuation_iff, UInt8.lt_iff_toNat_lt, ha]
  omega

section Encoding

theorem toNat_val_ofNat {n : Nat} (h : n.isValidChar) : (Char.ofNat n).val.toNat = n := by
  rw [Char.ofNat, dif_pos h]
  rfl

theorem eq_of_toNat {n : Nat} (h : n = a.toNat) : UInt8.ofNat n = a := by
  rw [h, UInt8.ofNat_toNat]

theorem toNat_ofNat {n : Nat} (h : n < 256) : (UInt8.ofNat n).toNat = n := UInt8.toNat_ofNat_of_lt' h

theorem exists_byte {n : Nat} (h : n < 256) : ∃ a : UInt8, UInt8.ofNat n = a ∧ a.toNat = n :=
  ⟨_, rfl, toNat_ofNat h⟩

theorem Spells.eq_encode (h : Spells bytes ch) : bytes = String.utf8EncodeChar ch := by
  unfold String.utf8EncodeChar
  cases h with
  | @one a ha =>
    rw [toNat_val_ofNat (.inl (by omega)), if_pos (by omega), UInt8.ofNat_toNat]
  | @two a b ha hb =>
    rw [isContinuation_iff] at hb
    unfold payload
    rw [toNat_val_ofNat (.inl (by omega)), if_neg (by omega), if_pos (by omega),
      eq_of_toNat (a := a) (by omega), eq_of_toNat (a := b) (by omega)]
  | @three a b c ha hb hc =>
    rw [follows3_iff] at hb
    rw [isContinuation_iff] at hc
    unfold payload
    have hvalid : ((a.toNat % 0x10 * 0x40 + b.toNat % 0x40) * 0x40 + c.toNat % 0x40).isValidChar := by
      unfold Nat.isValidChar
      omega
    rw [toNat_val_ofNat hvalid, if_neg (by omega), if_neg (by omega), if_pos (by omega),
      eq_of_toNat (a := a) (by omega), eq_of_toNat (a := b) (by omega), eq_of_toNat (a := c) (by omega)]
  | @four a b c d ha hb hc hd =>
    rw [follows4_iff] at hb
    rw [isContinuation_iff] at hc hd
    unfold payload
    rw [toNat_val_ofNat (.inr (by omega)), if_neg (by omega), if_neg (by omega), if_neg (by omega),
      eq_of_toNat (a := a) (by omega), eq_of_toNat (a := b) (by omega), eq_of_toNat (a := c) (by omega),
      eq_of_toNat (a := d) (by omega)]

theorem Spells.of_eq {m n : Nat} (h : Spells bytes (Char.ofNat m)) (hm : m = n) :
    Spells bytes (Char.ofNat n) := hm ▸ h

theorem spells_encode (ch : Char) : Spells (String.utf8EncodeChar ch) ch := by
  obtain ⟨n, hvalid, rfl⟩ : ∃ n : Nat, n.isValidChar ∧ ch = Char.ofNat n :=
    ⟨ch.toNat, ch.valid, (Char.ofNat_toNat ch).symm⟩
  unfold String.utf8EncodeChar
  rw [toNat_val_ofNat hvalid]
  unfold Nat.isValidChar at hvalid
  dsimp only
  split
  · obtain ⟨a, ha, hna⟩ := exists_byte (n := n) (by omega)
    rw [ha]
    exact (Spells.one (by omega)).of_eq hna
  split
  · obtain ⟨a, ha, hna⟩ := exists_byte (n := n / 64 % 32 + 192) (by omega)
    obtain ⟨b, hb, hnb⟩ := exists_byte (n := n % 64 + 128) (by omega)
    rw [ha, hb]
    refine (Spells.two (by omega) (isContinuation_iff.mpr (by omega))).of_eq ?_
    unfold payload
    omega
  split
  · obtain ⟨a, ha, hna⟩ := exists_byte (n := n / 4096 % 16 + 224) (by omega)
    obtain ⟨b, hb, hnb⟩ := exists_byte (n := n / 64 % 64 + 128) (by omega)
    obtain ⟨c, hc, hnc⟩ := exists_byte (n := n % 64 + 128) (by omega)
    rw [ha, hb, hc]
    refine (Spells.three (by omega) (follows3_iff.mpr (by omega))
      (isContinuation_iff.mpr (by omega))).of_eq ?_
    unfold payload
    omega
  · obtain ⟨a, ha, hna⟩ := exists_byte (n := n / 262144 % 8 + 240) (by omega)
    obtain ⟨b, hb, hnb⟩ := exists_byte (n := n / 4096 % 64 + 128) (by omega)
    obtain ⟨c, hc, hnc⟩ := exists_byte (n := n / 64 % 64 + 128) (by omega)
    obtain ⟨d, hd, hnd⟩ := exists_byte (n := n % 64 + 128) (by omega)
    rw [ha, hb, hc, hd]
    refine (Spells.four (by omega) (follows4_iff.mpr (by omega)) (isContinuation_iff.mpr (by omega))
      (isContinuation_iff.mpr (by omega))).of_eq ?_
    unfold payload
    omega

end Encoding

section Decoding

theorem decodeFrom_append (h : Spells bytes ch) (i : Nat) (rest : List UInt8) :
    decodeFrom i (bytes ++ rest) = (decodeFrom (i + bytes.length) rest).map (ch :: ·) := by
  rw [decodeFrom.eq_def i]
  simp only [UInt8.lt_iff_toNat_lt, between_iff]
  cases h with
  | one ha => exact if_pos ha
  | @two a b ha hb =>
    have hone : ¬ a.toNat < 128 := by omega
    simp only [List.cons_append, List.nil_append, UInt8.reduceToNat, hone, ha, hb, and_self, ↓reduceIte]
    rfl
  | @three a b c ha hb hc =>
    have hone : ¬ a.toNat < 128 := by omega
    have htwo : ¬ (194 ≤ a.toNat ∧ a.toNat ≤ 223) := by omega
    simp only [List.cons_append, List.nil_append, UInt8.reduceToNat, hone, htwo, ha, hb, hc, and_self,
      ↓reduceIte]
    rfl
  | @four a b c d ha hb hc hd =>
    have hone : ¬ a.toNat < 128 := by omega
    have htwo : ¬ (194 ≤ a.toNat ∧ a.toNat ≤ 223) := by omega
    have hthree : ¬ (224 ≤ a.toNat ∧ a.toNat ≤ 239) := by omega
    simp only [List.cons_append, List.nil_append, UInt8.reduceToNat, hone, htwo, hthree, ha, hb, hc, hd,
      and_self, ↓reduceIte]
    rfl

theorem decodeFrom_encode (i : Nat) (cs : List Char) : decodeFrom i (encode cs) = .ok cs := by
  induction cs generalizing i with
  | nil => rfl
  | cons ch cs ih =>
    rw [encode, List.flatMap_cons, decodeFrom_append (spells_encode ch)]
    exact congrArg (Except.map (ch :: ·)) (ih _)

theorem Spells.append_eq_encode (h : Spells bytes ch) {r : Except Fault (List Char)}
    (hr : r.map (ch :: ·) = .ok cs) (ih : ∀ ds, r = .ok ds → rest = encode ds) :
    bytes ++ rest = encode cs := by
  cases r with
  | error f => cases hr
  | ok ds =>
    cases hr
    rw [h.eq_encode, ih ds rfl]
    rfl

theorem eq_encode_of_decodeFrom (h : decodeFrom i bytes = .ok cs) : bytes = encode cs := by
  fun_induction decodeFrom i bytes generalizing cs with
  | case1 =>
    cases h
    rfl
  | case2 _ _ _ ha ih =>
    exact (Spells.one (UInt8.lt_iff_toNat_lt.mp ha)).append_eq_encode h fun _ => ih
  | case4 _ _ _ ha _ _ hb ih =>
    exact (Spells.two (between_iff.mp ha) hb).append_eq_encode h fun _ => ih
  | case8 _ _ _ _ ha _ hb _ _ hc ih =>
    exact (Spells.three (between_iff.mp ha) hb hc).append_eq_encode h fun _ => ih
  | case14 _ _ _ _ _ ha _ hb _ hc _ _ hd ih =>
    exact (Spells.four (between_iff.mp ha) hb hc hd).append_eq_encode h fun _ => ih
  | _ => cases h

theorem decode_eq_ok_iff : decode bytes = .ok cs ↔ bytes = encode cs :=
  ⟨eq_encode_of_decodeFrom, fun h => h ▸ decodeFrom_encode 0 cs⟩

theorem encode_inj : encode cs = encode ds ↔ cs = ds := by
  refine ⟨fun h => ?_, congrArg encode⟩
  have hds : decode (encode cs) = .ok ds := decode_eq_ok_iff.mpr h
  rw [decode_eq_ok_iff.mpr rfl] at hds
  exact Except.ok.inj hds

end Decoding

theorem encode_ascii (h : ∀ b ∈ bytes, b.toNat < 128) :
    encode (bytes.map fun b => Char.ofNat b.toNat) = bytes := by
  induction bytes with
  | nil => rfl
  | cons b rest ih =>
    have hb : [b] = String.utf8EncodeChar (Char.ofNat b.toNat) :=
      (Spells.one (h b List.mem_cons_self)).eq_encode
    have hrest := ih fun b hb => h b (List.mem_cons_of_mem _ hb)
    rw [List.map_cons, encode, List.flatMap_cons, ← hb, List.singleton_append]
    exact congrArg (b :: ·) hrest

end Resync.Utf8
