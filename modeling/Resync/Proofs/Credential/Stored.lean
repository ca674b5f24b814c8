import Resync.Proofs.Context.Draft
import Resync.Proofs.Text.Base64
import Resync.Proofs.Text.Blank
import Resync.Proofs.Text.Utf8

/-! # Stored passwords

A stored text is decoded to a password exactly if it is the encoding of this password with nothing
but blank characters around it. So no two encodings of a password differ, every other text is
refused, and no connection fails because of a password that was encoded by the cluster's codec.
-/
namespace Resync.Codec

variable {codec : Codec} {v v' s s' : String} {bytes : List UInt8} {before after : List Char}

theorem encode_asciiText (h : ∀ b ∈ bytes, b.toNat < 128) :
    Utf8.encode (asciiText bytes).toList = bytes := by
  rw [asciiText, String.toList_ofList, Utf8.encode_ascii h]

theorem encoded_ascii (s : String) : ∀ b ∈ Base64.encode (Utf8.encode s.toList), b.toNat < 128 := by
  have hsymbol : ∀ n < 64, (Base64.symbol n).toNat < 128 := by decide
  intro b hb
  rcases Base64.mem_encode hb with rfl | ⟨n, hn, rfl⟩
  · decide
  · exact hsymbol n hn

theorem encoded_not_blank (s : String) : ∀ c ∈ (encode .base64 s).toList, Text.isBlank c = false := by
  have hsymbol : ∀ n < 64, Text.isBlank (Char.ofNat (Base64.symbol n).toNat) = false := by decide
  intro c hc
  rw [encode, asciiText, String.toList_ofList, List.mem_map] at hc
  obtain ⟨b, hb, rfl⟩ := hc
  rcases Base64.mem_encode hb with rfl | ⟨n, hn, rfl⟩
  · decide
  · exact hsymbol n hn

theorem eq_encode_iff :
    Utf8.encode v.toList = Base64.encode (Utf8.encode s.toList) ↔ v = encode .base64 s := by
  rw [← encode_asciiText (encoded_ascii s), Utf8.encode_inj, String.toList_inj]
  rfl

theorem decode_eq_ok_iff : decode .base64 v = .ok s ↔ Text.trim v = encode .base64 s := by
  rw [← eq_encode_iff, ← Base64.decode_eq_ok_iff]
  simp only [decode]
  constructor
  · intro h
    split at h
    · cases h
    · rename_i bytes hbytes
      split at h
      · cases h
      · rename_i cs hcs
        cases h
        rw [hbytes, Utf8.decode_eq_ok_iff.mp hcs, String.toList_ofList]
  · intro h
    rw [h]
    simp only [Utf8.decode_eq_ok_iff.mpr rfl, String.ofList_toList]

theorem trim_surround (hb : ∀ c ∈ before, Text.isBlank c = true) (ha : ∀ c ∈ after, Text.isBlank c = true) :
    Text.trim (String.ofList (before ++ (encode .base64 s).toList ++ after)) = encode .base64 s := by
  rw [Text.trim, String.toList_ofList, Text.trimBlank_surround hb ha,
    Text.trimBlank_of_forall (encoded_not_blank s), String.ofList_toList]

theorem trim_encode (s : String) : Text.trim (encode .base64 s) = encode .base64 s := by
  rw [Text.trim, Text.trimBlank_of_forall (encoded_not_blank s), String.ofList_toList]

theorem decode_encode (codec : Codec) (s : String) : codec.decode (codec.encode s) = .ok s := by
  cases codec with
  | plain => rfl
  | base64 => exact decode_eq_ok_iff.mpr (trim_encode s)

theorem decode_eq_error_iff :
    (∃ fault, decode .base64 v = .error fault) ↔ ∀ s, Text.trim v ≠ encode .base64 s := by
  constructor
  · rintro ⟨fault, h⟩ s hs
    rw [decode_eq_ok_iff.mpr hs] at h
    cases h
  · intro h
    cases hd : decode .base64 v with
    | error fault => exact ⟨fault, rfl⟩
    | ok s => exact absurd (decode_eq_ok_iff.mp hd) (h s)

/-- What is decoded to a password is its encoding, up to blank characters at the ends, and a backend
with an encoded password refuses connections only for reasons of its own. -/
theorem stored_password (v s : String) :
    (decode .base64 v = .ok s ↔ Text.trim v = encode .base64 s) ∧
    (∀ before after : List Char, (∀ c ∈ before, Text.isBlank c = true) →
      (∀ c ∈ after, Text.isBlank c = true) →
        decode .base64 (String.ofList (before ++ (encode .base64 s).toList ++ after)) = .ok s) ∧
    (∀ v', decode .base64 v = .ok s → decode .base64 v' = .ok s → Text.trim v = Text.trim v') ∧
    ((∃ fault, decode .base64 v = .error fault) ↔ ∀ s', Text.trim v ≠ encode .base64 s') ∧
    ∀ (codec : Codec) (d : Draft) (m : Member), (d.world.backend m).password = codec.encode s →
      (∃ due, (d.world.attempt codec m).1 = .ok ⟨(d.world.backend m).refusing, due⟩) ∧
      (Draft.on d (Draft.connect codec m)).1 =
        if (d.world.backend m).refusing then .error (.dataAccess (.refused m.id))
        else .ok d.world.connections.length := by
  refine ⟨decode_eq_ok_iff, ?_, ?_, decode_eq_error_iff, ?_⟩
  · intro before after hb ha
    exact decode_eq_ok_iff.mpr (trim_surround hb ha)
  · intro v' h h'
    rw [decode_eq_ok_iff.mp h, decode_eq_ok_iff.mp h']
  · intro codec d m hpassword
    have hdecode : codec.decode (d.world.backend m).password = .ok s := by
      rw [hpassword, decode_encode]
    constructor
    · obtain ⟨due, hattempt⟩ := World.attempt_ok hdecode
      exact ⟨due, congrArg Prod.fst hattempt⟩
    · rw [Draft.on_connect, World.connectFault?, hdecode]
      by_cases hr : (d.world.backend m).refusing = true
      · simp only [hr, ↓reduceIte]
      · simp only [hr, ↓reduceIte, Bool.false_eq_true]

def guarded : Draft where
  world :=
    { backends := Assoc.ofList [("db", { id := "db", schema := ⟨[]⟩, password := "czNjcmV0" })]
      active := ⟨[]⟩
      cache := { strategy := .none } }

/-- A password with blank ends is decoded and opens a connection; one without its padding is refused,
so it is the encoding of nothing. -/
theorem stored_password_blank :
    decode .base64 " czNjcmV0\n" = .ok "s3cret" ∧
    (∀ s, Text.trim "cGFzcw=" ≠ encode .base64 s) ∧
    (Draft.on guarded (Draft.connect .base64 ⟨"db", "db"⟩)).1 = .ok 0 := by
  obtain ⟨hread, -, -, -, -⟩ := stored_password " czNjcmV0\n" "s3cret"
  obtain ⟨-, -, -, hrefused, hconnect⟩ := stored_password "cGFzcw=" "s3cret"
  have hfault : decode .base64 "cGFzcw=" = .error (.base64 .padding) := by rfl
  have hpassword : (guarded.world.backend ⟨"db", "db"⟩).password = encode .base64 "s3cret" := by
    decide +kernel
  exact ⟨hread.mpr (by decide +kernel), hrefused.mp ⟨_, hfault⟩, (hconnect .base64 guarded _ hpassword).2⟩

end Resync.Codec
