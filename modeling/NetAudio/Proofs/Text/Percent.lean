import NetAudio.Text.Bytes

/-!
# Percent encoding of plain text

A text of ASCII characters without percent signs stands for itself.
-/

set_option autoImplicit false

namespace NetAudio

theorem Utf8.encode_ascii {c : Char} (ascii : c.toNat ≤ 0x7F) :
    Utf8.encode [c] = [UInt8.ofNat c.toNat] := by
  have bytes : (String.ofList [c]).toUTF8 = [UInt8.ofNat c.toNat].toByteArray := by
    simp [List.utf8Encode, String.utf8EncodeChar, ascii]
  rw [Utf8.encode, bytes]
  simp [ByteArray.toList, ByteArray.toList.loop]
  rfl

theorem Utf8.scan_ascii {c : Char} (ascii : c.toNat ≤ 0x7F) (bytes : List UInt8) :
    Utf8.scan none (UInt8.ofNat c.toNat :: bytes) = some c :: Utf8.scan none bytes := by
  have byte : (UInt8.ofNat c.toNat).toNat = c.toNat := by
    rw [UInt8.toNat_ofNat']
    omega
  simp [Utf8.scan, Utf8.step, Utf8.start, Utf8.opening, byte, ascii]

namespace Percent

theorem decode_cons {c : Char} (literal : c ≠ '%') (rest : List Char) :
    decode (c :: rest) = Utf8.encode [c] ++ decode rest := by
  rw [decode]
  rintro high low more rfl
  exact absurd rfl literal

theorem decode?_decode {chars : List Char} (ascii : ∀ c ∈ chars, c.toNat ≤ 0x7F ∧ c ≠ '%') :
    Utf8.decode? (decode chars) = some chars := by
  have scanned : Utf8.scan none (decode chars) = chars.map some := by
    induction chars with
    | nil => rfl
    | cons c rest ih =>
        obtain ⟨low, literal⟩ := ascii c List.mem_cons_self
        have later := ih fun d member => ascii d (List.mem_cons_of_mem c member)
        rw [decode_cons literal, Utf8.encode_ascii low, List.singleton_append, Utf8.scan_ascii low,
          later, List.map_cons]
  rw [Utf8.decode?, scanned, List.mapM_map]
  simpa using List.mapM_pure (m := Option) (l := chars) (f := id)

end Percent

end NetAudio
