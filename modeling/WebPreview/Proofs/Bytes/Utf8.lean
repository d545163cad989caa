import Mathlib.Data.List.Basic
import WebPreview.Bytes.Utf8

/-! # Text as bytes and back

A text that is encoded is read back as it was, with any bytes behind it
(`WebPreview.Utf8.scan_encode`). So nothing of it is taken for a fault and replaced
(`WebPreview.Utf8.decodeLossy_encode`).

What may come next after a first byte depends on it, so that nothing is spelled longer than it has
to be and nothing that is no character is spelled at all.
-/

namespace WebPreview.Utf8

/-- The bytes of a text. -/
def encode (text : List Char) : List UInt8 := text.flatMap String.utf8EncodeChar

variable {byte next : UInt8} {low high bits v : Nat}

private theorem scan_start {p : Pending} (starts : lead byte = .start p) (bytes : List UInt8) :
    scan none (byte :: bytes) = scan (some p) bytes := by
  rw [scan, starts]

private theorem scan_last (takes : low ≤ byte.toNat ∧ byte.toNat ≤ high) (bytes : List UInt8) :
    scan (some ⟨1, low, high, bits⟩) (byte :: bytes) =
      some (Char.ofNat (bits * 64 + (byte.toNat - 0x80))) :: scan none bytes := by
  rw [scan, if_pos takes]
  rfl

private theorem scan_more (missing : Nat) (takes : low ≤ byte.toNat ∧ byte.toNat ≤ high)
    (bytes : List UInt8) :
    scan (some ⟨missing + 2, low, high, bits⟩) (byte :: bytes) =
      scan (some ⟨missing + 1, 0x80, 0xBF, bits * 64 + (byte.toNat - 0x80)⟩) bytes := by
  rw [scan, if_pos takes]
  rfl

private theorem lead_one (first : byte.toNat = v) (small : v ≤ 0x7F) :
    lead byte = .whole (Char.ofNat v) := by
  rw [lead, first, if_pos (by omega)]

private theorem lead_two (first : byte.toNat = v / 64 + 0xC0) (least : 0x80 ≤ v)
    (most : v ≤ 0x7FF) :
    lead byte = .start ⟨1, 0x80, 0xBF, v / 64⟩ := by
  rw [lead, first, if_neg (by omega), if_neg (by omega), if_pos (by omega), Nat.add_sub_cancel]

private theorem lead_three (first : byte.toNat = v / 4096 + 0xE0)
    (second : next.toNat = v / 64 % 64 + 0x80) (least : 0x800 ≤ v) (most : v ≤ 0xFFFF)
    (valid : v < 0xD800 ∨ 0xDFFF < v) :
    ∃ low high, lead byte = .start ⟨2, low, high, v / 4096⟩ ∧
      low ≤ next.toNat ∧ next.toNat ≤ high := by
  rw [lead, first, if_neg (by omega), if_neg (by omega), if_neg (by omega)]
  split
  · have bits : v / 4096 = 0 := by omega
    rw [bits]
    exact ⟨0xA0, 0xBF, rfl, by omega, by omega⟩
  · split
    · have bits : v / 4096 = 13 := by omega
      rw [bits]
      exact ⟨0x80, 0x9F, rfl, by omega, by omega⟩
    · rw [if_pos (by omega), Nat.add_sub_cancel]
      exact ⟨0x80, 0xBF, rfl, by omega, by omega⟩

private theorem lead_four (first : byte.toNat = v / 262144 + 0xF0)
    (second : next.toNat = v / 4096 % 64 + 0x80) (least : 0x10000 ≤ v) (most : v < 0x110000) :
    ∃ low high, lead byte = .start ⟨3, low, high, v / 262144⟩ ∧
      low ≤ next.toNat ∧ next.toNat ≤ high := by
  rw [lead, first, if_neg (by omega), if_neg (by omega), if_neg (by omega), if_neg (by omega),
    if_neg (by omega), if_neg (by omega)]
  split
  · have bits : v / 262144 = 0 := by omega
    rw [bits]
    exact ⟨0x90, 0xBF, rfl, by omega, by omega⟩
  · split
    · rw [Nat.add_sub_cancel]
      exact ⟨0x80, 0xBF, rfl, by omega, by omega⟩
    · rw [if_pos (by omega)]
      have bits : v / 262144 = 4 := by omega
      rw [bits]
      exact ⟨0x80, 0x8F, rfl, by omega, by omega⟩

private theorem toNat_ofNat_byte {n : Nat} (small : n < 256) : (UInt8.ofNat n).toNat = n := by
  rw [UInt8.toNat_ofNat', Nat.mod_eq_of_lt small]

/-- A byte after the first one says six bits. -/
theorem takes_six (n : Nat) : 0x80 ≤ (UInt8.ofNat (n % 64 + 0x80)).toNat ∧
    (UInt8.ofNat (n % 64 + 0x80)).toNat ≤ 0xBF := by
  rw [toNat_ofNat_byte (by omega)]
  omega

/-- A character is read back from its bytes. -/
theorem scan_encodeChar (c : Char) (bytes : List UInt8) :
    scan none (String.utf8EncodeChar c ++ bytes) = some c :: scan none bytes := by
  have valid : c.val.toNat < 0xD800 ∨ 0xDFFF < c.val.toNat ∧ c.val.toNat < 0x110000 := c.valid
  have whole : Char.ofNat c.val.toNat = c := Char.ofNat_toNat c
  have six (n : Nat) : (UInt8.ofNat (n % 64 + 0x80)).toNat = n % 64 + 0x80 :=
    toNat_ofNat_byte (by omega)
  unfold String.utf8EncodeChar
  generalize c.val.toNat = v at valid whole ⊢
  simp only
  split
  · next small =>
    rw [List.singleton_append, scan, lead_one (toNat_ofNat_byte (by omega)) small, whole]
  split
  · next most =>
    have first : (UInt8.ofNat (v / 64 % 32 + 192)).toNat = v / 64 + 0xC0 := by
      rw [toNat_ofNat_byte (by omega)]
      omega
    simp only [List.cons_append, List.nil_append]
    rw [scan_start (lead_two first (by omega) most), scan_last (takes_six v), six,
      Nat.add_sub_cancel, Nat.div_add_mod', whole]
  split
  · next most =>
    have first : (UInt8.ofNat (v / 4096 % 16 + 224)).toNat = v / 4096 + 0xE0 := by
      rw [toNat_ofNat_byte (by omega)]
      omega
    obtain ⟨low, high, starts, takes⟩ :=
      lead_three first (six (v / 64)) (by omega) most (by omega)
    have spelled : (v / 4096 * 64 + v / 64 % 64) * 64 + v % 64 = v := by omega
    simp only [List.cons_append, List.nil_append]
    rw [scan_start starts, scan_more 0 takes, scan_last (takes_six v), six, six,
      Nat.add_sub_cancel, Nat.add_sub_cancel, spelled, whole]
  · have first : (UInt8.ofNat (v / 262144 % 8 + 240)).toNat = v / 262144 + 0xF0 := by
      rw [toNat_ofNat_byte (by omega)]
      omega
    obtain ⟨low, high, starts, takes⟩ :=
      lead_four first (six (v / 4096)) (by omega) (by omega)
    have spelled :
        ((v / 262144 * 64 + v / 4096 % 64) * 64 + v / 64 % 64) * 64 + v % 64 = v := by omega
    simp only [List.cons_append, List.nil_append]
    rw [scan_start starts, scan_more 1 takes, scan_more 0 (takes_six _), scan_last (takes_six v),
      six, six, six, Nat.add_sub_cancel, Nat.add_sub_cancel, Nat.add_sub_cancel, spelled, whole]

/-- Encoded text is read back before anything behind it. -/
theorem scan_encode (text : List Char) (bytes : List UInt8) :
    scan none (encode text ++ bytes) = text.map some ++ scan none bytes := by
  induction text with
  | nil => rfl
  | cons c text ih =>
      rw [encode, List.flatMap_cons, List.append_assoc, scan_encodeChar]
      exact congrArg (some c :: ·) ih

/-- A text that is encoded is read back as it was. -/
theorem decodeLossy_encode (s : String) : decodeLossy (encode s.toList) = s := by
  have scanned := scan_encode s.toList []
  rw [List.append_nil] at scanned
  rw [decodeLossy, scanned, scan, List.append_nil, List.map_map]
  have same : (fun c : Option Char => c.getD replacement) ∘ some = id := rfl
  rw [same, List.map_id, String.ofList_toList]

end WebPreview.Utf8
