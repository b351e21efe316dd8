import AccessSync.Text.Utf8

/-!
# Reading what was encoded

The bytes of a text are read back as the text. Reading goes byte by byte with a pending character,
so a character is followed through its bytes: the first one opens it, each further one adds six
bits, and the last one ends it.

* `lead_two`, `lead_three`, `lead_four`: what the first byte of a character opens.
* `decodeLossy_utf8`: no text is changed.
-/

namespace AccessSync.Text

/-- The byte that a number below 256 stands for. -/
theorem toNat_byte {n : Nat} (h : n < 256) : (UInt8.ofNat n).toNat = n := by
  rw [UInt8.toNat_ofNat']
  exact Nat.mod_eq_of_lt h

theorem byte_lt_iff {n : Nat} (h : n < 256) (b : UInt8) : UInt8.ofNat n < b ↔ n < b.toNat := by
  rw [UInt8.lt_iff_toNat_lt, toNat_byte h]

theorem byte_beq_iff {n : Nat} (h : n < 256) (b : UInt8) :
    (UInt8.ofNat n == b) = true ↔ n = b.toNat := by
  rw [beq_iff_eq, ← UInt8.toNat_inj, toNat_byte h]

/-! ## First bytes -/

theorem lead_one {n : Nat} (h : n < 0x80) : lead (UInt8.ofNat n) = .char (Char.ofNat n) := by
  have hn : n < 256 := by omega
  have hlow : UInt8.ofNat n < 0x80 := (byte_lt_iff hn 0x80).2 h
  unfold lead
  rw [if_pos hlow, toNat_byte hn]

theorem lead_two {n : Nat} (h : 0x80 ≤ n) (h' : n < 0x800) :
    lead (UInt8.ofNat (0xC0 + n / 0x40)) = .opening ⟨n / 0x40, 1, 0x80, 0xBF⟩ := by
  have hn : 0xC0 + n / 0x40 < 256 := by omega
  have hvalue : (0xC0 + n / 0x40) % 0x20 = n / 0x40 := by omega
  unfold lead
  simp only [byte_lt_iff hn, toNat_byte hn, hvalue]
  rw [if_neg (by simp; omega), if_neg (by simp; omega), if_pos (by simp; omega)]

/-- The second of three bytes is in the range that the first one leaves, which is narrower after
0xE0 and, since surrogates are no characters, after 0xED. -/
theorem lead_three {n : Nat} (h : 0x800 ≤ n) (h' : n < 0x10000) (hs : n < 0xD800 ∨ 0xDFFF < n) :
    ∃ low high, lead (UInt8.ofNat (0xE0 + n / 0x1000)) = .opening ⟨n / 0x1000, 2, low, high⟩ ∧
      low.toNat ≤ 0x80 + n / 0x40 % 0x40 ∧ 0x80 + n / 0x40 % 0x40 ≤ high.toNat := by
  have hn : 0xE0 + n / 0x1000 < 256 := by omega
  have hvalue : (0xE0 + n / 0x1000) % 0x10 = n / 0x1000 := by omega
  unfold lead
  simp only [byte_lt_iff hn, byte_beq_iff hn, toNat_byte hn, hvalue]
  rw [if_neg (by simp; omega), if_neg (by simp; omega), if_neg (by simp)]
  by_cases h0 : n / 0x1000 = 0
  · refine ⟨0xA0, 0xBF, ?_, by simp; omega, by simp; omega⟩
    rw [if_pos (by simp; omega), h0]
  rw [if_neg (by simp; omega)]
  by_cases hd : n / 0x1000 = 0xD
  · refine ⟨0x80, 0x9F, ?_, by simp, by simp; omega⟩
    rw [if_pos (by simp; omega), hd]
  · refine ⟨0x80, 0xBF, ?_, by simp, by simp; omega⟩
    rw [if_neg (by simp; omega), if_pos (by simp; omega)]

/-- The second of four bytes is in the range that the first one leaves, which is narrower at both
ends. -/
theorem lead_four {n : Nat} (h : 0x10000 ≤ n) (h' : n < 0x110000) :
    ∃ low high, lead (UInt8.ofNat (0xF0 + n / 0x40000)) = .opening ⟨n / 0x40000, 3, low, high⟩ ∧
      low.toNat ≤ 0x80 + n / 0x1000 % 0x40 ∧ 0x80 + n / 0x1000 % 0x40 ≤ high.toNat := by
  have hn : 0xF0 + n / 0x40000 < 256 := by omega
  unfold lead
  simp only [byte_lt_iff hn, byte_beq_iff hn, toNat_byte hn]
  rw [if_neg (by simp; omega), if_neg (by simp; omega), if_neg (by simp; omega),
    if_neg (by simp; omega), if_neg (by simp; omega), if_neg (by simp)]
  by_cases h0 : n / 0x40000 = 0
  · refine ⟨0x90, 0xBF, ?_, by simp; omega, by simp; omega⟩
    rw [if_pos (by simp; omega), h0]
  rw [if_neg (by simp; omega)]
  by_cases h4 : n / 0x40000 = 4
  · refine ⟨0x80, 0x8F, ?_, by simp, by simp; omega⟩
    rw [if_neg (by simp; omega), if_pos (by simp; omega), h4]
  · have hvalue : (0xF0 + n / 0x40000) % 0x8 = n / 0x40000 := by omega
    refine ⟨0x80, 0xBF, ?_, by simp, by simp; omega⟩
    rw [if_pos (by simp; omega), hvalue]

/-! ## Further bytes -/

section
variable {d value : Nat} {low high : UInt8}

theorem byte_in_range (hd : d < 0x40) (hl : low.toNat ≤ 0x80 + d) (hh : 0x80 + d ≤ high.toNat) :
    (low ≤ UInt8.ofNat (0x80 + d) && UInt8.ofNat (0x80 + d) ≤ high) = true := by
  have hn : 0x80 + d < 256 := by omega
  simp only [UInt8.le_iff_toNat_le, toNat_byte hn, hl, hh]
  rfl

/-- A byte in its range adds six bits. -/
theorem decodeFrom_next (hd : d < 0x40) (hl : low.toNat ≤ 0x80 + d) (hh : 0x80 + d ≤ high.toNat)
    (missing : Nat) (rest : Bytes) :
    decodeFrom (some ⟨value, missing + 2, low, high⟩) (UInt8.ofNat (0x80 + d) :: rest) =
      decodeFrom (some ⟨value * 0x40 + d, missing + 1, 0x80, 0xBF⟩) rest := by
  have hn : 0x80 + d < 256 := by omega
  have hbits : (0x80 + d) % 0x40 = d := by omega
  rw [decodeFrom, if_pos (byte_in_range hd hl hh)]
  simp only [toNat_byte hn, hbits]
  rfl

/-- The last byte ends the character. -/
theorem decodeFrom_last (hd : d < 0x40) (hl : low.toNat ≤ 0x80 + d) (hh : 0x80 + d ≤ high.toNat)
    (rest : Bytes) :
    decodeFrom (some ⟨value, 1, low, high⟩) (UInt8.ofNat (0x80 + d) :: rest) =
      some (Char.ofNat (value * 0x40 + d)) :: decodeFrom none rest := by
  have hn : 0x80 + d < 256 := by omega
  have hbits : (0x80 + d) % 0x40 = d := by omega
  rw [decodeFrom, if_pos (byte_in_range hd hl hh)]
  simp only [toNat_byte hn, hbits]
  rfl

end

/-! ## Characters and texts -/

theorem decodeFrom_char {b : UInt8} {c : Char} (h : lead b = .char c) (rest : Bytes) :
    decodeFrom none (b :: rest) = some c :: decodeFrom none rest := by
  rw [decodeFrom, h]

theorem decodeFrom_opening {b : UInt8} {p : Pending} (h : lead b = .opening p) (rest : Bytes) :
    decodeFrom none (b :: rest) = decodeFrom (some p) rest := by
  rw [decodeFrom, h]

/-- **The bytes of a character** are read as the character. -/
theorem decodeFrom_encodeChar (c : Char) (rest : Bytes) :
    decodeFrom none (encodeChar c ++ rest) = some c :: decodeFrom none rest := by
  have hvalid : c.toNat < 0xD800 ∨ 0xDFFF < c.toNat ∧ c.toNat < 0x110000 := c.valid
  have hc : Char.ofNat c.toNat = c := Char.ofNat_toNat c
  unfold encodeChar
  generalize c.toNat = n at hvalid hc
  dsimp only
  by_cases h1 : n < 0x80
  · rw [if_pos h1]
    have hlead := lead_one h1
    rw [hc] at hlead
    exact decodeFrom_char hlead rest
  rw [if_neg h1]
  by_cases h2 : n < 0x800
  · rw [if_pos h2]
    have hlast : n / 0x40 * 0x40 + n % 0x40 = n := by omega
    refine (decodeFrom_opening (lead_two (by omega) h2) _).trans ?_
    refine (decodeFrom_last (by omega) (by simp) (by simp; omega) rest).trans ?_
    rw [hlast, hc]
  rw [if_neg h2]
  by_cases h3 : n < 0x10000
  · rw [if_pos h3]
    have hlast : (n / 0x1000 * 0x40 + n / 0x40 % 0x40) * 0x40 + n % 0x40 = n := by omega
    obtain ⟨low, high, hlead, hl, hh⟩ := lead_three (by omega) h3 (by omega)
    refine (decodeFrom_opening hlead _).trans ?_
    refine (decodeFrom_next (by omega) hl hh 0 _).trans ?_
    refine (decodeFrom_last (by omega) (by simp) (by simp; omega) rest).trans ?_
    rw [hlast, hc]
  · rw [if_neg h3]
    have hlast : ((n / 0x40000 * 0x40 + n / 0x1000 % 0x40) * 0x40 + n / 0x40 % 0x40) * 0x40 +
        n % 0x40 = n := by omega
    obtain ⟨low, high, hlead, hl, hh⟩ := lead_four (n := n) (by omega) (by omega)
    refine (decodeFrom_opening hlead _).trans ?_
    refine (decodeFrom_next (by omega) hl hh 1 _).trans ?_
    refine (decodeFrom_next (by omega) (by simp) (by simp; omega) 0 _).trans ?_
    refine (decodeFrom_last (by omega) (by simp) (by simp; omega) rest).trans ?_
    rw [hlast, hc]

theorem decodeParts_encodeChars (cs : List Char) : decodeParts (encodeChars cs) = cs.map some := by
  unfold decodeParts encodeChars
  induction cs with
  | nil => rfl
  | cons c cs ih => rw [List.flatMap_cons, decodeFrom_encodeChar, ih, List.map_cons]

/-- **The bytes of a text** are read as the text. -/
theorem decodeLossy_utf8 (s : String) : decodeLossy (utf8 s) = s := by
  unfold decodeLossy decodeLossyChars utf8
  rw [decodeParts_encodeChars, List.map_map]
  have hid : (fun c : Option Char => c.getD '\ufffd') ∘ some = id := rfl
  rw [hid, List.map_id, String.ofList_toList]

end AccessSync.Text
