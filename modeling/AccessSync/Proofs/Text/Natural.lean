import AccessSync.Proofs.Except
import AccessSync.Text.Natural

/-!
# What a decimal text stands for

Digits are read from the left and the number is compared with the bound after each of them. Since
it never gets smaller, a number within the bound at the end was within it all the time, so the
bound says only which numbers are read, and not when a text is given up.

* `Denotes`: the number that a text stands for.
* `readNatural_eq_ok_iff`: the numbers that are read.
* `map_readNatural_eq_ok_iff`: the words that are read.
-/

namespace AccessSync.Text

/-- A text stands for a number: it holds at least one digit and nothing else, apart from a plus in
front of them. -/
def Denotes (s : String) (n : Nat) : Prop :=
  ∃ digits : List Char, digits ≠ [] ∧ (∀ c ∈ digits, c.isDigit) ∧
    (s.toList = digits ∨ s.toList = '+' :: digits) ∧ n = Nat.ofDigitChars 10 digits 0

theorem digit?_eq (c : Char) :
    digit? c = if c.isDigit then some (c.toNat - '0'.toNat) else none := by
  have hrange : '0' ≤ c ∧ c ≤ '9' ↔ c.isDigit := Char.isDigit_iff_toNat.symm
  unfold digit?
  by_cases h : c.isDigit
  · rw [if_pos h, if_pos (hrange.2 h)]
  · rw [if_neg h, if_neg (mt hrange.1 h)]

/-- More digits never make a number smaller. -/
theorem le_ofDigitChars (digits : List Char) (acc : Nat) :
    acc ≤ Nat.ofDigitChars 10 digits acc := by
  induction digits generalizing acc with
  | nil => exact Nat.le_refl acc
  | cons c rest ih =>
    rw [Nat.ofDigitChars_cons]
    have hrest := ih (10 * acc + (c.toNat - '0'.toNat))
    omega

/-- **The digits that are read** are those of the numbers within the bound. The induction is on the
digits; what was read before them is within the bound. -/
theorem readDigits_eq_ok_iff {bound acc n : Nat} (hacc : acc ≤ bound) (cs : List Char) :
    readDigits bound acc cs = .ok n ↔
      (∀ c ∈ cs, c.isDigit) ∧ n = Nat.ofDigitChars 10 cs acc ∧ n ≤ bound := by
  induction cs generalizing acc with
  | nil =>
    have hnil : Nat.ofDigitChars 10 [] acc = acc := rfl
    constructor
    · intro h
      cases h
      exact ⟨fun c hc => absurd hc List.not_mem_nil, hnil.symm, hacc⟩
    · rintro ⟨-, rfl, -⟩
      rfl
  | cons c rest ih =>
    rw [readDigits, Nat.ofDigitChars_cons, List.forall_mem_cons]
    by_cases hdigit : c.isDigit
    · rw [digit?_eq, if_pos hdigit, Nat.mul_comm 10 acc]
      generalize c.toNat - '0'.toNat = d
      dsimp only
      split
      · -- a number that is too large here is too large at the end
        rename_i hlarge
        have hgrow := le_ofDigitChars rest (acc * 10 + d)
        constructor
        · intro h
          cases h
        · rintro ⟨-, rfl, hle⟩
          omega
      · rename_i hsmall
        rw [ih (Nat.le_of_not_lt hsmall)]
        constructor
        · rintro ⟨hrest, hn, hle⟩
          exact ⟨⟨hdigit, hrest⟩, hn, hle⟩
        · rintro ⟨⟨-, hrest⟩, hn, hle⟩
          exact ⟨hrest, hn, hle⟩
    · rw [digit?_eq, if_neg hdigit]
      constructor
      · intro h
        cases h
      · rintro ⟨⟨h, -⟩, -⟩
        exact absurd h hdigit

/-- No digit is a plus, so a plus is never one of the digits that a text begins with. -/
theorem not_isDigit_plus : ¬ '+'.isDigit := by decide

/-- **The numbers that are read**: those that the text stands for, within the bound. -/
theorem readNatural_eq_ok_iff {bound n : Nat} {s : String} :
    readNatural bound s = .ok n ↔ Denotes s n ∧ n ≤ bound := by
  unfold readNatural Denotes
  generalize s.toList = cs
  have hbound : 0 ≤ bound := Nat.zero_le bound
  split
  · constructor
    · intro h
      cases h
    · rintro ⟨⟨digits, hne, -, h | h, -⟩, -⟩
      · exact absurd h.symm hne
      · cases h
  · constructor
    · intro h
      cases h
    · rintro ⟨⟨digits, hne, hdigits, rfl | h, -⟩, -⟩
      · exact absurd (hdigits '+' List.mem_cons_self) not_isDigit_plus
      · cases h
        exact absurd rfl hne
  · rename_i rest hrest
    rw [readDigits_eq_ok_iff hbound]
    constructor
    · rintro ⟨hdigits, hn, hle⟩
      exact ⟨⟨rest, fun hnil => hrest (by rw [hnil]), hdigits, .inr rfl, hn⟩, hle⟩
    · rintro ⟨⟨digits, -, hdigits, rfl | h, hn⟩, hle⟩
      · exact absurd (hdigits '+' List.mem_cons_self) not_isDigit_plus
      · cases h
        exact ⟨hdigits, hn, hle⟩
  · rename_i hnil hplus hother
    rw [readDigits_eq_ok_iff hbound]
    constructor
    · rintro ⟨hdigits, hn, hle⟩
      exact ⟨⟨cs, hnil, hdigits, .inl rfl, hn⟩, hle⟩
    · rintro ⟨⟨digits, -, hdigits, rfl | rfl, hn⟩, hle⟩
      · exact ⟨hdigits, hn, hle⟩
      · exact absurd rfl (hother digits)

/-! ## Words -/

/-- A type that holds the numbers below a size is read by reading numbers within the bound. -/
theorem map_readNatural_eq_ok_iff {α : Type} {size : Nat} {ofNat : Nat → α} {toNat : α → Nat}
    (hofNat : ∀ n < size, toNat (ofNat n) = n)
    (htoNat : ∀ w, toNat w < size ∧ ofNat (toNat w) = w) {s : String} {w : α} :
    (readNatural (size - 1) s).map ofNat = .ok w ↔ Denotes s (toNat w) := by
  obtain ⟨hsize, hback⟩ := htoNat w
  constructor
  · intro h
    obtain ⟨n, hn, rfl⟩ := except_map_eq_ok h
    obtain ⟨hs, hle⟩ := readNatural_eq_ok_iff.1 hn
    have hlt : n < size := by omega
    rwa [hofNat n hlt]
  · intro h
    have hle : toNat w ≤ size - 1 := Nat.le_pred_of_lt hsize
    rw [readNatural_eq_ok_iff.2 ⟨h, hle⟩]
    exact congrArg Except.ok hback

theorem readWord32_eq_ok_iff {s : String} {w : UInt32} :
    readWord32 s = .ok w ↔ Denotes s w.toNat :=
  map_readNatural_eq_ok_iff (fun _ => UInt32.toNat_ofNat_of_lt')
    (fun w => ⟨w.toNat_lt_size, UInt32.ofNat_toNat⟩)

theorem readWord64_eq_ok_iff {s : String} {w : UInt64} :
    readWord64 s = .ok w ↔ Denotes s w.toNat :=
  map_readNatural_eq_ok_iff (fun _ => UInt64.toNat_ofNat_of_lt')
    (fun w => ⟨w.toNat_lt_size, UInt64.ofNat_toNat⟩)

end AccessSync.Text
