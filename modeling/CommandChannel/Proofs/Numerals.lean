import Mathlib.Tactic
import CommandChannel.Json.Number
import CommandChannel.Text.Utf8

/-!
# Integers read back

The digits of an integer, as they are written into a text, are read back to their end by the reader
of numbers. What follows them must not continue the number: in a value it is a comma, a bracket or
the end of the text.
-/

namespace CommandChannel

namespace Json

/-- The digit of a number below the base, as one byte, stands for that number. -/
theorem digit?_digitChar : ∀ n < 10, ∃ b, String.utf8EncodeChar (Nat.digitChar n) = [b] ∧
    Byte.digit? 10 b = some n := by
  intro n hn
  interval_cases n <;> exact ⟨_, rfl, by decide⟩

/-- A character that is a digit is the digit of a number below ten. -/
theorem exists_digitChar {c : Char} (h : c.isDigit = true) : ∃ n < 10, c = Nat.digitChar n := by
  have hc : 48 ≤ c.toNat ∧ c.toNat ≤ 57 := by
    simpa [Char.isDigit, UInt32.le_iff_toNat_le] using h
  refine ⟨c.toNat - 48, by omega, ?_⟩
  have : ∀ n < 10, Nat.digitChar n = Char.ofNat (n + 48) := by decide
  rw [this _ (by omega), Nat.sub_add_cancel hc.1, Char.ofNat_toNat]

/-- What remains does not continue an integer. -/
def Closes (rest : List UInt8) : Prop :=
  ∀ b ∈ rest.head?, Byte.isDigit b = false ∧ b ≠ Byte.point ∧ b ≠ Byte.lowerE ∧ b ≠ Byte.upperE

/-- Where an integer ends, no digit follows. So it is read to its end and no further. -/
theorem Closes.startsWithDigit {rest : List UInt8} (h : Closes rest) :
    startsWithDigit rest = false := by
  cases rest with
  | nil => rfl
  | cons b rest => exact (h b rfl).1

/-- Digits after a value are gathered as long as the number that they form is below the bound. The
induction is on the digits; no number on the way is above the last one. -/
theorem gather_digits {bound : Nat} {cs : List Char} (hcs : ∀ c ∈ cs, c.isDigit = true)
    {value : Nat} (hvalue : Nat.ofDigitChars 10 cs value < bound) (count : Nat)
    {rest : List UInt8} (hrest : Closes rest) :
    gather bound value count (utf8 cs ++ rest) =
      (Nat.ofDigitChars 10 cs value, count + cs.length, rest) := by
  induction cs generalizing value count with
  | nil =>
    cases rest with
    | nil => rfl
    | cons b rest =>
      have hdigit : Byte.digit? 10 b = none := by
        simpa [Byte.isDigit] using (hrest b rfl).1
      simp [utf8, gather, hdigit]
  | cons c cs ih =>
    obtain ⟨n, hn, rfl⟩ := exists_digitChar (hcs c List.mem_cons_self)
    obtain ⟨b, hb, hdigit⟩ := digit?_digitChar n hn
    rw [Nat.ofDigitChars_cons_digitChar_of_lt_ten hn] at hvalue ⊢
    have hle : 10 * value + n ≤ Nat.ofDigitChars 10 cs (10 * value + n) := by
      rw [Nat.ofDigitChars_eq_ofDigitChars_zero]
      have := Nat.one_le_pow cs.length 10 (by omega)
      nlinarith
    have hbelow : value * 10 + n < bound := by omega
    rw [utf8_cons, hb, List.cons_append, List.nil_append, List.cons_append]
    rw [gather, hdigit]
    dsimp only
    have hrest := ih (fun d hd => hcs d (List.mem_cons_of_mem _ hd)) hvalue
    rw [if_pos hbelow, Nat.mul_comm value, hrest, List.length_cons, Nat.add_assoc,
      Nat.add_comm 1]

/-- The first digit of a positive number is not zero, so the rule against leading zeros does not
apply. -/
theorem exists_toDigits_eq_cons {n : Nat} (hn : 0 < n) :
    ∃ d cs, 0 < d ∧ d < 10 ∧ Nat.toDigits 10 n = Nat.digitChar d :: cs := by
  induction n using Nat.strongRecOn with
  | ind n ih =>
    by_cases hsmall : n < 10
    · exact ⟨n, [], hn, hsmall, Nat.toDigits_of_lt_base hsmall⟩
    · obtain ⟨d, cs, hpos, hlt, heq⟩ := ih (n / 10) (by omega) (by omega)
      refine ⟨d, cs ++ [(n % 10).digitChar], hpos, hlt, ?_⟩
      rw [Nat.toDigits_of_base_le (by omega) (by omega), heq, List.cons_append]

/-- Where an integer ends, it is taken for what its digits say: there is neither a point nor an
exponent behind it. -/
theorem readAfterInteger_of_closes {rest : List UInt8} (h : Closes rest) (negative : Bool)
    (significand : Nat) :
    readAfterInteger negative significand rest =
      .ok (integerOfParts negative significand, rest) := by
  unfold readAfterInteger
  split
  · exact absurd rfl (h _ rfl).2.1
  · exact absurd rfl (h _ rfl).2.2.1
  · exact absurd rfl (h _ rfl).2.2.2
  · rfl

/-- The digits of a number that fits in 64 bits are read to their end, and the number is the one
that they were made from. -/
theorem readNumber_decimalDigits {n : Nat} (hn : n < significandBound) (negative : Bool)
    {rest : List UInt8} (hrest : Closes rest) :
    readNumber negative (utf8 (decimalDigits n) ++ rest) =
      .ok (integerOfParts negative n, rest) := by
  unfold decimalDigits
  rcases Nat.eq_zero_or_pos n with rfl | hpos
  · have hzero : utf8 (Nat.toDigits 10 0) ++ rest = 0x30 :: rest := rfl
    have hdigit : Byte.digit? 10 0x30 = some 0 := by decide
    rw [hzero]
    unfold readNumber
    simp only [hdigit, hrest.startsWithDigit]
    exact readAfterInteger_of_closes hrest negative 0
  · obtain ⟨d, cs, hd, hlt, heq⟩ := exists_toDigits_eq_cons hpos
    obtain ⟨b, hb, hdigit⟩ := digit?_digitChar d hlt
    have hcs : ∀ c ∈ cs, c.isDigit = true := by
      intro c hc
      refine Nat.isDigit_of_mem_toDigits (by omega) (Nat.le_refl 10) (n := n) ?_
      rw [heq]
      exact List.mem_cons_of_mem _ hc
    have hvalue : Nat.ofDigitChars 10 cs d = n := by
      have hwhole := Nat.ofDigitChars_ten_toDigits (n := n)
      rw [heq, Nat.ofDigitChars_cons_digitChar_of_lt_ten hlt] at hwhole
      simpa using hwhole
    have hgather := gather_digits hcs (hvalue ▸ hn) 1 hrest
    rw [hvalue] at hgather
    rw [heq, utf8_cons, hb, List.cons_append, List.nil_append, List.cons_append]
    unfold readNumber
    obtain ⟨d, rfl⟩ := Nat.exists_eq_add_one.2 hd
    simp only [hdigit, hgather, hrest.startsWithDigit]
    exact readAfterInteger_of_closes hrest negative n

end Json

end CommandChannel
