import Mathlib.Tactic
import CommandChannel.Json.Text
import CommandChannel.Json.Token

/-!
# Texts in quotes read back

A text is written character by character, most of them as they are and some as escapes. The reader
goes byte by byte: it takes the bytes of a character that is not escaped one each round, and an
escape in one round. Either way it has gathered the bytes of the character, so that at the closing
quote it holds the bytes of the text, whatever its characters are.
-/

namespace CommandChannel

namespace Json

/-- A byte that stands for itself within quotes. -/
def IsLiteral (b : UInt8) : Prop := Byte.isControl b = false ∧ b ≠ Byte.quote ∧ b ≠ Byte.backslash

/-- A byte outside ASCII stands for itself within quotes, as only bytes of ASCII are escaped. -/
theorem isLiteral_of_ge {b : UInt8} (h : 128 ≤ b.toNat) : IsLiteral b := by
  refine ⟨?_, ?_, ?_⟩
  · simp [Byte.isControl, UInt8.lt_iff_toNat_lt]
    omega
  · rintro rfl
    revert h
    decide
  · rintro rfl
    revert h
    decide

/-- At the quote the content ends, and what was gathered of it is put in its order. -/
theorem readContent_quote (content : List UInt8) (fuel : Nat) (rest : List UInt8) :
    readContent content (fuel + 1) (Byte.quote :: rest) = .ok (content.reverse, rest) := rfl

/-- A literal byte is added to the content, in one round of the reader. -/
theorem readContent_literal {b : UInt8} (h : IsLiteral b) (content : List UInt8) (fuel : Nat)
    (rest : List UInt8) :
    readContent content (fuel + 1) (b :: rest) = readContent (b :: content) fuel rest := by
  obtain ⟨hcontrol, hquote, hbackslash⟩ := h
  rw [readContent, if_neg (by simp [hcontrol])]
  · exact hquote
  · exact hbackslash

/-- An escape adds what it stands for to the content, in one round of the reader. -/
theorem readContent_escape {bytes rest escaped : List UInt8}
    (h : readEscape bytes = .ok (escaped, rest)) (content : List UInt8) (fuel : Nat) :
    readContent content (fuel + 1) (Byte.backslash :: bytes) =
      readContent (escaped.reverse ++ content) fuel rest := by
  change (readEscape bytes >>= fun r => readContent (r.1.reverse ++ content) fuel r.2) = _
  rw [h]
  rfl

/-- Literal bytes are read as they are, one each round, by induction on them. -/
theorem readContent_literals {bs : List UInt8} (hbs : ∀ b ∈ bs, IsLiteral b) (content : List UInt8)
    (fuel : Nat) (rest : List UInt8) :
    readContent content (fuel + bs.length) (bs ++ rest) =
      readContent (bs.reverse ++ content) fuel rest := by
  induction bs generalizing content with
  | nil => rfl
  | cons b bs ih =>
    rw [List.length_cons, ← Nat.add_assoc, List.cons_append,
      readContent_literal (hbs b List.mem_cons_self),
      ih fun c hc => hbs c (List.mem_cons_of_mem _ hc)]
    simp

/-- The hexadecimal digit of a number below sixteen is one byte and stands for that number. -/
theorem digit?_hexDigit : ∀ n < 16, ∃ b, String.utf8EncodeChar (hexDigit n) = [b] ∧
    Byte.digit? 16 b = some n := by
  intro n hn
  interval_cases n <;> exact ⟨_, rfl, by decide⟩

/-- A control character is read back from its numeric escape. Its first two digits are zeros, and
the others are those of its code. -/
theorem readEscape_numeric {c : Char} (h : c.toNat < 0x20) (rest : List UInt8) :
    readEscape (utf8 ['u', '0', '0', hexDigit (c.toNat / 16), hexDigit (c.toNat % 16)] ++ rest) =
      .ok (String.utf8EncodeChar c, rest) := by
  obtain ⟨high, hhigh, hhighDigit⟩ := digit?_hexDigit (c.toNat / 16) (by omega)
  obtain ⟨low, hlow, hlowDigit⟩ := digit?_hexDigit (c.toNat % 16) (by omega)
  have hbytes : utf8 ['u', '0', '0', hexDigit (c.toNat / 16), hexDigit (c.toNat % 16)] ++ rest =
      Byte.lowerU :: 0x30 :: 0x30 :: high :: low :: rest := by
    simp only [utf8_cons, hhigh, hlow]
    rfl
  have hhex : readHex (0x30 :: 0x30 :: high :: low :: rest) = .ok (c.toNat, rest) := by
    have hzero : Byte.digit? 16 0x30 = some 0 := by decide
    have hunit : ((0 * 16 + 0) * 16 + c.toNat / 16) * 16 + c.toNat % 16 = c.toNat := by omega
    simp only [readHex, hzero, hhighDigit, hlowDigit, hunit]
  have htrailing : isTrailing c.toNat = false := by
    simp [isTrailing]
    omega
  have hleading : isLeading c.toNat = false := by
    simp [isLeading]
    omega
  have hcode : readCodePoint (0x30 :: 0x30 :: high :: low :: rest) = .ok (c, rest) := by
    simp only [readCodePoint, hhex, bind, Except.bind, htrailing, hleading, Bool.false_eq_true,
      if_false, Char.ofNat_toNat]
  rw [hbytes]
  change (readCodePoint (0x30 :: 0x30 :: high :: low :: rest) >>= fun r =>
    Except.ok (String.utf8EncodeChar r.1, r.2)) = _
  rw [hcode]
  rfl

/-- A character that is not escaped consists of literal bytes: of one byte of ASCII, or of bytes
outside it. -/
theorem isLiteral_of_mem {c : Char} (hquote : c ≠ '"') (hbackslash : c ≠ '\\')
    (hlow : ¬ c.toNat < 0x20) : ∀ b ∈ String.utf8EncodeChar c, IsLiteral b := by
  intro b hb
  by_cases hascii : c.toNat ≤ 127
  · rw [utf8EncodeChar_of_ascii hascii, List.mem_singleton] at hb
    have hvalue : b.toNat = c.toNat := by
      rw [hb, UInt8.toNat_ofNat']
      omega
    have hne {d : Char} (hd : c ≠ d) : b.toNat ≠ d.toNat := by
      rw [hvalue]
      exact fun h => hd (Char.toNat_inj.1 h)
    refine ⟨?_, ?_, ?_⟩
    · simp [Byte.isControl, UInt8.lt_iff_toNat_lt, hvalue]
      omega
    · rintro rfl
      exact hne hquote rfl
    · rintro rfl
      exact hne hbackslash rfl
  · exact isLiteral_of_ge (le_of_mem_utf8EncodeChar (by omega) b hb)

/-- A character stands for itself within quotes, or an escape stands for it. The cases are those of
the characters that have an escape of their own, of other control characters, and of all others. -/
theorem escapeChar_cases (c : Char) :
    (escapeChar c = [c] ∧ ∀ b ∈ String.utf8EncodeChar c, IsLiteral b) ∨
      ∃ cs, escapeChar c = '\\' :: cs ∧ ∀ rest,
        readEscape (utf8 cs ++ rest) = .ok (String.utf8EncodeChar c, rest) := by
  have hletter {d : Char} {cs : List Char} (hd : escapeChar d = '\\' :: cs)
      (hread : ∀ rest, readEscape (utf8 cs ++ rest) = .ok (String.utf8EncodeChar d, rest))
      (h : c = d) : ∃ cs, escapeChar c = '\\' :: cs ∧ ∀ rest,
        readEscape (utf8 cs ++ rest) = .ok (String.utf8EncodeChar c, rest) := by
    rw [h]
    exact ⟨cs, hd, hread⟩
  by_cases hquote : c = '"'
  · exact .inr (hletter rfl (fun _ => rfl) hquote)
  by_cases hbackslash : c = '\\'
  · exact .inr (hletter rfl (fun _ => rfl) hbackslash)
  by_cases hbackspace : c = '\x08'
  · exact .inr (hletter rfl (fun _ => rfl) hbackspace)
  by_cases hfeed : c = '\x0c'
  · exact .inr (hletter rfl (fun _ => rfl) hfeed)
  by_cases hnewline : c = '\n'
  · exact .inr (hletter rfl (fun _ => rfl) hnewline)
  by_cases hreturn : c = '\r'
  · exact .inr (hletter rfl (fun _ => rfl) hreturn)
  by_cases htab : c = '\t'
  · exact .inr (hletter rfl (fun _ => rfl) htab)
  unfold escapeChar
  rw [if_neg hquote, if_neg hbackslash, if_neg hbackspace, if_neg hfeed, if_neg hnewline,
    if_neg hreturn, if_neg htab]
  by_cases hlow : c.toNat < 0x20
  · rw [if_pos hlow]
    exact .inr ⟨_, rfl, readEscape_numeric hlow⟩
  · rw [if_neg hlow]
    exact .inl ⟨rfl, isLiteral_of_mem hquote hbackslash hlow⟩

/-- The content of a quoted text is read back. The induction is on its characters; the rounds that
are left suffice for the bytes that are left. -/
theorem readContent_escaped (cs : List Char) (content rest : List UInt8) {fuel : Nat}
    (hfuel : (utf8 (cs.flatMap escapeChar)).length < fuel) :
    readContent content fuel (utf8 (cs.flatMap escapeChar) ++ Byte.quote :: rest) =
      .ok (content.reverse ++ utf8 cs, rest) := by
  induction cs generalizing content fuel with
  | nil =>
    obtain ⟨fuel, rfl⟩ := Nat.exists_eq_add_one.2 hfuel
    simp [utf8, readContent_quote]
  | cons c cs ih =>
    rw [List.flatMap_cons, utf8_append, List.length_append] at hfuel
    rw [List.flatMap_cons, utf8_append, List.append_assoc, utf8_cons]
    rcases escapeChar_cases c with ⟨hself, hliteral⟩ | ⟨ds, hescape, hread⟩
    · have hbytes : utf8 (escapeChar c) = String.utf8EncodeChar c := by simp [hself, utf8]
      rw [hbytes] at hfuel ⊢
      obtain ⟨left, rfl⟩ := Nat.exists_eq_add_of_lt hfuel
      have hsplit : (String.utf8EncodeChar c).length + (utf8 (cs.flatMap escapeChar)).length +
          left + 1 = (utf8 (cs.flatMap escapeChar)).length + left + 1 +
            (String.utf8EncodeChar c).length := by omega
      rw [hsplit, readContent_literals hliteral, ih _ (by omega)]
      simp
    · have hbytes : utf8 (escapeChar c) = Byte.backslash :: utf8 ds := by
        rw [hescape, utf8_cons]
        rfl
      rw [hbytes] at hfuel ⊢
      rw [List.length_cons] at hfuel
      obtain ⟨fuel, rfl⟩ := Nat.exists_eq_add_one.2 (Nat.zero_lt_of_lt hfuel)
      rw [List.cons_append, readContent_escape (hread _), ih _ (by omega)]
      simp

/-- A quoted text is read back, up to its closing quote, whatever follows that. -/
theorem readString_quoted (s : String) (rest : List UInt8) :
    readString (utf8 (s.toList.flatMap escapeChar) ++ Byte.quote :: rest) = .ok (s, rest) := by
  have htext : ofUtf8? ([].reverse ++ utf8 s.toList) = some s := by
    rw [List.reverse_nil, List.nil_append, ← utf8Bytes_eq_utf8, ofUtf8?_utf8Bytes]
  unfold readString
  rw [readContent_escaped _ _ _ (by simp)]
  dsimp only [bind, Except.bind]
  rw [htext]

end Json

end CommandChannel
