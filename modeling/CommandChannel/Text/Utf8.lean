/-!
# Text as bytes

The bytes of a text are its UTF-8 form. Reading bytes back gives the text if they are well formed;
if they are not, the length of the longest well-formed beginning says where the fault is.
-/

namespace CommandChannel

/-- The UTF-8 bytes of a list of characters. -/
def utf8 (cs : List Char) : List UInt8 := cs.flatMap String.utf8EncodeChar

/-- The UTF-8 bytes of a text. -/
def utf8Bytes (s : String) : List UInt8 := s.toByteArray.data.toList

/-- The text whose UTF-8 bytes are given, if they are well formed. -/
def ofUtf8? (bytes : List UInt8) : Option String := String.fromUTF8? bytes.toByteArray

/-- The number of bytes in the longest beginning of `bytes`, from position `i` on, that is a run of
whole characters. -/
def wellFormedFrom (bytes : ByteArray) (i fuel : Nat) : Nat :=
  match fuel with
  | 0 => i
  | fuel + 1 =>
    match bytes.utf8DecodeChar? i with
    | some c => wellFormedFrom bytes (i + c.utf8Size) fuel
    | none => i

/-- The number of bytes in the longest beginning that is a run of whole characters. -/
def wellFormedLength (bytes : List UInt8) : Nat :=
  wellFormedFrom bytes.toByteArray 0 bytes.length

/-- The bytes of texts in a row are the bytes of each in a row. So a text may be written in
parts. -/
theorem utf8_append (cs ds : List Char) : utf8 (cs ++ ds) = utf8 cs ++ utf8 ds :=
  List.flatMap_append

/-- The bytes of a text are those of its first character and then those of the others. -/
theorem utf8_cons (c : Char) (cs : List Char) :
    utf8 (c :: cs) = String.utf8EncodeChar c ++ utf8 cs := List.flatMap_cons

/-- An ASCII character is one byte, which is its code. -/
theorem utf8EncodeChar_of_ascii {c : Char} (h : c.toNat ≤ 127) :
    String.utf8EncodeChar c = [UInt8.ofNat c.toNat] := by
  rw [String.utf8EncodeChar.eq_1]
  exact if_pos h

/-- The bytes of any other character are none of ASCII. So a byte of ASCII in a text is a character
by itself, and a search for it never ends inside another one. -/
theorem le_of_mem_utf8EncodeChar {c : Char} (h : 127 < c.toNat) :
    ∀ b ∈ String.utf8EncodeChar c, 128 ≤ b.toNat := by
  intro b hb
  rw [String.utf8EncodeChar.eq_1] at hb
  change b ∈ if c.toNat ≤ 127 then _ else _ at hb
  rw [if_neg (by omega)] at hb
  -- two, three and four bytes
  split at hb <;> (try split at hb)
  all_goals
    simp only [List.mem_cons, List.not_mem_nil, or_false] at hb
    rcases hb with rfl | rfl | rfl | rfl <;> simp only [UInt8.toNat_ofNat'] <;> omega

/-- The bytes of a text that is made of characters are the bytes of these. -/
theorem utf8Bytes_ofList (cs : List Char) : utf8Bytes (String.ofList cs) = utf8 cs := by
  simp [utf8Bytes, utf8, List.utf8Encode]

/-- The bytes of a text are those of its characters, which is the form in which texts are reasoned
about. -/
theorem utf8Bytes_eq_utf8 (s : String) : utf8Bytes s = utf8 s.toList := by
  rw [← utf8Bytes_ofList, String.ofList_toList]

/-- A text in bytes is stored as just these bytes, so that reading it back is undoing that. -/
theorem toByteArray_utf8Bytes (s : String) : (utf8Bytes s).toByteArray = s.toByteArray :=
  ByteArray.ext (Array.toList_inj.1 List.toList_data_toByteArray)

/-- A text is read back from its own bytes. This is what a peer relies on that reads the texts of a
frame. -/
theorem ofUtf8?_utf8Bytes (s : String) : ofUtf8? (utf8Bytes s) = some s := by
  simp [ofUtf8?, toByteArray_utf8Bytes, String.fromUTF8?, String.fromUTF8, s.isValidUTF8]

end CommandChannel
