import CommandChannel.Json.Fault
import CommandChannel.Text.Digits

/-!
# Tokens of JSON texts

Blanks, words and texts in quotes. A text is unescaped byte by byte; only its whole content is
checked to be well-formed UTF-8. The same grammar serves to skip a text whose content does not
matter.
-/

namespace CommandChannel

namespace Byte

@[match_pattern] abbrev quote : UInt8 := 0x22
@[match_pattern] abbrev comma : UInt8 := 0x2c
@[match_pattern] abbrev minus : UInt8 := 0x2d
@[match_pattern] abbrev plus : UInt8 := 0x2b
@[match_pattern] abbrev point : UInt8 := 0x2e
@[match_pattern] abbrev slash : UInt8 := 0x2f
@[match_pattern] abbrev colon : UInt8 := 0x3a
@[match_pattern] abbrev upperE : UInt8 := 0x45
@[match_pattern] abbrev openBracket : UInt8 := 0x5b
@[match_pattern] abbrev backslash : UInt8 := 0x5c
@[match_pattern] abbrev closeBracket : UInt8 := 0x5d
@[match_pattern] abbrev lowerB : UInt8 := 0x62
@[match_pattern] abbrev lowerE : UInt8 := 0x65
@[match_pattern] abbrev lowerF : UInt8 := 0x66
@[match_pattern] abbrev lowerN : UInt8 := 0x6e
@[match_pattern] abbrev lowerR : UInt8 := 0x72
@[match_pattern] abbrev lowerT : UInt8 := 0x74
@[match_pattern] abbrev lowerU : UInt8 := 0x75
@[match_pattern] abbrev openBrace : UInt8 := 0x7b
@[match_pattern] abbrev closeBrace : UInt8 := 0x7d

/-- Blanks between tokens: space, line feed, tab and carriage return. -/
def isBlank (b : UInt8) : Bool := b == 0x20 || b == 0x0a || b == 0x09 || b == 0x0d

/-- Bytes that may not stand in a text unescaped. -/
def isControl (b : UInt8) : Bool := b < 0x20

/-- The value of a digit. -/
def digit? (base : Nat) (b : UInt8) : Option Nat := digitValue? base (Char.ofUInt8 b)

/-- The byte is a decimal digit. -/
def isDigit (b : UInt8) : Bool := (digit? 10 b).isSome

end Byte

namespace Json

/-- The rest of a text from its first byte that is not blank. -/
def skipBlanks (bytes : List UInt8) : List UInt8 := bytes.dropWhile Byte.isBlank

/-- The given bytes, one after the other. -/
def readWord : List UInt8 → JsonReader Unit
  | [], rest => .ok ((), rest)
  | _ :: _, [] => .error (.before [] .endInValue)
  | w :: word, b :: rest =>
    if b = w then readWord word rest else .error (.before rest .expectedWord)

/-- The bytes of `null` after its first letter. -/
def nullTail : List UInt8 := utf8 ['u', 'l', 'l']

/-- The bytes of `true` after its first letter. -/
def trueTail : List UInt8 := utf8 ['r', 'u', 'e']

/-- The bytes of `false` after its first letter. -/
def falseTail : List UInt8 := utf8 ['a', 'l', 's', 'e']

/-- Four hexadecimal digits. -/
def readHex : JsonReader Nat
  | a :: b :: c :: d :: rest =>
    match Byte.digit? 16 a, Byte.digit? 16 b, Byte.digit? 16 c, Byte.digit? 16 d with
    | some a, some b, some c, some d => .ok (((a * 16 + b) * 16 + c) * 16 + d, rest)
    | _, _, _, _ => .error (.before rest .invalidEscape)
  | _ => .error (.before [] .endInString)

/-- The code unit is the first of a surrogate pair. -/
def isLeading (unit : Nat) : Bool := 0xd800 ≤ unit && unit < 0xdc00

/-- The code unit is the second of a surrogate pair. -/
def isTrailing (unit : Nat) : Bool := 0xdc00 ≤ unit && unit < 0xe000

/-- The second half of a surrogate pair, after its first half. -/
def readTrailing (leading : Nat) : JsonReader Char
  | Byte.backslash :: Byte.lowerU :: rest => do
    let (trailing, rest) ← readHex rest
    if isTrailing trailing then
      .ok (Char.ofNat (0x10000 + (leading - 0xd800) * 0x400 + (trailing - 0xdc00)), rest)
    else
      .error (.before rest .loneSurrogate)
  | [] => .error (.before [] .endInString)
  | [Byte.backslash] => .error (.before [] .endInString)
  | Byte.backslash :: _ :: rest => .error (.before rest .unfinishedHexEscape)
  | _ :: rest => .error (.before rest .unfinishedHexEscape)

/-- The character of a numeric escape, after the letter that announces it. -/
def readCodePoint : JsonReader Char := fun bytes => do
  let (unit, rest) ← readHex bytes
  if isTrailing unit then
    .error (.before rest .loneSurrogate)
  else if isLeading unit then
    readTrailing unit rest
  else
    .ok (Char.ofNat unit, rest)

/-- The byte that a one-letter escape stands for. -/
def escapedByte? : UInt8 → Option UInt8
  | Byte.quote => some Byte.quote
  | Byte.backslash => some Byte.backslash
  | Byte.slash => some Byte.slash
  | Byte.lowerB => some 0x08
  | Byte.lowerF => some 0x0c
  | Byte.lowerN => some 0x0a
  | Byte.lowerR => some 0x0d
  | Byte.lowerT => some 0x09
  | _ => none

/-- The bytes that an escape stands for, after its backslash. -/
def readEscape : JsonReader (List UInt8)
  | [] => .error (.before [] .endInString)
  | Byte.lowerU :: rest => do
    let (c, rest) ← readCodePoint rest
    .ok (String.utf8EncodeChar c, rest)
  | b :: rest =>
    match escapedByte? b with
    | some byte => .ok ([byte], rest)
    | none => .error (.before rest .invalidEscape)

/-- The content of a text up to its closing quote. Each round takes a byte at least, so that as
many rounds as there are bytes suffice; `content` holds what was read, last byte first. -/
def readContent (content : List UInt8) : Nat → JsonReader (List UInt8)
  | 0, rest => .error (.before rest .endInString)
  | fuel + 1, bytes =>
    match bytes with
    | [] => .error (.before [] .endInString)
    | Byte.quote :: rest => .ok (content.reverse, rest)
    | Byte.backslash :: rest => do
      let (escaped, rest) ← readEscape rest
      readContent (escaped.reverse ++ content) fuel rest
    | b :: rest =>
      if Byte.isControl b then .error (.before rest .controlCharacter)
      else readContent (b :: content) fuel rest

/-- A text after its opening quote. -/
def readString : JsonReader String := fun bytes => do
  let (content, rest) ← readContent [] (bytes.length + 1) bytes
  match ofUtf8? content with
  | some s => .ok (s, rest)
  | none =>
    .error ⟨.invalidCodePoint, rest.length, content.length - wellFormedLength content⟩

/-- Pass over an escape after its backslash. A numeric escape may be half of a pair. -/
def skipEscape : JsonReader Unit
  | [] => .error (.before [] .endInString)
  | Byte.lowerU :: rest => do
    let (_, rest) ← readHex rest
    .ok ((), rest)
  | b :: rest =>
    match escapedByte? b with
    | some _ => .ok ((), rest)
    | none => .error (.before rest .invalidEscape)

/-- Pass over a text after its opening quote, up to its closing quote. -/
def skipContent : Nat → JsonReader Unit
  | 0, rest => .error (.before rest .endInString)
  | fuel + 1, bytes =>
    match bytes with
    | [] => .error (.before [] .endInString)
    | Byte.quote :: rest => .ok ((), rest)
    | Byte.backslash :: rest => do
      let (_, rest) ← skipEscape rest
      skipContent fuel rest
    | b :: rest =>
      if Byte.isControl b then .error (.before (b :: rest) .controlCharacter)
      else skipContent fuel rest

/-- Pass over a text after its opening quote. -/
def skipString : JsonReader Unit := fun bytes => skipContent (bytes.length + 1) bytes

end Json

end CommandChannel
