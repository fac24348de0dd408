import CommandChannel.Text.Utf8

/-!
# Faults in JSON texts

A reader works on the bytes that remain of a text. It marks the place of a fault by how many bytes
remain there, so that the place does not depend on what came before; only the report turns it into
a line and a column.
-/

namespace CommandChannel

/-- What is wrong with a text. -/
inductive JsonMistake where
  | endInValue | endInList | endInObject | endInString
  | expectedValue | expectedWord | expectedCommaOrBracket | expectedCommaOrBrace | expectedColon
  | keyNotText | trailingComma | trailingCharacters | tooDeep
  | invalidNumber | numberOutOfRange
  | controlCharacter | invalidEscape | unfinishedHexEscape | loneSurrogate | invalidCodePoint
  /-- A value of another type than the expected one. -/
  | wrongType (found expected : String)
  /-- An array with another number of items than expected. -/
  | wrongLength (length : Nat) (expected : String)
  | missingField (name : String)
  | duplicateField (name : String)
deriving DecidableEq, Repr

/-- The wording of a mistake. -/
def JsonMistake.text : JsonMistake → String
  | endInValue => "EOF while parsing a value"
  | endInList => "EOF while parsing a list"
  | endInObject => "EOF while parsing an object"
  | endInString => "EOF while parsing a string"
  | expectedValue => "expected value"
  | expectedWord => "expected ident"
  | expectedCommaOrBracket => "expected `,` or `]`"
  | expectedCommaOrBrace => "expected `,` or `\x7d`"
  | expectedColon => "expected `:`"
  | keyNotText => "key must be a string"
  | trailingComma => "trailing comma"
  | trailingCharacters => "trailing characters"
  | tooDeep => "recursion limit exceeded"
  | invalidNumber => "invalid number"
  | numberOutOfRange => "number out of range"
  | controlCharacter => "control character (\\u0000-\\u001F) found while parsing a string"
  | invalidEscape => "invalid escape"
  | unfinishedHexEscape => "unexpected end of hex escape"
  | loneSurrogate => "lone leading surrogate in hex escape"
  | invalidCodePoint => "invalid unicode code point"
  | wrongType found expected => "invalid type: " ++ found ++ ", expected " ++ expected
  | wrongLength length expected =>
    "invalid length " ++ toString length ++ ", expected " ++ expected
  | missingField name => "missing field `" ++ name ++ "`"
  | duplicateField name => "duplicate field `" ++ name ++ "`"

/-- A mistake and its place. -/
structure JsonFault where
  mistake : JsonMistake
  /-- The number of bytes of the text after the place. -/
  remaining : Nat
  /-- How many columns the reported place lies before the place where reading stopped. -/
  back : Nat
deriving DecidableEq, Repr

namespace JsonFault

/-- A mistake just before the bytes that remain. -/
def before (rest : List UInt8) (mistake : JsonMistake) : JsonFault := ⟨mistake, rest.length, 0⟩

/-- A mistake at the first of the bytes that remain, or at the end if none remains. -/
def onNext (rest : List UInt8) (mistake : JsonMistake) : JsonFault :=
  ⟨mistake, rest.length - 1, 0⟩

/-- The byte that ends a line. -/
def newline : UInt8 := 0x0a

/-- The report of a fault in a text. Columns count bytes. -/
def report (text : List UInt8) (fault : JsonFault) : String :=
  let read := text.take (text.length - fault.remaining)
  let line := 1 + read.count newline
  let column := (read.reverse.takeWhile (· != newline)).length - fault.back
  fault.mistake.text ++ " at line " ++ toString line ++ " column " ++ toString column

end JsonFault

/-- A reader takes the bytes that remain of a text and returns what it read and what is left. -/
abbrev JsonReader (α : Type) := List UInt8 → Except JsonFault (α × List UInt8)

end CommandChannel
