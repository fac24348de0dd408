import CommandChannel.Json.Number

/-!
# Reading JSON values

A value is read from the bytes that remain of a text. Arrays and objects use up one level of a
budget each, so reading ends by recursion on the budget. Within one level every item takes a byte
at least, so as many rounds as there are bytes suffice, and one more for a text that has ended.
-/

namespace CommandChannel

namespace Json

/-- How many arrays and objects may lie within one another. -/
def depthLimit : Nat := 127

/-- The first item of an array and those after it, up to the closing bracket. `items` holds those
already read, the last one first. -/
def readItems (item : JsonReader Json) (items : List Json) : Nat → JsonReader (List Json)
  | 0, rest => .error (.onNext rest .endInList)
  | fuel + 1, bytes => do
    let (v, rest) ← item bytes
    match skipBlanks rest with
    | [] => .error (.onNext [] .endInList)
    | Byte.closeBracket :: rest => .ok ((v :: items).reverse, rest)
    | Byte.comma :: rest =>
      match skipBlanks rest with
      | [] => .error (.onNext [] .endInValue)
      | Byte.closeBracket :: rest => .error (.onNext (Byte.closeBracket :: rest) .trailingComma)
      | rest => readItems item (v :: items) fuel rest
    | rest => .error (.onNext rest .expectedCommaOrBracket)

/-- An array after its opening bracket. -/
def readArray (item : JsonReader Json) : JsonReader (List Json) := fun bytes =>
  match skipBlanks bytes with
  | [] => .error (.onNext [] .endInList)
  | Byte.closeBracket :: rest => .ok ([], rest)
  | rest => readItems item [] rest.length rest

/-- The colon between a key and its value. -/
def readColon : JsonReader Unit := fun bytes =>
  match skipBlanks bytes with
  | [] => .error (.onNext [] .endInObject)
  | Byte.colon :: rest => .ok ((), rest)
  | rest => .error (.onNext rest .expectedColon)

/-- A member after the opening quote of its key. -/
def readMember (value : JsonReader Json) : JsonReader (String × Json) := fun bytes => do
  let (key, rest) ← readString bytes
  let (_, rest) ← readColon rest
  let (v, rest) ← value rest
  .ok ((key, v), rest)

/-- A member after the opening quote of its key and those after it, up to the closing brace.
`members` holds those already read, the last one first. -/
def readMembersFrom (value : JsonReader Json) (members : List (String × Json)) :
    Nat → JsonReader (List (String × Json))
  | 0, rest => .error (.onNext rest .endInObject)
  | fuel + 1, bytes => do
    let (member, rest) ← readMember value bytes
    match skipBlanks rest with
    | [] => .error (.onNext [] .endInObject)
    | Byte.closeBrace :: rest => .ok ((member :: members).reverse, rest)
    | Byte.comma :: rest =>
      match skipBlanks rest with
      | [] => .error (.onNext [] .endInValue)
      | Byte.quote :: rest => readMembersFrom value (member :: members) fuel rest
      | Byte.closeBrace :: rest => .error (.onNext (Byte.closeBrace :: rest) .trailingComma)
      | rest => .error (.onNext rest .keyNotText)
    | rest => .error (.onNext rest .expectedCommaOrBrace)

/-- An object after its opening brace. Of several values for one key the last one stays. -/
def readObject (value : JsonReader Json) : JsonReader Members := fun bytes =>
  match skipBlanks bytes with
  | [] => .error (.onNext [] .endInObject)
  | Byte.closeBrace :: rest => .ok ([], rest)
  | Byte.quote :: rest => do
    let (members, rest) ← readMembersFrom value [] (rest.length + 1) rest
    .ok (Members.ofList members, rest)
  | rest => .error (.onNext rest .keyNotText)

/-- A value of which arrays and objects lie within one another at most `budget` deep. -/
def readValue (budget : Nat) : JsonReader Json := fun bytes =>
  match skipBlanks bytes with
  | [] => .error (.onNext [] .endInValue)
  | Byte.lowerN :: rest => do
    let (_, rest) ← readWord nullTail rest
    .ok (.null, rest)
  | Byte.lowerT :: rest => do
    let (_, rest) ← readWord trueTail rest
    .ok (.bool true, rest)
  | Byte.lowerF :: rest => do
    let (_, rest) ← readWord falseTail rest
    .ok (.bool false, rest)
  | Byte.quote :: rest => do
    let (s, rest) ← readString rest
    .ok (.str s, rest)
  | Byte.minus :: rest => readNumber true rest
  | Byte.openBracket :: rest =>
    match budget with
    | 0 => .error (.onNext (Byte.openBracket :: rest) .tooDeep)
    | budget + 1 => do
      let (items, rest) ← readArray (readValue budget) rest
      .ok (.arr items, rest)
  | Byte.openBrace :: rest =>
    match budget with
    | 0 => .error (.onNext (Byte.openBrace :: rest) .tooDeep)
    | budget + 1 => do
      let (members, rest) ← readObject (readValue budget) rest
      .ok (.obj members, rest)
  | b :: rest =>
    if Byte.isDigit b then readNumber false (b :: rest)
    else .error (.onNext (b :: rest) .expectedValue)

/-- The one thing that a whole text holds. -/
def readWhole {α : Type} (reader : JsonReader α) (text : List UInt8) : Except JsonFault α := do
  let (v, rest) ← reader text
  match skipBlanks rest with
  | [] => .ok v
  | rest => .error (.onNext rest .trailingCharacters)

/-- The value that a whole text holds. -/
def ofBytes (text : List UInt8) : Except JsonFault Json := readWhole (readValue depthLimit) text

end Json

end CommandChannel
