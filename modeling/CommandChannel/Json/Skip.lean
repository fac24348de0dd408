import CommandChannel.Json.Reader

/-!
# Passing over JSON values

A value that does not matter is passed over: its grammar is checked, but not the range of its
numbers, the code points in its texts or its depth. The open brackets are kept in a list, the
innermost first, so any depth can be passed over.
-/

namespace CommandChannel

namespace Json

/-- The two kinds of brackets. -/
inductive Bracket where
  | square | curly
deriving DecidableEq, Repr

namespace Bracket

/-- The byte that closes a bracket. -/
def close : Bracket → UInt8
  | square => Byte.closeBracket
  | curly => Byte.closeBrace

/-- What is wrong where a text ends within a bracket. -/
def unclosed : Bracket → JsonMistake
  | square => .endInList
  | curly => .endInObject

/-- What is wrong where neither a comma nor the closing bracket follows. -/
def unseparated : Bracket → JsonMistake
  | square => .expectedCommaOrBracket
  | curly => .expectedCommaOrBrace

end Bracket

/-- Pass over an exponent after its letter. -/
def skipExponent : JsonReader Unit := fun bytes =>
  let digits :=
    match bytes with
    | Byte.plus :: rest => rest
    | Byte.minus :: rest => rest
    | rest => rest
  match digits with
  | [] => .error (.before [] .invalidNumber)
  | b :: rest =>
    if Byte.isDigit b then .ok ((), rest.dropWhile Byte.isDigit)
    else .error (.before rest .invalidNumber)

/-- Pass over an exponent if there is one. -/
def skipAfterDigits : JsonReader Unit
  | Byte.lowerE :: rest => skipExponent rest
  | Byte.upperE :: rest => skipExponent rest
  | rest => .ok ((), rest)

/-- Pass over a fraction after its point. -/
def skipFraction : JsonReader Unit := fun bytes =>
  if startsWithDigit bytes then skipAfterDigits (bytes.dropWhile Byte.isDigit)
  else .error (.onNext bytes .invalidNumber)

/-- Pass over what may follow an integer part. -/
def skipAfterInteger : JsonReader Unit
  | Byte.point :: rest => skipFraction rest
  | rest => skipAfterDigits rest

/-- Pass over a number after its sign. -/
def skipNumber : JsonReader Unit
  | [] => .error (.before [] .invalidNumber)
  | b :: rest =>
    match Byte.digit? 10 b with
    | none => .error (.before rest .invalidNumber)
    | some 0 =>
      if startsWithDigit rest then .error (.onNext rest .invalidNumber)
      else skipAfterInteger rest
    | some _ => skipAfterInteger (rest.dropWhile Byte.isDigit)

/-- Pass over a value that is no array and no object; for one of these, only over its opening
bracket, which is returned. -/
def skipStart : JsonReader (Option Bracket) := fun bytes =>
  match skipBlanks bytes with
  | [] => .error (.onNext [] .endInValue)
  | Byte.lowerN :: rest => do
    let (_, rest) ← readWord nullTail rest
    .ok (none, rest)
  | Byte.lowerT :: rest => do
    let (_, rest) ← readWord trueTail rest
    .ok (none, rest)
  | Byte.lowerF :: rest => do
    let (_, rest) ← readWord falseTail rest
    .ok (none, rest)
  | Byte.quote :: rest => do
    let (_, rest) ← skipString rest
    .ok (none, rest)
  | Byte.minus :: rest => do
    let (_, rest) ← skipNumber rest
    .ok (none, rest)
  | Byte.openBracket :: rest => .ok (some .square, rest)
  | Byte.openBrace :: rest => .ok (some .curly, rest)
  | b :: rest =>
    if Byte.isDigit b then do
      let (_, rest) ← skipNumber (b :: rest)
      .ok (none, rest)
    else
      .error (.onNext (b :: rest) .expectedValue)

/-- Pass over a key and its colon, where the next value stands within a curly bracket. -/
def skipKey : Bracket → JsonReader Unit
  | .square, rest => .ok ((), rest)
  | .curly, bytes =>
    match skipBlanks bytes with
    | [] => .error (.onNext [] .endInObject)
    | Byte.quote :: rest => do
      let (_, rest) ← skipString rest
      readColon rest
    | rest => .error (.onNext rest .keyNotText)

/-- Pass over what may follow a value, or an opening bracket if `first`: closing brackets, then a
comma. Returns the brackets that are still open. -/
def skipClosing (first : Bool) : List Bracket → JsonReader (List Bracket)
  | [], rest => .ok ([], rest)
  | bracket :: outer, bytes =>
    match skipBlanks bytes with
    | [] => .error (.onNext [] bracket.unclosed)
    | b :: rest =>
      if b = bracket.close then skipClosing false outer rest
      else if first then .ok (bracket :: outer, b :: rest)
      else if b = Byte.comma then .ok (bracket :: outer, rest)
      else .error (.onNext (b :: rest) bracket.unseparated)

/-- Pass over a value within the given brackets, and over all that follows until they are closed.
Each round takes a byte at least. -/
def skipWithin (brackets : List Bracket) : Nat → JsonReader Unit
  | 0, rest => .error (.onNext rest .endInValue)
  | fuel + 1, bytes => do
    let (opened, rest) ← skipStart bytes
    let inner := match opened with
      | some bracket => bracket :: brackets
      | none => brackets
    let (pending, rest) ← skipClosing opened.isSome inner rest
    match pending with
    | [] => .ok ((), rest)
    | bracket :: _ => do
      let (_, rest) ← skipKey bracket rest
      skipWithin pending fuel rest

/-- Pass over a value. -/
def skipValue : JsonReader Unit := fun bytes => skipWithin [] (bytes.length + 1) bytes

end Json

end CommandChannel
