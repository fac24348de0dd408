import CommandChannel.Json.Expect
import CommandChannel.Json.Skip
import CommandChannel.Message.Command
import CommandChannel.Message.Response

/-!
# Reading commands and replies

A command is an object with a name and, if it has any, parameters, in any order and among other
members; or an array of the two. A reply is any object.
-/

namespace CommandChannel

namespace Command

open Json

/-- What a report calls a command. -/
def expectedName : String := "struct Command"

/-- Parameters, or null for none. -/
def readParams (budget : Nat) : JsonReader (Option Members) := fun bytes =>
  match skipBlanks bytes with
  | Byte.lowerN :: rest => do
    let (_, rest) ← readWord nullTail rest
    .ok (none, rest)
  | rest => do
    let (params, rest) ← readMembers budget rest
    .ok (some params, rest)

/-- The members of a command that were found so far. -/
structure Found where
  name : Option String
  params : Option (Option Members)

/-- The fault of a key that appears twice. The object's end is passed over if it follows. -/
def duplicateFault (key : String) (rest : List UInt8) : JsonFault :=
  match skipBlanks rest with
  | Byte.closeBrace :: rest => .before rest (.duplicateField key)
  | rest => .before rest (.duplicateField key)

/-- The member of a key, after the key. -/
def readField (budget : Nat) (found : Found) (key : String) : JsonReader Found := fun bytes =>
  if key = "type" then
    if found.name.isSome then .error (duplicateFault key bytes)
    else do
      let (_, rest) ← readColon bytes
      let (name, rest) ← readText rest
      .ok ({ found with name := some name }, rest)
  else if key = "params" then
    if found.params.isSome then .error (duplicateFault key bytes)
    else do
      let (_, rest) ← readColon bytes
      let (params, rest) ← readParams budget rest
      .ok ({ found with params := some params }, rest)
  else do
    let (_, rest) ← readColon bytes
    let (_, rest) ← skipValue rest
    .ok (found, rest)

/-- The command that an object makes, before what remains after its end. -/
def ofFound (found : Found) : JsonReader Command := fun rest =>
  match found.name with
  | some name => .ok (⟨name, found.params.getD none⟩, rest)
  | none => .error (.before rest (.missingField "type"))

/-- A member after the opening quote of its key and those after it, up to the closing brace. -/
def readFields (budget : Nat) (found : Found) : Nat → JsonReader Command
  | 0, rest => .error (.onNext rest .endInObject)
  | fuel + 1, bytes => do
    let (key, rest) ← readString bytes
    let (found, rest) ← readField budget found key rest
    match skipBlanks rest with
    | [] => .error (.onNext [] .endInObject)
    | Byte.closeBrace :: rest => ofFound found rest
    | Byte.comma :: rest =>
      match skipBlanks rest with
      | [] => .error (.onNext [] .endInValue)
      | Byte.quote :: rest => readFields budget found fuel rest
      | Byte.closeBrace :: rest => .error (.onNext (Byte.closeBrace :: rest) .trailingComma)
      | rest => .error (.onNext rest .keyNotText)
    | rest => .error (.onNext rest .expectedCommaOrBrace)

/-- A command as an object, after its opening brace. -/
def readAsObject (budget : Nat) : JsonReader Command := fun bytes =>
  match skipBlanks bytes with
  | [] => .error (.onNext [] .endInObject)
  | Byte.closeBrace :: rest => ofFound ⟨none, none⟩ rest
  | Byte.quote :: rest => readFields budget ⟨none, none⟩ (rest.length + 1) rest
  | rest => .error (.onNext rest .keyNotText)

/-- The end of a command as an array, after its parameters. -/
def readArrayEnd : JsonReader Unit := fun bytes =>
  match skipBlanks bytes with
  | [] => .error (.onNext [] .endInList)
  | Byte.closeBracket :: rest => .ok ((), rest)
  | Byte.comma :: rest =>
    match skipBlanks rest with
    | Byte.closeBracket :: rest => .error (.onNext (Byte.closeBracket :: rest) .trailingComma)
    | rest => .error (.onNext rest .trailingCharacters)
  | rest => .error (.onNext rest .trailingCharacters)

/-- A command as an array, after its opening bracket. -/
def readAsArray (budget : Nat) : JsonReader Command := fun bytes =>
  match skipBlanks bytes with
  | [] => .error (.onNext [] .endInList)
  | Byte.closeBracket :: rest =>
    .error (.before rest (.wrongLength 0 (expectedName ++ " with 2 elements")))
  | rest => do
    let (name, rest) ← readText rest
    match skipBlanks rest with
    | [] => .error (.onNext [] .endInList)
    | Byte.closeBracket :: rest => .ok (⟨name, none⟩, rest)
    | Byte.comma :: rest =>
      match skipBlanks rest with
      | [] => .error (.onNext [] .endInValue)
      | Byte.closeBracket :: rest => .error (.onNext (Byte.closeBracket :: rest) .trailingComma)
      | rest => do
        let (params, rest) ← readParams budget rest
        let (_, rest) ← readArrayEnd rest
        .ok (⟨name, params⟩, rest)
    | rest => .error (.onNext rest .expectedCommaOrBracket)

/-- A command of which the parameters take up the levels of the budget but one. -/
def read (budget : Nat) : JsonReader Command := fun bytes =>
  match skipBlanks bytes with
  | Byte.openBrace :: rest =>
    match budget with
    | 0 => .error (.onNext (Byte.openBrace :: rest) .tooDeep)
    | budget + 1 => readAsObject budget rest
  | Byte.openBracket :: rest =>
    match budget with
    | 0 => .error (.onNext (Byte.openBracket :: rest) .tooDeep)
    | budget + 1 => readAsArray budget rest
  | rest => .error (wrongTypeFault expectedName rest)

/-- The command that a whole text holds. -/
def ofBytes (text : List UInt8) : Except JsonFault Command := readWhole (read depthLimit) text

end Command

namespace Response

/-- The reply that a whole text holds. -/
def ofBytes (text : List UInt8) : Except JsonFault Response :=
  (Json.readWhole (Json.readMembers Json.depthLimit) text).map ofMembers

end Response

end CommandChannel
