import CommandChannel.Decimal.Format
import CommandChannel.Json.Reader
import CommandChannel.Text.Quoted

/-!
# Values of an expected type

Where only a text or only an object will do, a value of another type is a fault, and the report
names what was found: a scalar with its value, a list or an object by its type alone.
-/

namespace CommandChannel

namespace Json

/-- What a report calls a number. -/
def numberName : Json → String
  | .int n => "integer `" ++ String.ofList (integerDigits n) ++ "`"
  | .float x => "floating point `" ++ String.ofList (formatFloat .json x) ++ "`"
  | _ => "number"

/-- The fault of a value where another type is expected. Scalars are read to their end, so a
mistake in one of them is reported first; brackets are left in place. -/
def wrongTypeFault (expected : String) (bytes : List UInt8) : JsonFault :=
  let named (read : Except JsonFault (String × List UInt8)) : JsonFault :=
    match read with
    | .ok (found, rest) => .before rest (.wrongType found expected)
    | .error fault => fault
  match bytes with
  | [] => .onNext [] .endInValue
  | Byte.lowerN :: rest => named ((readWord nullTail rest).map fun r => ("null", r.2))
  | Byte.lowerT :: rest => named ((readWord trueTail rest).map fun r => ("boolean `true`", r.2))
  | Byte.lowerF :: rest => named ((readWord falseTail rest).map fun r => ("boolean `false`", r.2))
  | Byte.quote :: rest =>
    named ((readString rest).map fun r => ("string " ++ quotedText r.1, r.2))
  | Byte.minus :: rest => named ((readNumber true rest).map fun r => (numberName r.1, r.2))
  | Byte.openBracket :: _ => .before bytes (.wrongType "sequence" expected)
  | Byte.openBrace :: _ => .before bytes (.wrongType "map" expected)
  | b :: _ =>
    if Byte.isDigit b then named ((readNumber false bytes).map fun r => (numberName r.1, r.2))
    else .onNext bytes .expectedValue

/-- A text where nothing else will do. -/
def readText : JsonReader String := fun bytes =>
  match skipBlanks bytes with
  | Byte.quote :: rest => readString rest
  | rest => .error (wrongTypeFault "a string" rest)

/-- An object where nothing else will do. -/
def readMembers (budget : Nat) : JsonReader Members := fun bytes =>
  match skipBlanks bytes with
  | Byte.openBrace :: rest =>
    match budget with
    | 0 => .error (.onNext (Byte.openBrace :: rest) .tooDeep)
    | budget + 1 => readObject (readValue budget) rest
  | rest => .error (wrongTypeFault "a map" rest)

end Json

end CommandChannel
