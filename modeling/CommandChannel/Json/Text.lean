import CommandChannel.Decimal.Format
import CommandChannel.Json.Basic
import CommandChannel.Text.Utf8

/-!
# Texts of JSON values

Values are written in two layouts, a compact one without blanks and an indented one. Within texts
only quotes, backslashes and control characters are escaped.
-/

namespace CommandChannel

/-- Where blanks stand in the text of a value. -/
structure JsonLayout where
  /-- What stands before an item or a closing bracket at a depth. -/
  lineBreak : Nat → List Char
  /-- What stands between a key and its value. -/
  colon : List Char

/-- The layout without blanks. -/
def JsonLayout.compact : JsonLayout := ⟨fun _ => [], [':']⟩

/-- The layout with one item a line and two blanks for each level. -/
def JsonLayout.indented : JsonLayout :=
  ⟨fun depth => '\n' :: List.replicate (2 * depth) ' ', [':', ' ']⟩

namespace Json

/-- A lower-case hexadecimal digit. -/
def hexDigit (n : Nat) : Char := Nat.digitChar n

/-- A character as it stands within quotes. -/
def escapeChar (c : Char) : List Char :=
  if c = '"' then ['\\', '"']
  else if c = '\\' then ['\\', '\\']
  else if c = '\x08' then ['\\', 'b']
  else if c = '\x0c' then ['\\', 'f']
  else if c = '\n' then ['\\', 'n']
  else if c = '\r' then ['\\', 'r']
  else if c = '\t' then ['\\', 't']
  else if c.toNat < 0x20 then
    ['\\', 'u', '0', '0', hexDigit (c.toNat / 16), hexDigit (c.toNat % 16)]
  else [c]

/-- A text in quotes. -/
def quoted (s : String) : List Char := '"' :: s.toList.flatMap escapeChar ++ ['"']

mutual

/-- The text of a value that stands at a depth. -/
def format (layout : JsonLayout) (depth : Nat) : Json → List Char
  | null => ['n', 'u', 'l', 'l']
  | bool true => ['t', 'r', 'u', 'e']
  | bool false => ['f', 'a', 'l', 's', 'e']
  | int n => integerDigits n
  | float x => formatFloat .json x
  | str s => quoted s
  | arr items =>
    match items with
    | [] => ['[', ']']
    | v :: rest =>
      '[' :: layout.lineBreak (depth + 1) ++ format layout (depth + 1) v ++
        formatItems layout (depth + 1) rest ++ layout.lineBreak depth ++ [']']
  | obj members =>
    match members with
    | [] => ['\x7b', '\x7d']
    | (k, v) :: rest =>
      '\x7b' :: layout.lineBreak (depth + 1) ++ quoted k ++ layout.colon ++
        format layout (depth + 1) v ++ formatMembers layout (depth + 1) rest ++
        layout.lineBreak depth ++ ['\x7d']

/-- The items after the first, each after a comma. -/
def formatItems (layout : JsonLayout) (depth : Nat) : List Json → List Char
  | [] => []
  | v :: rest =>
    ',' :: layout.lineBreak depth ++ format layout depth v ++ formatItems layout depth rest

/-- The members after the first, each after a comma. -/
def formatMembers (layout : JsonLayout) (depth : Nat) : List (String × Json) → List Char
  | [] => []
  | (k, v) :: rest =>
    ',' :: layout.lineBreak depth ++ quoted k ++ layout.colon ++ format layout depth v ++
      formatMembers layout depth rest

end

/-- The text of a value without blanks. -/
def compactText (v : Json) : String := String.ofList (v.format .compact 0)

/-- The text of a value over several lines. -/
def indentedText (v : Json) : String := String.ofList (v.format .indented 0)

end Json

end CommandChannel
