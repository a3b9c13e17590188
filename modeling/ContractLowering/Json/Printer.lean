import ContractLowering.Json.Value

/-! # Written documents

A value is written compactly, without blanks, or indented by two spaces a level with one item
or member a line. Members are written in the order in which they stand. Quotes, backslashes
and controls are escaped and all other characters are written as they are.
-/

namespace ContractLowering

namespace Text

def hexDigit (n : Nat) : Char :=
  Nat.digitChar n

/-- A character inside a quoted text. -/
def escape (c : Char) : List Char :=
  if c = '"' then ['\\', '"']
  else if c = '\\' then ['\\', '\\']
  else if c = '\x08' then ['\\', 'b']
  else if c = '\x0c' then ['\\', 'f']
  else if c = '\n' then ['\\', 'n']
  else if c = '\r' then ['\\', 'r']
  else if c = '\t' then ['\\', 't']
  else if c.toNat < 0x20 then
    ['\\', 'u', '0', '0', hexDigit (c.toNat / 16), hexDigit (c.toNat % 16)]
  else [c]

def quote (s : String) : List Char :=
  '"' :: s.toList.flatMap escape ++ ['"']

end Text

namespace Json

mutual

def compactChars : Json → List Char
  | null => "null".toList
  | boolean value => (if value then "true" else "false").toList
  | number n => n.text.toList
  | text s => Text.quote s
  | array items => '[' :: compactItems items ++ [']']
  | object members => '{' :: compactMembers members ++ ['}']

def compactItems : List Json → List Char
  | [] => []
  | [item] => compactChars item
  | item :: items => compactChars item ++ ',' :: compactItems items

def compactMembers : List (String × Json) → List Char
  | [] => []
  | [(name, value)] => Text.quote name ++ ':' :: compactChars value
  | (name, value) :: members =>
    Text.quote name ++ ':' :: compactChars value ++ ',' :: compactMembers members

end

/-- A new line at a depth. -/
def newline (depth : Nat) : List Char :=
  '\n' :: List.replicate (2 * depth) ' '

mutual

def indentedChars (depth : Nat) : Json → List Char
  | null => "null".toList
  | boolean value => (if value then "true" else "false").toList
  | number n => n.text.toList
  | text s => Text.quote s
  | array [] => ['[', ']']
  | array (item :: items) =>
    '[' :: newline (depth + 1) ++ indentedChars (depth + 1) item ++
      indentedItems (depth + 1) items ++ newline depth ++ [']']
  | object [] => ['{', '}']
  | object ((name, value) :: members) =>
    '{' :: newline (depth + 1) ++ Text.quote name ++ ':' :: ' ' ::
      indentedChars (depth + 1) value ++ indentedMembers (depth + 1) members ++
      newline depth ++ ['}']

def indentedItems (depth : Nat) : List Json → List Char
  | [] => []
  | item :: items => ',' :: newline depth ++ indentedChars depth item ++ indentedItems depth items

def indentedMembers (depth : Nat) : List (String × Json) → List Char
  | [] => []
  | (name, value) :: members =>
    ',' :: newline depth ++ Text.quote name ++ ':' :: ' ' :: indentedChars depth value ++
      indentedMembers depth members

end

def compact (value : Json) : String :=
  String.ofList value.compactChars

def indented (value : Json) : String :=
  String.ofList (value.indentedChars 0)

end Json

end ContractLowering
