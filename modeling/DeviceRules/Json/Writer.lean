import DeviceRules.Decimal.Form
import DeviceRules.Json.Basic

/-! Writing JSON text without any space. Entries are written in their order; a double that is not finite is
written as `null`. -/
namespace DeviceRules.Json

/-- A character inside quotes. Only the quote, the backslash and the control characters below U+0020 are
escaped. -/
def escapedChar (c : Char) : String :=
  if c = '"' then "\\\""
  else if c = '\\' then "\\\\"
  else if c = '\x08' then "\\b"
  else if c = '\x0c' then "\\f"
  else if c = '\n' then "\\n"
  else if c = '\r' then "\\r"
  else if c = '\t' then "\\t"
  else if c.toNat < 0x20 then
    "\\u00" ++ String.ofList [Nat.digitChar (c.toNat / 16), Nat.digitChar (c.toNat % 16)]
  else String.singleton c

def quotedText (s : String) : String := "\"" ++ String.join (s.toList.map escapedChar) ++ "\""

mutual

def toText : Json → String
  | null => "null"
  | bool b => if b then "true" else "false"
  | whole n => toString n
  | real x => Decimal.Form.document.text x
  | text s => quotedText s
  | array [] => "[]"
  | array (item :: rest) => "[" ++ item.toText ++ itemsText rest
  | object [] => "\x7b\x7d"
  | object ((key, value) :: rest) => "\x7b" ++ quotedText key ++ ":" ++ value.toText ++ entriesText rest

/-- The items after the first, each after a comma, and the closing bracket. -/
def itemsText : List Json → String
  | [] => "]"
  | item :: rest => "," ++ item.toText ++ itemsText rest

/-- The entries after the first, each after a comma, and the closing brace. -/
def entriesText : Fields → String
  | [] => "\x7d"
  | (key, value) :: rest => "," ++ quotedText key ++ ":" ++ value.toText ++ entriesText rest

end

end DeviceRules.Json
