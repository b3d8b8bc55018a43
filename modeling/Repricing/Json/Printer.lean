import Repricing.Json.Basic

namespace Repricing.Json

def hexEscape (n : Nat) : String :=
  let digits := Nat.toDigits 16 n
  "\\u" ++ String.ofList (List.replicate (4 - digits.length) '0' ++ digits)

/-- A character as it stands between quotes: quote, backslash and control characters are escaped. -/
def escapeChar (c : Char) : String :=
  if c = '"' then "\\\""
  else if c = '\\' then "\\\\"
  else if c = '\x08' then "\\b"
  else if c = '\x0c' then "\\f"
  else if c = '\n' then "\\n"
  else if c = '\r' then "\\r"
  else if c = '\t' then "\\t"
  else if c.toNat < 0x20 then hexEscape c.toNat
  else c.toString

def quote (s : String) : String := "\"" ++ String.join (s.toList.map escapeChar) ++ "\""

mutual

/-- The document on one line without blanks. -/
def compact : Json → String
  | null => "null"
  | bool true => "true"
  | bool false => "false"
  | number n => n.toText
  | string s => quote s
  | array items => "[" ++ ",".intercalate (compactItems items) ++ "]"
  | object members => "\x7b" ++ ",".intercalate (compactMembers members) ++ "\x7d"

def compactItems : List Json → List String
  | [] => []
  | item :: rest => compact item :: compactItems rest

def compactMembers : List (String × Json) → List String
  | [] => []
  | (key, value) :: rest => (quote key ++ ":" ++ compact value) :: compactMembers rest

end

/-- A line break and the blanks of a level. -/
def indentation (level : Nat) : String := "\n" ++ String.ofList (List.replicate (2 * level) ' ')

/-- Parts between brackets, one on a line at `level + 1`; no parts leave the brackets empty. -/
def layOut (opening closing : String) (level : Nat) (parts : List String) : String :=
  if parts = [] then opening ++ closing
  else
    opening ++ indentation (level + 1) ++ ("," ++ indentation (level + 1)).intercalate parts
      ++ indentation level ++ closing

mutual

/-- The document laid out with two blanks per level, starting at the given level. -/
def prettyAt (level : Nat) : Json → String
  | array items => layOut "[" "]" level (prettyItems (level + 1) items)
  | object members => layOut "\x7b" "\x7d" level (prettyMembers (level + 1) members)
  | null => "null"
  | bool true => "true"
  | bool false => "false"
  | number n => n.toText
  | string s => quote s

def prettyItems (level : Nat) : List Json → List String
  | [] => []
  | item :: rest => prettyAt level item :: prettyItems level rest

def prettyMembers (level : Nat) : List (String × Json) → List String
  | [] => []
  | (key, value) :: rest => (quote key ++ ": " ++ prettyAt level value) :: prettyMembers level rest

end

def pretty (document : Json) : String := prettyAt 0 document

end Repricing.Json
