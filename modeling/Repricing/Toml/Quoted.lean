import Repricing.Text.Character

namespace Repricing.Toml

/-- What a reading step gives: a result and the text behind it. -/
abbrev Step (α : Type) := Option (α × List Char)

def skipBlanks (text : List Char) : List Char := text.dropWhile fun c => c = ' ' || c = '\t'

/-- A character that may stand in a comment or a literal string. -/
def isPlain (c : Char) : Bool := c = '\t' || (0x20 ≤ c.toNat && c.toNat ≤ 0x7e) || 0x80 ≤ c.toNat

/-- The text behind a line break. -/
def lineBreak? : List Char → Option (List Char)
  | '\n' :: rest => some rest
  | '\r' :: '\n' :: rest => some rest
  | _ => none

/-- Reads the character of an escape behind its backslash. -/
def readEscape : List Char → Step Char
  | 'b' :: rest => some ('\x08', rest)
  | 't' :: rest => some ('\t', rest)
  | 'n' :: rest => some ('\n', rest)
  | 'f' :: rest => some ('\x0c', rest)
  | 'r' :: rest => some ('\r', rest)
  | '"' :: rest => some ('"', rest)
  | '\\' :: rest => some ('\\', rest)
  | 'u' :: rest => Text.readCodePoint 4 rest
  | 'U' :: rest => Text.readCodePoint 8 rest
  | _ => none

/-- Reads a string with escapes behind its quote; `read` holds the characters so far, the last one first. -/
def readBasic (fuel : Nat) (read : List Char) (text : List Char) : Step String :=
  match fuel, text with
  | 0, _ => none
  | _, [] => none
  | _, '"' :: rest => some (String.ofList read.reverse, rest)
  | fuel + 1, '\\' :: rest =>
    match readEscape rest with
    | some (c, rest) => readBasic fuel (c :: read) rest
    | none => none
  | fuel + 1, c :: rest => if isPlain c then readBasic fuel (c :: read) rest else none

/-- Reads a string without escapes behind its quote. -/
def readLiteral (read : List Char) : List Char → Step String
  | [] => none
  | c :: rest =>
    if c = '\'' then some (String.ofList read.reverse, rest)
    else if isPlain c then readLiteral (c :: read) rest
    else none

/-- How many of the quotes that a text starts with, and the text behind them. -/
def countQuotes (quote : Char) (text : List Char) : Nat × List Char :=
  ((text.takeWhile (· = quote)).length, text.dropWhile (· = quote))

/-- The text behind blanks and line breaks. -/
def skipBlankLines : List Char → List Char
  | ' ' :: rest => skipBlankLines rest
  | '\t' :: rest => skipBlankLines rest
  | '\n' :: rest => skipBlankLines rest
  | '\r' :: '\n' :: rest => skipBlankLines rest
  | text => text

/-- The text behind a backslash at the end of a line: blanks and line breaks up to the next other character. -/
def skipContinuation? (text : List Char) : Option (List Char) :=
  (lineBreak? (skipBlanks text)).map skipBlankLines

/-- Reads a string over several lines behind its three quotes. Up to two quotes may stand before the last three. -/
def readLines (escapes : Bool) (quote : Char) (fuel : Nat) (read : List Char) (text : List Char) : Step String :=
  match fuel with
  | 0 => none
  | fuel + 1 =>
    match text with
    | [] => none
    | c :: rest =>
      if c = quote then
        let (n, rest) := countQuotes quote text
        if n < 3 then readLines escapes quote fuel (List.replicate n quote ++ read) rest
        else if n ≤ 5 then some (String.ofList (List.replicate (n - 3) quote ++ read).reverse, rest)
        else none
      else if escapes && c = '\\' then
        match skipContinuation? rest with
        | some rest => readLines escapes quote fuel read rest
        | none =>
          match readEscape rest with
          | some (c, rest) => readLines escapes quote fuel (c :: read) rest
          | none => none
      else
        match lineBreak? text with
        | some rest => readLines escapes quote fuel ('\n' :: read) rest
        | none => if isPlain c then readLines escapes quote fuel (c :: read) rest else none

/-- Reads a string over several lines; a line break right behind the opening quotes does not count. -/
def readBlock (escapes : Bool) (quote : Char) (text : List Char) : Step String :=
  let text := (lineBreak? text).getD text
  readLines escapes quote (text.length + 1) [] text

def readString : List Char → Step String
  | '"' :: '"' :: '"' :: rest => readBlock true '"' rest
  | '"' :: rest => readBasic (rest.length + 1) [] rest
  | '\'' :: '\'' :: '\'' :: rest => readBlock false '\'' rest
  | '\'' :: rest => readLiteral [] rest
  | _ => none

end Repricing.Toml
