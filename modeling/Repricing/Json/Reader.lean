import Repricing.Json.Basic
import Repricing.Text.Character

/-!
Reading a document from text. A text that is no document has a first fault, reported with its line and column; columns
count bytes. Containers may nest 127 deep. Whole numbers beyond 64 bits and `-0` read as binary floating-point, like
all numbers with a fraction or a power of ten: their digits and their power of ten are rounded apart.
-/

namespace Repricing.Json

/-- What is wrong with a text that is no document. -/
inductive SyntaxFault where
  | endInList
  | endInObject
  | endInString
  | endInValue
  | expectedColon
  | expectedListCommaOrEnd
  | expectedObjectCommaOrEnd
  | expectedIdent
  | expectedValue
  | invalidEscape
  | invalidNumber
  | numberOutOfRange
  | controlCharacter
  | keyNotString
  | loneSurrogate
  | trailingComma
  | trailingCharacters
  | endOfHexEscape
  | nestedTooDeep
  deriving DecidableEq

def SyntaxFault.message : SyntaxFault → String
  | endInList => "EOF while parsing a list"
  | endInObject => "EOF while parsing an object"
  | endInString => "EOF while parsing a string"
  | endInValue => "EOF while parsing a value"
  | expectedColon => "expected `:`"
  | expectedListCommaOrEnd => "expected `,` or `]`"
  | expectedObjectCommaOrEnd => "expected `,` or `\x7d`"
  | expectedIdent => "expected ident"
  | expectedValue => "expected value"
  | invalidEscape => "invalid escape"
  | invalidNumber => "invalid number"
  | numberOutOfRange => "number out of range"
  | controlCharacter => "control character (\\u0000-\\u001F) found while parsing a string"
  | keyNotString => "key must be a string"
  | loneSurrogate => "lone leading surrogate in hex escape"
  | trailingComma => "trailing comma"
  | trailingCharacters => "trailing characters"
  | endOfHexEscape => "unexpected end of hex escape"
  | nestedTooDeep => "recursion limit exceeded"

/-- A fault and where it was found. -/
structure ReadError where
  fault : SyntaxFault
  line : Nat
  column : Nat
  deriving DecidableEq

def ReadError.message (e : ReadError) : String :=
  e.fault.message ++ " at line " ++ toString e.line ++ " column " ++ toString e.column

/-- The text that is left to read, and the place where it starts. The column counts the bytes read of its line. -/
structure Cursor where
  rest : List Char
  line : Nat
  column : Nat

namespace Cursor

/-- The place `bytes` further on in a text. It may lie inside a character. -/
def skipIn (bytes line column : Nat) : List Char → Cursor
  | [] => ⟨[], line, column⟩
  | ch :: rest =>
    if bytes = 0 then ⟨ch :: rest, line, column⟩
    else if ch = '\n' then skipIn (bytes - 1) (line + 1) 0 rest
    else if ch.utf8Size ≤ bytes then skipIn (bytes - ch.utf8Size) line (column + ch.utf8Size) rest
    else ⟨rest, line, column + bytes⟩

def skip (bytes : Nat) (c : Cursor) : Cursor := skipIn bytes c.line c.column c.rest

/-- The cursor behind one character of the text. -/
def next (c : Cursor) (ch : Char) (rest : List Char) : Cursor :=
  if ch = '\n' then ⟨rest, c.line + 1, 0⟩ else ⟨rest, c.line, c.column + ch.utf8Size⟩

def fail {α : Type} (c : Cursor) (fault : SyntaxFault) : Except ReadError α :=
  .error ⟨fault, c.line, c.column⟩

/-- A fault of what stands at the cursor: its first byte counts as seen. -/
def failAhead {α : Type} (c : Cursor) (fault : SyntaxFault) : Except ReadError α :=
  (c.skip 1).fail fault

/-- Skips blanks, tabs and line breaks of a text. -/
def skipBlanksIn (line column : Nat) : List Char → Cursor
  | [] => ⟨[], line, column⟩
  | ch :: rest =>
    if ch = ' ' ∨ ch = '\t' ∨ ch = '\r' then skipBlanksIn line (column + 1) rest
    else if ch = '\n' then skipBlanksIn (line + 1) 0 rest
    else ⟨ch :: rest, line, column⟩

/-- The cursor behind the blanks, tabs and line breaks at the cursor. -/
def skipBlanks (c : Cursor) : Cursor := skipBlanksIn c.line c.column c.rest

end Cursor

/-- Reads the rest of a word whose first letter has been read. -/
def readWord (value : Json) : List Char → Cursor → Except ReadError (Json × Cursor)
  | [], c => .ok (value, c)
  | expected :: word, c =>
    match c.rest with
    | [] => c.fail .endInValue
    | ch :: rest => if ch = expected then readWord value word (c.next ch rest) else c.failAhead .expectedIdent

/-- Reads the digits at the cursor. -/
def readDigits (c : Cursor) : List Char × Cursor :=
  let digits := c.rest.takeWhile (·.isDigit)
  (digits, ⟨c.rest.dropWhile (·.isDigit), c.line, c.column + digits.length⟩)

/-- Adds digits to a number as far as 64 bits hold it, and gives how many are left. -/
def takeDigits (n : Nat) : List Char → Nat × Nat
  | [] => (n, 0)
  | ch :: rest =>
    let next := n * 10 + Decimal.digitValue ch
    if next < twoPow 64 then takeDigits next rest else (n, rest.length + 1)

/-- The floating-point number `± digits * 10 ^ power`, or a fault at the cursor if it is past the largest one. -/
def floatAt (c : Cursor) (negative : Bool) (digits : Nat) (power : Int) : Except ReadError (Json × Cursor) :=
  match Binary64.ofScaled? negative digits power with
  | some x => .ok (number (.float x), c)
  | none => c.fail .numberOutOfRange

/-- A power of ten that 32 bits do not hold decides the number at once: zero below, a fault above. -/
def hugePower (c : Cursor) (negative : Bool) (digits : Nat) (powerNegative : Bool) : Except ReadError (Json × Cursor) :=
  if digits ≠ 0 ∧ ¬powerNegative then c.fail .numberOutOfRange
  else .ok (number (.float (Binary64.signedZero negative)), (readDigits c).2)

/-- Reads the further digits of a power of ten, and gives the number. -/
def readPowerDigits (negative : Bool) (digits : Nat) (power : Int) (powerNegative : Bool) (value : Nat) :
    List Char → Cursor → Except ReadError (Json × Cursor)
  | [], c => floatAt c negative digits (if powerNegative then power - value else power + value)
  | ch :: rest, c =>
    if ch.isDigit then
      let next := value * 10 + Decimal.digitValue ch
      if twoPow 31 ≤ next then hugePower (c.next ch rest) negative digits powerNegative
      else readPowerDigits negative digits power powerNegative next rest (c.next ch rest)
    else floatAt c negative digits (if powerNegative then power - value else power + value)

/-- Reads a power of ten behind its mark. -/
def readPower (negative : Bool) (digits : Nat) (power : Int) (c : Cursor) : Except ReadError (Json × Cursor) :=
  let (powerNegative, c) := match c.rest with
    | '+' :: rest => (false, c.next '+' rest)
    | '-' :: rest => (true, c.next '-' rest)
    | _ => (false, c)
  match c.rest with
  | [] => c.fail .endInValue
  | ch :: rest =>
    if ch.isDigit then
      readPowerDigits negative digits power powerNegative (Decimal.digitValue ch) rest (c.next ch rest)
    else c.failAhead .invalidNumber

/-- Reads what may follow the digits of a number: a fraction, a power of ten, or neither. Digits that 64 bits do not
hold count as zeros in the whole part, and are left out of the fraction. -/
def readNumberTail (negative : Bool) (whole : List Char) (c : Cursor) : Except ReadError (Json × Cursor) :=
  let (n, unread) := takeDigits 0 whole
  match c.rest with
  | '.' :: rest =>
    let (fraction, after) := readDigits (c.next '.' rest)
    let (digits, dropped) := takeDigits n fraction
    let power : Int := (unread + dropped : Nat) - (fraction.length : Int)
    match fraction, after.rest with
    | [], [] => after.fail .endInValue
    | [], _ => after.failAhead .invalidNumber
    | _, mark :: rest =>
      if mark = 'e' ∨ mark = 'E' then readPower negative digits power (after.next mark rest)
      else floatAt after negative digits power
    | _, [] => floatAt after negative digits power
  | mark :: rest =>
    if mark = 'e' ∨ mark = 'E' then readPower negative n unread (c.next mark rest) else wholeAt n unread
  | [] => wholeAt n unread
where
  wholeAt (n unread : Nat) : Except ReadError (Json × Cursor) :=
    if 0 < unread then floatAt c negative n unread
    else if !negative then .ok (number (.integer n), c)
    else if n = 0 ∨ twoPow 63 < n then floatAt c true n 0
    else .ok (number (.integer (-n)), c)

/-- Reads a number behind its sign. A leading zero stands alone. -/
def readNumber (negative : Bool) (c : Cursor) : Except ReadError (Json × Cursor) :=
  match c.rest with
  | [] => c.fail .endInValue
  | '0' :: rest =>
    match rest with
    | ch :: _ =>
      if ch.isDigit then (c.next '0' rest).failAhead .invalidNumber
      else readNumberTail negative ['0'] (c.next '0' rest)
    | [] => readNumberTail negative ['0'] (c.next '0' rest)
  | ch :: _ =>
    if ch.isDigit then
      let (digits, after) := readDigits c
      readNumberTail negative digits after
    else c.failAhead .invalidNumber

/-- Reads four hexadecimal digits; a text of fewer than four bytes ends in the string. -/
def readHex (c : Cursor) : Except ReadError (Nat × Cursor) :=
  if (String.ofList (c.rest.take 4)).utf8ByteSize < 4 then (c.skip 4).fail .endInString
  else
    match Text.hexNumber? (c.rest.take 4) with
    | some n => .ok (n, c.skip 4)
    | none => (c.skip 4).fail .invalidEscape

/-- Reads `expected` inside a pair of escapes. -/
def readPaired (expected : Char) (c : Cursor) : Except ReadError Cursor :=
  match c.rest with
  | [] => c.fail .endInString
  | ch :: rest => if ch = expected then .ok (c.next ch rest) else c.failAhead .endOfHexEscape

/-- Reads the character of a hexadecimal escape; one beyond 16 bits is written as a pair of escapes. -/
def readHexEscape (c : Cursor) : Except ReadError (Char × Cursor) := do
  let (high, c) ← readHex c
  if 0xDC00 ≤ high ∧ high ≤ 0xDFFF then c.fail .loneSurrogate
  else if high < 0xD800 ∨ 0xDBFF < high then .ok (Char.ofNat high, c)
  else
    let c ← readPaired '\\' c
    let c ← readPaired 'u' c
    let (low, c) ← readHex c
    if low < 0xDC00 ∨ 0xDFFF < low then c.fail .loneSurrogate
    else .ok (Char.ofNat ((high - 0xD800) * 0x400 + (low - 0xDC00) + 0x10000), c)

/-- Reads the character of an escape behind its backslash. -/
def readEscape (c : Cursor) : Except ReadError (Char × Cursor) :=
  match c.rest with
  | [] => c.fail .endInString
  | ch :: rest =>
    let c' := c.next ch rest
    if ch = '"' ∨ ch = '\\' ∨ ch = '/' then .ok (ch, c')
    else if ch = 'b' then .ok ('\x08', c')
    else if ch = 'f' then .ok ('\x0c', c')
    else if ch = 'n' then .ok ('\n', c')
    else if ch = 'r' then .ok ('\r', c')
    else if ch = 't' then .ok ('\t', c')
    else if ch = 'u' then readHexEscape c'
    else c.failAhead .invalidEscape

/-- Reads a string behind its opening quote; `read` holds the characters so far, the last one first. Each step takes a
character, so the length of the text bounds the steps. -/
def readString (fuel : Nat) (read : List Char) (c : Cursor) : Except ReadError (String × Cursor) :=
  match fuel, c.rest with
  | 0, _ => c.fail .endInString
  | _, [] => c.fail .endInString
  | fuel + 1, ch :: rest =>
    if ch = '"' then .ok (String.ofList read.reverse, c.next ch rest)
    else if ch = '\\' then do
      let (escaped, c) ← readEscape (c.next ch rest)
      readString fuel (escaped :: read) c
    else if ch.toNat < 0x20 then c.failAhead .controlCharacter
    else readString fuel (ch :: read) (c.next ch rest)

/-- Reads a key and the colon behind it, from the opening quote of the key. -/
def readKey (c : Cursor) (rest : List Char) : Except ReadError (String × Cursor) := do
  let (key, c) ← readString rest.length [] (c.next '"' rest)
  let c := c.skipBlanks
  match c.rest with
  | ':' :: rest => .ok (key, c.next ':' rest)
  | [] => c.failAhead .endInObject
  | _ => c.failAhead .expectedColon

mutual

/-- Reads a value; `depth` is how many containers may still open. Each call takes a character or is followed by one
that does, so twice the length of the text bounds the calls. -/
def readValue (fuel depth : Nat) (c : Cursor) : Except ReadError (Json × Cursor) :=
  match fuel with
  | 0 => c.fail .endInValue
  | fuel + 1 =>
    let c := c.skipBlanks
    match c.rest with
    | [] => c.failAhead .endInValue
    | ch :: rest =>
      if ch = 'n' then readWord null ['u', 'l', 'l'] (c.next ch rest)
      else if ch = 't' then readWord (bool true) ['r', 'u', 'e'] (c.next ch rest)
      else if ch = 'f' then readWord (bool false) ['a', 'l', 's', 'e'] (c.next ch rest)
      else if ch = '-' then readNumber true (c.next ch rest)
      else if ch.isDigit then readNumber false c
      else if ch = '"' then do
        let (s, c) ← readString rest.length [] (c.next ch rest)
        .ok (string s, c)
      else if ch = '[' then
        if depth ≤ 1 then c.failAhead .nestedTooDeep else readItems fuel (depth - 1) [] (c.next ch rest)
      else if ch = '\x7b' then
        if depth ≤ 1 then c.failAhead .nestedTooDeep else readMembers fuel (depth - 1) [] true (c.next ch rest)
      else c.failAhead .expectedValue

/-- Reads the items of an array to its end; `read` holds the items so far, the last one first. -/
def readItems (fuel depth : Nat) (read : List Json) (c : Cursor) : Except ReadError (Json × Cursor) :=
  match fuel with
  | 0 => c.fail .endInList
  | fuel + 1 =>
    let c := c.skipBlanks
    match c.rest with
    | [] => c.failAhead .endInList
    | ch :: rest =>
      if ch = ']' then .ok (array read.reverse, c.next ch rest)
      else if read.isEmpty then do
        let (item, c) ← readValue fuel depth c
        readItems fuel depth [item] c
      else if ch = ',' then
        let c := (c.next ch rest).skipBlanks
        match c.rest with
        | [] => c.failAhead .endInValue
        | ']' :: _ => c.failAhead .trailingComma
        | _ => do
          let (item, c) ← readValue fuel depth c
          readItems fuel depth (item :: read) c
      else c.failAhead .expectedListCommaOrEnd

/-- Reads the members of an object to its end. -/
def readMembers (fuel depth : Nat) (read : List (String × Json)) (first : Bool) (c : Cursor) :
    Except ReadError (Json × Cursor) :=
  match fuel with
  | 0 => c.fail .endInObject
  | fuel + 1 =>
    let c := c.skipBlanks
    match c.rest with
    | [] => c.failAhead .endInObject
    | ch :: rest =>
      if ch = '\x7d' then .ok (object read, c.next ch rest)
      else if first then
        if ch = '"' then do
          let (key, c) ← readKey c rest
          let (value, c) ← readValue fuel depth c
          readMembers fuel depth (insertMember key value read) false c
        else c.failAhead .keyNotString
      else if ch = ',' then
        let c := (c.next ch rest).skipBlanks
        match c.rest with
        | [] => c.failAhead .endInValue
        | '"' :: rest => do
          let (key, c) ← readKey c rest
          let (value, c) ← readValue fuel depth c
          readMembers fuel depth (insertMember key value read) false c
        | '\x7d' :: _ => c.failAhead .trailingComma
        | _ => c.failAhead .keyNotString
      else c.failAhead .expectedObjectCommaOrEnd

end

/-- Reads a document: one value with nothing but blanks behind it. -/
def ofText (text : String) : Except ReadError Json := do
  let chars := text.toList
  let (value, c) ← readValue (2 * chars.length + 2) 128 ⟨chars, 1, 0⟩
  let c := c.skipBlanks
  match c.rest with
  | [] => .ok value
  | _ => c.failAhead .trailingCharacters

end Repricing.Json
