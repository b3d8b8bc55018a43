import Repricing.Toml.Moment

namespace Repricing.Toml

/-- The text behind a comment, if one stands here. -/
def skipComment : List Char → List Char
  | '#' :: rest => rest.dropWhile isPlain
  | text => text

/-- The text of the next line, if nothing but blanks and a comment is left of this one. -/
def endLine? (text : List Char) : Option (List Char) :=
  match skipComment (skipBlanks text) with
  | [] => some []
  | rest => lineBreak? rest

/-- Skips blanks, line breaks and comments, as they may stand between the items of an array. -/
def skipLines : (fuel : Nat) → List Char → List Char
  | 0, text => text
  | fuel + 1, text =>
    let text := skipComment (skipBlanks text)
    match lineBreak? text with
    | some rest => skipLines fuel rest
    | none => text

def isBareKey (c : Char) : Bool := c.isAlphanum || c = '_' || c = '-'

def readKeyPart (text : List Char) : Step String :=
  match text with
  | '"' :: rest => readBasic (rest.length + 1) [] rest
  | '\'' :: rest => readLiteral [] rest
  | _ =>
    match text.takeWhile isBareKey with
    | [] => none
    | part => some (String.ofList part, text.dropWhile isBareKey)

/-- Reads the parts of a dotted key, with the blanks before and behind it. -/
def readKeyParts (fuel : Nat) (text : List Char) : Step (List String) :=
  match fuel with
  | 0 => none
  | fuel + 1 =>
    match readKeyPart (skipBlanks text) with
    | none => none
    | some (part, rest) =>
      match skipBlanks rest with
      | '.' :: rest =>
        match readKeyParts fuel rest with
        | some (parts, rest) => some (part :: parts, rest)
        | none => none
      | rest => some ([part], rest)

/-- Reads a dotted key of fewer than 80 parts. -/
def readKey (text : List Char) : Step (List String) :=
  (readKeyParts (text.length + 1) text).filter fun key => key.1.length < 80

def isWordChar (c : Char) : Bool := c.isAlphanum || c = '+' || c = '-' || c = '.' || c = '_' || c = ':'

/-- No key of a table is the start of another key; a table between braces is written in one piece. -/
def FitsIn (key : List String) (members : List (List String × Value)) : Prop :=
  ∀ m ∈ members, ¬ m.1 <+: key ∧ ¬ key <+: m.1

instance (key : List String) (members : List (List String × Value)) : Decidable (FitsIn key members) :=
  inferInstanceAs (Decidable (∀ m ∈ members, _ ∧ _))

mutual

/-- Reads a value in which arrays and tables nest up to `room` deep. Every call takes a character or is followed by one
that does. -/
def readValue (fuel room : Nat) (text : List Char) : Step Value :=
  match fuel, room, text with
  | 0, _, _ => none
  | _, 0, '[' :: _ => none
  | _, 0, '\x7b' :: _ => none
  | fuel + 1, room + 1, '[' :: rest => readItems fuel room [] rest
  | fuel + 1, room + 1, '\x7b' :: rest =>
    match skipBlanks rest with
    | '\x7d' :: rest => some (.table [], rest)
    | rest => readMembers fuel room [] rest
  | _, _, '"' :: rest => (readString ('"' :: rest)).map fun (s, rest) => (.string s, rest)
  | _, _, '\'' :: rest => (readString ('\'' :: rest)).map fun (s, rest) => (.string s, rest)
  | _, _, text =>
    match skipMoment? text with
    | some rest => some (.moment, rest)
    | none => (word? (text.takeWhile isWordChar)).map fun value => (value, text.dropWhile isWordChar)

/-- Reads the items of an array to its end; a comma may follow the last one. -/
def readItems (fuel room : Nat) (read : List Value) (text : List Char) : Step Value :=
  match fuel with
  | 0 => none
  | fuel + 1 =>
    match skipLines text.length text with
    | ']' :: rest => some (.array read.reverse, rest)
    | text =>
      match readValue fuel room text with
      | none => none
      | some (item, rest) =>
        match skipLines rest.length rest with
        | ',' :: rest => readItems fuel room (item :: read) rest
        | ']' :: rest => some (.array (item :: read).reverse, rest)
        | _ => none

/-- Reads the assignments of a table between braces, of which there is at least one, to its end. -/
def readMembers (fuel room : Nat) (read : List (List String × Value)) (text : List Char) : Step Value :=
  match fuel with
  | 0 => none
  | fuel + 1 =>
    match readKey text with
    | some (key, '=' :: rest) =>
      match readValue fuel room (skipBlanks rest) with
      | none => none
      | some (value, rest) =>
        if FitsIn key read then
          match skipBlanks rest with
          | ',' :: rest => readMembers fuel room ((key, value) :: read) rest
          | '\x7d' :: rest => some (.table ((key, value) :: read).reverse, rest)
          | _ => none
        else none
    | _ => none

end

/-- Reads the key of a table between brackets. -/
def readHeader (text : List Char) : Step Statement :=
  match text with
  | '[' :: rest =>
    match readKey rest with
    | some (key, ']' :: ']' :: rest) => some (.tableItem key, rest)
    | _ => none
  | _ =>
    match readKey text with
    | some (key, ']' :: rest) => some (.table key, rest)
    | _ => none

def readAssignment (text : List Char) : Step Statement :=
  match readKey text with
  | some (key, '=' :: rest) =>
    (readValue (2 * rest.length + 2) 79 (skipBlanks rest)).map fun (value, rest) => (.assignment key value, rest)
  | _ => none

/-- Reads the lines of a file; every line but the last takes a character. -/
def readStatements (fuel : Nat) (text : List Char) : Option (List Statement) :=
  match fuel with
  | 0 => none
  | fuel + 1 =>
    match skipBlanks text with
    | [] => some []
    | '[' :: rest =>
      (readHeader rest).bind fun (statement, rest) =>
        (endLine? rest).bind fun rest => (readStatements fuel rest).map (statement :: ·)
    | c :: rest =>
      if c = '#' ∨ c = '\n' ∨ c = '\r' then (endLine? (c :: rest)).bind (readStatements fuel)
      else
        (readAssignment (c :: rest)).bind fun (statement, rest) =>
          (endLine? rest).bind fun rest => (readStatements fuel rest).map (statement :: ·)

/-- The statements of a settings file; a byte order mark may stand before them. -/
def ofText? (text : String) : Option (List Statement) :=
  let chars := match text.toList with
    | '\ufeff' :: rest => rest
    | chars => chars
  readStatements (chars.length + 1) chars

end Repricing.Toml
