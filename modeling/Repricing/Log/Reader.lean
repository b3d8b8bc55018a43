import Repricing.Log.Basic
import Repricing.Text.Pattern

namespace Repricing

inductive LogFilterFault where
  | malformed
  | unknownLevel
  | value (fault : Text.Pattern.Fault)
  deriving DecidableEq

def LogFilterFault.message : LogFilterFault → String
  | malformed => "invalid filter directive"
  | value .malformed => "invalid field filter: error building NFA"
  | value .wordEnd => "invalid field filter: unsupported regex feature for DFAs"
  | unknownLevel =>
    "error parsing level filter: expected one of \"off\", \"error\", \"warn\", \"info\", \"debug\", \"trace\", "
      ++ "or a number 0-5"

namespace LogFilter

/-- The rank that a text names, in either case or as a number. -/
def rank? (text : List Char) : Option Nat :=
  let digits := match text with
    | '+' :: rest => rest
    | _ => text
  let word := String.ofList (text.map Char.toLower)
  if text = [] then some 1
  else if digits ≠ [] ∧ digits.all Char.isDigit then
    match digits.dropWhile (· = '0') with
    | [] => some 0
    | [c] => if c ≤ '5' then some (c.toNat - '0'.toNat) else none
    | _ => none
  else if word = "off" then some 0
  else if word = "error" then some 1
  else if word = "warn" then some 2
  else if word = "info" then some 3
  else if word = "debug" then some 4
  else if word = "trace" then some 5
  else none

def size (text : List Char) : Nat := text.foldl (fun n c => n + c.utf8Size) 0

/-- The characters of a text from one byte up to another. -/
def cut : (start stop : Nat) → List Char → List Char
  | _, _, [] => []
  | start, stop, c :: rest =>
    if stop = 0 then []
    else if start = 0 then c :: cut 0 (stop - c.utf8Size) rest
    else cut (start - c.utf8Size) (stop - c.utf8Size) rest

/-- The level that stands behind an equals sign; the last one where nothing does. -/
def levelRank : List Char → Except LogFilterFault Nat
  | [] => .ok 5
  | level =>
    match rank? level with
    | some rank => .ok rank
    | none => .error .unknownLevel

/-- The text is a number, with or without a sign. -/
def isNumber (text : List Char) : Bool :=
  let unsigned (text : List Char) := match text with
    | '+' :: rest => rest
    | '-' :: rest => rest
    | _ => text
  let isMark (c : Char) := c = 'e' || c = 'E'
  let digits := (unsigned text).takeWhile fun c => !isMark c
  let power := (unsigned text).dropWhile fun c => !isMark c
  let fraction := digits.dropWhile (·.isDigit)
  let isDecimal := (fraction.take 1 = [] || fraction.take 1 = ['.']) && (fraction.drop 1).all (·.isDigit)
    && digits.any (·.isDigit)
  let isPower := power = [] || (unsigned (power.drop 1) ≠ [] && (unsigned (power.drop 1)).all (·.isDigit))
  String.ofList ((unsigned text).map Char.toLower) ∈ ["inf", "infinity", "nan"] || (isDecimal && isPower)

/-- Why a detail in braces asks for no value that there is: after an equals sign stands a number or a regular
expression, up to the next equals sign. -/
def valueFault? (field : String) : Option Text.Pattern.Fault :=
  match field.toList.dropWhile (· ≠ '=') with
  | [] => none
  | _ :: rest =>
    let value := rest.takeWhile (· ≠ '=')
    if isNumber value then none else Text.Pattern.fault? value

/-- Where a directive is read: its text, how many bytes of it are read, and what is left without blanks at the end. -/
structure Reading where
  text : List Char
  read : Nat
  rest : List Char

namespace Reading

/-- Reads on behind characters. -/
def behind (r : Reading) (part : List Char) : Reading :=
  ⟨r.text, r.read + size part, r.rest.drop part.length⟩

/-- The part of the text, as wide as the given characters, that starts where the reading stands. -/
def piece (r : Reading) (part : List Char) : String := String.ofList (cut r.read (r.read + size part) r.text)

def level (r : Reading) : Except LogFilterFault Nat :=
  match r.rest with
  | [] => .ok 5
  | '=' :: _ => levelRank (cut (r.read + 1) (size r.text) r.text)
  | _ => .error .malformed

/-- Reads a directive from its opening bracket on. What is in brackets names a span, a detail in braces, or both;
`name=value` in braces asks for a value. A program without spans has no record for a directive that names a span or
asks for a value. -/
def bracket (source : Option String) (r : Reading) : Except LogFilterFault (Option LogDirective) :=
  let inside := r.behind ['[']
  let span := inside.rest.takeWhile fun c => c ≠ ']' && c ≠ '\x7b'
  let afterSpan := inside.behind span
  match afterSpan.rest with
  | ']' :: _ => (afterSpan.behind [']']).level.map fun _ => none
  | '\x7b' :: _ =>
    let inBraces := afterSpan.behind ['\x7b']
    let field := inBraces.rest.takeWhile (· ≠ '\x7d')
    let afterField := inBraces.behind field
    let name := inBraces.piece field
    match field, afterField.rest, valueFault? name with
    | _ :: _, _ :: _, some fault => .error (.value fault)
    | _ :: _, '\x7d' :: ']' :: _, none =>
      (afterField.behind ['\x7d', ']']).level.map fun rank =>
        if span = [] ∧ !name.contains '=' then some ⟨source, some name, rank⟩ else none
    | _, _, _ => .error .malformed
  | _ => .error .malformed

end Reading

/-- The directive that a text between commas writes: a level, the start of a name, or both with an equals sign, and
between them what is in brackets. Positions are counted without the blanks at the start, but parts are cut from the
text with its blanks. -/
def directive (text : List Char) : Except LogFilterFault (Option LogDirective) :=
  let start : Reading := ⟨text, 0, Text.trimBlanks text⟩
  match start.rest with
  | [] => .error .malformed
  | '[' :: _ => start.bracket none
  | first :: _ =>
    if Text.isAlphanumeric first ∨ first ∈ ['-', ':', '_'] then
      let name := start.rest.takeWhile fun c => c ≠ '=' && c ≠ '['
      let afterName := start.behind name
      match afterName.rest with
      | [] =>
        match rank? text with
        | some rank => .ok (some (.everywhere rank))
        | none => .ok (some ⟨some (String.ofList text), none, 5⟩)
      | '[' :: _ => afterName.bracket (some (start.piece name))
      | _ => afterName.level.map fun rank => some ⟨some (start.piece name), none, rank⟩
    else .error .malformed

/-- The texts between commas that are not empty. -/
def parts (text : List Char) : List (List Char) :=
  let split := text.foldr
    (fun c parts =>
      match parts with
      | [] => if c = ',' then [[]] else [[c]]
      | part :: rest => if c = ',' then [] :: part :: rest else (c :: part) :: rest)
    [[]]
  split.filter (· ≠ [])

/-- The filter that a text writes. A text without directives shows errors. -/
def ofText (text : String) : Except LogFilterFault LogFilter :=
  match (parts text.toList).mapM directive with
  | .error e => .error e
  | .ok [] => .ok [.everywhere 1]
  | .ok directives => .ok (directives.filterMap id)

end LogFilter

end Repricing
