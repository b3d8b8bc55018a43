import Repricing.Text.Character

/-!
Regular expressions: which texts are one, and which of those can be matched by a finite automaton, which knows no ends
of words. No text here has a closing brace, so braces that count repetitions or hold names of properties are never
closed.
-/

namespace Repricing.Text.Pattern

inductive Fault where
  | malformed
  | wordEnd
  deriving DecidableEq

/-- What an escape stands for: a character, a set of characters, an end of the text, or an end of a word. -/
inductive Escape where
  | character (c : Char)
  | set
  | textEnd
  | wordEnd

def readEscape (text : List Char) : Option (Escape × List Char) :=
  match text with
  | [] => none
  | c :: rest =>
    let character (c : Char) : Option (Escape × List Char) := some (.character c, rest)
    let codePoint (width : Nat) : Option (Escape × List Char) :=
      (readCodePoint width rest).map fun (c, rest) => (.character c, rest)
    match c with
    | 'x' => codePoint 2
    | 'u' => codePoint 4
    | 'U' => codePoint 8
    | 'a' => character '\x07'
    | 'f' => character '\x0c'
    | 't' => character '\t'
    | 'n' => character '\n'
    | 'r' => character '\r'
    | 'v' => character '\x0b'
    | _ =>
      if c = 'p' ∨ c = 'P' then
        match rest with
        | category :: rest => if category.toUpper ∈ ['C', 'L', 'M', 'N', 'P', 'S', 'Z'] then some (.set, rest) else none
        | [] => none
      else if c ∈ ['d', 'D', 's', 'S', 'w', 'W'] then some (.set, rest)
      else if c ∈ ['A', 'z'] then some (.textEnd, rest)
      else if c ∈ ['b', 'B', '<', '>'] then some (.wordEnd, rest)
      else if c.toNat < 0x80 ∧ !c.isAlphanum then character c
      else none

/-- Reads one member of a class: a character, or a set of them. -/
def readMember (text : List Char) : Option (Option Char × List Char) :=
  match text with
  | [] => none
  | '\\' :: rest =>
    match readEscape rest with
    | some (.character c, rest) => some (some c, rest)
    | some (.set, rest) => some (none, rest)
    | _ => none
  | c :: rest => some (some c, rest)

/-- What follows the opening bracket of a class, behind the characters that stand for themselves there only. -/
def classStart (text : List Char) : List Char :=
  let text := match text with
    | '^' :: rest => rest
    | _ => text
  match text with
  | ']' :: rest => rest
  | _ => text.dropWhile (· = '-')

/-- The text behind `depth` classes inside each other: members, ranges whose ends are in order, further classes, and
the signs that combine them. -/
def skipClass (fuel depth : Nat) (text : List Char) : Option (List Char) :=
  match fuel with
  | 0 => none
  | fuel + 1 =>
    match text with
    | ']' :: rest => if depth ≤ 1 then some rest else skipClass fuel (depth - 1) rest
    | '[' :: rest => skipClass fuel (depth + 1) (classStart rest)
    | '&' :: '&' :: rest => skipClass fuel depth rest
    | '-' :: '-' :: rest => skipClass fuel depth rest
    | '~' :: '~' :: rest => skipClass fuel depth rest
    | _ =>
      (readMember text).bind fun (first, rest) =>
        match rest with
        | '-' :: ']' :: _ => skipClass fuel depth rest
        | '-' :: '-' :: _ => skipClass fuel depth rest
        | '-' :: rest =>
          match first, readMember rest with
          | some low, some (some high, rest) => if low ≤ high then skipClass fuel depth rest else none
          | _, _ => none
        | _ => skipClass fuel depth rest

/-- Flags that each stand once, with at most one minus sign, which is not the last. -/
def AreFlags (flags : List Char) : Prop :=
  flags.Nodup ∧ (∀ c ∈ flags, c ∈ ['i', 'm', 's', 'U', 'u', 'R', 'x', '-']) ∧ flags.getLast? ≠ some '-'

instance (flags : List Char) : Decidable (AreFlags flags) :=
  inferInstanceAs (Decidable (_ ∧ _ ∧ _))

/-- A name: a letter or underscore, then also digits, dots and brackets. -/
def IsName (name : List Char) : Prop :=
  name.head?.any (fun c => c = '_' || (isAlphanumeric c && !c.isDigit)) = true ∧
    ∀ c ∈ name, c ∈ ['_', '.', '[', ']'] ∨ isAlphanumeric c

instance (name : List Char) : Decidable (IsName name) := inferInstanceAs (Decidable (_ ∧ _))

/-- What has been read of a regular expression: how many groups are open, whether something stands here that may be
repeated, the names of groups, and whether an end of a word was asked for. -/
structure Scan where
  depth : Nat
  repeatable : Bool
  names : List (List Char)
  wordEnd : Bool

/-- Reads on behind the opening parenthesis of a group, or sets flags. -/
def openGroup (s : Scan) (text : List Char) : Option (Scan × List Char) :=
  let inside : Scan := { s with depth := s.depth + 1, repeatable := false }
  let named (text : List Char) : Option (Scan × List Char) :=
    let name := text.takeWhile (· ≠ '>')
    match text.dropWhile (· ≠ '>') with
    | _ :: rest => if IsName name ∧ name ∉ s.names then some ({ inside with names := name :: s.names }, rest) else none
    | [] => none
  match text with
  | '?' :: '=' :: _ => none
  | '?' :: '!' :: _ => none
  | '?' :: '<' :: '=' :: _ => none
  | '?' :: '<' :: '!' :: _ => none
  | '?' :: 'P' :: '<' :: rest => named rest
  | '?' :: '<' :: rest => named rest
  | '?' :: rest =>
    let flags := rest.takeWhile fun c => c ≠ ':' && c ≠ ')'
    match rest.dropWhile fun c => c ≠ ':' && c ≠ ')' with
    | ':' :: rest => if AreFlags flags then some (inside, rest) else none
    | _ :: rest => if AreFlags flags ∧ flags ≠ [] then some ({ s with repeatable := false }, rest) else none
    | [] => none
  | _ => some (inside, text)

/-- The text behind the sign that makes a repetition as short as it can be, if it stands here. -/
def skipReluctance : List Char → List Char
  | '?' :: rest => rest
  | text => text

def scan (fuel : Nat) (s : Scan) (text : List Char) : Option Scan :=
  match fuel with
  | 0 => none
  | fuel + 1 =>
    match text with
    | [] => if s.depth = 0 then some s else none
    | c :: rest =>
      if c = '(' then (openGroup s rest).bind fun (s, rest) => scan fuel s rest
      else if c = ')' then
        if s.depth = 0 then none else scan fuel { s with depth := s.depth - 1, repeatable := true } rest
      else if c = '|' then scan fuel { s with repeatable := false } rest
      else if c = '[' then
        (skipClass (rest.length + 1) 1 (classStart rest)).bind fun rest => scan fuel { s with repeatable := true } rest
      else if c ∈ ['*', '+', '?'] then
        if s.repeatable then scan fuel s (skipReluctance rest) else none
      else if c = '\x7b' then none
      else if c = '\\' then
        (readEscape rest).bind fun (escape, rest) =>
          match escape with
          | .wordEnd => scan fuel { s with repeatable := true, wordEnd := true } rest
          | _ => scan fuel { s with repeatable := true } rest
      else scan fuel { s with repeatable := true } rest

/-- Why a text cannot be matched by, if it cannot. -/
def fault? (text : List Char) : Option Fault :=
  match scan (text.length + 1) ⟨0, false, [], false⟩ text with
  | none => some .malformed
  | some s => if s.wordEnd then some .wordEnd else none

end Repricing.Text.Pattern
