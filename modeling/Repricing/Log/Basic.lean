namespace Repricing

/-- How grave a record is, the gravest first. -/
inductive LogLevel where
  | error
  | warn
  | info
  | debug
  | trace
  deriving DecidableEq

namespace LogLevel

def name : LogLevel → String
  | error => "ERROR"
  | warn => "WARN"
  | info => "INFO"
  | debug => "DEBUG"
  | trace => "TRACE"

/-- How many levels are at least as grave. -/
def rank : LogLevel → Nat
  | error => 1
  | warn => 2
  | info => 3
  | debug => 4
  | trace => 5

end LogLevel

/-- Something that happened: how grave it is, in which part of the program, what it was, and named details. -/
structure LogRecord where
  level : LogLevel
  source : String
  message : String
  details : List (String × String)
  deriving DecidableEq

def LogRecord.line (r : LogRecord) : String :=
  r.level.name ++ " " ++ r.message ++ String.join (r.details.map fun d => " " ++ d.1 ++ "=" ++ d.2)

/-- The names of what a record holds. -/
def LogRecord.names (r : LogRecord) : List String := "message" :: r.details.map Prod.fst

/-- Shows records up to a level, given by its rank; rank zero shows none. It covers the sources whose names start in a
given way, and the records that have a detail of a given name. -/
structure LogDirective where
  source : Option String
  detail : Option String
  rank : Nat
  deriving DecidableEq

namespace LogDirective

def everywhere (rank : Nat) : LogDirective := ⟨none, none, rank⟩

/-- The directive speaks about the record. -/
def Covers (d : LogDirective) (r : LogRecord) : Prop :=
  (∀ start ∈ d.source, start.toList.isPrefixOf r.source.toList = true) ∧ ∀ name ∈ d.detail, name ∈ r.names

instance (d : LogDirective) (r : LogRecord) : Decidable (d.Covers r) :=
  inferInstanceAs (Decidable ((∀ start ∈ d.source, _ = true) ∧ ∀ name ∈ d.detail, _))

/-- One name is no later than the other in the order of names; no name is the first of all. -/
def noLater : Option String → Option String → Bool
  | none, _ => true
  | some _, none => false
  | some a, some b => !(b < a)

/-- A directive is at most as specific as another one: its source is shorter, or its detail no later. -/
def yieldsTo (a b : LogDirective) : Bool :=
  let length := fun (d : LogDirective) => d.source.elim 0 fun start => start.length + 1
  length a < length b || (length a = length b && noLater a.detail b.detail)

/-- Of the directives that cover a record the most specific one, the last of equals. -/
def deciding? (directives : List LogDirective) (r : LogRecord) : Option LogDirective :=
  (directives.filter (·.Covers r)).foldl (fun best d => if best.all (yieldsTo · d) then some d else best) none

end LogDirective

abbrev LogFilter := List LogDirective

namespace LogFilter

/-- The filter of a run that asks for none: warnings and errors. -/
def standard : LogFilter := [.everywhere 2]

def shows (filter : LogFilter) (r : LogRecord) : Bool :=
  r.level.rank ≤ ((LogDirective.deciding? filter r).map LogDirective.rank).getD 0

end LogFilter

end Repricing
