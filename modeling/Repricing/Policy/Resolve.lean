import Repricing.Files
import Repricing.Policy.Settings

namespace Repricing

/-- The policy that flags ask for: a file, and parts that go before those of the file. -/
structure PolicyFlags where
  file : Option String
  minMarginPct : Option Decimal
  maxChangePct : Option Decimal
  roundingMode : Option RoundingMode
  deriving DecidableEq

inductive PolicyError where
  | unreadable (path : String) (fault : FileFault)
  | malformed (path : String)
  | unknownMode (path given : String)
  | unacceptable (fault : PolicyFault)
  deriving DecidableEq

def PolicyError.message : PolicyError → String
  | unreadable path fault => "could not read '" ++ path ++ "': " ++ fault.message
  | malformed path => "could not parse '" ++ path ++ "':"
  | unknownMode path given => path ++ ": " ++ RoundingMode.unknownMessage given
  | unacceptable fault => fault.message

namespace Policy

/-- The policy with the settings of a file; a rounding mode that has no such name is given back. -/
def withSettings (base : Policy) (s : PolicySettings) : Except String Policy :=
  let mode : Except String RoundingMode := match s.roundingMode with
    | none => .ok base.roundingMode
    | some text =>
      match RoundingMode.ofText? text with
      | some mode => .ok mode
      | none => .error text
  mode.map fun mode => ⟨s.minMarginPct.getD base.minMarginPct, s.maxChangePct.getD base.maxChangePct, mode⟩

def withFlags (base : Policy) (flags : PolicyFlags) : Policy :=
  ⟨flags.minMarginPct.getD base.minMarginPct, flags.maxChangePct.getD base.maxChangePct,
    flags.roundingMode.getD base.roundingMode⟩

/-- The standard policy with the settings of a file, if there is one. -/
def ofFile (files : Files) : Option String → Except PolicyError Policy
  | none => .ok standard
  | some path =>
    match files path with
    | .error fault => .error (.unreadable path fault)
    | .ok text =>
      match PolicySettings.ofText? text with
      | none => .error (.malformed path)
      | some settings =>
        match standard.withSettings settings with
        | .error given => .error (.unknownMode path given)
        | .ok policy => .ok policy

/-- The policy of a run, or everything that is wrong with it. A file that cannot be used is the only thing reported. -/
def resolve (files : Files) (flags : PolicyFlags) : Except (List PolicyError) Policy :=
  match ofFile files flags.file with
  | .error e => .error [e]
  | .ok base =>
    let policy := base.withFlags flags
    match policy.faults with
    | [] => .ok policy
    | found => .error (found.map .unacceptable)

end Policy

end Repricing
