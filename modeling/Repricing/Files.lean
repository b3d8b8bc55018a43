/-!
Texts of files, by their paths. A directory of named files answers for the paths that lead into it: an empty segment
or a dot stays where it is, two dots lead to the directory around, and all else is a file's name. A name has at most
255 bytes, a path fewer than 4096.
-/

namespace Repricing

inductive FileFault where
  | notFound
  | isDirectory
  | notDirectory
  | nameTooLong
  | notText
  deriving DecidableEq

def FileFault.message : FileFault → String
  | notFound => "No such file or directory (os error 2)"
  | isDirectory => "Is a directory (os error 21)"
  | notDirectory => "Not a directory (os error 20)"
  | nameTooLong => "File name too long (os error 36)"
  | notText => "stream did not contain valid UTF-8"

/-- The text of the file at a path. -/
abbrev Files := String → Except FileFault String

namespace Files

/-- The segments of a path, between its slashes. -/
def segments : List Char → List (List Char)
  | [] => [[]]
  | c :: rest =>
    match segments rest with
    | [] => [[c]]
    | segment :: others => if c = '/' then [] :: segment :: others else (c :: segment) :: others

/-- Follows segments from a directory, which is the one of the files or one around it. What lies around is unknown:
only directories are found there. -/
def follow (files : List (String × String)) (atFiles : Bool) : List (List Char) → Except FileFault String
  | [] => .error .isDirectory
  | segment :: rest =>
    if segment = [] ∨ segment = ['.'] then follow files atFiles rest
    else if segment = ['.', '.'] then follow files false rest
    else
      let name := String.ofList segment
      if 255 < name.utf8ByteSize then .error .nameTooLong
      else
        match if atFiles then files.lookup name else none with
        | none => .error .notFound
        | some text => if rest = [] then .ok text else .error .notDirectory

def ofDirectory (files : List (String × String)) : Files := fun path =>
  if 4096 ≤ path.utf8ByteSize then .error .nameTooLong
  else
    match path.toList with
    | [] => .error .notFound
    | '/' :: rest => follow files false (segments rest)
    | chars => follow files true (segments chars)

end Files

end Repricing
