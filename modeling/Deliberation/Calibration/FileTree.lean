/-
# Calibration.FileTree -- files below a working directory

A tree of files is known by the paths of its files; a directory is there as far as some file stands below
it.  `FileTree.find?` follows a path one part after the other: every part has to be there, and only a
directory leads on, be it to a name in it or back to the one above.  `FileTree.makeDirectory` follows a
path in the same way but makes the directories that are missing; only a file in the way stops it.

Above the working directory there are directories, of which nothing else is known.
-/
import Deliberation.Calibration.Directory
import Deliberation.Distinct
import Deliberation.Fault

set_option autoImplicit false

namespace Deliberation

open Directory

/-- Files by the parts of their paths. -/
structure FileTree where
  files : List (List String × String)

/-- Where a path leads. -/
inductive Place where
  /-- The working directory or something below it. -/
  | inside (parts : List String)
  | outside
  deriving DecidableEq

/-- Where a path starts: a slash at the front leads out of the working directory. -/
def Place.start (path : String) : Place := if (root path).isEmpty then .inside [] else .outside

/-- The directory above. -/
def Place.above : Place → Place
  | inside [] => outside
  | inside parts => inside parts.dropLast
  | outside => outside

/-- The place of a name in a directory. -/
def Place.within (place : Place) (name : String) : Place :=
  match place with
  | inside parts => inside (parts ++ [name])
  | outside => outside

/-- The place that a path leads to once all that it names is there. -/
def Place.ofPath (path : String) : Place :=
  (parts path).foldl (fun place part => if part = ".." then place.above else place.within part)
    (Place.start path)

namespace FileTree

/-- What is left of a path below another one. -/
def below? : List String → List String → Option (List String)
  | [], rest => some rest
  | _ :: _, [] => none
  | part :: above, other :: rest => if part = other then below? above rest else none

/-- The files below a place, by the rest of their paths. -/
def below (t : FileTree) (parts : List String) : List (List String × String) :=
  t.files.filterMap fun (path, content) => (below? parts path).map fun rest => (rest, content)

/-- What stands at a place.  The working directory is always there. -/
def entry? (t : FileTree) (parts : List String) : Option Entry :=
  match parts, t.below parts with
  | [], _ => some .directory
  | _, [] => none
  | _, ([], content) :: _ => some (.file content)
  | _, _ => some .directory

/-- The place that a part leads to, where there is something. -/
def step? (t : FileTree) (place : Place) (part : String) : Option Place :=
  match place with
  | .outside => if part = ".." then some .outside else none
  | .inside parts =>
    if t.entry? parts ≠ some .directory then none
    else if part = ".." then some place.above
    else if (t.entry? (parts ++ [part])).isSome then some (place.within part)
    else none

/-- The place that a path leads to, where there is something. -/
def find? (t : FileTree) (path : String) : Option Place :=
  (parts path).foldlM t.step? (Place.start path)

/-- What a first part of a path leads to: a file where nothing follows, else a directory. -/
def Entry.ofPath : List String × String → Option (String × Entry)
  | ([], _) => none
  | ([name], content) => some (name, .file content)
  | (name :: _ :: _, _) => some (name, .directory)

/-- What stands directly at a path, by name; none where nothing is there.  A file holds nothing. -/
def entriesIn? (t : FileTree) (path : String) : Option (List (String × Entry)) :=
  match t.find? path with
  | none => none
  | some .outside => some []
  | some (.inside parts) => some (distinct ((t.below parts).filterMap Entry.ofPath))

/-- The place of a directory that is made below a place, with the directories above it that are missing.
`made` tells whether one was missing already.  A file is in the way as the thing to be made itself, or
as a directory that it is not. -/
def makeBelow (t : FileTree) (path : String) (made : Bool) :
    Place → List String → Except Fault Place
  | place, [] => .ok place
  | .outside, _ :: rest => t.makeBelow path made .outside rest
  | .inside above, part :: rest =>
    if part = ".." then t.makeBelow path made (Place.inside above).above rest
    else
      match t.entry? (above ++ [part]) with
      | some .directory => t.makeBelow path made (.inside (above ++ [part])) rest
      | none => t.makeBelow path true (.inside (above ++ [part])) rest
      | some (.file _) =>
        .error (if made || rest.isEmpty then .alreadyThere path else .notDirectory path)

/-- The place of the directory at a path, made where it is missing. -/
def makeDirectory (t : FileTree) (path : String) : Except Fault Place :=
  t.makeBelow path false (Place.start path) (parts path)

/-- A file can be written in a directory: no directory has its name. -/
def checkFile (t : FileTree) (directory : Place) (name : String) : Except Fault Unit :=
  match directory with
  | .outside => .ok ()
  | .inside parts =>
    if t.entry? (parts ++ [name]) = some .directory then .error (.isDirectory name) else .ok ()

/-- Files can be written in the directory at a path, which is made where it is missing. -/
def checkFiles (t : FileTree) (directory : String) (names : List String) : Except Fault Unit := do
  let place ← t.makeDirectory directory
  names.forM (t.checkFile place)

end FileTree

end Deliberation
