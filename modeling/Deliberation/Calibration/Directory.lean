/-
# Calibration.Directory -- paths, and what stands in a directory

A path is a text with slashes between its parts.  Empty parts and single dots say nothing, and two dots
lead back to the directory above.  A name in a directory stands for a file or for another directory.
-/
import Deliberation.Text.Basic

set_option autoImplicit false

namespace Deliberation.Directory

open Deliberation.Text

/-- The parts of a path that say something. -/
def parts (path : String) : List String :=
  ((splitChars (· = '/') path.toList).map String.ofList).filter fun part => part ≠ "" ∧ part ≠ "."

/-- The slashes that a path begins with: one where there are more than two. -/
def root (path : String) : String :=
  match (path.toList.takeWhile (· = '/')).length with
  | 0 => ""
  | 2 => "//"
  | _ => "/"

/-- The path without what says nothing. -/
def plain (path : String) : String :=
  match root path ++ "/".intercalate (parts path) with
  | "" => "."
  | text => text

/-- A file in a directory. -/
def file (directory name : String) : String :=
  match plain directory with
  | "." => name
  | directory => if directory.endsWith "/" then directory ++ name else directory ++ "/" ++ name

/-- What stands under a name in a directory. -/
inductive Entry where
  | file (content : String)
  | directory
  deriving DecidableEq

end Deliberation.Directory
