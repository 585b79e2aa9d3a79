/-
  MarkupJsx.Storage.Basic — what the commands ask of the place where files live.

  Five questions and orders are enough: what a path names, the bytes of a file, new bytes
  for a file, one new directory, and the bytes of the standard input. Those that can fail
  say why. All else is built from these in the same way over any storage, be it the tree of
  `Storage.Tree` or the files of the machine.
-/

import MarkupJsx.Path

namespace MarkupJsx

/-- What stands in the way of an order on a path. -/
inductive FileError where
  | missing (path : Path)
  | alreadyExists (path : Path)
  | notDirectory (path : Path)
  | isDirectory (path : Path)
  | nameTooLong (path : Path)
  /-- No file can have such a name. -/
  | badName (cause : NameError)
  deriving DecidableEq, Repr

namespace FileError

def numbered (number what : String) (p : Path) : Text :=
  "[Errno ".toList ++ number.toList ++ "] ".toList ++ what.toList ++ ": ".toList ++ p.toWide.quoted

def message : FileError → Text
  | missing p => numbered "2" "No such file or directory" p
  | alreadyExists p => numbered "17" "File exists" p
  | notDirectory p => numbered "20" "Not a directory" p
  | isDirectory p => numbered "21" "Is a directory" p
  | nameTooLong p => numbered "36" "File name too long" p
  | badName e => e.message

/-- The error means that nothing is there, as opposed to a question that has no answer. -/
def isAbsence : FileError → Bool
  | missing _ | notDirectory _ | badName _ => true
  | alreadyExists _ | isDirectory _ | nameTooLong _ => false

end FileError

inductive FileKind where
  | file
  | directory
  deriving DecidableEq, Repr

class Storage (m : Type → Type) where
  /-- What a path names. -/
  kind : Path → m (Except FileError FileKind)
  read : Path → m (Except FileError Bytes)
  /-- Create a file, or replace its bytes. -/
  write : Path → Bytes → m (Except FileError Unit)
  /-- Create one directory, whose parent is there. -/
  makeDirectory : Path → m (Except FileError Unit)
  standardInput : m Bytes

end MarkupJsx
