/-
  MarkupJsx.Storage.Text — texts read from files and written to them.

  Reading wants UTF-8 and unifies the ends of lines; writing keeps every character. A file
  is written into its directory, which is created when it is not there. The source `-` is
  the standard input.
-/

import MarkupJsx.Storage.Basic
import MarkupJsx.Text.Newline

namespace MarkupJsx

inductive ReadError where
  /-- The path of a source names nothing. -/
  | notFound (path : Path)
  | file (cause : FileError)
  | undecodable (cause : Text.Utf8.DecodeError)
  deriving DecidableEq, Repr

/-- How undecodable bytes are reported. -/
def Text.Utf8.Reason.message : Text.Utf8.Reason → Text
  | invalidStart => "invalid start byte".toList
  | invalidContinuation => "invalid continuation byte".toList
  | unexpectedEnd => "unexpected end of data".toList

def Text.Utf8.DecodeError.message (e : Text.Utf8.DecodeError) : Text :=
  "'utf-8' codec can't decode ".toList ++
    (if e.length = 1 then "byte 0x".toList ++ Text.hex 2 e.first.toNat ++ " in position ".toList ++ Text.ofNat e.position
     else "bytes in position ".toList ++ Text.ofNat e.position ++ ['-'] ++ Text.ofNat (e.position + e.length - 1)) ++
    ": ".toList ++ e.reason.message

def ReadError.message : ReadError → Text
  | notFound p => "Input HTML not found: ".toList ++ p.toText
  | file e => e.message
  | undecodable e => e.message

/-- Where markup comes from. -/
inductive Source where
  | standardInput
  | path (p : Path)
  deriving DecidableEq, Repr

namespace Source

/-- The text that means the standard input. -/
def marker : Text := ['-']

def ofText (s : Text) : Source := if s = marker then standardInput else path (Path.ofText s)

/-- A path means the standard input when it is written so. -/
def ofPath (p : Path) : Source := if p.toWide = .ofText marker then standardInput else path p

end Source

namespace Storage

variable {m : Type → Type} [Monad m] [Storage m]

/-! ## Reading -/

/-- Something is there. -/
def isThere (p : Path) : m (Except FileError Bool) := do
  match ← kind p with
  | .ok _ => return .ok true
  | .error e => return if e.isAbsence then .ok false else .error e

def textOf (content : Bytes) : Except ReadError Text :=
  ((Text.Utf8.decode content).map Text.unifyNewlines).mapError .undecodable

def readText (p : Path) : m (Except ReadError Text) := do
  match ← read p with
  | .error e => return .error (.file e)
  | .ok content => return textOf content

def readMarkup (source : Source) : m (Except ReadError Text) := do
  match source with
  | .standardInput => return textOf (← standardInput)
  | .path p =>
    match ← isThere p with
    | .error e => return .error (.file e)
    | .ok false => return .error (.notFound p)
    | .ok true => readText p

/-! ## Writing -/

def isDirectory (p : Path) : m Bool := do
  match ← kind p with
  | .ok .directory => return true
  | _ => return false

/-- Create one directory; one that is there already will do. -/
def ensureDirectory (p : Path) : m (Except FileError Unit) := do
  match ← makeDirectory p with
  | .ok () => return .ok ()
  | .error (.missing q) => return .error (.missing q)
  | .error e => return if ← isDirectory p then .ok () else .error e

/-- Create a directory, and first the ones it lies in where they are missing. -/
def makeDirectories (p : Path) : m (Except FileError Unit) := do
  match ← ensureDirectory p with
  | .error (.missing q) =>
    if h : p.parts = [] then return .error (.missing q)
    else
      have : p.parent.parts.length < p.parts.length := by
        have := List.length_pos_iff.2 h
        simp [Path.parent]; omega
      match ← makeDirectories p.parent with
      | .error e => return .error e
      | .ok () => ensureDirectory p
  | r => return r
termination_by p.parts.length

/-- The path names something in the current directory, or that directory itself. -/
def isLocal (p : Path) : Bool := p.parent = ⟨.relative, []⟩

def writeText (p : Path) (content : Text) : m (Except FileError Unit) := do
  match ← if isLocal p then pure (.ok ()) else makeDirectories p.parent with
  | .error e => return .error e
  | .ok () => write p (Text.Utf8.encode content)

end Storage

end MarkupJsx
