/-
  MarkupJsx.Main — the program on the files of the machine.

  The orders on storage are carried out on real files, the two streams are written when the
  run is over, and its ending becomes the status of the process: zero, the status that was
  asked for, or one with a message when the run was refused or failed.
-/

import MarkupJsx.Command.Run

namespace MarkupJsx

/-- What an error of the machine says of a path. The numbers are those of the system. -/
def FileError.ofMachine? (p : Path) : IO.Error → Option FileError
  | .noFileOrDirectory .. => some (.missing p)
  | .alreadyExists .. => some (.alreadyExists p)
  | .inappropriateType _ 20 _ => some (.notDirectory p)
  | .inappropriateType _ 21 _ => some (.isDirectory p)
  | .invalidArgument _ 36 _ => some (.nameTooLong p)
  | _ => none

/-- The name by which the machine is asked for a path. It must be a text: a file whose bytes
    are none cannot be asked for. -/
def machineName (p : Path) : Except FileError String :=
  match p.names with
  | .error e => .error (.badName e)
  | .ok _ =>
    match p.toWide.toText? with
    | some t => .ok (String.ofList t)
    | none => .error (.missing p)

/-- Carry out an order on a path; what storage has no word for stays an error of the machine. -/
def onMachine {α : Type} (p : Path) (act : String → IO α) : IO (Except FileError α) := do
  match machineName p with
  | .error e => return .error e
  | .ok name =>
    match ← (act name).toBaseIO with
    | .ok a => return .ok a
    | .error e =>
      match FileError.ofMachine? p e with
      | some cause => return .error cause
      | none => throw e

def kindOnMachine (name : String) : IO FileKind := do
  match (← (← IO.FS.realPath name).metadata).type with
  | .dir => return .directory
  | _ => return .file

def bytesOfArray (a : ByteArray) : Bytes := a.toList

instance : Storage IO where
  kind p := onMachine p kindOnMachine
  read p := onMachine p fun name => return bytesOfArray (← IO.FS.readBinFile name)
  write p content := onMachine p fun name => IO.FS.writeBinFile name ⟨content.toArray⟩
  makeDirectory p := onMachine p fun name => IO.FS.createDir name
  standardInput := return bytesOfArray (← (← IO.getStdin).readBinToEnd)

/-! ## Homes -/

/-- The line of an account: its user comes first, its home sixth. -/
def homeOfAccount (line : Text) : Option (Bytes × Path) :=
  match Text.split ':' line with
  | [user, _, _, _, _, home, _] => some (Text.Utf8.encode user, Path.ofText home)
  | _ => none

/-- Homes, from the home of the one who asks and the lines of the accounts. -/
def homesOf (own : Option Text) (accounts : Text) : Manifest.Homes := fun user =>
  if user.isEmpty then own.map Path.ofText else ((Text.split '\n' accounts).filterMap homeOfAccount).lookup user

def machineHomes : IO Manifest.Homes := do
  let own ← IO.getEnv "HOME"
  let accounts ← (IO.FS.readFile "/etc/passwd").toBaseIO
  return homesOf (own.map String.toList) (accounts.toOption.getD "").toList

/-! ## Endings -/

def tellIssues (issues : List Manifest.Issue) : Text := '\n' :: issues.flatMap Manifest.Issue.line

/-- What is told of an ending, on a line of its own. -/
def Command.Ending.note : Command.Ending → Text
  | .done | .status _ => []
  | .refused r => r.message tellIssues ++ ['\n']
  | .failed f => (f.message?.getD "The manifest cannot be read.".toList) ++ ['\n']

def Command.Ending.toStatus : Command.Ending → UInt32
  | .done => 0
  | .status n => n.toUInt32
  | .refused _ | .failed _ => 1

end MarkupJsx

open MarkupJsx

def main (args : List String) : IO UInt32 := do
  let o : Command.Outcome ← Command.run (← machineHomes) (args.map String.toList)
  (← IO.getStdout).putStr (String.ofList o.stdout)
  (← IO.getStderr).putStr (String.ofList (o.stderr ++ o.ending.note))
  return o.ending.toStatus
