/-
  MarkupJsx.Command.Run — what the commands do to the files.

  `convert` reads one document and writes its JSX to the standard output or to a file. It
  looks at the name of the component before the markup is read, and at the output file only
  after it is rendered: a file that exists is not overwritten without force.

  `batch` runs the jobs of a manifest in order. A job whose input is missing, whose output
  exists, or whose input is not text or not markup is reported with its number, and the
  others go on; any other failure ends the batch, and what was to be reported is lost.
-/

import MarkupJsx.Command.Usage
import MarkupJsx.Conversion
import MarkupJsx.Manifest.Load

namespace MarkupJsx.Command

open Manifest (Homes Issue Job LoadError)

/-! ## Outcomes -/

/-- A failure that no command expects. -/
inductive Failure where
  | read (cause : ReadError)
  | file (cause : FileError)
  | conversion (cause : ConversionError)
  | load (cause : LoadError)
  /-- A path was asked for and none given. -/
  | noPath
  deriving DecidableEq, Repr

def Failure.message? : Failure → Option Text
  | read e => some e.message
  | file e => some e.message
  | conversion e => some e.message
  | load e => e.message?
  | noPath => some "expected str, bytes or os.PathLike object, not list".toList

/-- Why a command gives up, with a message. -/
inductive Refusal where
  | inputNotFound (path : Path)
  | undecodable (input : Text) (cause : Text.Utf8.DecodeError)
  | componentName (cause : Component.InvalidName)
  | outputExists (path : Path)
  | manifestNotFound (path : Path)
  | invalidManifest (path : Path) (issues : List Issue)
  deriving DecidableEq, Repr

/-- The message of a refusal, given a way to tell of the faults of a manifest. -/
def Refusal.message (tell : List Issue → Text) : Refusal → Text
  | inputNotFound p => (ReadError.notFound p).message
  | undecodable input e => "Input HTML is not valid UTF-8: ".toList ++ input ++ ": ".toList ++ e.message
  | componentName e => e.message
  | outputExists p => "Output file already exists: ".toList ++ p.toText ++ ". Use --force to overwrite.".toList
  | manifestNotFound p => "Manifest not found: ".toList ++ p.toText
  | invalidManifest p issues => "Invalid manifest ".toList ++ p.toText ++ ": ".toList ++ tell issues

inductive Ending where
  | done
  | status (n : Nat)
  | refused (cause : Refusal)
  | failed (cause : Failure)
  deriving DecidableEq, Repr

/-- What a run writes to the two streams, and how it ends. -/
structure Outcome where
  stdout : Text
  stderr : Text
  ending : Ending
  deriving DecidableEq, Repr

namespace Outcome

def printed (t : Text) : Outcome := ⟨t, [], .done⟩
def refused (r : Refusal) : Outcome := ⟨[], [], .refused r⟩
def failed (f : Failure) : Outcome := ⟨[], [], .failed f⟩

end Outcome

variable {m : Type → Type} [Monad m] [Storage m]

/-! ## One file -/

/-- Convert a file to a file. -/
def convertFile (input output : Path) (component : Option Text) : m (Except Failure Unit) := do
  match ← Storage.readMarkup (.ofPath input) with
  | .error e => return .error (.read e)
  | .ok markup =>
    match MarkupJsx.output markup component with
    | .error e => return .error (.conversion e)
    | .ok t => return (← Storage.writeText output t).mapError .file

/-- The name of the component to render, if one is asked for. -/
def componentName (requested : Option Text) (source : Text) : Except Component.InvalidName (Option Text) :=
  match requested with
  | none => .ok none
  | some name =>
    (Component.checkName (if name.isEmpty then Component.nameOfPath (Path.ofText source) else name)).map some

/-- Write a rendered text where it is to go. -/
def deliver (output : Option (Option Text)) (force : Bool) (t : Text) : m Outcome := do
  match output with
  | none => return .printed t
  | some none => return .failed .noPath
  | some (some target) =>
    let p := Path.ofText target
    match ← Storage.isThere p with
    | .error e => return .failed (.file e)
    | .ok there =>
      if there && !force then return .refused (.outputExists p)
      else match ← Storage.writeText p t with
        | .error e => return .failed (.file e)
        | .ok () => return .printed ("Wrote ".toList ++ p.toText ++ ['\n'])

def runConvert (o : ConvertOptions) : m Outcome := do
  match ← Storage.readMarkup (.ofText o.input) with
  | .error (.notFound p) => return .refused (.inputNotFound p)
  | .error (.undecodable e) => return .refused (.undecodable o.input e)
  | .error e => return .failed (.read e)
  | .ok markup =>
    match componentName o.component o.input with
    | .error e => return .refused (.componentName e)
    | .ok component =>
      match MarkupJsx.output markup component with
      | .error e => return .failed (.conversion e)
      | .ok t => deliver o.output o.force t

/-! ## Batches -/

/-- A fault of one job, which does not stop the batch. -/
inductive JobFault where
  | inputNotFound (path : Path)
  | outputExists (path : Path)
  | undecodable (cause : Text.Utf8.DecodeError)
  | rejected (cause : Markup.MarkupError)
  deriving DecidableEq, Repr

def JobFault.message : JobFault → Text
  | inputNotFound p => "input not found: ".toList ++ p.toText
  | outputExists p => "output already exists: ".toList ++ p.toText ++ ". Use --force to overwrite.".toList
  | undecodable e => e.message
  | rejected e => e.message

/-- The fault that a failure is reported as, if the batch goes on after it. -/
def JobFault.ofFailure? : Failure → Option JobFault
  | .read (.undecodable e) => some (.undecodable e)
  | .conversion (.markup e) => if e.isRejection then some (.rejected e) else none
  | _ => none

/-- Run a job: the fault to report, if any. -/
def runJob (force : Bool) (j : Job) : m (Except Failure (Option JobFault)) := do
  match ← Storage.isThere j.input with
  | .error e => return .error (.file e)
  | .ok false => return .ok (some (.inputNotFound j.input))
  | .ok true =>
    match ← Storage.isThere j.output with
    | .error e => return .error (.file e)
    | .ok there =>
      if there && !force then return .ok (some (.outputExists j.output))
      else match ← convertFile j.input j.output j.component with
        | .ok () => return .ok none
        | .error f =>
          match JobFault.ofFailure? f with
          | some fault => return .ok (some fault)
          | none => return .error f

/-- Run jobs from a number on: the faults with their numbers. -/
def runJobs (force : Bool) : Nat → List Job → m (Except Failure (List (Nat × JobFault)))
  | _, [] => return .ok []
  | n, j :: rest => do
    match ← runJob force j with
    | .error f => return .error f
    | .ok fault =>
      return (← runJobs force (n + 1) rest).map fun faults =>
        match fault with
        | none => faults
        | some x => (n, x) :: faults

/-- The line that reports a fault. -/
def reportLine (manifest : Path) (n : Nat) (fault : JobFault) : Text :=
  manifest.toText ++ " job ".toList ++ Text.ofNat n ++ ": ".toList ++ fault.message ++ ['\n']

/-- The outcome of the jobs of a manifest. -/
def report (manifest : Path) (jobs : List Job) : Except Failure (List (Nat × JobFault)) → Outcome
  | .error f => .failed f
  | .ok [] =>
    .printed
      ("Converted ".toList ++ Text.ofNat jobs.length ++ " file(s) from ".toList ++ manifest.name.shown ++ ".\n".toList)
  | .ok faults => ⟨[], faults.flatMap fun (n, x) => reportLine manifest n x, .status 1⟩

def runBatch (homes : Homes) (o : BatchOptions) : m Outcome := do
  match o.manifest with
  | none => return .failed .noPath
  | some source =>
    let p := Path.ofText source
    match ← Storage.isThere p with
    | .error e => return .failed (.file e)
    | .ok false => return .refused (.manifestNotFound p)
    | .ok true =>
      match ← Manifest.load homes p with
      | .error (.schema issues) => return .refused (.invalidManifest p issues)
      | .error e => return .failed (.load e)
      | .ok jobs => return report p jobs (← runJobs o.force 1 jobs)

/-! ## The program -/

def Halt.outcome (h : Halt) : Outcome :=
  match h.stop with
  | .help => ⟨h.level.help, [], .status 0⟩
  | .error e => ⟨[], h.level.usage ++ h.level.name ++ ": error: ".toList ++ e.message ++ ['\n'], .status 2⟩

/-- Run the program on its arguments. -/
def run (homes : Homes) (args : List Text) : m Outcome := do
  match Order.ofTexts args with
  | .error h => return h.outcome
  | .ok .overview => return .printed Level.program.help
  | .ok (.convert o) => runConvert o
  | .ok (.batch o) => runBatch homes o

end MarkupJsx.Command
