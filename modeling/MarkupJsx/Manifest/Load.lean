/-
  MarkupJsx.Manifest.Load — manifests read from files.

  The paths of the jobs are seen from the directory in which the manifest lies. One that
  starts with a tilde begins at a home directory.
-/

import MarkupJsx.Manifest.Schema
import MarkupJsx.Storage.Text
import MarkupJsx.Yaml.Document

namespace MarkupJsx.Manifest

inductive LoadError where
  | read (cause : ReadError)
  | yaml (cause : Yaml.Error)
  | schema (issues : List Issue)
  /-- A path begins at a home that is not known. -/
  | unknownHome
  /-- A path begins at the home of a user whose name can be none. -/
  | badUser (cause : NameError)
  deriving DecidableEq, Repr

/-- What is known of an error beyond its kind. -/
def LoadError.message? : LoadError → Option Text
  | read e => some e.message
  | yaml (.scalar e) => some e.message
  | yaml _ | schema _ => none
  | unknownHome => some "Could not determine home directory.".toList
  | badUser e => some e.message

/-- The home directory of each user who has one; the empty name is the one who asks. -/
abbrev Homes := Bytes → Option Path

/-- A path that starts with a tilde begins at a home directory, that of the user named behind
    the tilde. -/
def expandHome (homes : Homes) (p : Path) : Except LoadError Path :=
  match p.user? with
  | none => .ok p
  | some user =>
    match FileName.ofText user with
    | .error e => .error (.badUser e)
    | .ok name =>
      match homes name with
      | none => .error .unknownHome
      | some home => .ok (p.fromHome home)

def resolvePath (homes : Homes) (base p : Path) : Except LoadError Path := (expandHome homes p).map base.join

def Job.resolve (homes : Homes) (base : Path) (j : Job) : Except LoadError Job := do
  let input ← resolvePath homes base j.input
  let output ← resolvePath homes base j.output
  return { j with input := input, output := output }

/-- The jobs that the text of a manifest lists, paths as written. -/
def jobsOfText (s : Text) : Except LoadError (List Job) := do
  let v ← (Yaml.load depth s).mapError .yaml
  (jobsOfValue v).mapError .schema

/-- The jobs that a text lists, seen from a directory. -/
def jobsIn (homes : Homes) (base : Path) (s : Text) : Except LoadError (List Job) := do
  (← jobsOfText s).mapM (Job.resolve homes base)

variable {m : Type → Type} [Monad m] [Storage m]

/-- The jobs of the manifest at a path. -/
def load (homes : Homes) (p : Path) : m (Except LoadError (List Job)) := do
  match ← Storage.readText p with
  | .error e => return .error (.read e)
  | .ok s => return jobsIn homes p.parent s

end MarkupJsx.Manifest
