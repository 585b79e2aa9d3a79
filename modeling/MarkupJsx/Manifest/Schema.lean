/-
  MarkupJsx.Manifest.Schema — which values are manifests, and what is wrong with others.

  A manifest is a mapping with at most the key `jobs`, a list. A job is a mapping with an
  input and an output path and perhaps the name of a component, an identifier that starts
  with a capital; a name that is null is none. Nothing else may stand in either.

  All faults are reported, not the first one only: for each mapping those of its known
  fields in their order, then those of its other keys in the order of the mapping. Each
  says where it is, by the keys and positions that lead there. But a key with half of a
  pair in it is the only fault that its mapping is reported for.
-/

import MarkupJsx.Component
import MarkupJsx.Yaml.Value

namespace MarkupJsx.Manifest

open Yaml (Atom Value)

structure Job where
  input : Path
  output : Path
  component : Option Text
  deriving DecidableEq, Repr

inductive Step where
  | key (name : Text)
  | index (n : Int)
  deriving DecidableEq, Repr

inductive Fault where
  | notManifest
  | notJob
  | notList
  | missing
  | notPath
  | notText
  /-- A text with half of a pair in it, or bytes for one that are not UTF-8. -/
  | notUnicode
  | notIdentifier
  | unknownKey
  | notTextKey
  deriving DecidableEq, Repr

structure Issue where
  place : List Step
  fault : Fault
  deriving DecidableEq, Repr

namespace Fault

/-- The short name of a fault. -/
def code : Fault → String
  | notManifest | notJob => "model_type"
  | notList => "list_type"
  | missing => "missing"
  | notPath => "path_type"
  | notText => "string_type"
  | notUnicode => "string_unicode"
  | notIdentifier => "string_pattern_mismatch"
  | unknownKey => "extra_forbidden"
  | notTextKey => "invalid_key"

def message : Fault → String
  | notManifest => "Input should be a valid dictionary or instance of ConversionManifest"
  | notJob => "Input should be a valid dictionary or instance of ConversionJob"
  | notList => "Input should be a valid list"
  | missing => "Field required"
  | notPath => "Input is not a valid path for <class 'pathlib.Path'>"
  | notText => "Input should be a valid string"
  | notUnicode => "Input should be a valid string, unable to parse raw data as a unicode string"
  | notIdentifier => "String should match pattern '^[A-Z][A-Za-z0-9_]*$'"
  | unknownKey => "Extra inputs are not permitted"
  | notTextKey => "Keys should be strings"

end Fault

def Step.toText : Step → Text
  | key name => name
  | index n => (toString n).toList

/-- An issue on a line of its own. -/
def Issue.line (i : Issue) : Text :=
  Text.join ['.'] (i.place.map Step.toText) ++ ": ".toList ++ i.fault.message.toList ++ ['\n']

/-! ## Keys -/

/-- How a byte is shown between quotes. -/
def byteText (quote : Char) (b : UInt8) : Text :=
  let c := Char.ofNat b.toNat
  if b.toNat < 0x80 then Text.escapeFor quote c else '\\' :: 'x' :: Text.hex 2 b.toNat

def bytesText (b : Bytes) : Text :=
  let quote := Text.quoteFor (b.map fun x => Char.ofNat x.toNat)
  'b' :: quote :: b.flatMap (byteText quote) ++ [quote]

/-- The number has a signed word of 64 bits. -/
def inWord (n : Int) : Bool := -9223372036854775808 ≤ n && n ≤ 9223372036854775807

/-- A whole number as a step: as such when it has 64 bits, else by its text, unless that is too
    long. -/
def Step.ofInt (n : Int) : Step :=
  if inWord n then .index n
  else if (Text.ofNat n.natAbs).length > Markup.digitLimit then .key "<unprintable int object>".toList
  else .key (toString n).toList

/-- A key as a step. -/
def Step.ofKey : Atom → Step
  | .text t => .key t.shown
  | .bool b => .index (if b then 1 else 0)
  | .int n => Step.ofInt n
  | .null => .key "None".toList
  | .float x => .key x.toText
  | .nan _ => .key Number.Binary64.nan.toText
  | .bytes b => .key (bytesText b)
  | .date d => .key d.toText
  | .moment m => .key m.toText

def fieldOf (name : Text) (entries : List (Atom × Value)) : Option Value := entries.lookup (.text (.ofText name))

/-- A key is a text with half of a pair in it. -/
def hasBrokenKey (entries : List (Atom × Value)) : Bool :=
  entries.any fun (a, _) =>
    match a with
    | .text t => t.toText?.isNone
    | _ => false

/-- The faults of the keys that are none of the known ones. -/
def otherKeys (known : List Text) (place : List Step) (entries : List (Atom × Value)) : List Issue :=
  entries.filterMap fun (a, _) =>
    match a with
    | .text t => if known.any (t = .ofText ·) then none else some ⟨place ++ [Step.ofKey a], .unknownKey⟩
    | _ => some ⟨place ++ [Step.ofKey a], .notTextKey⟩

/-! ## Jobs -/

def inputKey : Text := "input".toList
def outputKey : Text := "output".toList
def componentKey : Text := "component".toList
def jobsKey : Text := "jobs".toList

/-- A path that must be there. -/
def pathField (name : Text) (place : List Step) (entries : List (Atom × Value)) : Except Issue Path :=
  match fieldOf name entries with
  | none => .error ⟨place ++ [.key name], .missing⟩
  | some (.atom (.text t)) => .ok (Path.ofWide t)
  | some _ => .error ⟨place ++ [.key name], .notPath⟩

def checkIdentifier (place : List Step) (t : Text) : Except Issue (Option Text) :=
  if Component.isIdentifier t then .ok (some t) else .error ⟨place, .notIdentifier⟩

def componentField (place : List Step) (entries : List (Atom × Value)) : Except Issue (Option Text) :=
  let here := place ++ [.key componentKey]
  match fieldOf componentKey entries with
  | none | some (.atom .null) => .ok none
  | some (.atom (.text w)) =>
    match w.toText? with
    | some t => checkIdentifier here t
    | none => .error ⟨here, .notUnicode⟩
  | some (.atom (.bytes b)) =>
    match Text.Utf8.decode b with
    | .ok t => checkIdentifier here t
    | .error _ => .error ⟨here, .notUnicode⟩
  | some _ => .error ⟨here, .notText⟩

def issuesOf {α : Type} : Except Issue α → List Issue
  | .ok _ => []
  | .error i => [i]

def Job.ofEntries (place : List Step) (entries : List (Atom × Value)) : Except (List Issue) Job :=
  let input := pathField inputKey place entries
  let output := pathField outputKey place entries
  let component := componentField place entries
  let others := otherKeys [inputKey, outputKey, componentKey] place entries
  match input, output, component, others with
  | .ok i, .ok o, .ok c, [] => .ok ⟨i, o, c⟩
  | _, _, _, _ => .error (issuesOf input ++ issuesOf output ++ issuesOf component ++ others)

def Job.ofValue (place : List Step) : Value → Except (List Issue) Job
  | .map entries => if hasBrokenKey entries then .error [⟨place, .notUnicode⟩] else Job.ofEntries place entries
  | _ => .error [⟨place, .notJob⟩]

/-! ## Manifests -/

/-- All results, or all issues. -/
def collect {α : Type} : List (Except (List Issue) α) → Except (List Issue) (List α)
  | [] => .ok []
  | r :: rest =>
    match r, collect rest with
    | .ok a, .ok as => .ok (a :: as)
    | .ok _, .error is => .error is
    | .error is, .ok _ => .error is
    | .error is, .error js => .error (is ++ js)

def jobList (items : List Value) : Except (List Issue) (List Job) :=
  collect (items.zipIdx.map fun (v, n) => Job.ofValue [.key jobsKey, .index n] v)

def jobsField (entries : List (Atom × Value)) : Except (List Issue) (List Job) :=
  match fieldOf jobsKey entries with
  | none => .ok []
  | some (.list items) => jobList items
  | some (.set keys) => jobList (keys.map .atom)
  | some _ => .error [⟨[.key jobsKey], .notList⟩]

def jobsOfEntries (entries : List (Atom × Value)) : Except (List Issue) (List Job) :=
  match jobsField entries, otherKeys [jobsKey] [] entries with
  | .ok jobs, [] => .ok jobs
  | .ok _, others => .error others
  | .error is, others => .error (is ++ others)

/-- The jobs of a manifest. A document that counts as nothing has none. -/
def jobsOfValue (v : Value) : Except (List Issue) (List Job) :=
  if v.isNothing then .ok []
  else match v with
    | .map entries => if hasBrokenKey entries then .error [⟨[], .notUnicode⟩] else jobsOfEntries entries
    | _ => .error [⟨[], .notManifest⟩]

/-- How deep the schema looks: the manifest, its jobs, a job, a field. -/
def depth : Nat := 4

end MarkupJsx.Manifest
