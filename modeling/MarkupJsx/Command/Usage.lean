/-
  MarkupJsx.Command.Usage — the commands, their arguments and their help.
-/

import MarkupJsx.Command.Arguments

namespace MarkupJsx.Command

/-- Whose arguments are read: the program's own, or those of one of its commands. -/
inductive Level where
  | program
  | convert
  | batch
  deriving DecidableEq, Repr

namespace Level

def name : Level → Text
  | program => "html2jsx".toList
  | convert => "html2jsx convert".toList
  | batch => "html2jsx batch".toList

def usage : Level → Text
  | program => "usage: html2jsx [-h] \x7bconvert,batch\x7d ...\n".toList
  | convert => "usage: html2jsx convert [-h] [--out OUT] [--component [NAME]] [--force] input\n".toList
  | batch => "usage: html2jsx batch [-h] --manifest MANIFEST [--force]\n".toList

def details : Level → List String
  | program =>
    ["Convert static HTML markup into JSX.",
     "",
     "positional arguments:",
     "  \x7bconvert,batch\x7d",
     "    convert        Convert one HTML document.",
     "    batch          Run the conversions listed in a manifest.",
     "",
     "options:",
     "  -h, --help       show this help message and exit"]
  | convert =>
    ["Convert an HTML file (or stdin) to JSX.",
     "",
     "positional arguments:",
     "  input               HTML file to convert, or '-' to read from stdin.",
     "",
     "options:",
     "  -h, --help          show this help message and exit",
     "  --out OUT           Write the JSX to this file instead of stdout.",
     "  --component [NAME]  Wrap the JSX in a component module. The name defaults to",
     "                      one derived from the input file.",
     "  --force             Overwrite the output file if it exists."]
  | batch =>
    ["Convert every job listed in a YAML manifest.",
     "",
     "options:",
     "  -h, --help           show this help message and exit",
     "  --manifest MANIFEST  Path to the YAML manifest listing conversion jobs.",
     "  --force              Overwrite output files that already exist."]

def help (l : Level) : Text := l.usage ++ '\n' :: l.details.flatMap fun line => line.toList ++ ['\n']

end Level

def outFlag : Flag := ⟨["--out".toList], .one⟩
def componentFlag : Flag := ⟨["--component".toList], .optional⟩
def forceFlag : Flag := ⟨["--force".toList], .none⟩
def manifestFlag : Flag := ⟨["--manifest".toList], .one⟩

def Level.grammar : Level → Grammar
  | .program => ⟨[helpFlag], .all "command".toList, []⟩
  | .convert => ⟨[helpFlag, outFlag, componentFlag, forceFlag], .one "input".toList, []⟩
  | .batch => ⟨[helpFlag, manifestFlag, forceFlag], .none, [manifestFlag]⟩

/-- What `convert` is to do. The output is given with a path, or without one, which is no
    use; an empty name of a component asks for one made from the input. -/
structure ConvertOptions where
  input : Text
  output : Option (Option Text)
  component : Option Text
  force : Bool
  deriving DecidableEq, Repr

/-- What `batch` is to do. -/
structure BatchOptions where
  manifest : Option Text
  force : Bool
  deriving DecidableEq, Repr

inductive Order where
  | convert (o : ConvertOptions)
  | batch (o : BatchOptions)
  /-- No command: the help of the program. -/
  | overview
  deriving DecidableEq, Repr

/-- Reading arguments ends early, at a level. -/
structure Halt where
  level : Level
  stop : Stop
  deriving DecidableEq, Repr

def ConvertOptions.ofGiven (x : Given) : ConvertOptions :=
  ⟨(x.operands.getD []).headD [], x.value? outFlag, (x.value? componentFlag).map (·.getD []), x.has forceFlag⟩

def BatchOptions.ofGiven (x : Given) : BatchOptions := ⟨(x.value? manifestFlag).join, x.has forceFlag⟩

def readLevel (l : Level) (args : List Text) : Except Halt Given := (Given.ofTexts l.grammar args).mapError (⟨l, ·⟩)

/-- Arguments that nothing has taken are refused in the name of the program. -/
def refuseLeftOver (args : List Text) : Except Halt Unit :=
  if args.isEmpty then .ok () else .error ⟨.program, .error (.leftOver args)⟩

def commandNames : List (Text × Level) := [("convert".toList, .convert), ("batch".toList, .batch)]

/-- What a list of arguments orders. -/
def Order.ofTexts (args : List Text) : Except Halt Order := do
  let x ← readLevel .program args
  match x.operands with
  | none | some [] =>
    refuseLeftOver x.leftOver
    return .overview
  | some (name :: more) =>
    match commandNames.lookup name with
    | none => throw ⟨.program, .error (.unknownCommand "command".toList name (commandNames.map (·.1)))⟩
    | some level =>
      let y ← readLevel level more
      refuseLeftOver (x.leftOver ++ y.leftOver)
      return if level = .batch then .batch (.ofGiven y) else .convert (.ofGiven y)

end MarkupJsx.Command
