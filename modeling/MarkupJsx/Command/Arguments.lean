/-
  MarkupJsx.Command.Arguments — the arguments of a command, told apart.

  An argument that starts with a hyphen and is more than it names a flag: a whole name, a
  beginning that only one long name has, or a one-letter name with its value behind it. A
  long name takes a value after an equals sign. Negative numbers and arguments with a space
  are no flags, and behind the first `--` there are none.

  Flags and operands may stand in any order. What no flag and no operand takes is left
  over, and reported by the caller. Asking for help ends the reading at once.
-/

import MarkupJsx.Text.Decimal
import MarkupJsx.Text.Quoted

namespace MarkupJsx.Command

/-- How many values a flag takes. -/
inductive Arity where
  | none
  | optional
  | one
  deriving DecidableEq, Repr

structure Flag where
  /-- A letter behind one hyphen, or a word behind two. -/
  names : List Text
  arity : Arity
  deriving DecidableEq, Repr

inductive Operands where
  | none
  /-- One operand, which must be given. -/
  | one (title : Text)
  /-- An operand and all that follows it, flags or not. -/
  | all (title : Text)
  deriving DecidableEq, Repr

/-- What a command accepts. -/
structure Grammar where
  flags : List Flag
  operands : Operands
  /-- Flags that must be given. -/
  required : List Flag

def helpFlag : Flag := ⟨["-h".toList, "--help".toList], .none⟩

inductive ArgumentError where
  | ambiguous (argument : Text) (names : List Text)
  | unusedValue (title value : Text)
  | missingValue (title : Text)
  | required (titles : List Text)
  | unknownCommand (title name : Text) (known : List Text)
  | leftOver (arguments : List Text)
  deriving DecidableEq, Repr

/-- Why reading arguments ends early. -/
inductive Stop where
  | help
  | error (cause : ArgumentError)
  deriving DecidableEq, Repr

def Flag.title (f : Flag) : Text := Text.join ['/'] f.names

namespace ArgumentError

def onArgument (title : Text) (what : Text) : Text := "argument ".toList ++ title ++ ": ".toList ++ what

def message : ArgumentError → Text
  | ambiguous a names =>
    "ambiguous option: ".toList ++ a ++ " could match ".toList ++ Text.join [',', ' '] names
  | unusedValue title v => onArgument title ("ignored explicit argument ".toList ++ v.quoted)
  | missingValue title => onArgument title "expected one argument".toList
  | required titles => "the following arguments are required: ".toList ++ Text.join [',', ' '] titles
  | unknownCommand title name known =>
    onArgument title ("invalid choice: ".toList ++ name.quoted ++ " (choose from ".toList ++
      Text.join [',', ' '] (known.map Text.quoted) ++ [')'])
  | leftOver args => "unrecognized arguments: ".toList ++ Text.join [' '] args

end ArgumentError

/-! ## Single arguments -/

inductive Piece where
  /-- The first `--`. -/
  | marker
  | operand (t : Text)
  /-- A flag as it is written: the flag, unless it is unknown, and a value given with it. -/
  | flag (written : Text) (flag : Option Flag) (name : Text) (value : Option Text)
  deriving DecidableEq, Repr

namespace Piece

def written : Piece → Text
  | marker => ['-', '-']
  | operand t => t
  | flag w _ _ _ => w

def isFlag : Piece → Bool
  | flag _ _ _ _ => true
  | _ => false

end Piece

/-- All names with their flags, in order. -/
def namesOf (flags : List Flag) : List (Text × Flag) := flags.flatMap fun f => f.names.map fun n => (n, f)

/-- The text before the first equals sign, and the one behind it if there is one. -/
def splitValue (t : Text) : Text × Option Text :=
  match t.dropWhile (· != '=') with
  | [] => (t, none)
  | _ :: v => (t.takeWhile (· != '='), some v)

/-- What an argument may be short for. -/
def abbreviated (flags : List Flag) (t : Text) : List (Text × Flag × Option Text) :=
  if ['-', '-'].isPrefixOf t then
    let (start, value) := splitValue t
    (namesOf flags).filterMap fun (n, f) => if start.isPrefixOf n then some (n, f, value) else none
  else
    (namesOf flags).filterMap fun (n, f) =>
      if n = t.take 2 then some (n, f, some (t.drop 2))
      else if t.isPrefixOf n then some (n, f, none)
      else none

/-- A hyphen and a number, with a point or without. -/
def isNegativeNumber (t : Text) : Bool :=
  match if t.getLast? = some '\n' then t.dropLast else t with
  | '-' :: digits =>
    match digits.dropWhile Text.Decimal.isDecimal with
    | [] => !digits.isEmpty
    | '.' :: part => !part.isEmpty && part.all Text.Decimal.isDecimal
    | _ => false
  | _ => false

def classify (flags : List Flag) (t : Text) : Except ArgumentError Piece :=
  match t with
  | '-' :: _ :: _ =>
    match (namesOf flags).lookup t with
    | some f => .ok (.flag t (some f) t none)
    | none =>
      let (name, value) := splitValue t
      match if value.isSome then (namesOf flags).lookup name else none with
      | some f => .ok (.flag t (some f) name value)
      | none =>
        match abbreviated flags t with
        | [(n, f, v)] => .ok (.flag t (some f) n v)
        | _ :: _ :: _ => .error (.ambiguous t ((abbreviated flags t).map (·.1)))
        | [] => .ok (if isNegativeNumber t || t.contains ' ' then .operand t else .flag t none t none)
  | _ => .ok (.operand t)

def pieces (flags : List Flag) : List Text → Except ArgumentError (List Piece)
  | [] => .ok []
  | t :: rest =>
    if t = ['-', '-'] then .ok (.marker :: rest.map .operand)
    else do
      let p ← classify flags t
      return p :: (← pieces flags rest)

/-! ## Flags and operands -/

structure Given where
  /-- Flags with their values, in order. -/
  flags : List (Flag × Option Text)
  /-- The operands, when their turn has come. -/
  operands : Option (List Text)
  leftOver : List Text

/-- How many pieces the operands take at this place; none if they cannot begin here. -/
def operandCount (o : Operands) (ps : List Piece) : Nat :=
  let lead := (ps.takeWhile (· == .marker)).length
  match ps.drop lead with
  | .operand _ :: rest =>
    match o with
    | .none => 0
    | .one _ => lead + 1 + (rest.takeWhile (· == .marker)).length
    | .all _ => ps.length
  | _ => 0

/-- The texts of operands. Of a single operand's pieces the first `--` is left out. -/
def operandTexts (o : Operands) (ps : List Piece) : List Text :=
  let texts := ps.map Piece.written
  match o with
  | .one _ => texts.erase ['-', '-']
  | _ => texts

/-- One-letter flags that take no value may follow each other behind one hyphen. -/
def bundled (flags : List Flag) (f : Flag) : Text → Except ArgumentError (List Flag)
  | [] => .ok [f]
  | c :: rest =>
    match (namesOf flags).lookup ['-', c] with
    | some g => (bundled flags g rest).map (f :: ·)
    | none => .error (.unusedValue f.title (c :: rest))

/-- A value that is only `--` counts as no value. -/
def dropMarker (v : Text) : Option Text := if v = ['-', '-'] then none else some v

/-- The flags that a piece gives, with their values, and how many of the pieces behind it
    are taken for that. -/
def flagValues (flags : List Flag) (f : Flag) (name : Text) (value : Option Text) (rest : List Piece) :
    Except ArgumentError (List (Flag × Option Text) × Nat) :=
  match f.arity, value, rest with
  | .none, none, _ => .ok ([(f, none)], 0)
  | .none, some v, _ =>
    if ['-', '-'].isPrefixOf name || v.isEmpty then .error (.unusedValue f.title v)
    else (bundled flags f v).map fun fs => (fs.map fun g => (g, none), 0)
  | _, some v, _ => .ok ([(f, dropMarker v)], 0)
  | _, none, .operand t :: _ => .ok ([(f, some t)], 1)
  | .optional, none, _ => .ok ([(f, none)], 0)
  | .one, none, _ => .error (.missingValue f.title)

def notFlag (p : Piece) : Bool := !p.isFlag

/-- How many pieces the operands take, if it is still their turn. -/
def Given.operandCount (g : Grammar) (x : Given) (ps : List Piece) : Nat :=
  if x.operands.isSome then 0 else Command.operandCount g.operands ps

/-- Let the operands take so many pieces. -/
def Given.takeOperands (g : Grammar) (x : Given) (count : Nat) (ps : List Piece) : Given :=
  if count = 0 then x else { x with operands := some (operandTexts g.operands (ps.take count)) }

def Given.leave (x : Given) (ps : List Piece) : Given := { x with leftOver := x.leftOver ++ ps.map Piece.written }

/-- Tell flags and operands apart, from left to right. -/
def takePieces (g : Grammar) (ps : List Piece) (x : Given) : Except Stop Given :=
  match ps with
  | [] => .ok x
  | p :: rest =>
    let count := x.operandCount g (p :: rest)
    if !(p :: rest).any Piece.isFlag then .ok ((x.takeOperands g count (p :: rest)).leave ((p :: rest).drop count))
    else match p with
      | .flag w none n v => takePieces g rest (x.leave [.flag w none n v])
      | .flag _ (some f) name value =>
        match flagValues g.flags f name value rest with
        | .error e => .error (.error e)
        | .ok (given, n) =>
          if given.any (·.1 == helpFlag) then .error .help
          else takePieces g (rest.drop n) { x with flags := x.flags ++ given }
      | _ =>
        if h : 0 < count then
          have : ((p :: rest).drop count).length < rest.length + 1 := by simp; omega
          takePieces g ((p :: rest).drop count) (x.takeOperands g count (p :: rest))
        else
          have : (rest.dropWhile notFlag).length < rest.length + 1 :=
            Nat.lt_succ_of_le (List.dropWhile_suffix notFlag).length_le
          takePieces g (rest.dropWhile notFlag) (x.leave (p :: rest.takeWhile notFlag))
termination_by ps.length
decreasing_by
  · simp
  · simp only [List.length_drop, List.length_cons]; omega
  · simpa using this
  · simpa using this

def Given.has (x : Given) (f : Flag) : Bool := x.flags.any (·.1 == f)

/-- The last value of a flag, `none` when it is not given. -/
def Given.value? (x : Given) (f : Flag) : Option (Option Text) := x.flags.reverse.lookup f

/-- The titles of what must be given and is not. -/
def Given.missing (g : Grammar) (x : Given) : List Text :=
  (match g.operands, x.operands with
    | .one title, none => [title]
    | _, _ => []) ++
    (g.required.filter fun f => !x.has f).map Flag.title

def Given.ofTexts (g : Grammar) (args : List Text) : Except Stop Given :=
  match pieces g.flags args with
  | .error e => .error (.error e)
  | .ok ps =>
    match takePieces g ps ⟨[], none, []⟩ with
    | .error s => .error s
    | .ok x => if (x.missing g).isEmpty then .ok x else .error (.error (.required (x.missing g)))

end MarkupJsx.Command
