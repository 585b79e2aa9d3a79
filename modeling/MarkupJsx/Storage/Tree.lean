/-
  MarkupJsx.Storage.Tree — files and directories as a value.

  A tree maps locations, the names from the root down, to files and directories. A path is
  resolved part by part: every part is looked up in what must be a directory, and double
  dots lead to the directory that this one lies in. There are no links.
-/

import MarkupJsx.Storage.Basic

namespace MarkupJsx

abbrev Location := List Bytes

inductive Entry where
  | file (content : Bytes)
  | directory
  deriving DecidableEq, Repr

def Entry.kind : Entry → FileKind
  | file _ => .file
  | directory => .directory

structure Tree where
  /-- The directory in which relative paths begin. -/
  here : Location
  entries : List (Location × Entry)

namespace Tree

def entry? (t : Tree) (l : Location) : Option Entry := if l = [] then some .directory else t.entries.lookup l

/-- Put an entry at a location, in the place of what was there. -/
def putEntry (l : Location) (e : Entry) : List (Location × Entry) → List (Location × Entry)
  | [] => [(l, e)]
  | x :: rest => if x.1 = l then (l, e) :: rest else x :: putEntry l e rest

def put (t : Tree) (l : Location) (e : Entry) : Tree := { t with entries := putEntry l e t.entries }

/-- The name that leads to the directory around. -/
def dots : Bytes := [0x2E, 0x2E]

/-- Where names lead from a location, or what is wrong with the path `p` that has them. -/
def walk (t : Tree) (p : Path) (l : Location) : List Bytes → Except FileError Location
  | [] => .ok l
  | name :: rest =>
    match t.entry? l with
    | none => .error (.missing p)
    | some (.file _) => .error (.notDirectory p)
    | some .directory =>
      if name.length > FileName.maxLength then .error (.nameTooLong p)
      else walk t p (if name = dots then l.dropLast else l ++ [name]) rest

/-- The location that a path names. There need be nothing at it. -/
def locate (t : Tree) (p : Path) : Except FileError Location :=
  match p.names with
  | .error e => .error (.badName e)
  | .ok names =>
    if Path.isTooLong p.root names then .error (.nameTooLong p)
    else t.walk p (if p.isAbsolute then [] else t.here) names

/-- What is at the location that a path names. -/
def lookup (t : Tree) (p : Path) : Except FileError Entry :=
  match t.locate p with
  | .error e => .error e
  | .ok l =>
    match t.entry? l with
    | none => .error (.missing p)
    | some e => .ok e

def read (t : Tree) (p : Path) : Except FileError Bytes :=
  match t.lookup p with
  | .error e => .error e
  | .ok .directory => .error (.isDirectory p)
  | .ok (.file content) => .ok content

def write (t : Tree) (p : Path) (content : Bytes) : Except FileError Tree :=
  match t.locate p with
  | .error e => .error e
  | .ok l => if t.entry? l = some .directory then .error (.isDirectory p) else .ok (t.put l (.file content))

def makeDirectory (t : Tree) (p : Path) : Except FileError Tree :=
  match t.locate p with
  | .error e => .error e
  | .ok l => if (t.entry? l).isSome then .error (.alreadyExists p) else .ok (t.put l .directory)

/-- Nothing lies in the location. -/
def isEmptyAt (t : Tree) (l : Location) : Bool := !t.entries.any fun x => l.isPrefixOf x.1 && x.1 != l

/-- All files, and all directories with nothing in them, below the current directory, in the
    order of their relative paths; the bytes of a directory are `none`. -/
def listing (t : Tree) : List (Bytes × Option Bytes) :=
  let found := t.entries.filterMap fun (l, e) =>
    if t.here.isPrefixOf l && l != t.here then
      let name := Text.join [0x2F] (l.drop t.here.length)
      match e with
      | .file content => some (name, some content)
      | .directory => if t.isEmptyAt l then some (name, none) else none
    else none
  found.mergeSort fun a b => !(b.1 < a.1 : Bool)

end Tree

/-- A tree, and what the standard input holds. -/
structure World where
  tree : Tree
  input : Bytes

namespace World

/-- An order that replaces the tree when it succeeds. -/
def order (f : Tree → Except FileError Tree) : StateM World (Except FileError Unit) := fun w =>
  match f w.tree with
  | .error e => (.error e, w)
  | .ok t => (.ok (), { w with tree := t })

instance : Storage (StateM World) where
  kind p := fun w => ((w.tree.lookup p).map Entry.kind, w)
  read p := fun w => (w.tree.read p, w)
  write p content := order (·.write p content)
  makeDirectory p := order (·.makeDirectory p)
  standardInput := fun w => (w.input, w)

end World

end MarkupJsx
