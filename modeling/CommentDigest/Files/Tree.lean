/-
A tree of files in memory.

`FileTree.resolve` walks a name part by part as a system does: every part but the last must be a directory. Reading,
making directories and appending build on it, and a refusal says why (`FileError`).
-/
import CommentDigest.Assoc
import CommentDigest.Files.Name

namespace CommentDigest

/-- why a system refuses -/
inductive FileError where
  | missing
  | taken
  | notDirectory
  | isDirectory
  | longName
  /-- a refusal in the system's own words -/
  | other (message : String)
  deriving DecidableEq, Repr

/-- the words for a refusal -/
def FileError.message : FileError → String
  | missing => "No such file or directory (os error 2)"
  | taken => "File exists (os error 17)"
  | notDirectory => "Not a directory (os error 20)"
  | isDirectory => "Is a directory (os error 21)"
  | longName => "File name too long (os error 36)"
  | other m => m

/-- what can stand under a name -/
inductive FileNode where
  | file (text : String)
  | directory
  deriving DecidableEq, Repr

def FileNode.isFile : FileNode → Bool
  | file _ => true
  | directory => false

/-- a place in a tree: the names from the root on -/
abbrev Place := List String

/-- the nodes of a tree below the root, and the directory that names are counted from -/
structure FileTree where
  nodes : List (Place × FileNode)
  current : Place
  deriving Repr

namespace FileTree

/-! ## Nodes -/

/-- what stands at a place; the root is a directory -/
def at? (t : FileTree) (p : Place) : Option FileNode :=
  if p = [] then some .directory else Assoc.find? (· == ·) p t.nodes

def put (t : FileTree) (p : Place) (n : FileNode) : FileTree := { t with nodes := Assoc.put (· == ·) p n t.nodes }

/-- the text of the current directory -/
def currentName (t : FileTree) : String := "/" ++ Files.ofParts t.current

/-- a place and all directories on the way to it, outermost first -/
def upTo (p : Place) : List Place := (List.range p.length).map fun n => p.take (n + 1)

/-- directories at a place and on the way to it, where nothing stands yet -/
def putDirectories (t : FileTree) (p : Place) : FileTree :=
  (upTo p).foldl (fun t q => if (t.at? q).isSome then t else t.put q .directory) t

/-- a file below the current directory, with the directories it lies in -/
def putFile (t : FileTree) (name text : String) : FileTree :=
  let p := t.current ++ Files.steps name
  (t.putDirectories p.dropLast).put p (.file text)

/-- files below a current directory -/
def ofFiles (current : Place) (files : List (String × String)) : FileTree :=
  files.foldl (fun t f => t.putFile f.1 f.2) (FileTree.putDirectories ⟨[], current⟩ current)

/-- the files below the current directory with their texts -/
def files (t : FileTree) : List (String × String) :=
  t.nodes.filterMap fun n =>
    match n.2 with
    | .file text => if t.current.isPrefixOf n.1 then some (Files.ofParts (n.1.drop t.current.length), text) else none
    | .directory => none

/-- names in order -/
def sorted (names : List String) : List String := names.mergeSort fun a b => a ≤ b

/-- the files that an earlier tree does not have -/
def addedFiles (earlier t : FileTree) : List String :=
  sorted ((t.files.map (·.1)).filter fun name => !(earlier.files.any fun f => f.1 == name))

/-- the files whose texts are not those of an earlier tree; a new file begins empty -/
def changedFiles (earlier t : FileTree) : List String :=
  sorted ((t.files.filter fun f => (Assoc.find? (· == ·) f.1 earlier.files).getD "" != f.2).map (·.1))

/-! ## Names -/

/-- the longest name of a part, in bytes -/
def longestPart : Nat := 255

/-- from a place on by the parts of a name -/
def walk (t : FileTree) : Place → List String → Except FileError Place
  | p, [] => .ok p
  | p, s :: rest =>
    match t.at? p with
    | none => .error .missing
    | some (.file _) => .error .notDirectory
    | some .directory =>
      if s = "" ∨ s = "." then walk t p rest
      else if s = ".." then walk t p.dropLast rest
      else if longestPart < s.utf8ByteSize then .error .longName
      else walk t (p ++ [s]) rest

/-- the place of a name; there need not be anything at it -/
def resolve (t : FileTree) (name : String) : Except FileError Place :=
  if name = "" then .error .missing
  else t.walk (if Files.isAbsolute name then [] else t.current) (Files.parts name)

/-- a name without slashes at its end -/
def withoutSlashes (name : String) : String :=
  let kept := (name.toList.reverse.dropWhile (· == '/')).reverse
  if kept = [] ∧ Files.isAbsolute name then "/" else String.ofList kept

/-! ## What a program can do -/

/-- what a name stands for -/
def node? (t : FileTree) (name : String) : Option FileNode :=
  match t.resolve name with
  | .ok p => t.at? p
  | .error _ => none

/-- the text of a file -/
def read (t : FileTree) (name : String) : Except FileError String := do
  match t.at? (← t.resolve name) with
  | some (.file text) => return text
  | some .directory => throw .isDirectory
  | none => throw .missing

/-- one more directory -/
def makeDirectory (t : FileTree) (name : String) : Except FileError FileTree := do
  let p ← t.resolve (withoutSlashes name)
  match t.at? p with
  | some _ => throw .taken
  | none => return t.put p .directory

/-- a directory with all that it lies in; `fuel` bounds the way up -/
def makeDirectories (t : FileTree) : (fuel : Nat) → (name : String) → Except FileError FileTree
  | 0, _ => .error .missing
  | fuel + 1, name =>
    if name = "" then .ok t
    else
      match t.makeDirectory name with
      | .ok t => .ok t
      | .error .missing => do
        let t ← t.makeDirectories fuel ((Files.parent? name).getD "")
        settle t (t.makeDirectory name) name
      | .error e => settle t (.error e) name
where
  /-- a directory that is there already is as good as a new one -/
  settle (t : FileTree) (made : Except FileError FileTree) (name : String) : Except FileError FileTree :=
    match made with
    | .ok t => .ok t
    | .error e => if t.node? name = some .directory then .ok t else .error e

/-- more text at the end of a file, which is made when it is missing -/
def append (t : FileTree) (name text : String) : Except FileError FileTree := do
  let p ← t.resolve (withoutSlashes name)
  if name ≠ withoutSlashes name then throw .isDirectory
  match t.at? p with
  | some (.file old) => return t.put p (.file (old ++ text))
  | some .directory => throw .isDirectory
  | none => return t.put p (.file text)

end FileTree

end CommentDigest
