/-
Names of files and directories.

A name is a text whose parts are separated by slashes. Empty parts and single points in it count for nothing, except a
slash or a point at the very front.

- `Files.join`: a name below a directory
- `Files.parent?`: the directory that a name lies in, as it is written there
- `Files.extension`: what follows the last point of the last part
- `Files.relative`: a name as seen from another directory
- `Files.upwards`: a directory and all that it lies in
-/

namespace CommentDigest.Files

/-- is it counted from the root -/
def isAbsolute (name : String) : Bool := name.toList.head? == some '/'

/-- a name below a directory; an absolute name stands for itself -/
def join (dir name : String) : String :=
  if isAbsolute name then name
  else if dir = "" ∨ dir.toList.getLast? = some '/' then dir ++ name
  else dir ++ "/" ++ name

/-- the texts between the slashes -/
def parts (name : String) : List String := (name.toList.splitOn '/').map String.ofList

/-- parts with slashes between them -/
def ofParts (ps : List String) : String := String.intercalate "/" ps

/-- does a part count -/
def counts (position : Nat) (part : String) : Bool := part != "" && (part != "." || position == 0)

/-- the positions of the parts that count -/
def places (ps : List String) : List Nat :=
  (ps.zipIdx.filter fun p => counts p.2 p.1).map (·.2)

/-- the parts that count below the current directory or the root -/
def steps (name : String) : List String := (parts name).filter fun p => p != "" && p != "."

/-- the directory that a name lies in, as it is written in front of the last part; the root lies in none -/
def parent? (name : String) : Option String :=
  let ps := parts name
  match (places ps).reverse with
  | [] => none
  | [_] => some (if isAbsolute name then "/" else "")
  | _ :: place :: _ => some (ofParts (ps.take (place + 1)))

/-- the last part, unless it leads upwards -/
def lastName? (name : String) : Option String := (steps name).getLast?.filter (· != "..")

/-- the text behind the last point of the last part; a point at its front does not count -/
def extension (name : String) : String :=
  let cs := ((lastName? name).getD "").toList
  let tail := cs.reverse.takeWhile (· != '.')
  if tail.length + 1 < cs.length then String.ofList tail.reverse else ""

/-- the way from one directory to a place, both given from the root -/
def wayFrom : (base place : List String) → List String
  | b :: base, p :: place => if b = p then wayFrom base place else ".." :: (base.map fun _ => "..") ++ p :: place
  | base, place => (base.map fun _ => "..") ++ place

/-- a name as seen from a directory that is given from the root -/
def relative (base name : String) : String := ofParts (wayFrom (steps base) (steps (join base name)))

/-- a directory that is given from the root, and all that it lies in, innermost first -/
def upwards (name : String) : List String :=
  let ps := steps name
  (List.range (ps.length + 1)).reverse.map fun n => "/" ++ ofParts (ps.take n)

end CommentDigest.Files
