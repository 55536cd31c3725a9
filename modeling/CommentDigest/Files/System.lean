/-
What a program asks of the files around it.

A `FileSystem` answers in any monad. `FileTree.system` is one whose files are a state.
-/
import CommentDigest.Files.Tree

namespace CommentDigest

structure FileSystem (m : Type → Type) where
  /-- the name of the current directory, from the root -/
  currentName : m String
  /-- does a name stand for anything -/
  isPresent : String → m Bool
  isFile : String → m Bool
  read : String → m (Except FileError String)
  /-- a directory with all that it lies in -/
  makeDirectories : String → m (Except FileError Unit)
  /-- more text at the end of a file, which is made when it is missing -/
  append : (name text : String) → m (Except FileError Unit)

namespace FileTree

variable {m : Type → Type} [Monad m] [MonadStateOf FileTree m]

/-- a change of the tree that can be refused -/
def change (act : FileTree → Except FileError FileTree) : m (Except FileError Unit) := do
  match act (← getThe FileTree) with
  | .ok t =>
    set t
    return .ok ()
  | .error e => return .error e

/-- the files of a tree that is a state -/
def system : FileSystem m where
  currentName := return (← getThe FileTree).currentName
  isPresent name := return ((← getThe FileTree).node? name).isSome
  isFile name := return (((← getThe FileTree).node? name).map FileNode.isFile).getD false
  read name := return (← getThe FileTree).read name
  makeDirectories name := change fun t => t.makeDirectories ((Files.parts name).length + 1) name
  append name text := change fun t => t.append name text

end FileTree

end CommentDigest
