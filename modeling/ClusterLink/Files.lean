import ClusterLink.Access
import ClusterLink.Failure
import ClusterLink.Text.Split

/-!
# Files

A working directory as a tree. Paths are relative to it; beyond it nothing is known to exist. All
that exists in the tree can be read and written by the program.
-/

namespace ClusterLink

/-- A file, or a directory with what is in it. -/
inductive FileNode where
  | file (bytes : List UInt8)
  | directory (entries : List (String × FileNode))
deriving Inhabited

namespace FileNode

def lookup (name : String) : List (String × FileNode) → Option FileNode
  | [] => none
  | entry :: rest => if entry.1 = name then some entry.2 else lookup name rest

def place (name : String) (node : FileNode) :
    List (String × FileNode) → List (String × FileNode)
  | [] => [(name, node)]
  | entry :: rest =>
      if entry.1 = name then (name, node) :: rest else entry :: place name node rest

/-- What is in a directory; a file holds nothing. -/
def entries : FileNode → List (String × FileNode)
  | file _ => []
  | directory entries => entries

def insert (node : FileNode) : List String → FileNode → FileNode
  | [], _ => node
  | name :: path, tree =>
      let inner := (lookup name tree.entries).getD (directory [])
      directory (place name (insert node path inner) tree.entries)

def maxNameBytes : Nat := 255

def maxPathBytes : Nat := 4095

/--
Walks from the first of some nested directories, innermost first, along the parts of a path. The
parent of the outermost directory is one of which nothing is known.
-/
def walk : List String → FileNode → List FileNode → Except FileFault FileNode
  | [], here, _ => .ok here
  | part :: rest, here, outer =>
      match here with
      | file _ => .error .notDirectory
      | directory entries =>
          if part = "" ∨ part = "." then walk rest here outer
          else if part = ".." then
            match outer with
            | parent :: outer => walk rest parent outer
            | [] => walk rest (directory []) []
          else if part.utf8ByteSize > maxNameBytes then .error .nameTooLong
          else
            match lookup part entries with
            | some node => walk rest node (here :: outer)
            | none => .error .notFound

def find (tree : FileNode) (path : String) : Except FileFault FileNode :=
  let parts := (Text.pieces '/' path.toList).map String.ofList
  if path.toList.contains '\x00' then .error .nulInName
  else if path.isEmpty then .error .notFound
  else if path.utf8ByteSize > maxPathBytes then .error .nameTooLong
  else
    match parts with
    | "" :: rest => walk rest (directory []) []
    | parts => walk parts tree []

def read (tree : FileNode) (path : String) : Except FileFault String :=
  match tree.find path with
  | .error fault => .error fault
  | .ok (directory _) => .error .isDirectory
  | .ok (file bytes) =>
      match String.fromUTF8? ⟨bytes.toArray⟩ with
      | some text => .ok text
      | none => .error .notText

def isFile (tree : FileNode) (path : String) : Bool :=
  match tree.find path with
  | .ok (file _) => true
  | _ => false

def isDirectory (tree : FileNode) (path : String) : Bool :=
  match tree.find path with
  | .ok (directory _) => true
  | _ => false

def exists? (tree : FileNode) (path : String) : Bool :=
  match tree.find path with
  | .ok _ => true
  | .error _ => false

def probe (tree : FileNode) : Probe := ⟨tree.exists?, tree.exists?⟩

end FileNode

end ClusterLink
