import EntitySurface.Generation
import Std.Data.HashMap

/-!
# File trees

Directories and files as a value: the directories that exist, the files with their contents, and the
two changes that writing a project needs. A tree keeps its nodes by their place; the root directory
is always there and is not kept. A path is walked step by step: what it leads through has to be
there, also where a later step takes it back. Names and paths are limited in length, and no path
holds a NUL.
-/

namespace EntitySurface

/-- The names on the way from the root to a node. -/
abbrev TreePlace := List String

/-- One step of a path. -/
inductive PathStep where
  | stay
  | up
  | into (name : String)
  deriving DecidableEq

/-- A piece between slashes that leads nowhere. -/
def isIdlePiece (piece : List Char) : Bool :=
  piece.isEmpty || piece == ['.']

/-- The steps between the slashes of a path. There is always at least one. -/
def pathSteps (path : String) : List PathStep :=
  (pathParts.pieces path.toList).map fun piece =>
    if isIdlePiece piece then .stay
    else if piece == ['.', '.'] then .up
    else .into (String.ofList piece)

/-- The path without its last part that leads anywhere. -/
def parentPath (path : String) : String :=
  let withoutLast := ((pathParts.pieces path.toList).reverse.dropWhile isIdlePiece).drop 1
  String.ofList (['/'].intercalate (withoutLast.dropWhile isIdlePiece).reverse)

/-- A path below a directory. -/
def pathBelow (directory path : String) : String :=
  if directory.isEmpty || directory.endsWith "/" then directory ++ path
  else directory ++ "/" ++ path

/-- How many bytes a path may have. -/
def maxPathBytes : Nat := 4095

/-- A file system takes the path. -/
def isPathTaken (path : String) : Bool :=
  path.utf8ByteSize ≤ maxPathBytes && !path.toList.contains '\x00'

/-- The place after a step. The root is above itself. -/
def PathStep.after (step : PathStep) (place : TreePlace) : TreePlace :=
  match step with
  | stay => place
  | up => place.dropLast
  | into name => place ++ [name]

/-- What stands at a place. -/
inductive FileNode where
  | directory
  | file (content : String)
  deriving DecidableEq

/-- A tree of directories and files. -/
structure FileTree where
  nodes : Std.HashMap TreePlace FileNode := {}

namespace FileTree

/-- The node at a place. -/
def node? (tree : FileTree) (place : TreePlace) : Option FileNode :=
  if place.isEmpty then some .directory else tree.nodes[place]?

/-- How many bytes a name may have. -/
def maxNameBytes : Nat := 255

/-- The last name of a place is short enough to stand in a directory. -/
def hasRoom (place : TreePlace) : Bool :=
  place.getLast?.all fun name => name.utf8ByteSize ≤ maxNameBytes

/-- Put a node at a place, instead of the one that was there. -/
def put (tree : FileTree) (place : TreePlace) (node : FileNode) : FileTree :=
  { nodes := tree.nodes.insert place node }

/-- Putting a node changes what stands at its place and nothing else. -/
theorem node?_put (tree : FileTree) {place : TreePlace} (below_root : place ≠ []) (node : FileNode)
    (other : TreePlace) :
    (tree.put place node).node? other = if other = place then some node else tree.node? other := by
  by_cases at_root : other = []
  · simp [node?, at_root, below_root.symm]
  · simp only [node?, put, List.isEmpty_iff, at_root, if_false, Std.HashMap.getElem?_insert,
      beq_iff_eq, eq_comm (a := place)]

/-- The place that a path leads to, if all places before it are directories. -/
def walk? (tree : FileTree) (place : TreePlace) : List PathStep → Option TreePlace
  | [] => some place
  | step :: rest =>
      match tree.node? place with
      | some .directory => tree.walk? (step.after place) rest
      | _ => none

/-- Walk a path and create the directories that are missing on the way, unless a file stands there.
The place that it leads to comes with the tree. -/
def createAlong (tree : FileTree) (place : TreePlace) :
    List PathStep → Option (FileTree × TreePlace)
  | [] => some (tree, place)
  | step :: rest =>
      let next := step.after place
      match tree.node? next with
      | some (.file _) => none
      | some .directory => tree.createAlong next rest
      | none =>
          if hasRoom next then (tree.put next .directory).createAlong next rest else none

/-- Write a file in a directory that exists; a directory cannot be written over. -/
def write (tree : FileTree) (place : TreePlace) (content : String) : Option FileTree :=
  match tree.node? place.dropLast, tree.node? place with
  | some .directory, some .directory => none
  | some .directory, _ => if hasRoom place then some (tree.put place (.file content)) else none
  | _, _ => none

/-- Create the directory at a path and the directories that the path leads through; the place of
the directory comes with the tree. -/
def createDirectory (tree : FileTree) (path : String) : Option (FileTree × TreePlace) :=
  if isPathTaken path then tree.createAlong [] (pathSteps path) else none

/-- Write the file at a path whose parent has the place `parent`. -/
def writeAt (tree : FileTree) (parent : TreePlace) (path content : String) : Option FileTree :=
  if isPathTaken path then
    tree.write (((pathSteps path).getLastD .stay).after parent) content
  else none

/-- Create a directory and the directories that its path leads through. -/
def addDirectory (tree : FileTree) (path : String) : Option FileTree :=
  (tree.createDirectory path).map Prod.fst

/-- Write a file; the directories that its path leads through are created. -/
def addFile (tree : FileTree) (path content : String) : Option FileTree := do
  let (tree, parent) ← tree.createDirectory (parentPath path)
  tree.writeAt parent path content

/-- The place of the node at a path. -/
def place? (tree : FileTree) (path : String) : Option TreePlace :=
  if isPathTaken path then tree.walk? [] (pathSteps path) else none

/-- The directory at a place holds something. -/
def isOccupied (tree : FileTree) (place : TreePlace) : Bool :=
  tree.nodes.keys.any fun other => place.isPrefixOf other && other != place

/-- The part of a tree below a directory. -/
def below (tree : FileTree) (place : TreePlace) : FileTree :=
  { nodes := .ofList (tree.nodes.toList.filterMap fun (other, node) =>
      (place.isPrefixOf? other).map fun rest => (rest, node)) }

/-- The files, in the order of their written paths. -/
def files (tree : FileTree) : List (String × String) :=
  let found := tree.nodes.toList.filterMap fun (place, node) =>
    match node with
    | .directory => none
    | .file content => some ("/".intercalate place, content)
  found.mergeSort fun first second => first.1 ≤ second.1

end FileTree

namespace Project

/-- Write files below a directory up to the first fault; what was written before it stays. -/
def writeFiles (directory : String) : List GeneratedFile → FileTree → FileTree × Option Fault
  | [], tree => (tree, none)
  | file :: rest, tree =>
      let target := pathBelow directory file.path
      match tree.createDirectory (parentPath target) with
      | none => (tree, some (.directoryNotCreated (parentPath target)))
      | some (tree, parent) =>
          match tree.writeAt parent target file.content with
          | none => (tree, some (.unwritable target))
          | some tree => writeFiles directory rest tree

end Project

namespace Schema

/-- Refuse an output directory that is occupied, unless it may be overwritten. -/
def checkOutput (settings : GenerationSettings) (tree : FileTree) : Except Fault Unit :=
  if settings.overwrite then .ok ()
  else
    match tree.place? settings.outputDirectory with
    | none => .ok ()
    | some place =>
        match tree.node? place with
        | some (.file _) => .error (.unreadable settings.outputDirectory)
        | _ =>
            if tree.isOccupied place then .error (.outputExists settings.outputDirectory)
            else .ok ()

/-- Generate a project and write it into the output directory. The tree shows what was written, also
when writing failed on the way. -/
def generateInto (schema : Schema) (settings : GenerationSettings) (tree : FileTree)
    (rules : List DerivationRule := DerivationRule.standard) :
    FileTree × Except Fault Project :=
  match checkOutput settings tree with
  | .error fault => (tree, .error fault)
  | .ok () =>
      match schema.generate settings rules with
      | .error fault => (tree, .error fault)
      | .ok project =>
          match Project.writeFiles settings.outputDirectory project.files tree with
          | (written, some fault) => (written, .error fault)
          | (written, none) => (written, .ok project)

end Schema

end EntitySurface
