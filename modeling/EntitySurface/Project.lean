import EntitySurface.Surface

/-!
# Generated projects

The outcome of a generation: files with their contents, warnings, and the surfaces that the files
were written from.
-/

namespace EntitySurface

/-- What a generated file holds. -/
inductive FileKind where
  | rust
  | json
  | markdown
  | other
  deriving DecidableEq

namespace FileKind

/-- The kind as one word. -/
def word : FileKind → String
  | rust => "Rust"
  | json => "Json"
  | markdown => "Markdown"
  | other => "Other"

/-- The kind of which this is the word. -/
def ofWord? (word : String) : Option FileKind :=
  [rust, json, markdown, other].find? fun kind => kind.word == word

/-- The ending of the names of such files. -/
def extension : FileKind → String
  | rust => "rs"
  | json => "json"
  | markdown => "md"
  | other => "txt"

end FileKind

/-- A generated file with its path relative to the output directory. -/
structure GeneratedFile where
  path : String
  content : String
  kind : FileKind
  deriving DecidableEq

/-- The parts of a path. Repeated and trailing slashes and inner dots do not count; a slash or a dot
at the front does. -/
def pathParts (path : String) : List (List Char) :=
  let pieces := pieces path.toList
  let named := (pieces.drop 1).filter fun piece => !piece.isEmpty && piece != ['.']
  match pieces.head? with
  | some [] => if path.isEmpty then [] else ['/'] :: named
  | some first => first :: named
  | none => []
where
  /-- The pieces between slashes. -/
  pieces : List Char → List (List Char)
    | [] => [[]]
    | c :: rest =>
        if c = '/' then [] :: pieces rest
        else
          match pieces rest with
          | [] => [[c]]
          | piece :: others => (c :: piece) :: others

/-- Everything that one generation produced. -/
structure Project where
  name : String
  files : List GeneratedFile := []
  warnings : List String := []
  surfaces : List Surface := []
  deriving DecidableEq

namespace Project

/-- The files of a kind, in the order in which they were handed over. -/
def filesOfKind (project : Project) (kind : FileKind) : List GeneratedFile :=
  project.files.filter fun file => file.kind == kind

/-- The file at a path. -/
def file? (project : Project) (path : String) : Option GeneratedFile :=
  project.files.find? fun file => pathParts file.path == pathParts path

/-- The surface of the entity with this qualified name. -/
def surface? (project : Project) (qualified : String) : Option Surface :=
  project.surfaces.find? fun surface => surface.entity.text == qualified

/-- The number of operations over all surfaces. -/
def operationCount (project : Project) : Nat :=
  (project.surfaces.map fun surface => surface.operations.length).foldr (· + ·) 0

/-- The number of pages over all surfaces. -/
def pageCount (project : Project) : Nat :=
  (project.surfaces.map fun surface => surface.pages.length).foldr (· + ·) 0

/-- The size of all files, in bytes. -/
def totalBytes (project : Project) : Nat :=
  (project.files.map fun file => file.content.utf8ByteSize).foldr (· + ·) 0

end Project

end EntitySurface
