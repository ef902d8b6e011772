/-!
# Files

A tree of directories and files. A path is taken apart at its slashes and followed from the working
directory, or from the root if it starts with a slash. Every name on the way has to be a directory;
one point stands for the directory itself and two points for the one it is in. What goes wrong on the
way, or with what is found at the end, is a fault with a number of its own.
-/

namespace Codebook

/-- What can go wrong with a file. -/
inductive FileFault where
  | notFound
  | alreadyExists
  | notDirectory
  | isDirectory
  | nameTooLong
  | zeroInName
  | notText
  | other (text : String)
  deriving Repr, DecidableEq

/-- The words for a fault. -/
def FileFault.message : FileFault → String
  | .notFound => "No such file or directory (os error 2)"
  | .alreadyExists => "File exists (os error 17)"
  | .notDirectory => "Not a directory (os error 20)"
  | .isDirectory => "Is a directory (os error 21)"
  | .nameTooLong => "File name too long (os error 36)"
  | .zeroInName => "file name contained an unexpected NUL byte"
  | .notText => "stream did not contain valid UTF-8"
  | .other text => text

/-- What stands at a place of a tree. -/
inductive Node where
  | directory
  | file (content : ByteArray)

/-- A tree: the places below the root, each with what stands there. -/
structure Tree where
  nodes : List (List String × Node)

/-- The tree of an empty root. -/
def Tree.empty : Tree :=
  ⟨[]⟩

/-- What stands at a place. The root is always there. -/
def Tree.at? (tree : Tree) (place : List String) : Option Node :=
  if place.isEmpty then some .directory else tree.nodes.lookup place

/-- The nodes with one put at a place; what stood there before is replaced. -/
def putNode (place : List String) (node : Node) :
    List (List String × Node) → List (List String × Node)
  | [] => [(place, node)]
  | (other, held) :: rest =>
    if place = other then (place, node) :: rest else (other, held) :: putNode place node rest

/-- The tree with something put at a place. -/
def Tree.put (tree : Tree) (place : List String) (node : Node) : Tree :=
  ⟨putNode place node tree.nodes⟩

/-! ## Paths -/

/-- A path taken apart: whether it starts at the root, its names, and whether a slash ends it. -/
structure Path where
  absolute : Bool
  names : List String
  endsInSlash : Bool
  deriving Repr, DecidableEq

/-- The parts of a text between slashes. -/
def slashParts : List Char → List (List Char)
  | [] => [[]]
  | c :: rest =>
    if c = '/' then [] :: slashParts rest
    else
      match slashParts rest with
      | [] => [[c]]
      | part :: parts => (c :: part) :: parts

/-- The path that a text denotes. -/
def Path.ofText (text : String) : Path where
  absolute := text.toList.head? = some '/'
  names := ((slashParts text.toList).filter fun part => !part.isEmpty).map String.ofList
  endsInSlash := text.toList.getLast? = some '/'

/-- The names of a path without those that say nothing: a single point says something only at the
    start of a path. -/
def Path.plainNames (path : Path) : List String :=
  match path.names with
  | [] => []
  | first :: rest =>
    let rest := rest.filter (· ≠ ".")
    if first = "." ∧ path.absolute then rest else first :: rest

/-- The text of the directory that the last name of a path is in, with all that is written before the
    end of its own last name. Parts that say nothing are left out at the end only. -/
def parentText (text : String) : String :=
  let saysNothing (part : List Char) : Bool := part.isEmpty || part == ['.']
  let above := ((slashParts text.toList).reverse.dropWhile saysNothing).tail.dropWhile saysNothing
  String.ofList (List.intercalate ['/'] above.reverse)

/-- A text put behind the text of a directory. -/
def joinPath (directory name : String) : String :=
  if name.toList.head? = some '/' ∨ directory.isEmpty then name
  else if directory.toList.getLast? = some '/' then directory ++ name
  else directory ++ "/" ++ name

/-- The bytes that a path may have, the end of it included. -/
def pathLimit : Nat := 4096

/-- The bytes that a name may have. -/
def nameLimit : Nat := 255

/-- Refuses texts that are no paths. -/
def checkPath (text : String) : Except FileFault Unit :=
  if text.toList.contains '\x00' then throw .zeroInName
  else if text.isEmpty then throw .notFound
  else if pathLimit ≤ text.utf8ByteSize then throw .nameTooLong
  else return

/-- The place after following directories from `here`. -/
def Tree.follow (tree : Tree) (here : List String) : List String → Except FileFault (List String)
  | [] => return here
  | name :: rest =>
    if name = "." then tree.follow here rest
    else if name = ".." then tree.follow here.dropLast rest
    else if nameLimit < name.utf8ByteSize then throw .nameTooLong
    else
      match tree.at? (here ++ [name]) with
      | none => throw .notFound
      | some (.file _) => throw .notDirectory
      | some .directory => tree.follow (here ++ [name]) rest

/-- Where a path leads: to the directory it starts from or one above, or to a name in a directory. -/
inductive Destination where
  | directory
  | name (place : List String)

/-- Where names lead from a place. -/
def Tree.destination (tree : Tree) (start names : List String) : Except FileFault Destination := do
  match names.getLast? with
  | none => return .directory
  | some last =>
    let here ← tree.follow start names.dropLast
    if last = "." ∨ last = ".." then return .directory
    else if nameLimit < last.utf8ByteSize then throw .nameTooLong
    else return .name (here ++ [last])

/-- A tree and the working directory in it. -/
structure Files where
  tree : Tree
  here : List String

/-- The place that a path starts from. -/
def Files.startOf (files : Files) (path : Path) : List String :=
  if path.absolute then [] else files.here

/-- The files with something put at a place. -/
def Files.put (files : Files) (place : List String) (node : Node) : Files :=
  { files with tree := files.tree.put place node }

/-- The text of the working directory. -/
def Files.hereText (files : Files) : String :=
  "/" ++ "/".intercalate files.here

/-! ## Reading and writing -/

/-- Where a path leads. -/
def Files.destination (files : Files) (text : String) : Except FileFault Destination := do
  checkPath text
  let path := Path.ofText text
  files.tree.destination (files.startOf path) path.names

/-- The bytes of the file at a path. -/
def Files.read (files : Files) (text : String) : Except FileFault ByteArray := do
  match ← files.destination text with
  | .directory => throw .isDirectory
  | .name place =>
    match files.tree.at? place with
    | none => throw .notFound
    | some .directory => throw .isDirectory
    | some (.file content) =>
      if (Path.ofText text).endsInSlash then throw .notDirectory else return content

/-- The text of the file at a path. -/
def Files.readText (files : Files) (text : String) : Except FileFault String := do
  match String.fromUTF8? (← files.read text) with
  | some content => return content
  | none => throw .notText

/-- Whether there is a file at a path. -/
def Files.isFile (files : Files) (text : String) : Bool :=
  (files.read text).toBool

/-- The directory that the last name of a path is in. -/
def Files.above (files : Files) (text : String) : Except FileFault (List String) := do
  checkPath text
  let path := Path.ofText text
  files.tree.follow (files.startOf path) path.names.dropLast

/-- The files with new content in the file at a path, which is made if it is not there. A path with a
    slash at its end is refused before its last name is looked at. -/
def Files.write (files : Files) (text : String) (content : String) : Except FileFault Files := do
  if (Path.ofText text).endsInSlash then
    let _ ← files.above text
    throw .isDirectory
  else
    match ← files.destination text with
    | .directory => throw .isDirectory
    | .name place =>
      match files.tree.at? place with
      | some .directory => throw .isDirectory
      | _ => return files.put place (.file content.toUTF8)

/-- The files with one directory more. -/
def Files.makeDirectory (files : Files) (start names : List String) : Except FileFault Files := do
  match ← files.tree.destination start names with
  | .directory => throw .alreadyExists
  | .name place =>
    match files.tree.at? place with
    | some _ => throw .alreadyExists
    | none => return files.put place .directory

/-- Whether names lead to a directory. -/
def Files.isDirectory (files : Files) (start names : List String) : Bool :=
  (files.tree.follow start names).toBool

/-- Makes the directory that names lead to and those above it, as far as they are not there. Names
    are given from the last to the first. What was made before a fault stays. -/
def Files.makeDirectories (files : Files) (start : List String) :
    (backwards : List String) → Files × Except FileFault Unit
  | [] => (files, .ok ())
  | last :: above =>
    let names := (last :: above).reverse
    match files.makeDirectory start names with
    | .ok made => (made, .ok ())
    | .error .notFound =>
      match files.makeDirectories start above with
      | (files, .error fault) => (files, .error fault)
      | (files, .ok ()) =>
        match files.makeDirectory start names with
        | .ok made => (made, .ok ())
        | .error fault =>
          (files, if files.isDirectory start names then .ok () else .error fault)
    | .error fault => (files, if files.isDirectory start names then .ok () else .error fault)

/-- Makes the directories that the file at a path is in. -/
def Files.makeParents (files : Files) (text : String) : Files × Except FileFault Unit :=
  let path := Path.ofText text
  let above := path.plainNames.dropLast
  if above.any fun name => name.toList.contains '\x00' then (files, .error .zeroInName)
  else if pathLimit ≤ (parentText text).utf8ByteSize then (files, .error .nameTooLong)
  else files.makeDirectories (files.startOf path) above.reverse

end Codebook
