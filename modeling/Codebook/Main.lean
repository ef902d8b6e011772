import Codebook.Program

/-!
# Running the program on a computer

The program itself is a function on trees of files. Here the part of the real files that a run can
ask for is put into a tree, the run is computed, and what it has made of the tree is carried out.
-/

namespace Codebook

/-- Puts into a tree what stands on the way along some names from a place. -/
def look (tree : Tree) (here : List String) : List String → IO Tree
  | [] => return tree
  | name :: rest => do
    if name = "." then look tree here rest
    else if name = ".." then look tree here.dropLast rest
    else
      let place := here ++ [name]
      let path ← do
        try IO.FS.realPath ("/" ++ "/".intercalate place)
        catch _ => return tree
      if ← path.isDir then look (tree.put place .directory) place rest
      else
        try return tree.put place (.file (← IO.FS.readBinFile path))
        catch _ => return tree

/-- The paths that a run with some options can ask for. -/
def pathsOf (options : CommandLine.Options) : List String :=
  configurationNames ++ options.config.toList ++
    [options.job.definitions, options.job.template, options.job.output]

/-- The part of the real files that a run can ask for. -/
def lookAround (arguments : List String) : IO Files := do
  let here := (Path.ofText (← IO.currentDir).toString).names
  let mut files : Files := ⟨← look .empty [] here, here⟩
  if let .ok options := CommandLine.Options.read arguments then
    for text in pathsOf options do
      let path := Path.ofText text
      files := { files with tree := ← look files.tree (files.startOf path) path.names }
  return files

/-- Carries out what has become of a tree. -/
def carryOut (before after : Tree) : IO Unit := do
  for (place, node) in after.nodes do
    let path := "/" ++ "/".intercalate place
    match node, before.at? place with
    | .directory, none => IO.FS.createDir path
    | .file content, some (.file old) =>
      if content.data ≠ old.data then IO.FS.writeBinFile path content
    | .file content, _ => IO.FS.writeBinFile path content
    | _, _ => pure ()

end Codebook

/-- Runs the program and exits with its status. -/
def main (arguments : List String) : IO UInt32 := do
  let files ← Codebook.lookAround arguments
  let outcome := Codebook.runProgram arguments files
  IO.eprint outcome.errors
  try
    Codebook.carryOut files.tree outcome.files.tree
    IO.print outcome.output
    return outcome.status.toUInt32
  catch fault =>
    IO.eprintln (Codebook.Failure.io (.other (toString fault))).message
    return 1
