import LexMind.Lib.FileTree
import LexMind.PurePath
import LexMind.Python

set_option autoImplicit false

namespace LexMind.Storage

open Lib

abbrev Bytes := List UInt8

/-- The components of an absolute path of the host. -/
abbrev HostPath := List (List Char)

/-- The files and directories of the host; there are no symbolic links. -/
abbrev HostTree := FileTree (List Char) Bytes

/-- Text encodings and digests, as the standard library has them: `encode` gives the bytes that
`write_text` writes, `decode` what `read_text` returns of the bytes that are there, with its
translation of line ends. -/
structure Codec where
  encode : (encoding text : String) → Except PyExc Bytes
  decode : (encoding : String) → Bytes → Except PyExc String
  computeChecksum : Bytes → (algorithm : String) → Except PyExc String

/-- How a copy of a directory into one of its own directories ends: what it has made
below its target by then, and what it raises. -/
structure Endless where
  left : HostTree
  raised : PyExc

namespace HostPath

/-- `str` of the path. -/
def render (path : HostPath) : List Char :=
  if path = [] then ['/'] else path.flatMap (fun part => '/' :: part)

def text (path : HostPath) : String := String.ofList (render path)

/-- `repr` of the path as a `Path`. -/
def pathRepr (path : HostPath) : String := "PosixPath(" ++ pyRepr path.text ++ ")"

/-- `(root / rel).resolve()`: an absolute `rel` replaces the root, `..` goes up. -/
def locate (root : HostPath) (rel : List Char) : HostPath :=
  (PurePath.parts rel).foldl
    (fun path part => if part = ['.', '.'] then path.dropLast else path ++ [part])
    (if rel.head? = some '/' then [] else root)

end HostPath

namespace Host

/-- `Path.mkdir(parents=True, exist_ok=True)`. -/
def mkdir (path : HostPath) : Py HostTree Unit := do
  let tree ← get
  if (tree.node path).any Node.isFile then
    throw (.osError .fileExists path.text)
  else if tree.blocked path then
    throw (.osError .notADirectory path.text)
  else
    set (tree.makeDirs path)

/-- `Path.write_bytes` where the parent is a directory. -/
def writeFile (path : HostPath) (data : Bytes) : Py HostTree Unit := do
  let tree ← get
  if tree.node path = some .dir then
    throw (.osError .isADirectory path.text)
  else
    set (tree.putFile path data)

/-- `shutil.rmtree`; the host's own root is emptied and stays. -/
def rmtree (path : HostPath) : Py HostTree Unit := do
  modify (fun tree => tree.remove path)
  if path = [] then
    throw (.osError .busy path.text)

def unlink (path : HostPath) : Py HostTree Unit := modify (fun tree => tree.remove path)

/-- Whether listing the source meets a directory that leads to the target. -/
def descends (tree : HostTree) (source target : HostPath) : Bool :=
  match source.isPrefixOf target, target.drop source.length with
  | true, name :: _ :: _ => tree.node (source ++ [name]) = some .dir
  | _, _ => false

/-- `shutil.copytree`. -/
def copytree (source target : HostPath) (endless : Endless) : Py HostTree Unit := do
  let tree ← get
  if (tree.node target).isSome then
    throw (.osError .fileExists target.text)
  else if tree.blocked target then
    throw (.osError .notADirectory target.text)
  else if descends tree source target then
    set (tree.graft target endless.left)
    throw endless.raised
  else
    set (tree.graft target (tree.below source))

def basename (path : HostPath) : List Char := path.getLastD []

/-- `shutil.copy2` of a file: into the target where that is a directory, which makes a text of the
joined path. -/
def copy2 (source target : HostPath) (data : Bytes) : Py HostTree Unit := do
  let tree ← get
  let real := if tree.node target = some .dir then target ++ [basename source] else target
  let shown := if tree.node target = some .dir then pyRepr real.text else real.pathRepr
  if real = source then
    throw (.shutilError (source.pathRepr ++ " and " ++ shown ++ " are the same file"))
  else
    writeFile real data

/-- `os.rename`, with what `shutil.move` makes of its failures. -/
def rename (source target real : HostPath) : Py HostTree Unit := do
  let tree ← get
  match tree.node source with
  | none => pure ()
  | some (.file data) =>
      if real ≠ source then
        set ((tree.remove source).putFile real data)
  | some .dir =>
      if source.isPrefixOf real then
        throw (.shutilError ("Cannot move a directory '" ++ source.text ++ "' into itself '"
          ++ target.text ++ "'."))
      else if (tree.node real).isSome then
        throw (.osError .fileExists real.text)
      else
        set ((tree.remove source).graft real (tree.below source))

/-- `shutil.move` of what exists: into the target where that is a directory. -/
def move (source target : HostPath) : Py HostTree Unit := do
  let tree ← get
  if tree.node target = some .dir then
    if source ≠ target then
      let real := target ++ [basename source]
      if source = [] ∨ (tree.node real).isSome then
        throw (.shutilError ("Destination path '" ++ real.text ++ "' already exists"))
      else
        rename source target real
  else
    rename source target target

end Host

/-- The provider's resolved root. -/
structure FilesystemStorageProvider where
  root : HostPath
deriving DecidableEq, Repr

namespace FilesystemStorageProvider

/-- What the constructor makes. -/
def init (root : HostPath) : Py HostTree FilesystemStorageProvider := do
  Host.mkdir root
  return ⟨root⟩

variable (provider : FilesystemStorageProvider) (codec : Codec)

/-- The path is accepted where its text begins with the root's text. -/
def resolve (rel : List Char) : Except PyExc HostPath :=
  let resolved := HostPath.locate provider.root rel
  if Char.ofNat 0 ∈ rel then
    .error (.valueError "lstat: embedded null character in path")
  else if (HostPath.render provider.root).isPrefixOf (HostPath.render resolved) then .ok resolved
  else
    .error (.storagePermissionDenied ("Path traversal not allowed: " ++ String.ofList rel)
      "resolve")

def requireExists (path : List Char) : Py HostTree HostPath := do
  let resolved ← check (provider.resolve path)
  if ((← get).node resolved).isNone then
    throw (.storageNotFound (String.ofList path))
  return resolved

def pathExists (path : List Char) : Py HostTree Bool := do
  let resolved ← check (provider.resolve path)
  return ((← get).node resolved).isSome

def readBytes (path : List Char) : Py HostTree Bytes := do
  let resolved ← provider.requireExists path
  match (← get).node resolved with
  | some (.file data) => return data
  | _ => throw (.storageNotFound (String.ofList path))

def readText (path : List Char) (encoding : String) : Py HostTree String := do
  check (codec.decode encoding (← provider.readBytes path))

def writeBytes (path : List Char) (data : Bytes) : Py HostTree Unit := do
  let resolved ← check (provider.resolve path)
  Host.mkdir resolved.dropLast
  Host.writeFile resolved data

/-- The file is opened, and emptied, before the text is encoded. -/
def writeText (path : List Char) (text encoding : String) : Py HostTree Unit := do
  let resolved ← check (provider.resolve path)
  Host.mkdir resolved.dropLast
  match codec.encode encoding text with
  | .ok data => Host.writeFile resolved data
  | .error exc =>
      Host.writeFile resolved []
      throw exc

def delete (path : List Char) : Py HostTree Unit := do
  let resolved ← provider.requireExists path
  if (← get).node resolved = some .dir then
    Host.rmtree resolved
  else
    Host.unlink resolved

def copy (src dst : List Char) (endless : Endless) : Py HostTree Unit := do
  let source ← provider.requireExists src
  let target ← check (provider.resolve dst)
  match (← get).node source with
  | some (.file data) =>
      Host.mkdir target.dropLast
      Host.copy2 source target data
  | _ => Host.copytree source target endless

def move (src dst : List Char) : Py HostTree Unit := do
  let source ← provider.requireExists src
  let target ← check (provider.resolve dst)
  Host.mkdir target.dropLast
  Host.move source target

def mkdir (path : List Char) : Py HostTree Unit := do
  let resolved ← check (provider.resolve path)
  Host.mkdir resolved

def checksum (path : List Char) (algorithm : String) : Py HostTree String := do
  check (codec.computeChecksum (← provider.readBytes path) algorithm)

end FilesystemStorageProvider

end LexMind.Storage
