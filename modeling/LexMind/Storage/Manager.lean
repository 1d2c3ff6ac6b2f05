import LexMind.Lib.Run
import LexMind.Storage.Filesystem
import LexMind.Storage.Uri

set_option autoImplicit false

namespace LexMind.Storage

open Lib

/-- The manager with its provider and the host's codecs. -/
structure StorageManager where
  provider : FilesystemStorageProvider
  codec : Codec

/-- The workspace of the URI plays no part. -/
def extractPath (uri : String) : Except PyExc (List Char) := do
  let parsed ← parseUri uri
  return parsed.path

namespace StorageManager

variable (manager : StorageManager)

def save (uri : String) (data : Bytes) : Py HostTree Unit := do
  let path ← check (extractPath uri)
  manager.provider.writeBytes path data

def load (uri : String) : Py HostTree Bytes := do
  let path ← check (extractPath uri)
  manager.provider.readBytes path

def loadText (uri encoding : String) : Py HostTree String := do
  let path ← check (extractPath uri)
  manager.provider.readText manager.codec path encoding

def saveText (uri text encoding : String) : Py HostTree Unit := do
  let path ← check (extractPath uri)
  manager.provider.writeText manager.codec path text encoding

def delete (uri : String) : Py HostTree Unit := do
  let path ← check (extractPath uri)
  manager.provider.delete path

def copy (srcUri dstUri : String) (endless : Endless) : Py HostTree Unit := do
  let srcPath ← check (extractPath srcUri)
  let dstPath ← check (extractPath dstUri)
  manager.provider.copy srcPath dstPath endless

def move (srcUri dstUri : String) : Py HostTree Unit := do
  let srcPath ← check (extractPath srcUri)
  let dstPath ← check (extractPath dstUri)
  manager.provider.move srcPath dstPath

def checksum (uri algorithm : String) : Py HostTree String := do
  let path ← check (extractPath uri)
  manager.provider.checksum manager.codec path algorithm

def objectExists (uri : String) : Py HostTree Bool := do
  let path ← check (extractPath uri)
  manager.provider.pathExists path

def mkdir (uri : String) : Py HostTree Unit := do
  let path ← check (extractPath uri)
  manager.provider.mkdir path

end StorageManager

/-- The calls that change what is stored. -/
inductive StorageCall
  | save (uri : String) (data : Bytes)
  | saveText (uri text encoding : String)
  | delete (uri : String)
  | copy (srcUri dstUri : String) (endless : Endless)
  | move (srcUri dstUri : String)
  | mkdir (uri : String)

def StorageCall.program (manager : StorageManager) : StorageCall → Py HostTree Unit
  | save uri data => manager.save uri data
  | saveText uri text encoding => manager.saveText uri text encoding
  | delete uri => manager.delete uri
  | copy srcUri dstUri endless => manager.copy srcUri dstUri endless
  | move srcUri dstUri => manager.move srcUri dstUri
  | mkdir uri => manager.mkdir uri

def storageStep (manager : StorageManager) (tree : HostTree) (storageCall : StorageCall) :
    Except PyExc Unit × HostTree :=
  call (storageCall.program manager) tree

end LexMind.Storage
