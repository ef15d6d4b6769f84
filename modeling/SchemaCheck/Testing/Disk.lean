import SchemaCheck.Config.Loader
import SchemaCheck.Testing.Shell

/-!
# Disks for tests

A file system for loading configurations: a tree of files in memory, seen from a directory that is
empty but for what a test puts there.
-/

namespace SchemaCheck.Testing

open Host

/-- A tree of files, and the directory in it from which paths are followed. -/
structure Disk where
  files : Files
  directory : Nat

namespace Disk

/-- Where the directory of a test is. -/
def path : String := "/tmp/schema-check-disk"

/-- A disk with an empty directory. -/
def empty : Disk :=
  let (files, directory) := (Shell.files.put path { content := .directory [] }, Chars.ofString path)
  match files.find 0 directory, files.place 0 directory with
  | .ok n, .ok (above, _) =>
    { files := files.modify 0 n fun _ => .directory [(selfName, n), (aboveName, above)]
      directory := n }
  | _, _ => { files, directory := 0 }

/-- Puts a file into the directory. -/
def withFile (d : Disk) (name : String) (content : Bytes) : Disk :=
  { d with files := (d.files.create 0 d.directory (Chars.ofString name)
      { content := .ofText (Chars.ofBytes content) }).1 }

/-- Puts an empty directory into the directory. -/
def withDirectory (d : Disk) (name : String) : Disk :=
  { d with files := (d.files.createDirectory 0 d.directory (Chars.ofString name)).1 }

/-- What a path leads to. -/
def find (d : Disk) (path : String) : Except Refusal Content :=
  (d.files.find d.directory (Chars.ofString path)).map d.files.content

/-- The text that can be read at a path. -/
def read (d : Disk) (path : String) : Except String String :=
  match d.find path with
  | .error e => .error e.text
  | .ok (.directory _) => .error Refusal.isDirectory.text
  | .ok (.program _) => .error "stream did not contain valid UTF-8"
  | .ok content =>
    match (Chars.toBytes content.text).toString? with
    | some text => .ok text
    | none => .error "stream did not contain valid UTF-8"

/-- The disk as a file system. -/
def fileSystem (d : Disk) : FileSystem Id where
  read := d.read
  isFile path :=
    match d.find path with
    | .ok (.file ..) | .ok (.program _) => true
    | _ => false
  currentDir := some path

end Disk

end SchemaCheck.Testing
