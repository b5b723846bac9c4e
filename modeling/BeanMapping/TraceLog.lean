/-!
# The trace log

A log file that is made when something is first written to it. Writers share handles: a handle keeps
the file that it opened last, and opens the file at the path anew when it has none or when nothing is
at the path. A file that was deleted lives on, out of reach, for the handles that keep it.
-/

namespace BeanMapping

/-- The files at one path over time. -/
structure LogDisk where
  /-- Whether the folder of the path is there. -/
  hasFolder : Bool
  /-- The texts of all files that were made at the path, the oldest first. -/
  files : List String
  /-- The place of the file that is at the path now. -/
  linked : Option Nat
deriving DecidableEq, Repr

namespace LogDisk

/-- An empty disk. -/
def fresh (hasFolder : Bool) : LogDisk := ⟨hasFolder, [], none⟩

/-- The file at the path, which is made if there is none. Without a folder it cannot be made. -/
def openFile (d : LogDisk) : Option (Nat × LogDisk) :=
  match d.linked with
  | some file => some (file, d)
  | none =>
    if d.hasFolder then
      some (d.files.length, { d with files := d.files ++ [""], linked := some d.files.length })
    else none

/-- Appends a text to a file. -/
def append (d : LogDisk) (file : Nat) (text : String) : LogDisk :=
  { d with files := d.files.modify file (· ++ text) }

/-- The text of the file at the path. -/
def text? (d : LogDisk) : Option String := d.linked.bind fun file => d.files[file]?

/-- Deletes the file at the path. -/
def remove (d : LogDisk) : LogDisk := { d with linked := none }

/-- Makes the folder of the path. -/
def makeFolder (d : LogDisk) : LogDisk := { d with hasFolder := true }

end LogDisk

/-- A log with its handles and its writers. -/
structure TraceLog where
  disk : LogDisk
  /-- The file that each handle keeps. -/
  handles : List (Option Nat)
  /-- The handle of each writer. -/
  writers : List Nat
deriving DecidableEq, Repr

namespace TraceLog

/-- A log with one handle that keeps no file. -/
def fresh (hasFolder : Bool) : TraceLog := ⟨.fresh hasFolder, [none], []⟩

/-- The log with one more handle. -/
def addHandle (l : TraceLog) : TraceLog := { l with handles := l.handles ++ [none] }

/-- The log with one more writer. -/
def addWriter (l : TraceLog) (handle : Nat) : TraceLog :=
  { l with writers := l.writers ++ [handle] }

/-- The file that a handle writes to, with the disk after it was opened. -/
def fileOf (l : TraceLog) (handle : Nat) : Option (Nat × LogDisk) :=
  match l.handles[handle]?.join, l.disk.linked with
  | some file, some _ => some (file, l.disk)
  | _, _ => l.disk.openFile

/-- Writes a text through a writer; nothing where the file cannot be made. -/
def write (l : TraceLog) (writer : Nat) (text : String) : Option TraceLog := do
  let handle ← l.writers[writer]?
  let (file, disk) ← l.fileOf handle
  return { l with disk := disk.append file text, handles := l.handles.set handle (some file) }

/-- Whether a path has a folder of its own, which is not the folder that the path starts from. -/
def namesFolder (path : String) : Bool :=
  ((path.splitToList (· == '/')).dropLast).any fun part => part != "" && part != "."

end TraceLog

end BeanMapping
