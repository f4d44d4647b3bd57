/-!
# The file of a store

What can stand at a path, and how a file is replaced: the new content goes to a temporary file
beside it first, which is then moved into its place. Both steps can fail, the first one also
half-way; the old file is still there then.
-/
namespace ActualState

/-- What stands at a path. -/
inductive Entry where
  | absent
  | directory
  | file (content : List UInt8)
  deriving DecidableEq, Repr, Inhabited

/-- The path of a store and the temporary path beside it, and what the disk permits. -/
structure Disk where
  target : Entry := .absent
  temporary : Entry := .absent
  /-- How many bytes a new file can take; none if it can take all. -/
  room : Option Nat := none
  /-- Whether a file can be moved. -/
  movable : Bool := true
  deriving DecidableEq, Repr, Inhabited

namespace Disk

/-- Whether there is room for so many bytes. -/
def hasRoom (d : Disk) (size : Nat) : Bool := d.room.all fun n => size ≤ n

/-- Writes the temporary file; a directory in its place stops it. Without room for the whole
content a part of it is written. The second part says whether that worked. -/
def writeTemporary (d : Disk) (content : List UInt8) : Disk × Bool :=
  if d.temporary = .directory then (d, false)
  else if d.hasRoom content.length then ({ d with temporary := .file content }, true)
  else ({ d with temporary := .file (content.take (d.room.getD 0)) }, false)

/-- Moves the temporary file into place; a directory there stops it. The second part says whether
that worked. -/
def rename (d : Disk) : Disk × Bool :=
  if d.target = .directory || !d.movable then (d, false)
  else ({ d with target := d.temporary, temporary := .absent }, true)

/-- Replaces the file. The second part says whether that worked. -/
def replace (d : Disk) (content : List UInt8) : Disk × Bool :=
  match d.writeTemporary content with
  | (d, false) => (d, false)
  | (d, true) => d.rename

end Disk

end ActualState
