import ActualState.Store.Disk

/-!
# Paths in a working directory

A path leads from the working directory, or from the root, from name to name; each name but the
last must be that of a directory. Of what is outside of the working directory nothing is known
to exist, and everything can be made.
-/
namespace ActualState.Startup

/-- What there is, by the names that lead to it, innermost first. -/
structure Folder where
  entries : List (List String × Entry) := []
  deriving DecidableEq, Repr, Inhabited

namespace Folder

/-- The longest name, in bytes. -/
def maxName : Nat := 255

/-- Whether there can be nothing but a directory: the working directory, the root, and all above
the working directory. -/
def isTop (names : List String) : Bool := names.all fun n => n = ".." || n = "/"

/-- What the names lead to. -/
def at_ (f : Folder) (names : List String) : Entry :=
  if isTop names then .directory else (f.entries.lookup names).getD .absent

/-- With something at the end of names. -/
def put (f : Folder) (names : List String) (e : Entry) : Folder := ⟨(names, e) :: f.entries⟩

/-- One step up. -/
def up (names : List String) : List String :=
  match names with
  | [] => [".."]
  | ".." :: _ => ".." :: names
  | "/" :: _ => names
  | _ :: outer => outer

/-- Where a path begins, and its parts. -/
def split (path : String) : List String × List String :=
  (if path.startsWith "/" then ["/"] else [], (path.splitOn "/"))

/-- What the parts of a path lead to. An empty part means the directory itself. -/
def walk (f : Folder) (names : List String) : List String → Entry
  | [] => f.at_ names
  | part :: rest =>
    if f.at_ names = .directory then
      if part = "" || part = "." then f.walk names rest
      else if part = ".." then f.walk (up names) rest
      else f.walk (part :: names) rest
    else .absent

/-- Whether a path can be one at all. -/
def isPath (path : String) : Bool := path ≠ "" && !path.contains '\x00'

/-- What stands at a path. -/
def lookup (f : Folder) (path : String) : Entry :=
  if isPath path then
    let (start, parts) := split path
    f.walk start parts
  else .absent

/-- Makes the directories of a path, one after the other. The second part says whether that
worked; the directories before the one that failed stay. -/
def make (f : Folder) (names : List String) : List String → Folder × Bool
  | [] => (f, true)
  | ".." :: rest => f.make (up names) rest
  | name :: rest =>
    let names := name :: names
    match f.at_ names with
    | .directory => f.make names rest
    | .file _ => (f, false)
    | .absent =>
      if maxName < name.utf8ByteSize then (f, false)
      else (f.put names .directory).make names rest

/-- The names that lead to the directory of a path. -/
def parents (path : String) : List String :=
  ((split path).2.filter fun p => p ≠ "" && p ≠ ".").dropLast

/-- Makes the directories that lead to a path. -/
def makeParents (f : Folder) (path : String) : Folder × Bool :=
  if (parents path).isEmpty then (f, true)
  else if path.contains '\x00' then (f, false)
  else f.make (split path).1 (parents path)

end Folder

end ActualState.Startup
