import ActivityReport.Text.Quoted
import ActivityReport.Text.Utf8

/-!
# Resources

The tree of files that the configuration is read from. A path is written without empty parts and single
dots; a path that begins at the root replaces what it is joined to. A file is found by walking the tree
part by part, where two dots lead one step back. Of the directories around the tree nothing is known but
that the one a walk begins in is there. A name that is too long cannot be looked up at all.
-/

namespace ActivityReport

/-- A path: how it begins and its parts. -/
structure FilePath where
  root : String
  parts : List String
  deriving DecidableEq, Repr

namespace FilePath

/-- The parts of a path that count. -/
def split (s : String) : List String := (s.splitOn "/").filter fun part => part != "" && part != "."

/-- Reads a path; exactly two slashes at the beginning are not one. -/
def ofString (s : String) : FilePath :=
  let slashes := (s.toList.takeWhile (· == '/')).length
  ⟨if slashes = 0 then "" else if slashes = 2 then "//" else "/", split s⟩

/-- The path followed by another one. -/
def join (p : FilePath) (s : String) : FilePath :=
  let q := ofString s
  if q.root = "" then ⟨p.root, p.parts ++ q.parts⟩ else q

/-- The path as a text. -/
def text (p : FilePath) : String :=
  let body := "/".intercalate p.parts
  if p.root = "" && body = "" then "." else p.root ++ body

end FilePath

/-- A tree of files below a root. -/
structure Resources where
  root : FilePath
  files : List (List String × List UInt8)
  deriving Repr

namespace Resources

/-- A tree without files. -/
def empty (root : String) : Resources := ⟨FilePath.ofString root, []⟩

/-- Whether some parts lead to a directory. -/
def isDirectory (r : Resources) (parts : List String) : Bool :=
  parts.isEmpty || r.files.any fun f => parts.length < f.1.length && f.1.take parts.length == parts

/-- The most bytes that the name of a file may have. -/
def maxNameBytes : Nat := 255

/-- The most bytes that a path may have. -/
def maxPathBytes : Nat := 4095

/-- A place that a walk has come to: inside the tree, with the parts that lead to it, last first, or a
directory around the tree. -/
inductive Place where
  | inside (reversed : List String)
  | around
  deriving Repr

/-- What is known of a path. -/
inductive Sought where
  | at (place : Place)
  | nothing
  | tooLong
  deriving Repr

/-- Where a part leads from a directory; around the tree only the way up is known. -/
def enter (part : String) : Place → Option Place
  | .inside [] => some (if part = ".." then .around else .inside [part])
  | .inside (last :: up) => some (.inside (if part = ".." then up else part :: last :: up))
  | .around => if part = ".." then some .around else none

/-- Where some parts lead from a place, walking one after the other. -/
def walk (r : Resources) (here : Place) : List String → Sought
  | [] => .at here
  | part :: rest =>
    if !isThere here then .nothing
    else if part.utf8ByteSize > maxNameBytes then .tooLong
    else
      match enter part here with
      | some next => walk r next rest
      | none => .nothing
where
  /-- Whether a place is a directory. -/
  isThere : Place → Bool
  | .inside reversed => r.isDirectory reversed.reverse
  | .around => true

/-- Where a path leads; one with a null character leads nowhere. -/
def seek (r : Resources) (p : FilePath) : Sought :=
  if p.text.toList.contains '\x00' then .nothing
  else if p.text.utf8ByteSize > maxPathBytes then .tooLong
  else if !r.files.isEmpty && p.root = r.root.root && p.parts.take r.root.parts.length = r.root.parts then
    r.walk (.inside []) (p.parts.drop r.root.parts.length)
  else r.walk .around p.parts

/-- A path that cannot be looked up because it, or a name in it, is too long. -/
structure LongPath where
  path : FilePath
  deriving DecidableEq, Repr

/-- The fault in words. -/
def LongPath.message (f : LongPath) : String :=
  s!"[Errno 36] File name too long: {Text.quoted f.path.text}"

/-- The contents of the file at a path, when there is one; what was written last counts. -/
def file? (r : Resources) (p : FilePath) : Except LongPath (Option (List UInt8)) :=
  match r.seek p with
  | .tooLong => .error ⟨p⟩
  | .at (.inside reversed) => .ok ((r.files.reverse.find? (·.1 == reversed.reverse)).map Prod.snd)
  | _ => .ok none

end Resources

/-- A text whose lines all end in a line feed, however they ended before. -/
def unifyLineEnds : List Char → List Char
  | [] => []
  | '\r' :: '\n' :: rest => '\n' :: unifyLineEnds rest
  | c :: rest => (if c == '\r' then '\n' else c) :: unifyLineEnds rest

end ActivityReport
