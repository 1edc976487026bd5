import Criteria.Log

/-!
# Log files

The files of a process and the directory tree below the place where it runs. A path is text; it is
followed name by name. One that climbs out of the tree, or starts elsewhere, ends outside. Nothing
is known about what is there: names outside are not resolved, and which attempts to get at
directories and files there work is left open.
-/

namespace Criteria.Log

inductive Place where
  | inside (names : List String)
  /-- The way that was taken after the tree had been left. -/
  | outside (names : List String)
deriving DecidableEq, Repr

namespace Place

def step (p : Place) (name : String) : Place :=
  if name = "" || name = "." then p
  else
    match p with
    | outside names => outside (names ++ [name])
    | inside names =>
      if name = ".." then (if names.isEmpty then outside [name] else inside names.dropLast)
      else inside (names ++ [name])

def follow (p : Place) (names : List String) : Place := names.foldl step p

def names : Place → List String
  | inside names => names
  | outside names => names

end Place

namespace Path

def maxBytes : Nat := 4095

def maxNameBytes : Nat := 255

def isValid (path : String) : Bool := path.utf8ByteSize ≤ maxBytes && !path.toList.contains '\x00'

def origin (path : String) : Place :=
  if path.toList.head? = some '/' then .outside ["/"] else .inside []

def parts (path : String) : List String := (path.toList.splitOn '/').map String.ofList

def names (path : String) : List String :=
  (parts path).filter fun name => name ≠ "" ∧ name ≠ "."

def place (path : String) : Place := (origin path).follow (names path)

def join (directory name : String) : String :=
  if directory.toList.getLast?.all (· == '/') then directory ++ name else directory ++ "/" ++ name

def trimEnd : List String → List String
  | "" :: rest => trimEnd rest
  | "." :: rest => trimEnd rest
  | names => names

def parent (path : String) : String :=
  "/".intercalate (trimEnd (parts path).dropLast.reverse).reverse

def endsInDot (path : String) : Bool := ((parts path).filter (· ≠ "")).getLast? = some "."

end Path

inductive Attempt where
  | enter (directory : List String)
  | make (directory : List String)
  | write (file : List String)
deriving DecidableEq, Repr

structure FileTree where
  directories : List (List String) := []
  files : List (Place × List Record) := []
  attempts : List Attempt := []
  /-- Whether an attempt works after those that have worked before it. -/
  permits : List Attempt → Attempt → Bool := fun _ _ => true

namespace FileTree

def hasFile (t : FileTree) (place : Place) : Bool := t.files.any fun file => file.1 == place

def hasDirectory (t : FileTree) (path : List String) : Bool :=
  path.isEmpty || t.directories.contains path

def contents (t : FileTree) (place : Place) : List Record := (t.files.lookup place).getD []

def attempt? (t : FileTree) (a : Attempt) : Option FileTree :=
  if t.permits t.attempts a then some { t with attempts := t.attempts ++ [a] } else none

def makeDirectory? (t : FileTree) : Place → Option FileTree
  | .outside path => t.attempt? (.make path)
  | .inside path =>
    if t.hasFile (.inside path) then none
    else if t.hasDirectory path then some t
    else some { t with directories := t.directories ++ [path] }

/-- Makes the directories that names lead through. Those made before a name failed stay. -/
def makeNames (t : FileTree) (p : Place) : List String → FileTree × Bool
  | [] => (t, true)
  | name :: rest =>
    let short := name.utf8ByteSize ≤ Path.maxNameBytes
    match if short then t.makeDirectory? (p.step name) else none with
    | some t => makeNames t (p.step name) rest
    | none => (t, false)

def isDirectory (t : FileTree) : Place → Bool
  | .outside path => t.permits t.attempts (.enter path)
  | .inside path => t.hasDirectory path

/-- Makes a directory and those that it stands in. A path that ends in a dot makes all but the last,
which has to be there. -/
def makePath (t : FileTree) (path : String) : FileTree × Bool :=
  if !Path.isValid path then (t, false)
  else if Path.endsInDot path then
    let made := t.makeNames (Path.origin path) (Path.names path).dropLast
    (made.1, made.2 && made.1.isDirectory (Path.place path))
  else t.makeNames (Path.origin path) (Path.names path)

def touch (t : FileTree) (place : Place) : FileTree :=
  if t.hasFile place then t else { t with files := t.files ++ [(place, [])] }

def openFile? (t : FileTree) : Place → Option FileTree
  | .outside path => (t.attempt? (.write path)).map fun t => t.touch (.outside path)
  | .inside path => if t.hasDirectory path then none else some (t.touch (.inside path))

def openPath (t : FileTree) (path : String) : FileTree × Bool :=
  match t.makePath (Path.parent path) with
  | (t, false) => (t, false)
  | (t, true) =>
    match if Path.isValid path then t.openFile? (Path.place path) else none with
    | some t => (t, true)
    | none => (t, false)

def openPaths (t : FileTree) : List String → FileTree × Bool
  | [] => (t, true)
  | path :: rest =>
    match t.openPath path with
    | (t, true) => openPaths t rest
    | (t, false) => (t, false)

def append (t : FileTree) (record : Record) (place : Place) : FileTree :=
  { t with files := t.files.map fun file =>
      if file.1 = place then (file.1, file.2 ++ [record]) else file }

def pathText (path : List String) : String := "/".intercalate path

/-- The lines of a text. A line ends in a line feed, or in a carriage return and a line feed. -/
def linesOf (text : String) : List String :=
  (text.splitOn "\n").map fun line =>
    if line.endsWith "\r" then (line.dropEnd 1).toString else line

def listing (t : FileTree) : List (String × List String) :=
  let files := t.files.filterMap fun
    | (.inside path, records) =>
      some (pathText path, records.flatMap fun record => linesOf record.text)
    | (.outside _, _) => none
  files.mergeSort fun a b => a.1 ≤ b.1

end FileTree

end Criteria.Log
