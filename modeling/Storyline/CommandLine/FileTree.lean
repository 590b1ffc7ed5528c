import Storyline.Saves.Store

/-!
Files and folders by their paths.

A path is followed part by part, and every part but the last has to be a folder. It starts at the
top of the system or in the folder of the run. Of what is outside that folder only so much is known
as every system has.
-/

namespace Storyline

/-- Files by their paths, with a slash between the parts. A folder is there if it is named or if a
file is in it. A place is given by the parts of its path with the last one first. The top of the
system is a part without letters; what does not lie below it lies in the folder of the run. -/
structure FileTree where
  files : Dict FileEntry
  outside : List String

namespace FileTree

def pathOf (place : List String) : String := String.intercalate "/" place.reverse

def topFolders : List String := ["bin", "boot", "dev", "etc", "home", "lib", "media", "mnt", "opt",
  "proc", "root", "run", "sbin", "srv", "sys", "tmp", "usr", "var"]

def inputPath : String := "/proc/self/fd/0"

/-- Files of which it is known how they begin: the device that is always empty, the input as long as
nothing is in it, and what a system tells of its users, its network and itself. -/
def knownFiles : List (String × String) := [("/dev/null", ""), (inputPath, ""),
  ("/etc/hosts", "127.0.0.1\tlocalhost\n"), ("/etc/passwd", "root:x:0:0:root:/root:/bin/sh\n"),
  ("/proc/version", "Linux version\n")]

/-- Files of which nothing but their being there is known: the outputs of the program, programs, and
devices. -/
def unknownFiles : List String := ["/proc/self/fd/1", "/proc/self/fd/2", "/proc/self/exe",
  "/bin/sh", "/dev/full", "/dev/random", "/dev/tty", "/dev/urandom", "/dev/zero"]

/-- Places with a second path: the ends of the program, the folder of the run, and the top. -/
def links : List (String × List String) := [
  ("/dev/fd", ["fd", "self", "proc", ""]),
  ("/dev/stdin", ["0", "fd", "self", "proc", ""]),
  ("/dev/stdout", ["1", "fd", "self", "proc", ""]),
  ("/dev/stderr", ["2", "fd", "self", "proc", ""]),
  ("/proc/self/cwd", []),
  ("/proc/self/root", [""])]

def bare (outside : List String) : FileTree where
  files := .ofList (topFolders.map (fun name => ("/" ++ name, .folder))
    ++ knownFiles.map (fun file => (file.1, .text file.2))
    ++ unknownFiles.map (fun path => (path, .binary)))
  outside := outside

def withInput (t : FileTree) (input : FileEntry) : FileTree :=
  { t with files := t.files.insert inputPath input }

def aim (place : List String) : List String :=
  ((links.find? fun link => link.1 == pathOf place).map (·.2)).getD place

/-- One folder up. Above the top there is nothing else. -/
def up (t : FileTree) : List String → List String
  | [] => t.outside
  | [""] => [""]
  | _ :: rest => rest

def isIdle (part : String) : Bool := part.isEmpty || part == "."

def step (t : FileTree) (place : List String) (part : String) : List String :=
  if isIdle part then place
  else if part == ".." then t.up place
  else aim (part :: place)

def start (path : String) : List String := if path.startsWith "/" then [""] else []

/-- The parts of a path. A slash at its end is followed by a part without letters. -/
def parts (path : String) : List String := (path.toList.splitOn '/').map String.ofList

def names (path : String) : List String := (parts path).filter fun part => !part.isEmpty

def along (t : FileTree) (place : List String) : List String → List (List String)
  | [] => []
  | part :: rest => t.step place part :: t.along (t.step place part) rest

/-- Where a path leads if all of its folders are there. -/
def placeOf (t : FileTree) (path : String) : List String := (parts path).foldl t.step (start path)

/-- Whether a place is known to be a folder: the folder of the run and those around it. -/
def isTop (t : FileTree) (place : List String) : Bool :=
  place.isEmpty || place == [""] || place.isSuffixOf t.outside

/-- Whether nothing can be made at a place. What the system tells of itself is not changed. -/
def isSealed (place : List String) : Bool := ["proc", ""].isSuffixOf place

def entriesIn (t : FileTree) (place : List String) : Dict FileEntry :=
  let before := (if place.isEmpty then "" else pathOf place ++ "/").toList
  .ofList (t.files.entries.filterMap fun e =>
    if before.isPrefixOf e.1.toList then
      let rest := e.1.toList.drop before.length
      let name := String.ofList (rest.takeWhile (· != '/'))
      if name.isEmpty then none
      else some (name, if rest.contains '/' then .folder else e.2)
    else none)

def at? (t : FileTree) (place : List String) : Option FileEntry :=
  match t.files.find? (pathOf place) with
  | some entry => some entry
  | none => if t.isTop place || !(t.entriesIn place).isEmpty then some .folder else none

/-- Follows parts of a path from a place on. All that is passed has to be a folder. -/
def follow (t : FileTree) (place : List String) : List String → Except SystemCause (List String)
  | [] => .ok place
  | part :: rest =>
    match t.at? place with
    | none => .error .notFound
    | some .folder =>
      if FileStore.isShort part || isSealed place then t.follow (t.step place part) rest
      else .error .nameTooLong
    | some _ => .error .notFolder

def locate (t : FileTree) (path : String) (parts : List String) :
    Except SystemCause (List String) :=
  if path.isEmpty then .error .notFound
  else if FileStore.maxPathLength < path.utf8ByteSize then .error .nameTooLong
  else t.follow (start path) parts

def read (t : FileTree) (path : String) : Except SystemCause String := do
  match t.at? (← t.locate path (parts path)) with
  | none => .error .notFound
  | some (.text text) => .ok text
  | some .binary => .error .notText
  | some .folder => .error .isFolder

def leadsToInput (t : FileTree) (path : String) : Bool :=
  match t.locate path (parts path) with
  | .ok place => pathOf place == inputPath
  | .error _ => false

def isFolder (t : FileTree) (path : String) : Bool :=
  match t.locate path (parts path) with
  | .ok place => t.at? place == some .folder
  | .error _ => false

def makeFolder (t : FileTree) (path : String) : Except SystemCause FileTree := do
  let place ← t.locate path (names path)
  let last := (names path).getLast?
  if last == some "." || last == some ".." || (t.at? place).isSome then .error .alreadyThere
  else if isSealed place then .error .notFound
  else .ok { t with files := t.files.insert (pathOf place) .folder }

/-- Makes the first of some folders; if that needs the others, each in the one after it. -/
def makeEach (t : FileTree) : List String → Except SystemCause Unit × FileTree
  | [] => (.ok (), t)
  | path :: outer =>
    match t.makeFolder path with
    | .error .notFound =>
      match t.makeEach outer with
      | (.error cause, t) => (.error cause, t)
      | (.ok (), t) => made t path (t.makeFolder path)
    | result => made t path result
where
  made (t : FileTree) (path : String) : Except SystemCause FileTree →
      Except SystemCause Unit × FileTree
    | .ok t => (.ok (), t)
    | .error cause =>
      (if cause = .alreadyThere && t.isFolder path then .ok () else .error cause, t)

/-- The parts of a path without those that lead nowhere, but for a first one. -/
def components (path : String) : List String :=
  match names path with
  | [] => []
  | first :: rest =>
    if path.startsWith "/" then (first :: rest).filter (!isIdle ·)
    else first :: rest.filter (!isIdle ·)

def outerFolders (path : String) : List String :=
  let before := if path.startsWith "/" then "/" else ""
  around before (components path).reverse.tail
where
  around (before : String) : List String → List String
    | [] => []
    | part :: outer => (before ++ pathOf (part :: outer)) :: around before outer

def makeFolders (t : FileTree) (path : String) : Except SystemCause Unit × FileTree :=
  if (components path).isEmpty then (.ok (), t) else t.makeEach (path :: outerFolders path)

/-- What is in the folder at a path, which is the folder of the run if it has no parts. -/
def filesAt (t : FileTree) (path : String) : Except SystemCause (Dict FileEntry) := do
  let place ← t.follow (start path) (names path)
  match t.at? place with
  | none => .error .notFound
  | some .folder => .ok (t.entriesIn place)
  | some _ => .error .notFolder

def leading (folder : String) : String :=
  if folder.isEmpty || folder.endsWith "/" then folder else folder ++ "/"

def folderAfter (t : FileTree) (path : String) : Except SystemCause Unit → Folder
  | .ok () => .present ((t.filesAt path).toOption.getD .empty)
  | .error first =>
    .blocked (causeOr first (t.filesAt path)) first (causeOr first (t.makeFolders path).1)
where
  causeOr {α : Type} (cause : SystemCause) : Except SystemCause α → SystemCause
    | .ok _ => cause
    | .error cause => cause

/-- The store in a folder. Where nothing can be made, no file is found. -/
def store (t : FileTree) (path : String) : FileStore :=
  let room := FileStore.maxPathLength - (leading path).utf8ByteSize
  match t.filesAt path with
  | .ok files =>
    if isSealed (t.placeOf path) then ⟨.blocked .notFound .notFound .notFound, true, room⟩
    else ⟨.present files, true, room⟩
  | .error cause =>
    let (made, after) := t.makeFolders path
    ⟨after.folderAfter path made, cause != .notFound, room⟩

def write (t : FileTree) (path : String) (entry : FileEntry) : FileTree :=
  let t := ((outerFolders path).head?.map fun folder => (t.makeFolders folder).2).getD t
  { t with files := t.files.insert (pathOf (t.placeOf path)) entry }

def withFiles (t : FileTree) (path : String) (files : Dict FileEntry) : FileTree :=
  let place := t.placeOf path
  let old := (t.entriesIn place).entries.filter fun e => e.2 != .folder
  let new := files.entries.filter fun e => e.2 != .folder
  let cleared := old.foldl (fun files e => files.erase (pathOf (e.1 :: place))) t.files
  { t with files := new.foldl (fun files e => files.insert (pathOf (e.1 :: place)) e.2) cleared }

def withStore (t : FileTree) (path : String) (s : FileStore) : FileTree :=
  match s.asked, s.folder with
  | false, _ => t
  | true, .blocked .. => (t.makeFolders path).2
  | true, .present files => (t.makeFolders path).2.withFiles path files

end FileTree
end Storyline
