import Storyline.Dict

/-!
Stores that keep texts under keys.

A store is a value; each call answers together with the store after it, so any pattern of failing
calls is the behaviour of some store. The memory store takes every key; the file store keeps each
key in a file of its own and takes only keys that are plain file names.
-/

namespace Storyline

inductive SystemCause
  | notFound
  | alreadyThere
  | notFolder
  | isFolder
  | nameTooLong
  | notText
  | other (words : String)
  deriving DecidableEq

def SystemCause.message : SystemCause → String
  | notFound => "No such file or directory (os error 2)"
  | alreadyThere => "File exists (os error 17)"
  | notFolder => "Not a directory (os error 20)"
  | isFolder => "Is a directory (os error 21)"
  | nameTooLong => "File name too long (os error 36)"
  | notText => "stream did not contain valid UTF-8"
  | other words => words

inductive StoreError
  | unavailable (reason : String)
  | invalidKey (key : String)
  | io (key : String) (cause : SystemCause)
  deriving DecidableEq

def StoreError.message : StoreError → String
  | unavailable reason => s!"Storage unavailable: {reason}"
  | invalidKey key => s!"Invalid storage key: '{key}'"
  | io key cause => s!"IO error on '{key}': {cause.message}"

/-- A store whose states are the values of `σ`. -/
class Store (σ : Type) where
  get : String → σ → Except StoreError (Option String) × σ
  set : String → String → σ → Except StoreError Unit × σ
  /-- Takes a key away; one that is not there is no failure. -/
  delete : String → σ → Except StoreError Unit × σ

/-- A store that lives as long as the program. -/
structure MemoryStore where
  entries : Dict String

instance : Store MemoryStore where
  get key s := (.ok (s.entries.find? key), s)
  set key text s := (.ok (), ⟨s.entries.insert key text⟩)
  delete key s := (.ok (), ⟨s.entries.erase key⟩)

inductive FileEntry
  | text (s : String)
  | binary
  | folder
  deriving DecidableEq

inductive Folder
  | present (files : Dict FileEntry)
  /-- One that cannot be made: why no file in it can be used, and why it was not made when it was
  asked for at first and is not made when it is asked for later. -/
  | blocked (use first later : SystemCause)
  deriving DecidableEq

/-- A store in a folder. Until the folder has been asked for, no file is in it; a file that is to be
written asks for it. A folder that was there from the start counts as asked for. `room` is what the
path of the folder leaves for the name of a file, in bytes. -/
structure FileStore where
  folder : Folder
  asked : Bool
  room : Nat

namespace FileStore

def maxPathLength : Nat := 4095

/-- A folder that is not there yet and can be made. -/
def empty : FileStore := ⟨.present .empty, false, maxPathLength⟩

def files (s : FileStore) : Dict FileEntry :=
  match s.asked, s.folder with
  | true, .present files => files
  | _, _ => .empty

/-- The characters of keys: letters and digits of ASCII, the underscore and the hyphen. -/
def isKeyChar (c : Char) : Bool := c.isAlphanum || c == '_' || c == '-'

def isKey (key : String) : Bool := !key.isEmpty && key.toList.all isKeyChar

def fileName (key : String) : String := key ++ ".json"

def maxNameLength : Nat := 255

def isShort (name : String) : Bool := name.utf8ByteSize ≤ maxNameLength

def withFile {α : Type} (key : String) (s : FileStore)
    (act : String → Except SystemCause α × FileStore) : Except StoreError α × FileStore :=
  if isKey key then
    let (result, s) := act (fileName key)
    (result.mapError (.io key), s)
  else (.error (.invalidKey key), s)

def hasRoom (s : FileStore) (name : String) : Bool := name.utf8ByteSize ≤ s.room

def read (s : FileStore) (name : String) : Except SystemCause (Option String) :=
  if !s.hasRoom name then .error .nameTooLong
  else if !s.asked then .ok none
  else
    match s.folder with
    | .blocked .notFound _ _ => .ok none
    | .blocked use _ _ => .error use
    | .present files =>
      if isShort name then
        match files.find? name with
        | none => .ok none
        | some (.text text) => .ok (some text)
        | some .binary => .error .notText
        | some .folder => .error .isFolder
      else .error .nameTooLong

def write (s : FileStore) (name text : String) : Except SystemCause Unit × FileStore :=
  let again := s.asked
  let s := { s with asked := true }
  match s.folder with
  | .blocked _ first later => (.error (if again then later else first), s)
  | .present files =>
    if s.hasRoom name && isShort name then
      match files.find? name with
      | some .folder => (.error .isFolder, s)
      | _ => (.ok (), { s with folder := .present (files.insert name (.text text)) })
    else (.error .nameTooLong, s)

def remove (s : FileStore) (name : String) : Except SystemCause Unit × FileStore :=
  if !s.hasRoom name then (.error .nameTooLong, s)
  else if !s.asked then (.ok (), s)
  else
    match s.folder with
    | .blocked .notFound _ _ => (.ok (), s)
    | .blocked use _ _ => (.error use, s)
    | .present files =>
      if isShort name then
        match files.find? name with
        | some .folder => (.error .isFolder, s)
        | _ => (.ok (), { s with folder := .present (files.erase name) })
      else (.error .nameTooLong, s)

/-- A folder that is there takes every name that fits, unless a folder has it. -/
theorem write_present (files : Dict FileEntry) (asked : Bool) (room : Nat) (name text : String) :
    write ⟨.present files, asked, room⟩ name text =
      if name.utf8ByteSize ≤ room ∧ isShort name = true then
        if files.find? name = some .folder then
          (.error .isFolder, ⟨.present files, true, room⟩)
        else (.ok (), ⟨.present (files.insert name (.text text)), true, room⟩)
      else (.error .nameTooLong, ⟨.present files, true, room⟩) := by
  simp only [write, hasRoom, Bool.and_eq_true, decide_eq_true_eq]
  congr 1
  split
  · next folder => exact (if_pos folder).symm
  · next other => exact (if_neg other).symm

theorem remove_present (files : Dict FileEntry) (asked : Bool) (room : Nat) (name : String) :
    remove ⟨.present files, asked, room⟩ name =
      if room < name.utf8ByteSize then (.error .nameTooLong, ⟨.present files, asked, room⟩)
      else if asked = false then (.ok (), ⟨.present files, asked, room⟩)
      else if isShort name = true then
        if files.find? name = some .folder then
          (.error .isFolder, ⟨.present files, asked, room⟩)
        else (.ok (), ⟨.present (files.erase name), asked, room⟩)
      else (.error .nameTooLong, ⟨.present files, asked, room⟩) := by
  simp only [remove, hasRoom, Bool.not_eq_true', decide_eq_false_iff_not, Nat.not_le]
  congr 3
  split
  · next folder => exact (if_pos folder).symm
  · next other => exact (if_neg other).symm

end FileStore

instance : Store FileStore where
  get key s := s.withFile key fun name => (s.read name, s)
  set key text s := s.withFile key fun name => s.write name text
  delete key s := s.withFile key fun name => s.remove name

inductive StoreCall
  | get
  | set
  | delete
  deriving DecidableEq

/-- A store of which some calls are cut off. -/
structure Outage (σ : Type) where
  store : σ
  failing : List StoreCall

namespace Outage

variable {σ α : Type}

def attempt (o : Outage σ) (call : StoreCall) (act : σ → Except StoreError α × σ) :
    Except StoreError α × Outage σ :=
  if o.failing.contains call then (.error (.unavailable "offline"), o)
  else
    let (result, store) := act o.store
    (result, { o with store := store })

instance [Store σ] : Store (Outage σ) where
  get key o := o.attempt .get (Store.get key)
  set key text o := o.attempt .set (Store.set key text)
  delete key o := o.attempt .delete (Store.delete key)

end Outage
end Storyline
