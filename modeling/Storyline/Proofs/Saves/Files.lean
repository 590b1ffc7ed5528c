import Storyline.Proofs.CommandLine.Paths
import Storyline.Proofs.Saves.Requests

/-!
A store in a folder beside a store in memory. Each key that can be kept has a file of its own right in
the folder, so under those keys the two stores answer alike, whatever else is asked of them; a key
that cannot be kept is refused and touches no file.
-/

namespace Storyline

def StoreRequest.refused (e : StoreError) : StoreRequest → StoreAnswer
  | get _ => .found (.error e)
  | set _ _ | delete _ => .done (.error e)

theorem MemoryStore.find?_answer (m : MemoryStore) {r : StoreRequest} {key : String}
    (other : key ≠ r.key) :
    (Store.answer r m).2.entries.find? key = m.entries.find? key := by
  cases r with
  | get => rfl
  | set key' text => exact Dict.find?_insert_of_ne m.entries other text
  | delete => exact Dict.find?_erase_of_ne m.entries other

namespace FileStore

/-- One letter or digit of ASCII, underscore or hyphen, or more of them. -/
def IsPlain (key : String) : Prop := key ≠ "" ∧ ∀ c ∈ key.toList,
  ('A' ≤ c ∧ c ≤ 'Z') ∨ ('a' ≤ c ∧ c ≤ 'z') ∨ ('0' ≤ c ∧ c ≤ '9') ∨ c = '_' ∨ c = '-'

theorem isKeyChar_iff (c : Char) : isKeyChar c = true ↔
    ('A' ≤ c ∧ c ≤ 'Z') ∨ ('a' ≤ c ∧ c ≤ 'z') ∨ ('0' ≤ c ∧ c ≤ '9') ∨ c = '_' ∨ c = '-' := by
  have spelled : isKeyChar c = (decide ('A' ≤ c ∧ c ≤ 'Z') ||
      (decide ('a' ≤ c) && decide (c ≤ 'z')) || (decide ('0' ≤ c) && decide (c ≤ '9')) ||
      c == '_' || c == '-') := rfl
  simp only [spelled, Bool.or_eq_true, Bool.and_eq_true, decide_eq_true_eq, beq_iff_eq, or_assoc]

theorem isKey_iff (key : String) : isKey key = true ↔ IsPlain key := by
  unfold isKey IsPlain
  rw [Bool.and_eq_true, Bool.not_eq_true', ← Bool.not_eq_true, String.isEmpty_iff, List.all_eq_true]
  simp only [isKeyChar_iff]

theorem fileName_injective : Function.Injective fileName := fun _ _ same =>
  (String.append_left_inj ".json").mp same

theorem IsPlain.single {key : String} (plain : IsPlain key) : '/' ∉ (fileName key).toList := by
  unfold fileName
  rw [String.toList_append, List.mem_append]
  rintro (inside | inside)
  · exact absurd ((isKeyChar_iff '/').mpr (plain.2 _ inside)) (by decide)
  · exact absurd inside (by decide)

/-- The file of a key has a name that is short enough, by itself and after the path of the folder. -/
def Admits (s : FileStore) (key : String) : Prop :=
  (fileName key).utf8ByteSize ≤ maxNameLength ∧ (fileName key).utf8ByteSize ≤ s.room

theorem Admits.isShort {s : FileStore} {key : String} (h : s.Admits key) :
    isShort (fileName key) = true := decide_eq_true h.1

/-- The folder of a store is there or can be made, with some files in it; under each key that can be
kept these are the texts of a store in memory. -/
structure Mirrors (s : FileStore) (files : Dict FileEntry) (m : MemoryStore) : Prop where
  folder : s.folder = .present files
  fresh : s.asked = false → files = .empty
  agree : ∀ key, IsPlain key → s.Admits key →
    files.find? (fileName key) = (m.entries.find? key).map .text

section

variable {s : FileStore} {files : Dict FileEntry} {m : MemoryStore} {key : String}

theorem answer_refused (r : StoreRequest) (bad : ¬IsPlain r.key) (s : FileStore) :
    Store.answer r s = (r.refused (.invalidKey r.key), s) := by
  have invalid : isKey r.key = false := by
    rw [← Bool.not_eq_true]
    exact fun valid => bad ((isKey_iff _).mp valid)
  cases r with
  | get key | set key text | delete key =>
    have invalid : isKey key = false := invalid
    simp only [Store.answer, Store.get, Store.set, Store.delete, withFile, invalid]
    rfl

theorem get_plain (plain : IsPlain key) (s : FileStore) :
    Store.get key s = ((s.read (fileName key)).mapError (.io key), s) := if_pos ((isKey_iff key).mpr plain)

theorem set_plain (plain : IsPlain key) (text : String) (s : FileStore) : Store.set key text s =
    ((s.write (fileName key) text).1.mapError (.io key), (s.write (fileName key) text).2) :=
  if_pos ((isKey_iff key).mpr plain)

theorem delete_plain (plain : IsPlain key) (s : FileStore) : Store.delete key s =
    ((s.remove (fileName key)).1.mapError (.io key), (s.remove (fileName key)).2) :=
  if_pos ((isKey_iff key).mpr plain)

namespace Mirrors

theorem read (h : Mirrors s files m) (plain : IsPlain key) (admits : s.Admits key) :
    s.read (fileName key) = .ok (m.entries.find? key) := by
  obtain ⟨folder, asked, room⟩ := s
  have folder_eq : folder = .present files := h.folder
  have entry := h.agree key plain admits
  unfold FileStore.read hasRoom isShort
  simp only [folder_eq, decide_eq_true admits.1, decide_eq_true admits.2, Bool.not_true,
    Bool.false_eq_true, if_false, if_true, entry]
  cases asked with
  | false =>
    rw [h.fresh rfl, Dict.find?_empty] at entry
    rw [Option.map_eq_none_iff.mp entry.symm]
    rfl
  | true => cases m.entries.find? key <;> rfl

theorem not_folder (h : Mirrors s files m) (plain : IsPlain key) (admits : s.Admits key) :
    files.find? (fileName key) ≠ some .folder := by
  rw [h.agree key plain admits]
  cases m.entries.find? key <;> simp

theorem write (h : Mirrors s files m) (plain : IsPlain key) (admits : s.Admits key) (text : String) :
    s.write (fileName key) text =
      (.ok (), ⟨.present (files.insert (fileName key) (.text text)), true, s.room⟩) := by
  have same : s = ⟨.present files, s.asked, s.room⟩ := by rw [← h.folder]
  rw [same, write_present, if_pos ⟨admits.2, admits.isShort⟩,
    if_neg (h.not_folder plain admits)]

theorem remove (h : Mirrors s files m) (plain : IsPlain key) (admits : s.Admits key) :
    s.remove (fileName key) =
      (.ok (), ⟨.present (files.erase (fileName key)), s.asked, s.room⟩) := by
  have same : s = ⟨.present files, s.asked, s.room⟩ := by rw [← h.folder]
  rw [same, remove_present, if_neg (Nat.not_lt.mpr admits.2)]
  cases asked : s.asked with
  | false => rw [if_pos rfl, h.fresh asked]; rfl
  | true =>
    rw [if_neg nofun, if_pos admits.isShort, if_neg (h.not_folder plain admits)]

theorem next (h : Mirrors s files m) {r : StoreRequest} {s' : FileStore} {files' : Dict FileEntry}
    (folder : s'.folder = .present files') (room : s'.room = s.room)
    (fresh : s'.asked = false → files' = .empty)
    (others : ∀ name, name ≠ fileName r.key → files'.find? name = files.find? name)
    (here : IsPlain r.key → s.Admits r.key → files'.find? (fileName r.key) =
      ((Store.answer r m).2.entries.find? r.key).map .text) :
    Mirrors s' files' (Store.answer r m).2 where
  folder := folder
  fresh := fresh
  agree key plain admits := by
    have admits : s.Admits key := ⟨admits.1, room ▸ admits.2⟩
    by_cases same : key = r.key
    · exact same ▸ here (same ▸ plain) (same ▸ admits)
    · rw [others _ fun names => same (fileName_injective names), m.find?_answer same]
      exact h.agree key plain admits

end Mirrors

section

variable {name : String} (folder : s.folder = .present files)
  (long : ¬(name.utf8ByteSize ≤ s.room ∧ isShort name = true))

include folder long

theorem write_long (text : String) : (s.write name text).2 = { s with asked := true } := by
  have same : s = ⟨.present files, s.asked, s.room⟩ := by rw [← folder]
  rw [same, write_present, if_neg long]

theorem remove_long : (s.remove name).2 = s := by
  have same : s = ⟨.present files, s.asked, s.room⟩ := by rw [← folder]
  rw [same, remove_present]
  split
  · rfl
  · next room =>
    rw [if_neg fun short => long ⟨Nat.not_lt.mp room, short⟩]
    split <;> rfl

end

theorem answer_unfit (folder : s.folder = .present files) {r : StoreRequest}
    (unfit : ¬(IsPlain r.key ∧ s.Admits r.key)) :
    (Store.answer r s).2 = s ∨ (Store.answer r s).2 = { s with asked := true } := by
  by_cases plain : IsPlain r.key
  · have long : ¬((fileName r.key).utf8ByteSize ≤ s.room ∧ isShort (fileName r.key) = true) :=
      fun fits => unfit ⟨plain, of_decide_eq_true fits.2, fits.1⟩
    cases r with
    | get key => exact .inl (congrArg Prod.snd (get_plain plain s))
    | set key text =>
      exact .inr ((congrArg Prod.snd (set_plain plain text s)).trans (write_long folder long text))
    | delete key =>
      exact .inl ((congrArg Prod.snd (delete_plain plain s)).trans (remove_long folder long))
  · exact .inl (congrArg Prod.snd (answer_refused r plain s))

/-- A request under a key that has a file is answered as the store in memory answers it. Whatever is
asked for, all other files are left alone, and after it the stores are still alike. -/
theorem Mirrors.answer (h : Mirrors s files m) (r : StoreRequest) :
    (IsPlain r.key → s.Admits r.key → (Store.answer r s).1 = (Store.answer r m).1) ∧
    ∃ files', Mirrors (Store.answer r s).2 files' (Store.answer r m).2 ∧
      (Store.answer r s).2.room = s.room ∧
      ∀ name, name ≠ fileName r.key → files'.find? name = files.find? name := by
  by_cases fits : IsPlain r.key ∧ s.Admits r.key
  · obtain ⟨plain, admits⟩ := fits
    cases r with
    | get key =>
      have done := get_plain plain s
      rw [h.read plain admits] at done
      have stays : (Store.answer (.get key) s).2 = s := congrArg Prod.snd done
      refine ⟨fun _ _ => congrArg StoreAnswer.found (congrArg Prod.fst done), files, ?_,
        congrArg room stays, fun _ _ => rfl⟩
      rw [stays]
      exact h
    | set key text =>
      have done := set_plain plain text s
      rw [h.write plain admits] at done
      have after : (Store.answer (.set key text) s).2 =
          ⟨.present (files.insert (fileName key) (.text text)), true, s.room⟩ := congrArg Prod.snd done
      have others (name : String) (other : name ≠ fileName key) :=
        Dict.find?_insert_of_ne files other (FileEntry.text text)
      refine ⟨fun _ _ => congrArg StoreAnswer.done (congrArg Prod.fst done),
        files.insert (fileName key) (.text text), ?_⟩
      rw [after]
      refine ⟨h.next rfl rfl nofun others fun _ _ => (Dict.find?_insert_self ..).trans ?_, rfl, others⟩
      exact congrArg (Option.map FileEntry.text) (Dict.find?_insert_self m.entries key text).symm
    | delete key =>
      have done := delete_plain plain s
      rw [h.remove plain admits] at done
      have after : (Store.answer (.delete key) s).2 =
          ⟨.present (files.erase (fileName key)), s.asked, s.room⟩ := congrArg Prod.snd done
      have others (name : String) (other : name ≠ fileName key) := Dict.find?_erase_of_ne files other
      refine ⟨fun _ _ => congrArg StoreAnswer.done (congrArg Prod.fst done),
        files.erase (fileName key), ?_⟩
      rw [after]
      refine ⟨h.next rfl rfl (fun fresh => ?_) others fun _ _ => (Dict.find?_erase_self ..).trans ?_,
        rfl, others⟩
      · rw [h.fresh fresh]
        rfl
      · exact congrArg (Option.map FileEntry.text) (Dict.find?_erase_self m.entries key).symm
  · have leaves : (Store.answer r s).2.folder = .present files ∧ (Store.answer r s).2.room = s.room ∧
        ((Store.answer r s).2.asked = false → files = .empty) := by
      rcases answer_unfit h.folder fits with same | asked
      · rw [same]
        exact ⟨h.folder, rfl, h.fresh⟩
      · rw [asked]
        exact ⟨h.folder, rfl, nofun⟩
    obtain ⟨folder, room, fresh⟩ := leaves
    exact ⟨fun plain admits => absurd ⟨plain, admits⟩ fits, files,
      h.next folder room fresh (fun _ _ => rfl) fun plain admits => absurd ⟨plain, admits⟩ fits,
      room, fun _ _ => rfl⟩

theorem Mirrors.after (h : Mirrors s files m) (made : List StoreRequest) :
    ∃ files', Mirrors (Store.after made s) files' (Store.after made m) ∧
      (Store.after made s).room = s.room := by
  induction made generalizing s files m with
  | nil => exact ⟨files, h, rfl⟩
  | cons r made ih =>
    obtain ⟨-, files', next, room, -⟩ := h.answer r
    obtain ⟨files'', last, same⟩ := ih next
    exact ⟨files'', last, same.trans room⟩

theorem Mirrors.files_eq (h : Mirrors s files m) : s.files = files := by
  unfold FileStore.files
  rw [h.folder]
  cases asked : s.asked with
  | false => exact (h.fresh asked).symm
  | true => rfl

/-- A store in a folder that is there or can be made, beside a store in memory with the same texts.
Whatever has been asked of both, a request under a key of letters and digits of ASCII, underscores and
hyphens whose file has a short enough name is answered alike. A request under any other key is refused
and leaves the store as it is. No request touches any file but that of its key; the files of two keys
are never the same, and the path of a file leads right below the folder. -/
theorem refines_memory (h : Mirrors s files m) :
    (∀ (made : List StoreRequest) (r : StoreRequest),
      let now := Store.after made s
      (IsPlain r.key → s.Admits r.key →
        (Store.answer r now).1 = (Store.answer r (Store.after made m)).1) ∧
      (¬IsPlain r.key → Store.answer r now = (r.refused (.invalidKey r.key), now)) ∧
      ∀ name, name ≠ fileName r.key → (Store.answer r now).2.files.find? name = now.files.find? name) ∧
    (∀ key key', fileName key = fileName key' → key = key') ∧
    ∀ (t : FileTree) (folder key : String), IsPlain key →
      t.placeOf (FileTree.leading folder ++ fileName key) = fileName key :: t.placeOf folder := by
  refine ⟨fun made r => ?_, fun _ _ same => fileName_injective same, fun t folder key plain => ?_⟩
  · obtain ⟨files', stands, room⟩ := h.after made
    obtain ⟨alike, files'', next, -, others⟩ := stands.answer r
    refine ⟨fun plain admits => alike plain ⟨admits.1, room ▸ admits.2⟩,
      fun bad => answer_refused r bad _, fun name other => ?_⟩
    rw [next.files_eq, stands.files_eq]
    exact others name other
  · rw [t.placeOf_leading folder plain.single, t.step_fileName]

theorem mirrors_empty : Mirrors .empty .empty (MemoryStore.mk .empty) where
  folder := rfl
  fresh _ := rfl
  agree _ _ _ := rfl

/-- A key that goes up is refused after a game was saved in a folder that was not there; the game is
found again, and its file is in the folder. -/
theorem refines_memory_first_save :
    let made : List StoreRequest := [.get "slot_1", .set "slot_1" "a game", .set "../slot_1" "none"]
    let now := Store.after made FileStore.empty
    Store.answer (.delete "../slot_1") now = (.done (.error (.invalidKey "../slot_1")), now) ∧
      (Store.answer (.get "slot_1") now).1 = .found (.ok (some "a game")) := by
  intro made now
  have plain : IsPlain "slot_1" := (isKey_iff _).mp (by decide)
  have bad : ¬IsPlain "../slot_1" := fun plain => absurd ((isKey_iff _).mpr plain) (by decide)
  have admits : FileStore.empty.Admits "slot_1" := ⟨by decide, by decide⟩
  obtain ⟨answers, -, -⟩ := refines_memory mirrors_empty
  exact ⟨(answers made (.delete "../slot_1")).2.1 bad,
    ((answers made (.get "slot_1")).1 plain admits).trans rfl⟩

end
end FileStore
end Storyline
