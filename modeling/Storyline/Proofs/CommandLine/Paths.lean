import Storyline.CommandLine.FileTree

/-!
Where the path of a file in a folder leads: from the folder one part further, which is the name of
the file. So a plain name, one without a slash that neither stays nor goes up, is right below it.
-/

namespace Storyline.FileTree

theorem startsWith_slash (path : String) : path.startsWith "/" = true ↔ ['/'] <+: path.toList := by
  rw [String.startsWith_string_iff]
  rfl

theorem endsWith_slash (path : String) : path.endsWith "/" = true ↔ ['/'] <:+ path.toList := by
  rw [String.endsWith_eq_endsWith_toSlice, String.Slice.endsWith_string_iff]
  simp

theorem parts_slash {path front : String} {name : List Char}
    (whole : path.toList = front.toList ++ '/' :: name) (single : '/' ∉ name) :
    parts path = parts front ++ [String.ofList name] := by
  unfold parts
  rw [whole, List.splitOn_append_cons_self, List.splitOn_eq_singleton single, List.map_append,
    List.map_singleton]

theorem start_append {front : String} (nonempty : front ≠ "") (more : String) :
    start (front ++ more) = start front := by
  obtain ⟨c, rest, letters⟩ := List.exists_cons_of_ne_nil fun none =>
    nonempty (String.toList_eq_nil_iff.mp none)
  have same : (front ++ more).startsWith "/" = front.startsWith "/" := by
    rw [Bool.eq_iff_iff, startsWith_slash, startsWith_slash, String.toList_append, letters]
    simp
  unfold start
  rw [same]

theorem step_empty (t : FileTree) (place : List String) : t.step place "" = place := rfl

/-- A file in a folder is found by one part more. -/
theorem placeOf_leading (t : FileTree) (folder : String) {name : String}
    (single : '/' ∉ name.toList) :
    t.placeOf (leading folder ++ name) = t.step (t.placeOf folder) name := by
  unfold placeOf leading
  by_cases none : folder = ""
  · have alone : start name = [] := by
      refine if_neg fun slash => single ?_
      exact ((startsWith_slash name).mp slash).subset List.mem_cons_self
    subst none
    rw [if_pos (by rfl), String.empty_append, alone]
    unfold parts
    rw [List.splitOn_eq_singleton single, List.map_singleton, String.ofList_toList]
    rfl
  · by_cases closed : folder.endsWith "/" = true
    · obtain ⟨front, whole⟩ := (endsWith_slash folder).mp closed
      rw [if_pos (by rw [closed, Bool.or_true]), start_append none]
      have longer : (folder ++ name).toList = (String.ofList front).toList ++ '/' :: name.toList := by
        rw [String.toList_append, ← whole, String.toList_ofList, List.append_assoc,
          List.singleton_append]
      have shorter : folder.toList = (String.ofList front).toList ++ '/' :: [] := by
        rw [← whole, String.toList_ofList]
      rw [parts_slash longer single, parts_slash shorter List.not_mem_nil, List.foldl_append,
        List.foldl_append, String.ofList_toList]
      exact congrArg (t.step · name) (step_empty t _).symm
    · have longer : (folder ++ "/" ++ name).toList = folder.toList ++ '/' :: name.toList := by
        simp [String.toList_append]
      rw [if_neg (by simp [none, closed]), String.append_assoc, start_append none,
        ← String.append_assoc, parts_slash longer single, List.foldl_append, String.ofList_toList]
      rfl

theorem suffix_pathOf (name : String) (place : List String) :
    name.toList <:+ (pathOf (name :: place)).toList := by
  have last (before : List (List Char)) :
      name.toList <:+ ['/'].intercalate (before ++ [name.toList]) := by
    induction before with
    | nil => exact List.intercalate_singleton ▸ List.suffix_rfl
    | cons part before ih =>
      rw [List.cons_append, List.intercalate_cons_of_ne_nil (by simp)]
      exact ih.trans (List.suffix_append _ _)
  unfold pathOf
  rw [String.toList_intercalate, List.reverse_cons, List.map_append]
  exact last _

/-- No place with a second path has a name that ends like that of a file of a store. -/
theorem step_fileName (t : FileTree) (place : List String) (key : String) :
    t.step place (FileStore.fileName key) = FileStore.fileName key :: place := by
  have ending : ".json".toList <:+ (FileStore.fileName key).toList := by
    unfold FileStore.fileName
    rw [String.toList_append]
    exact List.suffix_append _ _
  have differs {s : String} (other : ¬".json".toList <:+ s.toList) : FileStore.fileName key ≠ s :=
    fun same => other (same ▸ ending)
  have unlinked : links.find? (fun link => link.1 == pathOf (FileStore.fileName key :: place)) =
      none := by
    refine List.find?_eq_none.mpr fun link member same => ?_
    have others : ∀ link ∈ links, ¬".json".toList <:+ link.1.toList := by decide
    refine others link member ?_
    rw [beq_iff_eq.mp same]
    exact ending.trans (suffix_pathOf _ place)
  unfold step aim
  rw [unlinked, if_neg, if_neg]
  · rfl
  · rw [beq_iff_eq]
    exact differs (by decide)
  · unfold isIdle
    rw [Bool.or_eq_true, String.isEmpty_iff, beq_iff_eq]
    exact not_or.mpr ⟨differs (by decide), differs (by decide)⟩

end Storyline.FileTree
