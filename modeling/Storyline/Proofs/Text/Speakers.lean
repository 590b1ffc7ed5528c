import Storyline.Story
import Storyline.Text.Markup
import Storyline.Wording

/-!
The tag in front of a text that somebody speaks. The wording puts the name of any speaker there, in
capitals of any script; the markup knows the tag again just if all letters of the name are capitals
of ASCII.
-/

namespace Storyline

namespace Text

/-- The names that are known in a tag. -/
structure IsSpeakerName (name : List Char) : Prop where
  ne_nil : name ≠ []
  chars : ∀ c ∈ name, ('A' ≤ c ∧ c ≤ 'Z') ∨ isBlank c = true ∨ c.toNat = 0x27

section

variable {name rest plain : List Char}

theorem isSpeakerChar_iff (c : Char) : isSpeakerChar c = true ↔
    ('A' ≤ c ∧ c ≤ 'Z') ∨ isBlank c = true ∨ c.toNat = 0x27 := by
  unfold isSpeakerChar
  rw [Bool.or_eq_true, Bool.or_eq_true, Bool.and_eq_true, decide_eq_true_eq, decide_eq_true_eq,
    beq_iff_eq, or_assoc]

theorem isSpeakerName_iff :
    IsSpeakerName name ↔ (!name.isEmpty && name.all isSpeakerChar) = true := by
  rw [Bool.and_eq_true, Bool.not_eq_true', List.isEmpty_eq_false_iff, List.all_eq_true]
  simp only [isSpeakerChar_iff]
  exact ⟨fun h => ⟨h.ne_nil, h.chars⟩, fun h => ⟨h.1, h.2⟩⟩

theorem IsSpeakerName.not_closing (h : IsSpeakerName name) : ']' ∉ name := by
  intro member
  have known := (isSpeakerChar_iff ']').mpr (h.chars _ member)
  exact absurd known (by decide)

theorem takeWhile_closing {c : Char} {front : List Char} (whole : c ∉ front) (rest : List Char) :
    (front ++ c :: rest).takeWhile (· != c) = front := by
  have inside : ∀ b ∈ front, (b != c) = true := by
    intro b member
    exact bne_iff_ne.mpr fun closing => whole (closing ▸ member)
  rw [List.takeWhile_append_of_pos inside, List.takeWhile_cons_of_neg (by simp), List.append_nil]

theorem speakerName?_tag (whole : ']' ∉ name) (rest : List Char) :
    speakerName? (name ++ ']' :: ':' :: rest) =
      if !name.isEmpty && name.all isSpeakerChar then some name else none := by
  unfold speakerName?
  rw [takeWhile_closing whole]
  simp only [List.drop_left]

theorem isSpeakerName_of_found {s : List Char} (found : speakerName? s = some name) :
    IsSpeakerName name := by
  unfold speakerName? at found
  simp only at found
  split at found
  · split at found
    · next valid =>
      cases found
      exact isSpeakerName_iff.mpr valid
    · cases found
  · cases found

theorem eq_of_speakerName? {s : List Char} (found : speakerName? s = some name) :
    ∃ rest, s = name ++ ']' :: ':' :: rest := by
  have whole := List.prefix_iff_eq_append.mp <| List.takeWhile_prefix (· != ']') (l := s)
  unfold speakerName? at found
  simp only at found
  split at found
  · next rest behind =>
    split at found
    · cases found
      rw [behind] at whole
      exact ⟨rest, whole.symm⟩
    · cases found
  · cases found

theorem speakerName?_tag_iff (rest : List Char) :
    speakerName? (name ++ ']' :: ':' :: rest) = some name ↔ IsSpeakerName name :=
  ⟨isSpeakerName_of_found, fun known =>
    (speakerName?_tag known.not_closing rest).trans (if_pos (isSpeakerName_iff.mp known))⟩

theorem spansFrom_speaker {s : List Char} (found : speakerName? s = some name) :
    spansFrom [] ('[' :: s) = .speaker (String.ofList ('[' :: name ++ [']', ':'])) ::
      spansFrom [] (s.drop (name.length + 2)) := by
  rw [spansFrom, found]
  rfl

theorem spansFrom_tag (known : IsSpeakerName name) (rest : List Char) :
    spansFrom [] ('[' :: (name ++ ']' :: ':' :: rest)) =
      .speaker (String.ofList ('[' :: name ++ [']', ':'])) :: spansFrom [] rest := by
  have found := (speakerName?_tag_iff rest).mpr known
  have after : (name ++ ']' :: ':' :: rest).drop (name.length + 2) = rest :=
    List.drop_length_add_append 2
  rw [spansFrom_speaker found, after]

/-- Plain text that was collected comes out as text, whatever follows it. -/
theorem head_spansFrom (s : List Char) (collected : plain ≠ []) :
    ∃ t more, spansFrom plain s = .text t :: more := by
  have first : ∀ {plain : List Char} (more : List Span), plain ≠ [] →
      ∃ t more', plainSpan plain ++ more = .text t :: more' := by
    intro plain more collected
    unfold plainSpan
    rw [List.isEmpty_eq_false_iff.mpr collected]
    exact ⟨_, more, rfl⟩
  -- by the recursion of the spans: what is no markup is added to the plain text
  fun_induction spansFrom plain s with
  | case1 plain =>
    obtain ⟨t, more, same⟩ := first [] collected
    exact ⟨t, more, (List.append_nil _).symm.trans same⟩
  | case2 | case3 | case5 => exact first _ collected
  | case4 _ _ _ ih | case6 _ _ _ ih => exact ih (List.cons_ne_nil _ _)
  | case7 _ _ _ _ _ _ ih => exact ih (List.cons_ne_nil _ _)

theorem spansFrom_bracket {s : List Char} (none : speakerName? s = none) :
    ∃ t more, spansFrom [] ('[' :: s) = .text t :: more := by
  rw [spansFrom, none]
  exact head_spansFrom s (List.cons_ne_nil _ _)

/-- A tag is the first span just if its name is known. -/
theorem tag_spansFrom_iff {s : List Char} :
    (∃ more, spansFrom [] ('[' :: s) = .speaker (String.ofList ('[' :: name ++ [']', ':'])) :: more) ↔
      speakerName? s = some name := by
  constructor
  · rintro ⟨more, same⟩
    cases found : speakerName? s with
    | none =>
      obtain ⟨t, more', other⟩ := spansFrom_bracket found
      rw [other] at same
      cases same
    | some name' =>
      rw [spansFrom_speaker found] at same
      have tags := String.ofList_injective (Span.speaker.inj (List.cons.inj same).1)
      exact congrArg some (List.append_cancel_right (List.cons.inj tags).2)
  · exact fun found => ⟨_, spansFrom_speaker found⟩

end
end Text

namespace Wording

theorem toList_nodeText (s : GameState) (cast : Cast) (text id : String) :
    (nodeText s cast text (some id)).toList =
      '[' :: ((Text.uppercase (speakerName s cast id)).toList ++
        ']' :: ':' :: (" " ++ Text.substitute s text).toList) := by
  have joined : nodeText s cast text (some id) =
      "[" ++ Text.uppercase (speakerName s cast id) ++ "]: " ++ Text.substitute s text := rfl
  rw [joined]
  simp [String.toList_append]

/-- The tag of a speaker is the first span of a worded text just if the name in it has something in it
and no characters but capitals of ASCII, blanks and apostrophes. Then the text follows it, after a
blank. Any other name stays plain text together with its brackets, unless it closes them itself. -/
theorem tags_ascii_names (s : GameState) (cast : Cast) (text id : String) :
    let name := Text.uppercase (speakerName s cast id)
    let spans := Text.spans (nodeText s cast text (some id))
    let tag := Text.Span.speaker ("[" ++ name ++ "]:")
    let known := name ≠ "" ∧
      ∀ c ∈ name.toList, ('A' ≤ c ∧ c ≤ 'Z') ∨ Text.isBlank c = true ∨ c.toNat = 0x27
    (spans = tag :: Text.spans (" " ++ Text.substitute s text) ↔ known) ∧
    (spans.head? = some tag ↔ known) ∧
    (']' ∉ name.toList ∧ ¬known → ∃ t more, spans = .text t :: more) := by
  intro name spans tag known
  have named : known ↔ Text.IsSpeakerName name.toList :=
    ⟨fun h => ⟨fun none => h.1 (String.toList_eq_nil_iff.mp none), h.2⟩,
      fun h => ⟨fun none => h.ne_nil (String.toList_eq_nil_iff.mpr none), h.chars⟩⟩
  have written : tag = .speaker (String.ofList ('[' :: name.toList ++ [']', ':'])) := by
    refine congrArg Text.Span.speaker (String.toList_injective ?_)
    simp [String.toList_append]
  have split : spans = Text.spansFrom [] ('[' :: (name.toList ++
      ']' :: ':' :: (" " ++ Text.substitute s text).toList)) :=
    congrArg (Text.spansFrom []) (toList_nodeText s cast text id)
  have first : (∃ more, spans = tag :: more) ↔ known := by
    rw [split, written, Text.tag_spansFrom_iff, Text.speakerName?_tag_iff, named]
  refine ⟨⟨fun same => first.mp ⟨_, same⟩, fun h => ?_⟩, List.head?_eq_some_iff.trans first, ?_⟩
  · rw [split, written]
    exact Text.spansFrom_tag (named.mp h) _
  · rintro ⟨whole, unknown⟩
    have none := Text.speakerName?_tag whole (" " ++ Text.substitute s text).toList
    rw [if_neg fun valid => unknown (named.mpr (Text.isSpeakerName_iff.mpr valid))] at none
    rw [split]
    exact Text.spansFrom_bracket none

/-- A name whose last letter is an accented capital stays plain text, and its tag with it. -/
theorem untagged_accented :
    let cast : Cast := ⟨[⟨"zoe", "Zo\u00e9", 0⟩], .empty⟩
    Text.uppercase (speakerName .blank cast "zoe") = "ZO\u00c9" ∧
      Text.uppercaseChar (Char.ofNat 0xe9) = [Char.ofNat 0xc9] ∧
      Text.spans (nodeText .blank cast "Hi." (some "zoe")) = [.text "[ZO\u00c9]: Hi."] ∧
      Text.spans (nodeText .blank cast "Hi." (some "zoe")) ≠
        .speaker "[ZO\u00c9]:" :: Text.spans " Hi." := by
  decide +kernel

end Wording
end Storyline
