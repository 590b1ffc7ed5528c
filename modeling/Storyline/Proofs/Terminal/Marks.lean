import Storyline.Proofs.Saves.Keeping
import Storyline.Proofs.Terminal.Turns

/-!
Header lines among all that a terminal puts out. A header line tells its header, and nothing else that
is put out is like one or like what clears the screen; so the header that a terminal knows is the one
of the last line since the screen was cleared, and no line is put out twice in a row.
-/

namespace Storyline.Terminal

def headerBeat (h : Header) : Beat := .write (lineWith .dim (headerLine h))

/-- Neither the line of a header nor what clears the screen. -/
def Beat.Plain (b : Beat) : Prop := b ≠ .write clearScreen ∧ ∀ h, b ≠ headerBeat h

theorem number_inj {a b : Nat} {c : Char} (ends : c.isDigit = false) {left right : List Char}
    (same : (toString a).toList ++ c :: left = (toString b).toList ++ c :: right) :
    a = b ∧ left = right := by
  have digits (n : Nat) : ∀ d ∈ (toString n).toList, d.isDigit = true := by
    intro d member
    rw [Nat.toString_eq_repr, Nat.toList_repr] at member
    exact Nat.isDigit_of_mem_toDigits (by decide) (by decide) member
  have numbers := congrArg (List.takeWhile Char.isDigit) same
  rw [List.takeWhile_append_of_pos (digits a), List.takeWhile_append_of_pos (digits b),
    List.takeWhile_cons_of_neg (by rw [ends]; decide), List.append_nil,
    List.takeWhile_cons_of_neg (by rw [ends]; decide), List.append_nil] at numbers
  rw [numbers] at same
  rw [Nat.toString_eq_repr, Nat.toString_eq_repr, Nat.toList_repr, Nat.toList_repr] at numbers
  exact ⟨toDigits_inj numbers, (List.cons.inj (List.append_cancel_left same)).2⟩

theorem toList_headerLine (h : Header) : ∃ rest, (headerLine h).toList =
    "== DAY ".toList ++ ((toString h.day.toNat).toList ++ ' ' ::
      ("| EPISODE ".toList ++ ((toString h.episode.toNat).toList ++ ' ' ::
        ("| ".toList ++ ((toString h.activePlayers).toList ++ ' ' :: rest))))) := by
  refine ⟨("PLAYER" ++ (if h.activePlayers = 1 then "" else "S") ++ " ==").toList, ?_⟩
  unfold headerLine Header.dayLabel Header.episodeLabel Header.playersLabel
  simp only [String.toList_append, toString]
  simp

theorem headerLine_inj {h h' : Header} (same : headerLine h = headerLine h') : h = h' := by
  obtain ⟨rest, letters⟩ := toList_headerLine h
  obtain ⟨rest', letters'⟩ := toList_headerLine h'
  rw [same, letters'] at letters
  obtain ⟨day, letters⟩ := number_inj rfl (List.append_cancel_left letters)
  obtain ⟨episode, letters⟩ := number_inj rfl (List.append_cancel_left letters)
  obtain ⟨players, _⟩ := number_inj rfl (List.append_cancel_left letters)
  cases h
  cases h'
  simp only [Header.mk.injEq]
  exact ⟨UInt32.toNat_inj.mp day.symm, UInt32.toNat_inj.mp episode.symm, players.symm⟩

theorem headerBeat_inj {h h' : Header} (same : headerBeat h = headerBeat h') : h = h' := by
  have texts := Beat.write.inj same
  unfold lineWith at texts
  simp only [String.append_left_inj, String.append_right_inj] at texts
  exact headerLine_inj texts

theorem headerLine_letter (h : Header) (place : Fin 7) :
    (lineWith .dim (headerLine h)).toList[place.val]? = "\x1b[2m== ".toList[place.val]? := by
  obtain ⟨rest, letters⟩ := toList_headerLine h
  have start : (lineWith .dim (headerLine h)).toList.take 7 = "\x1b[2m== ".toList := by
    unfold lineWith
    simp only [String.toList_append, letters]
    rfl
  rw [← start, List.getElem?_take_of_lt place.isLt]

/-- One letter is enough to tell a text from header lines and from what clears the screen. -/
theorem plain_write {s : String} (place : Fin 7) {c : Char} (here : s.toList[place.val]? = some c)
    (line : "\x1b[2m== ".toList[place.val]? ≠ some c)
    (clear : clearScreen.toList[place.val]? ≠ some c) : (Beat.write s).Plain := by
  constructor
  · intro same
    rw [Beat.write.inj same] at here
    exact clear here
  · intro h same
    rw [Beat.write.inj same, headerLine_letter] at here
    exact line here

theorem plain_choiceLine (item : ChoiceItem) : (choiceLine item).Plain :=
  plain_write 0 (c := ' ') (by simp [String.toList_append, toString]) (by decide) (by decide)

theorem plain_gap : gap.Plain := plain_write 0 (c := '\n') rfl (by decide) (by decide)

theorem plain_notice (text : String) : (Beat.write s!"[{text}]\n").Plain :=
  plain_write 0 (c := '[') (by simp [String.toList_append, toString]) (by decide) (by decide)

theorem plain_status (report : StatusReport) : (Beat.write report.text).Plain := by
  refine plain_write 0 (c := 'P') ?_ (by decide) (by decide)
  simp [StatusReport.text, StatusReport.lines, String.toList_append]

theorem plain_code {look : Look} (bright : look ≠ .plain) (other : look ≠ .dim) (rest : String) :
    (Beat.write (look.code ++ rest)).Plain := by
  have letter (c : Char) (here : look.code.toList[2]? = some c) (different : c ≠ '2') :
      (Beat.write (look.code ++ rest)).Plain := by
    refine plain_write 2 (c := c) (letter_of_start here rest) ?_ ?_
    · exact fun same => different (Option.some.inj same).symm
    · exact fun same => different (Option.some.inj same).symm
  cases look with
  | plain => exact absurd rfl bright
  | dim => exact absurd rfl other
  | bold | yellow | magenta => exact letter '1' rfl (by decide)
  | italic | red | cyan => exact letter '3' rfl (by decide)

theorem plain_reset : (Beat.write resetCode).Plain := plain_write 2 (c := '0') rfl (by decide) (by decide)

theorem plain_prompt (view : View) (prompt : Prompt) :
    (Beat.write (promptText view prompt)).Plain := by
  cases prompt with
  | name =>
    exact plain_write (s := "Enter your name: ") 0 (c := 'E') rfl (by decide) (by decide)
  | advance =>
    have written : promptText view .advance = if view.continueAvailable then "[Enter] " else "> " :=
      rfl
    rw [written]
    split
    · exact plain_write (s := "[Enter] ") 0 (c := '[') rfl (by decide) (by decide)
    · exact plain_write (s := "> ") 0 (c := '>') rfl (by decide) (by decide)
  | choice count =>
    exact plain_write 0 (c := 'S') (by simp [promptText, String.toList_append, toString])
      (by decide) (by decide)

theorem plain_help {prompt : Prompt} {line help : String} (again : reply prompt line = .again help) :
    (Beat.write help).Plain := by
  cases prompt with
  | name => cases again
  | advance =>
    simp only [reply] at again
    split at again
    · cases again
    · split at again
      · cases again
      · cases again
        exact plain_write 0 (c := 'P') (by simp [String.toList_append, toString]) (by decide)
          (by decide)
  | choice count =>
    simp only [reply] at again
    split at again
    · cases again
    · split at again
      · cases again
      · cases again
        exact plain_write 0 (c := 'I') (by simp [String.toList_append, toString]) (by decide)
          (by decide)

theorem plain_promptBeats (view : View) (prompt : Prompt) (lines : List String) :
    ∀ b ∈ promptBeats view prompt lines, b.Plain := by
  have asked := plain_prompt view prompt
  induction lines with
  | nil => exact List.forall_mem_singleton.mpr asked
  | cons line rest ih =>
    unfold promptBeats
    refine List.forall_mem_cons.mpr ⟨asked, ?_⟩
    cases replied : reply prompt (Text.trim line) with
    | input input => exact fun _ absent => (List.not_mem_nil absent).elim
    | again help => exact List.forall_mem_cons.mpr ⟨plain_help replied, ih⟩

theorem plain_lineWith (look : Look) (bright : look ≠ .plain) (other : look ≠ .dim) (text : String) :
    (Beat.write (lineWith look text)).Plain := by
  unfold lineWith
  rw [String.append_assoc, String.append_assoc]
  exact plain_code bright other _

theorem plain_spanBeats (style : TextStyle) (span : Text.Span) :
    ∀ b ∈ spanBeats (baseLook style) span, b.Plain := by
  have other : (spanLook (baseLook style) span).1 ≠ .dim := by
    cases span <;> cases style <;> exact nofun
  unfold spanBeats
  generalize spanLook (baseLook style) span = looks at other ⊢
  obtain ⟨look, piece⟩ := looks
  dsimp only
  split
  · exact List.forall_mem_singleton.mpr ⟨nofun, fun _ => nofun⟩
  · next bright =>
    have code := plain_code bright other ""
    rw [String.append_empty] at code
    exact List.forall_mem_cons.mpr ⟨code, List.forall_mem_cons.mpr ⟨⟨nofun, fun _ => nofun⟩,
      List.forall_mem_singleton.mpr plain_reset⟩⟩

theorem plain_textBeats (timing : Timing) (text : String) (style : TextStyle) :
    ∀ b ∈ textBeats timing text style, b.Plain := by
  have spans : ∀ b ∈ Beat.fresh :: (Text.spans text).flatMap (spanBeats (baseLook style)) ++ [gap],
      b.Plain := by
    refine List.forall_mem_append.mpr ⟨?_, List.forall_mem_singleton.mpr plain_gap⟩
    refine List.forall_mem_cons.mpr ⟨⟨nofun, fun _ => nofun⟩, ?_⟩
    exact List.forall_mem_flatMap.mpr fun span _ => plain_spanBeats style span
  cases style with
  | logo =>
    refine List.forall_mem_flatMap.mpr fun line _ => ?_
    exact List.forall_mem_cons.mpr ⟨plain_lineWith .cyan nofun nofun line,
      List.forall_mem_singleton.mpr ⟨nofun, fun _ => nofun⟩⟩
  | _ => exact spans

theorem plain_framed {b : Beat} (plain : b.Plain) : ∀ b' ∈ [gap, b, gap], b'.Plain :=
  List.forall_mem_cons.mpr ⟨plain_gap, List.forall_mem_cons.mpr ⟨plain,
    List.forall_mem_singleton.mpr plain_gap⟩⟩

theorem plain_divider :
    (Beat.write (lineWith .dim (String.ofList (List.replicate 40 '-')))).Plain :=
  plain_write 4 (c := '-') (by decide +kernel) (by decide) (by decide)

/-- A header that stands after some beats, as the last that was put out since the screen was
cleared; no other than that is put out. -/
inductive Stands : List Beat → Option Header → Prop
  | start : Stands [] none
  | plain {log standing} {b : Beat} (before : Stands log standing) (plain : b.Plain) :
      Stands (log ++ [b]) standing
  | cleared {log standing} (before : Stands log standing) :
      Stands (log ++ [.write clearScreen]) none
  | header {log standing} {h : Header} (before : Stands log standing) (fresh : standing ≠ some h) :
      Stands (log ++ [headerBeat h]) (some h)

theorem clear_ne_header (h : Header) : Beat.write clearScreen ≠ headerBeat h := by
  intro same
  have letters := headerLine_letter h 3
  rw [← Beat.write.inj same] at letters
  exact absurd letters (by decide)

theorem snoc_split {log before later : List Beat} {b c : Beat}
    (split : log ++ [b] = before ++ c :: later) :
    (later = [] ∧ log = before ∧ b = c) ∨
      ∃ between, later = between ++ [b] ∧ log = before ++ c :: between := by
  rcases List.eq_nil_or_concat later with rfl | ⟨between, last, rfl⟩
  · obtain ⟨logs, beats⟩ := List.append_singleton_inj.mp split
    exact .inl ⟨rfl, logs, beats⟩
  · rw [List.concat_eq_append, ← List.cons_append, ← List.append_assoc] at split
    obtain ⟨logs, rfl⟩ := List.append_singleton_inj.mp split
    exact .inr ⟨between, List.concat_eq_append, logs⟩

namespace Stands

variable {log more : List Beat} {standing : Option Header} {h : Header}

theorem plains (before : Stands log standing) (plain : ∀ b ∈ more, b.Plain) :
    Stands (log ++ more) standing := by
  induction more generalizing log with
  | nil => rwa [List.append_nil]
  | cons b more ih =>
    obtain ⟨first, rest⟩ := List.forall_mem_cons.mp plain
    have next := ih (before.plain first) rest
    rwa [List.append_assoc, List.singleton_append] at next

theorem directive {view : View} (before : Stands log view.header) (timing : Timing) (d : Directive) :
    Stands (log ++ (directiveBeats timing view d).1) (directiveBeats timing view d).2.header := by
  have quiet : Stands (log ++ []) view.header := before.plains nofun
  cases d with
  | clearOutput => exact before.cleared
  | updateHeader header =>
    unfold directiveBeats View.takeHeader
    by_cases known : view.header = some header
    · simp only [if_pos known, Bool.false_eq_true, if_false]
      exact quiet
    · simp only [if_neg known, if_true]
      have next := (before.header known).plain plain_gap
      rwa [List.append_assoc] at next
  | displayText text style => exact before.plains (plain_textBeats timing text style)
  | presentChoices choices =>
    refine before.plains (List.forall_mem_append.mpr ⟨List.forall_mem_cons.mpr ⟨plain_gap, ?_⟩,
      List.forall_mem_singleton.mpr plain_gap⟩)
    exact List.forall_mem_map.mpr fun item _ => plain_choiceLine item
  | clearChoices | continueAvailable on => exact quiet
  | divider => exact before.plains (plain_framed plain_divider)
  | endingCue => exact before.plains (plain_framed (plain_lineWith .magenta nofun nofun _))
  | delay ms | error message =>
    exact before.plains (List.forall_mem_singleton.mpr ⟨nofun, fun _ => nofun⟩)

theorem beats {view : View} (before : Stands log view.header) (timing : Timing) (shown : Shown) :
    Stands (log ++ (Terminal.beats timing view shown).1)
      (Terminal.beats timing view shown).2.header := by
  cases shown with
  | directive d => exact before.directive timing d
  | notice text => exact before.plain (plain_notice text)
  | status report => exact before.plains (plain_framed (plain_status report))

theorem beatsOf (timing : Timing) (shown : List Shown) {view : View}
    (before : Stands log view.header) : Stands (log ++ (Terminal.beatsOf timing view shown).1)
      (Terminal.beatsOf timing view shown).2.header := by
  induction shown generalizing log view with
  | nil => exact before.plains nofun
  | cons first rest ih =>
    have next := ih (before.beats timing first)
    rwa [List.append_assoc] at next

theorem last (stands : Stands log (some h)) : ∃ before later,
    log = before ++ headerBeat h :: later ∧ ∀ b ∈ later, b.Plain := by
  generalize found : some h = standing at stands
  induction stands with
  | start => cases found
  | plain _ plain ih =>
    obtain ⟨before, later, rfl, plains⟩ := ih found
    refine ⟨before, later ++ [_], by rw [List.append_assoc, List.cons_append], ?_⟩
    exact List.forall_mem_append.mpr ⟨plains, List.forall_mem_singleton.mpr plain⟩
  | cleared => cases found
  | header =>
    cases found
    exact ⟨_, [], rfl, nofun⟩

/-- A header line after which nothing but plain beats came tells the header that stands. -/
theorem of_last (stands : Stands log standing) {before later : List Beat}
    (split : log = before ++ headerBeat h :: later) (plain : ∀ b ∈ later, b.Plain) :
    standing = some h := by
  induction stands generalizing later with
  | start => exact absurd split.symm (List.append_ne_nil_of_right_ne_nil _ (List.cons_ne_nil _ _))
  | plain _ other ih =>
    rcases snoc_split split with ⟨_, _, same⟩ | ⟨_, rfl, earlier⟩
    · exact absurd same (other.2 h)
    · exact ih earlier fun b member => plain b (List.mem_append_left _ member)
  | cleared =>
    rcases snoc_split split with ⟨_, _, same⟩ | ⟨_, rfl, _⟩
    · exact absurd same (clear_ne_header h)
    · exact absurd rfl (plain _ List.mem_concat_self).1
  | @header _ _ h' _ _ =>
    rcases snoc_split split with ⟨_, _, same⟩ | ⟨_, rfl, _⟩
    · rw [headerBeat_inj same]
    · exact absurd rfl ((plain _ List.mem_concat_self).2 h')

/-- No header line is the same as the one before it, unless the screen was cleared in between. -/
theorem changes (stands : Stands log standing) {before between later : List Beat} {h' : Header}
    (split : log = before ++ headerBeat h :: between ++ headerBeat h' :: later)
    (plain : ∀ b ∈ between, b.Plain) : h ≠ h' := by
  induction stands generalizing later with
  | start => exact absurd split.symm (List.append_ne_nil_of_right_ne_nil _ (List.cons_ne_nil _ _))
  | plain _ other ih =>
    rcases snoc_split split with ⟨_, _, same⟩ | ⟨_, _, earlier⟩
    · exact absurd same (other.2 h')
    · exact ih earlier
  | cleared _ ih =>
    rcases snoc_split split with ⟨_, _, same⟩ | ⟨_, _, earlier⟩
    · exact absurd same (clear_ne_header h')
    · exact ih earlier
  | header stands fresh ih =>
    rcases snoc_split split with ⟨_, shown, same⟩ | ⟨_, _, earlier⟩
    · rintro rfl
      cases headerBeat_inj same
      exact fresh (stands.of_last shown plain)
    · exact ih earlier

end Stands

end Storyline.Terminal
