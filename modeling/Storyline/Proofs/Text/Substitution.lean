import Mathlib.Data.List.Chain
import Storyline.Wording

/-!
What is filled in. A text can be cut in just one way into placeholders and pieces in which there are
none, because a placeholder opens with a bracket and has no other, so that no two of them overlap.
Filling in a text puts the values between these pieces, whatever the values are and in whatever order
they are looked up.
-/

namespace Storyline.Text

theorem not_infix_cons {word s more : List Char} {c : Char} (behind : ¬word <:+: s)
    (front : ¬word <+: c :: (s ++ more)) : ¬word <:+: c :: s := by
  intro inside
  rcases List.infix_cons_iff.mp inside with opens | later
  · exact front (opens.trans (List.prefix_append (c :: s) more))
  · exact behind later

namespace Placeholder

theorem token_opens (p : Placeholder) : ∃ name, p.token = '[' :: name ∧ '[' ∉ name := by
  cases p <;> exact ⟨_, rfl, by decide⟩

theorem token_ne_nil (p : Placeholder) : p.token ≠ [] := by
  obtain ⟨name, token, -⟩ := p.token_opens
  exact token ▸ List.cons_ne_nil _ _

theorem drop_name {p : Placeholder} {name : List Char} (written : p.token = '[' :: name)
    (rest : List Char) : (name ++ rest).drop (p.token.length - 1) = rest := by
  rw [written]
  exact List.drop_left

/-- What is left of a placeholder behind some of it does not open with a bracket. -/
theorem not_opens_inside {p : Placeholder} {front back : List Char} (cut : p.token = front ++ back)
    (inside : front ≠ []) : '[' ∉ back := by
  obtain ⟨name, token, closed⟩ := p.token_opens
  cases front with
  | nil => exact absurd rfl inside
  | cons c front =>
    rw [token, List.cons_append] at cut
    obtain ⟨-, rfl⟩ := List.cons.inj cut
    exact fun member => closed (List.mem_append_right front member)

/-- At one place in a text there is one placeholder at most. -/
theorem eq_of_front {p q : Placeholder} {text : List Char} (here : p.token <+: text)
    (there : q.token <+: text) : p = q := by
  have nested := List.prefix_or_prefix_of_prefix here there
  revert nested
  clear here there
  cases p <;> cases q <;> decide

def atFront? (text : List Char) : Option Placeholder :=
  all.find? fun p => p.token.isPrefixOf text

theorem mem_all (p : Placeholder) : p ∈ all := by
  cases p <;> decide

theorem atFront?_eq_some_iff {p : Placeholder} {text : List Char} :
    atFront? text = some p ↔ p.token <+: text := by
  have prefixed {q : Placeholder} (found : atFront? text = some q) : q.token <+: text := by
    have opens := List.find?_some found
    exact List.isPrefixOf_iff_prefix.mp opens
  refine ⟨prefixed, fun opens => ?_⟩
  cases found : atFront? text with
  | some q => rw [eq_of_front opens (prefixed found)]
  | none =>
    have missing := List.find?_eq_none.mp found p (mem_all p)
    exact absurd (List.isPrefixOf_iff_prefix.mpr opens) missing

theorem atFront?_eq_none_iff {text : List Char} :
    atFront? text = none ↔ ∀ p : Placeholder, ¬p.token <+: text := by
  rw [Option.eq_none_iff_forall_ne_some]
  simp only [ne_eq, atFront?_eq_some_iff]

theorem find?_table {s : GameState} {entries : List (Placeholder × String)}
    (listed : entries.Perm (table s)) (text : List Char) :
    entries.find? (fun e => e.1.token.isPrefixOf text) =
      (atFront? text).map fun p => (p, p.value s) := by
  have member (e : Placeholder × String) : e ∈ entries ↔ e.2 = e.1.value s := by
    rw [listed.mem_iff]
    unfold table
    rw [List.mem_map]
    constructor
    · rintro ⟨p, -, rfl⟩
      rfl
    · intro same
      exact ⟨e.1, mem_all e.1, by rw [← same]⟩
  cases found : atFront? text with
  | none =>
    have none := atFront?_eq_none_iff.mp found
    exact List.find?_eq_none.mpr fun e _ opens => none e.1 (List.isPrefixOf_iff_prefix.mp opens)
  | some p =>
    have opens := atFront?_eq_some_iff.mp found
    cases same : entries.find? fun e => e.1.token.isPrefixOf text with
    | none =>
      have missing := List.find?_eq_none.mp same (p, p.value s) ((member _).mpr rfl)
      exact absurd (List.isPrefixOf_iff_prefix.mpr opens) missing
    | some e =>
      have first := List.find?_some same
      have value := (member e).mp (List.mem_of_find?_eq_some same)
      obtain rfl := eq_of_front (List.isPrefixOf_iff_prefix.mp first) opens
      exact congrArg (fun value => some (e.1, value)) value

end Placeholder

inductive Piece
  | literal (s : List Char)
  | token (p : Placeholder)

namespace Piece

def source : Piece → List Char
  | literal s => s
  | token p => p.token

/-- A piece as the player sees it: the name stands for the player, `Player` for one who has none yet,
and the counters are written in decimals. -/
def filled (s : GameState) : Piece → List Char
  | literal text => text
  | token .playerName | token .player =>
    if s.playerName = "" then ['P', 'l', 'a', 'y', 'e', 'r'] else s.playerName.toList
  | token .challengeWins => Nat.toDigits 10 s.challengeWins.toNat
  | token .eliminationWins => Nat.toDigits 10 s.eliminationWins.toNat

def isToken : Piece → Bool
  | literal _ => false
  | token _ => true

theorem filled_token (s : GameState) (p : Placeholder) :
    (token p).filled s = (p.value s).toList := by
  have name : (if s.playerName = "" then ['P', 'l', 'a', 'y', 'e', 'r'] else s.playerName.toList) =
      (s.player?.getD Placeholder.defaultName).toList := by
    unfold GameState.player?
    by_cases unset : s.playerName = ""
    · rw [if_pos unset, if_pos (String.isEmpty_iff.mpr unset)]
      decide
    · rw [if_neg unset, if_neg fun empty => unset (String.isEmpty_iff.mp empty)]
      rfl
  cases p with
  | playerName => exact name
  | player => exact name
  | challengeWins => exact String.toList_ofList.symm
  | eliminationWins => exact String.toList_ofList.symm

def addLetter (c : Char) : List Piece → List Piece
  | literal s :: pieces => literal (c :: s) :: pieces
  | pieces => literal [c] :: pieces

def cut (text : List Char) : List Piece :=
  match text with
  | [] => []
  | c :: rest =>
    match Placeholder.atFront? (c :: rest) with
    | some p => token p :: cut (rest.drop (p.token.length - 1))
    | none => addLetter c (cut rest)
termination_by text.length
decreasing_by all_goals simp only [List.length_cons, List.length_drop]; omega

theorem flatMap_addLetter {f : Piece → List Char} (plain : ∀ s, f (literal s) = s) (c : Char)
    (pieces : List Piece) : (addLetter c pieces).flatMap f = c :: pieces.flatMap f := by
  unfold addLetter
  split
  · simp only [List.flatMap_cons, plain, List.cons_append]
  · simp only [List.flatMap_cons, plain, List.cons_append, List.nil_append]

theorem cut_nil : cut [] = [] := by
  rw [cut]

theorem cut_token (p : Placeholder) (rest : List Char) :
    cut (p.token ++ rest) = token p :: cut rest := by
  have front := Placeholder.atFront?_eq_some_iff.mpr (List.prefix_append p.token rest)
  obtain ⟨name, written, -⟩ := p.token_opens
  have after := Placeholder.drop_name written rest
  rw [written, List.cons_append] at front ⊢
  rw [cut, front]
  dsimp only
  rw [after]

theorem cut_letter {c : Char} {rest : List Char} (none : Placeholder.atFront? (c :: rest) = none) :
    cut (c :: rest) = addLetter c (cut rest) := by
  rw [cut, none]

/-- A text is empty, or opens with a placeholder, or with a character at which there is none. -/
theorem text_induction {motive : List Char → Prop} (nil : motive [])
    (token : ∀ (p : Placeholder) (rest : List Char), motive rest → motive (p.token ++ rest))
    (letter : ∀ (c : Char) (rest : List Char), Placeholder.atFront? (c :: rest) = none →
      motive rest → motive (c :: rest)) (text : List Char) : motive text := by
  fun_induction cut text with
  | case1 => exact nil
  | case2 c rest p front ih =>
    obtain ⟨after, same⟩ := Placeholder.atFront?_eq_some_iff.mp front
    obtain ⟨name, written, -⟩ := p.token_opens
    rw [written, List.cons_append] at same
    rw [← (List.cons.inj same).2, Placeholder.drop_name written] at ih
    rw [← same, ← List.cons_append, ← written]
    exact token p after ih
  | case3 c rest none ih => exact letter c rest none ih

end Piece

section

variable {s : GameState} {entries : List (Placeholder × String)} {c : Char}

theorem fillIn_token (listed : entries.Perm (Placeholder.table s)) (p : Placeholder)
    (rest : List Char) :
    fillIn entries (p.token ++ rest) = (p.value s).toList ++ fillIn entries rest := by
  have front := Placeholder.find?_table listed (p.token ++ rest)
  rw [Placeholder.atFront?_eq_some_iff.mpr (List.prefix_append p.token rest)] at front
  obtain ⟨name, written, -⟩ := p.token_opens
  have after := Placeholder.drop_name written rest
  rw [written, List.cons_append] at front ⊢
  rw [fillIn, front]
  dsimp only [Option.map_some]
  rw [after]

theorem fillIn_letter (listed : entries.Perm (Placeholder.table s)) {rest : List Char}
    (none : Placeholder.atFront? (c :: rest) = none) :
    fillIn entries (c :: rest) = c :: fillIn entries rest := by
  by_cases bracket : c = '['
  · have front := Placeholder.find?_table listed (c :: rest)
    rw [none] at front
    subst bracket
    rw [fillIn, front]
    rfl
  · rw [fillIn]
    exact bracket

theorem fillIn_eq (listed : entries.Perm (Placeholder.table s)) (text : List Char) :
    fillIn entries text = (Piece.cut text).flatMap (Piece.filled s) := by
  induction text using Piece.text_induction with
  | nil => rw [fillIn, Piece.cut_nil]; rfl
  | token p rest ih =>
    rw [fillIn_token listed, Piece.cut_token, List.flatMap_cons, Piece.filled_token, ih]
  | letter c rest none ih =>
    rw [fillIn_letter listed none, Piece.cut_letter none, Piece.flatMap_addLetter fun _ => rfl, ih]

end

/-- The ways to cut a text: the pieces make up the text, what is literal is not empty, has no
placeholder in it, and is not cut itself. -/
structure Cuts (text : List Char) (pieces : List Piece) : Prop where
  whole : pieces.flatMap Piece.source = text
  bare : ∀ s, .literal s ∈ pieces → s ≠ [] ∧ ∀ p : Placeholder, ¬p.token <:+: s
  apart : pieces.IsChain fun a b => a.isToken ∨ b.isToken

namespace Cuts

variable {text rest : List Char} {pieces : List Piece} {p : Placeholder} {c : Char}

theorem nil : Cuts [] [] := ⟨rfl, fun _ absent => (List.not_mem_nil absent).elim, .nil⟩

theorem token (h : Cuts rest pieces) (p : Placeholder) :
    Cuts (p.token ++ rest) (.token p :: pieces) where
  whole := by rw [List.flatMap_cons, h.whole]; rfl
  bare s member := h.bare s (by simpa using member)
  apart := List.isChain_cons.mpr ⟨fun _ _ => .inl rfl, h.apart⟩

theorem letter (h : Cuts rest pieces) (none : Placeholder.atFront? (c :: rest) = none) :
    Cuts (c :: rest) (Piece.addLetter c pieces) where
  whole := by rw [Piece.flatMap_addLetter fun _ => rfl, h.whole]
  bare := by
    intro s member
    unfold Piece.addLetter at member
    split at member
    · next t later =>
      rcases List.mem_cons.mp member with same | old
      · obtain rfl := Piece.literal.inj same
        have whole : t ++ later.flatMap Piece.source = rest := h.whole
        rw [← whole, Placeholder.atFront?_eq_none_iff] at none
        have bare := (h.bare t List.mem_cons_self).2
        exact ⟨List.cons_ne_nil _ _, fun p => not_infix_cons (bare p) (none p)⟩
      · exact h.bare s (List.mem_cons_of_mem _ old)
    · rcases List.mem_cons.mp member with same | old
      · obtain rfl := Piece.literal.inj same
        rw [Placeholder.atFront?_eq_none_iff] at none
        have empty (p : Placeholder) : ¬p.token <:+: [] :=
          fun inside => p.token_ne_nil (List.infix_nil.mp inside)
        exact ⟨List.cons_ne_nil _ _, fun p => not_infix_cons (empty p) (none p)⟩
      · exact h.bare s old
  apart := by
    unfold Piece.addLetter
    split
    · next s pieces => exact List.isChain_cons.mpr (List.isChain_cons.mp h.apart)
    · next pieces noLiteral =>
      refine List.isChain_cons.mpr ⟨fun next isNext => ?_, h.apart⟩
      cases next with
      | token p => exact .inr rfl
      | literal s =>
        obtain ⟨later, same⟩ := List.head?_eq_some_iff.mp isNext
        exact absurd same (noLiteral s later)

end Cuts

theorem cuts_cut (text : List Char) : Cuts text (Piece.cut text) := by
  induction text using Piece.text_induction with
  | nil => rw [Piece.cut_nil]; exact .nil
  | token p rest ih => rw [Piece.cut_token]; exact ih.token p
  | letter c rest none ih => rw [Piece.cut_letter none]; exact ih.letter none

/-- A text that goes on with a bracket, if it goes on at all. -/
def Opens (rest : List Char) : Prop := rest = [] ∨ ∃ more, rest = '[' :: more

theorem not_prefix_of_bare {s rest : List Char} (bare : ∀ p : Placeholder, ¬p.token <:+: s)
    (nonempty : s ≠ []) (opens : Opens rest) (p : Placeholder) : ¬p.token <+: s ++ rest := by
  rintro ⟨after, same⟩
  rcases List.append_eq_append_iff.mp same with ⟨inner, inside, -⟩ | ⟨back, written, behind⟩
  · exact bare p (inside ▸ (List.prefix_append p.token inner).isInfix)
  · cases back with
    | nil =>
      rw [List.append_nil] at written
      exact bare p (written ▸ List.infix_refl s)
    | cons c back =>
      rcases opens with none | ⟨more, bracket⟩
      · rw [none] at behind
        cases behind
      · rw [bracket] at behind
        cases (List.cons.inj behind).1
        exact Placeholder.not_opens_inside written nonempty List.mem_cons_self

namespace Cuts

variable {text : List Char} {pieces pieces' : List Piece} {piece : Piece} {s t : List Char}

theorem tail (h : Cuts text (piece :: pieces)) : Cuts (pieces.flatMap Piece.source) pieces :=
  ⟨rfl, fun s member => h.bare s (List.mem_cons_of_mem _ member), h.apart.tail⟩

theorem whole_cons (h : Cuts text (piece :: pieces)) :
    piece.source ++ pieces.flatMap Piece.source = text := h.whole

theorem next_token (h : Cuts text (.literal s :: pieces)) :
    pieces = [] ∨ ∃ p later, pieces = .token p :: later := by
  cases pieces with
  | nil => exact .inl rfl
  | cons next later =>
    cases next with
    | token p => exact .inr ⟨p, later, rfl⟩
    | literal t => simpa [Piece.isToken] using (List.isChain_cons_cons.mp h.apart).1

theorem opens (h : Cuts text (.literal s :: pieces)) : Opens (pieces.flatMap Piece.source) := by
  rcases h.next_token with rfl | ⟨p, later, rfl⟩
  · exact .inl rfl
  · obtain ⟨name, written, -⟩ := p.token_opens
    refine .inr ⟨name ++ later.flatMap Piece.source, ?_⟩
    have whole : (Piece.token p :: later).flatMap Piece.source =
        p.token ++ later.flatMap Piece.source := rfl
    rw [whole, written, List.cons_append]

theorem not_at_front (h : Cuts text (.literal s :: pieces)) (p : Placeholder) :
    ¬p.token <+: text := by
  obtain ⟨nonempty, bare⟩ := h.bare s List.mem_cons_self
  rw [← h.whole_cons]
  exact not_prefix_of_bare bare nonempty h.opens p

/-- A literal piece ends no earlier than another that begins at the same place. -/
theorem literal_ends (h : Cuts text (.literal s :: pieces))
    (h' : Cuts text (.literal (s ++ t) :: pieces')) : t = [] := by
  have same : pieces.flatMap Piece.source = t ++ pieces'.flatMap Piece.source := by
    have both : s ++ pieces.flatMap Piece.source = (s ++ t) ++ pieces'.flatMap Piece.source :=
      h.whole_cons.trans h'.whole_cons.symm
    rw [List.append_assoc] at both
    exact List.append_cancel_left both
  rcases h.next_token with rfl | ⟨p, later, rfl⟩
  · exact (List.append_eq_nil_iff.mp same.symm).1
  · by_contra nonempty
    have bare (q : Placeholder) : ¬q.token <:+: t := fun inside =>
      (h'.bare _ List.mem_cons_self).2 q (inside.trans (List.suffix_append s t).isInfix)
    refine not_prefix_of_bare bare nonempty h'.opens p ?_
    rw [← same]
    exact List.prefix_append p.token (later.flatMap Piece.source)

theorem first_eq {piece' : Piece} (h : Cuts text (piece :: pieces))
    (h' : Cuts text (piece' :: pieces')) : piece = piece' := by
  cases piece with
  | token p =>
    cases piece' with
    | token q =>
      exact congrArg Piece.token (Placeholder.eq_of_front ⟨_, h.whole_cons⟩ ⟨_, h'.whole_cons⟩)
    | literal t => exact absurd ⟨_, h.whole_cons⟩ (h'.not_at_front p)
  | literal s =>
    cases piece' with
    | token q => exact absurd ⟨_, h'.whole_cons⟩ (h.not_at_front q)
    | literal t =>
      have both : s ++ pieces.flatMap Piece.source = t ++ pieces'.flatMap Piece.source :=
        h.whole_cons.trans h'.whole_cons.symm
      rcases List.append_eq_append_iff.mp both with ⟨more, rfl, -⟩ | ⟨more, rfl, -⟩
      · rw [h.literal_ends h', List.append_nil]
      · rw [h'.literal_ends h, List.append_nil]

theorem text_ne_nil (h : Cuts text (piece :: pieces)) : text ≠ [] := by
  intro empty
  have none := (List.append_eq_nil_iff.mp (h.whole_cons.trans empty)).1
  cases piece with
  | literal s => exact (h.bare s List.mem_cons_self).1 none
  | token p => exact p.token_ne_nil none

theorem unique (h : Cuts text pieces) (h' : Cuts text pieces') : pieces = pieces' := by
  induction pieces generalizing text pieces' with
  | nil =>
    cases pieces' with
    | nil => rfl
    | cons piece' pieces' => exact absurd h.whole.symm h'.text_ne_nil
  | cons piece pieces ih =>
    cases pieces' with
    | nil => exact absurd h'.whole.symm h.text_ne_nil
    | cons piece' pieces' =>
      obtain rfl := h.first_eq h'
      have rest := List.append_cancel_left (h.whole_cons.trans h'.whole_cons.symm)
      have tail' := h'.tail
      rw [← rest] at tail'
      rw [ih h.tail tail']

theorem first_of_within {p : Placeholder} {before inside after : List Char}
    (h : Cuts text (piece :: pieces)) (cut : piece.source = before ++ inside) (within : inside ≠ [])
    (there : inside ++ pieces.flatMap Piece.source = p.token ++ after) :
    before = [] ∧ piece = .token p ∧ pieces.flatMap Piece.source = after := by
  cases piece with
  | literal s =>
    have ends : inside <:+ s := ⟨before, cut.symm⟩
    have bare (q : Placeholder) : ¬q.token <:+: inside := fun occurs =>
      (h.bare s List.mem_cons_self).2 q (occurs.trans ends.isInfix)
    exact absurd ⟨after, there.symm⟩ (not_prefix_of_bare bare within h.opens p)
  | token q =>
    cases before with
    | nil =>
      rw [← List.nil_append inside, ← cut] at there
      obtain rfl := Placeholder.eq_of_front ⟨_, there⟩ (List.prefix_append _ _)
      exact ⟨rfl, rfl, List.append_cancel_left there⟩
    | cons b before =>
      -- a second bracket would stand in the placeholder that is the first piece
      obtain ⟨c, inner, rfl⟩ := List.exists_cons_of_ne_nil within
      obtain ⟨name, written, -⟩ := p.token_opens
      rw [written] at there
      cases (List.cons.inj there).1
      exact absurd List.mem_cons_self
        (Placeholder.not_opens_inside cut (List.cons_ne_nil b before))

/-- A placeholder at a place in a text is the piece at this place. -/
theorem meets {p : Placeholder} {before after : List Char} (h : Cuts text pieces)
    (there : text = before ++ (p.token ++ after)) : ∃ front back,
      pieces = front ++ .token p :: back ∧ front.flatMap Piece.source = before ∧
        back.flatMap Piece.source = after := by
  induction pieces generalizing text before with
  | nil =>
    have none := List.append_eq_nil_iff.mp (there.symm.trans h.whole.symm)
    exact absurd (List.append_eq_nil_iff.mp none.2).1 p.token_ne_nil
  | cons piece pieces ih =>
    have skip {between : List Char}
        (later : pieces.flatMap Piece.source = between ++ (p.token ++ after))
        (passed : before = piece.source ++ between) : ∃ front back,
          piece :: pieces = front ++ .token p :: back ∧ front.flatMap Piece.source = before ∧
            back.flatMap Piece.source = after := by
      obtain ⟨front, back, rfl, here, behind⟩ := ih h.tail later
      exact ⟨piece :: front, back, rfl, by rw [List.flatMap_cons, here, passed], behind⟩
    rcases List.append_eq_append_iff.mp (h.whole_cons.trans there) with
      ⟨between, passed, later⟩ | ⟨inside, cut, rest⟩
    · exact skip later passed
    · by_cases ends : inside = []
      · -- the place is right behind the first piece
        rw [ends, List.append_nil] at cut
        rw [ends, List.nil_append] at rest
        exact skip rest.symm (by rw [cut, List.append_nil])
      · obtain ⟨rfl, rfl, behind⟩ := h.first_of_within cut ends rest.symm
        exact ⟨[], pieces, rfl, rfl, behind⟩

end Cuts

/-- A text is cut into placeholders and literal pieces in just one way, which depends on nothing but
the text; every placeholder that occurs in it is one of the pieces. Whatever the state, filling in the
text leaves the literal pieces as they are and puts the value of each placeholder in its place, also
where the value looks like a placeholder, and in whatever order the table lists them. -/
theorem fills_in_at_once (text : String) : ∃ pieces, Cuts text.toList pieces ∧
    (∀ others, Cuts text.toList others → others = pieces) ∧
    (∀ (p : Placeholder) (before after : List Char), text.toList = before ++ (p.token ++ after) →
      ∃ front back, pieces = front ++ .token p :: back ∧ front.flatMap Piece.source = before ∧
        back.flatMap Piece.source = after) ∧
    ∀ s, (substitute s text).toList = pieces.flatMap (Piece.filled s) ∧
      ∀ entries, entries.Perm (Placeholder.table s) →
        String.ofList (fillIn entries text.toList) = substitute s text := by
  have cuts := cuts_cut text.toList
  refine ⟨_, cuts, fun others h => h.unique cuts, fun p before after => cuts.meets, fun s => ?_⟩
  have filled : substitute s text =
      String.ofList ((Piece.cut text.toList).flatMap (Piece.filled s)) :=
    congrArg String.ofList (fillIn_eq (.refl _) text.toList)
  refine ⟨by rw [filled, String.toList_ofList], fun entries listed => ?_⟩
  rw [filled, fillIn_eq listed]

/-- A bracket too many, a name that looks like a placeholder, and one that is never closed. -/
theorem fills_in_at_once_nested :
    let s := { GameState.blank with playerName := "[CHALLENGE_WINS]" }
    substitute s "[[PLAYER]] [PLAYER" = "[[CHALLENGE_WINS]] [PLAYER" := by
  intro s
  obtain ⟨pieces, -, only, -, fills⟩ := fills_in_at_once "[[PLAYER]] [PLAYER"
  have cuts : Cuts "[[PLAYER]] [PLAYER".toList
      [.literal ['['], .token .player, .literal "] [PLAYER".toList] := by
    refine ⟨by decide +kernel, fun t member => ?_, by simp [Piece.isToken]⟩
    have literal : t = ['['] ∨ t = "] [PLAYER".toList := by simpa using member
    rcases literal with rfl | rfl
    · exact ⟨by decide +kernel, fun p => by cases p <;> decide +kernel⟩
    · exact ⟨by decide +kernel, fun p => by cases p <;> decide +kernel⟩
  rw [← String.toList_inj, (fills s).1, ← only _ cuts]
  decide +kernel

end Storyline.Text
