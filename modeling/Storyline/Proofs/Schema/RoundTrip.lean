import Storyline.Proofs.Play.Upkeep
import Storyline.Proofs.Schema.Parts

/-!
A story is read back as it was written. Each type has one lemma, from the values that are free up to
the whole content, with the levels of nesting that it needs.
-/

namespace Storyline

open Json

/-- A value that is read back where so many levels are left. -/
def Value.Restorable (n : Nat) (v : Value) : Prop := v.json.Within n ∧ v.json.Faithful

def VoteRecord.Restorable (n : Nat) (name : String) (v : Value) : Prop :=
  IsFree name ∧ v.Restorable n

section

variable {n : Nat}

theorem VoteRecord.Holds.restorable {v : VoteRecord} (levels : v.Holds (IsDetail n))
    (faithful : v.Holds fun _ v => v.IsFaithful) : v.Holds (Restorable n) :=
  fun d inside => ⟨(levels d inside).1, (levels d inside).2, faithful d inside⟩

theorem Effects.Holds.restorable {e : Effects}
    (levels : e.Holds (Value.IsWithin (n + 1)) (VoteRecord.IsDetail n))
    (faithful : e.Holds Value.IsFaithful fun _ v => v.IsFaithful) :
    e.Holds (Value.Restorable (n + 1)) (VoteRecord.Restorable n) where
  flags f member := ⟨levels.flags f member, faithful.flags f member⟩
  votes v member := (levels.votes v member).restorable (faithful.votes v member)

theorem GameState.Holds.restorable {s : GameState}
    (levels : s.Holds (Value.IsWithin (n + 1)) (VoteRecord.IsDetail n)) (faithful : s.Faithful) :
    s.Holds (Value.Restorable (n + 1)) (VoteRecord.Restorable n) where
  flags f member := ⟨levels.flags f member, faithful.flags f member⟩
  votes v member := (levels.votes v member).restorable (faithful.votes v member)

theorem VoteRecord.restores {v : VoteRecord} (h : v.Holds (Restorable n)) :
    VoteRecord.reader.Restores (n + 1) v.toJson v where
  recovers := recovers_vote (fun e member => (h e member).1) (fun e member => (h e member).2.1)
    (fun e member => (h e member).2.2)
  within := within_toJson fun e member => (h e member).2.1
  faithful := faithful_toJson fun e member => (h e member).2.2

theorem Effects.restores {e : Effects}
    (h : e.Holds (Value.Restorable (n + 1)) (VoteRecord.Restorable n)) :
    Effects.reader.Restores (n + 3) e.toJson e := by
  -- one line for each member; what is left out is what effects have before anything is read
  have written : Record.Writes (n + 2) fields .none _ e :=
    .givenDict e.relationships (fun r _ => restores_int32 _ r.2) rfl <|
    .givenDict e.flags (fun f member =>
      restores_value (h.flags f member).1 (h.flags f member).2) rfl <|
    .givenList e.alliances (fun a _ => restores_text _ a) rfl <|
    .given e.challengeWins (fun x _ => restores_uint32 _ x) (fun _ => number_ne_null _) rfl <|
    .given e.eliminationWins (fun x _ => restores_uint32 _ x) (fun _ => number_ne_null _) rfl <|
    .givenList e.votes (fun v member => VoteRecord.restores (h.votes v member)) rfl <|
    .given e.eliminated (fun l _ => restores_texts _ l) (fun _ => array_ne_null _) rfl <|
    .given e.activePlayers (fun l _ => restores_texts _ l) (fun _ => array_ne_null _) rfl <| .nil _
  have whole : Effects.reader.Restores (n + 3) _ e := Record.restores_read _ (by decide) written
  simpa only [toJson, List.append_assoc, List.append_nil] using whole

theorem Choice.restores {c : Choice} (h : ∀ e, c.effects = some e →
      e.Holds (Value.Restorable (n + 1)) (VoteRecord.Restorable n)) :
    Choice.reader.Restores (n + 4) c.toJson c := by
  have written : Record.Writes (n + 3) fields ⟨"", none, none, none⟩ _ c :=
    .mandatory (restores_text _ c.text) <|
    .given c.response (fun s _ => restores_text _ s) string_ne_null rfl <|
    .given c.effects (fun e given => Effects.restores (h e given)) (fun _ => object_ne_null _) rfl <|
    .given c.next (fun s _ => restores_text _ s) string_ne_null rfl <| .nil _
  have whole : Choice.reader.Restores (n + 4) _ c := Record.restores_read _ (by decide) written
  simpa only [toJson, List.append_assoc, List.append_nil, List.cons_append] using whole

namespace Condition

theorem writes_ends {test : Test} (ifTrue ifFalse : String) :
    Record.Writes n endFields ⟨test, "", ""⟩
      [("if_true", .string ifTrue), ("if_false", .string ifFalse)] ⟨test, ifTrue, ifFalse⟩ :=
  .mandatory (restores_text n ifTrue) <| .mandatory (restores_text n ifFalse) <| .nil _

theorem restores (n : Nat) (c : Condition) : Condition.reader.Restores (n + 1) c.toJson c := by
  obtain ⟨test, ifTrue, ifFalse⟩ := c
  cases test with
  | flag name =>
    exact Tagged.restores_record _ (show kindReader 0 = _ from rfl) rfl (by decide) (by decide) <|
      .mandatory (restores_text n name) (writes_ends ifTrue ifFalse)
  | relationship character above below =>
    have written : Condition.reader.Restores (n + 1)
        (.object (("type", .string "relationship_check") :: _))
        ⟨.relationship character above below, ifTrue, ifFalse⟩ :=
      Tagged.restores_record _ (show kindReader 1 = _ from rfl) rfl (by decide) (by decide) <|
        .mandatory (restores_text n character) <|
        .given above (fun x _ => restores_int32 n x) (fun _ => number_ne_null _) rfl <|
        .given below (fun x _ => restores_int32 n x) (fun _ => number_ne_null _) rfl <|
        writes_ends ifTrue ifFalse
    simpa only [toJson, typeName, List.append_assoc, List.cons_append] using written
  | alliance name =>
    exact Tagged.restores_record _ (show kindReader 2 = _ from rfl) rfl (by decide) (by decide) <|
      .mandatory (restores_text n name) (writes_ends ifTrue ifFalse)

end Condition

namespace NodeKind

def written (kind : NodeKind) : List (String × Json) := ("type", .string kind.name) :: kind.toFields

theorem restores {kind : NodeKind} (h : ∀ e ∈ kind.effects,
      e.Holds (Value.Restorable (n + 1)) (VoteRecord.Restorable n)) :
    NodeKind.reader.Restores (n + 6) (.object kind.written) kind := by
  cases kind with
  | narrative next =>
    have fields : (narrative next).toFields = given "next" .string next ++ [] :=
      (List.append_nil _).symm
    unfold written
    rw [fields]
    exact Tagged.restores_record _ (show kindReader 0 = _ from rfl) rfl (by decide) (by decide) <|
      .given next (fun s _ => restores_text _ s) string_ne_null rfl <| .nil _
  | choice choices =>
    have each : ∀ c ∈ choices, Choice.reader.Restores (n + 4) c.toJson c := fun c member =>
      Choice.restores fun e given => h e (List.mem_filterMap.mpr ⟨c, member, given⟩)
    exact Tagged.restores_record _ (show kindReader 1 = _ from rfl) rfl (by decide) (by decide) <|
      .mandatory (restores_list each) <| .nil _
  | branch condition =>
    exact Tagged.restores_record _ (show kindReader 2 = _ from rfl) rfl (by decide) (by decide) <|
      .mandatory (condition.restores (n + 4)) <| .nil _
  | ending =>
    exact Tagged.restores_record _ (show kindReader 3 = _ from rfl) rfl (by decide) (by decide) <|
      .nil _

/-- What belongs to a kind has no name of a part that all nodes have. -/
theorem name_written (kind : NodeKind) : ∀ f ∈ kind.written, ∀ m ∈ Node.fields, m.name ≠ f.1 := by
  have names : ∀ name ∈ kind.written.map Prod.fst,
      name ∈ ["type", "next", "choices", "condition"] := by
    cases kind with
    | narrative next =>
      cases next with
      | none => exact show ∀ name ∈ ["type"], _ by decide
      | some next => exact show ∀ name ∈ ["type", "next"], _ by decide
    | choice choices => exact show ∀ name ∈ ["type", "choices"], _ by decide
    | branch condition => exact show ∀ name ∈ ["type", "condition"], _ by decide
    | ending => exact show ∀ name ∈ ["type"], _ by decide
  have apart : ∀ name ∈ ["type", "next", "choices", "condition"],
      name ∉ Node.fields.map Member.name := by decide
  intro f member m common same
  exact apart f.1 (names f.1 (List.mem_map_of_mem member)) (same ▸ List.mem_map_of_mem common)

end NodeKind

theorem Node.restores {node : Node} (h : ∀ e ∈ node.kind.effects,
      e.Holds (Value.Restorable (n + 1)) (VoteRecord.Restorable n)) :
    Node.reader.Restores (n + 6) node.toJson node := by
  -- the common parts are read beside a kind that is replaced when the other fields are read again
  have common : Record.Writes (n + 5) fields (plain "" .ending) _ { node with kind := .ending } :=
    .given node.day (fun x _ => restores_uint32 _ x) (fun _ => number_ne_null _) rfl <|
    .given node.episode (fun x _ => restores_uint32 _ x) (fun _ => number_ne_null _) rfl <|
    .given node.speaker (fun s _ => restores_text _ s) string_ne_null rfl <|
    .optional (restores_text _ node.text) <| .nil _
  have opened := Record.restores_open "struct Node"
    (fun (node : Node) (kind : NodeKind) => { node with kind := kind }) (by decide) common
    (NodeKind.restores h) node.kind.name_written
  have whole : Node.reader.Restores (n + 6) _ node := opened
  simpa only [toJson, NodeKind.written, List.append_assoc, List.cons_append, List.nil_append]
    using whole

theorem Character.restores (n : Nat) (c : Character) :
    Character.reader.Restores (n + 1) c.toJson c := by
  have written : Record.Writes n fields ⟨"", "", 0⟩ _ c :=
    .mandatory (restores_text n c.id) <| .mandatory (restores_text n c.name) <|
    .optional (restores_int32 n c.disposition) <| .nil _
  exact Record.restores_read _ (by decide) written

theorem Cast.restores (n : Nat) (c : Cast) : Cast.reader.Restores (n + 3) c.toJson c := by
  have written : Record.Writes (n + 2) fields .standard _ c :=
    .optional (restores_list fun character _ => Character.restores n character) <|
    .optional (restores_dict fun e _ => restores_text (n + 1) e.2) <| .nil _
  exact Record.restores_read _ (by decide) written

theorem restores_castSize (n : Nat) (x : UInt64) :
    (Reader.map UInt64.ofNat .count).Restores n (.ofUInt64 x) x := by
  refine ⟨?_, .number _, .whole _⟩
  intro p r _ shown
  have fits := x.toNat_lt
  unfold Reader.map Reader.count
  rw [whole_shown "usize" (by omega) shown]
  simp [bind, Except.bind, pure, Except.pure, Except.map]

theorem Titles.restores (n : Nat) (t : Titles) : Titles.reader.Restores (n + 1) t.toJson t := by
  have written : Record.Writes n fields .standard _ t :=
    .optional (restores_text n t.title) <| .optional (restores_text n t.tagline) <|
    .optional (restores_orNull (o := t.logo) (fun s _ => restores_text n s) string_ne_null) <|
    .optional (restores_castSize n t.castSize) <| .nil _
  exact Record.restores_read _ (by decide) written

theorem GameState.restores_template {s : GameState}
    (h : s.Holds (Value.Restorable (n + 1)) (VoteRecord.Restorable n)) :
    GameState.templateReader.Restores (n + 3) s.toJson s := by
  have flags : ∀ f ∈ s.flags.entries, Reader.Restores Reader.value n.succ f.2.json f.2 :=
    fun f member => restores_value (h.flags f member).1 (h.flags f member).2
  have votes : ∀ v ∈ s.voteHistory, VoteRecord.reader.Restores (n + 1) v.toJson v :=
    fun v member => VoteRecord.restores (h.votes v member)
  -- the fields of the state are variables here, so that the record which is filled is compared with
  -- them one by one and not as a whole
  cases s
  refine Record.restores_read "struct GameStateTemplate" (by decide) ?_
  exact .optional (restores_text _ _) <| .optional (restores_text _ _) <|
    .optional (restores_uint32 _ _) <| .optional (restores_uint32 _ _) <|
    .optional (restores_dict fun r _ => restores_int32 _ r.2) <| .optional (restores_dict flags) <|
    .optional (restores_texts _ _) <|
    .optional (restores_uint32 _ _) <| .optional (restores_uint32 _ _) <|
    .optional (restores_list votes) <|
    .optional (restores_texts _ _) <| .optional (restores_texts _ _) <| .nil _

end

namespace Content

variable {content : Content}

theorem restores
    (template : content.template.Holds (Value.Restorable 124) (VoteRecord.Restorable 123))
    (nodes : ∀ n ∈ content.nodes.entries, ∀ e ∈ n.2.kind.effects,
      e.Holds (Value.Restorable 120) (VoteRecord.Restorable 119)) :
    Content.reader.Restores 127 content.toJson content := by
  have written : Record.Writes 126 fields ⟨.standard, .empty, .standard, .blank⟩ _ content :=
    .optional (Titles.restores 125 content.titles) <|
    .mandatory (restores_dict fun n member => Node.restores (nodes n member)) <|
    .optional (Cast.restores 123 content.cast) <|
    .mandatory (GameState.restores_template template) <| .nil _
  exact Record.restores_read _ (by decide) written

/-- A story that was read is written and read back as it is: every node with all that belongs to it,
the cast, the titles and the template; to write it a second time changes nothing. The real numbers in
it are taken to be read as they are written. -/
theorem is_read_back {text : String} (parsed : ofText text = .ok content)
    (numbers : content.Faithful) :
    ofText content.toJson.text = .ok content ∧
      ∀ again, ofText content.toJson.text = .ok again → again.toJson.text = content.toJson.text := by
  obtain ⟨template, nodes⟩ := ensures_reader .start _ content (Nat.le_refl 127) (read_ofText parsed)
  have whole := restores (template.restorable numbers.template)
    fun n member e inside => (nodes n member e inside).restorable (numbers.effects n member e inside)
  have back : ofText content.toJson.text = .ok content := by
    obtain ⟨raw, shown, read⟩ := readText_text reader content.toJson
    exact read.trans (whole.recovers .start raw (Nat.le_refl 127) shown)
  refine ⟨back, fun again read => ?_⟩
  rw [back] at read
  cases read
  rfl

/-- A text with types told by number, with a field that no story has, and with only the parts that it
has to have. -/
def sketch : Json := .object [
  ("version", .ofNat 3),
  ("nodes", .object [
    ("start", .object [("text", .string "Pick"), ("choices", .array [.object [
      ("text", .string "Go"), ("effects", .object [("flags", .object [("went", .bool true)])]),
      ("next", .string "met")]]), ("type", .ofNat 1)]),
    ("met", .object [("type", .ofNat 2), ("condition", .object [("type", .ofNat 1),
      ("character", .string "ann"), ("below", .ofNat 3), ("if_true", .string "end"),
      ("if_false", .string "start")])]),
    ("end", .object [("type", .string "ending")])]),
  ("game_state_template", .object [("current_node", .string "start")])]

def sketched : Content where
  titles := .standard
  nodes := Dict.ofList [
    ("start", .choice "Pick" [⟨"Go", none, some { Effects.none with
      flags := Dict.empty.insert "went" (.bool true) }, some "met"⟩]),
    ("met", .branch ⟨.relationship "ann" none (some 3), "end", "start"⟩),
    ("end", .ending "")]
  cast := .standard
  template := { GameState.blank with currentNode := "start" }

theorem is_read_back_sketch : ofText sketch.text = .ok sketched ∧
    sketched.toJson.write ≠ sketch.write ∧ ofText sketched.toJson.text = .ok sketched := by
  have parsed : ofText sketch.text = .ok sketched := by
    unfold ofText
    rw [Json.readText_scanned]
    decide +kernel
  exact ⟨parsed, by decide +kernel, (is_read_back parsed (by decide +kernel)).1⟩

end Content
end Storyline
