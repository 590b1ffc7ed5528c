/-!
Issues of story content, and reports that list them in a fixed order.
-/

namespace Storyline

inductive IssueLevel
  /-- The content cannot be played. -/
  | error
  /-- The content can be played but is hardly meant so. -/
  | warning
  deriving DecidableEq

namespace IssueLevel

def rank : IssueLevel → Nat
  | error => 0
  | warning => 1

def name : IssueLevel → String
  | error => "error"
  | warning => "warning"

end IssueLevel

inductive IssueCategory
  | references
  | conditions
  | choices
  | flow
  deriving DecidableEq

def IssueCategory.name : IssueCategory → String
  | references => "references"
  | conditions => "conditions"
  | choices => "choices"
  | flow => "flow"

structure Issue where
  level : IssueLevel
  category : IssueCategory
  node : Option String
  message : String
  deriving DecidableEq

namespace Issue

def text (i : Issue) : String :=
  s!"{i.level.name}[{i.category.name}] " ++
    match i.node with
    | some node => s!"{node}: {i.message}"
    | none => i.message

/-- Nodes in the order of their ids, after what belongs to none. -/
def orderNodes : Option String → Option String → Ordering
  | none, none => .eq
  | none, some _ => .lt
  | some _, none => .gt
  | some a, some b => compare a b

/-- The order of a report: by level, then by the name of the category, then by node. -/
def order (a b : Issue) : Ordering :=
  (compare a.level.rank b.level.rank).then
    ((compare a.category.name b.category.name).then (orderNodes a.node b.node))

end Issue

structure Report where
  issues : List Issue
  errorCount : Nat
  warningCount : Nat
  deriving DecidableEq

namespace Report

def empty : Report := ⟨[], 0, 0⟩

def add (r : Report) (i : Issue) : Report :=
  match i.level with
  | .error => { r with issues := r.issues ++ [i], errorCount := r.errorCount + 1 }
  | .warning => { r with issues := r.issues ++ [i], warningCount := r.warningCount + 1 }

/-- Issues in the order of reports; those that it does not tell apart stay in the order in which
they were found. -/
def ofFound (found : List Issue) : Report :=
  let r := found.foldl add empty
  { r with issues := r.issues.mergeSort fun a b => (Issue.order a b).isLE }

theorem foldl_add (found : List Issue) (r : Report) :
    found.foldl add r = ⟨r.issues ++ found,
      r.errorCount + found.countP (fun i => i.level = .error),
      r.warningCount + found.countP (fun i => i.level = .warning)⟩ := by
  induction found generalizing r with
  | nil => simp
  | cons i found ih =>
    rw [List.foldl_cons, ih, add]
    cases level : i.level with
    | error => simp [level, Nat.add_assoc, Nat.add_comm 1]
    | warning => simp [level, Nat.add_assoc, Nat.add_comm 1]

@[simp] theorem issues_ofFound (found : List Issue) :
    (ofFound found).issues = found.mergeSort fun a b => (Issue.order a b).isLE := by
  simp [ofFound, foldl_add, empty]

@[simp] theorem errorCount_ofFound (found : List Issue) :
    (ofFound found).errorCount = found.countP fun i => i.level = .error := by
  simp [ofFound, foldl_add, empty]

@[simp] theorem warningCount_ofFound (found : List Issue) :
    (ofFound found).warningCount = found.countP fun i => i.level = .warning := by
  simp [ofFound, foldl_add, empty]

/-- The counts of a report are those of its list, whatever the order in which it was found. -/
theorem counts_ofFound (found : List Issue) :
    (ofFound found).errorCount = (ofFound found).issues.countP (fun i => i.level = .error) ∧
      (ofFound found).warningCount = (ofFound found).issues.countP fun i => i.level = .warning := by
  rw [errorCount_ofFound, warningCount_ofFound, issues_ofFound]
  exact ⟨((List.mergeSort_perm _ _).countP_eq _).symm, ((List.mergeSort_perm _ _).countP_eq _).symm⟩

theorem ofFound_congr {found found' : List Issue}
    (same : (ofFound found).issues = (ofFound found').issues) : ofFound found = ofFound found' := by
  obtain ⟨errors, warnings⟩ := counts_ofFound found
  obtain ⟨errors', warnings'⟩ := counts_ofFound found'
  rw [same, ← errors'] at errors
  rw [same, ← warnings'] at warnings
  cases one : ofFound found
  cases other : ofFound found'
  simp only [one, other] at same errors warnings
  rw [same, errors, warnings]

def errors (r : Report) : List Issue := r.issues.filter fun i => i.level = .error

def warnings (r : Report) : List Issue := r.issues.filter fun i => i.level = .warning

def hasErrors (r : Report) : Bool := 0 < r.errorCount

def isClean (r : Report) : Bool := r.issues.isEmpty

end Report
end Storyline
