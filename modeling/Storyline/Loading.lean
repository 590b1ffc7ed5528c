import Storyline.Digest
import Storyline.Schema.Story
import Storyline.Validation.Checks

/-!
Loading of story content: a text is read and checked, and content with errors is refused.
-/

namespace Storyline

structure Checked where
  content : Content
  report : Report
  digest : String

inductive LoadError
  | unreadable (e : Json.ReadError)
  | invalid (report : Report)

def LoadError.message : LoadError → String
  | unreadable e => "Invalid content JSON: " ++ e.message
  | invalid report => s!"Content failed validation with {report.errorCount} error(s)"

namespace Content

/-- Reads content without looking whether it can be played. -/
def ofText (text : String) : Except Json.ReadError Content := Json.readText reader text

def check (text : String) : Except Json.ReadError Checked := do
  let content ← ofText text
  return ⟨content, content.validate, Digest.ofText text⟩

def load (text : String) : Except LoadError Checked :=
  match check text with
  | .error e => .error (.unreadable e)
  | .ok checked => if checked.report.hasErrors then .error (.invalid checked.report) else .ok checked

end Content
end Storyline
