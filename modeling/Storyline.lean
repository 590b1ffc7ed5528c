import Storyline.Binary64
import Storyline.Binary64.Shortest
import Storyline.CommandLine.Command
import Storyline.CommandLine.Failure
import Storyline.CommandLine.FileTree
import Storyline.CommandLine.Run
import Storyline.CommandLine.Screen
import Storyline.Config
import Storyline.Console
import Storyline.Dict
import Storyline.Digest
import Storyline.Interpreter.Basic
import Storyline.Interpreter.Entry
import Storyline.Interpreter.Operations
import Storyline.Journal
import Storyline.Json.Basic
import Storyline.Json.Fault
import Storyline.Json.Numeral
import Storyline.Json.Raw
import Storyline.Json.Reader
import Storyline.Json.Scan
import Storyline.Json.Writer
import Storyline.Loading
import Storyline.Main
import Storyline.Output
import Storyline.Proofs.Json.Numbers
import Storyline.Proofs.Json.Numerals
import Storyline.Rules
import Storyline.Saves.Slots
import Storyline.Saves.Store
import Storyline.Schema.Config
import Storyline.Schema.Output
import Storyline.Schema.State
import Storyline.Schema.Story
import Storyline.Session
import Storyline.Session.Renderer
import Storyline.State
import Storyline.Status
import Storyline.Story
import Storyline.Terminal.Script
import Storyline.Terminal.Timed
import Storyline.Terminal.Typewriter
import Storyline.Text.Blank
import Storyline.Text.Markup
import Storyline.Text.Quoted
import Storyline.Text.Uppercase
import Storyline.Validation.Checks
import Storyline.Validation.Issue
import Storyline.Validation.Reach
import Storyline.Wording
import Storyline.Proofs.Json.Quoting
import Storyline.Proofs.Json.Scanned
import Storyline.Proofs.Json.Records
import Storyline.Proofs.Saves.FreeValues
import Storyline.Proofs.Saves.RoundTrip
import Storyline.Proofs.Json.Filling
import Storyline.Proofs.Saves.Nesting
import Storyline.Proofs.Saves.Fields
import Storyline.Proofs.Saves.Keeping
import Storyline.Proofs.Play.Runs
import Storyline.Proofs.Play.Walk
import Storyline.Proofs.Play.Course
import Storyline.Proofs.Play.Leads
import Storyline.Proofs.Play.Standing
import Storyline.Proofs.Play.Upkeep
import Storyline.Proofs.Play.Agreement
import Storyline.Proofs.Play.Recovery
import Storyline.Proofs.Play.Reload
import Storyline.Proofs.Play.Autosave
import Storyline.Proofs.Play.Journal
import Storyline.Proofs.Play.Soundness
import Storyline.Proofs.Play.Table
import Storyline.Proofs.Play.Acceptance
import Storyline.Proofs.Play.Entering
import Storyline.Proofs.Play.Showing
import Storyline.Proofs.Play.Suspension
import Storyline.Proofs.Play.Choosing
import Storyline.Proofs.Play.Continuing
import Storyline.Proofs.Play.Naming
import Storyline.Proofs.Play.Isolation
import Storyline.Proofs.Play.Stranding
import Storyline.Proofs.Rules.Effects
import Storyline.Proofs.Play.Lasting
import Storyline.Proofs.Validation.Issues
import Storyline.Proofs.Play.Proper
import Storyline.Proofs.Play.History
import Storyline.Proofs.Play.Confinement
import Storyline.Proofs.Play.Faults
import Storyline.Proofs.Play.Listing
import Storyline.Proofs.Play.Indifference
import Storyline.Proofs.Session.Calls
import Storyline.Proofs.Session.Replay
import Storyline.Proofs.Json.Likeness
import Storyline.Proofs.Play.Bare
import Storyline.Proofs.Saves.Undated
import Storyline.Proofs.Play.Presentation
import Storyline.Proofs.Session.Breaking
import Storyline.Proofs.Terminal.Hearing
import Storyline.Proofs.Play.Storing
import Storyline.Proofs.Schema.RoundTrip
import Storyline.Proofs.Text.Speakers
import Storyline.Proofs.Terminal.Instant
import Storyline.Proofs.Terminal.Headers
import Storyline.Proofs.Play.Cycles
import Storyline.Proofs.Validation.Counting
import Storyline.Proofs.Saves.LastWrites
import Storyline.Proofs.Session.Spending
import Storyline.Proofs.Terminal.Spending
import Storyline.Proofs.Validation.Paths
import Storyline.Proofs.Validation.Ordering
import Storyline.Proofs.Text.Substitution
import Storyline.Proofs.Text.Splitting
import Storyline.Proofs.Text.Breaks
import Storyline.Proofs.Terminal.Revealing
import Storyline.Proofs.CommandLine.Paths
import Storyline.Proofs.Saves.Files
import Storyline.Proofs.Terminal.Commands
