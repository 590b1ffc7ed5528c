import Storyline.Journal
import Storyline.Loading
import Storyline.Schema.Config
import Storyline.CommandLine.Command

/-!
What comes of the files that a command names, and why a command fails.

A failure is worded from the outside in, down to what lies behind it.
-/

namespace Storyline.CommandLine

inductive ContentFailure
  | unread (path : String) (cause : SystemCause)
  | refused (e : LoadError)

/-- The words for a failure, and once more those for what lies behind it. -/
def ContentFailure.message : ContentFailure → String
  | unread path cause => s!"Failed to read content '{path}': {cause.message}: {cause.message}"
  | refused (.unreadable e) => (LoadError.unreadable e).message ++ ": " ++ e.message
  | refused (.invalid report) => (LoadError.invalid report).message

inductive ConfigFailure
  | unread (cause : SystemCause)
  | refused (e : Json.ReadError)

def ConfigFailure.message : ConfigFailure → String
  | unread cause => cause.message
  | refused e => e.message

inductive PlayFailure
  | content (path : String) (e : ContentFailure)
  | config (path : String) (e : ConfigFailure)

def PlayFailure.message : PlayFailure → String
  | content path e => s!"loading '{path}': {e.message}"
  | config path e => s!"loading config '{path}': {e.message}"

def configOf (text : Except SystemCause String) : Except ConfigFailure Config :=
  match text with
  | .error cause => .error (.unread cause)
  | .ok text => (Json.readText Config.reader text).mapError .refused

namespace PlayOptions

variable {m : Type → Type} [Monad m]

def adapt (options : PlayOptions) (config : Config) : Config :=
  if options.fast then config.instant else config

def settings (options : PlayOptions) (read : String → m (Except SystemCause String)) :
    m (Except PlayFailure Config) :=
  match options.config with
  | none => return .ok (options.adapt .standard)
  | some path => do
    return ((configOf (← read path)).mapError (.config path)).map options.adapt

/-- The content and the settings of a play, with what is noted on the way. The content is read
first, and the settings only if it is good. -/
def gather (options : PlayOptions) (read : String → m (Except SystemCause String)) :
    m (List Note × Except PlayFailure (Content × Config)) := do
  match ← read options.content with
  | .error cause => return ([], .error (.content options.content (.unread options.content cause)))
  | .ok text =>
    let loaded := Content.load text
    match loaded with
    | .error e => return (Note.ofLoading loaded, .error (.content options.content (.refused e)))
    | .ok checked =>
      return (Note.ofLoading loaded, (← options.settings read).map fun config =>
        (checked.content, config))

end PlayOptions

end Storyline.CommandLine
