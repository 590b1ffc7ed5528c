/-!
What the program is asked to do by its arguments.
-/

namespace Storyline.CommandLine

structure PlayOptions where
  content : String
  saveFolder : String
  config : Option String
  fast : Bool
  deriving DecidableEq

inductive Command
  | play (options : PlayOptions)
  | check (path : String)
  | help
  deriving DecidableEq

inductive UsageError
  | noCommand
  | unknownCommand (name : String)
  | missingContent
  | missingSaveFolder
  | missingConfig
  | unknownOption (name : String)
  deriving DecidableEq

/-- The words for a usage error; there are none where the usage says enough. -/
def UsageError.message? : UsageError → Option String
  | noCommand => none
  | unknownCommand name => some s!"Unknown command '{name}'"
  | missingContent => some "Missing content file path"
  | missingSaveFolder => some "--save-dir needs a directory"
  | missingConfig => some "--config needs a file"
  | unknownOption name => some s!"Unknown option '{name}'"

/-- The options of a play. Of an option that is given twice the last one counts. -/
def PlayOptions.ofArguments (options : PlayOptions) : List String → Except UsageError PlayOptions
  | [] => .ok options
  | "--save-dir" :: folder :: rest => { options with saveFolder := folder }.ofArguments rest
  | ["--save-dir"] => .error .missingSaveFolder
  | "--config" :: file :: rest => { options with config := some file }.ofArguments rest
  | ["--config"] => .error .missingConfig
  | "--fast" :: rest => { options with fast := true }.ofArguments rest
  | other :: _ => .error (.unknownOption other)

def PlayOptions.standard (content : String) : PlayOptions := ⟨content, "saves", none, false⟩

/-- The command that arguments make. What comes after the path of a check does not matter. -/
def Command.ofArguments : List String → Except UsageError Command
  | [] => .error .noCommand
  | ["play"] => .error .missingContent
  | "play" :: content :: rest => ((PlayOptions.standard content).ofArguments rest).map .play
  | ["check"] => .error .missingContent
  | "check" :: path :: _ => .ok (.check path)
  | "--help" :: _ => .ok .help
  | "-h" :: _ => .ok .help
  | other :: _ => .error (.unknownCommand other)

def debugVariable : String := "GAUNTLET_DEBUG"

def usage : String := String.join ([
  "gauntlet - Challenge 2 Survive story player",
  "",
  "USAGE:",
  "    gauntlet play <content.json> [--save-dir DIR] [--config FILE] [--fast]",
  "    gauntlet check <content.json>",
  "",
  "COMMANDS:",
  "    play <file>     Play the story in the terminal",
  "    check <file>    Validate content and print its digest",
  "    --help, -h      Show this help message",
  "",
  "OPTIONS:",
  "    --save-dir DIR  Where saves are written (default: ./saves)",
  "    --config FILE   JSON engine config",
  "    --fast          No delays or typewriter effect",
  "",
  "ENVIRONMENT:",
  s!"    {debugVariable}=1  Debug logging to stderr"].map (· ++ "\n"))

end Storyline.CommandLine
