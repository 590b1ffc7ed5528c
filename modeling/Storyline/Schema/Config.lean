import Storyline.Config
import Storyline.Schema.State

/-!
Settings as JSON. Every field may be left out.
-/

namespace Storyline

open Json

namespace Timing

def toJson (t : Timing) : Json :=
  .object [("typewriter_speed", .ofNat t.typewriter),
    ("typewriter_speed_fast", .ofNat t.typewriterFast),
    ("logo_line_delay", .ofNat t.logoLine),
    ("line_delay", .ofNat t.line),
    ("choice_delay", .ofNat t.choice),
    ("ending_cue", .ofNat t.endingCue),
    ("ending_delay", .ofNat t.ending),
    ("intro_pause", .ofNat t.introPause),
    ("intro_line_pause", .ofNat t.introLine)]

/-- The fields in the order in which they are read. -/
def fields : List (Member Timing) :=
  [.optional "typewriter_speed" .millis fun t x => { t with typewriter := x },
    .optional "typewriter_speed_fast" .millis fun t x => { t with typewriterFast := x },
    .optional "logo_line_delay" .millis fun t x => { t with logoLine := x },
    .optional "line_delay" .millis fun t x => { t with line := x },
    .optional "choice_delay" .millis fun t x => { t with choice := x },
    .optional "ending_cue" .millis fun t x => { t with endingCue := x },
    .optional "ending_delay" .millis fun t x => { t with ending := x },
    .optional "intro_pause" .millis fun t x => { t with introPause := x },
    .optional "intro_line_pause" .millis fun t x => { t with introLine := x }]

def reader : Reader Timing := Record.read "struct TimingConfig" fields .standard

end Timing

namespace SaveLayout

def toJson (l : SaveLayout) : Json :=
  .object [("slot_count", .ofUInt8 l.slotCount), ("slot_key_prefix", .string l.slotPrefix),
    ("autosave_key", .string l.autosaveKey)]

def fields : List (Member SaveLayout) :=
  [.optional "slot_count" .uint8 fun l x => { l with slotCount := x },
    .optional "slot_key_prefix" .text fun l x => { l with slotPrefix := x },
    .optional "autosave_key" .text fun l x => { l with autosaveKey := x }]

def reader : Reader SaveLayout := Record.read "struct SaveConfig" fields .standard

end SaveLayout

namespace Config

def toJson (c : Config) : Json :=
  .object [("timing", c.timing.toJson), ("saves", c.saves.toJson),
    ("branch_hop_limit", .ofNat c.hopLimit)]

def fields : List (Member Config) :=
  [.optional "timing" Timing.reader fun c x => { c with timing := x },
    .optional "saves" SaveLayout.reader fun c x => { c with saves := x },
    .optional "branch_hop_limit" .count fun c x => { c with hopLimit := x }]

def reader : Reader Config := Record.read "struct EngineConfig" fields .standard

end Config
end Storyline
