/-!
Settings: timings of the presentation, the layout of the save slots, and how long a chain of
branches may be.
-/

namespace Storyline

/-- Timings in milliseconds; those of the typewriter are for each character. -/
structure Timing where
  typewriter : Nat
  typewriterFast : Nat
  logoLine : Nat
  /-- Between the response to a choice and the next node. -/
  line : Nat
  choice : Nat
  endingCue : Nat
  ending : Nat
  /-- After the logo of the intro and after the tagline. -/
  introPause : Nat
  introLine : Nat
  deriving DecidableEq

def Timing.standard : Timing where
  typewriter := 25
  typewriterFast := 5
  logoLine := 50
  line := 100
  choice := 300
  endingCue := 300
  ending := 1000
  introPause := 500
  introLine := 300

def Timing.instant : Timing := ⟨0, 0, 0, 0, 0, 0, 0, 0, 0⟩

structure SaveLayout where
  /-- The slots are numbered from 1 to this. -/
  slotCount : UInt8
  slotPrefix : String
  autosaveKey : String
  deriving DecidableEq

def SaveLayout.standard : SaveLayout where
  slotCount := 3
  slotPrefix := "c2s_save_"
  autosaveKey := "c2s_autosave"

def SaveLayout.slotKey? (layout : SaveLayout) (slot : UInt8) : Option String :=
  if 1 ≤ slot ∧ slot ≤ layout.slotCount then some (layout.slotPrefix ++ toString slot.toNat)
  else none

structure Config where
  timing : Timing
  saves : SaveLayout
  /-- How many branches in a row are followed before they are taken for a cycle. -/
  hopLimit : Nat
  deriving DecidableEq

def Config.standard : Config := ⟨.standard, .standard, 64⟩

def Config.instant (config : Config) : Config := { config with timing := .instant }

end Storyline
