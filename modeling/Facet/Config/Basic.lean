namespace Facet

inductive Diagnostics
  | detailed | silent
  deriving DecidableEq

def Diagnostics.debug : Diagnostics → String
  | .detailed => "Detailed"
  | .silent => "Silent"

structure Config where
  diagnostics : Diagnostics
  resetSlotOnFinish : Bool
  deriving DecidableEq

namespace Config

def default : Config := ⟨.detailed, true⟩

def debug (c : Config) : String :=
  "Config \x7b replay_diagnostics: " ++ c.diagnostics.debug ++ ", reset_slot_on_finish: " ++
    (if c.resetSlotOnFinish then "true" else "false") ++ " \x7d"

def withOverrides (c : Config) (diagnostics : Option Diagnostics) (reset : Option Bool) : Config :=
  ⟨diagnostics.getD c.diagnostics, reset.getD c.resetSlotOnFinish⟩

end Config

end Facet
