import PetriCluster.Net.Bare
import PetriCluster.Net.Broadcast
import PetriCluster.Net.Ring
import PetriCluster.Net.Script

/-!
# The nets at hand

`DemoNet` is what the command line offers, by name and as a table of templates; `StockNet` adds the
bare and the scripted nets.
-/

namespace PetriCluster

/-- A net of the command line. -/
abbrev DemoNet := Ring ⊕ Broadcast

namespace DemoNet

/-- The table of the command line; `rounds` is the hop limit of the ring and the number of rounds
of the broadcast. -/
def templates (rounds : UInt32) : List (Template DemoNet) :=
  [(Ring.template rounds).map .inl, (Broadcast.template rounds).map .inr]

/-- The position of the ring in the table. -/
def ring : Nat := 0

/-- The position of the broadcast in the table. -/
def broadcast : Nat := 1

/-- The position of the template of a name. -/
def position? (name : String) : Option Nat :=
  if name = "ring" then some ring
  else if name = "broadcast" then some broadcast
  else none

end DemoNet

/-- A demonstration net, a bare net or a scripted one. -/
abbrev StockNet := DemoNet ⊕ (Bare ⊕ Script)

namespace StockNet

/-- The ring among the stock nets. -/
def ring (limit : UInt32) : Template StockNet :=
  (Ring.template limit).map fun r => .inl (.inl r)

/-- The broadcast among the stock nets. -/
def broadcast (rounds : UInt32) : Template StockNet :=
  (Broadcast.template rounds).map fun b => .inl (.inr b)

/-- Bare nets among the stock nets. -/
def bare : Template StockNet :=
  Bare.template.map fun b => .inr (.inl b)

/-- Scripts among the stock nets. -/
def script (program : Script.Program) : Template StockNet :=
  (Script.template program).map fun s => .inr (.inr s)

end StockNet

end PetriCluster
