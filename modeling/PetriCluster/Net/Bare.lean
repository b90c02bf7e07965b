import PetriCluster.Net.Behaviour

/-!
# Bare nets

A bare net has no transitions, takes in all tokens and has nothing to say of itself.
-/

namespace PetriCluster

/-- An instance that only has a name. -/
structure Bare where
  id : NetId
  deriving DecidableEq, Repr

namespace Bare

instance : NetBehaviour Bare where
  id := Bare.id
  transitionCount _ := 0
  receive b _ _ := .accepted b
  fire b _ _ := .notEnabled b
  report _ := .null

/-- The template of bare nets. -/
def template : Template Bare :=
  ⟨"bare", fun c => ⟨c.net⟩⟩

end Bare

end PetriCluster
