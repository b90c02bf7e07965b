import PetriCluster.Net.Behaviour

/-!
# Results as JSON

Nets that write down what became of their requests use these forms. The members of an object are in
alphabetical order.
-/

namespace PetriCluster

namespace RuntimeError

/-- A refusal as JSON: its category, its kind, the setting if it was a set-up, and its words. -/
def toJson (e : RuntimeError) : Json :=
  .obj <|
    [("category", .str e.category), ("error", .str e.kind)] ++
    (match e with
      | configuration fault => [("field", .ofString? fault.field)]
      | _ => []) ++
    [("message", .str e.message)]

end RuntimeError

/-- What became of a request without an answer of its own. -/
def outcomeJson : Except RuntimeError Unit → Json
  | .ok () => .str "ok"
  | .error e => e.toJson

/-- A report as an object. -/
def MulticastReport.toJson (r : MulticastReport) : Json :=
  .obj [
    ("complete", .bool r.isComplete),
    ("delivered", .num r.delivered),
    ("failures", .arr (r.failures.map fun f => .num f.1.index)),
    ("result", outcomeJson r.toExcept),
    ("results", .arr (r.results.map fun x => .arr [.num x.1.index, outcomeJson x.2]))]

end PetriCluster
