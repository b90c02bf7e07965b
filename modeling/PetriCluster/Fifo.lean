/-!
# First-in-first-out queues

A queue is a pair of lists: the front in order and the back in reverse, so that values go in at one
end and out at the other without walking the queue.
-/

namespace PetriCluster

/-- A first-in-first-out queue. -/
structure Fifo (α : Type) where
  front : List α
  back : List α
  deriving Repr

namespace Fifo

variable {α : Type}

/-- The empty queue. -/
def empty : Fifo α := ⟨[], []⟩

instance : Inhabited (Fifo α) := ⟨empty⟩

/-- The queue in order. -/
def toList (q : Fifo α) : List α := q.front ++ q.back.reverse

/-- Put something at the end. -/
def push (q : Fifo α) (a : α) : Fifo α := { q with back := a :: q.back }

/-- Take out the first. -/
def pop? (q : Fifo α) : Option (α × Fifo α) :=
  match q.front with
  | a :: front => some (a, { q with front })
  | [] =>
    match q.back.reverse with
    | a :: front => some (a, ⟨front, []⟩)
    | [] => none

@[simp] theorem toList_empty : (empty : Fifo α).toList = [] := rfl

@[simp] theorem toList_push (q : Fifo α) (a : α) : (q.push a).toList = q.toList ++ [a] := by
  simp [toList, push]

/-- Taking out gives the head and the tail of the list. -/
theorem pop?_eq (q : Fifo α) :
    q.pop?.map (fun r => (r.1, r.2.toList)) =
      match q.toList with
      | [] => none
      | a :: rest => some (a, rest) := by
  obtain ⟨front, back⟩ := q
  cases front with
  | cons a front => simp [pop?, toList]
  | nil =>
    cases h : back.reverse with
    | nil => simp [pop?, toList, h]
    | cons a front => simp [pop?, toList, h]

end Fifo

end PetriCluster
