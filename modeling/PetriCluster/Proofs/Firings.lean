import PetriCluster.Proofs.Operations
import PetriCluster.Transport.Mailbox
import Mathlib

/-!
# Nets that halt and still fire

A request to halt a net marks its slot at once, but the owner of the net learns of it from an item in
its inbox. Until the owner has dealt with that item it has the net active, and gives its transitions
chances to fire: on request, or when its turn comes.
-/

namespace PetriCluster

/-- A worker asks a transition of an active instance to fire. -/
structure Shot (σ τ : Type) where
  worker : WorkerId
  net : NetId
  state : σ
  transition : TransitionIndex
  hand : List (WorkItem σ)
  node : Node σ τ

namespace Node

variable {σ τ : Type} [NetBehaviour σ] [Transport τ]

/-- The shot when an item comes first among those at hand: a request to fire, for a net that the worker
has active. -/
def itemShots (w : WorkerId) (hand : List (WorkItem σ)) (n : Node σ τ) : WorkItem σ → List (Shot σ τ)
  | .fire net transition =>
    ((n.process.worker w).nets.find? net).toList.map (⟨w, net, ·, transition, hand, n⟩)
  | _ => []

/-- The shots while a worker deals with items. -/
def handleShots (w : WorkerId) : List (WorkItem σ) → Node σ τ → List (Shot σ τ)
  | [], _ => []
  | item :: rest, n =>
    itemShots w (item :: rest) n item ++
      match dealWith w item n with
      | .ok _ m => handleShots w rest m
      | .error _ _ => []

/-- The shots while a worker deals with everything in its inbox. -/
def messageShots (w : WorkerId) (n : Node σ τ) : List (Shot σ τ) :=
  match drainInbox w n with
  | .ok items m => handleShots w items m
  | .error _ _ => []

/-- The shots when transitions of a net are given a chance to fire. -/
def fireEachShots (w : WorkerId) (net : NetId) :
    σ → List TransitionIndex → Node σ τ → List (Shot σ τ)
  | _, [], _ => []
  | state, transition :: rest, n =>
    if n.process.quitting then []
    else ⟨w, net, state, transition, [], n⟩ ::
      match fireAndRecord w net state transition n with
      | .ok outcome m => if outcome.halted then [] else fireEachShots w net outcome.state rest m
      | .error _ _ => []

/-- The shots when all transitions of the given nets are given a chance to fire. -/
def fireNetsShots (w : WorkerId) : List NetId → (fired : Nat) → Node σ τ → List (Shot σ τ)
  | [], _, _ => []
  | net :: rest, fired, n =>
    if n.process.quitting then []
    else
      match (n.process.worker w).nets.find? net with
      | none => fireNetsShots w rest fired n
      | some state =>
        fireEachShots w net state (transitions state) n ++
          match fireEach w net state (transitions state) fired n with
          | .ok fired m => fireNetsShots w rest fired m
          | .error _ _ => []

/-- The shots when every transition of every net of a worker is given a chance to fire. -/
def fireReadyShots (w : WorkerId) (n : Node σ τ) : List (Shot σ τ) :=
  fireNetsShots w (n.process.worker w).nets.keys 0 n

/-- The shots of a round. -/
def roundShots (w : WorkerId) (n : Node σ τ) : List (Shot σ τ) :=
  messageShots w n ++
    match processMessages w n with
    | .ok _ m => fireReadyShots w m
    | .error _ _ => []

end Node

/-- The shots of an operation. -/
def Operation.shots {σ τ : Type} [NetBehaviour σ] [Transport τ] :
    Operation → Node σ τ → List (Shot σ τ)
  | processMessages w, n => n.messageShots w
  | fireReady w, n => n.fireReadyShots w
  | runOnce w, n => n.roundShots w
  | _, _ => []

namespace Scene

variable {σ : Type} [NetBehaviour σ]

/-- Every net is accounted for. -/
structure Regular (s : Scene σ) : Prop where
  sound : s.Sound
  named : s.Named
  accounted : ∀ net, s.Accounted net

variable {s t : Scene σ}

theorem Fresh.regular (h : s.Fresh) : s.Regular := ⟨h.sound, h.named, h.accounted⟩

theorem Regular.step [LawfulNet σ] {naming open_ : Prop} {ws : List Wire} {events : List TokenEvent}
    (h : s.Regular) (hstep : Step naming open_ s ws events t) : t.Regular :=
  ⟨hstep.sound h.sound, hstep.named h.named, hstep.accounted h.sound h.named h.accounted⟩

/-- A whole run keeps a scene regular. -/
theorem Regular.path [LawfulNet σ] {naming open_ : Prop} {τ : Type} [Transport τ] {l k : τ}
    {events : List TokenEvent} (h : s.Regular) (hpath : (steps naming open_).Path s l events t k) :
    t.Regular := by
  induction hpath with
  | nil => exact h
  | cons hstep _ _ ih => exact ih (h.step hstep)

theorem Regular.active {w : WorkerId} {net : NetId} {state : σ} (h : s.Regular)
    (hactive : s.active w net = some state) :
    ∃ slot, s.registry.slot? net = some slot ∧ slot.owner = w ∧
      (slot.state = .active ∧ s.count (WorkItem.isHaltOf net) = 0 ∨
        slot.state = .halting ∧ s.count (WorkItem.isHaltOf net) = 1) := by
  obtain ⟨slot, hslot, howner, hresides⟩ := (h.accounted net).slot_of_active hactive
  have hheld : held (s.active slot.owner net) = 1 := by simp [howner, hactive, held]
  refine ⟨slot, hslot, howner, ?_⟩
  cases hresides.stage with
  | spawned => omega
  | active hstate _ hhalts => exact .inl ⟨hstate, hhalts⟩
  | stopping hstate _ hhalts => exact .inr ⟨hstate, hhalts⟩
  | stopped => omega

end Scene

namespace Shot

variable {σ τ : Type} (shot : Shot σ τ)

/-- The scene at a shot. -/
def scene : Scene σ := shot.node.process.scene shot.worker shot.hand

/-- The slot of the net at a shot. -/
def slot? : Option Slot := shot.node.process.registry.slot? shot.net

variable [NetBehaviour σ]

/-- The number of items, in inboxes or taken out of them, that are to stop the net. -/
def pendingHalts : Nat := shot.scene.count (WorkItem.isHaltOf shot.net)

/-- The worker has the instance, and all nets are accounted for. -/
structure Aimed : Prop where
  regular : shot.scene.Regular
  found : (shot.node.process.worker shot.worker).nets.find? shot.net = some shot.state

end Shot

namespace Node

open Rules Scene

variable {σ τ : Type} [NetBehaviour σ] [LawfulNet σ] [Transport τ] {n : Node σ τ} {w : WorkerId}
  {shot : Shot σ τ}

omit [LawfulNet σ] [Transport τ] in
theorem itemShots_aimed {hand : List (WorkItem σ)} {item : WorkItem σ}
    (h : (n.process.scene w hand).Regular) (hshot : shot ∈ itemShots w hand n item) : shot.Aimed := by
  cases item with
  | fire net transition =>
    obtain ⟨state, hfound, rfl⟩ := List.mem_map.mp hshot
    exact ⟨h, Option.mem_toList.mp hfound⟩
  | _ => cases hshot

/-- By induction on the items: every shot while they are dealt with is aimed. -/
theorem handleShots_aimed {items : List (WorkItem σ)} (h : (n.process.scene w items).Regular)
    (hshot : shot ∈ handleShots w items n) : shot.Aimed := by
  induction items generalizing n with
  | nil => cases hshot
  | cons item rest ih =>
    rw [handleShots] at hshot
    rcases List.mem_append.mp hshot with hnow | hlater
    · exact itemShots_aimed h hnow
    · have hdeal : (steps True True).Follows False w _ _ n _ _ := dealWith_follows h.sound
      split at hlater
      · rename_i m hrun
        rw [hrun] at hdeal
        exact ih (h.path hdeal) hlater
      · cases hlater

section

variable (h : (n.process.scene w []).Regular)

include h

theorem messageShots_aimed
    (hshot : shot ∈ messageShots w n) : shot.Aimed := by
  have hdrain : Step True True (n.process.scene w []) [] []
      ({ n.process with inboxes := n.process.inboxes.set w.index [] }.scene w (n.process.inbox w)) :=
    Step.drain rfl
  exact handleShots_aimed (n := { n with process := _ }) (h.step hdrain) hshot

/-- By induction on the transitions of a net. -/
theorem fireEachShots_aimed {net : NetId} {state : σ} {transitions : List TransitionIndex}
    (hfound : (n.process.worker w).nets.find? net = some state)
    (hshot : shot ∈ fireEachShots w net state transitions n) : shot.Aimed := by
  induction transitions generalizing n state with
  | nil => cases hshot
  | cons transition rest ih =>
    rw [fireEachShots] at hshot
    split at hshot
    · cases hshot
    · rcases List.mem_cons.mp hshot with rfl | hlater
      · exact ⟨h, hfound⟩
      · have hfire : (steps True True).Follows False w _ _ n _ _ :=
          fireAndRecord_follows transition hfound h.sound
        split at hlater
        · rename_i outcome m hrun
          rw [hrun] at hfire
          split at hlater
          · cases hlater
          · exact ih (h.path hfire) (fireAndRecord_found hfound h.sound hrun) hlater
        · cases hlater

/-- By induction on the nets of a worker. -/
theorem fireNetsShots_aimed {nets : List NetId} {fired : Nat}
    (hshot : shot ∈ fireNetsShots w nets fired n) : shot.Aimed := by
  induction nets generalizing n fired with
  | nil => cases hshot
  | cons net rest ih =>
    rw [fireNetsShots] at hshot
    split at hshot
    · cases hshot
    · split at hshot
      · exact ih h hshot
      · rename_i state hfound
        rcases List.mem_append.mp hshot with hnow | hlater
        · exact fireEachShots_aimed h hfound hnow
        · have hfire : (steps True True).Follows False w _ _ n _ _ :=
            fireEach_follows (transitions state) fired hfound h.sound
          split at hlater
          · rename_i count m hrun
            rw [hrun] at hfire
            exact ih (h.path hfire) hlater
          · cases hlater

theorem roundShots_aimed (hshot : shot ∈ roundShots w n) :
    shot.Aimed := by
  rcases List.mem_append.mp hshot with hnow | hlater
  · exact messageShots_aimed h hnow
  · have hmessages : (steps True True).Follows False w _ _ n _ _ := processMessages_follows h.sound
    split at hlater
    · rename_i handled m hrun
      rw [hrun] at hmessages
      exact fireNetsShots_aimed (h.path hmessages) hlater
    · cases hlater

end

end Node

theorem Operation.shots_aimed {σ τ : Type} [NetBehaviour σ] [LawfulNet σ] [Transport τ]
    {n : Node σ τ} {op : Operation} {shot : Shot σ τ} (h : n.process.outline.Regular)
    (hshot : shot ∈ op.shots n) : shot.Aimed := by
  have hturn (w : WorkerId) : (n.process.scene w []).Regular := by
    have hstep : Scene.Step True True n.process.outline [] [] (n.process.scene w []) :=
      Scene.Step.turn w rfl
    exact h.step hstep
  cases op with
  | processMessages w => exact Node.messageShots_aimed (hturn w) hshot
  | fireReady w => exact Node.fireNetsShots_aimed (hturn w) hshot
  | runOnce w => exact Node.roundShots_aimed (hturn w) hshot
  | _ => cases hshot

variable {σ τ : Type} [NetBehaviour σ] [Transport τ]

/-- Whatever has been asked of a process, in every operation that follows: a net that is asked to fire
belongs to the worker that asks. It is active and nothing is to stop it, or it is halting and its owner
has yet to deal with the one item that stops it. So a net that was stopped never fires. -/
theorem halting_net_fires_only_until_stopped [LawfulNet σ] {settings : Settings}
    {templates : List (Template σ)} {id : ProcessId} {count : Nat} {p q : Process σ}
    {calls : List (Call τ)} (hcreate : Process.create settings templates id count = .ok p)
    (hcalls : p.follow? calls = some q) (next : Call τ) {shot : Shot σ τ}
    (hshot : shot ∈ next.operation.shots ⟨q, next.link, next.storage, next.now⟩) :
    ∃ slot, shot.slot? = some slot ∧ slot.owner = shot.worker ∧
      (slot.state = .active ∧ shot.pendingHalts = 0 ∨
        slot.state = .halting ∧ shot.pendingHalts = 1) := by
  obtain ⟨-, -, -, -, hfresh⟩ := Process.create_eq_ok hcreate
  have hregular : q.outline.Regular := Process.follow?_invariant (fun _ h => h.sound)
    (fun _ _ _ _ hstep h => h.step hstep) hfresh.regular hcalls
  have haimed := Operation.shots_aimed (n := ⟨q, next.link, next.storage, next.now⟩) hregular hshot
  exact haimed.regular.active haimed.found

/-- A net is asked to halt, and before its owner deals with that it is moved to worker 1. There it fires,
and the item that stops it still waits. -/
theorem halting_net_fires_only_until_stopped_after_move :
    let program : Script.Program := ⟨"free", [], [], [⟨[], none, false, false, []⟩]⟩
    let link : Mailbox.Link := ⟨{ process := ⟨0⟩ }, ⟨[{}]⟩⟩
    let call (operation : Operation) : Call Mailbox.Link := ⟨operation, link, .create [], 0⟩
    let calls := [call (.spawn ⟨0⟩ 0 none none false), call (.processMessages ⟨0⟩),
      call (.halt ⟨0⟩ ⟨0⟩), call (.migrate ⟨0⟩ ⟨0⟩ ⟨1⟩), call (.processMessages ⟨1⟩)]
    ∃ (p q : Process Script) (shot : Shot Script Mailbox.Link),
      Process.create ⟨2, false, 0, 0, none⟩ [Script.template program] ⟨0⟩ 1 = .ok p ∧
      p.follow? calls = some q ∧
      shot ∈ (Operation.fireReady ⟨1⟩).shots ⟨q, link, .create [], 0⟩ ∧
      shot.slot?.map (·.state) = some .halting ∧ shot.pendingHalts = 1 := by
  intro program link call calls
  obtain ⟨p, hcreate, hcalls⟩ : ∃ p : Process Script,
      Process.create ⟨2, false, 0, 0, none⟩ [Script.template program] ⟨0⟩ 1 = .ok p ∧
      (p.follow? calls).map (fun q =>
        ((Operation.fireReady ⟨1⟩).shots ⟨q, link, .create [], 0⟩).map fun shot =>
          shot.slot?.map (·.state)) = some [some .halting] := by
    refine ⟨_, rfl, ?_⟩
    cbv
  obtain ⟨q, hq, hstates⟩ := Option.map_eq_some_iff.mp hcalls
  obtain ⟨shot, hshot, hstate⟩ := List.mem_map.mp (hstates ▸ List.mem_singleton_self _)
  obtain ⟨slot, hslot, -, hphase⟩ :=
    halting_net_fires_only_until_stopped hcreate hq (call (.fireReady ⟨1⟩)) hshot
  refine ⟨p, q, shot, hcreate, hq, hshot, hstate, ?_⟩
  rw [hslot] at hstate
  have hhalting : slot.state = .halting := Option.some.inj hstate
  rcases hphase with ⟨hactive, -⟩ | ⟨-, hpending⟩
  · simp [hhalting] at hactive
  · exact hpending

/-- A net halts itself when it fires. Two requests to fire it wait together: the first one has it halt,
and at the second it is halting and fires again, because the item that stops it is behind. -/
theorem net_fires_again_after_halting_itself :
    let program : Script.Program := ⟨"once", [], [], [⟨[], none, false, false, [.halt]⟩]⟩
    let link : Mailbox.Link := ⟨{ process := ⟨0⟩ }, ⟨[{}]⟩⟩
    let call (operation : Operation) : Call Mailbox.Link := ⟨operation, link, .create [], 0⟩
    let calls := [call (.spawn ⟨0⟩ 0 none none false), call (.processMessages ⟨0⟩),
      call (.requestFiring ⟨0⟩ 0), call (.requestFiring ⟨0⟩ 0)]
    ∃ p q r : Process Script,
      Process.create ⟨1, false, 0, 0, none⟩ [Script.template program] ⟨0⟩ 1 = .ok p ∧
      p.follow? calls = some q ∧ q.follow? [call (.processMessages ⟨0⟩)] = some r ∧
      (((Operation.processMessages ⟨0⟩).shots ⟨q, link, .create [], 0⟩).map fun shot =>
        (shot.net, shot.slot?.map (·.state))) = [(⟨0⟩, some .active), (⟨0⟩, some .halting)] ∧
      ((r.worker ⟨0⟩).nets.find? ⟨0⟩).map (·.fired) = some [2] := by
  intro program link call calls
  obtain ⟨p, hcreate, hcalls⟩ : ∃ p : Process Script,
      Process.create ⟨1, false, 0, 0, none⟩ [Script.template program] ⟨0⟩ 1 = .ok p ∧
      (p.follow? calls).map (fun q =>
        ((((Operation.processMessages ⟨0⟩).shots ⟨q, link, .create [], 0⟩).map fun shot =>
          (shot.net, shot.slot?.map (·.state))),
        (q.follow? [call (.processMessages ⟨0⟩)]).map fun r =>
          ((r.worker ⟨0⟩).nets.find? ⟨0⟩).map (·.fired))) =
        some ([(⟨0⟩, some .active), (⟨0⟩, some .halting)], some (some [2])) := by
    refine ⟨_, rfl, ?_⟩
    cbv
  obtain ⟨q, hq, hpair⟩ := Option.map_eq_some_iff.mp hcalls
  obtain ⟨hshots, hlast⟩ := Prod.mk.inj hpair
  obtain ⟨r, hr, hfired⟩ := Option.map_eq_some_iff.mp hlast
  exact ⟨p, q, r, hcreate, hq, hr, hshots, hfired⟩

end PetriCluster
