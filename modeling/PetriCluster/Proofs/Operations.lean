import PetriCluster.Proofs.Residence
import PetriCluster.Proofs.Rounds

/-!
# All operations

What can be had of a process, as a type: requests of callers from outside and the calls of a
scheduler. Between operations nobody has items at hand, so the scene of a process is its `outline`, and
an operation that comes to its end leads from outline to outline in steps.
-/

namespace PetriCluster

/-- What can be had of a process. -/
inductive Operation where
  | spawn (owner : WorkerId) (template : Nat) (requested parent : Option NetId) (isGlobal : Bool)
  | spawnInitial (template : Nat)
  | send (target : ProcessId) (parcel : Parcel)
  | multicast (targets : List ProcessId) (parcel : Parcel)
  | requestFiring (net : NetId) (transition : TransitionIndex)
  | halt (requester : WorkerId) (net : NetId)
  | migrate (w : WorkerId) (net : NetId) (target : WorkerId)
  | processMessages (w : WorkerId)
  | fireReady (w : WorkerId)
  | receivePackets (limit : Nat)
  | tick
  | runOnce (w : WorkerId)

namespace Operation

/-- The operation makes a net. -/
def isSpawn : Operation → Bool
  | spawn .. | spawnInitial .. => true
  | _ => false

/-- The name that a caller has chosen for a new net. -/
def chosenName? : Operation → Option NetId
  | spawn _ _ requested _ _ => requested
  | _ => none

/-- Whether a scheduler asks for it; all else comes from callers outside. -/
def isScheduling : Operation → Bool
  | processMessages .. | fireReady .. | receivePackets .. | tick | runOnce .. => true
  | _ => false

/-- The worker whose operation it is; for one of the process, worker 0 stands in. -/
def worker : Operation → WorkerId
  | migrate w .. | processMessages w | fireReady w | runOnce w => w
  | _ => ⟨0⟩

variable {σ τ : Type} [NetBehaviour σ] [Transport τ]

/-- What an operation does. -/
def run : Operation → NodeM σ τ Unit
  | spawn owner template requested parent isGlobal => do
    let _ ← Node.spawn owner template requested parent isGlobal
  | spawnInitial template => do
    let _ ← Node.spawnInitial template
  | send target parcel => Node.sendTokens target parcel
  | multicast targets parcel => do
    let _ ← Node.multicast targets parcel
  | requestFiring net transition => Node.requestFiring net transition
  | halt requester net => Node.halt requester net
  | migrate w net target => Node.migrate w net target
  | processMessages w => do
    let _ ← Node.processMessages w
  | fireReady w => do
    let _ ← Node.fireReady w
  | receivePackets limit => do
    let _ ← Node.receivePackets limit
  | tick => Node.tick
  | runOnce w => do
    let _ ← Node.runOnce w

/-- What an operation does to batches of tokens. -/
def events : Operation → Node σ τ → List TokenEvent
  | send target parcel, n => n.sendEvents target parcel
  | multicast targets parcel, n => n.multicastEvents parcel targets.eraseDups
  | processMessages w, n => n.messageEvents w
  | fireReady w, n => n.fireReadyEvents w
  | receivePackets limit, n => n.receiveEvents limit
  | runOnce w, n => n.roundEvents w
  | _, _ => []

end Operation

/-- A process as a scene in which nobody has items at hand. -/
def Process.outline {σ : Type} (p : Process σ) : Scene σ := p.scene ⟨0⟩ []

theorem Process.outline_hand {σ : Type} (p : Process σ) : p.outline.hand = [] := rfl

theorem Process.items_scene {σ : Type} (p : Process σ) (w : WorkerId) (hand : List (WorkItem σ)) :
    (p.scene w hand).items w = hand ++ p.inbox w := by
  show (if w = w then hand else []) ++ p.inbox w = hand ++ p.inbox w
  rw [if_pos rfl]

theorem Process.items_outline {σ : Type} (p : Process σ) (w : WorkerId) :
    p.outline.items w = p.inbox w := by
  show (if w = ⟨0⟩ then [] else []) ++ p.inbox w = p.inbox w
  rw [ite_self, List.nil_append]

/-- The node after an operation that comes to its end, that is, succeeds or is refused. -/
def Node.after? {σ τ α : Type} (x : NodeM σ τ α) (n : Node σ τ) : Option (Node σ τ) :=
  match x n with
  | .ok _ m | .error (.refused _) m => some m
  | .error (.crashed _) _ => none

namespace Operation

open Rules Scene

variable {σ τ : Type} [NetBehaviour σ] [Transport τ] {n m : Node σ τ} {naming open_ : Prop}

theorem spawn_requests {op : Operation} (hop : op.isSpawn = true)
    (hnaming : op.chosenName?.isSome = true → naming) {w : WorkerId}
    (hs : (n.process.scene w []).Sound) :
    (requests naming).Follows True w [] [] n [] (op.run n) := by
  cases op with
  | spawn =>
    exact .bind_quiet hs (Node.spawn_follows _ _ _ _ _ hnaming hs) fun _ _ _ _ => .silent rfl rfl
  | spawnInitial => exact .bind_quiet hs (Node.spawnInitial_follows _ hs) fun _ _ _ _ => .silent rfl rfl
  | _ => simp [isSpawn] at hop

theorem follows (op : Operation) (hopen : op.isScheduling = false → open_)
    (hnaming : op.chosenName?.isSome = true → naming)
    (hs : (n.process.scene op.worker []).Sound) :
    (steps naming open_).Follows True op.worker [] [] n (op.events n) (op.run n) := by
  cases op with
  | spawn | spawnInitial => exact .of_requests (spawn_requests rfl hnaming hs) (.inl (hopen rfl))
  | send target parcel => exact .of_requests (Node.sendTokens_follows _ _ hs) (.inl (hopen rfl))
  | multicast targets parcel =>
    refine .bind_quiet hs (.of_requests (.mono ?_) (.inl (hopen rfl))) fun _ _ _ _ => .silent rfl rfl
    exact Node.multicast_follows _ _ hs
  | requestFiring net transition => exact Node.requestFiring_follows _ _ (hopen rfl) hs
  | halt requester net => exact .of_requests (Node.halt_follows _ _ hs) (.inl (hopen rfl))
  | migrate w net target => exact Node.migrate_follows _ _ (hopen rfl) hs
  | processMessages w =>
    exact .bind_quiet hs (.mono (Node.processMessages_follows hs)) fun _ _ _ _ => .silent rfl rfl
  | fireReady w =>
    exact .bind_quiet hs (.mono (Node.fireReady_follows hs)) fun _ _ _ _ => .silent rfl rfl
  | receivePackets limit =>
    exact .bind_quiet hs (.mono (Node.receivePackets_follows _ hs)) fun _ _ _ _ => .silent rfl rfl
  | tick => exact .mono Node.tick_follows
  | runOnce w =>
    exact .bind_quiet hs (.mono (Node.runOnce_follows hs)) fun _ _ _ _ => .silent rfl rfl

/-- An operation that comes to its end leads from outline to outline. -/
theorem path (op : Operation) (hopen : op.isScheduling = false → open_)
    (hnaming : op.chosenName?.isSome = true → naming)
    (hs : n.process.outline.Sound) (h : n.after? op.run = some m) :
    (steps naming open_).Path n.process.outline n.link (op.events n) m.process.outline m.link := by
  have hturn : (steps naming open_).step n.process.outline [] [] (n.process.scene op.worker []) :=
    Step.turn op.worker rfl
  have hback : (steps naming open_).step (m.process.scene op.worker []) [] [] m.process.outline :=
    Step.turn ⟨0⟩ rfl
  have hfollows := op.follows hopen hnaming ((steps naming open_).sound hturn hs)
  have hmid : (steps naming open_).Path (n.process.scene op.worker []) n.link (op.events n)
      (m.process.scene op.worker []) m.link := by
    unfold Node.after? at h
    rcases hrun : op.run n with ⟨a, k⟩ | ⟨e | c, k⟩ <;> rw [hrun] at h hfollows <;> cases h
    · exact hfollows
    · exact hfollows.2
  have hpath := ((Path.single hturn .nil).trans hmid).trans (.single hback .nil)
  simpa using hpath

end Operation

/-! ## New processes -/

/-- Nothing has happened yet. -/
structure Scene.Fresh {σ : Type} (s : Scene σ) : Prop where
  threads_pos : 0 < s.threads
  inboxes : s.inboxes = List.replicate s.threads []
  workers : s.workerCount = s.threads
  slots : ∀ net, s.registry.slot? net = none
  retired : ∀ net, s.registry.isRetired net = false
  ids : s.ids = ⟨s.id.index, s.processCount, 0⟩
  active : ∀ w net, s.active w net = none
  halting : ∀ w net, s.halting w net = none
  hand : s.hand = []
  obligations : s.obligations = 0
  termination : ∃ interval, s.termination = .create s.id s.processCount interval

namespace Scene.Fresh

variable {σ : Type} {s : Scene σ}

theorem count (h : s.Fresh) (f : WorkItem σ → Bool) : s.count f = 0 := by
  simp [Scene.count, h.hand, h.inboxes]

theorem sound (h : s.Fresh) : s.Sound where
  threads_pos := h.threads_pos
  inboxes_length := by simp [h.inboxes]
  workers_length := h.workers
  owner_valid net slot hslot := by simp [h.slots] at hslot
  hand_valid hhand := absurd h.hand hhand
  owed := by simp [h.count]

theorem named [NetBehaviour σ] (h : s.Fresh) : s.Named where
  active w net state hstate := by simp [h.active] at hstate
  halting w net state hstate := by simp [h.halting] at hstate

theorem accounted [NetBehaviour σ] (h : s.Fresh) (net : NetId) : s.Accounted net where
  absent _ := ⟨(h.active · net), (h.halting · net), h.count _, h.count _, h.count _⟩
  resides slot hslot := by simp [h.slots] at hslot

end Scene.Fresh

theorem Process.create_eq_ok {σ : Type} {settings : Settings} {templates : List (Template σ)}
    {id : ProcessId} {count : Nat} {p : Process σ}
    (h : Process.create settings templates id count = .ok p) :
    p.id = id ∧ p.processCount = count ∧ id.index < count ∧ count < IdSource.wordSize ∧
      p.outline.Fresh := by
  unfold create at h
  split at h
  · cases h
  · rename_i hthreads
    split at h
    · cases h
    · rename_i ids hids
      cases h
      unfold IdSource.create at hids
      split at hids
      · cases hids
      · split at hids
        · cases hids
        · cases hids
          refine ⟨rfl, rfl, by omega, by omega, by simp [outline, scene]; omega, rfl, ?_,
            Registry.slot?_create _, Registry.isRetired_create _, rfl, fun w net => ?_,
            fun w net => ?_, rfl, rfl, _, rfl⟩
          · simp [outline, scene]
          · simp only [outline, scene, worker, List.getElem?_replicate]
            split <;> rfl
          · simp only [outline, scene, worker, List.getElem?_replicate]
            split <;> rfl

/-! ## Runs of one process -/

/-- An operation and what the process finds around it then. -/
structure Call (τ : Type) where
  operation : Operation
  link : τ
  storage : Storage
  now : Nat

namespace Process

variable {σ τ : Type} [NetBehaviour σ] [Transport τ]

/-- The process after calls, one after the other, each of which comes to its end. -/
def follow? (p : Process σ) : List (Call τ) → Option (Process σ)
  | [] => some p
  | call :: rest =>
    match Node.after? call.operation.run ⟨p, call.link, call.storage, call.now⟩ with
    | some n => n.process.follow? rest
    | none => none

/-- What every step keeps holds after all calls. -/
theorem follow?_invariant {I : Scene σ → Prop} (hsound : ∀ s, I s → s.Sound)
    (hstep : ∀ s ws events t, Scene.Step True True s ws events t → I s → I t) {p q : Process σ}
    {calls : List (Call τ)} (hp : I p.outline) (h : p.follow? calls = some q) : I q.outline := by
  have along {s t : Scene σ} {l k : τ} {events : List TokenEvent}
      (hpath : (Scene.steps True True).Path s l events t k) (hs : I s) : I t := by
    induction hpath with
    | nil => exact hs
    | cons h _ _ ih => exact ih (hstep _ _ _ _ h hs)
  induction calls generalizing p with
  | nil =>
    cases h
    exact hp
  | cons call rest ih =>
    unfold follow? at h
    split at h
    · rename_i n hn
      exact ih (along (call.operation.path (fun _ => trivial) (fun _ => trivial) (hsound _ hp) hn) hp) h
    · cases h

end Process

end PetriCluster
