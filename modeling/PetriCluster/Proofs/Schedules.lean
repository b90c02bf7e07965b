import PetriCluster.Proofs.Worlds

/-!
# What the calls of a scheduler keep

A call of a scheduler is made of deeds: a worker empties its inbox and deals with one item after the
other, asks one transition after the other to fire, and the process takes in one packet after the
other and sees whether the run can end.
-/

namespace PetriCluster

namespace Node

open Rules Scene

variable {σ α β : Type}

/-- What is shown of an operation: what holds if it ends well, what holds of the node that a fault
leaves behind, and what holds of all that becomes of tokens. -/
def Honours (E : TokenEvent → Prop) (good : α → Node σ Mailbox.Link → Prop)
    (bad : Node σ Mailbox.Link → Prop) (events : List TokenEvent)
    (result : EStateM.Result Fault (Node σ Mailbox.Link) α) : Prop :=
  (∀ e ∈ events, E e) ∧
    match result with
    | .ok a m => good a m
    | .error _ m => bad m

section Honours

variable {E : TokenEvent → Prop} {good : α → Node σ Mailbox.Link → Prop}
  {bad : Node σ Mailbox.Link → Prop} {n : Node σ Mailbox.Link} {events : List TokenEvent}

theorem Honours.ok {a : α} (h : good a n) : Honours E good bad [] (.ok a n) :=
  ⟨by simp, h⟩

variable {x : NodeM σ Mailbox.Link α} {f : α → NodeM σ Mailbox.Link β} {good' : β → Node σ Mailbox.Link → Prop}

theorem Honours.bind
    {next : α → Node σ Mailbox.Link → List TokenEvent}
    (hx : Honours E good bad events (x n))
    (hf : ∀ a m, x n = .ok a m → good a m → Honours E good' bad (next a m) (f a m)) :
    Honours E good' bad (Node.andThen events (x n) next) ((x >>= f) n) := by
  obtain ⟨hevents, hresult⟩ := hx
  rw [bind_apply]
  unfold Node.andThen
  cases hrun : x n with
  | ok a m =>
    rw [hrun] at hresult
    obtain ⟨hlater, hend⟩ := hf a m hrun hresult
    exact ⟨fun e he => (List.mem_append.mp he).elim (hevents e) (hlater e), hend⟩
  | error e m =>
    rw [hrun] at hresult
    exact ⟨by simpa using hevents, hresult⟩

/-- An operation before another one that does nothing about tokens. -/
theorem Honours.bind_quiet
    (hx : Honours E good bad events (x n))
    (hf : ∀ a m, x n = .ok a m → good a m → Honours E good' bad [] (f a m)) :
    Honours E good' bad events ((x >>= f) n) := by
  have h : Honours E good' bad (Node.andThen events (x n) fun _ _ => []) ((x >>= f) n) := hx.bind hf
  have hnil : Node.andThen events (x n) (fun _ _ => []) = events := by
    unfold Node.andThen
    cases x n <;> simp
  rwa [hnil] at h

theorem Honours.final {P : Node σ Mailbox.Link → Prop}
    {result : EStateM.Result Fault (Node σ Mailbox.Link) α}
    (h : Honours E (fun _ => P) P events result) : (∀ e ∈ events, E e) ∧ P (Node.final result) := by
  obtain ⟨hevents, hresult⟩ := h
  cases result <;> exact ⟨hevents, hresult⟩

end Honours

variable [NetBehaviour σ]

/-- What every deed keeps: `I w hand k n` speaks of a node whose worker `w` has items at hand, and `k`
transitions to count that have fired. What becomes of tokens meanwhile is as `E` says. -/
structure Upholds (E : TokenEvent → Prop)
    (I : WorkerId → List (WorkItem σ) → Nat → Node σ Mailbox.Link → Prop) : Prop where
  turn : ∀ {v n} w, I v [] 0 n → I w [] 0 n
  drain : ∀ {w n}, I w [] 0 n → I w (n.process.inbox w) 0
    { n with process := { n.process with inboxes := n.process.inboxes.set w.index [] } }
  deal : ∀ {w item rest n}, (n.process.scene w (item :: rest)).Sound → I w (item :: rest) 0 n →
    Honours E (fun _ => I w rest 0) (I w [] 0) (itemEvents w item n) (dealWith w item n)
  fire : ∀ {w k n net state}, ∀ transition, (n.process.scene w []).Sound → I w [] k n →
    n.process.quitting = false → (n.process.worker w).nets.find? net = some state →
    Honours E (fun outcome => I w [] (if outcome.result = .fired then k + 1 else k)) (I w [] 0)
      (firingEvents w net state transition n) (fireAndRecord w net state transition n)
  tally : ∀ {w k n} {f : WorkerStats → WorkerStats}, (∀ s, (f s).firings = s.firings + k) →
    I w [] k n → I w [] 0 { n with
      process := n.process.updateWorker w fun worker => { worker with stats := f worker.stats } }
  take : ∀ {w n packet link}, (n.process.scene w []).Sound → I w [] 0 n →
    Transport.receive n.link = (.ok (some packet), link) →
    Honours E (fun _ => I w [] 0) (I w [] 0) (packetEvents packet n) (dispatch packet { n with link })
  tick : ∀ {w n m}, I w [] 0 n → tick n = .ok () m → I w [] 0 m

namespace Upholds

variable {E : TokenEvent → Prop} {I : WorkerId → List (WorkItem σ) → Nat → Node σ Mailbox.Link → Prop}
  (h : Upholds E I) {w : WorkerId} {n : Node σ Mailbox.Link}

include h

/-- By induction on the items: what one item keeps, all of them keep. -/
theorem handleAll (items : List (WorkItem σ)) (hs : (n.process.scene w items).Sound)
    (hI : I w items 0 n) :
    Honours E (fun _ => I w [] 0) (I w [] 0) (handleEvents w items n) (handleAll w items n) := by
  induction items generalizing n with
  | nil => exact .ok hI
  | cons item rest ih =>
    rw [handleAll_cons, handleEvents]
    refine (h.deal hs hI).bind fun _ m hrun hm => ih ?_ hm
    have hfollows : (steps False False).Follows False w _ _ n _ _ := dealWith_follows hs
    rw [hrun] at hfollows
    exact Path.sound hfollows hs

theorem processMessages (hs : (n.process.scene w []).Sound) (hI : I w [] 0 n) :
    Honours E (fun _ => I w [] 0) (I w [] 0) (messageEvents w n) (processMessages w n) := by
  have hdrain : (steps False False).step (n.process.scene w []) [] [] ({ n.process with
      inboxes := n.process.inboxes.set w.index [] }.scene w (n.process.inbox w)) := Step.drain rfl
  have hall := h.handleAll _ (Rules.sound _ hdrain hs) (h.drain hI)
  have htaken : Honours E (fun items m => items = n.process.inbox w ∧ m = { n with
      process := { n.process with inboxes := n.process.inboxes.set w.index [] } }) (I w [] 0) []
      (drainInbox w n) := .ok ⟨rfl, rfl⟩
  refine htaken.bind ?_
  rintro _ _ - ⟨rfl, rfl⟩
  refine hall.bind_quiet fun _ m _ hm => ?_
  have htally := h.tally (f := fun s => { s with messages := s.messages + (n.process.inbox w).length })
    (fun _ => rfl) hm
  exact .bind_quiet (.ok htally) fun _ _ _ hk => .ok hk

/-- By induction on the transitions. -/
theorem fireEach {net : NetId} {state : σ} (transitions : List TransitionIndex) {k : Nat}
    (hs : (n.process.scene w []).Sound) (hfound : (n.process.worker w).nets.find? net = some state)
    (hI : I w [] k n) :
    Honours E (fun fired => I w [] fired) (I w [] 0) (fireEachEvents w net state transitions n)
      (fireEach w net state transitions k n) := by
  induction transitions generalizing n state k with
  | nil => exact .ok hI
  | cons transition rest ih =>
    rw [fireEach_cons, fireEachEvents]
    cases hquitting : n.process.quitting with
    | true => exact .ok hI
    | false =>
      refine (h.fire transition hs hI hquitting hfound).bind fun outcome m hrun hm => ?_
      cases outcome.halted with
      | true => exact .ok hm
      | false =>
        have hfollows : (steps False False).Follows False w _ _ n _ _ :=
          fireAndRecord_follows transition hfound hs
        rw [hrun] at hfollows
        exact ih (Path.sound hfollows hs) (fireAndRecord_found hfound hs hrun) hm

/-- By induction on the nets. -/
theorem fireNets (nets : List NetId) {k : Nat} (hs : (n.process.scene w []).Sound)
    (hI : I w [] k n) : Honours E (fun fired => I w [] fired) (I w [] 0) (fireNetsEvents w nets k n)
      (fireNets w nets k n) := by
  induction nets generalizing n k with
  | nil => exact .ok hI
  | cons net rest ih =>
    simp only [Node.fireNets, fireNetsEvents, bind_apply, isQuitting_apply]
    cases hquitting : n.process.quitting with
    | true => exact .ok hI
    | false =>
      simp only [Bool.false_eq_true, if_false, bind_apply, getWorker_apply]
      cases hfound : (n.process.worker w).nets.find? net with
      | none => exact ih hs hI
      | some state =>
        refine (h.fireEach _ hs hfound hI).bind fun fired m hrun hm => ih ?_ hm
        have hfollows : (steps False False).Follows False w _ _ n _ _ :=
          fireEach_follows (transitions state) k hfound hs
        rw [hrun] at hfollows
        exact Path.sound hfollows hs

theorem fireReady (hs : (n.process.scene w []).Sound) (hI : I w [] 0 n) :
    Honours E (fun _ => I w [] 0) (I w [] 0) (fireReadyEvents w n) (fireReady w n) := by
  rw [Node.fireReady, bind_apply, getWorker_apply]
  refine (h.fireNets _ hs hI).bind_quiet fun fired m _ hm => ?_
  have htally := h.tally (f := fun s => { s with firings := s.firings + fired }) (fun _ => rfl) hm
  exact .bind_quiet (.ok htally) fun _ _ _ hk => .ok hk

theorem receivePackets (limit : Nat) (hs : (n.process.scene w []).Sound) (hI : I w [] 0 n) :
    Honours E (fun _ => I w [] 0) (I w [] 0) (receiveEvents limit n) (receivePackets limit n) := by
  induction limit generalizing n with
  | zero => exact .ok hI
  | succ limit ih =>
    simp only [Node.receivePackets, receiveEvents, bind_apply, attempt_apply, receive_apply]
    rcases hreceive : Transport.receive n.link with ⟨e | _ | packet, link⟩
    · cases hreceive
    · obtain rfl := Mailbox.link_of_receive hreceive
      exact .ok hI
    · refine (h.take hs hI hreceive).bind fun _ m hrun hm => ?_
      have hfollows : (steps False False).Follows False w [] [] n _ _ :=
        dispatch_follows (n := { n with link }) hreceive hs
      rw [hrun] at hfollows
      exact (ih (Path.sound hfollows hs) hm).bind_quiet fun _ _ _ hk => .ok hk

theorem runOnce (hs : (n.process.scene w []).Sound) (hI : I w [] 0 n) :
    Honours E (fun _ => I w [] 0) (I w [] 0) (roundEvents w n) (runOnce w n) := by
  refine (h.processMessages hs hI).bind fun handled m hrun hm => ?_
  have hmessages : (steps False False).Follows False w _ _ n _ _ := processMessages_follows hs
  rw [hrun] at hmessages
  have hms := Path.sound hmessages hs
  refine (h.fireReady hms hm).bind fun fired k hrun hk => ?_
  have hfirings : (steps False False).Follows False w [] _ m _ _ := fireReady_follows hms
  rw [hrun] at hfirings
  refine (h.receivePackets packetBatch (Path.sound hfirings hms) hk).bind_quiet fun received j _ hj => ?_
  have hpolled : Honours E (fun _ => I w [] 0) (I w [] 0) [] (pollSends j) := .ok hj
  refine hpolled.bind_quiet fun _ i _ hi => ?_
  split
  · obtain ⟨m, _, htick, -⟩ := tick_checks w [] i
    have hticked : Honours E (fun _ => I w [] 0) (I w [] 0) [] (Node.tick i) := by
      rw [htick]
      exact .ok (h.tick hi htick)
    exact hticked.bind_quiet fun _ _ _ hl => .ok hl
  · exact .ok hi

theorem run {op : Operation} (hop : op.isScheduling = true) (hs : n.process.outline.Sound)
    (hI : I ⟨0⟩ [] 0 n) : (∀ e ∈ op.events n, E e) ∧ I ⟨0⟩ [] 0 (Node.final (op.run n)) := by
  have hturn (v : WorkerId) : (n.process.scene v []).Sound :=
    (steps False False).sound (Step.turn (s := n.process.outline) v rfl) hs
  have hback (v : WorkerId) {events : List TokenEvent}
      {result : EStateM.Result Fault (Node σ Mailbox.Link) Unit}
      (hresult : Honours E (fun _ => I v [] 0) (I v [] 0) events result) :
      (∀ e ∈ events, E e) ∧ I ⟨0⟩ [] 0 (Node.final result) :=
    ⟨hresult.final.1, h.turn ⟨0⟩ hresult.final.2⟩
  cases op with
  | processMessages v =>
    exact hback v ((h.processMessages (hturn v) (h.turn v hI)).bind_quiet fun _ _ _ hm => .ok hm)
  | fireReady v =>
    exact hback v ((h.fireReady (hturn v) (h.turn v hI)).bind_quiet fun _ _ _ hm => .ok hm)
  | receivePackets limit =>
    exact hback ⟨0⟩ ((h.receivePackets limit hs hI).bind_quiet fun _ _ _ hm => .ok hm)
  | tick =>
    obtain ⟨m, _, htick, -⟩ := tick_checks ⟨0⟩ [] n
    refine hback ⟨0⟩ (?_ : Honours E _ _ [] (Node.tick n))
    rw [htick]
    exact .ok (h.tick hI htick)
  | runOnce v =>
    exact hback v ((h.runOnce (hturn v) (h.turn v hI)).bind_quiet fun _ _ _ hm => .ok hm)
  | _ => simp [Operation.isScheduling] at hop

end Upholds

end Node

end PetriCluster
