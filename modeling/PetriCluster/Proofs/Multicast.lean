import PetriCluster.Transport.Memory
import PetriCluster.Proofs.Fronts

/-!
# A multicast is single sends

What becomes of tokens that a process sends to a target (`Node.shipment`) does not depend on what it
sent to others before: the process keeps its name, its live nets and its workers, and the transport
decides on each target by itself (`Transport.Independent`).
-/

namespace PetriCluster

/-- In the list without repetitions the values stand as they first occur. -/
theorem pairwise_idxOf_eraseDups {α : Type} [DecidableEq α] (l : List α) :
    l.eraseDups.Pairwise fun a b => l.idxOf a < l.idxOf b := by
  induction l using List.reverseRecOn with
  | nil => exact .nil
  | append_singleton l a ih =>
    rw [List.eraseDups_append, List.pairwise_append]
    have hold : l.eraseDups.Pairwise fun b c => (l ++ [a]).idxOf b < (l ++ [a]).idxOf c := by
      refine ih.imp_of_mem fun hb hc hlt => ?_
      rwa [List.idxOf_append_of_mem (List.mem_eraseDups.mp hb),
        List.idxOf_append_of_mem (List.mem_eraseDups.mp hc)]
    by_cases ha : a ∈ l
    · have hnone : [a].removeAll l = [] := by simp [List.removeAll, ha]
      simp [hnone, hold]
    · have hnew : ([a].removeAll l).eraseDups = [a] := by
        simp [List.removeAll, ha, List.eraseDups_cons]
      rw [hnew]
      refine ⟨hold, List.pairwise_singleton _ _, fun b hb c hc => ?_⟩
      obtain rfl : c = a := List.mem_singleton.mp hc
      have hmem : b ∈ l := List.mem_eraseDups.mp hb
      rw [List.idxOf_append_of_mem hmem, List.idxOf_append_of_notMem ha]
      exact Nat.lt_add_right _ (List.idxOf_lt_length_of_mem hmem)

/-! ## Transports that decide on each target by itself -/

/-- Whether a packet is accepted depends on the target alone, and not on what was sent before. -/
class Transport.Independent (τ : Type) [Transport τ] where
  route : τ → ProcessId → Except TransportError Unit
  /-- The packets that a target has been sent and that nobody has taken out, oldest first. -/
  accepted : τ → ProcessId → List Packet
  send_fst (link : τ) (target : ProcessId) (packet : Packet) :
    (send link target packet).1 = route link target
  route_send (link : τ) (target : ProcessId) (packet : Packet) (other : ProcessId) :
    route (send link target packet).2 other = route link other
  accepted_send (link : τ) (target : ProcessId) (packet : Packet) (other : ProcessId) :
    accepted (send link target packet).2 other =
      accepted link other ++ if other = target ∧ route link target = .ok () then [packet] else []

instance : Transport.Independent Mailbox.Link where
  route link target := Mailbox.Endpoint.route link.hub link.endpoint.process target
  accepted link target := link.hub.queue target
  send_fst link target packet := by
    simp only [Transport.send, Mailbox.Endpoint.send]
    split <;> simp [*]
  route_send link target packet other := by
    simp only [Transport.send, Mailbox.Endpoint.send]
    split
    · rfl
    · have hcount : (link.hub.deliver target packet).processCount = link.hub.processCount :=
        List.length_modify ..
      simp only [Mailbox.Endpoint.route, Mailbox.Hub.isClosed_deliver, hcount]
  accepted_send link target packet other := by
    simp only [Transport.send, Mailbox.Endpoint.send]
    split
    · rename_i hroute
      simp [hroute]
    · rename_i hroute
      obtain ⟨-, hopen, -⟩ := Mailbox.route_eq_ok.mp hroute
      simp [hroute, Mailbox.Hub.queue_deliver (Mailbox.Hub.lt_of_isClosed hopen)]

instance : Transport.Independent Memory.Link where
  route := Memory.Link.route
  accepted link target := (link.sent.filter (·.1 = target)).map (·.2)
  send_fst link target packet := by
    simp only [Transport.send, Memory.Link.send]
    split <;> simp [*]
  route_send link target packet other := by
    simp only [Transport.send, Memory.Link.send]
    split <;> rfl
  accepted_send link target packet other := by
    simp only [Transport.send, Memory.Link.send]
    split
    · rename_i hroute
      simp [hroute]
    · rename_i hroute
      by_cases hother : target = other
      · subst hother
        simp [hroute]
      · simp [hother, Ne.symm hother]

/-! ## One send -/

/-- What becomes of tokens that a process sends. -/
inductive Shipment where
  | posted (owner : WorkerId)
  /-- They are for the process itself, and it has no place for them. -/
  | undeliverable (error : RuntimeError)
  | accepted
  | failed (error : TransportError)
  deriving DecidableEq

namespace Shipment

/-- The answer of the send. -/
def result : Shipment → Except RuntimeError Unit
  | posted _ | accepted => .ok ()
  | undeliverable error => .error error
  | failed error => .error (.transport error)

/-- The process when it has seen to the tokens. -/
def note {σ : Type} (parcel : Parcel) : Shipment → Process σ → Process σ
  | posted owner, p =>
    let p := p.posted owner (.tokens parcel)
    { p with stats := { p.stats with localDeliveries := p.stats.localDeliveries + 1 } }
  | undeliverable _, p => p
  | accepted, p =>
    { p with
      termination := p.termination.recordSent 1
      stats := { p.stats with remoteDeliveries := p.stats.remoteDeliveries + 1 } }
  | failed _, p =>
    { p with stats := { p.stats with transportErrors := p.stats.transportErrors + 1 } }

variable {σ : Type} {parcel : Parcel}

theorem note_frame (s : Shipment) (p : Process σ) : (s.note parcel p).id = p.id ∧
    (s.note parcel p).registry = p.registry ∧
    (s.note parcel p).inboxes.length = p.inboxes.length := by
  cases s with
  | posted owner => exact ⟨rfl, rfl, List.length_modify ..⟩
  | _ => exact ⟨rfl, rfl, rfl⟩

theorem note_comm {a b : Shipment} (h : ∀ v w, a = posted v → b = posted w → v = w) (p : Process σ) :
    a.note parcel (b.note parcel p) = b.note parcel (a.note parcel p) := by
  cases a with
  | posted v =>
    cases b with
    | posted w => rw [h v w rfl rfl]
    | _ => rfl
  | _ => cases b <;> rfl

end Shipment

namespace Node

variable {σ τ : Type} [Transport τ] [Transport.Independent τ] {n : Node σ τ} {parcel : Parcel}
  {target other : ProcessId}

open Transport.Independent

/-- What becomes of tokens for a target. -/
def shipment (n : Node σ τ) (parcel : Parcel) (target : ProcessId) : Shipment :=
  if target = n.process.id then
    match n.process.registry.liveOwner? parcel.net with
    | none => .undeliverable (.unknownNet parcel.net)
    | some owner =>
      if owner.index < n.process.inboxes.length then .posted owner
      else .undeliverable (.unknownWorker owner)
  else
    match route n.link target with
    | .error e => .failed e
    | .ok () => .accepted

/-- The node when tokens for a target have been seen to. -/
def shipped (n : Node σ τ) (parcel : Parcel) (target : ProcessId) : Node σ τ :=
  { n with
    process := (n.shipment parcel target).note parcel n.process
    link :=
      if target = n.process.id then n.link
      else (Transport.send n.link target (.ofTokens n.process.id parcel)).2 }

theorem shipment_eq_posted {w : WorkerId} : n.shipment parcel target = .posted w ↔
    target = n.process.id ∧ n.process.registry.liveOwner? parcel.net = some w ∧
      w.index < n.process.inboxes.length := by
  by_cases hlocal : target = n.process.id
  · cases howner : n.process.registry.liveOwner? parcel.net with
    | none => simp [shipment, hlocal, howner]
    | some owner =>
      by_cases hworker : owner.index < n.process.inboxes.length
      · simp only [shipment, hlocal, howner, hworker, if_true, Shipment.posted.injEq, true_and,
          Option.some.injEq]
        exact ⟨fun h => ⟨h, h ▸ hworker⟩, And.left⟩
      · simp only [shipment, hlocal, howner, hworker, if_true, if_false, reduceCtorEq, true_and,
          Option.some.injEq, false_iff]
        rintro ⟨rfl, hlt⟩
        exact hworker hlt
  · cases hroute : route n.link target <;> simp [shipment, hlocal, hroute]

theorem shipment_eq_accepted : n.shipment parcel target = .accepted ↔
    target ≠ n.process.id ∧ route n.link target = .ok () := by
  by_cases hlocal : target = n.process.id
  · cases howner : n.process.registry.liveOwner? parcel.net with
    | none => simp [shipment, hlocal, howner]
    | some owner =>
      by_cases hworker : owner.index < n.process.inboxes.length <;>
        simp [shipment, hlocal, howner, hworker]
  · cases hroute : route n.link target <;> simp [shipment, hlocal, hroute]

theorem attempt_sendTokens (parcel : Parcel) (target : ProcessId) (n : Node σ τ) :
    attempt (sendTokens target parcel) n =
      .ok (n.shipment parcel target).result (n.shipped parcel target) := by
  by_cases hlocal : target = n.process.id
  · cases howner : n.process.registry.liveOwner? parcel.net with
    | none => simp [attempt_apply, sendTokens, bind_apply, hlocal, howner, shipment, shipped,
        Shipment.result, Shipment.note]
    | some owner =>
      by_cases hworker : owner.index < n.process.inboxes.length <;>
        simp [attempt_apply, sendTokens, bind_apply, hlocal, howner, post_apply, hworker, shipment,
          shipped, Shipment.result, Shipment.note]
  · have hroute := send_fst n.link target (.ofTokens n.process.id parcel)
    rcases hsend : Transport.send n.link target (.ofTokens n.process.id parcel) with ⟨e | ⟨⟩, link⟩
    all_goals
      rw [hsend] at hroute
      simp [attempt_apply, sendTokens, bind_apply, hlocal, send_apply, hsend, tallyTransportErrors,
        shipment, ← hroute, shipped, Shipment.result, Shipment.note]

theorem final_sendTokens (parcel : Parcel) (target : ProcessId) (n : Node σ τ) :
    final (sendTokens target parcel n) = n.shipped parcel target := by
  rw [← final_attempt, attempt_sendTokens]
  rfl

/-! ## One send after the other -/

theorem shipped_id (n : Node σ τ) (parcel : Parcel) (target : ProcessId) :
    (n.shipped parcel target).process.id = n.process.id :=
  ((n.shipment parcel target).note_frame n.process).1

theorem route_shipped (n : Node σ τ) (parcel : Parcel) (target other : ProcessId) :
    route (n.shipped parcel target).link other = route n.link other := by
  simp only [shipped]
  split
  · rfl
  · exact route_send ..

/-- What becomes of tokens does not depend on what was sent before. -/
theorem shipment_shipped (n : Node σ τ) (parcel : Parcel) (target other : ProcessId) :
    (n.shipped parcel target).shipment parcel other = n.shipment parcel other := by
  obtain ⟨hid, hregistry, hlength⟩ :=
    @Shipment.note_frame σ parcel (n.shipment parcel target) n.process
  have hprocess : (n.shipped parcel target).process =
    (n.shipment parcel target).note parcel n.process := rfl
  rw [shipment, shipment, hprocess, hid, hregistry, hlength, route_shipped]

theorem accepted_shipped (n : Node σ τ) (parcel : Parcel) (target other : ProcessId) :
    accepted (n.shipped parcel target).link other = accepted n.link other ++
      if other = target ∧ n.shipment parcel target = .accepted
      then [Packet.ofTokens n.process.id parcel] else [] := by
  simp only [shipped, shipment_eq_accepted]
  split
  · rename_i hlocal
    simp [hlocal]
  · rename_i hlocal
    simp only [accepted_send, hlocal, ne_eq, not_false_eq_true, true_and]

/-- The node after shipments to all targets. -/
def shippedAll (n : Node σ τ) (parcel : Parcel) (targets : List ProcessId) : Node σ τ :=
  targets.foldl (fun n target => n.shipped parcel target) n

theorem forEachTarget_sendTokens (parcel : Parcel) (targets : List ProcessId) (n : Node σ τ) :
    forEachTarget (sendTokens · parcel) targets n =
      .ok (targets.map fun target => (target, (n.shipment parcel target).result))
        (n.shippedAll parcel targets) := by
  induction targets generalizing n with
  | nil => rfl
  | cons target rest ih =>
    simp only [forEachTarget, bind_apply, attempt_sendTokens, ih, pure_apply, shipment_shipped]
    rfl

theorem shippedAll_eq_foldl_final (n : Node σ τ) (parcel : Parcel) (targets : List ProcessId) :
    n.shippedAll parcel targets = targets.foldl (fun n t => final (sendTokens t parcel n)) n := by
  simp only [shippedAll, final_sendTokens]

theorem process_shippedAll (n : Node σ τ) (parcel : Parcel) (targets : List ProcessId) :
    (n.shippedAll parcel targets).process =
      targets.foldl (fun p target => (n.shipment parcel target).note parcel p) n.process := by
  induction targets generalizing n with
  | nil => rfl
  | cons target rest ih =>
    rw [shippedAll, List.foldl_cons, ← shippedAll, ih, List.foldl_cons]
    simp only [shipment_shipped]
    rfl

theorem process_shippedAll_of_perm {targets targets' : List ProcessId}
    (h : targets.Perm targets') :
    (n.shippedAll parcel targets).process = (n.shippedAll parcel targets').process := by
  rw [process_shippedAll, process_shippedAll]
  refine h.foldl_eq' (fun s _ t _ p => Shipment.note_comm (fun v w hv hw => ?_) p) n.process
  -- both are for the process itself, and so for the owner of the net
  obtain ⟨-, hv, -⟩ := shipment_eq_posted.mp hv
  obtain ⟨-, hw, -⟩ := shipment_eq_posted.mp hw
  exact Option.some.inj (hv.symm.trans hw)

theorem accepted_shippedAll {targets : List ProcessId} (hnodup : targets.Nodup) (other : ProcessId) :
    accepted (n.shippedAll parcel targets).link other = accepted n.link other ++
      if other ∈ targets ∧ n.shipment parcel other = .accepted
      then [Packet.ofTokens n.process.id parcel] else [] := by
  induction targets generalizing n with
  | nil => simp [shippedAll]
  | cons target rest ih =>
    obtain ⟨hnot, hrest⟩ := List.nodup_cons.mp hnodup
    rw [shippedAll, List.foldl_cons, ← shippedAll, ih hrest, accepted_shipped, shipment_shipped,
      shipped_id, List.append_assoc]
    by_cases hother : other = target
    · subst hother
      simp [hnot]
    · simp [hother]

theorem inboxes_shipped (hother : target ≠ n.process.id) :
    (n.shipped parcel target).process.inboxes = n.process.inboxes := by
  simp only [shipped]
  cases hshipment : n.shipment parcel target with
  | posted owner => exact absurd (shipment_eq_posted.mp hshipment).1 hother
  | _ => rfl

theorem inboxes_shippedAll_of_notMem {targets : List ProcessId} (h : n.process.id ∉ targets) :
    (n.shippedAll parcel targets).process.inboxes = n.process.inboxes := by
  induction targets generalizing n with
  | nil => rfl
  | cons target rest ih =>
    rw [List.mem_cons, not_or] at h
    obtain ⟨hne, hnot⟩ := h
    rw [← shipped_id n parcel target] at hnot
    exact (ih hnot).trans (inboxes_shipped (Ne.symm hne))

theorem inboxes_shippedAll_of_mem {targets : List ProcessId} (hnodup : targets.Nodup)
    (h : n.process.id ∈ targets) : (n.shippedAll parcel targets).process.inboxes =
      (n.shipped parcel n.process.id).process.inboxes := by
  rw [process_shippedAll_of_perm (List.perm_cons_erase h)]
  have hnot : (n.shipped parcel n.process.id).process.id ∉ targets.erase n.process.id := by
    rw [shipped_id]
    exact hnodup.not_mem_erase
  exact inboxes_shippedAll_of_notMem hnot

theorem multicast_apply (targets : List ProcessId) (parcel : Parcel) (n : Node σ τ) :
    multicast targets parcel n =
      .ok ⟨targets.eraseDups.map fun target => (target, (n.shipment parcel target).result)⟩
        (n.shippedAll parcel targets.eraseDups) := by
  rw [multicast, bind_apply, forEachTarget_sendTokens]
  rfl

end Node

open Node Transport.Independent

/-- A multicast over a transport that decides on each target by itself reports on each target once, in
the order in which they first occur, and leaves the node as one send after the other to these targets
does. What it says of a target is what a send to it alone would have given, and the target gets what it
would have got then: a packet, or items in the inboxes if it is the process itself. Nobody else gets
anything. With the same targets in another order, and repeated in another way, the report says the same
of every target, the process is the same, and every target has got the same packets. -/
theorem multicast_is_single_sends {σ τ : Type} [Transport τ] [Transport.Independent τ] (n : Node σ τ)
    (targets : List ProcessId) (parcel : Parcel) :
    ∃ results m, multicast targets parcel n = .ok ⟨results⟩ m ∧
      (∀ t, t ∈ results.map (·.1) ↔ t ∈ targets) ∧
      (results.map (·.1)).Pairwise (fun s t => targets.idxOf s < targets.idxOf t) ∧
      m = (results.map (·.1)).foldl (fun n t => final (sendTokens t parcel n)) n ∧
      (∀ t result, (t, result) ∈ results → ∃ alone,
        attempt (sendTokens t parcel) n = .ok result alone ∧
        accepted m.link t = accepted alone.link t ∧
        (t = n.process.id → m.process.inboxes = alone.process.inboxes)) ∧
      (∀ t, t ∉ targets → accepted m.link t = accepted n.link t) ∧
      (n.process.id ∉ targets → m.process.inboxes = n.process.inboxes) ∧
      ∀ targets', (∀ t, t ∈ targets' ↔ t ∈ targets) →
        ∃ results' m', multicast targets' parcel n = .ok ⟨results'⟩ m' ∧ results'.Perm results ∧
          m'.process = m.process ∧ ∀ t, accepted m'.link t = accepted m.link t := by
  have hnodup (l : List ProcessId) : l.eraseDups.Nodup := by
    refine (pairwise_idxOf_eraseDups l).imp fun hlt heq => ?_
    rw [heq] at hlt
    exact Nat.lt_irrefl _ hlt
  have hnames : ∀ l : List ProcessId,
      (l.map fun t => (t, (n.shipment parcel t).result)).map (·.1) = l := by
    intro l
    rw [List.map_map]
    exact List.map_id l
  refine ⟨_, _, multicast_apply targets parcel n, ?_, ?_, ?_, fun t result hresult => ?_,
    fun t ht => ?_, fun hself => ?_, fun targets' hsame => ?_⟩
  · intro t
    rw [hnames, List.mem_eraseDups]
  · rw [hnames]
    exact pairwise_idxOf_eraseDups targets
  · rw [hnames, shippedAll_eq_foldl_final]
  · obtain ⟨s, hmem, hpair⟩ := List.mem_map.mp hresult
    obtain ⟨rfl, rfl⟩ := Prod.mk.inj hpair
    refine ⟨_, attempt_sendTokens parcel s n, ?_, ?_⟩
    · rw [accepted_shippedAll (hnodup targets), accepted_shipped]
      simp [hmem]
    · rintro rfl
      exact inboxes_shippedAll_of_mem (hnodup targets) hmem
  · rw [accepted_shippedAll (hnodup targets)]
    simp [ht]
  · exact inboxes_shippedAll_of_notMem fun hmem => hself (List.mem_eraseDups.mp hmem)
  · have hperm : targets'.eraseDups.Perm targets.eraseDups := by
      rw [List.perm_ext_iff_of_nodup (hnodup targets') (hnodup targets)]
      intro t
      rw [List.mem_eraseDups, List.mem_eraseDups, hsame]
    refine ⟨_, _, multicast_apply targets' parcel n, hperm.map _, process_shippedAll_of_perm hperm,
      fun t => ?_⟩
    rw [accepted_shippedAll (hnodup targets'), accepted_shippedAll (hnodup targets)]
    simp only [List.mem_eraseDups, hsame]

/-- Process 0 of three, of which process 2 cannot be reached, sends to 2, 1, 2 again, 9 and itself. Of
process 1 the report says that it was reached, and it has got the packet that it would have got alone. -/
theorem multicast_is_single_sends_past_failing_targets :
    let parcel : Parcel := ⟨3, ⟨7⟩, ⟨1, []⟩⟩
    ∃ n : Node Bare Memory.Link, n.link.failing = [⟨2⟩] ∧ ∃ results m,
      multicast [⟨2⟩, ⟨1⟩, ⟨2⟩, ⟨9⟩, ⟨0⟩] parcel n = .ok ⟨results⟩ m ∧
      (⟨1⟩, .ok ()) ∈ results ∧ accepted m.link ⟨1⟩ = [Packet.ofTokens ⟨0⟩ parcel] := by
  intro parcel
  let p : Process Bare := ((Process.create ⟨1, false, 0, 0, none⟩ [] ⟨0⟩ 3).toOption).get rfl
  let n : Node Bare Memory.Link :=
    ⟨p, { process := ⟨0⟩, processCount := 3, failing := [⟨2⟩] }, .create [], 0⟩
  obtain ⟨results, m, hrun, hnames, -, -, halone, -⟩ :=
    multicast_is_single_sends n [⟨2⟩, ⟨1⟩, ⟨2⟩, ⟨9⟩, ⟨0⟩] parcel
  refine ⟨n, rfl, results, m, hrun, ?_⟩
  obtain ⟨⟨t, result⟩, hmem, rfl⟩ := List.mem_map.mp ((hnames ⟨1⟩).mpr (by decide))
  obtain ⟨alone, hsend, haccepted, -⟩ := halone _ result hmem
  cases hsend
  exact ⟨hmem, haccepted⟩

end PetriCluster
