import PetriCluster.Process.Lifecycle
import PetriCluster.Transport.Mailbox
import PetriCluster.Proofs.Operations

/-!
# Obligations are counted exactly

A process counts what it owes: the items in its inboxes that stand for work. The count goes up when an
item is posted, and a worker brings it down when it has dealt with one. It is right between
operations, and whenever a worker asks in the middle of its items whether the run can end.
-/

namespace PetriCluster

theorem Termination.onReply_eq_error {t t' : Termination} {wave : Nat} {sender : ProcessId}
    {answer : ProbeSnapshot} {c : Crash} (h : t.onReply wave sender answer = (.error c, t')) :
    c = .addOverflow := by
  unfold onReply at h
  split at h
  · cases h
  · split at h
    · cases h
    · dsimp only at h
      split at h
      · cases h
      · split at h <;> cases h
        rfl

namespace Scene

variable {σ : Type} {s t : Scene σ} {ws : List Wire} {events : List TokenEvent}

/-- What is owed is the items that stand for work. -/
def Exact (s : Scene σ) : Prop := s.obligations = s.count WorkItem.isObligation

namespace Exact

variable (hs : s.Exact)

include hs

theorem setRegistry (registry : Registry) : (s.setRegistry registry).Exact := hs

theorem setTermination (termination : Termination) :
    (s.setTermination termination).Exact := hs

theorem stop (w : WorkerId) (net : NetId) (state : σ) : (s.stop w net state).Exact := hs

theorem post {w : WorkerId} (hw : s.HasWorker w) (item : WorkItem σ) :
    (s.post w item).Exact := by
  rw [Exact, post_obligations, count_post hw, show s.obligations = _ from hs]
  rfl

theorem finish {item : WorkItem σ} {rest : List (WorkItem σ)}
    (hhand : s.hand = item :: rest) : (s.finish item rest).Exact := by
  have howed : s.obligations = _ := hs
  simp only [count, hhand, List.countP_cons] at howed
  simp only [Exact, count, Scene.finish, WorkItem.weight]
  omega

theorem countAck (hsound : s.Sound) (net : NetId) : (s.countAck net).Exact := by
  rcases countAck_cases s net with ⟨e, -, heq⟩ | ⟨slot, registry, hslot, -, -, -, heq⟩
  · rwa [heq]
  · rw [heq]
    split
    · exact (hs.setRegistry registry).post (hsound.owner_valid net slot hslot) _
    · exact hs

theorem excuse (hsound : s.Sound) (net : NetId) (count : Nat) :
    (s.excuse net count).Exact := by
  induction count generalizing s with
  | zero => exact hs
  | succ count ih => exact ih (hs.countAck hsound net) (hsound.countAck net)

end Exact

variable [NetBehaviour σ]

theorem Asks.exact {naming : Prop} (h : Asks naming s ws events t) (hsound : s.Sound)
    (hs : s.Exact) : t.Exact := by
  cases h with
  | sendLocal h =>
    exact hs.post (hsound.live_owner h) _
  | sendRemote | sendRefused | draw => exact hs
  | spawn howner => exact ((hs.setRegistry _).setTermination _).post howner _
  | halt h =>
    obtain ⟨slot, hslot, rfl, -⟩ := Registry.beginHalt_eq_started h
    exact (hs.setRegistry _).post (hsound.owner_valid _ _ hslot) _

/-- Taking a packet in keeps the obligations exact. -/
theorem Takes.exact {packet : Packet} (h : Takes s packet ws events t) (hsound : s.Sound)
    (hs : s.Exact) : t.Exact := by
  cases h with
  | tokens _ h =>
    exact (hs.setTermination _).post (hsound.live_owner h) _
  | spawned _ howner => exact ((hs.setRegistry _).setTermination _).post howner _
  | halted _ h =>
    obtain ⟨slot, hslot, rfl, -⟩ := Registry.beginHalt_eq_started h
    exact (hs.setRegistry _).post (hsound.owner_valid _ _ hslot) _
  | haltAck => exact hs.countAck hsound _
  | _ => exact hs

/-- Dealing with an item keeps the obligations exact. -/
theorem Deals.exact {item : WorkItem σ} (h : Deals s item ws events t) (hsound : s.Sound)
    (hw : s.HasWorker s.worker) (hs : s.Exact) : t.Exact := by
  cases h with
  | reroute _ _ _ _ _ h =>
    exact hs.post (hsound.known_owner h) _
  | stopCopy | stopLocal => exact (hs.stop ..).post hw _
  | stopGlobal _ _ h =>
    obtain ⟨slot, hslot, -, hregistry⟩ := Registry.expectAcks_eq_ok h
    have howner := hsound.owner_valid _ _ hslot
    have hset := hsound.setSlot hregistry howner
    exact ((hs.setRegistry _).stop ..).excuse ((hset.setActive ..).setHalting ..) _ _
  | _ => exact hs

/-- One step keeps the obligations exact. -/
theorem Step.exact {naming open_ : Prop} (h : Step naming open_ s ws events t)
    (hsound : s.Sound) (hs : s.Exact) :
    t.Exact := by
  cases h with
  | ask _ h => exact h.exact hsound hs
  | take h => exact h.exact hsound hs
  | drain hhand =>
    rw [Exact, count_drain hhand]
    exact hs
  | deal hhand h =>
    have hw : s.HasWorker s.worker := hsound.hand_valid (by simp [hhand])
    exact (h.exact hsound hw hs).finish (h.hand_eq.1.trans hhand)
  | requestFiring _ h =>
    exact hs.post (hsound.live_owner h) _
  | @migrate w _ net _ registry _ _ htarget =>
    exact Exact.post (s := (s.setRegistry registry).setActive w net none) hs htarget _
  | _ => exact hs

theorem Wreck.canCrash {naming open_ : Prop} {c : Crash} (h : Wreck naming open_ c s ws t) :
    c ≠ .obligationUnderflow ∨ NetBehaviour.CanCrash σ c := by
  cases h with
  | lost h =>
    rcases h with ⟨item, rest, left, -, hfails⟩ | hcrash
    · cases hfails with
      | orphan | stray => exact .inl (by simp)
      | broken _ hreceive => exact .inr (.inl ⟨_, _, _, _, hreceive⟩)
    · exact .inr hcrash
  | handed _ h => exact .inr (.inl ⟨_, _, _, _, h⟩)
  | misfit | misfitCopy => exact .inl (by simp)
  | overflow _ _ h =>
    rw [Termination.onReply_eq_error h]
    exact .inl (by simp)

end Scene

/-! ## All that can be done to a process -/

/-- What can be done to a process by whoever has it at hand, be it an operation or not. -/
inductive Action (σ : Type) where
  | operation (op : Operation)
  | post (w : WorkerId) (item : WorkItem σ)
  | handOver (made : σ) (target : WorkerId)
  | cleanMessages (w : WorkerId)
  | startLogs (name : String)
  | stopLogs

namespace Action

variable {σ τ : Type} [NetBehaviour σ] [Transport τ]

/-- What an action does. -/
def run : Action σ → NodeM σ τ Unit
  | operation op => op.run
  | post w item => Node.post w item
  | handOver made target => Node.handOver made target
  | cleanMessages w => do
    let _ ← Node.cleanMessages w
  | startLogs name => Node.startLogs name
  | stopLogs => Node.stopLogs

end Action

namespace Process

open Rules Scene

variable {σ τ : Type} {p q : Process σ} {v w : WorkerId} {hand after : List (WorkItem σ)}

/-- The process is sound and its obligations are exact, seen with items at the hand of a worker. -/
def Balanced (p : Process σ) (w : WorkerId) (hand : List (WorkItem σ)) : Prop :=
  (p.scene w hand).Sound ∧ (p.scene w hand).Exact

namespace Balanced

theorem turn (h : p.Balanced w []) (v : WorkerId) : p.Balanced v [] :=
  ⟨{ h.1 with hand_valid := fun hne => absurd rfl hne }, h.2⟩

theorem posted (h : p.Balanced w hand) (hv : v.index < p.inboxes.length) (item : WorkItem σ) :
    (p.posted v item).Balanced w hand :=
  ⟨h.1.post hv item, h.2.post hv item⟩

/-- A whole run keeps the obligations exact. -/
theorem path [NetBehaviour σ] [Transport τ] {naming open_ : Prop} {l m : τ} {events : List TokenEvent}
    (h : p.Balanced w hand)
    (hpath : (steps naming open_).Path (p.scene w hand) l events (q.scene w after) m) :
    q.Balanced w after := by
  obtain ⟨hsound, hexact⟩ := h
  refine ⟨hpath.sound hsound, ?_⟩
  generalize p.scene w hand = s at *
  generalize q.scene w after = t at *
  induction hpath with
  | nil => exact hexact
  | cons hstep _ _ ih => exact ih (Step.sound hstep hsound) (Step.exact hstep hsound hexact)

end Balanced

end Process

namespace Node

open Rules Scene

variable {σ τ α : Type} [NetBehaviour σ] {w : WorkerId} {n : Node σ τ}

/-- What is shown of every action: a balanced process stays balanced, and a crash is never that more was
finished than taken on, unless a net makes it its own. -/
def Balances : EStateM.Result Fault (Node σ τ) α → Prop
  | .ok _ m | .error (.refused _) m => m.process.Balanced ⟨0⟩ []
  | .error (.crashed c) _ => c ≠ .obligationUnderflow ∨ NetBehaviour.CanCrash σ c

theorem post_balances (w : WorkerId) (item : WorkItem σ) (h : n.process.Balanced ⟨0⟩ []) :
    Balances (post w item n) := by
  rw [post_apply]
  split
  · exact h.posted ‹_› item
  · exact h

theorem postEach_balances (items : List (WorkerId × WorkItem σ)) (h : n.process.Balanced ⟨0⟩ []) :
    Balances (postEach items n) := by
  induction items generalizing n with
  | nil => exact h
  | cons first rest ih =>
    have hpost := post_balances first.1 first.2 h
    rw [postEach, bind_apply]
    rcases hrun : post first.1 first.2 n with ⟨_, m⟩ | ⟨e, m⟩ <;> rw [hrun] at hpost
    · exact ih hpost
    · exact hpost

theorem handOver_balances (made : σ) (target : WorkerId) (h : n.process.Balanced ⟨0⟩ []) :
    Balances (handOver made target n) := by
  rw [handOver, bind_apply, checkWorker_apply]
  split
  · rename_i htarget
    split at htarget
    · rename_i hvalid
      cases htarget
      simp only [bind_apply, changeRegistry_apply]
      rcases howner : n.process.registry.setOwner (NetBehaviour.id made) target with e | registry
      · exact h
      · obtain ⟨slot, -, hregistry⟩ := Registry.setOwner_eq_ok howner
        exact post_balances target _ ⟨h.1.setSlot hregistry hvalid, h.2⟩
    · cases htarget
  · rename_i hrefused
    split at hrefused <;> cases hrefused
    exact h

/-- Items at the hand are given up. -/
def Discards : Scene σ → Scene σ → Prop :=
  Relation.ReflTransGen fun s t => ∃ item rest, s.hand = item :: rest ∧ t = s.finish item rest

omit [NetBehaviour σ] in
theorem Discards.keeps {I : Scene σ → Prop} {s t : Scene σ} (h : Discards s t) (hs : I s)
    (hI : ∀ {s : Scene σ} {item rest}, s.hand = item :: rest → I s → I (s.finish item rest)) : I t := by
  induction h with
  | refl => exact hs
  | tail _ hlast ih =>
    obtain ⟨item, rest, hhand, rfl⟩ := hlast
    exact hI hhand ih

omit [NetBehaviour σ] in
theorem discardAll_apply (items : List (WorkItem σ)) (hs : (n.process.scene w items).Sound) :
    ∃ p, discardAll items n = .ok () { n with process := p } ∧
      Discards (n.process.scene w items) (p.scene w []) := by
  induction items generalizing n with
  | nil => exact ⟨n.process, rfl, .refl⟩
  | cons item rest ih =>
    have hrest : ({ n.process with obligations := n.process.obligations - item.weight }.scene w rest).Sound :=
      hs.finish rfl
    obtain ⟨p, hrun, hp⟩ := ih (n := { n with process := _ }) hrest
    refine ⟨p, ?_, .head ⟨item, rest, rfl, rfl⟩ hp⟩
    rw [← hrun, discardAll]
    cases hitem : item.isObligation
    · simp [WorkItem.weight, hitem]
    · have hne : n.process.obligations ≠ 0 := by
        have howed := hs.owed
        simp only [count, Process.scene, List.countP_cons, hitem, if_true] at howed
        omega
      simp only [if_true, bind_apply, completeObligation_apply, if_neg hne, WorkItem.weight, hitem]

theorem cleanMessages_apply (w : WorkerId) (hs : (n.process.scene w []).Sound) :
    ∃ count p, cleanMessages w n = .ok count { n with process := p } ∧
      Discards (n.process.scene w []).drain (p.scene w []) := by
  have hdrain : Step True True (n.process.scene w []) [] [] (n.process.scene w []).drain := .drain rfl
  obtain ⟨p, hrun, hp⟩ := discardAll_apply (w := w) (n := { n with process :=
    { n.process with inboxes := n.process.inboxes.set w.index [] } }) (n.process.inbox w) (hdrain.sound hs)
  refine ⟨(n.process.inbox w).length, p, ?_, hp⟩
  simp only [cleanMessages, drainInbox, bind_apply, getProcess_apply, modifyProcess_apply, pure_apply,
    hrun]

theorem cleanMessages_balances (w : WorkerId) (h : n.process.Balanced ⟨0⟩ []) :
    Balances (cleanMessages w n) := by
  have hw := h.turn w
  have hdrain : Step True True (n.process.scene w []) [] [] (n.process.scene w []).drain := .drain rfl
  obtain ⟨count, p, hrun, hp⟩ := cleanMessages_apply w hw.1
  rw [hrun]
  have hp : p.Balanced w [] := hp.keeps (I := fun s => s.Sound ∧ s.Exact)
    ⟨hdrain.sound hw.1, hdrain.exact hw.1 hw.2⟩ fun hhand h => ⟨h.1.finish hhand, h.2.finish hhand⟩
  exact hp.turn ⟨0⟩

end Node

theorem Action.balances {σ τ : Type} [NetBehaviour σ] [Transport τ] (action : Action σ) {n : Node σ τ}
    (h : n.process.Balanced ⟨0⟩ []) : Node.Balances (action.run n) := by
  cases action with
  | operation op =>
    have hop := h.turn op.worker
    have hfollows : (Scene.steps True True).Follows True op.worker [] [] n (op.events n) (op.run n) :=
      op.follows (fun _ => trivial) (fun _ => trivial) hop.1
    show Node.Balances (op.run n)
    rcases hrun : op.run n with ⟨a, m⟩ | ⟨e | c, m⟩ <;> rw [hrun] at hfollows
    · exact (hop.path hfollows).turn ⟨0⟩
    · exact (hop.path hfollows.2).turn ⟨0⟩
    · obtain ⟨earlier, t, k, ws, -, hwreck, -⟩ := hfollows
      exact Scene.Wreck.canCrash hwreck
  | post w item => exact Node.post_balances w item h
  | handOver made target => exact Node.handOver_balances made target h
  | cleanMessages w =>
    have hclean := Node.cleanMessages_balances w h
    rw [run, Node.bind_apply]
    rcases hrun : Node.cleanMessages w n with ⟨a, m⟩ | ⟨e | c, m⟩ <;> rw [hrun] at hclean <;>
      exact hclean
  | startLogs name => exact Node.postEach_balances _ h
  | stopLogs => exact Node.postEach_balances _ h

/-! ## Whether the run can end -/

namespace Node

open Rules Scene

variable {σ τ : Type} [NetBehaviour σ] [Transport τ]

/-- The process when it is about to see whether the run can end, because a worker has dealt with an item
and thereby released a net. -/
def releasing? (w : WorkerId) (item : WorkItem σ) (n : Node σ τ) : Option (Node σ τ) :=
  match complete w item n with
  | .ok true m => some { m with process := { m.process with
      stats := { m.process.stats with netsReclaimed := m.process.stats.netsReclaimed + 1 } } }
  | _ => none

/-- While a worker deals with items, the times when it sees whether the run can end, each with the items
that it has not dealt with. -/
def handleChecks (w : WorkerId) : List (WorkItem σ) → Node σ τ → List (Node σ τ × List (WorkItem σ))
  | [], _ => []
  | item :: rest, n =>
    ((releasing? w item n).map (·, rest)).toList ++
      match dealWith w item n with
      | .ok _ m => handleChecks w rest m
      | .error _ _ => []

/-- These times while a worker deals with everything in its inbox. -/
def messageChecks (w : WorkerId) (n : Node σ τ) : List (Node σ τ × List (WorkItem σ)) :=
  match drainInbox w n with
  | .ok items m => handleChecks w items m
  | .error _ _ => []

/-- A round of a worker up to the question whether the run can end. -/
def beginRound (w : WorkerId) : NodeM σ τ Unit := do
  let _ ← processMessages w
  let _ ← fireReady w
  let _ ← processPackets
  let _ ← pollSends

/-- The nodes of a round that see whether the run can end. -/
def roundChecks (w : WorkerId) (n : Node σ τ) : List (Node σ τ × List (WorkItem σ)) :=
  messageChecks w n ++
    match beginRound w n with
    | .ok _ m => if w.index = 0 then [(m, [])] else []
    | .error _ _ => []

variable {n m : Node σ τ} {w : WorkerId} {rest : List (WorkItem σ)}

theorem dealWith_of_releasing? {item : WorkItem σ} (h : releasing? w item n = some m) :
    dealWith w item n = tick m := by
  unfold releasing? at h
  split at h
  · rename_i k hcomplete
    cases h
    rw [dealWith, bind_apply, hcomplete]
    rfl
  · cases h

theorem releasing?_balanced {item : WorkItem σ} (h : n.process.Balanced w (item :: rest))
    (hm : releasing? w item n = some m) : m.process.Balanced w rest := by
  have hcomplete : (steps True True).Follows False w _ _ n _ _ := complete_follows h.1
  unfold releasing? at hm
  split at hm
  · rename_i k hrun
    cases hm
    rw [hrun] at hcomplete
    exact h.path hcomplete
  · cases hm

theorem handleChecks_balanced {items : List (WorkItem σ)} (h : n.process.Balanced w items)
    (hm : (m, rest) ∈ handleChecks w items n) : m.process.Balanced w rest := by
  induction items generalizing n with
  | nil => cases hm
  | cons item later ih =>
    rw [handleChecks] at hm
    rcases List.mem_append.mp hm with hnow | hlater
    · obtain ⟨k, hk, heq⟩ := Option.map_eq_some_iff.mp (Option.mem_toList.mp hnow)
      cases heq
      exact releasing?_balanced h hk
    · have hdeal : (steps True True).Follows False w _ _ n _ _ := dealWith_follows h.1
      split at hlater
      · rename_i k hrun
        rw [hrun] at hdeal
        exact ih (h.path hdeal) hlater
      · cases hlater

section

variable (h : n.process.Balanced w [])

include h

theorem messageChecks_balanced
    (hm : (m, rest) ∈ messageChecks w n) : m.process.Balanced w rest := by
  have hdrain : (steps True True).Path (n.process.scene w []) n.link []
      ({ n.process with inboxes := n.process.inboxes.set w.index [] }.scene w (n.process.inbox w))
      n.link := Path.single (R := steps True True) (Step.drain rfl) .nil
  exact handleChecks_balanced (n := { n with process := _ }) (h.path hdrain) hm

theorem beginRound_follows :
    (steps True True).Follows False w [] [] n
      (andThen (messageEvents w n) (processMessages w n) fun _ n =>
        andThen (fireReadyEvents w n) (fireReady w n) fun _ n => receiveEvents packetBatch n)
      (beginRound w n) := by
  refine .bind h.1 (processMessages_follows h.1) fun handled m _ hm => ?_
  refine .bind hm (fireReady_follows hm) fun fired k _ hk => ?_
  refine .bind_quiet hk (receivePackets_follows packetBatch hk) fun received j _ hj => ?_
  exact .bind_quiet hj pollSends_follows fun _ i _ hi => .silent rfl rfl

theorem roundChecks_balanced
    (hm : (m, rest) ∈ roundChecks w n) : m.process.Balanced w rest := by
  rcases List.mem_append.mp hm with hearly | hlast
  · exact messageChecks_balanced h hearly
  · have hround := beginRound_follows h
    split at hlast
    · rename_i k hrun
      rw [hrun] at hround
      split at hlast
      · obtain ⟨rfl, rfl⟩ := Prod.mk.injEq .. ▸ List.mem_singleton.mp hlast
        exact h.path hround
      · cases hlast
    · cases hlast

end

omit [NetBehaviour σ] in
theorem idle_of_tick {k : Node σ τ} (hquitting : n.process.quitting = false) (h : tick n = .ok () k) (hk : k.process.quitting = true) :
    n.process.registry.isDrained = true ∧ n.process.obligations = 0 ∧
      Transport.hasInbound n.link = false := by
  have hsnapshot : snapshot n = .ok (n.process.termination.snapshot (n.process.registry.isDrained &&
      n.process.obligations == 0 && !Transport.hasInbound n.link)) n := rfl
  have hstays : k ≠ n := by
    rintro rfl
    simp [hquitting] at hk
  simp only [tick, bind_apply, getProcess_apply] at h
  split at h
  · rw [bind_apply, hsnapshot] at h
    cases hidle : n.process.registry.isDrained && n.process.obligations == 0 &&
        !Transport.hasInbound n.link with
    | false =>
      rw [hidle] at h
      cases h
      exact absurd rfl hstays
    | true => simpa [and_assoc] using hidle
  · cases h
    exact absurd rfl hstays

end Node

/-- The times during an action when it is seen whether the run can end, each with the items that a worker
has at hand and has not dealt with. -/
def Action.checks {σ τ : Type} [NetBehaviour σ] [Transport τ] :
    Action σ → Node σ τ → List (Node σ τ × List (WorkItem σ))
  | .operation (.processMessages w), n => n.messageChecks w
  | .operation (.runOnce w), n => n.roundChecks w
  | .operation .tick, n => [(n, [])]
  | _, _ => []

theorem Action.checks_balanced {σ τ : Type} [NetBehaviour σ] [Transport τ] (action : Action σ)
    {n m : Node σ τ} {rest : List (WorkItem σ)} (h : n.process.Balanced ⟨0⟩ [])
    (hm : (m, rest) ∈ action.checks n) : ∃ w, m.process.Balanced w rest := by
  unfold checks at hm
  split at hm
  · exact ⟨_, Node.messageChecks_balanced (h.turn _) hm⟩
  · exact ⟨_, Node.roundChecks_balanced (h.turn _) hm⟩
  · obtain ⟨rfl, rfl⟩ := Prod.mk.injEq .. ▸ List.mem_singleton.mp hm
    exact ⟨_, h⟩
  · cases hm

/-! ## Runs -/

/-- An action and what the process finds around it then. -/
structure Deed (σ τ : Type) where
  action : Action σ
  link : τ
  storage : Storage
  now : Nat

namespace Process

variable {σ τ : Type} [NetBehaviour σ] [Transport τ]

/-- The process after deeds, one after the other, none of which crashes. -/
def undergo? (p : Process σ) : List (Deed σ τ) → Option (Process σ)
  | [] => some p
  | deed :: rest =>
    match Node.after? deed.action.run ⟨p, deed.link, deed.storage, deed.now⟩ with
    | some n => n.process.undergo? rest
    | none => none

/-- By induction on the deeds. -/
theorem undergo?_balanced {p q : Process σ} {deeds : List (Deed σ τ)} (h : p.Balanced ⟨0⟩ [])
    (hrun : p.undergo? deeds = some q) : q.Balanced ⟨0⟩ [] := by
  induction deeds generalizing p with
  | nil =>
    cases hrun
    exact h
  | cons deed rest ih =>
    have hdeed := deed.action.balances (n := ⟨p, deed.link, deed.storage, deed.now⟩) h
    unfold undergo? at hrun
    split at hrun
    · rename_i m hafter
      refine ih ?_ hrun
      unfold Node.after? at hafter
      rcases hact : deed.action.run ⟨p, deed.link, deed.storage, deed.now⟩ with ⟨a, k⟩ | ⟨e | c, k⟩ <;>
        rw [hact] at hafter hdeed <;> cases hafter
      · exact hdeed
      · exact hdeed
    · cases hrun

end Process

/-- After deeds that do not crash the obligations are exactly the items in the inboxes that stand for
work. Whatever is done next, more is never finished than was taken on, unless a net crashes and says so.
Whenever it is seen on the way whether the run can end, the obligations are the items that stand for work
in the inboxes and among those a worker has not dealt with; and if the process ends the run then, as one
that is alone may, there are none, no net is left and no packet has arrived. -/
theorem obligations_are_exact {σ τ : Type} [NetBehaviour σ] [Transport τ] {settings : Settings}
    {templates : List (Template σ)} {id : ProcessId} {count : Nat} {p : Process σ}
    {deeds : List (Deed σ τ)} {n : Node σ τ} (hcreate : Process.create settings templates id count = .ok p)
    (hdeeds : p.undergo? deeds = some n.process) (action : Action σ) :
    n.process.obligations = n.process.inboxes.flatten.countP WorkItem.isObligation ∧
    (∀ m, action.run n = .error (.crashed .obligationUnderflow) m →
      NetBehaviour.CanCrash σ .obligationUnderflow) ∧
    ∀ m rest, (m, rest) ∈ action.checks n →
      m.process.obligations = m.process.inboxes.flatten.countP WorkItem.isObligation +
        rest.countP WorkItem.isObligation ∧
      ∀ k, m.process.quitting = false → Node.tick m = .ok () k →
        k.process.quitting = true →
        m.process.inboxes.flatten.countP WorkItem.isObligation = 0 ∧
          rest.countP WorkItem.isObligation = 0 ∧
          (∀ net, m.process.registry.slot? net = none) ∧ Transport.hasInbound m.link = false := by
  have hfresh := (Process.create_eq_ok hcreate).2.2.2.2
  have hp : p.Balanced ⟨0⟩ [] := ⟨hfresh.sound, hfresh.obligations.trans (hfresh.count _).symm⟩
  have hn := Process.undergo?_balanced hp hdeeds
  have hcount {q : Process σ} {w : WorkerId} {hand : List (WorkItem σ)} (h : q.Balanced w hand) :
      q.obligations = q.inboxes.flatten.countP WorkItem.isObligation +
        hand.countP WorkItem.isObligation := by
    rw [Nat.add_comm]
    exact h.2
  refine ⟨hcount hn, fun m hcrash => ?_, fun m rest hm => ?_⟩
  · have hbalances := action.balances hn
    rw [hcrash] at hbalances
    exact hbalances.resolve_left fun h => h rfl
  · obtain ⟨w, hw⟩ := action.checks_balanced hn hm
    have howed := hcount hw
    refine ⟨howed, fun k hquitting htick hk => ?_⟩
    obtain ⟨hdrained, hnothing, hinbound⟩ := Node.idle_of_tick hquitting htick hk
    exact ⟨by omega, by omega, Registry.isDrained_iff.mp hdrained, hinbound⟩

/-- A process that is alone does not end the run while an item waits in an inbox, even one that was put
there by hand. -/
theorem obligations_are_exact_after_post :
    ∃ n : Node Bare Mailbox.Link, n.process.processCount = 1 ∧ n.process.quitting = false ∧
      n.process.obligations = 1 ∧ ∀ k, Node.tick n = .ok () k → k.process.quitting = false := by
  let link : Mailbox.Link := { endpoint := { process := ⟨0⟩ }, hub := ⟨[{}]⟩ }
  let deeds : List (Deed Bare Mailbox.Link) :=
    [⟨.startLogs "log", link, .create [], 0⟩, ⟨.post ⟨0⟩ (.fire ⟨7⟩ 0), link, .create [], 0⟩]
  obtain ⟨p, q, hcreate, hdeeds, hone, hquitting, howed⟩ : ∃ p q : Process Bare,
      Process.create ⟨1, true, 0, 0, none⟩ [Bare.template] ⟨0⟩ 1 = .ok p ∧
      p.undergo? deeds = some q ∧ q.processCount = 1 ∧ q.quitting = false ∧ q.obligations = 1 :=
    ⟨_, _, rfl, rfl, rfl, rfl, rfl⟩
  have hexact := obligations_are_exact (n := ⟨q, link, .create [], 0⟩) hcreate hdeeds (.operation .tick)
  refine ⟨⟨q, link, .create [], 0⟩, hone, hquitting, howed, fun k htick => ?_⟩
  obtain ⟨hnow, -, hchecks⟩ := hexact
  obtain ⟨-, hends⟩ := hchecks _ [] (List.mem_singleton_self _)
  by_contra hk
  obtain ⟨hnone, -⟩ := hends k hquitting htick (by simpa using hk)
  have hzero : q.obligations = 0 := hnow.trans hnone
  omega

end PetriCluster
