import PetriCluster.Proofs.Happenings

/-!
# Every net is with a worker of its process

A slot names the worker that owns the instance. Whoever makes, adopts or moves an instance is checked
or is a worker itself, so the owner is always one of the workers that the process has: whatever the
process does, however it ends, and whatever comes in (`Command.housed`), and so in every run of a
cluster (`Cluster.Housed.foldl_obey`).
-/

namespace PetriCluster

/-- The process has `k` workers, and its parts fit together: so every instance is with one of them. -/
structure Process.Housed {σ : Type} (k : Nat) (p : Process σ) : Prop where
  threads : p.settings.threads = k
  sound : p.outline.Sound

theorem Process.Housed.lt_of_liveOwner? {σ : Type} {k : Nat} {p : Process σ} {net : NetId} {w : WorkerId}
    (h : p.Housed k) (howner : p.registry.liveOwner? net = some w) :
    w.index < p.inboxes.length := by
  exact h.sound.live_owner howner

theorem Process.create_housed {σ : Type} {settings : Settings} {templates : List (Template σ)}
    {id : ProcessId} {count : Nat} {p : Process σ}
    (h : Process.create settings templates id count = .ok p) : p.Housed settings.threads := by
  obtain ⟨-, -, -, -, hfresh⟩ := Process.create_eq_ok h
  refine ⟨?_, hfresh.sound⟩
  unfold create at h
  split at h
  · cases h
  · split at h <;> cases h
    rfl

/-! ## What callers say about workers -/

namespace Node

open Scene

variable {σ τ : Type} {n : Node σ τ}

theorem post_sound (w : WorkerId) (item : WorkItem σ) (hs : n.process.outline.Sound) :
    (final (post w item n)).process.outline.Sound := by
  rw [post_apply]
  by_cases hw : w.index < n.process.inboxes.length
  · rw [if_pos hw]
    exact hs.post hw item
  · rw [if_neg hw]
    exact hs

theorem handOver_sound [NetBehaviour σ] (made : σ) (target : WorkerId)
    (hs : n.process.outline.Sound) : (final (handOver made target n)).process.outline.Sound := by
  simp only [handOver, bind_apply, checkWorker_apply]
  by_cases htarget : target.index < n.process.inboxes.length
  · simp only [htarget, if_true, changeRegistry_apply]
    cases howner : n.process.registry.setOwner (NetBehaviour.id made) target with
    | error e => exact hs
    | ok registry =>
      obtain ⟨slot, -, hregistry⟩ := Registry.setOwner_eq_ok howner
      exact post_sound (n := { n with process := { n.process with registry } }) target _
        (hs.setSlot hregistry htarget)
  · simp only [htarget, if_false]
    exact hs

theorem noteStopped_sound [Transport τ] (net : NetId) (w : WorkerId) (origin : Option ProcessId)
    (hs : n.process.outline.Sound) : (final (noteStopped net w origin n)).process.outline.Sound := by
  have hreclaim (link : τ) (stats : ProcessStats) : (final (postReclaim w net
      { n with link, process := { n.process with stats } })).process.outline.Sound := by
    rw [postReclaim, final_tolerate]
    exact post_sound w _ hs
  simp only [noteStopped, bind_apply, getProcess_apply]
  cases n.process.registry.slot? net with
  | none => exact hs
  | some slot =>
    cases origin with
    | some peer =>
      obtain ⟨stats, link, ws, hrun, -, -⟩ := acknowledgeHalt_apply net peer n
      simp only [bind_apply, hrun]
      exact hreclaim link stats
    | none =>
      by_cases hglobal : slot.isGlobal ∧ 1 < n.process.processCount
      · simp only [hglobal, and_self, if_true, announceHalt, bind_apply, getProcess_apply,
          attempt_apply, changeRegistry_apply]
        cases hexpect : n.process.registry.expectAcks net (n.process.processCount - 1) with
        | error e => exact hreclaim n.link n.process.stats
        | ok registry =>
          obtain ⟨found, hfound, -, hregistry⟩ := Registry.expectAcks_eq_ok hexpect
          have hset : (({ n.process with registry } : Process σ).scene ⟨0⟩ []).Sound :=
            hs.setSlot hregistry (hs.owner_valid net found hfound)
          obtain ⟨report, link, ws, hrun, -⟩ := broadcastControl_apply
            (.halted net n.process.id) { n with process := { n.process with registry } }
          obtain ⟨p, hexcuse, hp⟩ := excuse_apply
            (n := { n with link, process := { n.process with registry } }) net report.failures.length hset
          have hsound : (p.scene ⟨0⟩ []).Sound := hp ▸ hset.excuse net _
          simp only [bind_apply, hrun]
          exact (congrArg (fun r => (final r).process.outline.Sound) hexcuse).mpr hsound
      · simp only [hglobal, if_false]
        exact hreclaim n.link n.process.stats

end Node

/-! ## Commands -/

namespace Command

variable {σ τ : Type} {k : Nat}

/-- Whether a caller says that an instance was taken over by a worker that is none of the first `k`. -/
def misleads (k : Nat) : Command σ → Bool
  | activate _ w => decide (k ≤ w.index)
  | _ => false

variable [NetBehaviour σ] [Transport τ] {n : Node σ τ}

theorem sound {command : Command σ} (hleads : command.misleads n.process.settings.threads = false)
    (hs : n.process.outline.Sound) : (Node.final (command.run n)).process.outline.Sound := by
  by_cases horderly : command.isOrderly = true
  · have hbrings : Node.Brings (fun _ => True) True n (command.run n) :=
      Command.brings horderly (fun _ _ => trivial) (fun _ => trivial) hs
    exact (hbrings fun _ _ _ => trivial).sound hs
  cases command with
  | act action =>
    cases action with
    | post w item => exact Node.post_sound w item hs
    | handOver made target => exact Node.handOver_sound made target hs
    | _ => exact absurd rfl horderly
  | activate net w =>
    have hw : w.index < n.process.inboxes.length :=
      hs.inboxes_length.symm ▸ Nat.not_le.mp (of_decide_eq_false hleads)
    simp only [run, Node.activate, Node.bind_apply, Node.withRegistry_apply]
    rcases hactivate : n.process.registry.activate net w with e | ⟨state, registry⟩
    · exact hs
    · obtain ⟨slot, -, -, hregistry⟩ := Registry.activate_eq_ok hactivate
      exact hs.setSlot hregistry hw
  | noteStopped net w origin => exact Node.noteStopped_sound net w origin hs
  | remove w net =>
    exact { hs with workers_length := (List.length_modify ..).trans hs.workers_length }
  | _ => exact absurd rfl horderly

theorem housed {p : Process σ} (h : p.Housed k) {errand : Errand σ τ}
    (hleads : errand.command.misleads k = false) : (p.after errand).Housed k where
  threads := Process.front_after (I := fun f => f.settings.threads = k)
    (fun hf hshift => by cases hshift <;> exact hf)
    (fun hf hacts => by
      cases hacts with
      | message _ hheeds => cases hheeds <;> exact hf
      | _ => exact hf) h.threads errand
  sound := sound (n := ⟨p, errand.link, errand.storage, errand.now⟩) (h.threads.symm ▸ hleads) h.sound

end Command

/-! ## Clusters -/

namespace Cluster

variable {σ : Type} {n k : Nat} {c : Cluster σ}

/-- Every process has `k` workers, and every instance is with one of them. -/
def Housed (k : Nat) (c : Cluster σ) : Prop := ∀ m ∈ c.members, m.process.Housed k

theorem create_housed {settings : Settings} {templates : List (Template σ)} {storage : Storage}
    (h : create n settings templates storage = .ok c) : c.Housed settings.threads := by
  obtain ⟨-, -, hcount, hmember⟩ := create_eq_ok h
  intro m hm
  obtain ⟨i, hi, rfl⟩ := List.getElem_of_mem hm
  exact Process.create_housed (hmember ⟨i, hcount ▸ hi⟩ _ (List.getElem?_eq_getElem hi)).1

variable [NetBehaviour σ]

theorem Housed.obey (h : c.Housed k) {order : Order σ}
    (hleads : order.command.misleads k = false) : (c.obey order).Housed k := by
  intro other hother
  obtain ⟨i, hi⟩ := List.mem_iff_getElem?.mp hother
  rcases obey_member hi with hold | ⟨-, m, hm, rfl, -⟩
  · exact h other (List.mem_of_getElem? hold)
  · let errand : Errand σ Mailbox.Link := ⟨order.command, ⟨m.endpoint, c.hub⟩, c.storage, order.now⟩
    have hafter : (m.process.after errand).Housed k :=
      Command.housed (h m (List.mem_of_getElem? hm)) hleads
    exact hafter

theorem Housed.foldl_obey (h : c.Housed k) {orders : List (Order σ)}
    (hleads : ∀ order ∈ orders, order.command.misleads k = false) :
    (orders.foldl Cluster.obey c).Housed k := by
  induction orders generalizing c with
  | nil => exact h
  | cons order rest ih =>
    exact ih (h.obey (hleads order (List.mem_cons_self ..)))
      fun o ho => hleads o (List.mem_cons_of_mem _ ho)

end Cluster

end PetriCluster
