import PetriCluster.Process.Lifecycle
import PetriCluster.Proofs.Rounds
import Mathlib.Logic.Relation

/-!
# What operations touch

Most of what a process does leaves most of it alone. All changes are made of small ones
(`Process.Stirs`), and only some operations make those that matter: sends and firings are counted by
requests and by workers that fire, and an inbox is emptied and a release counted only by the worker at
work.
-/

namespace PetriCluster

/-- What an operation may touch. -/
structure Scope where
  counts : Prop
  releases : WorkerId → Prop
  takes : WorkerId → Prop

namespace Process

variable {σ : Type}

/-- The place of a process, its templates, the sends it has counted, its inboxes and its workers. -/
def sight (p : Process σ) :=
  (p.id, p.processCount, p.templates, p.stats.localDeliveries, p.stats.remoteDeliveries, p.inboxes,
    p.workers)

/-- A small change. Sends and firings are counted, releases are counted and inboxes are emptied only as
far as the scope goes. -/
inductive Stirs (scope : Scope) : Process σ → Process σ → Prop
  | aside {p q : Process σ} : q.sight = p.sight → Stirs scope p q
  | tally {p q : Process σ} : scope.counts → q.inboxes = p.inboxes → q.workers = p.workers →
      Stirs scope p q
  | enqueue (p : Process σ) (w : WorkerId) (item : WorkItem σ) :
      Stirs scope p { p with inboxes := p.inboxes.modify w.index (· ++ [item]) }
  | work (p : Process σ) (w : WorkerId) {f : Worker σ → Worker σ} :
      (scope.counts ∨ ∀ x, (f x).stats.firings = x.stats.firings) →
      (scope.releases w ∨ ∀ x, (f x).stats.reclaimed = x.stats.reclaimed) →
      Stirs scope p (p.updateWorker w f)
  | take (p : Process σ) {w : WorkerId} : scope.takes w →
      Stirs scope p { p with inboxes := p.inboxes.set w.index [] }

variable {scope : Scope} {p q : Process σ} {w : WorkerId}

/-- Items are added at the end of an inbox, as long as nobody empties it. -/
theorem Stirs.inbox_grows (h : Stirs scope p q) (hw : ¬ scope.takes w) : p.inbox w <+: q.inbox w := by
  cases h with
  | aside hsight =>
    simp only [sight, Prod.mk.injEq] at hsight
    simp [inbox, hsight]
  | tally _ hinboxes => simp [inbox, hinboxes]
  | enqueue v item =>
    by_cases hv : v.index = w.index
    · cases hline : p.inboxes[w.index]? <;> simp [inbox, hv, hline]
    · simp [inbox, hv]
  | work => exact List.prefix_rfl
  | @take v htakes =>
    have hv : v.index ≠ w.index := fun heq => hw (WorkerId.index_inj heq ▸ htakes)
    simp [inbox, List.getElem?_set_ne hv]

theorem Stirs.reclaimed_eq (h : Stirs scope p q) (hw : ¬ scope.releases w) :
    (q.worker w).stats.reclaimed = (p.worker w).stats.reclaimed := by
  cases h with
  | aside hsight =>
    simp only [sight, Prod.mk.injEq] at hsight
    simp [worker, hsight]
  | tally _ _ hworkers => simp [worker, hworkers]
  | enqueue | take => rfl
  | @work v f _ hreclaimed =>
    by_cases hv : w = v
    · subst hv
      have hf := hreclaimed.resolve_left hw
      cases hfound : p.workers[w.index]? <;> simp [worker, updateWorker, hfound, hf]
    · rw [worker_updateWorker_of_ne hv]

end Process

namespace Node

open Process

variable {σ τ α β : Type} {scope : Scope}

/-- An operation that makes no other changes, however it ends. -/
def Within (scope : Scope) (x : NodeM σ τ α) : Prop :=
  ∀ n, Relation.ReflTransGen (Stirs scope) n.process (final (x n)).process

namespace Within

theorem still {x : NodeM σ τ α} (h : ∀ n, (final (x n)).process.sight = n.process.sight) :
    Within scope x :=
  fun n => .single (.aside (h n))

theorem pure (a : α) : Within (σ := σ) (τ := τ) scope (pure a) := fun _ => .refl

theorem get : Within scope (MonadState.get : NodeM σ τ (Node σ τ)) := fun _ => .refl

theorem getProcess : Within scope (getProcess : NodeM σ τ (Process σ)) := fun _ => .refl

theorem isQuitting : Within scope (isQuitting : NodeM σ τ Bool) := fun _ => .refl

theorem refuse (e : RuntimeError) : Within scope (refuse e : NodeM σ τ α) := fun _ => .refl

theorem crash (c : Crash) : Within scope (crash c : NodeM σ τ α) := fun _ => .refl

theorem modifyProcess {f : Process σ → Process σ} (hf : ∀ p, (f p).sight = p.sight) :
    Within scope (modifyProcess f : NodeM σ τ Unit) :=
  still fun n => hf n.process

variable {x : NodeM σ τ α} {f : α → NodeM σ τ β}

theorem bind (hx : Within scope x) (hf : ∀ a, Within scope (f a)) :
    Within scope (x >>= f) := by
  intro n
  have hn := hx n
  rw [bind_apply]
  rcases hrun : x n with ⟨a, m⟩ | ⟨e, m⟩ <;> rw [hrun] at hn
  · exact hn.trans (hf a m)
  · exact hn

theorem attempt (hx : Within scope x) : Within scope (attempt x) := by
  intro n
  have hn := hx n
  rw [attempt_apply]
  rcases hrun : x n with ⟨a, m⟩ | ⟨e | c, m⟩ <;> rw [hrun] at hn <;> exact hn

theorem tolerate {x : NodeM σ τ Unit} (hx : Within scope x) : Within scope (tolerate x) :=
  hx.attempt.bind fun _ => pure ()

theorem ite {p : Prop} [Decidable p] {x y : NodeM σ τ α} (hx : Within scope x)
    (hy : Within scope y) : Within scope (if p then x else y) := by
  split
  · exact hx
  · exact hy

theorem inbox_grows (h : Within scope x) {w : WorkerId} (hw : ¬ scope.takes w) (n : Node σ τ) :
    n.process.inbox w <+: (final (x n)).process.inbox w :=
  (h n).rec List.prefix_rfl fun _ hlast ih => ih.trans (hlast.inbox_grows hw)

theorem reclaimed_eq (h : Within scope x) {w : WorkerId} (hw : ¬ scope.releases w) (n : Node σ τ) :
    ((final (x n)).process.worker w).stats.reclaimed = (n.process.worker w).stats.reclaimed :=
  (h n).rec rfl fun _ hlast ih => (hlast.reclaimed_eq hw).trans ih

end Within

theorem tally_within {f : ProcessStats → ProcessStats}
    (hlocal : ∀ s, (f s).localDeliveries = s.localDeliveries)
    (hremote : ∀ s, (f s).remoteDeliveries = s.remoteDeliveries) :
    Within scope (tally f : NodeM σ τ Unit) :=
  .modifyProcess fun p => by simp only [sight, hlocal, hremote]

theorem tallyProtocolError_within : Within scope (tallyProtocolError : NodeM σ τ Unit) :=
  tally_within (fun _ => rfl) fun _ => rfl

theorem tallyTransportErrors_within (count : Nat) :
    Within scope (tallyTransportErrors count : NodeM σ τ Unit) :=
  tally_within (fun _ => rfl) fun _ => rfl

theorem withRegistry_within (f : Registry → Except RuntimeError (α × Registry)) :
    Within scope (withRegistry f : NodeM σ τ α) := by
  refine .still fun n => ?_
  rw [withRegistry_apply]
  rcases f n.process.registry with e | ⟨a, registry⟩ <;> rfl

theorem changeRegistry_within (f : Registry → Except RuntimeError Registry) :
    Within scope (changeRegistry f : NodeM σ τ Unit) :=
  withRegistry_within _

theorem takeObligation_within : Within scope (takeObligation : NodeM σ τ Unit) :=
  .modifyProcess fun _ => rfl

theorem completeObligation_within : Within scope (completeObligation : NodeM σ τ Unit) :=
  .bind .getProcess fun _ => .ite (.crash _) (.modifyProcess fun _ => rfl)

theorem checkWorker_within (w : WorkerId) : Within scope (checkWorker w : NodeM σ τ Unit) := by
  refine .still fun n => ?_
  rw [checkWorker_apply]
  split <;> rfl

theorem drawId_within : Within scope (drawId : NodeM σ τ NetId) := by
  refine .still fun n => ?_
  rw [drawId_apply]
  rcases n.process.ids.draw with e | ⟨net, ids⟩ <;> rfl

theorem enqueue_within (w : WorkerId) (item : WorkItem σ) :
    Within scope (enqueue w item : NodeM σ τ Unit) :=
  fun n => .single (.enqueue n.process w item)

theorem post_within (w : WorkerId) (item : WorkItem σ) :
    Within scope (post w item : NodeM σ τ Unit) :=
  (checkWorker_within w).bind fun _ => .bind (.modifyProcess fun _ => rfl) fun _ => enqueue_within w item

theorem postCounted_within (w : WorkerId) (item : WorkItem σ) :
    Within scope (postCounted w item : NodeM σ τ Unit) :=
  .bind .getProcess fun _ => .ite (enqueue_within w item) completeObligation_within

theorem recordSent_within (count : Nat) : Within scope (recordSent count : NodeM σ τ Unit) :=
  .modifyProcess fun _ => rfl

theorem postReclaim_within (w : WorkerId) (net : NetId) :
    Within scope (postReclaim w net : NodeM σ τ Unit) :=
  (post_within _ _).tolerate

theorem countAck_within (net : NetId) : Within scope (countAck net : NodeM σ τ Unit) := by
  refine (withRegistry_within _).bind fun outcome => ?_
  cases outcome with
  | waiting => exact .pure _
  | complete owner => exact postReclaim_within owner net

theorem excuse_within (net : NetId) (count : Nat) :
    Within scope (excuse net count : NodeM σ τ Unit) := by
  induction count with
  | zero => exact .pure _
  | succ count ih =>
    exact (tallyTransportErrors_within 1).bind fun _ => (countAck_within net).tolerate.bind fun _ => ih

theorem halt_within (requester : WorkerId) (net : NetId) :
    Within scope (halt requester net : NodeM σ τ Unit) := by
  refine (checkWorker_within requester).bind fun _ => takeObligation_within.bind fun _ =>
    (withRegistry_within _).attempt.bind fun r => ?_
  rcases r with e | ⟨owner, isGlobal⟩ | _
  · exact completeObligation_within.bind fun _ => .refuse e
  · exact postCounted_within owner _
  · exact completeObligation_within

theorem requestFiring_within (net : NetId) (transition : TransitionIndex) :
    Within scope (requestFiring net transition : NodeM σ τ Unit) := by
  refine .bind .getProcess fun p => ?_
  cases p.registry.liveOwner? net with
  | none => exact .refuse _
  | some owner => exact post_within owner _

theorem postEach_within (posts : List (WorkerId × WorkItem σ)) :
    Within scope (postEach posts : NodeM σ τ Unit) := by
  induction posts with
  | nil => exact .pure _
  | cons first rest ih => exact (post_within first.1 first.2).bind fun _ => ih

/-! ## Workers -/

section

variable (w : WorkerId)

theorem modifyWorker_within {f : Worker σ → Worker σ}
    (hfirings : ∀ x, (f x).stats.firings = x.stats.firings)
    (hreclaimed : ∀ x, (f x).stats.reclaimed = x.stats.reclaimed) :
    Within scope (modifyWorker w f : NodeM σ τ Unit) :=
  fun n => .single (.work n.process w (.inr hfirings) (.inr hreclaimed))

theorem record_within (event : LogEvent) :
    Within scope (record w event : NodeM σ τ Unit) :=
  .bind .get fun _ => modifyWorker_within w (fun _ => rfl) fun _ => rfl

theorem storeNet_within (net : NetId) (state : σ) :
    Within scope (storeNet w net state : NodeM σ τ Unit) :=
  modifyWorker_within w (fun _ => rfl) fun _ => rfl

theorem reroute_within (net : NetId) (item : WorkItem σ) :
    Within scope (reroute w net item : NodeM σ τ Unit) := by
  have hwork {f : WorkerStats → WorkerStats} (hfirings : ∀ x, (f x).firings = x.firings)
      (hreclaimed : ∀ x, (f x).reclaimed = x.reclaimed) :
      Within scope (tallyWorker w f : NodeM σ τ Unit) :=
    modifyWorker_within w (fun x => hfirings x.stats) fun x => hreclaimed x.stats
  refine .bind .getProcess fun p => .ite (hwork (fun _ => rfl) fun _ => rfl) ?_
  cases p.registry.owner? net with
  | some owner =>
    have hpost : Within scope (tolerate (post owner item) : NodeM σ τ Unit) :=
      (post_within owner item).tolerate
    exact .ite (.bind (hwork (fun _ => rfl) fun _ => rfl) fun _ => hpost) hpost
  | none =>
    exact .bind (hwork (fun _ => rfl) fun _ => rfl) fun _ => .ite (.crash _) (.pure _)

theorem closeLog_within : Within scope (closeLog w : NodeM σ τ Unit) := by
  intro n
  simp only [closeLog, bind_apply, get_apply]
  cases (n.process.worker w).log with
  | none => exact .refl
  | some log => exact .single (.work n.process w (.inr fun _ => rfl) (.inr fun _ => rfl))

theorem openLog_within (path : String) :
    Within scope (openLog w path : NodeM σ τ Unit) := by
  have hfiles (x : StorageM WorkerLog) : Within scope (onFiles x : NodeM σ τ _) := by
    refine .still fun n => ?_
    unfold onFiles
    split <;> rfl
  refine (closeLog_within w).bind fun _ => .bind .get fun _ => (hfiles _).bind fun r => ?_
  cases r with
  | ok => exact modifyWorker_within w (fun _ => rfl) fun _ => rfl
  | error => exact .pure _

theorem reclaim_within (net : NetId) (hreleases : scope.releases w) :
    Within scope (reclaim w net : NodeM σ τ Bool) := by
  refine .bind (modifyWorker_within w (fun _ => rfl) fun _ => rfl) fun _ =>
    (withRegistry_within _).attempt.bind fun r => ?_
  cases r with
  | ok =>
    have htally : Within scope
        (tallyWorker w fun s => { s with reclaimed := s.reclaimed + 1 } : NodeM σ τ Unit) :=
      fun n => .single (.work n.process w (.inr fun _ => rfl) (.inl hreleases))
    exact htally.bind fun _ => (record_within w _).bind fun _ => .pure _
  | error => exact .pure _

end

/-! ## The network -/

section Network

variable [Transport τ]

theorem send_within (target : ProcessId) (packet : Packet) :
    Within scope (send target packet : NodeM σ τ Unit) := by
  refine .still fun n => ?_
  rw [send_apply]
  rcases Transport.send n.link target packet with ⟨_ | _, link⟩ <;> rfl

omit [Transport τ] in
theorem forEachTarget_within {f : ProcessId → NodeM σ τ Unit}
    (hf : ∀ target, Within scope (f target)) (targets : List ProcessId) :
    Within scope (forEachTarget f targets) := by
  induction targets with
  | nil => exact .pure _
  | cons target rest ih => exact (hf target).attempt.bind fun _ => ih.bind fun _ => .pure _

theorem broadcast_within (packet : Packet) (exclude : Option ProcessId) :
    Within scope (broadcast packet exclude : NodeM σ τ MulticastReport) :=
  .bind .getProcess fun _ =>
    (forEachTarget_within (send_within · packet) _).bind fun _ => .pure _

theorem broadcastControl_within (message : ControlMessage) :
    Within scope (broadcastControl message : NodeM σ τ MulticastReport) :=
  .bind .getProcess fun _ => (broadcast_within _ _).bind fun report =>
    .ite ((recordSent_within _).bind fun _ => .pure report) (.pure report)

theorem sendControl_within (target : ProcessId) (message : ControlMessage) :
    Within scope (sendControl target message : NodeM σ τ Unit) :=
  .bind .getProcess fun _ => (send_within _ _).bind fun _ => .ite (recordSent_within _) (.pure _)

theorem pollSends_within [NetBehaviour σ] : Within scope (pollSends : NodeM σ τ Nat) := by
  intro n
  simp only [pollSends, bind_apply, get_apply]
  exact .single (.aside rfl)

theorem sendTokens_within (target : ProcessId) (parcel : Parcel) (hcounts : scope.counts) :
    Within scope (sendTokens target parcel : NodeM σ τ Unit) := by
  have htally (f : ProcessStats → ProcessStats) : Within scope (tally f : NodeM σ τ Unit) :=
    fun n => .single (.tally hcounts rfl rfl)
  refine .bind .getProcess fun p => .ite ?_ ?_
  · cases p.registry.liveOwner? parcel.net with
    | none => exact .refuse _
    | some owner => exact (post_within owner _).bind fun _ => htally _
  · refine (send_within _ _).attempt.bind fun r => ?_
    cases r with
    | error e => exact (tallyTransportErrors_within 1).bind fun _ => .refuse e
    | ok => exact (recordSent_within 1).bind fun _ => htally _

theorem multicast_within (targets : List ProcessId) (parcel : Parcel) (hcounts : scope.counts) :
    Within scope (multicast targets parcel : NodeM σ τ MulticastReport) :=
  (forEachTarget_within (sendTokens_within · parcel hcounts) _).bind fun _ => .pure _

/-! ## Halts and the end of a run -/

section

variable (net : NetId)

theorem acknowledgeHalt_within (origin : ProcessId) :
    Within scope (acknowledgeHalt net origin : NodeM σ τ Unit) := by
  refine .bind .getProcess fun _ => (sendControl_within _ _).attempt.bind fun r => ?_
  cases r with
  | ok => exact .pure _
  | error => exact tallyTransportErrors_within 1

theorem haltCopy_within (origin : ProcessId) :
    Within scope (haltCopy net origin : NodeM σ τ Unit) := by
  refine takeObligation_within.bind fun _ => (withRegistry_within _).attempt.bind fun r => ?_
  rcases r with e | ⟨owner, isGlobal⟩ | _
  · exact tallyProtocolError_within.bind fun _ => completeObligation_within.bind fun _ =>
      acknowledgeHalt_within net origin
  · exact postCounted_within owner _
  · exact completeObligation_within.bind fun _ => acknowledgeHalt_within net origin

theorem announceHalt_within (w : WorkerId) :
    Within scope (announceHalt net w : NodeM σ τ Unit) := by
  refine .bind .getProcess fun _ => (changeRegistry_within _).attempt.bind fun r => ?_
  cases r with
  | error => exact postReclaim_within w net
  | ok => exact (broadcastControl_within _).bind fun _ => excuse_within net _

theorem noteStopped_within (w : WorkerId) (origin : Option ProcessId) :
    Within scope (noteStopped net w origin : NodeM σ τ Unit) := by
  refine .bind .getProcess fun p => ?_
  cases p.registry.slot? net with
  | none => exact .pure _
  | some slot =>
    cases origin with
    | some origin => exact (acknowledgeHalt_within net origin).bind fun _ => postReclaim_within w net
    | none => exact .ite (announceHalt_within net w) (postReclaim_within w net)

end

theorem quitAll_within : Within scope (quitAll : NodeM σ τ Unit) := by
  have hend : Within scope (modifyProcess (fun p => { p with quitting := true }) : NodeM σ τ Unit) :=
    .modifyProcess fun _ => rfl
  exact .bind .getProcess fun _ => .bind (.modifyProcess fun _ => rfl) fun _ =>
    .ite hend ((broadcastControl_within _).bind fun _ => hend)

theorem snapshot_within : Within scope (snapshot : NodeM σ τ ProbeSnapshot) := fun _ => .refl

theorem answerProbe_within (wave : UInt64) : Within scope (answerProbe wave : NodeM σ τ Unit) :=
  .bind .isQuitting fun _ => .ite (.pure _) <|
    snapshot_within.bind fun _ => .bind .getProcess fun _ => (sendControl_within _ _).tolerate

theorem collectReply_within (wave : UInt64) (sender : ProcessId) (answer : ProbeSnapshot) :
    Within scope (collectReply wave sender answer : NodeM σ τ Unit) := by
  refine .bind .getProcess fun p => .ite ?_ tallyProtocolError_within
  rcases p.termination.onReply wave.toNat sender answer with ⟨c | verdict, termination⟩
  · exact .bind (.modifyProcess fun _ => rfl) fun _ => .crash c
  · refine .bind (.modifyProcess fun _ => rfl) fun _ => ?_
    cases verdict with
    | quiescent => exact quitAll_within
    | pending | ongoing => exact .pure _

theorem probe_within (own : ProbeSnapshot) : Within scope (probe own : NodeM σ τ Unit) := by
  refine .bind .get fun n => ?_
  rcases n.process.termination.beginWave own n.now with ⟨_ | wave, termination⟩
  · exact .bind (.modifyProcess fun _ => rfl) fun _ => .pure _
  · exact .bind (.modifyProcess fun _ => rfl) fun _ =>
      (broadcastControl_within _).bind fun _ => .pure _

theorem tick_within : Within scope (tick : NodeM σ τ Unit) :=
  .bind .getProcess fun _ => .ite
    (snapshot_within.bind fun own => .ite (.ite quitAll_within (.ite (probe_within own) (.pure _))) (.pure _))
    (.pure _)

theorem noteReclaimed_within : Within scope (noteReclaimed : NodeM σ τ Unit) :=
  .bind (tally_within (fun _ => rfl) fun _ => rfl) fun _ => tick_within

theorem stop_within (w : WorkerId) (net : NetId) (origin : Option ProcessId) :
    Within scope (stop w net origin : NodeM σ τ Unit) := by
  refine .bind (fun _ => .refl) fun worker => ?_
  cases worker.nets.find? net with
  | some state =>
    exact .bind (modifyWorker_within w (fun _ => rfl) fun _ => rfl) fun _ =>
      (record_within w _).bind fun _ => noteStopped_within net w origin
  | none => exact .ite (.pure _) (reroute_within w net _)

end Network

/-! ## Instances -/

variable [NetBehaviour σ]

theorem adopt_within (w : WorkerId) (made : σ) : Within scope (adopt w made : NodeM σ τ Unit) := by
  refine (withRegistry_within _).attempt.bind fun r => ?_
  cases r with
  | ok => exact (record_within w _).bind fun _ => storeNet_within w _ made
  | error =>
    exact .bind (modifyWorker_within w (fun _ => rfl) fun _ => rfl) fun _ =>
      .bind .getProcess fun _ => .ite (.crash _) (.pure _)

theorem handTokens_within (w : WorkerId) (parcel : Parcel) :
    Within scope (handTokens w parcel : NodeM σ τ Unit) := by
  refine .bind (fun _ => .refl) fun worker => ?_
  cases worker.nets.find? parcel.net with
  | none => exact reroute_within w _ _
  | some state =>
    refine .bind (modifyWorker_within w (fun _ => rfl) fun _ => rfl) fun _ =>
      (storeNet_within w _ _).bind fun _ => ?_
    cases NetBehaviour.receive state parcel.place parcel.batch with
    | accepted | refused => exact record_within w _
    | crashed => exact .crash _

theorem handOver_within (made : σ) (target : WorkerId) :
    Within scope (handOver made target : NodeM σ τ Unit) :=
  (checkWorker_within target).bind fun _ => (changeRegistry_within _).bind fun _ => post_within target _

theorem migrate_within (w : WorkerId) (net : NetId) (target : WorkerId) :
    Within scope (migrate w net target : NodeM σ τ Unit) := by
  refine (checkWorker_within target).bind fun _ => .bind (fun _ => .refl) fun worker => ?_
  cases worker.nets.find? net with
  | none => exact .refuse _
  | some state =>
    exact .bind (modifyWorker_within w (fun _ => rfl) fun _ => rfl) fun _ => handOver_within state target

omit [NetBehaviour σ] in
theorem getTemplate_within (index : Nat) :
    Within scope (getTemplate index : NodeM σ τ (Template σ)) := by
  refine .still fun n => ?_
  rw [getTemplate_apply]
  split <;> rfl

theorem createInstance_within (owner : WorkerId) (template : Template σ) (index : Nat) (net : NetId)
    (parent : Option NetId) (isGlobal : Bool) :
    Within scope (createInstance owner template index net parent isGlobal : NodeM σ τ σ) :=
  (changeRegistry_within _).bind fun _ => .bind .getProcess fun _ => .ite
    (.bind (tally_within (fun _ => rfl) fun _ => rfl) fun _ => .pure _) (.crash _)

theorem spawnCopy_within (index : Nat) (net : NetId) (parent : Option NetId) :
    Within scope (spawnCopy index net parent : NodeM σ τ Unit) := by
  have howner : Within scope (nextOwner : NodeM σ τ WorkerId) :=
    .bind .getProcess fun _ => .bind (.modifyProcess fun _ => rfl) fun _ => .pure _
  exact howner.bind fun owner => (getTemplate_within index).bind fun template =>
    (createInstance_within owner template index net parent true).bind fun made =>
      post_within owner (.adopt made)

variable [Transport τ]

theorem spawn_within (owner : WorkerId) (index : Nat) (requested parent : Option NetId)
    (isGlobal : Bool) :
    Within scope (spawn owner index requested parent isGlobal : NodeM σ τ NetId) := by
  have hnamed (template : Template σ) (net : NetId) :
      Within scope (spawnNamed owner template index parent isGlobal net : NodeM σ τ NetId) :=
    (createInstance_within owner template index net parent isGlobal).bind fun made =>
      .bind .getProcess fun _ => .ite
        ((broadcastControl_within _).bind fun _ => (tallyTransportErrors_within _).bind fun _ =>
          (post_within owner (.adopt made)).bind fun _ => .pure _)
        ((post_within owner (.adopt made)).bind fun _ => .pure _)
  rw [spawn_eq]
  refine (checkWorker_within owner).bind fun _ => (getTemplate_within index).bind fun template => ?_
  cases requested with
  | some net => exact hnamed template net
  | none => exact drawId_within.bind (hnamed template)

/-! ## Packets -/

theorem handleControl_within (message : ControlMessage) :
    Within scope (handleControl message : NodeM σ τ Unit) := by
  cases message with
  | spawned net template parent origin =>
    refine .bind (.modifyProcess fun _ => rfl) fun _ => (spawnCopy_within _ _ _).attempt.bind fun r => ?_
    cases r with
    | ok => exact .pure _
    | error => exact tallyProtocolError_within
  | halted net origin => exact haltCopy_within net origin
  | haltAck net sender =>
    refine (countAck_within net).attempt.bind fun r => ?_
    cases r with
    | ok => exact .pure _
    | error => exact tallyProtocolError_within
  | quit | barrier => exact .still fun _ => rfl
  | probe wave => exact answerProbe_within wave
  | probeReply wave sender answer => exact collectReply_within wave sender answer

theorem dispatch_within (packet : Packet) : Within scope (dispatch packet : NodeM σ τ Unit) := by
  unfold dispatch
  cases packet.tag with
  | tokens =>
    refine .bind (.modifyProcess fun _ => rfl) fun _ => ?_
    cases packet.parcel with
    | error => exact tallyProtocolError_within
    | ok parcel =>
      refine .bind .getProcess fun p => ?_
      cases p.registry.liveOwner? parcel.net with
      | some owner => exact (post_within owner _).tolerate
      | none => exact tallyProtocolError_within
  | service =>
    cases ControlMessage.ofPacket packet with
    | ok message => exact handleControl_within message
    | error => exact tallyProtocolError_within

/-- By induction on the limit. -/
theorem receivePackets_within (limit : Nat) :
    Within scope (receivePackets limit : NodeM σ τ Nat) := by
  have hreceive : Within scope (receive : NodeM σ τ (Option Packet)) := by
    refine .still fun n => ?_
    rw [receive_apply]
    rcases Transport.receive n.link with ⟨_ | _, link⟩ <;> rfl
  induction limit with
  | zero => exact .pure _
  | succ limit ih =>
    refine hreceive.attempt.bind fun r => ?_
    rcases r with e | _ | packet
    · exact (tallyTransportErrors_within 1).bind fun _ => .pure _
    · exact .pure _
    · exact (dispatch_within packet).bind fun _ => ih.bind fun _ => .pure _

omit [NetBehaviour σ] in
theorem enterBarrier_within (phase : BarrierPhase) :
    Within scope (enterBarrier phase : NodeM σ τ Unit) := by
  refine .bind .getProcess fun _ => .bind (.modifyProcess fun _ => rfl) fun _ =>
    (broadcastControl_within _).bind fun report => ?_
  cases report.toExcept with
  | ok => exact .pure _
  | error e => exact .refuse e

theorem pollBarrier_within (phase : BarrierPhase) :
    Within scope (pollBarrier phase : NodeM σ τ Bool) :=
  (receivePackets_within _).bind fun _ => pollSends_within.bind fun _ => .bind .getProcess fun _ =>
    .ite (.pure _) <| .bind .get fun _ => .ite (.pure _) <|
      (receivePackets_within _).bind fun _ => .bind .getProcess fun _ => .ite (.pure _) (.refuse _)

/-! ## Firing -/

section

variable (w : WorkerId)

/-- By induction on the firing: it stays within what its requests may touch. -/
theorem perform_within (net : NetId) (halted : Bool) (firing : Firing σ)
    (hcounts : scope.counts) : Within scope (perform w net halted firing : NodeM σ τ (FiringEnd σ)) := by
  induction firing generalizing halted with
  | fired | notEnabled | failed | crashed => exact .pure _
  | send target parcel next ih =>
    exact (sendTokens_within target parcel hcounts).attempt.bind fun r => ih r halted
  | multicast targets parcel next ih =>
    exact (multicast_within targets parcel hcounts).bind fun report => ih report halted
  | spawn template isGlobal next ih =>
    exact (spawn_within w template none (some net) isGlobal).attempt.bind fun r => ih r halted
  | halt next ih => exact (halt_within w net).attempt.bind fun r => ih r true
  | haltNet other next ih => exact (halt_within w other).attempt.bind fun r => ih r halted
  | quit next ih => exact quitAll_within.bind fun _ => ih halted

theorem fireTransition_within (net : NetId) (state : σ) (transition : TransitionIndex)
    (hcounts : scope.counts) :
    Within scope (fireTransition w net state transition : NodeM σ τ (FiringEnd σ)) := by
  refine .bind .getProcess fun _ => (perform_within w net false _ hcounts).bind fun outcome =>
    (storeNet_within w net _).bind fun _ => ?_
  cases outcome.result with
  | crashed c => exact .crash c
  | fired | notEnabled | failed => exact .pure _

omit [NetBehaviour σ] [Transport τ] in
theorem tallyFirings_within {f : WorkerStats → WorkerStats} (hcounts : scope.counts)
    (hf : ∀ s, (f s).reclaimed = s.reclaimed) :
    Within scope (tallyWorker w f : NodeM σ τ Unit) :=
  fun n => .single (.work n.process w (.inl hcounts) (.inr fun x => hf x.stats))

theorem fireOne_within (net : NetId) (transition : TransitionIndex) (hcounts : scope.counts) :
    Within scope (fireOne w net transition : NodeM σ τ Unit) := by
  refine .bind (fun _ => .refl) fun worker => ?_
  cases worker.nets.find? net with
  | none => exact reroute_within w net _
  | some state =>
    exact (fireTransition_within w net state transition hcounts).bind fun _ => .ite
      (.bind (tallyFirings_within w hcounts fun _ => rfl) fun _ => record_within w _) (.pure _)

theorem fireEach_within (net : NetId) (state : σ) (transitions : List TransitionIndex)
    (fired : Nat) (hcounts : scope.counts) :
    Within scope (fireEach w net state transitions fired : NodeM σ τ Nat) := by
  induction transitions generalizing state fired with
  | nil => exact .pure _
  | cons transition rest ih =>
    have hrest (outcome : FiringEnd σ) (fired : Nat) : Within scope
        (if outcome.halted then pure fired else fireEach w net outcome.state rest fired : NodeM σ τ Nat) :=
      .ite (.pure _) (ih outcome.state fired)
    refine .bind .isQuitting fun _ => .ite (.pure _) ?_
    refine (fireTransition_within w net state transition hcounts).bind fun outcome => ?_
    exact .ite ((record_within w _).bind fun _ => hrest outcome _) (hrest outcome _)

theorem fireNets_within (nets : List NetId) (fired : Nat) (hcounts : scope.counts) :
    Within scope (fireNets w nets fired : NodeM σ τ Nat) := by
  induction nets generalizing fired with
  | nil => exact .pure _
  | cons net rest ih =>
    refine .bind .isQuitting fun _ => .ite (.pure _) (.bind (fun _ => .refl) fun worker => ?_)
    cases worker.nets.find? net with
    | none => exact ih fired
    | some state => exact (fireEach_within w net state _ fired hcounts).bind ih

theorem fireReady_within (hcounts : scope.counts) :
    Within scope (fireReady w : NodeM σ τ Nat) :=
  .bind (fun _ => .refl) fun _ => (fireNets_within w _ 0 hcounts).bind fun _ =>
    .bind (tallyFirings_within w hcounts fun _ => rfl) fun _ => .pure _

end

/-! ## Inboxes -/

section

variable (w : WorkerId)

omit [NetBehaviour σ] [Transport τ] in
theorem drainInbox_within (htakes : scope.takes w) :
    Within scope (drainInbox w : NodeM σ τ (List (WorkItem σ))) :=
  fun n => .single (.take n.process htakes)

theorem dealWith_within {item : WorkItem σ}
    (hfire : scope.counts ∨ ∀ net transition, item ≠ .fire net transition)
    (hreclaim : scope.releases w ∨ ∀ net, item ≠ .reclaim net) :
    Within scope (dealWith w item : NodeM σ τ Unit) := by
  have hhandle : Within scope (handle w item : NodeM σ τ Bool) := by
    cases item with
    | adopt made => exact (adopt_within w made).bind fun _ => .pure _
    | tokens parcel => exact (handTokens_within w parcel).bind fun _ => .pure _
    | halt net origin => exact (stop_within w net origin).bind fun _ => .pure _
    | reclaim net => exact reclaim_within w net (hreclaim.resolve_right fun h => h net rfl)
    | fire net transition =>
      have hcounts : scope.counts := hfire.resolve_right fun h => h net transition rfl
      exact (fireOne_within w net transition hcounts).bind fun _ => .pure _
    | startLog path => exact (openLog_within w path).bind fun _ => .pure _
    | stopLog => exact (closeLog_within w).bind fun _ => .pure _
  have hcomplete : Within scope (complete w item : NodeM σ τ Bool) :=
    hhandle.bind fun _ => .ite (completeObligation_within.bind fun _ => .pure _) (.pure _)
  exact hcomplete.bind fun _ => .ite noteReclaimed_within (.pure _)

/-- By induction on the items. -/
theorem handleAll_within (items : List (WorkItem σ)) (hcounts : scope.counts)
    (hreleases : scope.releases w) : Within scope (handleAll w items : NodeM σ τ Unit) := by
  induction items with
  | nil => exact .pure _
  | cons item rest ih =>
    rw [handleAll_cons]
    exact (dealWith_within w (.inl hcounts) (.inl hreleases)).bind fun _ => ih

theorem processMessages_within (hcounts : scope.counts) (hreleases : scope.releases w)
    (htakes : scope.takes w) : Within scope (processMessages w : NodeM σ τ Nat) :=
  (drainInbox_within w htakes).bind fun items => (handleAll_within w items hcounts hreleases).bind fun _ =>
    .bind (tallyFirings_within w hcounts fun _ => rfl) fun _ => .pure _

omit [NetBehaviour σ] [Transport τ] in
theorem cleanMessages_within (htakes : scope.takes w) :
    Within scope (cleanMessages w : NodeM σ τ Nat) := by
  have hdiscard (items : List (WorkItem σ)) : Within scope (discardAll items : NodeM σ τ Unit) := by
    induction items with
    | nil => exact .pure _
    | cons item rest ih => exact .ite (completeObligation_within.bind fun _ => ih) ih
  exact (drainInbox_within w htakes).bind fun items => (hdiscard items).bind fun _ => .pure _

theorem runOnce_within (hcounts : scope.counts) (hreleases : scope.releases w)
    (htakes : scope.takes w) : Within scope (runOnce w : NodeM σ τ Nat) :=
  (processMessages_within w hcounts hreleases htakes).bind fun _ =>
    (fireReady_within w hcounts).bind fun _ => (receivePackets_within _).bind fun _ =>
      pollSends_within.bind fun _ => .ite (tick_within.bind fun _ => .pure _) (.pure _)

end

end Node

end PetriCluster
