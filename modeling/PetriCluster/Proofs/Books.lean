import PetriCluster.Proofs.Footprints
import PetriCluster.Proofs.Schedules

/-!
# What is on the books of a process

A process has its place in the cluster and its templates, and counts the sends that were accepted and
the transitions that have fired. Only requests for sending change these counts, and only firing has
transitions to count; whatever else a process does leaves its books as they are (`Node.Steady`).
-/

namespace PetriCluster

variable {w : WorkerId}

/-- The place of a process, its templates, and what it has counted of sends and firings. -/
structure Books (σ : Type) where
  id : ProcessId
  processCount : Nat
  templates : List (Template σ)
  localDeliveries : Nat
  remoteDeliveries : Nat
  firings : Nat
  unnamedInboxes : List (List (WorkItem σ))
  unnamedNets : List (OrderedMap NetId σ × OrderedMap NetId σ)

namespace Process

variable {σ : Type} (p : Process σ)
variable {f : Worker σ → Worker σ}

/-- The transitions that the workers of a process have fired. -/
def firings : Nat := (p.workers.map (·.stats.firings)).sum

/-- The books as they are in a process. -/
def books : Books σ where
  id := p.id
  processCount := p.processCount
  templates := p.templates
  localDeliveries := p.stats.localDeliveries
  remoteDeliveries := p.stats.remoteDeliveries
  firings := p.firings
  unnamedInboxes := p.inboxes.drop IdSource.wordSize
  unnamedNets := (p.workers.drop IdSource.wordSize).map fun x => (x.nets, x.halting)

variable {p}

theorem drop_modify {α : Type} (l : List α) (w : WorkerId) (f : α → α) :
    (l.modify w.index f).drop IdSource.wordSize = l.drop IdSource.wordSize :=
  List.drop_modify_of_lt _ _ _ _ w.raw.toNat_lt

theorem firings_updateWorker {k : Nat} (h : w.index < p.workers.length)
    (hf : ∀ x, (f x).stats.firings = x.stats.firings + k) :
    (p.updateWorker w f).firings = p.firings + k := by
  have hsum (l : List (Worker σ)) (i : Nat) (hi : i < l.length) :
      ((l.modify i f).map (·.stats.firings)).sum = (l.map (·.stats.firings)).sum + k := by
    induction l generalizing i with
    | nil => simp at hi
    | cons x rest ih =>
      cases i with
      | zero => simp [hf]; omega
      | succ i =>
        have := ih i (by simpa using hi)
        simp [this]; omega
  exact hsum p.workers w.index h

theorem books_tallyFirings {k : Nat} (h : k ≠ 0 → w.index < p.workers.length)
    (hf : ∀ x, (f x).stats.firings = x.stats.firings + k) :
    (p.updateWorker w f).books = { p.books with firings := p.books.firings + k } := by
  have hfirings : (p.updateWorker w f).firings = p.firings + k := by
    by_cases hw : w.index < p.workers.length
    · exact firings_updateWorker hw hf
    · obtain rfl : k = 0 := by
        by_contra hk
        exact hw (h hk)
      unfold updateWorker firings
      rw [List.modify_eq_self (Nat.le_of_not_lt hw), Nat.add_zero]
  unfold books
  rw [hfirings, updateWorker, drop_modify]

theorem books_updateWorker (hf : ∀ x, (f x).stats.firings = x.stats.firings) :
    (p.updateWorker w f).books = p.books :=
  books_tallyFirings (k := 0) (absurd rfl) hf

theorem books_emptyInbox (w : WorkerId) :
    { p with inboxes := p.inboxes.set w.index [] }.books = p.books := by
  have hdrop : (p.inboxes.set w.index []).drop IdSource.wordSize = p.inboxes.drop IdSource.wordSize :=
    List.drop_set_of_lt w.raw.toNat_lt
  unfold books
  rw [hdrop]
  rfl

theorem books_modifyInbox (w : WorkerId) (f : List (WorkItem σ) → List (WorkItem σ)) :
    { p with inboxes := p.inboxes.modify w.index f }.books = p.books := by
  unfold books
  rw [drop_modify]
  rfl

end Process

namespace Node

variable {σ τ α β : Type}
variable {state : σ}

/-- An operation that leaves the books as they are, however it ends. -/
def Steady (x : NodeM σ τ α) : Prop :=
  ∀ n, (final (x n)).process.books = n.process.books

theorem Within.steady {x : NodeM σ τ α} (h : Within ⟨False, fun _ => True, fun _ => True⟩ x) : Steady x := by
  intro n
  refine (h n).rec rfl fun _ hlast ih => Eq.trans ?_ ih
  cases hlast with
  | aside hsight =>
    simp only [Process.sight, Prod.mk.injEq] at hsight
    simp only [Process.books, Process.firings, hsight]
  | tally hcounts => exact hcounts.elim
  | enqueue w item => exact Process.books_modifyInbox w _
  | work w hfirings => exact Process.books_updateWorker (hfirings.resolve_left id)
  | take => exact Process.books_emptyInbox _

variable [NetBehaviour σ] [Transport τ]

/-! ## Firing -/

section Requests

variable {n m : Node σ τ} {parcel : Parcel} {owner w : WorkerId} {net : NetId}

omit [NetBehaviour σ] in
theorem sendTokens_local (howner : n.process.registry.liveOwner? parcel.net = some owner)
    (hworker : owner.index < n.process.inboxes.length) :
    ∃ m, sendTokens n.process.id parcel n = .ok () m ∧ m.link = n.link ∧
      m.process.books =
        { n.process.books with localDeliveries := n.process.books.localDeliveries + 1 } ∧
      ∀ w hand, m.process.scene w hand = (n.process.scene w hand).post owner (.tokens parcel) := by
  simp only [sendTokens, bind_apply, getProcess_apply, if_true, howner, post_apply, hworker,
    tally_apply]
  refine ⟨_, rfl, rfl, ?_, fun _ _ => rfl⟩
  simp only [Process.books, Process.posted, Process.drop_modify]
  rfl

variable {target : ProcessId} {next : Except RuntimeError Unit → Firing σ}

omit [NetBehaviour σ] in
/-- Tokens for another process are counted if the transport accepts them. -/
theorem sendTokens_remote {link : τ} (hother : target ≠ n.process.id)
    (hsend : Transport.send n.link target (.ofTokens n.process.id parcel) = (.ok (), link)) :
    ∃ m, sendTokens target parcel n = .ok () m ∧ m.link = link ∧
      m.process.books =
        { n.process.books with remoteDeliveries := n.process.books.remoteDeliveries + 1 } ∧
      ∀ w hand, m.process.scene w hand =
        (n.process.scene w hand).setTermination (n.process.termination.recordSent 1) := by
  simp only [sendTokens, bind_apply, getProcess_apply, hother, if_false, attempt_apply, send_apply,
    hsend, recordSent_apply, tally_apply]
  exact ⟨_, rfl, rfl, rfl, fun _ _ => rfl⟩

theorem perform_send (halted : Bool)
    (hsend : sendTokens target parcel n = .ok () m) (hnext : next (.ok ()) = .fired state) :
    perform w net halted (.send target parcel next) n = .ok ⟨state, .fired, halted⟩ m := by
  simp only [perform, bind_apply, attempt_apply, hsend, hnext, pure_apply]

theorem perform_halt (halted : Bool)
    (hhalt : halt w net n = .ok () m) (hnext : next (.ok ()) = .fired state) :
    perform w net halted (.halt next) n = .ok ⟨state, .fired, true⟩ m := by
  simp only [perform, bind_apply, attempt_apply, hhalt, hnext, pure_apply]

end Requests

variable {net : NetId} {transition : TransitionIndex} {n m : Node σ τ} {outcome : FiringEnd σ}
  (hw : w.index < m.process.workers.length)
  (hperform : perform w net false (NetBehaviour.fire state
    ⟨net, w, n.process.id, n.process.processCount⟩ transition) n = .ok outcome m)

include hw hperform

theorem fireAndRecord_cases :
    ∃ k, (fireAndRecord w net state transition n = .ok outcome k ∨ ∃ c, outcome.result = .crashed c ∧
        fireAndRecord w net state transition n = .error (.crashed c) k) ∧ k.link = m.link ∧
      k.process.books = m.process.books ∧ ∀ v hand, k.process.scene v hand =
        (m.process.scene v hand).setActive w net (some outcome.state) := by
  have hstore : ∃ k, storeNet w net outcome.state m = .ok () k ∧ k.link = m.link ∧
      k.process.books = m.process.books ∧ ∀ v hand, k.process.scene v hand =
        (m.process.scene v hand).setActive w net (some outcome.state) :=
    ⟨_, rfl, rfl, Process.books_updateWorker fun _ => rfl, fun _ _ => Process.scene_store hw _⟩
  obtain ⟨k, hrun, hlink, hbooks, hscene⟩ := hstore
  by_cases hcrash : ∃ c, outcome.result = .crashed c
  · obtain ⟨c, hresult⟩ := hcrash
    refine ⟨k, .inr ⟨c, hresult, ?_⟩, hlink, hbooks, hscene⟩
    simp only [fireAndRecord, fireTransition_eq, bind_apply, hperform, hrun, hresult, crash_apply]
  have hfire : fireTransition w net state transition n = .ok outcome k := by
    rw [fireTransition_eq, bind_apply, hperform]
    simp only [bind_apply, hrun]
    cases hresult : outcome.result with
    | crashed c => exact absurd ⟨c, hresult⟩ hcrash
    | fired | notEnabled | failed => rfl
  obtain ⟨p, hrecord, hp⟩ := record_apply w (.fire net transition) k
  have hsteady := (record_within w (.fire net transition)).steady k
  rw [hrecord] at hsteady
  by_cases hfired : outcome.result = .fired
  · refine ⟨{ k with process := p }, .inl ?_, hlink, hsteady.trans hbooks,
      fun v hand => (hp v hand).trans (hscene v hand)⟩
    simp only [fireAndRecord, bind_apply, hfire, hfired, if_true, hrecord, pure_apply]
  · refine ⟨k, .inl ?_, hlink, hbooks, hscene⟩
    simp only [fireAndRecord, bind_apply, hfire, hfired, if_false, pure_apply]

theorem fireAndRecord_apply (hend : ∀ c, outcome.result ≠ .crashed c) :
    ∃ k, fireAndRecord w net state transition n = .ok outcome k ∧ k.link = m.link ∧
      k.process.books = m.process.books ∧ ∀ v hand, k.process.scene v hand =
        (m.process.scene v hand).setActive w net (some outcome.state) := by
  obtain ⟨k, hrun | ⟨c, hresult, -⟩, hrest⟩ := fireAndRecord_cases hw hperform
  · exact ⟨k, hrun, hrest⟩
  · exact absurd hresult (hend c)

end Node

end PetriCluster
