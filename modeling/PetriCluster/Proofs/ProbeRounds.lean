import PetriCluster.Proofs.OpenMail
import PetriCluster.Proofs.WaveHistory

/-!
# A wave in a cluster at rest

A cluster in which nothing is left to do is asked by its coordinator whether that is so. All that
happens then is that probes go out, that every process answers, and that the coordinator takes the
answers in, whatever the order.
-/

namespace PetriCluster

variable {n : Nat} {σ : Type} {i j z : Fin n} {p q : Process σ} {mail : Fin n → List Packet}

/-! ## Answers to a probe -/

/-- Nothing is left to do in a process. -/
structure Process.Idle (p : Process σ) : Prop where
  drained : p.registry.isDrained = true
  owed : p.obligations = 0

/-- What an idle process answers. -/
def Process.idleAnswer (p : Process σ) : ProbeSnapshot := p.termination.snapshot true

namespace Node

variable {node : Node σ Mailbox.Link}

theorem Faces.snapshot (h : node.Faces i p mail) (hidle : p.Idle) (hmail : mail i = []) :
    snapshot node = .ok p.idleAnswer node := by
  have hqueue : node.link.hub.queue node.link.endpoint.process = [] := by
    rw [h.name]
    exact (congrFun h.mail i).trans hmail
  have hinbound : Transport.hasInbound node.link = false := by
    simp [Transport.hasInbound, Transport.backlog, hqueue]
  have hfinds : (node.process.registry.isDrained && node.process.obligations == 0 &&
      !Transport.hasInbound node.link) = true := by
    simp [h.process, hidle.drained, hidle.owed, hinbound]
  have hasks : isIdle node = .ok true node := congrArg (EStateM.Result.ok · node) hfinds
  simp only [Node.snapshot, bind_apply, getProcess_apply, hasks, pure_apply]
  rw [h.process, Process.idleAnswer]

theorem Faces.answers (h : node.Faces i p mail) (hn : n < IdSource.wordSize)
    (hz : ProcessId.at z = ⟨0⟩) (hi : i ≠ z) (hid : p.id = .at i) (hidle : p.Idle)
    (hgoing : p.quitting = false) (hmail : mail i = []) (wave : UInt64) :
    ∃ link, answerProbe wave node = .ok () { node with link } ∧
      ({ node with link } : Node σ Mailbox.Link).Faces i p (Function.update mail z (mail z ++
        [(ControlMessage.probeReply wave (.at i) p.idleAnswer).toPacket (.at i)])) := by
  let reply : ControlMessage := .probeReply wave (.at i) p.idleAnswer
  have hwork : reply.isWork = false := rfl
  obtain ⟨link, hrun, hfaces⟩ := h.sends hn hid hi.symm hwork
  refine ⟨link, ?_, hfaces⟩
  have hquitting : node.process.quitting = false := by rw [h.process, hgoing]
  have hself : node.process.id = .at i := by rw [h.process, hid]
  rw [hz] at hrun
  simp only [answerProbe, bind_apply, isQuitting_apply, hquitting, Bool.false_eq_true, if_false,
    h.snapshot hidle hmail, getProcess_apply, hself]
  exact hrun

end Node

/-! ## The answers of a wave -/

/-- The probe of a wave. -/
def probePacket (wave : Nat) : Packet := (ControlMessage.probe (UInt64.ofNat wave)).toPacket ⟨0⟩

/-- The answer of a process to the probe of a wave. -/
def answerPacket (wave : Nat) (answers : Fin n → ProbeSnapshot) (i : Fin n) : Packet :=
  (ControlMessage.probeReply (UInt64.ofNat wave) (.at i) (answers i)).toPacket (.at i)

/-- The processes in the list have answered in this order, and the others have the probe waiting. -/
structure Answering (z : Fin n) (wave : Nat) (answers : Fin n → ProbeSnapshot) (done : List (Fin n))
    (mail : Fin n → List Packet) : Prop where
  nodup : done.Nodup
  others : z ∉ done
  replies : mail z = done.map (answerPacket wave answers)
  probes : ∀ i, i ≠ z → mail i = if i ∈ done then [] else [probePacket wave]

namespace Answering

variable {wave : Nat} {answers : Fin n → ProbeSnapshot} {done : List (Fin n)}

section

variable (h : Answering z wave answers done mail)

include h

theorem of_cons (hi : i ≠ z) {packet : Packet}
    {rest : List Packet} (hmail : mail i = packet :: rest) :
    i ∉ done ∧ packet = probePacket wave ∧ rest = [] := by
  rw [h.probes i hi] at hmail
  split at hmail
  · cases hmail
  · rename_i hnot
    cases hmail
    exact ⟨hnot, rfl, rfl⟩

theorem answer (hi : i ≠ z) (hnot : i ∉ done) :
    Answering z wave answers (done ++ [i])
      (Function.update (Function.update mail i []) z (mail z ++ [answerPacket wave answers i])) where
  nodup := by
    rw [List.nodup_append]
    simpa using ⟨h.nodup, fun k hk heq => hnot (heq ▸ hk)⟩
  others := by simpa using ⟨h.others, hi.symm⟩
  replies := by simp [h.replies]
  probes k hk := by
    rw [Function.update_of_ne hk]
    by_cases hki : k = i
    · subst hki
      simp
    · rw [Function.update_of_ne hki, h.probes k hk]
      simp [hki]

theorem mem_iff (hempty : ∀ k, k ≠ z → mail k = []) :
    i ∈ done ↔ i ≠ z := by
  constructor
  · rintro hmem rfl
    exact h.others hmem
  · intro hi
    by_contra hnot
    have hprobe := h.probes i hi
    simp [hempty i hi, hnot] at hprobe

end

end Answering

/-- The coordinator has the answers of all processes but those in the list. -/
structure Awaits (answers : Fin n → ProbeSnapshot) (left : List (Fin n))
    (replies : OrderedMap ProcessId ProbeSnapshot) : Prop where
  nodup : left.Nodup
  find : ∀ i, replies.find? (.at i) = if i ∈ left then none else some (answers i)
  keys : ∀ q, replies.find? q ≠ none → ∃ i : Fin n, q = .at i

namespace Awaits

variable {answers : Fin n → ProbeSnapshot} {left : List (Fin n)}
  {replies : OrderedMap ProcessId ProbeSnapshot}

theorem insert (h : Awaits answers (i :: left) replies) (hn : n < IdSource.wordSize) :
    Awaits answers left (replies.insert (.at i) (answers i)) where
  nodup := (List.nodup_cons.mp h.nodup).2
  find k := by
    have hnot := (List.nodup_cons.mp h.nodup).1
    by_cases hk : k = i
    · subst hk
      simp [hnot]
    · have hne : ProcessId.at i ≠ ProcessId.at k := fun e => hk (ProcessId.at_inj hn e).symm
      rw [OrderedMap.find?_insert_of_ne _ hne, h.find]
      simp [hk]
  keys q hq := by
    by_cases heq : q = .at i
    · exact ⟨i, heq⟩
    · rw [OrderedMap.find?_insert_of_ne _ (Ne.symm heq)] at hq
      exact h.keys q hq

theorem own (hn : n < IdSource.wordSize) (hnodup : left.Nodup) (hleft : ∀ i, i ∈ left ↔ i ≠ z) :
    Awaits answers left (OrderedMap.empty.insert (.at z) (answers z)) := by
  have hnone : Awaits answers (z :: left) OrderedMap.empty := by
    refine ⟨List.nodup_cons.mpr ⟨by simp [hleft], hnodup⟩, fun i => ?_, by simp⟩
    by_cases hi : i = z <;> simp [hleft, hi]
  exact hnone.insert hn

theorem size_eq_iff (h : Awaits answers left replies) (hn : n < IdSource.wordSize) :
    replies.size = n ↔ left = [] := by
  rw [OrderedMap.size_eq_iff hn h.keys, List.eq_nil_iff_forall_not_mem]
  refine forall_congr' fun i => ?_
  rw [h.find]
  split <;> simp_all

theorem totals_eq (h : Awaits answers [] replies) (hn : n < IdSource.wordSize) :
    WaveTotals.sum replies.values = .of answers :=
  OrderedMap.totals_values hn h.keys fun i => by simp [h.find]

end Awaits

/-! ## The coordinator -/

namespace Termination

/-- The counters after a wave has begun. -/
def begun (t : Termination) (now : Nat) : Termination :=
  { t with nextWave := t.nextWave + 1, lastProbe := some now }

/-- The counters after a wave has ended. -/
def concluded (t : Termination) (totals : WaveTotals) : Termination :=
  { t with current := none, completed := t.completed + 1, previous := some totals }

variable {t : Termination} {wave : Nat} {answers : Fin n → ProbeSnapshot} {left : List (Fin n)}
  {replies : OrderedMap ProcessId ProbeSnapshot}

theorem onReply_pending (hn : n < IdSource.wordSize) (hcount : t.processCount = n)
    (hawaits : Awaits answers (i :: left) replies) (hleft : left ≠ []) :
    { t with current := some ⟨wave, replies⟩ }.onReply wave (.at i) (answers i) =
      (.ok .pending, { t with current := some ⟨wave, replies.insert (.at i) (answers i)⟩ }) := by
  have hsize : (replies.insert (.at i) (answers i)).size ≠ t.processCount := by
    rw [hcount, Ne, (hawaits.insert hn).size_eq_iff hn]
    exact hleft
  simp [onReply, hsize]

theorem onReply_last (hn : n < IdSource.wordSize) (hcount : t.processCount = n)
    (hawaits : Awaits answers [i] replies) (hfits : (WaveTotals.of answers).fits = true) :
    { t with current := some ⟨wave, replies⟩ }.onReply wave (.at i) (answers i) =
      (.ok (verdict t.previous (.of answers)), t.concluded (.of answers)) := by
  have hlast := hawaits.insert hn
  have hsize : (replies.insert (.at i) (answers i)).size = t.processCount := by
    rw [hcount, hlast.size_eq_iff hn]
  simp [onReply, hsize, hlast.totals_eq hn, hfits, concluded]

end Termination

namespace Node

variable {node : Node σ Mailbox.Link}

theorem Faces.tick_eq (h : node.Faces i p mail) (hmail : mail i = []) (hidle : p.Idle)
    (hcount : p.processCount ≠ 1) (hgoing : p.quitting = false)
    (hauto : p.settings.autohalt = true) (hcoordinator : p.termination.isCoordinator = true) :
    tick node = probe p.idleAnswer node := by
  have hsnapshot := h.snapshot hidle hmail
  obtain ⟨rfl, -⟩ := h
  have hopen : node.process.settings.autohalt = true ∧ ¬ node.process.quitting = true :=
    ⟨hauto, by simp [hgoing]⟩
  have hown : node.process.idleAnswer.idle = true := rfl
  simp only [tick, bind_apply, getProcess_apply]
  rw [if_pos hopen, bind_apply, hsnapshot]
  simp only
  rw [if_pos hown, if_neg hcount, if_pos hcoordinator]

theorem Faces.asks (h : node.Faces z p fun _ => []) (hn : n < IdSource.wordSize)
    (hmany : 2 ≤ n) (hz : ProcessId.at z = ⟨0⟩) (hid : p.id = .at z) (hcount : p.processCount = n)
    (hidle : p.Idle) (hgoing : p.quitting = false) (hauto : p.settings.autohalt = true)
    (hmay : p.termination.mayProbe node.now = true) :
    ∃ m, tick node = .ok () m ∧ m.Faces z
      { p with termination := { p.termination.begun node.now with
        current := some ⟨p.termination.nextWave,
          OrderedMap.empty.insert p.termination.process p.idleAnswer⟩ } }
      fun k => if k = z then [] else [probePacket p.termination.nextWave] := by
  have hcoordinator : p.termination.isCoordinator = true := by
    simp only [Termination.mayProbe, Bool.and_eq_true] at hmay
    exact hmay.1.1.1
  let started : Termination := { p.termination.begun node.now with
    current := some ⟨p.termination.nextWave,
      OrderedMap.empty.insert p.termination.process p.idleAnswer⟩ }
  have hbegin : p.termination.beginWave p.idleAnswer node.now =
      (some p.termination.nextWave, started) := by
    simp [Termination.beginWave, hmay, started, Termination.begun]
  have hbegun := h.setProcess { p with termination := started }
  obtain ⟨report, link, hrun, hfaces⟩ := hbegun.tells hn hid hcount
    (show (ControlMessage.probe (UInt64.ofNat p.termination.nextWave)).isWork = false from rfl)
  refine ⟨_, ?_, by simpa [probePacket, ← hz] using hfaces⟩
  rw [h.tick_eq rfl hidle (by omega) hgoing hauto hcoordinator]
  obtain ⟨rfl, -⟩ := h
  simp only [probe, bind_apply, get_apply, hbegin, modifyProcess_apply, hrun]
  rfl

theorem Faces.collects [NetBehaviour σ] (h : node.Faces z p mail) {wave : Nat}
    (hwave : wave < UInt64.size) (hcoordinator : p.termination.isCoordinator = true)
    {answers : Fin n → ProbeSnapshot} {verdict : Verdict} {t : Termination}
    (hreply : p.termination.onReply wave (.at i) (answers i) = (.ok verdict, t)) :
    dispatch (answerPacket wave answers i) node =
      (match verdict with
        | .quiescent _ => quitAll
        | _ => pure ()) { node with process := { p with termination := t } } := by
  obtain ⟨rfl, -⟩ := h
  have hround : (UInt64.ofNat wave).toNat = wave := UInt64.toNat_ofNat_of_lt' hwave
  rw [answerPacket, dispatch_toPacket]
  simp only [handleControl, collectReply, bind_apply, getProcess_apply, hcoordinator, if_true, hround,
    hreply, modifyProcess_apply]
  cases verdict <;> rfl

/-- Whoever ends the run has said so and leaves its own mailbox alone. -/
theorem Faces.quits (h : node.Faces i p mail) (hn : n < IdSource.wordSize) (hmail : mail i = []) :
    ∃ m q mail', quitAll node = .ok () m ∧ m.Faces i q mail' ∧ q.quitting = true ∧
      q.quitSent = true ∧ mail' i = [] := by
  obtain ⟨link, ws, hrun, -, hwired⟩ := quitAll_farewell ⟨0⟩ [] node
  obtain ⟨mail', hfaces, hexchange⟩ := h.wired hn hwired
  have hown := hexchange.mail_own hn
  rw [hmail] at hown
  exact ⟨_, _, mail', hrun, hfaces.setProcess _, rfl, rfl, (List.append_eq_nil_iff.mp hown.symm).2⟩

end Node

/-- The coordinator and the mailboxes while it takes in the answers of a wave; `p` is the coordinator as
it was when the wave started, but for the answers. -/
inductive Collecting (z : Fin n) (wave : Nat) (answers : Fin n → ProbeSnapshot) (p : Process σ) :
    Process σ → (Fin n → List Packet) → Prop
  | waiting {left : List (Fin n)} {replies : OrderedMap ProcessId ProbeSnapshot} : left ≠ [] →
      Awaits answers left replies →
      Collecting z wave answers p
        { p with termination := { p.termination with current := some ⟨wave, replies⟩ } }
        fun k => if k = z then left.map (answerPacket wave answers) else []
  | ongoing : Termination.verdict p.termination.previous (.of answers) = .ongoing (.of answers) →
      Collecting z wave answers p
        { p with termination := p.termination.concluded (.of answers) } fun _ => []
  | quiescent {q : Process σ} {mail : Fin n → List Packet} :
      Termination.verdict p.termination.previous (.of answers) = .quiescent (.of answers) →
      q.quitting = true → q.quitSent = true → mail z = [] → Collecting z wave answers p q mail

namespace Collecting

variable [NetBehaviour σ] {wave : Nat} {answers : Fin n → ProbeSnapshot}
  {node : Node σ Mailbox.Link} {packet : Packet} {rest : List Packet}

section Step

variable (hn : n < IdSource.wordSize) (hwave : wave < UInt64.size)
  (hcoordinator : p.termination.isCoordinator = true) (hcount : p.termination.processCount = n)

include hn hwave hcoordinator hcount

theorem more {left : List (Fin n)} {replies : OrderedMap ProcessId ProbeSnapshot}
    (hawaits : Awaits answers (i :: left) replies) (hleft : left ≠ [])
    (hfaces : node.Faces z
      { p with termination := { p.termination with current := some ⟨wave, replies⟩ } }
      fun k => if k = z then left.map (answerPacket wave answers) else []) :
    ∃ m q' mail', Node.dispatch (answerPacket wave answers i) node = .ok () m ∧ m.Faces z q' mail' ∧
      Collecting z wave answers p q' mail' := by
  have hreply : { p.termination with current := some ⟨wave, replies⟩ }.onReply wave (.at i) (answers i) =
      (.ok .pending, _) := Termination.onReply_pending hn hcount hawaits hleft
  refine ⟨_, _, _, hfaces.collects hwave hcoordinator hreply, hfaces.setProcess _, ?_⟩
  exact .waiting hleft (hawaits.insert hn)

theorem last (hfits : (WaveTotals.of answers).fits = true)
    {replies : OrderedMap ProcessId ProbeSnapshot} (hawaits : Awaits answers [i] replies)
    (hfaces : node.Faces z
      { p with termination := { p.termination with current := some ⟨wave, replies⟩ } } fun _ => []) :
    ∃ m q' mail', Node.dispatch (answerPacket wave answers i) node = .ok () m ∧ m.Faces z q' mail' ∧
      Collecting z wave answers p q' mail' := by
  have hreply : { p.termination with current := some ⟨wave, replies⟩ }.onReply wave (.at i) (answers i) =
      (.ok _, _) := Termination.onReply_last hn hcount hawaits hfits
  have hrun := hfaces.collects hwave hcoordinator hreply
  have hnoted := hfaces.setProcess { p with termination := p.termination.concluded (.of answers) }
  rw [hrun]
  by_cases hagree : (WaveTotals.of answers).balanced && p.termination.previous == some (.of answers)
  · have hverdict : Termination.verdict p.termination.previous (.of answers) =
        .quiescent (.of answers) := if_pos hagree
    obtain ⟨m, q', mail', hquit, hm, hquitting, hsent, hempty⟩ := hnoted.quits hn rfl
    refine ⟨m, q', mail', ?_, hm, .quiescent hverdict hquitting hsent hempty⟩
    rw [hverdict]
    exact hquit
  · have hverdict : Termination.verdict p.termination.previous (.of answers) =
        .ongoing (.of answers) := if_neg hagree
    refine ⟨_, _, _, ?_, hnoted, .ongoing hverdict⟩
    rw [hverdict]
    rfl

theorem step (hfits : (WaveTotals.of answers).fits = true) (h : Collecting z wave answers p q mail)
    (hmail : mail z = packet :: rest) (hfaces : node.Faces z q (Function.update mail z rest)) :
    ∃ m q' mail', Node.dispatch packet node = .ok () m ∧ m.Faces z q' mail' ∧
      Collecting z wave answers p q' mail' := by
  cases h with
  | ongoing => cases hmail
  | quiescent _ _ _ hempty => simp [hempty] at hmail
  | @waiting left replies hleft hawaits =>
    cases left with
    | nil => exact absurd rfl hleft
    | cons i left =>
      simp only [if_true, List.map_cons, List.cons.injEq] at hmail
      obtain ⟨rfl, rfl⟩ := hmail
      have hrest : (Function.update (fun k => if k = z then
          (i :: left).map (answerPacket wave answers) else []) z
          (left.map (answerPacket wave answers))) =
          fun k => if k = z then left.map (answerPacket wave answers) else [] := by
        funext k
        by_cases hk : k = z <;> simp [hk]
      rw [hrest] at hfaces
      by_cases hlast : left = []
      · subst hlast
        simp only [List.map_nil, ite_self] at hfaces
        exact last hn hwave hcoordinator hcount hfits hawaits hfaces
      · exact more hn hwave hcoordinator hcount hawaits hlast hfaces

end Step

end Collecting

/-! ## Rounds -/

/-- Nothing is left to do in any process of a cluster that ends its run by itself, and no wave is under
way at its coordinator `z`. -/
structure Calm (z : Fin n) (p : Fin n → Process σ) : Prop where
  id : ∀ i, (p i).id = .at i
  count : ∀ i, (p i).processCount = n
  idle : ∀ i, (p i).Idle
  going : ∀ i, (p i).quitting = false
  autohalt : (p z).settings.autohalt = true
  process : (p z).termination.process = .at z
  processCount : (p z).termination.processCount = n
  resting : (p z).termination.current = none

/-- What all processes answer when nothing is left to do. -/
def idleAnswers (p : Fin n → Process σ) (i : Fin n) : ProbeSnapshot := (p i).idleAnswer

namespace Cluster

variable [NetBehaviour σ]

/-- A round of the search for the end of all work. -/
structure Round (σ : Type) where
  now : Nat
  answers : List (Order σ)
  collects : List (Order σ)

namespace Round

variable (r : Round σ)

/-- Process 0 is to see whether the run can end. -/
def asks : Order σ := ⟨0, .act (.operation .tick), r.now⟩

/-- The orders of a round in sequence. -/
def orders : List (Order σ) := r.asks :: (r.answers ++ r.collects)

/-- When the round starts, the time between two waves has passed. In it the others take in what is in
their mailboxes, in any order, and then process 0 what is in its own. -/
@[mk_iff]
structure Completes (c : Cluster σ) : Prop where
  due : ∀ m ∈ c.members[0]?, ∀ last ∈ m.process.termination.lastProbe,
    m.process.termination.probeInterval ≤ r.now - last
  others : ∀ order ∈ r.answers, order.takesIn = true ∧ order.process ≠ 0
  own : ∀ order ∈ r.collects, order.takesIn = true ∧ order.process = 0
  answered : ∀ b ∈ ((r.asks :: r.answers).foldl Cluster.obey c).hub.boxes.tail, b.queue = []
  collected : (r.orders.foldl Cluster.obey c).hub.queue ⟨0⟩ = []

/-- Whether the round is carried through, to be computed. -/
def completes (c : Cluster σ) : Bool :=
  (c.members[0]?.all fun m => m.process.termination.lastProbe.all fun last =>
      decide (m.process.termination.probeInterval ≤ r.now - last)) &&
    (r.answers.all fun order => order.takesIn && order.process != 0) &&
    (r.collects.all fun order => order.takesIn && order.process == 0) &&
    ((r.asks :: r.answers).foldl Cluster.obey c).hub.boxes.tail.all (·.queue.isEmpty) &&
    ((r.orders.foldl Cluster.obey c).hub.queue ⟨0⟩).isEmpty

theorem completes_eq_true {c : Cluster σ} : r.completes c = true ↔ r.Completes c := by
  simp [completes, completes_iff, Option.all_eq_true, and_assoc]

end Round

variable {c : Cluster σ} {p : Fin n → Process σ} {s : Process σ} {wave : Nat} {done : List (Fin n)}

section

variable (h : c.Comprises (Function.update p z s) mail)

include h

theorem Comprises.answer (hn : n < IdSource.wordSize)
    (hz : ProcessId.at z = ⟨0⟩) (hcalm : Calm z p)
    (hanswering : Answering z wave (idleAnswers p) done mail) {order : Order σ}
    (hintake : order.takesIn = true) (hi : order.process = i.val) (hother : i ≠ z) :
    ∃ done mail', (c.obey order).Comprises (Function.update p z s) mail' ∧
      Answering z wave (idleAnswers p) done mail' := by
  have hself : Function.update p z s i = p i := Function.update_of_ne hother ..
  let I (q : Process σ) (mail : Fin n → List Packet) : Prop :=
    q = p i ∧ ∃ done, Answering z wave (idleAnswers p) done mail
  have hstep {node : Node σ Mailbox.Link} {q : Process σ} {mail : Fin n → List Packet}
      {packet : Packet} {rest : List Packet} (hI : I q mail) (hmail : mail i = packet :: rest)
      (hfaces : node.Faces i q (Function.update mail i rest)) :
      ∃ m q' mail', Node.dispatch packet node = .ok () m ∧ m.Faces i q' mail' ∧ I q' mail' := by
    obtain ⟨rfl, done, hdone⟩ := hI
    obtain ⟨hnot, rfl, rfl⟩ := hdone.of_cons hother hmail
    obtain ⟨link, hrun, hfaces⟩ := hfaces.answers hn hz hother (hcalm.id i) (hcalm.idle i)
      (hcalm.going i) (Function.update_self ..) (UInt64.ofNat wave)
    rw [Function.update_of_ne hother.symm] at hfaces
    refine ⟨_, _, _, ?_, hfaces, rfl, _, hdone.answer hother hnot⟩
    rw [probePacket, Node.dispatch_toPacket]
    exact hrun
  obtain ⟨q, mail', hc, rfl, done, hdone⟩ :=
    h.takeIn hn hintake hi (I := I) ⟨hself, done, hanswering⟩ hstep
  rw [← hself, Function.update_eq_self] at hc
  exact ⟨done, mail', hc, hdone⟩

/-- All idle processes answer the probe, one after the other. -/
theorem Comprises.answers (hn : n < IdSource.wordSize)
    (hz : z.val = 0) (hcalm : Calm z p) (hanswering : Answering z wave (idleAnswers p) done mail)
    {orders : List (Order σ)}
    (horders : ∀ order ∈ orders, order.takesIn = true ∧ order.process ≠ 0) :
    ∃ done mail', (orders.foldl Cluster.obey c).Comprises (Function.update p z s) mail' ∧
      Answering z wave (idleAnswers p) done mail' := by
  have hzero : ProcessId.at z = ⟨0⟩ := congrArg ProcessId.ofIndex hz
  induction orders generalizing c mail done with
  | nil => exact ⟨done, mail, h, hanswering⟩
  | cons order rest ih =>
    obtain ⟨hintake, hother⟩ := horders order (List.mem_cons_self ..)
    have hrest : ∀ order ∈ rest, order.takesIn = true ∧ order.process ≠ 0 :=
      fun o ho => horders o (List.mem_cons_of_mem _ ho)
    rw [List.foldl_cons]
    by_cases hlt : order.process < n
    · have hne : (⟨order.process, hlt⟩ : Fin n) ≠ z := fun e => hother (hz ▸ congrArg Fin.val e)
      obtain ⟨done, mail', hc, hdone⟩ := h.answer hn hzero hcalm hanswering hintake
        (i := ⟨order.process, hlt⟩) rfl hne
      exact ih hc hdone hrest
    · rw [h.obey_of_le (Nat.not_lt.mp hlt)]
      exact ih h hanswering hrest

/-- The coordinator takes the answers in; with the last one the wave is over. -/
theorem Comprises.collects (hn : n < IdSource.wordSize)
    (hz : z.val = 0) {start : Process σ} {answers : Fin n → ProbeSnapshot} (hwave : wave < UInt64.size)
    (hcoordinator : start.termination.isCoordinator = true)
    (hcount : start.termination.processCount = n) (hfits : (WaveTotals.of answers).fits = true)
    (hcollecting : Collecting z wave answers start s mail) {orders : List (Order σ)}
    (horders : ∀ order ∈ orders, order.takesIn = true ∧ order.process = 0) :
    ∃ q mail', (orders.foldl Cluster.obey c).Comprises (Function.update p z q) mail' ∧
      Collecting z wave answers start q mail' := by
  induction orders generalizing c mail s with
  | nil => exact ⟨s, mail, h, hcollecting⟩
  | cons order rest ih =>
    obtain ⟨hintake, hzero⟩ := horders order (List.mem_cons_self ..)
    have hself : Function.update p z s z = s := Function.update_self ..
    obtain ⟨q, mail', hc, hq⟩ := h.takeIn hn hintake (hzero.trans hz.symm)
      (I := Collecting z wave answers start) (hself.symm ▸ hcollecting)
      (Collecting.step hn hwave hcoordinator hcount hfits)
    rw [Function.update_idem] at hc
    exact ih hc hq fun o ho => horders o (List.mem_cons_of_mem _ ho)

end

section Round

variable (h : c.Comprises p fun _ => []) (hn : n < IdSource.wordSize) (hmany : 2 ≤ n)
  (hz : z.val = 0) (hcalm : Calm z p) {r : Round σ} (hr : r.Completes c)

include h hn hmany hz hcalm hr

theorem Comprises.asked : (c.obey r.asks).Comprises
    (Function.update p z { p z with termination := { (p z).termination.begun r.now with
      current := some ⟨(p z).termination.nextWave,
        OrderedMap.empty.insert (.at z) (idleAnswers p z)⟩ } })
    fun k => if k = z then [] else [probePacket (p z).termination.nextWave] := by
  have hzero : ProcessId.at z = ⟨0⟩ := congrArg ProcessId.ofIndex hz
  obtain ⟨node, hfaces, hnow, hobey⟩ := h.obey (show r.asks.process = z.val from hz.symm)
  have hmay : (p z).termination.mayProbe node.now = true := by
    have hlt : z.val < c.members.length := h.count ▸ z.isLt
    have hm := List.getElem?_eq_getElem hlt
    have hdue := hr.due c.members[z.val] (by rw [← hz, hm]; rfl)
    rw [(h.member z _ hm).1] at hdue
    have hready : ((p z).termination.isCoordinator && decide (2 ≤ (p z).termination.processCount) &&
        (p z).termination.current.isNone) = true := by
      simp [Termination.isCoordinator, hcalm.process, hzero, hcalm.processCount, hmany, hcalm.resting]
    rw [hnow, Termination.mayProbe, hready, Bool.true_and]
    split
    · rfl
    · rename_i last hlast
      exact decide_eq_true (hdue last hlast)
  obtain ⟨m, hrun, hm⟩ := hfaces.asks hn hmany hzero (hcalm.id z) (hcalm.count z) (hcalm.idle z)
    (hcalm.going z) hcalm.autohalt hmay
  have hfinal : Node.final (r.asks.command.run node) = m := by
    show Node.final (Node.tick node) = m
    rw [hrun]
    rfl
  rw [hcalm.process, hnow] at hm
  exact hobey (hfinal ▸ hm)

/-- What a round comes to when nothing is left to do: either the totals of this wave are those of the
wave before and show it, and the run ends, or the coordinator remembers them and all is as before. -/
theorem Comprises.round (hwave : (p z).termination.nextWave < UInt64.size)
    (hfits : (WaveTotals.of (idleAnswers p)).fits = true) :
    ∃ q mail, (r.orders.foldl Cluster.obey c).Comprises (Function.update p z q) mail ∧
      (Termination.verdict (p z).termination.previous (.of (idleAnswers p)) =
          .ongoing (.of (idleAnswers p)) ∧
        q = { p z with termination :=
          ((p z).termination.begun r.now).concluded (.of (idleAnswers p)) } ∧
        mail = (fun _ => []) ∨
      Termination.verdict (p z).termination.previous (.of (idleAnswers p)) =
          .quiescent (.of (idleAnswers p)) ∧ q.quitting = true ∧ q.quitSent = true) := by
  have hzero : ProcessId.at z = ⟨0⟩ := congrArg ProcessId.ofIndex hz
  have hfirst : Answering z (p z).termination.nextWave (idleAnswers p) []
      fun k => if k = z then [] else [probePacket (p z).termination.nextWave] := by
    refine ⟨.nil, by simp, by simp, fun i hi => ?_⟩
    simp [hi]
  obtain ⟨done, mail, hc, hdone⟩ :=
    (h.asked hn hmany hz hcalm hr).answers hn hz hcalm hfirst hr.others
  -- the others have taken in all that was in their mailboxes, so all of them have answered
  have hempty k (hk : k ≠ z) : mail k = [] := by
    have hpos : k.val ≠ 0 := fun e => hk (Fin.ext (e.trans hz.symm))
    obtain ⟨j, hj⟩ := Nat.exists_eq_succ_of_ne_zero hpos
    rw [← hc.mail]
    refine Mailbox.Hub.mail_eq_nil hn fun b hb => hr.answered b ?_
    rw [hj, ← List.getElem?_tail] at hb
    exact List.mem_of_getElem? hb
  have hall i : i ∈ done ↔ i ≠ z := hdone.mem_iff hempty
  have hmail : mail = fun k => if k = z then
      done.map (answerPacket (p z).termination.nextWave (idleAnswers p)) else [] := by
    funext k
    by_cases hk : k = z
    · subst hk
      simp [hdone.replies]
    · simp [hk, hempty k hk]
  have hsome : done ≠ [] := by
    have hother : (⟨1, hmany⟩ : Fin n) ≠ z := fun e => absurd (congrArg Fin.val e) (by simp [hz])
    exact List.ne_nil_of_mem ((hall _).mpr hother)
  subst hmail
  let start : Process σ := { p z with termination := (p z).termination.begun r.now }
  have hawaits : Awaits (idleAnswers p) done
      (OrderedMap.empty.insert (.at z) (idleAnswers p z)) := .own hn hdone.nodup hall
  have hcollecting : Collecting z (p z).termination.nextWave (idleAnswers p) start _ _ :=
    .waiting hsome hawaits
  have hcoordinator : start.termination.isCoordinator = true := by
    simp [start, Termination.isCoordinator, Termination.begun, hcalm.process, hzero]
  obtain ⟨q, mail', hend, hq⟩ :=
    hc.collects hn hz hwave hcoordinator hcalm.processCount hfits hcollecting hr.own
  have horders : r.orders.foldl Cluster.obey c =
      r.collects.foldl Cluster.obey (r.answers.foldl Cluster.obey (c.obey r.asks)) := by
    simp [Round.orders, List.foldl_append]
  have hcollected : mail' z = [] := by
    rw [← hend.mail, ← horders, Mailbox.Hub.mail, hzero]
    exact hr.collected
  rw [horders]
  refine ⟨q, mail', hend, ?_⟩
  cases hq with
  | waiting hleft => simp [hleft] at hcollected
  | ongoing hverdict => exact .inl ⟨hverdict, rfl, rfl⟩
  | quiescent hverdict hquitting hsent => exact .inr ⟨hverdict, hquitting, hsent⟩

end Round

end Cluster

end PetriCluster
