import PetriCluster.Proofs.WorkCounts

/-!
# Probe waves

A process answers a probe with its counters and whether it is idle. An answer may be old when it is
read, but if the process has not taken any work in since then, it is still idle and has sent nothing
since (`Faithful`).
-/

namespace PetriCluster

variable {naming open_ : Prop}

namespace Packet

/-- The packet is a probe or the answer to one. -/
def isProbing (p : Packet) : Bool :=
  match p.message? with
  | some (.probe _) | some (.probeReply ..) => true
  | _ => false

end Packet

namespace WaveTotals

theorem foldl_add (answers : List ProbeSnapshot) (t : WaveTotals) :
    answers.foldl add t = ⟨t.allIdle && answers.all (·.idle), t.sent + (answers.map (·.sent.toNat)).sum,
      t.received + (answers.map (·.received.toNat)).sum⟩ := by
  induction answers generalizing t with
  | nil => simp
  | cons a rest ih => simp [ih, add, Bool.and_assoc, Nat.add_assoc]

theorem sum_eq (answers : List ProbeSnapshot) :
    sum answers = ⟨answers.all (·.idle), (answers.map (·.sent.toNat)).sum,
      (answers.map (·.received.toNat)).sum⟩ := by
  simp [sum, foldl_add, zero]

end WaveTotals

namespace OrderedMap

/-- If there are as many entries as processes, and all are of processes of the cluster, then every
process has one, and what is summed over the entries is summed over the processes. -/
theorem sum_values {n : Nat} (hn : n < IdSource.wordSize) (m : OrderedMap ProcessId ProbeSnapshot)
    (hkeys : ∀ e ∈ m.entries, ∃ i : Fin n, e.1 = .at i) (hsize : m.size = n) :
    ∃ snap : Fin n → ProbeSnapshot, (∀ i, m.find? (.at i) = some (snap i) ∧ snap i ∈ m.values) ∧
      ∀ g : ProbeSnapshot → Nat, (m.values.map g).sum = ∑ i, g (snap i) := by
  have hnodup : (m.entries.map (·.1.index)).Nodup := by
    refine List.pairwise_map.mpr (m.ordered.imp fun hlt heq => ?_)
    rw [ProcessId.index_inj heq] at hlt
    exact Nat.lt_irrefl _ hlt
  have hrange : (m.entries.map (·.1.index)).toFinset = Finset.range n := by
    refine Finset.eq_of_subset_of_card_le (fun k hk => ?_) ?_
    · obtain ⟨e, he, rfl⟩ := List.mem_map.mp (List.mem_toFinset.mp hk)
      obtain ⟨i, hi⟩ := hkeys e he
      rw [hi, ProcessId.index_at hn]
      exact Finset.mem_range.mpr i.isLt
    · rw [Finset.card_range, List.toFinset_card_of_nodup hnodup, List.length_map]
      exact hsize.ge
  have hfind (i : Fin n) : ∃ a, m.find? (.at i) = some a ∧ a ∈ m.values := by
    have hmem : i.val ∈ (m.entries.map (·.1.index)).toFinset := hrange ▸ Finset.mem_range.mpr i.isLt
    obtain ⟨e, he, heq⟩ := List.mem_map.mp (List.mem_toFinset.mp hmem)
    have hkey : ProcessId.at i = e.1 := ProcessId.index_inj ((ProcessId.index_at hn i).trans heq.symm)
    exact ⟨e.2, hkey ▸ m.find?_of_mem he, List.mem_map_of_mem he⟩
  choose snap hsnap using hfind
  refine ⟨snap, hsnap, fun g => ?_⟩
  let value (k : Nat) : Nat := ((m.find? (.ofIndex k)).map g).getD 0
  have hentry : ∀ e ∈ m.entries, value e.1.index = g e.2 := by
    intro e he
    obtain ⟨i, hi⟩ := hkeys e he
    have hname : ProcessId.ofIndex e.1.index = e.1 := by
      rw [hi, ProcessId.index_at hn]
      rfl
    simp only [value, hname, m.find?_of_mem he, Option.map_some, Option.getD_some]
  calc (m.values.map g).sum
      = ((m.entries.map (·.1.index)).map value).sum := by
        rw [values, List.map_map, List.map_map]
        exact congrArg List.sum (List.map_congr_left fun e he => (hentry e he).symm)
    _ = ∑ k ∈ Finset.range n, value k := by rw [← hrange, List.sum_toFinset _ hnodup]
    _ = ∑ i : Fin n, value i := Finset.sum_range ..
    _ = ∑ i, g (snap i) := Finset.sum_congr rfl fun i _ => by
        have hname : m.find? (.ofIndex i) = some (snap i) := (hsnap i).1
        simp only [value, hname, Option.map_some, Option.getD_some]

end OrderedMap

namespace Scene

variable {σ : Type} {s t : Scene σ} {ws : List Wire} {events : List TokenEvent}

/-- A step has nothing to do with probe waves; at most it counts work packets. -/
structure Quiet (s : Scene σ) (ws : List Wire) (t : Scene σ) : Prop where
  termination : ∃ sent received, t.termination = { s.termination with sent, received }
  packets : ∀ target packet, Wire.sent target packet ∈ ws → packet.isProbing = false

/-- What a step has to do with probe waves. -/
inductive Probing (s : Scene σ) : List Wire → Scene σ → Prop
  | quiet {ws : List Wire} {t : Scene σ} : Quiet s ws t → Probing s ws t
  | answer {packet : Packet} {wave : UInt64} {idle : Bool} {ws : List Wire} :
      packet.message? = some (.probe wave) → (idle = true → s.Passive) →
      Wire.Single ⟨0⟩
        ((ControlMessage.probeReply wave s.id (s.termination.snapshot idle)).toPacket s.id) ws →
      Probing s (.took packet :: ws) s
  | start {now wave : Nat} {termination : Termination} {ws : List Wire} : s.Passive →
      s.termination.beginWave (s.termination.snapshot true) now = (some wave, termination) →
      Wire.Broadcast ((ControlMessage.probe (UInt64.ofNat wave)).toPacket s.id) s.peers ws →
      Probing s ws (s.setTermination termination)
  | reply {packet : Packet} {wave : UInt64} {sender : ProcessId} {answer : ProbeSnapshot}
      {verdict : Except Crash Verdict} {t : Scene σ} :
      packet.message? = some (.probeReply wave sender answer) → s.termination.isCoordinator = true →
      s.termination.onReply wave.toNat sender answer = (verdict, t.termination) →
      Probing s [.took packet] t

variable [NetBehaviour σ]

theorem Asks.quiet (h : Asks naming s ws events t) : Quiet s ws t := by
  cases h with
  | sendLocal | draw | halt => exact ⟨⟨_, _, rfl⟩, by simp⟩
  | sendRemote | sendRefused => exact ⟨⟨_, _, rfl⟩, by simp [Packet.isProbing]⟩
  | spawn _ _ _ hws =>
    refine ⟨⟨_, _, rfl⟩, fun target packet hmem => ?_⟩
    split at hws
    · obtain rfl : packet = _ := hws.packet_eq _ hmem
      simp [Packet.isProbing]
    · simp [hws] at hmem

omit [NetBehaviour σ] in
theorem Farewell.quiet (h : s.Farewell ws) : Quiet s ws s.quit := by
  refine ⟨⟨_, _, rfl⟩, fun target packet hmem => ?_⟩
  obtain rfl : packet = _ := h.packet_eq _ hmem
  simp [Packet.isProbing]

/-- What a packet does to the waves. -/
theorem Takes.probing {packet : Packet} (h : Takes s packet ws events t) :
    Probing s (.took packet :: ws) t := by
  cases h with
  | haltedBefore _ hsingle =>
    refine .quiet ⟨⟨_, _, rfl⟩, ?_⟩
    rcases hsingle with rfl | rfl <;> simp [Packet.isProbing]
  | @haltAck m =>
    have hsame : (s.countAck m).termination = s.termination := excuse_termination m 1
    exact .quiet ⟨⟨_, _, hsame⟩, by simp⟩
  | probe hdecode hidle hsingle => exact .answer (Packet.message?_eq_some.mpr hdecode) hidle hsingle
  | reply hdecode hcoordinator hreply =>
    exact .reply (Packet.message?_eq_some.mpr hdecode) hcoordinator hreply
  | _ => exact .quiet ⟨⟨_, _, rfl⟩, by simp⟩

theorem Deals.quiet {item : WorkItem σ} {rest : List (WorkItem σ)} (h : Deals s item ws events t) :
    Quiet s ws (t.finish item rest) := by
  cases h with
  | stopCopy _ hsingle =>
    refine ⟨⟨_, _, rfl⟩, ?_⟩
    rcases hsingle with rfl | rfl <;> simp [Packet.isProbing]
  | stopGlobal _ _ _ hcast =>
    refine ⟨⟨_, _, excuse_termination ..⟩, fun target packet hmem => ?_⟩
    obtain rfl : packet = _ := hcast.packet_eq _ hmem
    simp [Packet.isProbing]
  | _ => exact ⟨⟨_, _, rfl⟩, by simp⟩

/-- What a step does to the waves. -/
theorem Step.probing (h : Step naming open_ s ws events t) : Probing s ws t := by
  cases h with
  | ask _ h => exact .quiet h.quiet
  | quit h => exact .quiet h.quiet
  | take h => exact h.probing
  | deal _ h => exact .quiet h.quiet
  | probe hp hbegin hcast => exact .start hp hbegin hcast
  | _ => exact .quiet ⟨⟨_, _, rfl⟩, by simp⟩

theorem Wreck.probing {c : Crash} (h : Wreck naming open_ c s ws t) : Probing s ws t := by
  cases h with
  | overflow hdecode hcoordinator hreply =>
    exact .reply (Packet.message?_eq_some.mpr hdecode) hcoordinator hreply
  | _ => exact .quiet ⟨⟨_, _, rfl⟩, by simp⟩

theorem Request.quiet (h : Request naming s ws events t) : Quiet s ws t := by
  cases h with
  | rest => exact ⟨⟨_, _, rfl⟩, by simp⟩
  | ask h => exact h.quiet
  | quit h => exact h.quiet

theorem RequestWreck.quiet {c : Crash} (h : RequestWreck naming c s ws t) : Quiet s ws t := by
  cases h
  exact ⟨⟨_, _, rfl⟩, by simp⟩

/-- The answer holds what the process had counted at some time, and if the process has not taken any
work in since then, it is as idle as it said and has sent nothing since. -/
structure Faithful (s : Scene σ) (answer : ProbeSnapshot) : Prop where
  received_le : answer.received.toNat ≤ s.termination.received
  idle : answer.idle = true → answer.received.toNat = s.termination.received →
    s.Passive ∧ answer.sent.toNat = s.termination.sent

/-- The counters fit into 64 bits. -/
def Fits (s : Scene σ) : Prop :=
  s.termination.sent < UInt64.size ∧ s.termination.received < UInt64.size

omit [NetBehaviour σ] in
theorem Fits.received_snapshot (h : s.Fits) (idle : Bool) :
    (s.termination.snapshot idle).received.toNat = s.termination.received :=
  UInt64.toNat_ofNat_of_lt h.2

omit [NetBehaviour σ] in
theorem Fits.faithful (h : s.Fits) {idle : Bool} (hidle : idle = true → s.Passive) :
    s.Faithful (s.termination.snapshot idle) where
  received_le := (h.received_snapshot idle).le
  idle hsays _ := ⟨hidle hsays, UInt64.toNat_ofNat_of_lt h.1⟩

theorem Faithful.goes {answer : ProbeSnapshot} (hf : s.Faithful answer)
    (h : (steps True False).Goes s ws events t) (hs : s.Sound) (hb : ∀ net, s.Backed net) :
    t.Faithful answer where
  received_le := by
    have := h.counted.received
    have := hf.received_le
    omega
  idle hsays heq := by
    have hreceived := h.counted.received
    have hle := hf.received_le
    obtain ⟨hp, hsent⟩ := hf.idle hsays (by omega)
    obtain ⟨hp', hsame⟩ := h.passive hs hb hp (by omega)
    exact ⟨hp', hsent.trans hsame.symm⟩

end Scene

namespace Rules.Goes

open Scene

variable {σ : Type} [NetBehaviour σ] {s t : Scene σ} {ws : List Wire} {events : List TokenEvent}

theorem probing (h : (steps naming open_).Goes s ws events t) : Probing s ws t := by
  cases h with
  | step h => exact Step.probing h
  | wreck h => exact Wreck.probing h

theorem quiet (h : (requests True).Goes s ws events t) : Quiet s ws t := by
  cases h with
  | step h => exact Request.quiet h
  | wreck h => exact RequestWreck.quiet h

end Rules.Goes

namespace Termination

variable {t t' : Termination}

theorem beginWave_eq_some {own : ProbeSnapshot} {now wave : Nat}
    (h : t.beginWave own now = (some wave, t')) :
    t.isCoordinator = true ∧ t.current = none ∧ wave = t.nextWave ∧ t' = { t with
      nextWave := t.nextWave + 1
      lastProbe := some now
      current := some ⟨t.nextWave, OrderedMap.empty.insert t.process own⟩ } := by
  unfold beginWave at h
  split at h
  · rename_i hmay
    cases h
    simp only [mayProbe, Bool.and_eq_true, Option.isNone_iff_eq_none] at hmay
    exact ⟨hmay.1.1.1, hmay.1.2, rfl, rfl⟩
  · cases h

/-- What an answer does: nothing, or it is noted, or it completes the wave. -/
theorem onReply_cases {wave : Nat} {sender : ProcessId} {answer : ProbeSnapshot}
    {verdict : Except Crash Verdict} (h : t.onReply wave sender answer = (verdict, t')) :
    (verdict = .ok .pending ∧ t' = t) ∨
    ∃ current, t.current = some current ∧ current.id = wave ∧
      ((verdict = .ok .pending ∧
        t' = { t with current := some ⟨current.id, current.replies.insert sender answer⟩ }) ∨
      ((current.replies.insert sender answer).size = t.processCount ∧ t'.process = t.process ∧
        t'.processCount = t.processCount ∧ t'.nextWave = t.nextWave ∧
        t'.current = none ∧
        ((∃ c, verdict = .error c) ∧ t'.previous = t.previous ∨
          verdict = .ok (Termination.verdict t.previous
            (.sum (current.replies.insert sender answer).values)) ∧
          t'.previous = some (.sum (current.replies.insert sender answer).values)))) := by
  unfold onReply at h
  split at h
  · cases h
    exact .inl ⟨rfl, rfl⟩
  · rename_i current hcurrent
    split at h
    · cases h
      exact .inl ⟨rfl, rfl⟩
    · rename_i hid
      refine .inr ⟨current, hcurrent, not_not.mp hid, ?_⟩
      simp only at h
      split at h
      · cases h
        exact .inl ⟨rfl, rfl⟩
      · rename_i hsize
        refine .inr ⟨not_not.mp hsize, ?_⟩
        split at h <;> cases h
        · exact ⟨rfl, rfl, rfl, rfl, .inr ⟨rfl, rfl⟩⟩
        · exact ⟨rfl, rfl, rfl, rfl, .inl ⟨⟨_, rfl⟩, rfl⟩⟩

end Termination

end PetriCluster
