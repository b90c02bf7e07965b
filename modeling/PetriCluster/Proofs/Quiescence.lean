import PetriCluster.Proofs.Waves
import Mathlib.Algebra.Order.BigOperators.Group.Finset

/-!
# Two waves that agree show the end of all work

Process 0 takes the run to be over when two waves in a row find every process idle and the same number
of work packets sent and received by all. This is right in every run in which work comes only from
what was spawned before the first wave: then no process has a net or owes anything, and no mailbox
holds a work packet.
-/

namespace PetriCluster

open Scene

/-- A process is in its place, and its active instances have slots. -/
structure Scene.Stands {n : Nat} {σ : Type} [NetBehaviour σ] (s : Scene σ) (i : Fin n) : Prop where
  sound : s.Sound
  backed : ∀ net, s.Backed net
  id : s.id = .at i
  process : s.termination.process = .at i
  processCount : s.termination.processCount = n

namespace World

variable {n : Nat} {σ : Type} [NetBehaviour σ] {w w' : World n σ} {i z : Fin n}
  {events : List TokenEvent}

/-- Every process is in its place, and the work packets that were sent and not yet taken in are in the
mailboxes. -/
structure Grounded (w : World n σ) : Prop where
  size : n < IdSource.wordSize
  stands : ∀ i, (w.scene i).Stands i
  balance : ∑ i, (w.scene i).termination.sent =
    ∑ i, (w.scene i).termination.received + ∑ i, (w.mail i).countP Packet.isWork

/-- There is no work left anywhere, nor on its way. -/
def Terminated (w : World n σ) : Prop :=
  ∀ i, (w.scene i).Passive ∧ (w.mail i).countP Packet.isWork = 0

/-- An answer to the probe of a wave has been noted by process `z`, or is in its mailbox. -/
inductive Reply (w : World n σ) (z : Fin n) : Nat → ProcessId → ProbeSnapshot → Prop
  | noted {current : Wave} {sender : ProcessId} {answer : ProbeSnapshot} :
      (w.scene z).termination.current = some current → current.replies.find? sender = some answer →
      Reply w z current.id sender answer
  | mailed {packet : Packet} {wave : UInt64} {sender : ProcessId} {answer : ProbeSnapshot} :
      packet ∈ w.mail z → packet.message? = some (.probeReply wave sender answer) →
      Reply w z wave.toNat sender answer

/-- Some process had taken work in when the last wave was completed that the wave did not count. So will
the answers of the wave under way. -/
def Stale (w : World n σ) (z : Fin n) (totals : WaveTotals) : Prop :=
  ∃ base : Fin n → Nat, totals.received < ∑ i, base i ∧
    (∀ i, base i ≤ (w.scene i).termination.received) ∧
    ∀ current, (w.scene z).termination.current = some current → ∀ i answer,
      w.Reply z current.id (.at i) answer → base i ≤ answer.received.toNat

/-- What process `z` knows of the others from its waves. -/
structure Watched (w : World n σ) (z : Fin n) : Prop where
  probes : ∀ q, ∀ packet ∈ w.mail q, ∀ wave, packet.message? = some (.probe wave) →
    wave.toNat < (w.scene z).termination.nextWave
  replies : ∀ k sender answer, w.Reply z k sender answer →
    k < (w.scene z).termination.nextWave ∧ ∃ i, sender = .at i ∧ (w.scene i).Faithful answer
  current : ∀ current, (w.scene z).termination.current = some current →
    current.id + 1 = (w.scene z).termination.nextWave
  /-- If the last wave that was completed was balanced, all work is over or the next wave differs. -/
  previous : ∀ totals, (w.scene z).termination.previous = some totals → totals.balanced = true →
    w.Terminated ∨ w.Stale z totals

end World

namespace Scene

variable {n : Nat} {σ : Type} [NetBehaviour σ] {s t : Scene σ} {i : Fin n} {ws : List Wire}
  {events : List TokenEvent}

omit [NetBehaviour σ] in
theorem Probing.place_eq (h : Probing s ws t) : t.termination.process = s.termination.process ∧
    t.termination.processCount = s.termination.processCount := by
  cases h with
  | quiet h =>
    obtain ⟨sent, received, heq⟩ := h.termination
    simp [heq]
  | answer => exact ⟨rfl, rfl⟩
  | start _ hbegin =>
    obtain ⟨-, -, -, heq⟩ := Termination.beginWave_eq_some hbegin
    simp [heq]
  | reply _ _ hreply =>
    rcases Termination.onReply_cases hreply with ⟨-, heq⟩ | ⟨c, -, -, ⟨-, heq⟩ | ⟨-, hprocess, hcount, -⟩⟩
    · simp [heq]
    · simp [heq]
    · exact ⟨hprocess, hcount⟩

theorem Stands.goes (hs : s.Stands i) (h : (steps True False).Goes s ws events t) : t.Stands i where
  sound := h.sound hs.sound
  backed net := h.backed hs.sound (hs.backed net)
  id := h.id_eq.trans hs.id
  process := h.probing.place_eq.1.trans hs.process
  processCount := h.probing.place_eq.2.trans hs.processCount

theorem Stands.goes_of_requests (hs : s.Stands i) (h : (requests True).Goes s ws events t) : t.Stands i where
  sound := h.sound hs.sound
  backed net := h.backed_of_requests hs.sound (hs.backed net)
  id := h.of_requests.id_eq.trans hs.id
  process := h.of_requests.probing.place_eq.1.trans hs.process
  processCount := h.of_requests.probing.place_eq.2.trans hs.processCount

end Scene

namespace World

variable {n : Nat} {σ : Type} [NetBehaviour σ] {w : World n σ} {i z : Fin n} {t : Scene σ}
  {ws : List Wire} {events : List TokenEvent} {mail : Fin n → List Packet}
variable {w' : World n σ}

theorem Grounded.update (hw : w.Grounded) (ht : t.Stands i) (hcounted : Counted (w.scene i) ws t)
    (hex : Exchange i w.mail ws mail) : Grounded ⟨Function.update w.scene i t, mail⟩ where
  size := hw.size
  stands := (Function.forall_update_iff w.scene fun j s => s.Stands j).mpr ⟨ht, fun j _ => hw.stands j⟩
  balance := by
    have hsent := sum_update w.scene i t (·.termination.sent)
    have hreceived := sum_update w.scene i t (·.termination.received)
    have hmail := hex.total hw.size Packet.isWork
    have hold := hw.balance
    have := hcounted.sent
    have := hcounted.received
    simp only at *
    omega

theorem Terminated.update (hw : w.Grounded) (hterminated : w.Terminated)
    (h : (steps True False).Goes (w.scene i) ws events t) (hex : Exchange i w.mail ws mail) :
    Terminated ⟨Function.update w.scene i t, mail⟩ := by
  obtain ⟨hp, hempty⟩ := hterminated i
  have htaken := hex.taken_eq_zero hw.size hempty
  obtain ⟨ht, hsent⟩ := h.passive (hw.stands i).sound (hw.stands i).backed hp htaken
  have haccepted : Wire.accepted Packet.isWork ws = 0 := by
    have := h.counted.sent
    omega
  have hmail : ∑ q, (mail q).countP Packet.isWork = 0 := by
    have htotal := hex.total hw.size Packet.isWork
    rw [htaken, haccepted, Finset.sum_eq_zero fun q _ => (hterminated q).2] at htotal
    exact htotal
  refine fun j => ⟨?_, Finset.sum_eq_zero_iff.mp hmail j (Finset.mem_univ j)⟩
  exact (Function.forall_update_iff w.scene fun _ s => s.Passive).mpr
    ⟨ht, fun j _ => (hterminated j).1⟩ j

/-- What one step changes of what process `z` knows: its waves, the answers there are, and the probes.
An answer that is new tells what its process has taken in by now. -/
structure Advances (w w' : World n σ) (z : Fin n) : Prop where
  received : ∀ j, (w.scene j).termination.received ≤ (w'.scene j).termination.received
  faithful : ∀ j answer, (w.scene j).Faithful answer → (w'.scene j).Faithful answer
  terminated : w.Terminated → w'.Terminated
  nextWave : (w.scene z).termination.nextWave ≤ (w'.scene z).termination.nextWave
  probes : ∀ q, ∀ packet ∈ w'.mail q, ∀ wave, packet.message? = some (.probe wave) →
    packet ∈ w.mail q ∨ wave.toNat < (w'.scene z).termination.nextWave
  replies : ∀ k sender answer, w'.Reply z k sender answer → w.Reply z k sender answer ∨
    k < (w'.scene z).termination.nextWave ∧ ∃ j, sender = .at j ∧ (w'.scene j).Faithful answer ∧
      answer.received.toNat = (w'.scene j).termination.received
  current : ∀ current', (w'.scene z).termination.current = some current' →
    current'.id + 1 = (w'.scene z).termination.nextWave ∧
      ((∃ current, (w.scene z).termination.current = some current ∧ current.id = current'.id) ∨
        (w.scene z).termination.nextWave ≤ current'.id)
  previous : ∀ totals, (w'.scene z).termination.previous = some totals → totals.balanced = true →
    (w.scene z).termination.previous = some totals ∨ w'.Terminated ∨ w'.Stale z totals

omit [NetBehaviour σ] in
theorem Watched.advance (hn : n < IdSource.wordSize) (hw : w.Watched z) (h : Advances w w' z) :
    w'.Watched z := by
  refine ⟨fun q packet hmem wave hprobe => ?_, fun k sender answer hreply => ?_,
    fun current hcurrent => (h.current current hcurrent).1, fun totals htotals hbalanced => ?_⟩
  · rcases h.probes q packet hmem wave hprobe with hold | hnew
    · exact (hw.probes q packet hold wave hprobe).trans_le h.nextWave
    · exact hnew
  · rcases h.replies k sender answer hreply with hold | ⟨hk, j, hj, hf, -⟩
    · obtain ⟨hk, j, hj, hf⟩ := hw.replies k sender answer hold
      exact ⟨hk.trans_le h.nextWave, j, hj, h.faithful j answer hf⟩
    · exact ⟨hk, j, hj, hf⟩
  · rcases h.previous totals htotals hbalanced with hold | hdone
    · rcases hw.previous totals hold hbalanced with hover | ⟨base, hlt, hbase, hreplies⟩
      · exact .inl (h.terminated hover)
      · refine .inr ⟨base, hlt, fun j => (hbase j).trans (h.received j), fun current' hcurrent' j answer
          hreply => ?_⟩
        obtain ⟨-, hwave⟩ := h.current current' hcurrent'
        rcases h.replies _ _ answer hreply with hold | ⟨-, k, hk, -, heq⟩
        · rcases hwave with ⟨current, hcurrent, hid⟩ | hlate
          · exact hreplies current hcurrent j answer (hid ▸ hold)
          · have := (hw.replies _ _ answer hold).1
            omega
        · obtain rfl := ProcessId.at_inj hn hk
          exact heq ▸ (hbase j).trans (h.received j)
    · exact hdone

/-! ## Completed waves -/

variable {replies : OrderedMap ProcessId ProbeSnapshot}

theorem Watched.complete (hw : w.Grounded) (hz : w.Watched z) {k : Nat}
    (hreplies : ∀ sender answer, replies.find? sender = some answer → w.Reply z k sender answer)
    (hsize : replies.size = n) :
    ∃ answer : Fin n → ProbeSnapshot,
      (∀ i, w.Reply z k (.at i) (answer i) ∧ (w.scene i).Faithful (answer i)) ∧
      ((WaveTotals.sum replies.values).allIdle = true → ∀ i, (answer i).idle = true) ∧
      (WaveTotals.sum replies.values).sent = ∑ i, (answer i).sent.toNat ∧
      (WaveTotals.sum replies.values).received = ∑ i, (answer i).received.toNat := by
  have hkeys : ∀ e ∈ replies.entries, ∃ i : Fin n, e.1 = .at i := by
    intro e he
    obtain ⟨-, i, hi, -⟩ := hz.replies k e.1 e.2 (hreplies e.1 e.2 (replies.find?_of_mem he))
    exact ⟨i, hi⟩
  obtain ⟨answer, hanswer, hsum⟩ := OrderedMap.sum_values hw.size replies hkeys hsize
  rw [WaveTotals.sum_eq]
  refine ⟨answer, fun i => ?_, fun hidle i => ?_, hsum _, hsum _⟩
  · have hreply := hreplies (.at i) (answer i) (hanswer i).1
    obtain ⟨-, j, hj, hf⟩ := hz.replies k _ _ hreply
    obtain rfl := ProcessId.at_inj hw.size hj
    exact ⟨hreply, hf⟩
  · exact List.all_eq_true.mp hidle (answer i) (hanswer i).2

/-- After a balanced wave all work is over, or some process has taken in work since it answered. -/
theorem Watched.balanced (hw : w.Grounded) (hz : w.Watched z) {k : Nat}
    (hreplies : ∀ sender answer, replies.find? sender = some answer → w.Reply z k sender answer)
    (hsize : replies.size = n) (hbalanced : (WaveTotals.sum replies.values).balanced = true) :
    w.Terminated ∨
      (WaveTotals.sum replies.values).received < ∑ i, (w.scene i).termination.received := by
  obtain ⟨answer, hanswer, hidle, hsent, hreceived⟩ := hz.complete hw hreplies hsize
  simp only [WaveTotals.balanced, Bool.and_eq_true, beq_iff_eq] at hbalanced
  obtain ⟨hall, hequal⟩ := hbalanced
  -- Either every answer is still true, and the sums say that no work is in the mail, or one is not,
  -- and then the process in question has taken in work, for only that makes an idle process busy.
  by_cases hfresh : ∀ i, (answer i).received.toNat = (w.scene i).termination.received
  · left
    have hnow i := (hanswer i).2.idle (hidle hall i) (hfresh i)
    have hmail : ∑ i, (w.mail i).countP Packet.isWork = 0 := by
      have hbalance := hw.balance
      rw [hsent, hreceived] at hequal
      simp only [fun i => (hnow i).2, hfresh] at hequal
      omega
    exact fun i => ⟨(hnow i).1, Finset.sum_eq_zero_iff.mp hmail i (Finset.mem_univ i)⟩
  · right
    obtain ⟨j, hj⟩ := not_forall.mp hfresh
    rw [hreceived]
    exact Finset.sum_lt_sum (fun i _ => (hanswer i).2.received_le)
      ⟨j, Finset.mem_univ j, lt_of_le_of_ne (hanswer j).2.received_le hj⟩

/-- If a wave has the totals of the wave before and is balanced, all work is over. -/
theorem Watched.terminated (hw : w.Grounded) (hz : w.Watched z) {current : Wave}
    (hcurrent : (w.scene z).termination.current = some current)
    (hreplies : ∀ sender answer, replies.find? sender = some answer →
      w.Reply z current.id sender answer) (hsize : replies.size = n)
    (hbalanced : (WaveTotals.sum replies.values).balanced = true)
    (hprevious : (w.scene z).termination.previous = some (WaveTotals.sum replies.values)) :
    w.Terminated := by
  obtain ⟨answer, hanswer, -, -, hreceived⟩ := hz.complete hw hreplies hsize
  rcases hz.previous _ hprevious hbalanced with hover | ⟨base, hlt, -, hbase⟩
  · exact hover
  -- The second wave started after someone took in work, so its sum is larger than the first one's.
  · have hle : ∑ i, base i ≤ ∑ i, (answer i).received.toNat :=
      Finset.sum_le_sum fun i _ => hbase current hcurrent i _ (hanswer i).1
    omega

omit [NetBehaviour σ] in
theorem Reply.of_insert {current : Wave} {wave : Nat} {sender : ProcessId} {answer : ProbeSnapshot}
    (hcurrent : (w.scene z).termination.current = some current) (hid : current.id = wave)
    (htaken : w.Reply z wave sender answer) (sender' : ProcessId) (answer' : ProbeSnapshot)
    (hfind : (current.replies.insert sender answer).find? sender' = some answer') :
    w.Reply z current.id sender' answer' := by
  by_cases hne : sender = sender'
  · subst hne
    rw [OrderedMap.find?_insert_self] at hfind
    cases hfind
    exact hid ▸ htaken
  · rw [OrderedMap.find?_insert_of_ne _ hne] at hfind
    exact .noted hcurrent hfind

/-! ## One step -/

theorem received_le (h : (steps True False).Goes (w.scene i) ws events t) (j : Fin n) :
    (w.scene j).termination.received ≤ (Function.update w.scene i t j).termination.received := by
  refine (Function.forall_update_iff w.scene
    fun j s => (w.scene j).termination.received ≤ s.termination.received).mpr
    ⟨?_, fun _ _ => Nat.le.refl⟩ j
  have := h.counted.received
  omega

section

variable (hw : w.Grounded)

include hw

theorem faithful_update (h : (steps True False).Goes (w.scene i) ws events t) (j : Fin n)
    (answer : ProbeSnapshot) (hf : (w.scene j).Faithful answer) :
    (Function.update w.scene i t j).Faithful answer :=
  (Function.forall_update_iff w.scene
    fun j s => (w.scene j).Faithful answer → s.Faithful answer).mpr
    ⟨fun hf => hf.goes h (hw.stands i).sound (hw.stands i).backed, fun _ _ hf => hf⟩ j hf

theorem Advances.same (hz : w.Watched z)
    (h : (steps True False).Goes (w.scene i) ws events t) (hex : Exchange i w.mail ws mail)
    (hnext : (Function.update w.scene i t z).termination.nextWave = (w.scene z).termination.nextWave)
    (hcurrent : (Function.update w.scene i t z).termination.current = (w.scene z).termination.current)
    (hprevious : (Function.update w.scene i t z).termination.previous =
      (w.scene z).termination.previous)
    (hprobes : ∀ q, ∀ packet ∈ mail q, ∀ wave, packet.message? = some (.probe wave) →
      packet ∈ w.mail q)
    (hreplies : ∀ packet ∈ mail z, ∀ wave sender answer,
      packet.message? = some (.probeReply wave sender answer) → packet ∈ w.mail z ∨
        wave.toNat < (w.scene z).termination.nextWave ∧ ∃ j, sender = .at j ∧
          (Function.update w.scene i t j).Faithful answer ∧
          answer.received.toNat = (Function.update w.scene i t j).termination.received) :
    Advances w ⟨Function.update w.scene i t, mail⟩ z where
  received := received_le h
  faithful := faithful_update hw h
  terminated hterminated := hterminated.update hw h hex
  nextWave := hnext.ge
  probes q packet hmem wave hprobe := .inl (hprobes q packet hmem wave hprobe)
  replies k sender answer hreply := by
    cases hreply with
    | noted hnow hfind => exact .inl (.noted (hcurrent ▸ hnow) hfind)
    | mailed hmem hmessage =>
      rcases hreplies _ hmem _ sender answer hmessage with hold | ⟨hk, hnew⟩
      · exact .inl (.mailed hold hmessage)
      · exact .inr ⟨hnext.symm ▸ hk, hnew⟩
  current current' hcurrent' := by
    have hold : (w.scene z).termination.current = some current' := hcurrent ▸ hcurrent'
    exact ⟨(hz.current current' hold).trans hnext.symm, .inl ⟨current', hold, rfl⟩⟩
  previous totals htotals _ := .inl (hprevious ▸ htotals)

theorem Advances.quiet (hz : w.Watched z)
    (h : (steps True False).Goes (w.scene i) ws events t) (hex : Exchange i w.mail ws mail)
    (hquiet : Quiet (w.scene i) ws t) : Advances w ⟨Function.update w.scene i t, mail⟩ z := by
  obtain ⟨sent, received, heq⟩ := hquiet.termination
  have hstay : ∀ j, (Function.update w.scene i t j).termination.nextWave =
      (w.scene j).termination.nextWave ∧
      (Function.update w.scene i t j).termination.current = (w.scene j).termination.current ∧
      (Function.update w.scene i t j).termination.previous = (w.scene j).termination.previous :=
    (Function.forall_update_iff w.scene fun j s =>
      s.termination.nextWave = (w.scene j).termination.nextWave ∧
      s.termination.current = (w.scene j).termination.current ∧
      s.termination.previous = (w.scene j).termination.previous).mpr
      ⟨by simp [heq], fun _ _ => ⟨rfl, rfl, rfl⟩⟩
  have hmail q packet (hmem : packet ∈ mail q) (hprobing : packet.isProbing = true) :
      packet ∈ w.mail q := by
    refine (hex.mem hmem).resolve_right fun hsent => ?_
    simp [hquiet.packets _ packet hsent] at hprobing
  exact .same hw hz h hex (hstay z).1 (hstay z).2.1 (hstay z).2.2
    (fun q packet hmem wave hprobe => hmail q packet hmem (by simp [Packet.isProbing, hprobe]))
    (fun packet hmem wave sender answer hreply =>
      .inl (hmail z packet hmem (by simp [Packet.isProbing, hreply])))

theorem Advances.answer (hz : w.Watched z)
    {packet : Packet} {wave : UInt64} {idle : Bool}
    (h : (steps True False).Goes (w.scene i) (.took packet :: ws) events (w.scene i))
    (hex : Exchange i w.mail (.took packet :: ws) mail) (hfits : (w.scene i).Fits)
    (hprobe : packet.message? = some (.probe wave)) (hidle : idle = true → (w.scene i).Passive)
    (hsingle : Wire.Single ⟨0⟩ ((ControlMessage.probeReply wave (w.scene i).id
      ((w.scene i).termination.snapshot idle)).toPacket (w.scene i).id) ws) :
    Advances w ⟨Function.update w.scene i (w.scene i), mail⟩ z := by
  have hsent target p (hmem : Wire.sent target p ∈ Wire.took packet :: ws) :
      p.message? = some (.probeReply wave (w.scene i).id ((w.scene i).termination.snapshot idle)) := by
    simp only [List.mem_cons, reduceCtorEq, false_or] at hmem
    rcases hsingle with rfl | rfl <;> simp_all
  have hbegun := hz.probes i packet (hex.took_mem hw.size (List.mem_cons_self ..)) wave hprobe
  refine .same hw hz h hex ?_ ?_ ?_ (fun q p hmem k hp => ?_) fun p hmem k sender answer hp => ?_
  · rw [Function.update_eq_self]
  · rw [Function.update_eq_self]
  · rw [Function.update_eq_self]
  · refine (hex.mem hmem).resolve_right fun hnew => ?_
    simp [hsent _ p hnew] at hp
  · refine (hex.mem hmem).imp_right fun hnew => ?_
    rw [hsent _ p hnew] at hp
    cases hp
    rw [Function.update_eq_self]
    exact ⟨hbegun, i, (hw.stands i).id, hfits.faithful hidle, hfits.received_snapshot idle⟩

theorem Advances.start {termination : Termination} {now wave : Nat}
    (h : (steps True False).Goes (w.scene z) ws events ((w.scene z).setTermination termination))
    (hex : Exchange z w.mail ws mail) (hfits : (w.scene z).Fits) (hp : (w.scene z).Passive)
    (hbegin : (w.scene z).termination.beginWave ((w.scene z).termination.snapshot true) now =
      (some wave, termination))
    (hcast : Wire.Broadcast ((ControlMessage.probe (UInt64.ofNat wave)).toPacket (w.scene z).id)
      (w.scene z).peers ws) :
    Advances w ⟨Function.update w.scene z ((w.scene z).setTermination termination), mail⟩ z := by
  obtain ⟨-, -, rfl, heq⟩ := Termination.beginWave_eq_some hbegin
  obtain ⟨hsame, hcounted⟩ := Termination.beginWave_counters hbegin
  have hnext : termination.nextWave = (w.scene z).termination.nextWave + 1 := by rw [heq]
  have hcurrent : termination.current = some ⟨(w.scene z).termination.nextWave,
      OrderedMap.empty.insert (w.scene z).termination.process
        ((w.scene z).termination.snapshot true)⟩ := by rw [heq]
  have hprevious : termination.previous = (w.scene z).termination.previous := by rw [heq]
  have hself : Function.update w.scene z ((w.scene z).setTermination termination) z =
      (w.scene z).setTermination termination := Function.update_self ..
  have hsent target p (hmem : Wire.sent target p ∈ ws) :
      p.message? = some (.probe (UInt64.ofNat (w.scene z).termination.nextWave)) := by
    obtain rfl : p = _ := hcast.packet_eq _ hmem
    simp
  refine ⟨received_le h, faithful_update hw h, fun hterminated => hterminated.update hw h hex, ?_,
    fun q p hmem k hprobe => ?_, fun k sender answer hreply => ?_, fun current hnow => ?_,
    fun totals htotals _ => .inl ?_⟩
  · simp only [hself, setTermination_termination, hnext]
    omega
  · refine (hex.mem hmem).imp_right fun hnew => ?_
    rw [hsent _ p hnew] at hprobe
    cases hprobe
    simp only [hself, setTermination_termination, hnext, UInt64.toNat_ofNat']
    exact Nat.lt_succ_of_le (Nat.mod_le ..)
  · cases hreply with
    | noted hnow hfind =>
      simp only [hself, setTermination_termination, hcurrent, Option.some.injEq] at hnow
      subst hnow
      obtain rfl : sender = (w.scene z).termination.process := by
        by_contra hne
        rw [OrderedMap.find?_insert_of_ne _ (Ne.symm hne)] at hfind
        cases hfind
      rw [OrderedMap.find?_insert_self] at hfind
      cases hfind
      refine .inr ⟨?_, z, (hw.stands z).process, ?_, ?_⟩
      · simp only [hself, setTermination_termination, hnext]
        omega
      · exact faithful_update hw h z _ (hfits.faithful fun _ => hp)
      · simp only [hself, setTermination_termination, hcounted]
        exact hfits.received_snapshot true
    | mailed hmem hmessage =>
      refine .inl (.mailed ((hex.mem hmem).resolve_right fun hnew => ?_) hmessage)
      simp [hsent _ _ hnew] at hmessage
  · simp only [hself, setTermination_termination, hcurrent, Option.some.injEq] at hnow ⊢
    subst hnow
    exact ⟨hnext.symm, .inr Nat.le.refl⟩
  · simpa only [hself, setTermination_termination, hprevious] using htotals

theorem Advances.reply (hz : w.Watched z) {packet : Packet} {wave : UInt64}
    {sender : ProcessId} {answer : ProbeSnapshot} {verdict : Except Crash Verdict}
    (h : (steps True False).Goes (w.scene z) [.took packet] events t)
    (hex : Exchange z w.mail [.took packet] mail)
    (hmessage : packet.message? = some (.probeReply wave sender answer))
    (hreply : (w.scene z).termination.onReply wave.toNat sender answer = (verdict, t.termination)) :
    Advances w ⟨Function.update w.scene z t, mail⟩ z := by
  have hself : Function.update w.scene z t z = t := Function.update_self ..
  have hmail q p (hmem : p ∈ mail q) : p ∈ w.mail q :=
    (hex.mem hmem).resolve_right (by simp)
  have htaken : w.Reply z wave.toNat sender answer :=
    .mailed (hex.took_mem hw.size (List.mem_singleton_self _)) hmessage
  rcases Termination.onReply_cases hreply with ⟨-, heq⟩ | ⟨current, hcurrent, hid, hrest⟩
  · exact .same hw hz h hex (by rw [hself, heq]) (by rw [hself, heq]) (by rw [hself, heq])
      (fun q p hmem _ _ => hmail q p hmem) fun p hmem _ _ _ _ => .inl (hmail z p hmem)
  · have hreplies := Reply.of_insert hcurrent hid htaken
    rcases hrest with ⟨-, heq⟩ | ⟨hsize, -, -, hnext, hnone, hprevious⟩
    · refine ⟨received_le h, faithful_update hw h, fun hterminated => hterminated.update hw h hex, ?_,
        fun q p hmem _ _ => .inl (hmail q p hmem), fun k sender' answer' hold => .inl ?_,
        fun current' hcurrent' => ?_, fun totals htotals _ => .inl ?_⟩
      · simp only [hself, heq, Nat.le_refl]
      · cases hold with
        | noted hnow hfind =>
          simp only [hself, heq, Option.some.injEq] at hnow
          subst hnow
          exact hreplies _ _ hfind
        | mailed hmem hp => exact .mailed (hmail z _ hmem) hp
      · simp only [hself, heq, Option.some.injEq] at hcurrent' ⊢
        subst hcurrent'
        exact ⟨hz.current current hcurrent, .inl ⟨current, hcurrent, rfl⟩⟩
      · simpa only [hself, heq] using htotals
    · rw [(hw.stands z).processCount] at hsize
      refine ⟨received_le h, faithful_update hw h, fun hterminated => hterminated.update hw h hex, ?_,
        fun q p hmem _ _ => .inl (hmail q p hmem), fun k sender' answer' hold => .inl ?_,
        fun current' hcurrent' => ?_, fun totals htotals hbalanced => ?_⟩
      · simp only [hself, hnext, Nat.le_refl]
      · cases hold with
        | noted hnow hfind => simp [hnone] at hnow
        | mailed hmem hp => exact .mailed (hmail z _ hmem) hp
      · simp [hnone] at hcurrent'
      · simp only [hself] at htotals
        rcases hprevious with ⟨-, hsame⟩ | ⟨-, hnew⟩
        · exact .inl (hsame ▸ htotals)
        · rw [hnew, Option.some.injEq] at htotals
          subst htotals
          right
          refine (hz.balanced hw hreplies hsize hbalanced).imp (·.update hw h hex) fun hlt => ?_
          refine ⟨fun j => (Function.update w.scene z t j).termination.received, ?_, fun _ => Nat.le.refl,
            fun current' hcurrent' => ?_⟩
          · exact hlt.trans_le (Finset.sum_le_sum fun j _ => received_le h j)
          · simp [hnone] at hcurrent'

theorem Grounded.eq_of_isCoordinator (hzero : ProcessId.at z = ⟨0⟩)
    (h : (w.scene i).termination.isCoordinator = true) : i = z := by
  refine ProcessId.at_inj hw.size ?_
  rw [hzero, ← (hw.stands i).process]
  exact congrArg ProcessId.mk (beq_iff_eq.mp h)

theorem Grounded.goes (h : (steps True False).Goes (w.scene i) ws events t)
    (hex : Exchange i w.mail ws mail) : Grounded ⟨Function.update w.scene i t, mail⟩ :=
  hw.update ((hw.stands i).goes h) h.counted hex

theorem Watched.goes (hz : w.Watched z) (hzero : ProcessId.at z = ⟨0⟩)
    (h : (steps True False).Goes (w.scene i) ws events t) (hex : Exchange i w.mail ws mail)
    (hfits : (w.scene i).Fits) : Watched ⟨Function.update w.scene i t, mail⟩ z := by
  refine hz.advance hw.size ?_
  have hprobing := h.probing
  cases hprobing with
  | quiet hquiet => exact .quiet hw hz h hex hquiet
  | answer hprobe hidle hsingle => exact .answer hw hz h hex hfits hprobe hidle hsingle
  | start hp hbegin hcast =>
    obtain rfl := hw.eq_of_isCoordinator hzero (Termination.beginWave_eq_some hbegin).1
    exact .start hw h hex hfits hp hbegin hcast
  | reply hmessage hc hreply =>
    obtain rfl := hw.eq_of_isCoordinator hzero hc
    exact .reply hw hz h hex hmessage hreply

end

/-! ## Runs after the first wave -/

/-- As long as the counters fit in 64 bits, process `z` knows of the others what it should. -/
def Audited (w : World n σ) (z : Fin n) : Prop :=
  w.Grounded ∧ ((∀ i, (w.scene i).Fits) → w.Watched z)

theorem fits_of_update (h : (steps True False).Goes (w.scene i) ws events t) (j : Fin n)
    (hfits : (Function.update w.scene i t j).Fits) : (w.scene j).Fits := by
  refine (Function.forall_update_iff w.scene fun j s => s.Fits → (w.scene j).Fits).mpr
    ⟨fun hfits => ?_, fun _ _ => id⟩ j hfits
  have hsent := h.counted.sent
  have hreceived := h.counted.received
  exact ⟨by have := hfits.1; omega, by have := hfits.2; omega⟩

theorem Moves.audited (h : w.Moves (steps True False).Goes i events w') (hzero : ProcessId.at z = ⟨0⟩)
    (hw : w.Audited z) : w'.Audited z := by
  obtain @⟨ws, _, t, mail, hgoes, hex⟩ := h
  obtain ⟨hground, hwatched⟩ := hw
  refine ⟨hground.goes hgoes hex, fun hfits => ?_⟩
  have hbefore j := fits_of_update hgoes j (hfits j)
  exact (hwatched hbefore).goes hground hzero hgoes hex (hbefore i)

/-! ## Runs before the first wave -/

/-- No wave has started. -/
structure Unprobed (w : World n σ) : Prop where
  grounded : w.Grounded
  current : ∀ i, (w.scene i).termination.current = none
  previous : ∀ i, (w.scene i).termination.previous = none
  mail : ∀ q, ∀ packet ∈ w.mail q, packet.isProbing = false

theorem Unprobed.quiet (hw : w.Unprobed) (hquiet : Quiet (w.scene i) ws t)
    (hgrounded : Grounded ⟨Function.update w.scene i t, mail⟩) (hex : Exchange i w.mail ws mail) :
    Unprobed ⟨Function.update w.scene i t, mail⟩ := by
  obtain ⟨sent, received, heq⟩ := hquiet.termination
  refine ⟨hgrounded, ?_, ?_, fun q packet hmem => ?_⟩
  · exact (Function.forall_update_iff w.scene fun _ s => s.termination.current = none).mpr
      ⟨by simp [heq, hw.current i], fun j _ => hw.current j⟩
  · exact (Function.forall_update_iff w.scene fun _ s => s.termination.previous = none).mpr
      ⟨by simp [heq, hw.previous i], fun j _ => hw.previous j⟩
  · rcases hex.mem hmem with hold | hnew
    · exact hw.mail q packet hold
    · exact hquiet.packets _ packet hnew

/-- If process `z` has started no wave, none has started. -/
def UnprobedYet (w : World n σ) (z : Fin n) : Prop :=
  w.Grounded ∧ ((w.scene z).termination.nextWave = 0 → w.Unprobed)

theorem UnprobedYet.quiet (hw : w.UnprobedYet z) (hquiet : Quiet (w.scene i) ws t)
    (hgrounded : Grounded ⟨Function.update w.scene i t, mail⟩) (hex : Exchange i w.mail ws mail) :
    UnprobedYet ⟨Function.update w.scene i t, mail⟩ z := by
  have hsame : (Function.update w.scene i t z).termination.nextWave =
      (w.scene z).termination.nextWave := by
    obtain ⟨sent, received, heq⟩ := hquiet.termination
    exact (Function.forall_update_iff w.scene
      fun j s => s.termination.nextWave = (w.scene j).termination.nextWave).mpr
      ⟨by rw [heq], fun _ _ => rfl⟩ z
  exact ⟨hgrounded, fun hnext => (hw.2 (hsame ▸ hnext)).quiet hquiet hgrounded hex⟩

theorem Moves.unprobedYet_of_requests (h : w.Moves (requests True).Goes i events w')
    (hw : w.UnprobedYet z) : w'.UnprobedYet z := by
  obtain @⟨ws, _, t, mail, hgoes, hex⟩ := h
  refine hw.quiet hgoes.quiet ?_ hex
  exact hw.1.update ((hw.1.stands i).goes_of_requests hgoes) hgoes.of_requests.counted hex

theorem Moves.unprobedYet (h : w.Moves (steps True False).Goes i events w')
    (hzero : ProcessId.at z = ⟨0⟩) (hw : w.UnprobedYet z) : w'.UnprobedYet z := by
  obtain @⟨ws, _, t, mail, hgoes, hex⟩ := h
  obtain ⟨hground, hunprobed⟩ := hw
  have hafter := hground.goes hgoes hex
  have hnoprobe packet (hmem : packet ∈ w.mail i) (hprobing : packet.isProbing = true) :
      (w.scene z).termination.nextWave ≠ 0 := by
    intro hnext
    simp [(hunprobed hnext).mail i packet hmem] at hprobing
  have hprobing := hgoes.probing
  cases hprobing with
  | quiet hquiet => exact UnprobedYet.quiet ⟨hground, hunprobed⟩ hquiet hafter hex
  | @answer packet _ _ _ hprobe =>
    have hne := hnoprobe packet (hex.took_mem hground.size (List.mem_cons_self ..))
      (by simp [Packet.isProbing, hprobe])
    refine ⟨hafter, fun hnext => absurd ?_ hne⟩
    simpa only [Function.update_eq_self] using hnext
  | start _ hbegin =>
    obtain ⟨hc, -, -, heq⟩ := Termination.beginWave_eq_some hbegin
    obtain rfl := hground.eq_of_isCoordinator hzero hc
    refine ⟨hafter, fun hnext => ?_⟩
    simp only [Function.update_self, setTermination_termination, heq] at hnext
    omega
  | @reply packet _ _ _ _ _ hmessage hc hreply =>
    obtain rfl := hground.eq_of_isCoordinator hzero hc
    have hne := hnoprobe packet (hex.took_mem hground.size (List.mem_singleton_self _))
      (by simp [Packet.isProbing, hmessage])
    have hsame : t.termination.nextWave = (w.scene i).termination.nextWave := by
      rcases Termination.onReply_cases hreply with ⟨-, heq⟩ | ⟨_, -, -, ⟨-, heq⟩ | ⟨-, -, -, hnext, -⟩⟩
      · rw [heq]
      · rw [heq]
      · exact hnext
    refine ⟨hafter, fun hnext => absurd ?_ hne⟩
    simpa only [Function.update_self, hsame] using hnext

theorem Unprobed.audited (hw : w.Unprobed) (z : Fin n) : w.Audited z := by
  refine ⟨hw.grounded, fun _ => ⟨fun q packet hmem wave hprobe => ?_, fun k sender answer hreply => ?_,
    fun current hcurrent => ?_, fun totals htotals => ?_⟩⟩
  · have := hw.mail q packet hmem
    simp [Packet.isProbing, hprobe] at this
  · cases hreply with
    | noted hnow => simp [hw.current z] at hnow
    | mailed hmem hmessage =>
      have := hw.mail z _ hmem
      simp [Packet.isProbing, hmessage] at this
  · simp [hw.current z] at hcurrent
  · simp [hw.previous z] at htotals

theorem Fresh.unprobed (h : w.Fresh) : w.Unprobed := by
  have hnew i := (h.scene i).termination
  choose interval htermination using hnew
  refine ⟨⟨h.size, fun i => ⟨(h.scene i).sound, fun net => ⟨fun _ => ?_, fun slot hslot => ?_⟩, h.id i, ?_,
    ?_⟩, ?_⟩, fun i => ?_, fun i => ?_, fun q packet hmem => ?_⟩
  · exact ⟨((h.scene i).active · net), (h.scene i).count _, (h.scene i).count _⟩
  · simp [(h.scene i).slots] at hslot
  · rw [htermination]
    exact h.id i
  · rw [htermination]
    exact h.processCount i
  · simp [htermination, h.mail, Termination.create]
  · rw [htermination]
    rfl
  · rw [htermination]
    rfl
  · simp [h.mail] at hmem

end World

end PetriCluster
