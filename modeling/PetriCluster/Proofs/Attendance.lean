import PetriCluster.Proofs.WaveHistory

/-!
# Who takes part in a collective step

A barrier is complete, and a wave is over, when as many processes have been heard of as the cluster
has. The name of a process comes with its message and may be one that the cluster does not have: a
stray.
-/

namespace PetriCluster

namespace ProcessId

variable {n : Nat} {heard : Finset ProcessId}

theorem mem_all_iff (hn : n < IdSource.wordSize) {p : ProcessId} : p ∈ all n ↔ p.index < n := by
  rw [mem_all]
  constructor
  · rintro ⟨i, rfl⟩
    rw [index_at hn]
    exact i.isLt
  · intro hp
    obtain ⟨i, rfl⟩ := exists_at hn hp
    exact ⟨i, rfl⟩

/-- Of those heard of, the processes that a cluster of `n` does not have. -/
def strays (n : Nat) (heard : Finset ProcessId) : Finset ProcessId :=
  heard.filter fun p => n ≤ p.index

/-- The processes of a cluster of `n` that have not been heard of, in order. -/
def silent (n : Nat) (heard : Finset ProcessId) : List ProcessId :=
  (all n).filter fun p => p ∉ heard

section

variable (hn : n < IdSource.wordSize)

include hn

theorem mem_silent {p : ProcessId} :
    p ∈ silent n heard ↔ p.index < n ∧ p ∉ heard := by
  rw [silent, List.mem_filter, mem_all_iff hn, decide_eq_true_eq]

theorem census (heard : Finset ProcessId) :
    heard.card + (silent n heard).length = n + (strays n heard).card := by
  have hmembers : (all n).toFinset.card = n := by
    rw [List.toFinset_card_of_nodup (nodup_all hn), all, List.length_map, List.length_range]
  have hsilent : (silent n heard).length = ((all n).toFinset \ heard).card := by
    have hnodup : (silent n heard).Nodup := (nodup_all hn).filter _
    rw [← List.toFinset_card_of_nodup hnodup]
    congr 1
    ext p
    simp [silent]
  have hmet : (all n).toFinset ∩ heard = heard.filter fun p => ¬ n ≤ p.index := by
    ext p
    rw [Finset.mem_inter, List.mem_toFinset, mem_all_iff hn, Finset.mem_filter, Nat.not_le, and_comm]
  have hparts := Finset.card_sdiff_add_card_inter (all n).toFinset heard
  have hheard := Finset.card_filter_add_card_filter_not (s := heard) fun p : ProcessId => n ≤ p.index
  rw [hmet, hmembers] at hparts
  rw [hsilent, strays]
  omega

theorem le_card_iff :
    n ≤ heard.card ↔ (silent n heard).length ≤ (strays n heard).card := by
  have hcensus := census hn heard
  omega

theorem mem_of_card (hcard : n ≤ heard.card)
    (hstrays : ∀ p ∈ heard, p.index < n) {p : ProcessId} (hp : p.index < n) : p ∈ heard := by
  have hnone : strays n heard = ∅ := by
    rw [strays, Finset.filter_eq_empty_iff]
    exact fun q hq => Nat.not_le.mpr (hstrays q hq)
  have hle := (le_card_iff hn).mp hcard
  rw [hnone, Finset.card_empty, Nat.le_zero, List.length_eq_zero_iff] at hle
  by_contra hnot
  have hmem : p ∈ silent n heard := (mem_silent hn).mpr ⟨hp, hnot⟩
  rw [hle] at hmem
  exact List.not_mem_nil hmem

end

end ProcessId

open ProcessId

namespace OrderedMap

variable {υ : Type}

theorem toFinset_keys_insert (m : OrderedMap ProcessId υ) (p : ProcessId) (v : υ) :
    (m.insert p v).keys.toFinset = Insert.insert p m.keys.toFinset := by
  ext q
  rw [List.mem_toFinset, Finset.mem_insert, List.mem_toFinset, mem_keys, mem_keys]
  by_cases hq : q = p
  · simp [hq]
  · simp [hq, find?_insert_of_ne m (Ne.symm hq)]

end OrderedMap

/-! ## Barriers -/

namespace Barrier

variable {b : Barrier} {phase : BarrierPhase} {arrivals : List (BarrierPhase × ProcessId)}

/-- Note arrivals one after the other. -/
def arriveAll (b : Barrier) (arrivals : List (BarrierPhase × ProcessId)) : Barrier :=
  arrivals.foldl (fun b arrival => b.arrive arrival.1 arrival.2) b

/-- Who reached a phase. -/
def came (phase : BarrierPhase) (arrivals : List (BarrierPhase × ProcessId)) : Finset ProcessId :=
  ((arrivals.filter (·.1 = phase)).map (·.2)).toFinset

theorem mem_came {p : ProcessId} : p ∈ came phase arrivals ↔ (phase, p) ∈ arrivals := by
  rw [came, List.mem_toFinset, List.mem_map]
  constructor
  · rintro ⟨⟨other, q⟩, hfilter, rfl⟩
    obtain ⟨hmem, hphase⟩ := List.mem_filter.mp hfilter
    obtain rfl : other = phase := of_decide_eq_true hphase
    exact hmem
  · intro hmem
    exact ⟨(phase, p), List.mem_filter.mpr ⟨hmem, decide_eq_true rfl⟩, rfl⟩

theorem toFinset_arrivals_arrive (b : Barrier) (other phase : BarrierPhase) (p : ProcessId) :
    ((b.arrive other p).arrivals phase).keys.toFinset =
      came phase [(other, p)] ∪ (b.arrivals phase).keys.toFinset := by
  cases other <;> cases phase
  · exact OrderedMap.toFinset_keys_insert b.start p ()
  · exact (Finset.empty_union _).symm
  · exact (Finset.empty_union _).symm
  · exact OrderedMap.toFinset_keys_insert b.teardown p ()

/-- By induction on the arrivals: who is noted for a phase came or was noted before. -/
theorem toFinset_arrivals_arriveAll (b : Barrier) (arrivals : List (BarrierPhase × ProcessId)) :
    ((b.arriveAll arrivals).arrivals phase).keys.toFinset =
      came phase arrivals ∪ (b.arrivals phase).keys.toFinset := by
  induction arrivals generalizing b with
  | nil => exact (Finset.empty_union _).symm
  | cons arrival rest ih =>
    have hcame : came phase (arrival :: rest) = came phase rest ∪ came phase [arrival] := by
      ext p
      rw [Finset.mem_union, mem_came, mem_came, mem_came, List.mem_cons, List.mem_singleton, or_comm]
    rw [arriveAll, List.foldl_cons, ← arriveAll, ih, toFinset_arrivals_arrive, hcame,
      Finset.union_assoc]

theorem processCount_arriveAll (b : Barrier) (arrivals : List (BarrierPhase × ProcessId)) :
    (b.arriveAll arrivals).processCount = b.processCount := by
  induction arrivals generalizing b with
  | nil => rfl
  | cons arrival rest ih =>
    have hstep : (b.arrive arrival.1 arrival.2).processCount = b.processCount := by
      cases arrival.1 <;> rfl
    exact (ih _).trans hstep

/-- The set of a phase holds those who came, whatever else arrived. -/
theorem keys_create_arriveAll (n : Nat) (phase : BarrierPhase)
    (arrivals : List (BarrierPhase × ProcessId)) :
    (((create n).arriveAll arrivals).arrivals phase).keys.toFinset = came phase arrivals := by
  rw [toFinset_arrivals_arriveAll]
  cases phase <;> exact Finset.union_empty _

theorem isComplete_iff (n : Nat) (phase : BarrierPhase) (arrivals : List (BarrierPhase × ProcessId)) :
    ((create n).arriveAll arrivals).isComplete phase = true ↔ n ≤ (came phase arrivals).card := by
  rw [isComplete, decide_eq_true_eq, OrderedMap.size_eq_card, keys_create_arriveAll,
    processCount_arriveAll]
  rfl

theorem missing_eq {n : Nat} (hn : n < IdSource.wordSize) (phase : BarrierPhase)
    (arrivals : List (BarrierPhase × ProcessId)) :
    ((create n).arriveAll arrivals).missing phase = silent n (came phase arrivals) := by
  have hcount : ((create n).arriveAll arrivals).processCount % 4294967296 = n := by
    rw [processCount_arriveAll]
    exact Nat.mod_eq_of_lt hn
  rw [missing, hcount, silent]
  refine List.filter_congr fun p _ => ?_
  rw [← keys_create_arriveAll n phase arrivals, Bool.eq_iff_iff, decide_eq_true_eq, List.mem_toFinset,
    OrderedMap.mem_keys, OrderedMap.contains]
  cases (((create n).arriveAll arrivals).arrivals phase).find? p <;> simp

end Barrier

/-! ## Waves -/

namespace Termination

variable {t : Termination} {log : Log} {queries : List Query} {process sender : ProcessId} {n wave : Nat}
  {snapshot : ProbeSnapshot}

/-- The process that answers the probe of a wave. -/
def Query.replier? (wave : Nat) : Query → Option ProcessId
  | start .. => none
  | reply id sender _ => if id = wave then some sender else none

/-- Who has answered in a wave: the coordinator, with its start, and who replied since. -/
def answered (process : ProcessId) (wave : Nat) (queries : List Query) : Finset ProcessId :=
  insert process (queries.filterMap (Query.replier? wave)).toFinset

theorem mem_answered {p : ProcessId} :
    p ∈ answered process wave queries ↔ p = process ∨ ∃ snapshot, .reply wave p snapshot ∈ queries := by
  rw [answered, Finset.mem_insert, List.mem_toFinset, List.mem_filterMap]
  refine or_congr_right ⟨?_, ?_⟩
  · rintro ⟨query, hmem, hreply⟩
    cases query with
    | start own now => cases hreply
    | reply id sender snapshot =>
      rw [Query.replier?] at hreply
      split at hreply
      · rename_i hid
        obtain rfl := Option.some.inj hreply
        exact ⟨snapshot, hid ▸ hmem⟩
      · cases hreply
  · rintro ⟨snapshot, hmem⟩
    exact ⟨_, hmem, if_pos rfl⟩

theorem answered_cons_reply :
    answered process wave (.reply wave sender snapshot :: queries) =
      insert sender (answered process wave queries) := by
  have hreply : Query.replier? wave (.reply wave sender snapshot) = some sender := if_pos rfl
  rw [answered, List.filterMap_cons_some hreply, List.toFinset_cons, Finset.insert_comm, answered]

theorem answered_cons_of_none {query : Query} (h : query.replier? wave = none) :
    answered process wave (query :: queries) = answered process wave queries := by
  rw [answered, List.filterMap_cons_none h, answered]

namespace Log

/-- What was asked since the latest wave started, the latest first. -/
def since (log : Log) : List Query := (log.takeWhile (·.2.issued?.isNone)).map (·.1)

theorem since_cons_of_none (query : Query) {answer : Answer} (h : answer.issued? = none) (log : Log) :
    since ((query, answer) :: log) = query :: log.since := by
  rw [since, List.takeWhile_cons_of_pos (by rw [h]; rfl), List.map_cons, since]

theorem since_cons_of_some (query : Query) {answer : Answer} {wave : Nat}
    (h : answer.issued? = some wave) (log : Log) : since ((query, answer) :: log) = [] := by
  rw [since, List.takeWhile_cons_of_neg (by rw [h]; exact Bool.false_ne_true), List.map_nil]

end Log

theorem onReply_of_other (hother : t.current.map Wave.id ≠ some wave) :
    t.onReply wave sender snapshot = (.ok .pending, t) := by
  cases hcurrent : t.current with
  | none => rw [onReply, hcurrent]
  | some current =>
    have hid : current.id ≠ wave := fun heq => hother (by rw [hcurrent, Option.map_some, heq])
    simp only [onReply, hcurrent, if_pos hid]

theorem onReply_of_few {current : Wave} (hcurrent : t.current = some current)
    (hfew : (current.replies.insert sender snapshot).size ≠ t.processCount) :
    t.onReply current.id sender snapshot = (.ok .pending,
      { t with current := some ⟨current.id, current.replies.insert sender snapshot⟩ }) := by
  simp only [onReply, hcurrent, ne_eq, not_true_eq_false, if_false, if_pos hfew]

/-- With as many answers as there are processes the wave under way is over. -/
theorem onReply_of_enough {current : Wave} (hcurrent : t.current = some current)
    (henough : (current.replies.insert sender snapshot).size = t.processCount) :
    (t.onReply current.id sender snapshot).1 ≠ .ok .pending ∧
      (t.onReply current.id sender snapshot).2.current = none ∧
      (t.onReply current.id sender snapshot).2.process = t.process ∧
      (t.onReply current.id sender snapshot).2.processCount = t.processCount := by
  simp only [onReply, hcurrent, henough, ne_eq, not_true_eq_false, if_false]
  split
  · refine ⟨fun hpending => ?_, rfl, rfl, rfl⟩
    rw [Except.ok.injEq, verdict] at hpending
    split at hpending <;> cases hpending
  · refine ⟨fun hpending => ?_, rfl, rfl, rfl⟩
    cases hpending

/-- The wave under way has the answers that came since its start, whoever gave them. -/
structure Attended (coordinator : ProcessId) (n : Nat) (t : Termination) (log : Log) : Prop where
  process : t.process = coordinator
  processCount : t.processCount = n
  current : ∀ current, t.current = some current →
    current.replies.keys.toFinset = answered coordinator current.id log.since

theorem attended_create (process : ProcessId) (n interval : Nat) :
    Attended process n (create process n interval) [] where
  process := rfl
  processCount := rfl
  current _ h := by cases h

namespace Attended

section

variable (h : Attended process n t log)

include h

/-- A query that changes nothing, and is no answer in the wave under way. -/
theorem skip {query : Query} {answer : Answer}
    (hissued : answer.issued? = none)
    (hother : ∀ current, t.current = some current → query.replier? current.id = none) :
    Attended process n t ((query, answer) :: log) := by
  refine ⟨h.process, h.processCount, fun current hcurrent => ?_⟩
  rw [Log.since_cons_of_none query hissued, answered_cons_of_none (hother current hcurrent),
    h.current current hcurrent]

theorem start (own : ProbeSnapshot) (now : Nat) :
    Attended process n (t.beginWave own now).2
      ((.start own now, .wave (t.beginWave own now).1) :: log) := by
  by_cases hmay : t.mayProbe now = true
  · have hbegin : t.beginWave own now = (some t.nextWave, { t with
        nextWave := t.nextWave + 1
        lastProbe := some now
        current := some ⟨t.nextWave, OrderedMap.empty.insert t.process own⟩ }) := if_pos hmay
    rw [hbegin]
    refine ⟨h.process, h.processCount, ?_⟩
    rintro current ⟨⟩
    rw [Log.since_cons_of_some (.start own now) rfl, OrderedMap.toFinset_keys_insert, h.process]
    rfl
  · rw [beginWave, if_neg hmay]
    exact h.skip rfl fun _ _ => rfl

theorem size_insert {current : Wave}
    (hcurrent : t.current = some current) (sender : ProcessId) (snapshot : ProbeSnapshot) :
    (current.replies.insert sender snapshot).size =
      (answered process current.id (.reply current.id sender snapshot :: log.since)).card := by
  rw [OrderedMap.size_eq_card, OrderedMap.toFinset_keys_insert, h.current current hcurrent,
    answered_cons_reply]

theorem reply (wave : Nat) (sender : ProcessId)
    (snapshot : ProbeSnapshot) :
    Attended process n (t.onReply wave sender snapshot).2
      ((.reply wave sender snapshot, .verdict (t.onReply wave sender snapshot).1) :: log) := by
  by_cases hother : t.current.map Wave.id = some wave
  · obtain ⟨current, hcurrent, rfl⟩ := Option.map_eq_some_iff.mp hother
    by_cases hsize : (current.replies.insert sender snapshot).size = t.processCount
    · obtain ⟨-, hnone, hprocess, hcount⟩ := onReply_of_enough hcurrent hsize
      refine ⟨hprocess.trans h.process, hcount.trans h.processCount, fun later hlater => ?_⟩
      rw [hnone] at hlater
      cases hlater
    · rw [onReply_of_few hcurrent hsize]
      refine ⟨h.process, h.processCount, ?_⟩
      rintro later ⟨⟩
      rw [Log.since_cons_of_none _ rfl, answered_cons_reply, OrderedMap.toFinset_keys_insert,
        h.current current hcurrent]
  · rw [onReply_of_other hother]
    refine h.skip rfl fun current hcurrent => if_neg ?_
    rintro rfl
    exact hother (by rw [hcurrent, Option.map_some])

/-- The step: whatever the coordinator is asked, the wave under way has the answers since its start. -/
theorem note (query : Query) :
    Attended process n (Termination.note (t, log) query).1 (Termination.note (t, log) query).2 := by
  cases query with
  | start own now => exact h.start own now
  | reply wave sender snapshot => exact h.reply wave sender snapshot

/-- A whole sequence of queries keeps the books of the waves right. -/
theorem foldl (queries : List Query) :
    Attended process n (queries.foldl Termination.note (t, log)).1
      (queries.foldl Termination.note (t, log)).2 := by
  induction queries generalizing t log with
  | nil => exact h
  | cons query rest ih => exact ih (h.note query)

theorem onReply_ne_pending_iff (wave : Nat) (sender : ProcessId)
    (snapshot : ProbeSnapshot) :
    (t.onReply wave sender snapshot).1 ≠ .ok .pending ↔ t.current.map Wave.id = some wave ∧
      (answered process wave (.reply wave sender snapshot :: log.since)).card = n := by
  by_cases hother : t.current.map Wave.id = some wave
  · obtain ⟨current, hcurrent, rfl⟩ := Option.map_eq_some_iff.mp hother
    have hsize := h.size_insert hcurrent sender snapshot
    by_cases henough : (current.replies.insert sender snapshot).size = t.processCount
    · have hover := (onReply_of_enough hcurrent henough).1
      exact iff_of_true hover ⟨hother, hsize.symm.trans (henough.trans h.processCount)⟩
    · rw [onReply_of_few hcurrent henough]
      refine iff_of_false (fun hne => hne rfl) fun hcard => henough ?_
      rw [hsize, hcard.2, h.processCount]
  · rw [onReply_of_other hother]
    exact iff_of_false (fun hne => hne rfl) fun hunder => hother hunder.1

end

end Attended

end Termination

/-! ## Completion -/

/-- Barriers and waves are completed by the number of processes heard of, whatever their names. Of a
barrier: `missing` has the members that did not come, and it is complete exactly if there are as many
strays as that; if only members came, exactly if nobody is missing. Of a wave: an answer ends it
exactly if it is the wave under way and as many processes have then answered since its start as the
cluster has; of the members as many are silent as strays answered, and none if only members did. -/
theorem collective_steps_complete_by_count (n : Nat) :
    (∀ phase arrivals,
      let b := (Barrier.create n).arriveAll arrivals
      let heard := Barrier.came phase arrivals
      (b.isComplete phase = true ↔ n ≤ heard.card) ∧
      (n < IdSource.wordSize →
        (∀ p, p ∈ b.missing phase ↔ p.index < n ∧ (phase, p) ∉ arrivals) ∧
        (b.isComplete phase = true ↔ (b.missing phase).length ≤ (strays n heard).card) ∧
        ((∀ p, (phase, p) ∈ arrivals → p.index < n) →
          (b.isComplete phase = true ↔ b.missing phase = [])))) ∧
    ∀ process interval queries wave sender snapshot,
      let t := ((Termination.create process n interval).interview queries).1
      let log := ((Termination.create process n interval).interview queries).2
      let heard := Termination.answered process wave (.reply wave sender snapshot :: log.since)
      ((t.onReply wave sender snapshot).1 ≠ .ok .pending ↔
        t.current.map Wave.id = some wave ∧ heard.card = n) ∧
      (n < IdSource.wordSize → (t.onReply wave sender snapshot).1 ≠ .ok .pending →
        (silent n heard).length = (strays n heard).card ∧
        ((∀ p ∈ heard, p.index < n) → ∀ i : Fin n, .at i ∈ heard)) := by
  constructor
  · intro phase arrivals b heard
    have hcount : b.isComplete phase = true ↔ n ≤ heard.card := Barrier.isComplete_iff n phase arrivals
    refine ⟨hcount, fun hn => ?_⟩
    have hmissing : b.missing phase = silent n heard := Barrier.missing_eq hn phase arrivals
    rw [hcount, hmissing]
    refine ⟨fun p => ?_, le_card_iff hn, fun hmembers => ⟨fun hle => ?_, fun hnone => ?_⟩⟩
    · rw [mem_silent hn, Barrier.mem_came]
    · refine List.eq_nil_iff_forall_not_mem.mpr fun p hp => ?_
      obtain ⟨hlt, hnot⟩ := (mem_silent hn).mp hp
      exact hnot (mem_of_card hn hle (fun q hq => hmembers q (Barrier.mem_came.mp hq)) hlt)
    · rw [le_card_iff hn, hnone]
      exact Nat.zero_le _
  · intro process interval queries wave sender snapshot t log heard
    have hattended : Termination.Attended process n t log :=
      (Termination.attended_create process n interval).foldl queries
    have hover := hattended.onReply_ne_pending_iff wave sender snapshot
    refine ⟨hover, fun hn hne => ?_⟩
    have hcard : heard.card = n := (hover.mp hne).2
    have hcensus := census hn heard
    refine ⟨by omega, fun hmembers i => mem_of_card hn hcard.ge hmembers ?_⟩
    rw [index_at hn]
    exact i.isLt

/-- Three processes, of which 1 has reached only the teardown, so the start is not complete. In a
cluster of two a wave is over with the answer of process 7, and as many members are silent as strays
answered. -/
theorem collective_steps_complete_by_count_for_few :
    (let b := (Barrier.create 3).arriveAll
        [(.start, ⟨0⟩), (.teardown, ⟨1⟩), (.start, ⟨2⟩), (.start, ⟨0⟩)]
     b.missing .start = [⟨1⟩] ∧ ¬ b.isComplete .start = true) ∧
    let idle : ProbeSnapshot := ⟨true, 0, 0⟩
    let t := ((Termination.create ⟨0⟩ 2 20).interview [.start idle 0]).1
    let heard := Termination.answered ⟨0⟩ 0 [.reply 0 ⟨7⟩ idle]
    (t.onReply 0 ⟨7⟩ idle).1 ≠ .ok .pending ∧ (silent 2 heard).length = (strays 2 heard).card := by
  constructor
  · intro b
    have hmissing : b.missing .start = [⟨1⟩] := by decide
    have hmembers : ∀ p : ProcessId, (BarrierPhase.start, p) ∈
        [(.start, ⟨0⟩), (.teardown, ⟨1⟩), (.start, ⟨2⟩), (.start, ⟨0⟩)] → p.index < 3 := by
      intro p hp
      simp only [List.mem_cons, Prod.mk.injEq, List.not_mem_nil, or_false, reduceCtorEq, false_and,
        true_and, false_or] at hp
      rcases hp with rfl | rfl | rfl <;> decide
    have hcomplete :=
      (((collective_steps_complete_by_count 3).1 .start _).2 (by decide)).2.2 hmembers
    refine ⟨hmissing, ?_⟩
    rw [hcomplete, hmissing]
    exact List.cons_ne_nil _ _
  · intro idle t heard
    obtain ⟨hover, hcensus⟩ :=
      (collective_steps_complete_by_count 2).2 ⟨0⟩ 20 [.start idle 0] 0 ⟨7⟩ idle
    have hne := hover.mpr ⟨rfl, rfl⟩
    exact ⟨hne, (hcensus (by decide) hne).1⟩

/-- Two processes. A barrier is complete with the arrivals of processes 7 and 9, though both members are
missing. And all work is found to be over when process 7 has answered in two waves, though process 1
never did. -/
theorem collective_steps_complete_without_their_members :
    (¬ ∀ phase arrivals, ((Barrier.create 2).arriveAll arrivals).isComplete phase = true ↔
      ((Barrier.create 2).arriveAll arrivals).missing phase = []) ∧
    ¬ ∀ queries wave sender snapshot totals,
      let t := ((Termination.create ⟨0⟩ 2 20).interview queries).1
      let log := ((Termination.create ⟨0⟩ 2 20).interview queries).2
      (t.onReply wave sender snapshot).1 = .ok (.quiescent totals) → ∀ i : Fin 2,
        .at i ∈ Termination.answered ⟨0⟩ wave (.reply wave sender snapshot :: log.since) := by
  constructor
  · intro h
    have hcomplete := (h .start [(.start, ⟨7⟩), (.start, ⟨9⟩)]).mp (by decide)
    exact absurd hcomplete (by decide)
  · intro h
    have hmem := h [.start ⟨true, 0, 0⟩ 0, .reply 0 ⟨7⟩ ⟨true, 0, 0⟩, .start ⟨true, 0, 0⟩ 20] 1 ⟨7⟩
      ⟨true, 0, 0⟩ ⟨true, 0, 0⟩ (by decide) 1
    obtain heq | ⟨snapshot, hreply⟩ := Termination.mem_answered.mp hmem
    · exact absurd heq (by decide)
    · have hsender := List.mem_singleton.mp hreply
      injection hsender with _ hprocess
      exact absurd hprocess (by decide)

end PetriCluster
