import PetriCluster.Proofs.Waves

/-!
# What the history of the waves decides

The coordinator is asked to start waves and is brought answers, late ones and repeated ones among them.
What it says next depends on all it was asked and has said before. Read from that record, the latest
entry first, it is: which wave is under way, since when, which answers it has, and which totals the wave
before had (`Termination.Tracks`).
-/

namespace PetriCluster

namespace WaveTotals

variable {n : Nat}

/-- The sum of the answers of all processes. -/
def of (answers : Fin n → ProbeSnapshot) : WaveTotals :=
  ⟨decide (∀ i, (answers i).idle = true), ∑ i, (answers i).sent.toNat,
    ∑ i, (answers i).received.toNat⟩

end WaveTotals

namespace OrderedMap

variable {n : Nat} {m : OrderedMap ProcessId ProbeSnapshot}

/-- There are as many entries as processes if every process has one. -/
theorem size_eq_iff (hn : n < IdSource.wordSize)
    (hkeys : ∀ p, m.find? p ≠ none → ∃ i : Fin n, p = .at i) :
    m.size = n ↔ ∀ i : Fin n, m.find? (.at i) ≠ none := by
  have hsub : m.keys.toFinset ⊆ Finset.univ.image (ProcessId.at (n := n)) := by
    intro p hp
    obtain ⟨i, rfl⟩ := hkeys p (mem_keys.mp (List.mem_toFinset.mp hp))
    exact Finset.mem_image_of_mem _ (Finset.mem_univ i)
  have hcard : (Finset.univ.image (ProcessId.at (n := n))).card = n := by
    rw [Finset.card_image_of_injective _ fun i j h => ProcessId.at_inj hn h, Finset.card_fin]
  rw [size_eq_card]
  constructor
  · intro hsize i
    have heq := Finset.eq_of_subset_of_card_le hsub (hcard.trans hsize.symm).le
    have hmem : ProcessId.at i ∈ m.keys.toFinset :=
      heq ▸ Finset.mem_image_of_mem _ (Finset.mem_univ i)
    exact mem_keys.mp (List.mem_toFinset.mp hmem)
  · intro hall
    have hsup : Finset.univ.image (ProcessId.at (n := n)) ⊆ m.keys.toFinset := by
      intro p hp
      obtain ⟨i, -, rfl⟩ := Finset.mem_image.mp hp
      exact List.mem_toFinset.mpr (mem_keys.mpr (hall i))
    rw [hsub.antisymm hsup, hcard]

/-- The totals of the entries are those of the answers of the processes. -/
theorem totals_values (hn : n < IdSource.wordSize) {answers : Fin n → ProbeSnapshot}
    (hkeys : ∀ p, m.find? p ≠ none → ∃ i : Fin n, p = .at i)
    (hall : ∀ i, m.find? (.at i) = some (answers i)) :
    WaveTotals.sum m.values = .of answers := by
  have hentries : ∀ e ∈ m.entries, ∃ i : Fin n, e.1 = .at i := fun e he =>
    hkeys e.1 (by simp [m.find?_of_mem he])
  obtain ⟨snap, hsnap, hsum⟩ := sum_values hn m hentries
    ((size_eq_iff hn hkeys).mpr fun i => by simp [hall])
  obtain rfl : snap = answers := funext fun i => by
    have h := (hsnap i).1
    rw [hall i] at h
    exact (Option.some.inj h).symm
  have hidle : m.values.all (·.idle) = decide (∀ i, (snap i).idle = true) := by
    rw [Bool.eq_iff_iff, List.all_eq_true, decide_eq_true_eq]
    constructor
    · exact fun h i => h _ (hsnap i).2
    · intro h v hv
      obtain ⟨e, he, rfl⟩ := List.mem_map.mp hv
      obtain ⟨i, hi⟩ := hentries e he
      have hfind := m.find?_of_mem he
      rw [hi, hall i] at hfind
      rw [← Option.some.inj hfind]
      exact h i
  rw [WaveTotals.sum_eq, hidle, hsum, hsum, WaveTotals.of]

end OrderedMap

namespace Termination

/-! ## The record of the waves -/

/-- What the coordinator is asked. -/
inductive Query where
  | start (own : ProbeSnapshot) (now : Nat)
  | reply (wave : Nat) (sender : ProcessId) (snapshot : ProbeSnapshot)

/-- What the coordinator says. -/
inductive Answer where
  | wave (id : Option Nat)
  | verdict (result : Except Crash Verdict)

/-- The coordinator says something and goes on. -/
def ask (t : Termination) : Query → Answer × Termination
  | .start own now => (.wave (t.beginWave own now).1, (t.beginWave own now).2)
  | .reply wave sender snapshot =>
    (.verdict (t.onReply wave sender snapshot).1, (t.onReply wave sender snapshot).2)

/-- The wave that was begun. -/
def Answer.issued? : Answer → Option Nat
  | wave id => id
  | verdict _ => none

/-- The totals of the wave that ended. -/
def Answer.totals? : Answer → Option WaveTotals
  | verdict (.ok (.ongoing totals)) | verdict (.ok (.quiescent totals)) => some totals
  | _ => none

/-- What was asked and said, the latest first. -/
abbrev Log := List (Query × Answer)

/-- The coordinator and its record after one more question. -/
def note (s : Termination × Log) (query : Query) : Termination × Log :=
  ((s.1.ask query).2, (query, (s.1.ask query).1) :: s.2)

/-- The coordinator and its record when it has been asked one thing after the other. -/
def interview (t : Termination) (queries : List Query) : Termination × Log :=
  queries.foldl note (t, [])

namespace Log

/-- The waves that were started, the latest first. -/
def issued (log : Log) : List Nat := log.filterMap (·.2.issued?)

/-- The totals of the waves that were completed, the latest first. -/
def totals (log : Log) : List WaveTotals := log.filterMap (·.2.totals?)

/-- The wave under way: the latest, if it was not completed since. -/
def underWay? : Log → Option Nat
  | [] => none
  | (_, answer) :: earlier =>
    if answer.issued?.isSome then answer.issued?
    else if answer.totals?.isSome then none
    else underWay? earlier

/-- When a wave was begun last. -/
def lastStart? : Log → Option Nat
  | [] => none
  | (.start _ now, .wave (some _)) :: _ => some now
  | _ :: earlier => lastStart? earlier

/-- The latest answer of a process in the latest wave. With the start of a wave the coordinator has
answered. -/
def latest? (p : ProcessId) : Log → Option ProbeSnapshot
  | [] => none
  | (.start own _, answer) :: earlier =>
    if answer.issued?.isSome then (if p = ⟨0⟩ then some own else none) else latest? p earlier
  | (.reply wave sender snapshot, _) :: earlier =>
    if underWay? earlier = some wave ∧ sender = p then some snapshot else latest? p earlier

/-- The latest answers when one more is taken in: a process that answers again replaces what it said. -/
def latestWith (log : Log) (sender : ProcessId) (snapshot : ProbeSnapshot) (p : ProcessId) :
    Option ProbeSnapshot :=
  if sender = p then some snapshot else log.latest? p

/-- If each of `n` processes has an answer in the latest wave, the sums fit in 64 bits. -/
def Fits (n : Nat) (log : Log) : Prop :=
  ∀ answers : Fin n → ProbeSnapshot, (∀ i, log.latest? (.at i) = some (answers i)) →
    (WaveTotals.of answers).fits = true

end Log

/-- The sender is a process of the cluster. -/
def Query.Within (n : Nat) : Query → Prop
  | start .. => True
  | reply _ sender _ => sender.index < n

instance (n : Nat) : DecidablePred (Query.Within n)
  | .start .. => .isTrue trivial
  | .reply _ sender _ => inferInstanceAs (Decidable (sender.index < n))

/-! ## The state of the coordinator -/

/-- The answers gathered by a coordinator of `n` processes are those that the record shows. -/
structure Gathers (n : Nat) (log : Log) (replies : OrderedMap ProcessId ProbeSnapshot) : Prop where
  find : ∀ p, replies.find? p = log.latest? p
  keys : ∀ p, replies.find? p ≠ none → ∃ i : Fin n, p = .at i

/-- The coordinator of `n` processes knows what its record shows. -/
structure Tracks (n interval : Nat) (t : Termination) (log : Log) : Prop where
  process : t.process = ⟨0⟩
  processCount : t.processCount = n
  probeInterval : t.probeInterval = interval
  nextWave : t.nextWave = log.issued.length
  numbered : log.issued.reverse = List.range log.issued.length
  lastProbe : t.lastProbe = log.lastStart?
  completed : t.completed = log.totals.length
  previous : t.previous = log.totals.head?
  resting : log.underWay? = none → t.current = none
  current : ∀ wave, log.underWay? = some wave → ∃ replies, t.current = some ⟨wave, replies⟩ ∧
    Gathers n log replies

variable {n interval : Nat} {t : Termination} {log : Log} {wave : Nat} {sender : ProcessId}
  {snapshot : ProbeSnapshot}

theorem Log.latest?_reply (hunder : log.underWay? = some wave) (answer : Answer) (p : ProcessId) :
    Log.latest? p ((.reply wave sender snapshot, answer) :: log) = log.latestWith sender snapshot p := by
  simp [latest?, latestWith, hunder]

theorem Gathers.insert {replies : OrderedMap ProcessId ProbeSnapshot} (h : Gathers n log replies)
    (hn : n < IdSource.wordSize) (hsender : sender.index < n) (hunder : log.underWay? = some wave)
    (answer : Answer) :
    Gathers n ((.reply wave sender snapshot, answer) :: log) (replies.insert sender snapshot) where
  find p := by
    rw [Log.latest?_reply hunder, Log.latestWith]
    split
    · rename_i heq
      rw [heq, OrderedMap.find?_insert_self]
    · rename_i hne
      rw [OrderedMap.find?_insert_of_ne _ hne, h.find]
  keys p hp := by
    by_cases heq : sender = p
    · exact ProcessId.exists_at hn (heq ▸ hsender)
    · rw [OrderedMap.find?_insert_of_ne _ heq] at hp
      exact h.keys p hp

theorem Log.totals_cons (query : Query) {answer : Answer} {totals : WaveTotals}
    (h : answer.totals? = some totals) (log : Log) :
    Log.totals ((query, answer) :: log) = totals :: log.totals :=
  List.filterMap_cons_some h

theorem totals?_verdict (previous : Option WaveTotals) (totals : WaveTotals) :
    Answer.totals? (.verdict (.ok (verdict previous totals))) = some totals := by
  rw [verdict]
  split <;> rfl

theorem tracks_create (n interval : Nat) : Tracks n interval (create ⟨0⟩ n interval) [] where
  process := rfl
  processCount := rfl
  probeInterval := rfl
  nextWave := rfl
  numbered := rfl
  lastProbe := rfl
  completed := rfl
  previous := rfl
  resting _ := rfl
  current _ h := by cases h

namespace Tracks

section

variable (h : Tracks n interval t log)

include h

theorem mayProbe_iff (hn : 2 ≤ n) (now : Nat) :
    t.mayProbe now = true ↔
      log.underWay? = none ∧ ∀ last, log.lastStart? = some last → interval ≤ now - last := by
  have hcurrent : t.current.isNone = true ↔ log.underWay? = none := by
    rw [Option.isNone_iff_eq_none]
    refine ⟨fun hnone => ?_, h.resting⟩
    by_contra hsome
    obtain ⟨wave, hwave⟩ := Option.ne_none_iff_exists'.mp hsome
    obtain ⟨current, heq, -⟩ := h.current wave hwave
    simp [hnone] at heq
  have hcoordinator : t.isCoordinator = true := by rw [isCoordinator, h.process]; rfl
  rw [mayProbe, Bool.and_eq_true, Bool.and_eq_true, Bool.and_eq_true, hcurrent, hcoordinator,
    h.processCount, h.lastProbe, h.probeInterval]
  cases log.lastStart? <;> simp [hn]

theorem onReply_of_ne (hne : log.underWay? ≠ some wave) :
    t.onReply wave sender snapshot = (.ok .pending, t) := by
  rcases hunder : log.underWay? with _ | under
  · simp [onReply, h.resting hunder]
  · obtain ⟨replies, hcurrent, -⟩ := h.current under hunder
    have hid : under ≠ wave := fun heq => hne (heq ▸ hunder)
    simp [onReply, hcurrent, hid]

theorem onReply_of_missing (hn : n < IdSource.wordSize)
    (hsender : sender.index < n) (hunder : log.underWay? = some wave) {i : Fin n}
    (hmissing : log.latestWith sender snapshot (.at i) = none) :
    ∃ replies, t.onReply wave sender snapshot =
        (.ok .pending, { t with current := some ⟨wave, replies⟩ }) ∧
      Gathers n ((.reply wave sender snapshot, .verdict (.ok .pending)) :: log) replies := by
  obtain ⟨replies, hcurrent, hgathers⟩ := h.current wave hunder
  have hnext : Gathers n ((.reply wave sender snapshot, .verdict (.ok .pending)) :: log) _ :=
    hgathers.insert hn hsender hunder (.verdict (.ok .pending))
  refine ⟨_, ?_, hnext⟩
  have hsize : (replies.insert sender snapshot).size ≠ t.processCount := by
    rw [h.processCount, Ne, OrderedMap.size_eq_iff hn hnext.keys]
    intro hall
    refine hall i ?_
    rw [hnext.find, Log.latest?_reply hunder, hmissing]
  simp [onReply, hcurrent, hsize]

theorem onReply_of_all (hn : n < IdSource.wordSize)
    (hsender : sender.index < n) (hunder : log.underWay? = some wave)
    {answers : Fin n → ProbeSnapshot}
    (hall : ∀ i, log.latestWith sender snapshot (.at i) = some (answers i))
    (hfits : (WaveTotals.of answers).fits = true) :
    t.onReply wave sender snapshot =
      (.ok (verdict log.totals.head? (.of answers)), { t with
        current := none
        completed := t.completed + 1
        previous := some (.of answers) }) := by
  obtain ⟨replies, hcurrent, hgathers⟩ := h.current wave hunder
  have hnext : Gathers n ((.reply wave sender snapshot, .verdict (.ok .pending)) :: log) _ :=
    hgathers.insert hn hsender hunder (.verdict (.ok .pending))
  have hfind (i : Fin n) : (replies.insert sender snapshot).find? (.at i) = some (answers i) := by
    rw [hnext.find, Log.latest?_reply hunder, hall]
  have hsize : (replies.insert sender snapshot).size = t.processCount := by
    rw [h.processCount, OrderedMap.size_eq_iff hn hnext.keys]
    simp [hfind]
  have htotals := OrderedMap.totals_values hn hnext.keys hfind
  simp [onReply, hcurrent, hsize, htotals, hfits, h.previous]

end

/-! ## One question, and all of them -/

section

variable (h : Tracks n interval t log)

include h

theorem skip {query : Query} {answer : Answer}
    (hissued : answer.issued? = none) (htotals : answer.totals? = none)
    (hlatest : ∀ p, Log.latest? p ((query, answer) :: log) = log.latest? p) :
    Tracks n interval t ((query, answer) :: log) := by
  have hstart : Log.lastStart? ((query, answer) :: log) = log.lastStart? := by
    cases query <;> cases answer <;> simp_all [Log.lastStart?, Answer.issued?]
  have hunder : Log.underWay? ((query, answer) :: log) = log.underWay? := by
    simp [Log.underWay?, hissued, htotals]
  have hsame : Log.issued ((query, answer) :: log) = log.issued := by simp [Log.issued, hissued]
  have hover : Log.totals ((query, answer) :: log) = log.totals := by simp [Log.totals, htotals]
  constructor
  case current =>
    intro wave hwave
    obtain ⟨replies, hcurrent, hgathers⟩ := h.current wave (hunder ▸ hwave)
    exact ⟨replies, hcurrent, fun p => (hgathers.find p).trans (hlatest p).symm, hgathers.keys⟩
  case resting => exact fun hrest => h.resting (hunder ▸ hrest)
  all_goals simp only [hstart, hsame, hover, h.process, h.processCount, h.probeInterval, h.nextWave,
    h.numbered, h.lastProbe, h.completed, h.previous]

section

variable (hn : n < IdSource.wordSize)

include hn

theorem start (hpos : 2 ≤ n)
    (own : ProbeSnapshot) (now : Nat) :
    Tracks n interval (t.beginWave own now).2
      ((.start own now, .wave (t.beginWave own now).1) :: log) := by
  by_cases hmay : t.mayProbe now = true
  · have hbegin : t.beginWave own now = (some t.nextWave, { t with
        nextWave := t.nextWave + 1
        lastProbe := some now
        current := some ⟨t.nextWave, OrderedMap.empty.insert t.process own⟩ }) := if_pos hmay
    have hissued : Log.issued ((.start own now, .wave (some t.nextWave)) :: log) =
        t.nextWave :: log.issued := rfl
    rw [hbegin]
    constructor
    case current =>
      rintro wave ⟨⟩
      refine ⟨_, rfl, fun p => ?_, fun p hp => ?_⟩
      · by_cases hp : p = ⟨0⟩
        · simp [Log.latest?, Answer.issued?, hp, h.process]
        · simp [Log.latest?, Answer.issued?, hp, h.process,
            OrderedMap.find?_insert_of_ne _ (Ne.symm hp)]
      · by_cases hzero : p = t.process
        · refine ProcessId.exists_at hn ?_
          rw [hzero, h.process]
          exact Nat.lt_of_lt_of_le Nat.zero_lt_two hpos
        · simp [OrderedMap.find?_insert_of_ne _ (Ne.symm hzero)] at hp
    case resting =>
      rintro ⟨⟩
    case numbered =>
      rw [hissued, List.reverse_cons, h.numbered, List.length_cons, List.range_succ, h.nextWave]
    case nextWave => rw [hissued, List.length_cons, ← h.nextWave]
    case lastProbe => rfl
    case completed => exact h.completed
    case previous => exact h.previous
    all_goals simp only [h.process, h.processCount, h.probeInterval]
  · rw [beginWave, if_neg hmay]
    exact h.skip rfl rfl fun p => by simp [Log.latest?, Answer.issued?]

theorem reply (hsender : sender.index < n)
    (hfits : Log.Fits n
      ((.reply wave sender snapshot, .verdict (t.onReply wave sender snapshot).1) :: log)) :
    Tracks n interval (t.onReply wave sender snapshot).2
      ((.reply wave sender snapshot, .verdict (t.onReply wave sender snapshot).1) :: log) := by
  by_cases hunder : log.underWay? = some wave
  · by_cases hmissing : ∃ i : Fin n, log.latestWith sender snapshot (.at i) = none
    · obtain ⟨i, hi⟩ := hmissing
      obtain ⟨replies, heq, hgathers⟩ := h.onReply_of_missing hn hsender hunder hi
      rw [heq]
      -- The answer is noted, nothing else changes.
      exact { h with
        resting := fun hrest => by simp [Log.underWay?, Answer.issued?, Answer.totals?, hunder] at hrest
        current := fun w hw => by
          simp only [Log.underWay?, Answer.issued?, Answer.totals?, hunder] at hw
          obtain rfl : wave = w := by simpa using hw
          exact ⟨replies, rfl, hgathers⟩ }
    · have hsome (i : Fin n) : ∃ a, log.latestWith sender snapshot (.at i) = some a :=
        Option.ne_none_iff_exists'.mp fun hnone => hmissing ⟨i, hnone⟩
      choose answers hall using hsome
      have hfit := hfits answers fun i => by rw [Log.latest?_reply hunder, hall]
      rw [h.onReply_of_all hn hsender hunder hall hfit]
      have hsome := totals?_verdict log.totals.head? (.of answers)
      have htotals := Log.totals_cons (.reply wave sender snapshot) hsome log
      -- The wave is over: its totals are the latest.
      exact { h with
        completed := by rw [htotals, List.length_cons, h.completed]
        previous := by rw [htotals, List.head?_cons]
        resting := fun _ => rfl
        current := fun w hw => by simp [Log.underWay?, Answer.issued?, hsome] at hw }
  · rw [h.onReply_of_ne hunder]
    exact h.skip rfl rfl fun p => by simp [Log.latest?, hunder]

/-- The step: whatever the coordinator is asked, it knows what its record then shows. -/
theorem note (hpos : 2 ≤ n)
    {query : Query} (hquery : query.Within n)
    (hfits : Log.Fits n (Termination.note (t, log) query).2) :
    Tracks n interval (Termination.note (t, log) query).1 (Termination.note (t, log) query).2 := by
  cases query with
  | start own now => exact h.start hn hpos own now
  | reply wave sender snapshot => exact h.reply hn hquery hfits

/-- The run: the coordinator knows what its record shows, whatever it was asked. -/
theorem foldl (hpos : 2 ≤ n)
    {queries : List Query} (hqueries : ∀ query ∈ queries, query.Within n)
    (hfits : ∀ early, early <+: queries → Log.Fits n (early.foldl Termination.note (t, log)).2) :
    Tracks n interval (queries.foldl Termination.note (t, log)).1
      (queries.foldl Termination.note (t, log)).2 := by
  induction queries generalizing t log with
  | nil => exact h
  | cons query rest ih =>
    have hstep := h.note hn hpos (hqueries query List.mem_cons_self)
      (hfits [query] (List.prefix_cons_iff.mpr (.inr ⟨[], rfl, List.nil_prefix⟩)))
    exact ih hstep (fun q hq => hqueries q (List.mem_cons_of_mem _ hq)) fun early hearly =>
      hfits (query :: early) (List.cons_prefix_cons.mpr ⟨rfl, hearly⟩)

end

end

end Tracks

/-- What the coordinator of `n` processes says next is what its record shows, whatever it was asked: the
waves are numbered from 0; one starts if none is under way and the interval since the last start has
passed. An answer to another wave than that under way changes nothing. With an answer to this one the
wave goes on while a process has not answered in it, and else is completed with the sums of the latest
answers: all work is over if all were idle, as many packets were received as sent, and the wave completed
before had the same totals. -/
theorem verdicts_follow_the_record {n interval : Nat} (hpos : 2 ≤ n) (hn : n < IdSource.wordSize)
    (queries : List Query) (hqueries : ∀ query ∈ queries, query.Within n)
    (hfits : ∀ early, early <+: queries → Log.Fits n ((create ⟨0⟩ n interval).interview early).2) :
    let t := ((create ⟨0⟩ n interval).interview queries).1
    let log := ((create ⟨0⟩ n interval).interview queries).2
    log.issued.reverse = List.range log.issued.length ∧
    t.completed = log.totals.length ∧
    (∀ own now wave, (t.beginWave own now).1 = some wave ↔ wave = log.issued.length ∧
      log.underWay? = none ∧ ∀ last, log.lastStart? = some last → interval ≤ now - last) ∧
    (∀ wave sender snapshot, log.underWay? ≠ some wave →
      t.onReply wave sender snapshot = (.ok .pending, t)) ∧
    ∀ wave sender snapshot, log.underWay? = some wave → sender.index < n →
      ((∃ i : Fin n, log.latestWith sender snapshot (.at i) = none) →
        (t.onReply wave sender snapshot).1 = .ok .pending) ∧
      ∀ answers : Fin n → ProbeSnapshot,
        (∀ i, log.latestWith sender snapshot (.at i) = some (answers i)) →
        let totals : WaveTotals := ⟨decide (∀ i, (answers i).idle = true),
          ∑ i, (answers i).sent.toNat, ∑ i, (answers i).received.toNat⟩
        totals.fits = true →
        (t.onReply wave sender snapshot).1 = .ok
          (if totals.allIdle = true ∧ totals.sent = totals.received ∧
            log.totals.head? = some totals then .quiescent totals else .ongoing totals) := by
  intro t log
  have h : Tracks n interval t log := (tracks_create n interval).foldl hn hpos hqueries hfits
  refine ⟨h.numbered, h.completed, fun own now wave => ?_,
    fun wave sender snapshot hne => h.onReply_of_ne hne,
    fun wave sender snapshot hunder hsender => ⟨?_, ?_⟩⟩
  · rw [← h.mayProbe_iff hpos, ← h.nextWave, beginWave]
    by_cases hmay : t.mayProbe now = true
    · simp [hmay, eq_comm]
    · simp [hmay]
  · rintro ⟨i, hi⟩
    obtain ⟨replies, heq, -⟩ := h.onReply_of_missing hn hsender hunder hi
    rw [heq]
  · intro answers hall totals hfit
    rw [h.onReply_of_all hn hsender hunder hall hfit, verdict]
    simp [WaveTotals.balanced, WaveTotals.of, totals, and_assoc]

/-- Two processes: a wave that is completed, a second one, and in it a late answer to the first. The
answer of process 1 to the second then shows that all work is over. -/
theorem verdicts_follow_the_record_after_late_answer :
    let idle : ProbeSnapshot := ⟨true, 3, 3⟩
    let queries : List Query :=
      [.start idle 0, .reply 0 ⟨1⟩ idle, .start idle 20, .reply 0 ⟨1⟩ ⟨false, 9, 3⟩]
    (((create ⟨0⟩ 2 20).interview queries).1.onReply 1 ⟨1⟩ idle).1 =
      .ok (.quiescent ⟨true, 6, 6⟩) := by
  intro idle queries
  have hfits : ∀ early, early <+: queries →
      Log.Fits 2 ((create ⟨0⟩ 2 20).interview early).2 := by
    intro early hearly answers hall
    have hshort : early ∈ queries.inits := (List.mem_inits _ _).mpr hearly
    simp only [queries, List.inits, List.map_cons, List.map_nil, List.mem_cons, List.not_mem_nil,
      or_false] at hshort
    -- Process 1 has an answer only when the first wave is completed.
    rcases hshort with rfl | rfl | rfl | rfl | rfl
    · cases hall 1
    · cases hall 1
    · have hzero : some idle = some (answers 0) := hall 0
      have hone : some idle = some (answers 1) := hall 1
      simp only [WaveTotals.of, WaveTotals.fits, Fin.sum_univ_two, ← Option.some.inj hzero,
        ← Option.some.inj hone]
      decide
    · cases hall 1
    · cases hall 1
  obtain ⟨-, -, -, -, hnext⟩ :=
    verdicts_follow_the_record (le_refl 2) (by decide) queries (by decide) hfits
  have hwave := hnext 1 ⟨1⟩ idle rfl (by decide)
  rw [hwave.2 (fun _ => idle) (by decide) (by decide)]
  rfl

end Termination

end PetriCluster
