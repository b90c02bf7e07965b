import PetriCluster.Transport.Tcp

/-!
# The course of a writer

Three lists tell what a writer has done so far: the frames that came into its queue, the frames it has
written, and the answers it has given. However the connection and the writes turn out, the frames are
answered for in the order they came: first those that were written, then at most one that failed with
the link, then those left behind it (`Writer.Keeps`).
-/

namespace PetriCluster.Tcp

/-- The frame was written. -/
def Answer.done (frame : OutboundFrame) : Answer := ⟨frame.ticket, .ok ()⟩

/-- The frame was not written. -/
def Answer.failed (cause : TransportError) (frame : OutboundFrame) : Answer :=
  ⟨frame.ticket, .error cause⟩

/-- What a writer has in hand as long as it has lost nothing. -/
inductive WriterStage.Holds : WriterStage → List OutboundFrame → Prop
  | waiting : Holds .waiting []
  | connecting (frame : OutboundFrame) : Holds (.connecting frame) [frame]
  | writing (frame : OutboundFrame) : Holds (.writing frame) [frame]
  | losing (frame : OutboundFrame) {cause : TransportError} : cause.isLinkFailure = true →
      Holds (.losing frame cause) [frame]

/-- What can become of the frame at a position of a queue of which a number of frames was written:
it was written, or it is the first behind these and failed with the link, or it was left behind. -/
inductive Fate (peer : ProcessId) (written i : Nat) (outcome : Except TransportError Unit) : Prop
  | written : i < written → outcome = .ok () → Fate peer written i outcome
  | failed {e : TransportError} : i = written → outcome = .error e → e.isLinkFailure = true →
      Fate peer written i outcome
  | behind : written < i → outcome = .error (.unroutable peer .failedMeanwhile) →
      Fate peer written i outcome

namespace Writer

/-- What the frames queued, the frames written and the answers given so far have to do with a writer. -/
inductive Keeps (w : Writer) (queued written : List OutboundFrame) (answered : List Answer) : Prop
  /-- All frames but the one in hand and those in the queue are written and answered for. -/
  | working (hand : List OutboundFrame) (stage : w.stage.Holds hand) (healthy : w.isHealthy = true)
      (isOpen : w.isOpen = true) (queued_eq : queued = written ++ (hand ++ w.queue))
      (answered_eq : answered = written.map .done)
  | answering (earlier : List OutboundFrame) (frame : OutboundFrame)
      (stage : w.stage = .answering frame (.ok ())) (healthy : w.isHealthy = true)
      (isOpen : w.isOpen = true) (queued_eq : queued = written ++ w.queue)
      (written_eq : written = earlier ++ [frame]) (answered_eq : answered = earlier.map .done)
  /-- The peer is marked as gone, and the answer for the frame in hand is due. -/
  | reporting (frame : OutboundFrame) (cause : TransportError) (stage : w.stage = .reporting frame cause)
      (link : cause.isLinkFailure = true) (healthy : w.isHealthy = false) (isOpen : w.isOpen = true)
      (queued_eq : queued = written ++ frame :: w.queue) (answered_eq : answered = written.map .done)
  /-- The link failed with a frame, and those behind it were dropped up to the queue. -/
  | lost (frame : OutboundFrame) (cause : TransportError) (dropped : List OutboundFrame)
      (stage : w.stage = .closing ∧ dropped = [] ∧ w.isOpen = true ∨
        w.stage = .draining ∧ w.isOpen = false ∨
        w.stage = .ended ∧ w.queue = [] ∧ w.isOpen = false)
      (link : cause.isLinkFailure = true) (healthy : w.isHealthy = false)
      (queued_eq : queued = written ++ frame :: (dropped ++ w.queue))
      (answered_eq : answered =
        written.map .done ++ .failed cause frame :: dropped.map (.failed w.unroutable))

/-- The frames written at an event: one or none. -/
def wrote (w : Writer) : Event → List OutboundFrame
  | .written =>
    match w.stage with
    | .writing frame => [frame]
    | _ => []
  | _ => []

variable {w : Writer} {queued written : List OutboundFrame} {answered : List Answer}

@[simp] theorem peer_after (event : Event) : (w.after event).peer = w.peer := by
  cases event <;> cases hstage : w.stage <;>
    simp [after, proceed, pick, drain, fail, hstage] <;> split <;> rfl

theorem keeps_nil (hstage : w.stage = .waiting) (hqueue : w.queue = []) (hhealthy : w.isHealthy = true)
    (hopen : w.isOpen = true) : w.Keeps [] [] [] := by
  refine .working [] ?_ hhealthy hopen ?_ rfl
  · rw [hstage]
    exact .waiting
  · simp [hqueue]

namespace Keeps

section

variable (h : w.Keeps queued written answered)

include h

theorem push (hopen : w.isOpen = true) (frame : OutboundFrame) :
    (w.push frame).Keeps (queued ++ [frame]) written answered := by
  cases h with
  | working hand hstage hhealthy _ hqueued hanswered =>
    exact .working hand hstage hhealthy hopen (by simp [hqueued, Writer.push]) hanswered
  | answering earlier last hstage hhealthy _ hqueued hwritten hanswered =>
    exact .answering earlier last hstage hhealthy hopen (by simp [hqueued, Writer.push]) hwritten hanswered
  | reporting first cause hstage hlink hhealthy _ hqueued hanswered =>
    exact .reporting first cause hstage hlink hhealthy hopen (by simp [hqueued, Writer.push]) hanswered
  | lost first cause dropped hstage hlink hhealthy hqueued hanswered =>
    -- the queue is still open, so nothing has been dropped yet
    rcases hstage with ⟨hstage, hdropped, -⟩ | ⟨-, hclosed⟩ | ⟨-, -, hclosed⟩
    · exact .lost first cause dropped (.inl ⟨hstage, hdropped, hopen⟩) hlink hhealthy
        (by simp [hqueued, Writer.push]) hanswered
    · rw [hopen] at hclosed
      cases hclosed
    · rw [hopen] at hclosed
      cases hclosed

theorem pick (hstage : w.stage = .waiting) :
    w.pick.Keeps queued written answered := by
  cases h with
  | working hand hholds hhealthy hopen hqueued hanswered =>
    rw [hstage] at hholds
    cases hholds
    unfold Writer.pick
    cases hqueue : w.queue with
    | nil => exact .working [] (hstage ▸ .waiting) hhealthy hopen hqueued hanswered
    | cons frame rest =>
      rw [hqueue] at hqueued
      refine .working [frame] ?_ hhealthy hopen (by simp [hqueued]) hanswered
      dsimp only
      by_cases hconnected : w.isConnected = true
      · rw [if_pos hconnected]
        exact .writing frame
      · rw [if_neg hconnected]
        exact .connecting frame
  | answering earlier last hanswering => simp [hstage] at hanswering
  | reporting first cause hreporting => simp [hstage] at hreporting
  | lost first cause dropped hlost => simp [hstage] at hlost

theorem drain (hstage : w.stage = .draining) :
    w.drain.Keeps queued written (answered ++ w.answer?.toList) := by
  cases h with
  | working hand hholds =>
    rw [hstage] at hholds
    cases hholds
  | answering earlier last hanswering => simp [hstage] at hanswering
  | reporting first cause hreporting => simp [hstage] at hreporting
  | lost first cause dropped hlost hlink hhealthy hqueued hanswered =>
    have hclosed : w.isOpen = false := by simpa [hstage] using hlost
    unfold Writer.drain
    cases hqueue : w.queue with
    | nil =>
      have hsilent : w.answer? = none := by simp [answer?, hstage, hqueue]
      rw [hsilent, Option.toList_none, List.append_nil]
      refine .lost first cause dropped (.inr (.inr ⟨rfl, ?_, hclosed⟩)) hlink hhealthy ?_ hanswered
      · rfl
      · rwa [hqueue] at hqueued
    | cons frame rest =>
      have hanswer : w.answer? = some (.failed w.unroutable frame) := by
        simp [answer?, hstage, hqueue, Answer.failed]
      rw [hanswer]
      refine .lost first cause (dropped ++ [frame]) (.inr (.inl ⟨hstage, hclosed⟩)) hlink hhealthy ?_ ?_
      · simp [hqueued, hqueue]
      · simp [hanswered, unroutable]

theorem proceed :
    w.proceed.Keeps queued written (answered ++ w.answer?.toList) := by
  unfold Writer.proceed
  cases hstage : w.stage with
  | waiting => simpa [answer?, hstage] using h.pick hstage
  | connecting frame => simpa [answer?, hstage] using h
  | writing frame => simpa [answer?, hstage] using h
  | ended => simpa [answer?, hstage] using h
  | draining => exact h.drain hstage
  | answering frame outcome =>
    cases h with
    | working hand hholds =>
      rw [hstage] at hholds
      cases hholds
    | answering earlier last hanswering hhealthy hopen hqueued hwritten hanswered =>
      obtain ⟨rfl, rfl⟩ := WriterStage.answering.inj (hstage.symm.trans hanswering)
      refine .working [] .waiting hhealthy hopen hqueued ?_
      simp [hanswered, hwritten, answer?, hstage, Answer.done]
    | reporting first cause hreporting => simp [hstage] at hreporting
    | lost first cause dropped hlost => simp [hstage] at hlost
  | losing frame cause =>
    cases h with
    | working hand hholds hhealthy hopen hqueued hanswered =>
      rw [hstage] at hholds
      cases hholds with
      | losing _ hlink => exact .reporting frame cause rfl hlink rfl hopen hqueued (by simp [hanswered, answer?, hstage])
    | answering earlier last hanswering => simp [hstage] at hanswering
    | reporting first cause hreporting => simp [hstage] at hreporting
    | lost first cause dropped hlost => simp [hstage] at hlost
  | reporting frame cause =>
    cases h with
    | working hand hholds =>
      rw [hstage] at hholds
      cases hholds
    | answering earlier last hanswering => simp [hstage] at hanswering
    | reporting first why hreporting hlink hhealthy hopen hqueued hanswered =>
      obtain ⟨rfl, rfl⟩ := WriterStage.reporting.inj (hstage.symm.trans hreporting)
      refine .lost frame cause [] (.inl ⟨rfl, rfl, hopen⟩) hlink hhealthy hqueued ?_
      simp [hanswered, answer?, hstage, Answer.failed]
    | lost first why dropped hlost => simp [hstage] at hlost
  | closing =>
    cases h with
    | working hand hholds =>
      rw [hstage] at hholds
      cases hholds
    | answering earlier last hanswering => simp [hstage] at hanswering
    | reporting first cause hreporting => simp [hstage] at hreporting
    | lost first cause dropped hlost hlink hhealthy hqueued hanswered =>
      refine .lost first cause dropped (.inr (.inl ⟨rfl, rfl⟩)) hlink hhealthy hqueued ?_
      simp [hanswered, answer?, hstage, unroutable]

theorem replace {frame : OutboundFrame} {stage : WriterStage}
    (hbefore : w.stage = .connecting frame ∨ w.stage = .writing frame) (hafter : stage.Holds [frame])
    (connected : Bool) :
    { w with isConnected := connected, stage := stage }.Keeps queued written answered := by
  cases h with
  | working hand hholds hhealthy hopen hqueued hanswered =>
    have hhand : hand = [frame] := by
      rcases hbefore with hstage | hstage <;> rw [hstage] at hholds <;> cases hholds <;> rfl
    subst hhand
    exact .working [frame] hafter hhealthy hopen hqueued hanswered
  | answering earlier last hanswering => simp [hanswering] at hbefore
  | reporting first cause hreporting => simp [hreporting] at hbefore
  | lost first cause dropped hlost =>
    rcases hlost with ⟨hstage, -⟩ | ⟨hstage, -⟩ | ⟨hstage, -⟩ <;> simp [hstage] at hbefore

theorem finish {frame : OutboundFrame}
    (hbefore : w.stage = .writing frame) :
    { w with stage := .answering frame (.ok ()) }.Keeps queued (written ++ [frame]) answered := by
  cases h with
  | working hand hholds hhealthy hopen hqueued hanswered =>
    rw [hbefore] at hholds
    cases hholds
    exact .answering written frame rfl hhealthy hopen (by simp [hqueued]) rfl hanswered
  | answering earlier last hanswering => simp [hbefore] at hanswering
  | reporting first cause hreporting => simp [hbefore] at hreporting
  | lost first cause dropped hlost => simp [hbefore] at hlost

/-- Whatever the writer learns, the lists go on to tell its course. -/
theorem after (event : Event) :
    (w.after event).Keeps queued (written ++ w.wrote event) (answered ++ (w.answerAt? event).toList) := by
  cases event with
  | proceed =>
    have hproceed := h.proceed
    simpa [wrote, answerAt?, Writer.after] using hproceed
  | connected =>
    simp only [wrote, answerAt?, Option.toList_none, List.append_nil, Writer.after]
    cases hstage : w.stage with
    | connecting frame => exact h.replace (.inl hstage) (.writing frame) true
    | _ => exact h
  | gaveUp =>
    simp only [wrote, answerAt?, Option.toList_none, List.append_nil, Writer.after]
    cases hstage : w.stage with
    | connecting frame => exact h.replace (.inl hstage) (.losing frame rfl) w.isConnected
    | _ => exact h
  | written =>
    simp only [wrote, answerAt?, Option.toList_none, List.append_nil, Writer.after]
    cases hstage : w.stage with
    | writing frame => exact h.finish hstage
    | _ => simpa using h
  | broken fault =>
    simp only [wrote, answerAt?, Option.toList_none, List.append_nil, Writer.after]
    cases hstage : w.stage with
    | writing frame => exact h.replace (.inr hstage) (.losing frame rfl) w.isConnected
    | _ => exact h

end

/-! ## What the lists tell -/

theorem written_isInitial (h : w.Keeps queued written answered) : written <+: queued := by
  cases h with
  | working _ _ _ _ hqueued => exact ⟨_, hqueued.symm⟩
  | answering _ _ _ _ _ hqueued => exact ⟨_, hqueued.symm⟩
  | reporting _ _ _ _ _ _ hqueued => exact ⟨_, hqueued.symm⟩
  | lost _ _ _ _ _ _ hqueued => exact ⟨_, hqueued.symm⟩

section

variable (h : w.Keeps queued written answered)

include h

/-- An answer is for a frame of the queue: one that was written, the first behind these, or one
further behind. -/
theorem fate {a : Answer} (ha : a ∈ answered) :
    ∃ i frame, queued[i]? = some frame ∧ frame.ticket = a.ticket ∧
      Fate w.peer written.length i a.outcome := by
  have hdone (hmem : a ∈ written.map Answer.done) : ∃ i frame, queued[i]? = some frame ∧
      frame.ticket = a.ticket ∧ Fate w.peer written.length i a.outcome := by
    obtain ⟨frame, hframe, rfl⟩ := List.mem_map.mp hmem
    obtain ⟨i, hi, hget⟩ := List.getElem_of_mem hframe
    obtain ⟨rest, rfl⟩ := h.written_isInitial
    refine ⟨i, frame, ?_, rfl, .written hi rfl⟩
    rw [List.getElem?_append_left hi, List.getElem?_eq_getElem hi, hget]
  cases h with
  | working _ _ _ _ _ hanswered => exact hdone (hanswered ▸ ha)
  | answering earlier last _ _ _ _ hlast hanswered =>
    apply hdone
    rw [hanswered] at ha
    rw [hlast, List.map_append]
    exact List.mem_append_left _ ha
  | reporting _ _ _ _ _ _ _ hanswered => exact hdone (hanswered ▸ ha)
  | lost first cause dropped _ hlink _ hqueued hanswered =>
    rw [hanswered] at ha
    rcases List.mem_append.mp ha with hmem | hmem
    · exact hdone hmem
    · rcases List.mem_cons.mp hmem with rfl | hmem
      · refine ⟨written.length, first, ?_, rfl, .failed rfl rfl hlink⟩
        simp [hqueued]
      · obtain ⟨frame, hframe, rfl⟩ := List.mem_map.mp hmem
        obtain ⟨j, hj, hget⟩ := List.getElem_of_mem hframe
        refine ⟨written.length + (j + 1), frame, ?_, rfl, .behind (by omega) rfl⟩
        rw [hqueued, List.getElem?_append_right (by omega)]
        simp [List.getElem?_append_left hj, List.getElem?_eq_getElem hj, hget]

theorem outcome_eq_ok (hnodup : (queued.map (·.ticket)).Nodup)
    {a : Answer} (ha : a ∈ answered) :
    a.outcome = .ok () ↔ ∃ frame ∈ written, frame.ticket = a.ticket := by
  obtain ⟨i, frame, hframe, hticket, hfate⟩ := h.fate ha
  obtain ⟨rest, hrest⟩ := h.written_isInitial
  constructor
  · intro hok
    cases hfate with
    | written hlt _ =>
      refine ⟨frame, ?_, hticket⟩
      rw [← hrest, List.getElem?_append_left hlt] at hframe
      exact List.mem_of_getElem? hframe
    | failed _ herror => simp [hok] at herror
    | behind _ herror => simp [hok] at herror
  · rintro ⟨other, hother, hsame⟩
    obtain ⟨j, hj, hget⟩ := List.getElem_of_mem hother
    have hat : queued[j]? = some other := by
      rw [← hrest, List.getElem?_append_left hj, List.getElem?_eq_getElem hj, hget]
    -- both places of the queue have the same ticket
    have hij : i = j := by
      have hi : i < (queued.map (·.ticket)).length := by
        rw [List.length_map]
        exact (List.getElem?_eq_some_iff.mp hframe).1
      refine (List.getElem?_inj hi hnodup).mp ?_
      rw [List.getElem?_map, List.getElem?_map, hframe, hat]
      simp [hticket, hsame]
    subst hij
    cases hfate with
    | written _ hok => exact hok
    | failed heq => omega
    | behind hlt => omega

theorem unhealthy {a : Answer} (ha : a ∈ answered)
    {e : TransportError} (he : a.outcome = .error e) : w.isHealthy = false := by
  have hdone (l : List OutboundFrame) : a ∉ l.map Answer.done := by
    intro hmem
    obtain ⟨frame, -, rfl⟩ := List.mem_map.mp hmem
    cases he
  cases h with
  | working _ _ _ _ _ hanswered => exact absurd (hanswered ▸ ha) (hdone _)
  | answering _ _ _ _ _ _ _ hanswered => exact absurd (hanswered ▸ ha) (hdone _)
  | reporting _ _ _ _ hhealthy => exact hhealthy
  | lost _ _ _ _ _ hhealthy => exact hhealthy

theorem answered_of_idle (hidle : w.isBusy = false) :
    answered.map (·.ticket) = queued.map (·.ticket) := by
  have htickets (l : List OutboundFrame) : (l.map Answer.done).map (·.ticket) = l.map (·.ticket) := by
    simp [Answer.done]
  cases h with
  | working hand hholds _ _ hqueued hanswered =>
    generalize hstage : w.stage = stage at hholds
    cases hholds with
    | waiting =>
      have hqueue : w.queue = [] := by simpa [isBusy, hstage] using hidle
      rw [hanswered, htickets, hqueued, hqueue]
      simp
    | connecting _ => simp [isBusy, hstage] at hidle
    | writing _ => simp [isBusy, hstage] at hidle
    | losing _ _ => simp [isBusy, hstage] at hidle
  | answering _ _ hstage => simp [isBusy, hstage] at hidle
  | reporting _ _ hstage => simp [isBusy, hstage] at hidle
  | lost first cause dropped hstage _ _ hqueued hanswered =>
    rcases hstage with ⟨hstage, -⟩ | ⟨hstage, -⟩ | ⟨-, hqueue, -⟩
    · simp [isBusy, hstage] at hidle
    · simp [isBusy, hstage] at hidle
    · rw [hanswered, hqueued, hqueue, List.append_nil, List.map_append, htickets]
      simp [Answer.failed, Function.comp_def]

end

end Keeps

end Writer

/-! ## Polling -/

/-- The answer behind a settlement. -/
def Settlement.answer (s : Settlement) : Answer := ⟨s.request.ticket, s.outcome⟩

section Reap

variable {request : Request} {rest : List Request} {answers : List Answer}

theorem reap_of_none (h : answers.find? (·.ticket == request.ticket) = none) :
    reap (request :: rest) answers =
      { reap rest answers with pending := request :: (reap rest answers).pending } := by
  rw [reap, h]

theorem reap_of_some {answer : Answer} (h : answers.find? (·.ticket == request.ticket) = some answer) :
    reap (request :: rest) answers =
      { reap rest (answers.eraseP (·.ticket == request.ticket)) with
        settled := ⟨request, answer.outcome⟩ ::
          (reap rest (answers.eraseP (·.ticket == request.ticket))).settled } := by
  rw [reap, h]

end Reap

/-- Every request is settled by a poll or stays pending. -/
theorem reap_requests (requests : List Request) (answers : List Answer) :
    requests.Perm ((reap requests answers).pending ++ (reap requests answers).settled.map (·.request)) := by
  induction requests generalizing answers with
  | nil => exact .refl _
  | cons request rest ih =>
    cases hfind : answers.find? (·.ticket == request.ticket) with
    | none =>
      rw [reap_of_none hfind]
      exact (ih answers).cons request
    | some answer =>
      rw [reap_of_some hfind]
      exact ((ih _).cons request).trans List.perm_middle.symm

theorem reap_answers (requests : List Request) (answers : List Answer) :
    answers.Perm ((reap requests answers).answers ++ (reap requests answers).settled.map Settlement.answer) := by
  induction requests generalizing answers with
  | nil => simp [reap]
  | cons request rest ih =>
    cases hfind : answers.find? (·.ticket == request.ticket) with
    | none =>
      rw [reap_of_none hfind]
      exact ih answers
    | some answer =>
      rw [reap_of_some hfind]
      obtain ⟨hticket, before, behind, rfl, hbefore⟩ := List.find?_eq_some_iff_append.mp hfind
      have herase : (before ++ answer :: behind).eraseP (·.ticket == request.ticket) = before ++ behind := by
        rw [List.eraseP_append_right _ (by simpa using hbefore), List.eraseP_cons_of_pos (by exact hticket)]
      have hanswer : answer = Settlement.answer ⟨request, answer.outcome⟩ := by
        rw [Settlement.answer, ← eq_of_beq hticket]
      rw [herase]
      refine List.perm_middle.trans (((ih (before ++ behind)).cons answer).trans ?_)
      rw [List.map_cons, ← hanswer]
      exact List.perm_middle.symm

theorem reap_pending {requests : List Request} {answers : List Answer} {request : Request}
    (hrequest : request ∈ (reap requests answers).pending) :
    ∀ answer ∈ (reap requests answers).answers, answer.ticket ≠ request.ticket := by
  induction requests generalizing answers with
  | nil => simp [reap] at hrequest
  | cons first rest ih =>
    cases hfind : answers.find? (·.ticket == first.ticket) with
    | none =>
      rw [reap_of_none hfind] at hrequest ⊢
      rcases List.mem_cons.mp hrequest with rfl | hrequest
      · intro answer hanswer
        -- what is left of the answers was there when this request looked for its own
        have hmem : answer ∈ answers :=
          (reap_answers rest answers).mem_iff.mpr (List.mem_append_left _ hanswer)
        simpa using List.find?_eq_none.mp hfind answer hmem
      · exact ih hrequest
    | some answer =>
      rw [reap_of_some hfind] at hrequest ⊢
      exact ih hrequest

/-! ## Sending -/

namespace Channel

variable {c : Channel} {target : ProcessId} {packet : Packet}

theorem checkSend_eq_ok : c.checkSend target packet = .ok () ↔
    c.closed = false ∧
      Transport.checkTarget c.settings.process c.settings.peers.length target = .ok () ∧
      c.isPeerHealthy target = true ∧ packet.wireLength ≤ c.settings.maxFrameSize := by
  unfold checkSend
  by_cases hclosed : c.closed = true
  · simp [hclosed]
  · cases htarget : Transport.checkTarget c.settings.process c.settings.peers.length target with
    | error e => simp [hclosed]
    | ok u =>
      by_cases hhealthy : c.isPeerHealthy target = true
      · by_cases hlong : c.settings.maxFrameSize < packet.wireLength
        · have hle : ¬ packet.wireLength ≤ c.settings.maxFrameSize := by omega
          simp [hclosed, hhealthy, hlong]
        · have hle : packet.wireLength ≤ c.settings.maxFrameSize := by omega
          simp [hclosed, hhealthy, hle]
      · simp [hclosed, hhealthy]

end Channel

end PetriCluster.Tcp
