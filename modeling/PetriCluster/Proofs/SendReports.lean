import PetriCluster.Proofs.Writers
import Mathlib.Data.List.Nodup
import Mathlib.Data.List.Perm.Basic

/-!
# Every accepted send is reported once

A channel is used by callers that send, by its writers and by whoever polls it, in any order. A send
has three moments, the checks, the way into the queue and the note of the request, and anything may
happen between them: a frame can still get into the queue of a peer that has just been marked as gone.
-/

namespace PetriCluster.Tcp

variable {settings : Settings}

/-- A send under way. -/
inductive Sending where
  | checked (target : ProcessId) (packet : Packet)
  | queued (request : Request)
  deriving DecidableEq

/-- The request of a send whose frame is in the queue. -/
def Sending.request? : Sending → Option Request
  | checked _ _ => none
  | queued request => some request

/-- What can happen on a channel. -/
inductive Happening where
  | refused (target : ProcessId) (cause : TransportError)
  | queued (peer : ProcessId) (frame : OutboundFrame)
  | accepted (request : Request)
  | wrote (peer : ProcessId) (frame : OutboundFrame)
  | answered (peer : ProcessId) (answer : Answer)
  | polled (report : SendReport) (settled : List Settlement)

/-! ## Views of a log -/

section Views

variable (peer : ProcessId) (log : List Happening)

/-- The frames that got into the queue of a peer, in order. -/
def queuedTo : List OutboundFrame :=
  log.filterMap fun
    | .queued target frame => if target = peer then some frame else none
    | _ => none

/-- The frames that were written to a peer, in order. -/
def writtenTo : List OutboundFrame :=
  log.filterMap fun
    | .wrote target frame => if target = peer then some frame else none
    | _ => none

/-- The answers of the writer of a peer, in order. -/
def answeredFor : List Answer :=
  log.filterMap fun
    | .answered target answer => if target = peer then some answer else none
    | _ => none

/-- All frames that got into a queue, as requests. -/
def enlisted : List Request :=
  log.filterMap fun
    | .queued target frame => some ⟨target, frame.ticket⟩
    | _ => none

/-- The sends that were accepted. -/
def accepted : List Request :=
  log.filterMap fun
    | .accepted request => some request
    | _ => none

/-- The answers that writers gave. -/
def answers : List Answer :=
  log.filterMap fun
    | .answered _ answer => some answer
    | _ => none

/-- What polls have reported. -/
def reported : List Settlement :=
  log.flatMap fun
    | .polled _ settled => settled
    | _ => []

variable {peer log} {more : List Happening}

@[simp] theorem queuedTo_append : queuedTo peer (log ++ more) = queuedTo peer log ++ queuedTo peer more :=
  List.filterMap_append

@[simp] theorem writtenTo_append :
    writtenTo peer (log ++ more) = writtenTo peer log ++ writtenTo peer more :=
  List.filterMap_append

@[simp] theorem answeredFor_append :
    answeredFor peer (log ++ more) = answeredFor peer log ++ answeredFor peer more :=
  List.filterMap_append

@[simp] theorem enlisted_append : enlisted (log ++ more) = enlisted log ++ enlisted more :=
  List.filterMap_append

@[simp] theorem accepted_append : accepted (log ++ more) = accepted log ++ accepted more :=
  List.filterMap_append

@[simp] theorem answers_append : answers (log ++ more) = answers log ++ answers more :=
  List.filterMap_append

@[simp] theorem reported_append : reported (log ++ more) = reported log ++ reported more :=
  List.flatMap_append

@[simp] theorem accepted_polled (r : SendReport) (settled : List Settlement) :
    accepted [.polled r settled] = [] :=
  rfl

@[simp] theorem answers_polled (r : SendReport) (settled : List Settlement) :
    answers [.polled r settled] = [] :=
  rfl

@[simp] theorem reported_polled (r : SendReport) (settled : List Settlement) :
    reported [.polled r settled] = settled := by
  simp [reported]

theorem mem_queuedTo {frame : OutboundFrame} :
    frame ∈ queuedTo peer log ↔ .queued peer frame ∈ log := by
  unfold queuedTo
  rw [List.mem_filterMap]
  constructor
  · rintro ⟨happening, hmem, hsome⟩
    cases happening with
    | queued target other =>
      simp only [Option.ite_none_right_eq_some, Option.some.injEq] at hsome
      obtain ⟨rfl, rfl⟩ := hsome
      exact hmem
    | _ => simp at hsome
  · intro hmem
    exact ⟨_, hmem, by simp⟩

theorem mem_enlisted {request : Request} :
    request ∈ enlisted log ↔ ∃ frame ∈ queuedTo request.peer log, frame.ticket = request.ticket := by
  unfold enlisted
  rw [List.mem_filterMap]
  constructor
  · rintro ⟨happening, hmem, hsome⟩
    cases happening with
    | queued target frame =>
      obtain rfl := Option.some.inj hsome
      exact ⟨frame, mem_queuedTo.mpr hmem, rfl⟩
    | _ => simp at hsome
  · rintro ⟨frame, hframe, hticket⟩
    refine ⟨_, mem_queuedTo.mp hframe, ?_⟩
    dsimp only
    rw [hticket]

theorem mem_answers {answer : Answer} :
    answer ∈ answers log ↔ ∃ peer, answer ∈ answeredFor peer log := by
  unfold answers answeredFor
  simp only [List.mem_filterMap]
  constructor
  · rintro ⟨happening, hmem, hsome⟩
    cases happening with
    | answered target other => exact ⟨target, _, hmem, by simpa using hsome⟩
    | _ => simp at hsome
  · rintro ⟨peer, happening, hmem, hsome⟩
    cases happening with
    | answered target other =>
      simp only [Option.ite_none_right_eq_some] at hsome
      exact ⟨_, hmem, hsome.2⟩
    | _ => simp at hsome

theorem mem_reported {s : Settlement} {r : SendReport} {settled : List Settlement}
    (hpolled : .polled r settled ∈ log) (hs : s ∈ settled) : s ∈ reported log :=
  List.mem_flatMap.mpr ⟨_, hpolled, hs⟩

theorem queuedTo_sublist :
    ((queuedTo peer log).map (·.ticket)).Sublist ((enlisted log).map (·.ticket)) := by
  induction log with
  | nil => exact .refl _
  | cons happening log ih =>
    cases happening with
    | queued target frame =>
      by_cases heq : target = peer
      · simpa [queuedTo, enlisted, heq] using ih
      · simpa [queuedTo, enlisted, heq] using ih.trans (List.sublist_cons_self _ _)
    | _ => exact ih

end Views

theorem Settlement.failure?_eq_some {s : Settlement} {peer : ProcessId} {e : TransportError} :
    s.failure? = some (peer, e) ↔ s.request.peer = peer ∧ s.outcome = .error e := by
  unfold failure?
  cases s.outcome <;> simp

/-! ## Using a channel -/

/-- A channel in use. -/
structure Usage where
  channel : Channel
  calls : List Sending := []
  log : List Happening := []

/-- What the callers, the writers and the network can do. -/
inductive Move where
  | send (target : ProcessId) (packet : Packet)
  | check (target : ProcessId) (packet : Packet)
  | enqueue (target : ProcessId) (packet : Packet)
  | register (request : Request)
  /-- The writer of a peer moves, with what the network makes of its attempt. -/
  | write (peer : ProcessId) (event : Event)
  | poll
  deriving DecidableEq

namespace Usage

variable (u : Usage)

/-- A whole send, with nothing in between. -/
def send (target : ProcessId) (packet : Packet) : Usage :=
  match u.channel.send target packet with
  | (.error e, c) => { u with channel := c, log := u.log ++ [.refused target e] }
  | (.ok (), c) =>
    { u with
      channel := c
      log := u.log ++ [.queued target ⟨packet.toFrame, u.channel.issued⟩] ++
        [.accepted ⟨target, u.channel.issued⟩] }

/-- The first half of a send. -/
def check (target : ProcessId) (packet : Packet) : Usage :=
  match u.channel.checkSend target packet with
  | .error e => { u with channel := u.channel.refuse, log := u.log ++ [.refused target e] }
  | .ok () => { u with calls := .checked target packet :: u.calls }

/-- A send under way puts its frame into the queue. -/
def enqueue (target : ProcessId) (packet : Packet) : Usage :=
  if .checked target packet ∈ u.calls then
    match u.channel.enqueue target packet with
    | (.error e, c) =>
      { channel := c
        calls := u.calls.erase (.checked target packet)
        log := u.log ++ [.refused target e] }
    | (.ok ticket, c) =>
      { channel := c
        calls := .queued ⟨target, ticket⟩ :: u.calls.erase (.checked target packet)
        log := u.log ++ [.queued target ⟨packet.toFrame, ticket⟩] }
  else u

/-- A send under way notes its request and returns. -/
def register (request : Request) : Usage :=
  if .queued request ∈ u.calls then
    { channel := u.channel.register request
      calls := u.calls.erase (.queued request)
      log := u.log ++ [.accepted request] }
  else u

/-- What happens when the writer of a peer moves. -/
def news (peer : ProcessId) (w : Writer) (event : Event) : List Happening :=
  (w.wrote event).map (.wrote peer) ++ (w.answerAt? event).toList.map (.answered peer)

/-- A writer moves. -/
def write (peer : ProcessId) (event : Event) : Usage :=
  match u.channel.writer? peer with
  | none => u
  | some w =>
    { u with
      channel := u.channel.step peer event
      log := u.log ++ news peer w event }

/-- A poll. -/
def poll : Usage :=
  { u with
    channel := u.channel.poll.2
    log := u.log ++ [.polled u.channel.poll.1 (reap u.channel.requests u.channel.answers).settled] }

/-- One move. -/
def next : Move → Usage
  | .send target packet => u.send target packet
  | .check target packet => u.check target packet
  | .enqueue target packet => u.enqueue target packet
  | .register request => u.register request
  | .write peer event => u.write peer event
  | .poll => u.poll

/-- Moves from a new channel on. -/
def run (c : Channel) (moves : List Move) : Usage :=
  moves.foldl next { channel := c }

end Usage

/-- What the log tells about the writer of a peer. -/
def Vouches (peer : ProcessId) (log : List Happening) : Option Writer → Prop
  | none => queuedTo peer log = [] ∧ writtenTo peer log = [] ∧ answeredFor peer log = []
  | some w => w.peer = peer ∧
      w.Keeps (queuedTo peer log) (writtenTo peer log) (answeredFor peer log)

theorem Vouches.silent {peer : ProcessId} {log more : List Happening} {w : Option Writer}
    (h : Vouches peer log w) (hqueued : queuedTo peer more = []) (hwritten : writtenTo peer more = [])
    (hanswered : answeredFor peer more = []) : Vouches peer (log ++ more) w := by
  cases w <;> simpa [Vouches, hqueued, hwritten, hanswered] using h

/-- Whether sends to a process are sensible at all. -/
def Channel.Routes (c : Channel) (target : ProcessId) : Prop :=
  Transport.checkTarget c.settings.process c.settings.peers.length target = .ok ()

/-- The log of a channel in use agrees with its writers, its requests and its answers. -/
structure Accounts (u : Usage) : Prop where
  isOpen : u.channel.closed = false
  writers : ∀ peer, Vouches peer u.log (u.channel.writer? peer)
  tickets : (enlisted u.log).map (·.ticket) = List.range u.channel.issued
  /-- The frame of an accepted send is or was in a queue, and so is that of a send about to return. -/
  returned : (enlisted u.log).Perm (accepted u.log ++ u.calls.filterMap Sending.request?)
  requests : (accepted u.log).Perm (u.channel.requests ++ (reported u.log).map (·.request))
  replies : (answers u.log).Perm (u.channel.answers ++ (reported u.log).map Settlement.answer)
  reports : ∀ r settled, .polled r settled ∈ u.log → r = report settled
  checked : ∀ target packet, .checked target packet ∈ u.calls → u.channel.Routes target
  routes : ∀ request ∈ enlisted u.log, u.channel.Routes request.peer

namespace Channel

variable {c : Channel} {peer other : ProcessId} {w : Writer}

theorem writer?_setWriter (h : c.writer? peer = some w) (w' : Writer) :
    (c.setWriter peer w').writer? peer = some w' := by
  have hlt : peer.index < c.writers.length := (List.getElem?_eq_some_iff.mp h).1
  simp [writer?, setWriter, hlt]

theorem writer?_setWriter_of_ne (h : other ≠ peer) (w' : Writer) :
    (c.setWriter peer w').writer? other = c.writer? other := by
  have hne : peer.index ≠ other.index := fun heq => h (ProcessId.index_inj heq).symm
  simp [writer?, setWriter, List.getElem?_set_ne hne]

theorem writer?_createWriters (h : (createWriters settings)[peer.index]? = some w) :
    w.peer = peer ∧ w.Keeps [] [] [] := by
  unfold createWriters at h
  rw [List.getElem?_mapIdx, Option.map_eq_some_iff] at h
  obtain ⟨address, -, rfl⟩ := h
  refine ⟨?_, Writer.keeps_nil rfl rfl rfl rfl⟩
  simp [ProcessId.ofIndex, ProcessId.index]

theorem create_eq_ok {network : Network} (h : create network settings = .ok c) :
    c = { settings, writers := createWriters settings } := by
  unfold create at h
  cases hvalid : settings.validate with
  | error e => simp [hvalid, bind, Except.bind] at h
  | ok u =>
    cases hlisten : checkListen network settings with
    | error e => simp [hvalid, hlisten, bind, Except.bind] at h
    | ok u => simpa [hvalid, hlisten, bind, Except.bind, pure, Except.pure, eq_comm] using h

end Channel

namespace Accounts

variable {u : Usage}

theorem create {network : Network} {c : Channel} (h : Channel.create network settings = .ok c) :
    Accounts { channel := c } := by
  obtain rfl := Channel.create_eq_ok h
  refine ⟨rfl, ?_, rfl, .refl _, .refl _, .refl _, by simp, by simp, by simp [enlisted]⟩
  intro peer
  cases hw : (Channel.createWriters settings)[peer.index]? with
  | none => simp [Channel.writer?, hw, Vouches, queuedTo, writtenTo, answeredFor]
  | some w =>
    simp only [Channel.writer?, hw]
    exact Channel.writer?_createWriters hw

section

variable (h : Accounts u)

include h

/-- A send that is refused changes nothing but the count of failures. -/
theorem refused {stats : TransportStats} {calls : List Sending}
    (hcalls : (calls.filterMap Sending.request?).Perm (u.calls.filterMap Sending.request?))
    (hsub : calls ⊆ u.calls) (target : ProcessId) (e : TransportError) :
    Accounts ⟨{ u.channel with stats }, calls, u.log ++ [.refused target e]⟩ where
  isOpen := h.isOpen
  writers peer := (h.writers peer).silent rfl rfl rfl
  tickets := by simpa [enlisted] using h.tickets
  returned := by
    have hreturned := h.returned.trans (hcalls.symm.append_left _)
    simpa [enlisted, accepted] using hreturned
  requests := by simpa [accepted, reported] using h.requests
  replies := by simpa [answers, reported] using h.replies
  reports r settled hmem := h.reports r settled (by simpa using hmem)
  checked target packet hmem := h.checked target packet (hsub hmem)
  routes request hmem := h.routes request (by simpa [enlisted] using hmem)

theorem check (target : ProcessId) (packet : Packet) :
    Accounts (u.check target packet) := by
  unfold Usage.check
  cases hcheck : u.channel.checkSend target packet with
  | error e => exact h.refused (.refl _) (List.Subset.refl _) target e
  | ok _ =>
    refine { h with checked := ?_ }
    intro other another hmem
    rcases List.mem_cons.mp hmem with heq | hmem
    · obtain ⟨rfl, rfl⟩ := Sending.checked.inj heq
      exact (Channel.checkSend_eq_ok.mp hcheck).2.1
    · exact h.checked other another hmem

theorem enlist {target : ProcessId} {w : Writer} (hw : u.channel.writer? target = some w)
    (hopen : w.isOpen = true) (hroutes : u.channel.Routes target) (bytes : Bytes) (stats : TransportStats)
    {calls : List Sending}
    (hcalls : (calls.filterMap Sending.request?).Perm (u.calls.filterMap Sending.request?))
    (hsub : calls ⊆ u.calls) :
    Accounts
      { channel :=
          { u.channel.setWriter target (w.push ⟨bytes, u.channel.issued⟩) with
            issued := u.channel.issued + 1
            stats }
        calls := .queued ⟨target, u.channel.issued⟩ :: calls
        log := u.log ++ [.queued target ⟨bytes, u.channel.issued⟩] } where
  isOpen := h.isOpen
  writers peer := by
    have hpeer := h.writers peer
    by_cases heq : peer = target
    · subst heq
      rw [hw] at hpeer
      have hset := Channel.writer?_setWriter hw (w.push ⟨bytes, u.channel.issued⟩)
      refine (congrArg (Vouches peer _) hset).mpr ⟨hpeer.1, ?_⟩
      have hkeeps := hpeer.2.push hopen ⟨bytes, u.channel.issued⟩
      simpa [queuedTo, writtenTo, answeredFor] using hkeeps
    · have hset := Channel.writer?_setWriter_of_ne (c := u.channel) heq (w.push ⟨bytes, u.channel.issued⟩)
      refine (congrArg (Vouches peer _) hset).mpr (hpeer.silent ?_ rfl rfl)
      simp [queuedTo, Ne.symm heq]
  tickets := by
    have htickets := h.tickets
    simp [enlisted, List.range_succ] at htickets ⊢
    exact htickets
  returned := by
    have hreturned := (h.returned.trans (hcalls.symm.append_left _)).cons ⟨target, u.channel.issued⟩
    simp only [enlisted_append, accepted_append]
    refine (List.perm_append_singleton _ _).trans (hreturned.trans ?_)
    exact List.perm_middle.symm.trans (by simp [accepted, Sending.request?])
  requests := by simpa [accepted, reported, Channel.setWriter] using h.requests
  replies := by simpa [answers, reported, Channel.setWriter] using h.replies
  reports r settled hmem := h.reports r settled (by simpa using hmem)
  checked other packet hmem := h.checked other packet (hsub (by simpa using hmem))
  routes request hmem := by
    rw [enlisted_append, List.mem_append] at hmem
    rcases hmem with hmem | hmem
    · exact h.routes request hmem
    · obtain rfl : request = ⟨target, u.channel.issued⟩ := by simpa [enlisted] using hmem
      exact hroutes

theorem enqueue (target : ProcessId) (packet : Packet) :
    Accounts (u.enqueue target packet) := by
  unfold Usage.enqueue
  by_cases hmem : .checked target packet ∈ u.calls
  · have hcalls : ((u.calls.erase (.checked target packet)).filterMap Sending.request?).Perm
        (u.calls.filterMap Sending.request?) :=
      ((List.perm_cons_erase hmem).filterMap Sending.request?).symm
    have hsub : u.calls.erase (.checked target packet) ⊆ u.calls := List.erase_subset
    rw [if_pos hmem]
    unfold Channel.enqueue
    cases hw : u.channel.writer? target with
    | none => exact h.refused hcalls hsub target _
    | some w =>
      by_cases hopen : w.isOpen = true
      · simp only [hopen, if_true]
        exact h.enlist hw hopen (h.checked target packet hmem) _ _ hcalls hsub
      · simp only [hopen]
        exact h.refused hcalls hsub target _
  · rw [if_neg hmem]
    exact h

theorem register (request : Request) : Accounts (u.register request) := by
  unfold Usage.register
  by_cases hmem : .queued request ∈ u.calls
  · rw [if_pos hmem]
    have hcalls := (List.perm_cons_erase hmem).filterMap Sending.request?
    constructor
    case isOpen => exact h.isOpen
    case writers => exact fun peer => (h.writers peer).silent rfl rfl rfl
    case tickets => simpa [enlisted, Channel.register] using h.tickets
    case returned =>
      have hreturned := h.returned.trans (hcalls.append_left _)
      simpa [enlisted, accepted, Sending.request?] using hreturned
    case requests =>
      have hrequests := h.requests.append_right [request]
      simp only [accepted_append, reported_append, Channel.register]
      refine hrequests.trans ?_
      rw [List.append_assoc, List.append_assoc]
      refine List.Perm.append_left _ (List.perm_append_comm.trans ?_)
      simp [reported]
    case replies => simpa [answers, reported, Channel.register] using h.replies
    case reports => exact fun r settled hmem => h.reports r settled (by simpa using hmem)
    case checked => exact fun target packet hmem => h.checked target packet (List.erase_subset hmem)
    case routes => exact fun other hother => h.routes other (by simpa [enlisted] using hother)
  · rw [if_neg hmem]
    exact h

/-- A send that nobody comes between goes through the same moments. -/
theorem send (target : ProcessId) (packet : Packet) :
    Accounts (u.send target packet) := by
  unfold Usage.send Channel.send
  cases hcheck : u.channel.checkSend target packet with
  | error e => exact h.refused (.refl _) (List.Subset.refl _) target e
  | ok _ =>
    unfold Channel.enqueue
    cases hw : u.channel.writer? target with
    | none => exact h.refused (.refl _) (List.Subset.refl _) target _
    | some w =>
      by_cases hopen : w.isOpen = true
      · have hroutes := (Channel.checkSend_eq_ok.mp hcheck).2.1
        have henlist := h.enlist hw hopen hroutes packet.toFrame (u.channel.stats.recordSend packet)
          (.refl _) (List.Subset.refl _)
        have hregister := henlist.register ⟨target, u.channel.issued⟩
        simpa [Usage.register, hopen] using hregister
      · simp only [hopen]
        exact h.refused (.refl _) (List.Subset.refl _) target _

theorem write (peer : ProcessId) (event : Event) : Accounts (u.write peer event) := by
  unfold Usage.write Channel.step
  cases hw : u.channel.writer? peer with
  | none => exact h
  | some w =>
    have henlisted : enlisted (Usage.news peer w event) = [] := by simp [enlisted, Usage.news]
    have haccepted : accepted (Usage.news peer w event) = [] := by simp [accepted, Usage.news]
    have hreported : reported (Usage.news peer w event) = [] := by
      simp [reported, Usage.news, List.flatMap_map]
    have hanswers : answers (Usage.news peer w event) = (w.answerAt? event).toList := by
      simp [answers, Usage.news, List.filterMap_map]
    constructor
    case isOpen => exact h.isOpen
    case writers =>
      intro other
      have hother := h.writers other
      by_cases heq : other = peer
      · subst heq
        rw [hw] at hother
        have hset := Channel.writer?_setWriter hw (w.after event)
        refine (congrArg (Vouches other _) hset).mpr ⟨(w.peer_after event).trans hother.1, ?_⟩
        have hkeeps := hother.2.after event
        simpa [queuedTo, writtenTo, answeredFor, Usage.news] using hkeeps
      · have hset := Channel.writer?_setWriter_of_ne (c := u.channel) heq (w.after event)
        refine (congrArg (Vouches other _) hset).mpr (hother.silent ?_ ?_ ?_)
        all_goals simp [queuedTo, writtenTo, answeredFor, Usage.news, Ne.symm heq]
    case tickets => simpa [henlisted, Channel.setWriter] using h.tickets
    case returned => simpa [henlisted, haccepted] using h.returned
    case requests => simpa [haccepted, hreported, Channel.setWriter] using h.requests
    case replies =>
      have hreplies := h.replies.append_right (w.answerAt? event).toList
      simp only [answers_append, reported_append, hreported, hanswers, List.append_nil]
      refine hreplies.trans ?_
      rw [List.append_assoc, List.append_assoc]
      exact List.Perm.append_left _ List.perm_append_comm
    case reports =>
      intro r settled hmem
      refine h.reports r settled ?_
      simpa [Usage.news] using hmem
    case checked => exact h.checked
    case routes => exact fun other hother => h.routes other (by simpa [henlisted] using hother)

theorem poll : Accounts u.poll where
  isOpen := h.isOpen
  writers peer := (h.writers peer).silent rfl rfl rfl
  tickets := by simpa [Usage.poll, Channel.poll, enlisted] using h.tickets
  returned := by simpa [Usage.poll, enlisted, accepted] using h.returned
  requests := by
    have hreap := reap_requests u.channel.requests u.channel.answers
    have hrequests := h.requests.trans (hreap.append_right _)
    simp only [Usage.poll, Channel.poll, accepted_append, accepted_polled, reported_append, reported_polled,
      List.append_nil, List.map_append]
    rw [List.append_assoc] at hrequests
    exact hrequests.trans (List.perm_append_comm.append_left _)
  replies := by
    have hreap := reap_answers u.channel.requests u.channel.answers
    have hreplies := h.replies.trans (hreap.append_right _)
    simp only [Usage.poll, Channel.poll, answers_append, answers_polled, reported_append, reported_polled,
      List.append_nil, List.map_append]
    rw [List.append_assoc] at hreplies
    exact hreplies.trans (List.perm_append_comm.append_left _)
  reports r settled hmem := by
    simp only [Usage.poll, List.mem_append, List.mem_singleton] at hmem
    rcases hmem with hmem | hmem
    · exact h.reports r settled hmem
    · obtain ⟨rfl, rfl⟩ := Happening.polled.inj hmem
      rfl
  checked := h.checked
  routes request hmem := h.routes request (by simpa [Usage.poll, enlisted] using hmem)

theorem next (move : Move) : Accounts (u.next move) := by
  cases move with
  | send target packet => exact h.send target packet
  | check target packet => exact h.check target packet
  | enqueue target packet => exact h.enqueue target packet
  | register request => exact h.register request
  | write peer event => exact h.write peer event
  | poll => exact h.poll

/-- The accounts are right after all moves. -/
theorem foldl (moves : List Move) : Accounts (moves.foldl Usage.next u) := by
  induction moves generalizing u with
  | nil => exact h
  | cons move moves ih => exact ih (h.next move)

end

/-! ## What the accounts tell -/

variable {request : Request}

theorem enlisted_of_accepted (h : Accounts u) (hmem : request ∈ accepted u.log) :
    request ∈ enlisted u.log :=
  h.returned.mem_iff.mpr (List.mem_append_left _ hmem)

variable {s : Settlement}

section

variable (h : Accounts u)

include h

theorem accepted_of_reported (hs : s ∈ reported u.log) : s.request ∈ accepted u.log :=
  h.requests.mem_iff.mpr (List.mem_append_right _ (List.mem_map_of_mem hs))

theorem nodup_tickets : ((enlisted u.log).map (·.ticket)).Nodup := by
  rw [h.tickets]
  exact List.nodup_range

theorem eq_of_ticket {r s : Request} (hr : r ∈ enlisted u.log) (hs : s ∈ enlisted u.log)
    (hticket : r.ticket = s.ticket) : r = s :=
  List.inj_on_of_nodup_map h.nodup_tickets hr hs hticket

theorem nodup_accepted : (accepted u.log).Nodup :=
  (h.returned.nodup_iff.mp h.nodup_tickets.of_map).of_append_left

theorem nodup_requests :
    (u.channel.requests ++ (reported u.log).map (·.request)).Nodup :=
  h.requests.nodup_iff.mp h.nodup_accepted

/-- An answer comes from the writer of the peer whose frame has the ticket. -/
theorem answered_of_mem {a : Answer} (ha : a ∈ answers u.log)
    (hrequest : request ∈ enlisted u.log) (hticket : a.ticket = request.ticket) :
    ∃ w, u.channel.writer? request.peer = some w ∧ w.peer = request.peer ∧
      w.Keeps (queuedTo request.peer u.log) (writtenTo request.peer u.log)
        (answeredFor request.peer u.log) ∧
      a ∈ answeredFor request.peer u.log := by
  obtain ⟨peer, hmem⟩ := mem_answers.mp ha
  have hvouches := h.writers peer
  cases hw : u.channel.writer? peer with
  | none =>
    rw [hw] at hvouches
    rw [hvouches.2.2] at hmem
    cases hmem
  | some w =>
    rw [hw] at hvouches
    obtain ⟨i, frame, hframe, hsame, -⟩ := hvouches.2.fate hmem
    have hother : ⟨peer, frame.ticket⟩ ∈ enlisted u.log :=
      mem_enlisted.mpr ⟨frame, List.mem_of_getElem? hframe, rfl⟩
    obtain rfl := h.eq_of_ticket hrequest hother (hticket.symm.trans hsame.symm)
    exact ⟨w, hw, hvouches.1, hvouches.2, hmem⟩

/-- What is reported of a send was answered by the writer of its peer. -/
theorem answered_of_reported (hs : s ∈ reported u.log) :
    ∃ w, u.channel.writer? s.request.peer = some w ∧ w.peer = s.request.peer ∧
      w.Keeps (queuedTo s.request.peer u.log) (writtenTo s.request.peer u.log)
        (answeredFor s.request.peer u.log) ∧
      s.answer ∈ answeredFor s.request.peer u.log := by
  refine h.answered_of_mem ?_ (h.enlisted_of_accepted (h.accepted_of_reported hs)) rfl
  exact h.replies.mem_iff.mpr (List.mem_append_right _ (List.mem_map_of_mem hs))

theorem checkSend_of_reported (hs : s ∈ reported u.log) {e : TransportError}
    (he : s.outcome = .error e) (packet : Packet) :
    u.channel.checkSend s.request.peer packet = .error (.unroutable s.request.peer .failedEarlier) := by
  obtain ⟨w, hw, -, hkeeps, hanswer⟩ := h.answered_of_reported hs
  have hgone : u.channel.isPeerHealthy s.request.peer = false := by
    unfold Channel.isPeerHealthy
    rw [hw]
    exact hkeeps.unhealthy hanswer he
  have hroutes : Transport.checkTarget u.channel.settings.process u.channel.settings.peers.length
      s.request.peer = .ok () :=
    h.routes _ (h.enlisted_of_accepted (h.accepted_of_reported hs))
  simp [Channel.checkSend, h.isOpen, hroutes, hgone]

/-- When no writer has anything left to do, every frame was answered for. -/
theorem mem_answers_of_idle (hidle : ∀ w ∈ u.channel.writers, w.isBusy = false)
    (hrequest : request ∈ enlisted u.log) : ∃ a ∈ answers u.log, a.ticket = request.ticket := by
  obtain ⟨frame, hframe, hticket⟩ := mem_enlisted.mp hrequest
  have hvouches := h.writers request.peer
  cases hw : u.channel.writer? request.peer with
  | none =>
    rw [hw] at hvouches
    rw [hvouches.1] at hframe
    cases hframe
  | some w =>
    rw [hw] at hvouches
    have hall := hvouches.2.answered_of_idle (hidle w (List.mem_of_getElem? hw))
    have hmem : request.ticket ∈ (answeredFor request.peer u.log).map (·.ticket) := by
      rw [hall, ← hticket]
      exact List.mem_map_of_mem hframe
    obtain ⟨a, ha, hsame⟩ := List.mem_map.mp hmem
    exact ⟨a, mem_answers.mpr ⟨_, ha⟩, hsame⟩

theorem requests_poll (hrequest : request ∈ u.poll.channel.requests) :
    ∀ a ∈ answers u.log, a.ticket ≠ request.ticket := by
  intro a ha hticket
  have hpoll := h.poll
  have hlater : a ∈ answers u.poll.log := by simpa [Usage.poll] using ha
  rcases List.mem_append.mp (hpoll.replies.mem_iff.mp hlater) with hmem | hmem
  · exact reap_pending hrequest a hmem hticket
  · -- the answer was reported for another request, which would have the same ticket
    obtain ⟨s, hs, rfl⟩ := List.mem_map.mp hmem
    have hpending : request ∈ enlisted u.poll.log :=
      hpoll.enlisted_of_accepted (hpoll.requests.mem_iff.mpr (List.mem_append_left _ hrequest))
    have hreported := hpoll.enlisted_of_accepted (hpoll.accepted_of_reported hs)
    obtain rfl := hpoll.eq_of_ticket hpending hreported hticket.symm
    have hdisjoint := List.disjoint_of_nodup_append hpoll.nodup_requests
    exact hdisjoint hrequest (List.mem_map_of_mem hs)

end

end Accounts

/-- However callers, writers, polls and the network come between each other on a channel that is not
closed:

* the frames written to a peer are the first of those that got into its queue, in their order;
* every accepted send has its own frame, is reported at most once, and nothing else is reported;
* it is reported as carried out if and only if its frame was written;
* the number of pending sends is the number of accepted sends less that of reported ones;
* what is reported for a peer is success for the written frames, a failure of the link for at most the
  one behind them, and the loss of the way to the peer for those further behind;
* once a poll has reported a failure for a peer, sends to it are refused at once, by the checks;
* when no writer has anything left to do, a poll leaves no send pending. -/
theorem accepted_sends_are_reported_once {network : Network} {settings : Settings} {c : Channel}
    (hcreate : Channel.create network settings = .ok c) (moves : List Move) {u : Usage}
    (hrun : Usage.run c moves = u) :
    (∀ peer, writtenTo peer u.log <+: queuedTo peer u.log) ∧
    ((accepted u.log).Nodup ∧ ∀ request ∈ accepted u.log,
      ∃ frame ∈ queuedTo request.peer u.log, frame.ticket = request.ticket) ∧
    (((reported u.log).map (·.request)).Nodup ∧ ∀ s ∈ reported u.log, s.request ∈ accepted u.log) ∧
    (∀ s ∈ reported u.log, s.outcome = .ok () ↔
      ∃ frame ∈ writtenTo s.request.peer u.log, frame.ticket = s.request.ticket) ∧
    Transport.pending u.channel = (accepted u.log).length - (reported u.log).length ∧
    (∀ s ∈ reported u.log, ∃ i frame, (queuedTo s.request.peer u.log)[i]? = some frame ∧
      frame.ticket = s.request.ticket ∧
      Fate s.request.peer (writtenTo s.request.peer u.log).length i s.outcome) ∧
    (∀ r settled, .polled r settled ∈ u.log →
      r.completed = settled.countP Settlement.isDone ∧
      r.failures = settled.filterMap Settlement.failure? ∧
      ∀ peer e, (peer, e) ∈ r.failures → ∀ packet,
        u.channel.checkSend peer packet = .error (.unroutable peer .failedEarlier) ∧
        (Transport.send u.channel peer packet).1 = .error (.unroutable peer .failedEarlier)) ∧
    ((∀ w ∈ u.channel.writers, w.isBusy = false) → Transport.pending (Transport.poll u.channel).2 = 0) := by
  have h : Accounts u := by
    rw [← hrun]
    exact (Accounts.create hcreate).foldl moves
  refine ⟨?_, ⟨h.nodup_accepted, ?_⟩, ⟨h.nodup_requests.of_append_right, ?_⟩, ?_, ?_, ?_, ?_, ?_⟩
  · intro peer
    have hvouches := h.writers peer
    cases hw : u.channel.writer? peer with
    | none =>
      rw [hw] at hvouches
      rw [hvouches.2.1]
      exact List.nil_prefix
    | some w =>
      rw [hw] at hvouches
      exact hvouches.2.written_isInitial
  · intro request hrequest
    exact mem_enlisted.mp (h.enlisted_of_accepted hrequest)
  · intro s hs
    exact h.accepted_of_reported hs
  · intro s hs
    obtain ⟨w, -, -, hkeeps, hanswer⟩ := h.answered_of_reported hs
    exact hkeeps.outcome_eq_ok (h.nodup_tickets.sublist queuedTo_sublist) hanswer
  · have hlength := h.requests.length_eq
    rw [List.length_append, List.length_map] at hlength
    show u.channel.requests.length = _
    omega
  · intro s hs
    obtain ⟨w, -, hpeer, hkeeps, hanswer⟩ := h.answered_of_reported hs
    obtain ⟨i, frame, hframe, hticket, hfate⟩ := hkeeps.fate hanswer
    rw [hpeer] at hfate
    exact ⟨i, frame, hframe, hticket, hfate⟩
  · intro r settled hmem
    obtain rfl := h.reports r settled hmem
    refine ⟨rfl, rfl, ?_⟩
    intro peer e hfailure packet
    obtain ⟨s, hs, hsome⟩ := List.mem_filterMap.mp hfailure
    obtain ⟨rfl, he⟩ := Settlement.failure?_eq_some.mp hsome
    have hrefused := h.checkSend_of_reported (mem_reported hmem hs) he packet
    refine ⟨hrefused, ?_⟩
    show (u.channel.send s.request.peer packet).1 = _
    unfold Channel.send
    rw [hrefused]
  · intro hidle
    show u.poll.channel.requests.length = 0
    rw [List.length_eq_zero_iff, List.eq_nil_iff_forall_not_mem]
    intro request hrequest
    have haccepted : request ∈ accepted u.log := by
      have hmem := h.poll.requests.mem_iff.mpr (List.mem_append_left _ hrequest)
      simpa [Usage.poll] using hmem
    obtain ⟨a, ha, hticket⟩ := h.mem_answers_of_idle hidle (h.enlisted_of_accepted haccepted)
    exact h.requests_poll hrequest a ha hticket

/-- The settings of two processes. -/
def pairSettings : Settings :=
  { peers := [.loopback 0, .loopback 0] }

/-- One frame is written, the next is lost, and the failure is reported. A third send has passed its
checks before, and gets its frame into the queue just before it is closed. -/
def slippingIn : List Move :=
  let peer : ProcessId := ⟨1⟩
  let packet : Packet := ⟨.service, ⟨0⟩, []⟩
  [.send peer packet, .write peer .proceed, .write peer .connected, .write peer .written,
    .write peer .proceed, .send peer packet, .check peer packet, .write peer .proceed,
    .write peer (.broken .flush), .write peer .proceed, .write peer .proceed, .poll,
    .enqueue peer packet, .register ⟨peer, 2⟩, .write peer .proceed, .write peer .proceed,
    .write peer .proceed, .poll]

theorem accepted_sends_are_reported_once_slipping_in :
    ∃ c, Channel.create .isolated pairSettings = .ok c ∧
      let u := Usage.run c slippingIn
      (accepted u.log).map (·.ticket) = [0, 1, 2] ∧
      (reported u.log).map (fun s => (s.request.ticket, s.failure?)) =
        [(0, none),
          (1, some (⟨1⟩, .link (.described "Failed to flush TCP stream") (some (.loopback 0)) none)),
          (2, some (⟨1⟩, .unroutable ⟨1⟩ .failedMeanwhile))] ∧
      (writtenTo ⟨1⟩ u.log).map (·.ticket) = [0] ∧
      Transport.pending u.channel = 0 := by
  have hcreate : Channel.create .isolated pairSettings =
      .ok { settings := pairSettings, writers := Channel.createWriters pairSettings } := by rfl
  refine ⟨_, hcreate, ?_⟩
  intro u
  have haccepted : (accepted u.log).map (·.ticket) = [0, 1, 2] := by rfl
  have hreported : (reported u.log).map (fun s => (s.request.ticket, s.failure?)) =
      [(0, none),
        (1, some (⟨1⟩, .link (.described "Failed to flush TCP stream") (some (.loopback 0)) none)),
        (2, some (⟨1⟩, .unroutable ⟨1⟩ .failedMeanwhile))] := by rfl
  obtain ⟨-, -, -, -, hpending, -⟩ :=
    accepted_sends_are_reported_once hcreate slippingIn (u := u) rfl
  refine ⟨haccepted, hreported, by rfl, ?_⟩
  have hsent := congrArg List.length haccepted
  have htold := congrArg List.length hreported
  simp only [List.length_map, List.length_cons, List.length_nil] at hsent htold
  omega

end PetriCluster.Tcp
