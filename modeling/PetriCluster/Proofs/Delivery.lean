import PetriCluster.Proofs.Mail

/-!
# Mailboxes deliver in order, and each packet once

Any number of endpoints, also several of one process, send, take and shut down in any order
(`Office`). The log of a run says what was accepted, what was handed out and who shut down. By it, what
the endpoints of a process were handed, and then what waits in its mailbox, is what was accepted for
that process, in the order of sending (`Ledger`).
-/

namespace PetriCluster.Mailbox

/-! ## What waits in all mailboxes -/

namespace Hub

variable {h : Hub} {p : ProcessId}

/-- What waits in all mailboxes together, each packet weighed. -/
def load (h : Hub) (weight : Packet → Nat) : Nat :=
  (h.boxes.map fun b => (b.queue.map weight).sum).sum

/-- The load of all mailboxes after one has changed. -/
theorem load_update {f : Box → Box} {b : Box} (hbox : h.box? p = some b) (weight : Packet → Nat) :
    (h.update p f).load weight + (b.queue.map weight).sum =
      h.load weight + ((f b).queue.map weight).sum := by
  unfold load update
  unfold box? at hbox
  generalize p.index = i at hbox
  generalize h.boxes = boxes at hbox
  -- along the mailboxes, down to the one that is changed
  induction boxes generalizing i with
  | nil => simp at hbox
  | cons first rest ih =>
    cases i with
    | zero =>
      obtain rfl : first = b := by simpa using hbox
      simp
      omega
    | succ i =>
      have hrest := ih i (by simpa using hbox)
      simp at hrest ⊢
      omega

theorem box_of_lt (hp : p.index < h.boxes.length) : ∃ b, h.box? p = some b ∧ h.queue p = b.queue := by
  refine ⟨h.boxes[p.index], List.getElem?_eq_getElem hp, ?_⟩
  simp [queue, box?, List.getElem?_eq_getElem hp]

theorem load_deliver (hp : p.index < h.boxes.length) (packet : Packet) (weight : Packet → Nat) :
    (h.deliver p packet).load weight = h.load weight + weight packet := by
  obtain ⟨b, hbox, -⟩ := box_of_lt hp
  have hload := load_update (f := fun b => { b with queue := b.queue ++ [packet] }) hbox weight
  simp only [List.map_append, List.map_cons, List.map_nil, List.sum_append, List.sum_singleton] at hload
  unfold deliver
  omega

theorem load_take {packet : Packet} {h' : Hub} (htake : h.take p = (some packet, h'))
    (weight : Packet → Nat) : h'.load weight + weight packet = h.load weight := by
  obtain ⟨hqueue, rfl⟩ := take_eq_some htake
  have hp : p.index < h.boxes.length := by
    by_contra hle
    simp [queue, box?, Nat.not_lt.mp hle] at hqueue
  obtain ⟨b, hbox, hqueue'⟩ := box_of_lt hp
  have hload := load_update (f := fun b => { b with queue := b.queue.tail }) hbox weight
  rw [hqueue'] at hqueue
  rw [hqueue] at hload
  simp only [List.map_cons, List.sum_cons, List.tail_cons] at hload
  omega

theorem load_close (weight : Packet → Nat) : (h.close p).load weight = h.load weight := by
  rcases Nat.lt_or_ge p.index h.boxes.length with hp | hp
  · obtain ⟨b, hbox, -⟩ := box_of_lt hp
    exact Nat.add_right_cancel (load_update (f := fun b => { b with closed := true }) hbox weight)
  · simp [close, update, load, List.modify_eq_self hp]

end Hub

/-! ## Endpoints at work -/

/-- Something done at the hub; endpoints are named by the order in which they were opened. -/
inductive Request where
  | connect (process : ProcessId)
  | send (endpoint : Nat) (target : ProcessId) (packet : Packet)
  | receive (endpoint : Nat)
  | shutdown (endpoint : Nat)

/-- What is written down of it. -/
inductive Event where
  | accepted (target : ProcessId) (packet : Packet)
  | received (process : ProcessId) (packet : Packet)
  | closed (process : ProcessId)
  deriving DecidableEq

namespace Event

/-- The packet that was accepted for a process. -/
def acceptedFor? (q : ProcessId) : Event → Option Packet
  | accepted target packet => if target = q then some packet else none
  | _ => none

/-- The packet that a process took in. -/
def receivedBy? (q : ProcessId) : Event → Option Packet
  | received process packet => if process = q then some packet else none
  | _ => none

end Event

/-- A hub with the endpoints opened so far. -/
structure Office where
  hub : Hub
  endpoints : List Endpoint := []

namespace Office

/-- The hub through one of the endpoints. -/
def link? (o : Office) (i : Nat) : Option Link := o.endpoints[i]?.map (⟨·, o.hub⟩)

/-- What an endpoint has made of itself and of the hub. -/
def update (o : Office) (i : Nat) (l : Link) : Office := ⟨l.hub, o.endpoints.set i l.endpoint⟩

/-- Carry out a request, if there is such an endpoint, and write down what happened. -/
def step (o : Office) : Request → Office × List Event
  | .connect process =>
    match Endpoint.create o.hub process with
    | .error _ => (o, [])
    | .ok e => ({ o with endpoints := o.endpoints ++ [e] }, [])
  | .send i target packet =>
    match o.link? i with
    | none => (o, [])
    | some l =>
      match Transport.send l target packet with
      | (.error _, l) => (o.update i l, [])
      | (.ok (), l) => (o.update i l, [.accepted target packet])
  | .receive i =>
    match o.link? i with
    | none => (o, [])
    | some l =>
      match Transport.receive l with
      | (.ok (some packet), l) => (o.update i l, [.received (Transport.process l) packet])
      | (_, l) => (o.update i l, [])
  | .shutdown i =>
    match o.link? i with
    | none => (o, [])
    | some l => (o.update i (Transport.shutdown l), [.closed (Transport.process l)])

/-- Carry out requests in order, and tell what happened. -/
def run (o : Office) : List Request → Office × List Event
  | [] => (o, [])
  | r :: rs =>
    let (next, events) := o.step r
    let (last, later) := next.run rs
    (last, events ++ later)

variable {o : Office} {i : Nat}

theorem link?_eq_some {l : Link} (h : o.link? i = some l) :
    o.endpoints[i]? = some l.endpoint ∧ l.hub = o.hub := by
  unfold link? at h
  obtain ⟨e, he, rfl⟩ := Option.map_eq_some_iff.mp h
  exact ⟨he, rfl⟩

/-- What a request can come to. -/
inductive Steps (o : Office) : Office → List Event → Prop
  | nothing : Steps o o []
  | opened {process : ProcessId} (hplace : process.index < o.hub.boxes.length) :
    Steps o ⟨o.hub, o.endpoints ++ [⟨process, {}⟩]⟩ []
  | accepted {i : Nat} {e : Endpoint} {target : ProcessId} (packet : Packet)
    (he : o.endpoints[i]? = some e) (hroute : Endpoint.route o.hub e.process target = .ok ()) :
    Steps o ⟨o.hub.deliver target packet,
      o.endpoints.set i { e with stats := e.stats.recordSend packet }⟩ [.accepted target packet]
  | refused {i : Nat} {e : Endpoint} (he : o.endpoints[i]? = some e) :
    Steps o ⟨o.hub, o.endpoints.set i { e with stats := e.stats.recordFailures 1 }⟩ []
  | received {i : Nat} {e : Endpoint} {packet : Packet} {hub : Hub}
    (he : o.endpoints[i]? = some e) (htake : o.hub.take e.process = (some packet, hub)) :
    Steps o ⟨hub, o.endpoints.set i { e with stats := e.stats.recordReceive packet }⟩
      [.received e.process packet]
  | closed {i : Nat} {e : Endpoint} (he : o.endpoints[i]? = some e) :
    Steps o ⟨o.hub.close e.process, o.endpoints⟩ [.closed e.process]

theorem set_getElem? {α : Type} {xs : List α} {i : Nat} {x : α} (h : xs[i]? = some x) :
    xs.set i x = xs := by
  obtain ⟨hi, rfl⟩ := List.getElem?_eq_some_iff.mp h
  exact List.set_getElem_self hi

theorem steps_of_step (o : Office) (r : Request) : o.Steps (o.step r).1 (o.step r).2 := by
  cases r with
  | connect process =>
    by_cases hplace : o.hub.boxes.length ≤ process.index
    · have hrefused : (o.step (.connect process)) = (o, []) := by
        simp [step, Endpoint.create, Hub.processCount, hplace]
      rw [hrefused]
      exact .nothing
    · have hopened : (o.step (.connect process)) = (⟨o.hub, o.endpoints ++ [⟨process, {}⟩]⟩, []) := by
        simp [step, Endpoint.create, Hub.processCount, hplace]
      rw [hopened]
      exact .opened (Nat.not_le.mp hplace)
  | send i target packet =>
    simp only [step]
    cases hlink : o.link? i with
    | none => exact .nothing
    | some l =>
      obtain ⟨he, hhub⟩ := link?_eq_some hlink
      simp only [Transport.send, Endpoint.send, hhub]
      cases hroute : Endpoint.route o.hub l.endpoint.process target with
      | error => exact .refused he
      | ok => exact .accepted packet he hroute
  | receive i =>
    simp only [step]
    cases hlink : o.link? i with
    | none => exact .nothing
    | some l =>
      obtain ⟨he, hhub⟩ := link?_eq_some hlink
      simp only [Transport.receive, Endpoint.receive, hhub]
      rcases htake : o.hub.take l.endpoint.process with ⟨_ | packet, hub⟩
      · have hsame : hub = o.hub := by
          unfold Hub.take at htake
          split at htake <;> cases htake
          rfl
        have hupdate : o.update i ⟨l.endpoint, hub⟩ = o := by
          rw [update, hsame, set_getElem? he]
        simp only [hupdate]
        exact .nothing
      · exact .received he htake
  | shutdown i =>
    simp only [step]
    cases hlink : o.link? i with
    | none => exact .nothing
    | some l =>
      obtain ⟨he, hhub⟩ := link?_eq_some hlink
      have hupdate : o.update i (Transport.shutdown l) =
          ⟨o.hub.close l.endpoint.process, o.endpoints⟩ := by
        simp only [update, Transport.shutdown, hhub, set_getElem? he]
      simp only [hupdate]
      exact .closed he

end Office

/-! ## The ledger -/

/-- What the hub and its endpoints have to do with what was written down so far. -/
structure Ledger (n : Nat) (o : Office) (log : List Event) : Prop where
  size : o.hub.boxes.length = n
  place : ∀ e ∈ o.endpoints, e.process.index < n
  queue : ∀ q, log.filterMap (Event.receivedBy? q) ++ o.hub.queue q =
    log.filterMap (Event.acceptedFor? q)
  closed : ∀ q : ProcessId, q.index < n → (o.hub.isClosed q = true ↔ Event.closed q ∈ log)
  packets : (o.endpoints.map (·.stats.packetsSent)).sum =
    (o.endpoints.map (·.stats.packetsReceived)).sum + o.hub.load fun _ => 1
  bytes : (o.endpoints.map (·.stats.bytesSent)).sum =
    (o.endpoints.map (·.stats.bytesReceived)).sum + o.hub.load Packet.wireLength

theorem sum_map_set {α : Type} {xs : List α} {i : Nat} {x : α} (h : xs[i]? = some x) (y : α)
    (f : α → Nat) : ((xs.set i y).map f).sum + f x = (xs.map f).sum + f y := by
  induction xs generalizing i with
  | nil => simp at h
  | cons first rest ih =>
    cases i with
    | zero =>
      obtain rfl : first = x := by simpa using h
      simp
      omega
    | succ i =>
      have hrest := ih (i := i) (by simpa using h)
      simp only [List.set_cons_succ, List.map_cons, List.sum_cons]
      omega

section

variable (s : TransportStats)

theorem packetsSent_recordSend (packet : Packet) :
    (s.recordSend packet).packetsSent = s.packetsSent + 1 := by
  unfold TransportStats.recordSend TransportStats.packetsSent
  cases packet.tag <;> simp <;> omega

theorem bytesSent_recordSend (packet : Packet) :
    (s.recordSend packet).bytesSent = s.bytesSent + packet.wireLength := by
  unfold TransportStats.recordSend
  cases packet.tag <;> rfl

theorem received_recordSend (packet : Packet) :
    (s.recordSend packet).packetsReceived = s.packetsReceived ∧
      (s.recordSend packet).bytesReceived = s.bytesReceived := by
  unfold TransportStats.recordSend
  cases packet.tag <;> exact ⟨rfl, rfl⟩

end

namespace Ledger

variable {n : Nat} {o o' : Office} {log events : List Event}

theorem opened {h : Hub} (hcreate : Hub.create n = .ok h) : Ledger n ⟨h, []⟩ [] := by
  unfold Hub.create at hcreate
  split at hcreate <;> cases hcreate
  refine ⟨by simp, by simp, fun q => ?_, fun q hq => ?_, ?_, ?_⟩
  · cases hbox : (List.replicate n ({} : Box))[q.index]? with
    | none => simp [Hub.queue, Hub.box?, hbox]
    | some b =>
      obtain rfl : b = {} := List.eq_of_mem_replicate (List.mem_of_getElem? hbox)
      simp [Hub.queue, Hub.box?, hbox]
  · simp [Hub.isClosed, Hub.box?, hq]
  · simp [Hub.load]
  · simp [Hub.load]

section

variable (hl : Ledger n o log)

include hl

theorem place_set {i : Nat} {e : Endpoint} (he : o.endpoints[i]? = some e)
    (stats : TransportStats) :
    ∀ e' ∈ o.endpoints.set i { e with stats }, e'.process.index < n := by
  intro e' hmem
  rcases List.mem_or_eq_of_mem_set hmem with hold | rfl
  · exact hl.place e' hold
  · exact hl.place e (List.mem_of_getElem? he)

omit hl in
/-- An endpoint gets new numbers, and the sums of what went out and of what came in still differ by what
is queued. -/
theorem balance_set {f g : TransportStats → Nat} {i x y : Nat} {e : Endpoint}
    (he : o.endpoints[i]? = some e) (stats : TransportStats)
    (hall : (o.endpoints.map (f ·.stats)).sum = (o.endpoints.map (g ·.stats)).sum + x)
    (hone : f stats + g e.stats + x = f e.stats + g stats + y) :
    ((o.endpoints.set i { e with stats }).map (f ·.stats)).sum =
      ((o.endpoints.set i { e with stats }).map (g ·.stats)).sum + y := by
  have hout := sum_map_set he { e with stats } (f ·.stats)
  have hin := sum_map_set he { e with stats } (g ·.stats)
  simp only at hout hin
  omega

theorem accepted {i : Nat} {e : Endpoint} {target : ProcessId} (packet : Packet)
    (he : o.endpoints[i]? = some e) (hroute : Endpoint.route o.hub e.process target = .ok ()) :
    Ledger n ⟨o.hub.deliver target packet,
      o.endpoints.set i { e with stats := e.stats.recordSend packet }⟩
      (log ++ [.accepted target packet]) := by
  obtain ⟨-, hopen, -⟩ := route_eq_ok.mp hroute
  have htarget := Hub.lt_of_isClosed hopen
  have hsame := received_recordSend e.stats packet
  refine ⟨?_, hl.place_set he _, fun q => ?_, fun q hq => ?_, balance_set he _ hl.packets ?_,
    balance_set he _ hl.bytes ?_⟩
  · simpa [Hub.deliver, Hub.update] using hl.size
  · rw [Hub.queue_deliver htarget, List.filterMap_append, List.filterMap_append, ← hl.queue q]
    by_cases hq : q = target
    · simp [Event.receivedBy?, Event.acceptedFor?, hq]
    · simp [Event.receivedBy?, Event.acceptedFor?, hq, Ne.symm hq]
  · rw [Hub.isClosed_deliver, hl.closed q hq]
    simp
  · rw [packetsSent_recordSend, hsame.1, Hub.load_deliver htarget]
    omega
  · rw [bytesSent_recordSend, hsame.2, Hub.load_deliver htarget]
    omega

theorem received {i : Nat} {e : Endpoint} {packet : Packet} {hub : Hub}
    (he : o.endpoints[i]? = some e) (htake : o.hub.take e.process = (some packet, hub)) :
    Ledger n ⟨hub, o.endpoints.set i { e with stats := e.stats.recordReceive packet }⟩
      (log ++ [.received e.process packet]) := by
  have hpackets := Hub.load_take htake fun _ => 1
  have hbytes := Hub.load_take htake Packet.wireLength
  obtain ⟨hfirst, rfl⟩ := Hub.take_eq_some htake
  refine ⟨?_, hl.place_set he _, fun q => ?_, fun q hq => ?_, balance_set he _ hl.packets ?_,
    balance_set he _ hl.bytes ?_⟩
  · simpa [Hub.update] using hl.size
  · have hqueue := hl.queue q
    by_cases hq : q = e.process
    · subst hq
      rw [hfirst] at hqueue
      simpa [List.filterMap_cons, Event.receivedBy?, Event.acceptedFor?] using hqueue
    · rw [Hub.queue_update_of_ne hq]
      simpa [List.filterMap_cons, Event.receivedBy?, Event.acceptedFor?, Ne.symm hq] using hqueue
  · rw [Hub.isClosed_update (f := fun b => { b with queue := b.queue.tail }) fun _ => rfl,
      hl.closed q hq]
    simp
  · simp only [TransportStats.recordReceive, TransportStats.packetsSent]
    omega
  · simp only [TransportStats.recordReceive]
    omega

theorem closing (e : Endpoint) :
    Ledger n ⟨o.hub.close e.process, o.endpoints⟩ (log ++ [.closed e.process]) := by
  refine ⟨?_, hl.place, fun q => ?_, fun q hq => ?_, ?_, ?_⟩
  · simpa [Hub.close, Hub.update] using hl.size
  · rw [Hub.queue_close]
    simpa [List.filterMap_cons, Event.receivedBy?, Event.acceptedFor?] using hl.queue q
  · by_cases hself : q = e.process
    · subst hself
      simp [Hub.isClosed_close_self]
    · rw [Hub.close, Hub.isClosed_update_of_ne hself, hl.closed q hq]
      simp [hself]
  · simp only [Hub.load_close]
    exact hl.packets
  · simp only [Hub.load_close]
    exact hl.bytes

/-- Whatever a request comes to, what was written down stays right. -/
theorem steps (hs : o.Steps o' events) : Ledger n o' (log ++ events) := by
  cases hs with
  | nothing => simpa using hl
  | opened hplace =>
    refine ⟨hl.size, ?_, by simpa using hl.queue, by simpa using hl.closed, ?_, ?_⟩
    · intro e hmem
      rcases List.mem_append.mp hmem with hold | hnew
      · exact hl.place e hold
      · obtain rfl := List.mem_singleton.mp hnew
        exact hl.size ▸ hplace
    · simpa [TransportStats.packetsSent] using hl.packets
    · simpa using hl.bytes
  | accepted packet he hroute => exact hl.accepted packet he hroute
  | refused he =>
    refine ⟨hl.size, hl.place_set he _, by simpa using hl.queue, by simpa using hl.closed, ?_, ?_⟩
    · refine balance_set he _ hl.packets ?_
      simp only [TransportStats.recordFailures, TransportStats.packetsSent]
    · exact balance_set he _ hl.bytes (by simp only [TransportStats.recordFailures])
  | received he htake => exact hl.received he htake
  | @closed i e he => exact hl.closing e

/-- The ledger of a whole run balances. -/
theorem run (requests : List Request) :
    Ledger n (o.run requests).1 (log ++ (o.run requests).2) := by
  induction requests generalizing o log with
  | nil => simpa [Office.run] using hl
  | cons r rs ih =>
    have hrest := ih (hl.steps (Office.steps_of_step o r))
    simpa only [Office.run, List.append_assoc] using hrest

theorem open_iff {q : ProcessId} (hq : q.index < n) :
    o.hub.isClosed q = false ↔ Event.closed q ∉ log := by
  rw [← hl.closed q hq, Bool.not_eq_true]

theorem send_eq_ok {e : Endpoint} (he : e ∈ o.endpoints) (target : ProcessId)
    (packet : Packet) :
    (e.send o.hub target packet).1 = .ok () ↔ Event.closed e.process ∉ log ∧
      Event.closed target ∉ log ∧ target ≠ e.process ∧ target.index < n := by
  have hsend : (e.send o.hub target packet).1 = .ok () ↔
      Endpoint.route o.hub e.process target = .ok () := by
    unfold Endpoint.send
    cases Endpoint.route o.hub e.process target <;> simp
  rw [hsend, route_eq_ok, hl.open_iff (hl.place e he)]
  constructor
  · rintro ⟨hsender, hopen, hself⟩
    have htarget : target.index < n := hl.size ▸ Hub.lt_of_isClosed hopen
    exact ⟨hsender, (hl.open_iff htarget).mp hopen, hself, htarget⟩
  · rintro ⟨hsender, hopen, hself, htarget⟩
    exact ⟨hsender, (hl.open_iff htarget).mpr hopen, hself⟩

end

end Ledger

/-- After any requests to a hub of at least one process: for every process, what its endpoints were
handed and then what waits for it is what was accepted for it, in order. A send is accepted exactly
when neither end has shut down and it goes to another process of the cluster. A send that is refused
counts as a failure of its endpoint, and nothing else changes. Over all endpoints, the packets sent
are those received and those that wait, and so are their bytes. -/
theorem mailboxes_deliver_in_order {n : Nat} {hub : Hub} (hcreate : Hub.create n = .ok hub)
    (requests : List Request) {office : Office} {log : List Event}
    (hrun : Office.run ⟨hub, []⟩ requests = (office, log)) :
    (∀ q, log.filterMap (Event.receivedBy? q) ++ office.hub.queue q =
      log.filterMap (Event.acceptedFor? q)) ∧
    (∀ e ∈ office.endpoints, ∀ target packet,
      ((e.send office.hub target packet).1 = .ok () ↔ Event.closed e.process ∉ log ∧
        Event.closed target ∉ log ∧ target ≠ e.process ∧ target.index < n) ∧
      ∀ error, (e.send office.hub target packet).1 = .error error →
        (e.send office.hub target packet).2 =
          ({ e with stats := { e.stats with sendFailures := e.stats.sendFailures + 1 } },
            office.hub)) ∧
    (office.endpoints.map (·.stats.packetsSent)).sum =
      (office.endpoints.map (·.stats.packetsReceived)).sum + (office.hub.load fun _ => 1) ∧
    (office.endpoints.map (·.stats.bytesSent)).sum =
      (office.endpoints.map (·.stats.bytesReceived)).sum + office.hub.load Packet.wireLength := by
  have hledger : Ledger n office log := by
    have hfinal := (Ledger.opened hcreate).run requests
    rwa [hrun] at hfinal
  refine ⟨hledger.queue, fun e he target packet => ⟨hledger.send_eq_ok he target packet, ?_⟩,
    hledger.packets, hledger.bytes⟩
  intro error herror
  unfold Endpoint.send at herror ⊢
  cases hroute : Endpoint.route office.hub e.process target with
  | error => rfl
  | ok => simp [hroute] at herror

/-- Of two packets for a process with two endpoints, the second endpoint is handed the first packet;
after the first endpoint has shut the process down, a third packet is refused. -/
theorem mailboxes_deliver_in_order_shared_mailbox :
    let result := Office.run ⟨⟨[{}, {}]⟩, []⟩ [.connect ⟨0⟩, .connect ⟨1⟩, .connect ⟨1⟩,
      .send 0 ⟨1⟩ ⟨.service, ⟨0⟩, [7]⟩, .send 0 ⟨1⟩ ⟨.service, ⟨0⟩, [8]⟩, .receive 2, .shutdown 1,
      .send 0 ⟨1⟩ ⟨.service, ⟨0⟩, [9]⟩]
    result.2 = [.accepted ⟨1⟩ ⟨.service, ⟨0⟩, [7]⟩, .accepted ⟨1⟩ ⟨.service, ⟨0⟩, [8]⟩,
      .received ⟨1⟩ ⟨.service, ⟨0⟩, [7]⟩, .closed ⟨1⟩] ∧
    result.2.filterMap (Event.receivedBy? ⟨1⟩) ++ result.1.hub.queue ⟨1⟩ =
      result.2.filterMap (Event.acceptedFor? ⟨1⟩) := by
  intro result
  have hcreate : Hub.create 2 = .ok ⟨[{}, {}]⟩ := rfl
  exact ⟨rfl, (mailboxes_deliver_in_order hcreate _ (rfl : Office.run _ _ = (result.1, result.2))).1 ⟨1⟩⟩

end PetriCluster.Mailbox
