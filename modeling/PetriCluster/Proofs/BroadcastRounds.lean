import PetriCluster.Proofs.FirstNet
import PetriCluster.Proofs.Multicast

/-!
# Schedulers and the broadcast

As long as the broadcast is live at process 0, every token that its main copy has sent to itself is in
the inbox, in the copy, or consumed, and every round has been counted (`Main`). The copy can halt the
net only when it has consumed all rounds, and from then on nothing of this changes.
-/

namespace PetriCluster

variable {σ : Type} {bound : List Parcel}

theorem eraseDups_of_nodup {α : Type} [DecidableEq α] {l : List α} (h : l.Nodup) : l.eraseDups = l := by
  induction l with
  | nil => rfl
  | cons a l ih =>
    obtain ⟨hnot, hrest⟩ := List.nodup_cons.mp h
    have hkept : l.filter (fun b => !b == a) = l :=
      List.filter_eq_self.mpr fun b hb => by
        have hne : b ≠ a := fun heq => hnot (heq ▸ hb)
        simpa using hne
    rw [List.eraseDups_cons, hkept, ih hrest]

theorem Registry.Stopped.beginHalt {r : Registry} {net : NetId} (h : r.Stopped net) :
    r.beginHalt net = .ok (.alreadyHalting, r) := by
  unfold Registry.beginHalt
  by_cases hretired : r.isRetired net = true
  · rw [if_pos hretired]
  · rw [if_neg hretired]
    cases hslot : r.slot? net with
    | none => simp [Stopped, state?, hslot, hretired] at h
    | some slot =>
      rw [Stopped, state?_of_slot hslot] at h
      rcases h with h | h <;> simp [Option.some.inj h, NetState.isLive]

/-- Nobody is told of an acknowledgment for a net that does not halt. -/
theorem Scene.Seats.countAck [NetBehaviour σ] {s : Scene σ} {net : NetId} {owner : WorkerId}
    {adopted : Bool} {state : σ} (h : s.Seats net owner adopted state bound) (m : NetId) :
    s.countAck m = s := by
  unfold Scene.countAck
  rcases hack : s.registry.acknowledge m with e | ⟨outcome, registry⟩
  · rfl
  · obtain ⟨slot, hslot, hhalting, -⟩ := Registry.acknowledge_eq_setSlot hack
    obtain ⟨found, -, hlive, hfound⟩ := h.slot
    rw [hfound] at hslot
    by_cases hm : m = net
    · rw [hm, Function.update_self] at hslot
      cases hslot
      simp [hhalting, NetState.isLive] at hlive
    · rw [Function.update_of_ne hm] at hslot
      cases hslot

theorem Scene.Unmoved.accounted [NetBehaviour σ] {s t : Scene σ} (h : s.Unmoved t)
    (hs : ∀ m, s.Accounted m) (m : NetId) : t.Accounted m := by
  refine (hs m).congr ⟨by rw [h.registry], fun w => by rw [h.active], fun w => by rw [h.halting],
    fun f _ => h.count f, fun w f _ => ?_⟩
  rw [countAt, countAt, h.items]

/-- What is left of a net breaks nothing if all of it is accounted for. -/
theorem Scene.Dwindles.not_fails [NetBehaviour σ] {s t : Scene σ} {net : NetId} {state : σ}
    {item : WorkItem σ} {rest : List (WorkItem σ)} {c : Crash} (h : s.Dwindles net state)
    (hs : ∀ m, s.Accounted m) (hhand : s.hand = item :: rest) : ¬ Fails s item c t := by
  intro hfails
  cases hfails with
  | @orphan made hnone =>
    obtain ⟨slot, hslot, -⟩ := (hs (NetBehaviour.id made)).slot_of_hand hhand (by simp [WorkItem.concerns])
    cases hnone.symm.trans hslot
  | @stray _ m hnet _ hunknown =>
    have hconcerns : item.concerns m = true := by
      rcases h.of_hand hhand with rfl | hexit
      · simpa [WorkItem.concerns, WorkItem.net?] using hnet
      · cases item with
        | halt | reclaim => simpa [WorkItem.concerns, WorkItem.net?] using hnet
        | _ => cases hexit
    obtain ⟨slot, hslot, -⟩ := (hs m).slot_of_hand hhand hconcerns
    rw [Registry.state?_of_slot hslot] at hunknown
    cases hunknown
  | broken =>
    rcases h.of_hand hhand with heq | hexit
    · cases heq
    · cases hexit

theorem Scene.Seats.unmoved [NetBehaviour σ] {s t : Scene σ} {net : NetId} {owner : WorkerId}
    {adopted : Bool} {state : σ} {packet : Packet} {ws : List Wire} {events : List TokenEvent}
    (h : s.Seats net owner adopted state bound) (hpacket : packet.Tells ControlMessage.isMild)
    (htakes : Takes s packet ws events t) : s.Unmoved t := by
  have htag := hpacket.1
  cases htakes with
  | tokens hparcel | lateTokens hparcel => simp [Packet.tag_of_parcel hparcel] at htag
  | badTokens htokens => simp [htokens] at htag
  | spawned hm | spawnRefused hm | halted hm | haltedBefore hm => cases hpacket.2 _ hm
  | haltAck =>
    rw [h.countAck]
    exact .refl s
  | quit | reply => exact ⟨rfl, rfl, rfl, fun _ => rfl, fun _ => rfl⟩
  | ignored | probe => exact .refl s

namespace Node

/-- A halt that was requested before is requested in vain. -/
theorem attempt_halt_stopped {τ : Type} {n : Node σ τ} {net : NetId}
    (h : n.process.registry.Stopped net) (requester : WorkerId) :
    ∃ r, attempt (halt requester net) n = .ok r n := by
  by_cases hrequester : requester.index < n.process.inboxes.length
  · refine ⟨.ok (), ?_⟩
    simp [attempt_apply, halt, bind_apply, checkWorker_apply, hrequester, withRegistry_apply,
      h.beginHalt, completeObligation_apply]
  · refine ⟨.error (.unknownWorker requester), ?_⟩
    simp [attempt_apply, halt, bind_apply, checkWorker_apply, hrequester]

variable {n : Nat} {i : Fin n} {net : NetId} {owner w : WorkerId} {state : DemoNet} {parcel : Parcel}

theorem forEachTarget_seated (hn : n < IdSource.wordSize) (hparcel : parcel.net = net)
    {targets : List ProcessId} (htargets : ∀ t ∈ targets, ∃ q : Fin n, ProcessId.at q = t)
    {m : Node DemoNet Mailbox.Link} (hid : m.process.id = .at i) (hserves : m.link.hub.Serves n)
    (hendpoint : m.link.endpoint.process = .at i) (hworker : owner.index < m.process.inboxes.length)
    (hseats : (m.process.scene w []).Seats net owner true state bound)
    (hsettled : ∀ k, (m.process.scene w []).Accounted k) :
    ∃ results m' ws, forEachTarget (sendTokens · parcel) targets m = .ok results m' ∧
      (∀ x ∈ results, x.2 = .ok ()) ∧ Wired m.link ws m'.link ∧
      (∀ x ∈ ws, ∃ target, x = .sent target (.ofTokens (.at i) parcel)) ∧
      m'.process.books = { m.process.books with
        localDeliveries := m.process.books.localDeliveries + targets.count (.at i)
        remoteDeliveries := m.process.books.remoteDeliveries + targets.countP (· ≠ .at i) } ∧
      m'.process.workers.length = m.process.workers.length ∧
      (m'.process.scene w []).Seats net owner true state
        (bound ++ List.replicate (targets.count (.at i)) parcel) ∧
      ∀ k, (m'.process.scene w []).Accounted k := by
  induction targets generalizing m bound with
  | nil => exact ⟨[], m, [], rfl, by simp, .nil, by simp, rfl, rfl, by simpa using hseats, hsettled⟩
  | cons t rest ih =>
    obtain ⟨q, rfl⟩ := htargets t (List.mem_cons_self ..)
    have hrest := fun t ht => htargets t (List.mem_cons_of_mem _ ht)
    by_cases hq : q = i
    · subst hq
      have hlive : m.process.registry.liveOwner? parcel.net = some owner := by
        rw [hparcel]
        exact hseats.liveOwner?
      obtain ⟨mid, hsend, hlink, hbooks, hscene⟩ : ∃ mid, sendTokens m.process.id parcel m =
          .ok () mid ∧ mid.link = m.link ∧ _ := sendTokens_local hlive hworker
      rw [hid] at hsend
      have hposted := hseats.post hworker hparcel
      rw [← hscene] at hposted
      have hsettled' (k : NetId) : (mid.process.scene w []).Accounted k := by
        rw [hscene]
        exact (hsettled k).congr (.post hworker rfl)
      have hlength : mid.process.inboxes.length = m.process.inboxes.length := by
        rw [show mid.process.inboxes = _ from congrArg Scene.inboxes (hscene w [])]
        exact List.length_modify ..
      obtain ⟨results, m', ws, hrun, hresults, hwired, hws, hbooks', hworkers, hseats', hlast⟩ :=
        ih hrest (show mid.process.books.id = _ by rw [hbooks]; exact hid)
          (hlink ▸ hserves) (hlink ▸ hendpoint) (hlength ▸ hworker) hposted hsettled'
      refine ⟨(.at q, .ok ()) :: results, m', ws, ?_, by simpa using hresults, hlink ▸ hwired, hws,
        ?_, hworkers.trans (congrArg Scene.workerCount (hscene w [])), ?_, hlast⟩
      · simp only [forEachTarget, bind_apply, attempt_apply, hsend, hrun, pure_apply]
      · rw [hbooks', hbooks]
        simp [Nat.add_assoc, Nat.add_comm 1]
      · rw [List.count_cons_self, List.replicate_succ, List.append_cons]
        exact hseats'
    · obtain ⟨link, hsent⟩ := Mailbox.send_of_serves hn hserves hendpoint hq
        (.ofTokens m.process.id parcel)
      have hne : ProcessId.at q ≠ .at i := fun heq => hq (ProcessId.at_inj hn heq)
      obtain ⟨mid, hsend, hlink, hbooks, hscene⟩ := sendTokens_remote (hid ▸ hne) hsent
      have hwire : Wired m.link [.sent (.at q) (.ofTokens m.process.id parcel)] mid.link :=
        hlink ▸ .sent hsent .nil
      obtain ⟨-, hserves', hendpoint'⟩ := Mailbox.exchange_of_wired hn hwire hserves hendpoint
      have hkept : (mid.process.scene w []).Seats net owner true state bound := by
        rw [hscene]
        exact hseats.congr ⟨rfl, rfl, rfl, fun _ => rfl, fun _ => rfl⟩
      have hsettled' (k : NetId) : (mid.process.scene w []).Accounted k := by
        rw [hscene]
        exact (hsettled k).congr (.of_eq rfl rfl rfl rfl rfl rfl)
      have hboxes : mid.process.inboxes = m.process.inboxes := congrArg Scene.inboxes (hscene w [])
      obtain ⟨results, m', ws, hrun, hresults, hwired, hws, hbooks', hworkers, hseats', hlast⟩ :=
        ih hrest (show mid.process.books.id = _ by rw [hbooks]; exact hid)
          hserves' hendpoint' (hboxes ▸ hworker) hkept hsettled'
      rw [hlink] at hwired
      refine ⟨(.at q, .ok ()) :: results, m', _, ?_, by simpa using hresults, .sent hsent hwired, ?_,
        ?_, hworkers.trans (congrArg Scene.workerCount (hscene w [])), ?_, hlast⟩
      · simp only [forEachTarget, bind_apply, attempt_apply, hsend, hrun, pure_apply]
      · intro x hx
        rcases List.mem_cons.mp hx with rfl | hx
        · exact ⟨_, by rw [hid]⟩
        · exact hws x hx
      · rw [hbooks', hbooks]
        simp [hne, Nat.add_assoc, Nat.add_comm 1]
      · rw [List.count_cons_of_ne hne]
        exact hseats'

end Node

namespace Broadcast

open Scene Node
open Wire (filterMap_took? forall_sentTo?)

/-- The name of a broadcast that is the first net of its cluster. -/
def net : NetId := ⟨0⟩

/-! ## Copies -/

theorem create_template {n : Nat} (hn : n < IdSource.wordSize) (rounds : UInt32) (i : Fin n)
    (index : Nat) (parent : Option NetId) (isGlobal : Bool) :
    ((template rounds).map Sum.inr).create ⟨net, index, parent, .at i, n, isGlobal⟩ =
      (.inr ⟨net, decide (i.val = 0), rounds, 0, 0, 0⟩ : DemoNet) := by
  have hmain := SpawnContext.isMain_at hn i index parent isGlobal
  simp [template, Template.map, net, hmain]

theorem receive_state (b : Broadcast) (place : Place) (batch : TokenBatch) :
    ∃ inbox, (NetBehaviour.receive (.inr b : DemoNet) place batch).state = .inr { b with inbox } := by
  show ∃ inbox, ((b.receive place batch).map Sum.inr).state = _
  unfold receive
  split
  · exact ⟨b.inbox, rfl⟩
  · split
    · exact ⟨_, rfl⟩
    · exact ⟨b.inbox, rfl⟩

theorem receive_one {b : Broadcast} {parcel : Parcel} (hplace : parcel.place = 0)
    (hcount : parcel.batch.count = 1) (hroom : b.inbox.toNat + 1 < 4294967296) :
    NetBehaviour.receive (.inr b : DemoNet) parcel.place parcel.batch =
      .accepted (.inr { b with inbox := b.inbox + 1 }) := by
  show (b.receive _ _).map Sum.inr = _
  simp [receive, hplace, hcount, hroom, Reception.map]

/-- What a copy does when a transition is asked to fire. -/
inductive Fires (b : Broadcast) (count : Nat) : Firing DemoNet → Prop
  | emit {next : MulticastReport → Firing DemoNet} : b.isMain = true → b.emitted < b.rounds →
      (∀ report, report.toExcept = .ok () →
        next report = .fired (.inr { b with emitted := b.emitted + 1 })) →
      Fires b count (.multicast (ProcessId.all count) b.token next)
  | consume : 0 < b.inbox → b.consumed.toNat + 1 < 4294967296 →
      Fires b count (.fired (.inr { b with inbox := b.inbox - 1, consumed := b.consumed + 1 }))
  | overflow : 0 < b.inbox → 4294967296 ≤ b.consumed.toNat + 1 →
      Fires b count (.crashed (.inr { b with inbox := b.inbox - 1 }) .addOverflow)
  | finish {next : Except RuntimeError Unit → Firing DemoNet} : b.isMain = true →
      b.consumed = b.rounds → next (.ok ()) = .fired (.inr b) →
      (∀ e, next (.error e) = .failed (.inr b) e) → Fires b count (.halt next)
  | rest : Fires b count (.notEnabled (.inr b))

theorem fires (b : Broadcast) (context : FireContext) (transition : TransitionIndex) :
    Fires b context.processCount (NetBehaviour.fire (.inr b : DemoNet) context transition) := by
  show Fires b context.processCount ((b.fire context transition).map Sum.inr)
  unfold fire
  split
  · unfold emit
    split
    · rename_i henabled
      refine .emit henabled.1 henabled.2 fun report hreport => ?_
      simp [hreport, Firing.map]
    · exact .rest
  split
  · unfold consume
    split
    · rename_i hinbox
      dsimp only
      split
      · exact .consume hinbox ‹_›
      · exact .overflow hinbox (Nat.le_of_not_lt ‹_›)
    · exact .rest
  split
  · unfold finish
    split
    · rename_i henabled
      exact .finish henabled.1 henabled.2 rfl fun _ => rfl
    · exact .rest
  · exact .rest

/-- The main copy, the books of its process, and the number of its tokens that wait in inboxes. -/
structure Main (n : Nat) (rounds : UInt32) (copy : Broadcast) (b : Books DemoNet) (queued : Nat) :
    Prop where
  isMain : copy.isMain = true
  limit : copy.rounds = rounds
  balance : copy.consumed.toNat + copy.inbox.toNat + queued = copy.emitted.toNat
  within : copy.emitted.toNat ≤ rounds.toNat
  localDeliveries : b.localDeliveries = copy.emitted.toNat
  remoteDeliveries : b.remoteDeliveries = copy.emitted.toNat * (n - 1)

namespace Main

variable {n : Nat} {rounds : UInt32} {copy : Broadcast} {b b' : Books DemoNet} {queued : Nat}

theorem receive (h : Main n rounds copy b (queued + 1)) :
    copy.inbox.toNat + 1 < 4294967296 ∧
      Main n rounds { copy with inbox := copy.inbox + 1 } b queued := by
  have hbalance := h.balance
  have hword : copy.emitted.toNat < 4294967296 := copy.emitted.toNat_lt
  have hroom : copy.inbox.toNat + 1 < 4294967296 := by omega
  refine ⟨hroom, { h with balance := ?_ }⟩
  have hnext : (copy.inbox + 1).toNat = copy.inbox.toNat + 1 := by
    rw [UInt32.toNat_add]
    exact Nat.mod_eq_of_lt hroom
  show copy.consumed.toNat + (copy.inbox + 1).toNat + queued = copy.emitted.toNat
  omega

section

variable (h : Main n rounds copy b queued)

include h

theorem consume (hinbox : 0 < copy.inbox) :
    copy.consumed.toNat + 1 < 4294967296 ∧
      Main n rounds { copy with inbox := copy.inbox - 1, consumed := copy.consumed + 1 } b queued := by
  have hbalance := h.balance
  have hword : copy.emitted.toNat < 4294967296 := copy.emitted.toNat_lt
  have hpos : 0 < copy.inbox.toNat := UInt32.lt_iff_toNat_lt.mp hinbox
  have hroom : copy.consumed.toNat + 1 < 4294967296 := by omega
  refine ⟨hroom, { h with balance := ?_ }⟩
  have hnext : (copy.consumed + 1).toNat = copy.consumed.toNat + 1 := by
    rw [UInt32.toNat_add]
    exact Nat.mod_eq_of_lt hroom
  have hless : (copy.inbox - 1).toNat = copy.inbox.toNat - 1 :=
    UInt32.toNat_sub_of_le _ _ (UInt32.le_iff_toNat_le.mpr hpos)
  show (copy.consumed + 1).toNat + (copy.inbox - 1).toNat + queued = copy.emitted.toNat
  omega

theorem emit (hmore : copy.emitted < copy.rounds)
    (hlocal : b'.localDeliveries = b.localDeliveries + 1)
    (hremote : b'.remoteDeliveries = b.remoteDeliveries + (n - 1)) :
    Main n rounds { copy with emitted := copy.emitted + 1 } b' (queued + 1) := by
  have hbalance := h.balance
  have hlt : copy.emitted.toNat < rounds.toNat := UInt32.lt_iff_toNat_lt.mp (h.limit ▸ hmore)
  have hword : rounds.toNat < 4294967296 := rounds.toNat_lt
  have hnext : (copy.emitted + 1).toNat = copy.emitted.toNat + 1 := by
    rw [UInt32.toNat_add]
    exact Nat.mod_eq_of_lt (Nat.lt_of_le_of_lt hlt hword)
  refine ⟨h.isMain, h.limit, ?_, ?_, ?_, ?_⟩
  all_goals simp only [hnext]
  · omega
  · exact hlt
  · rw [hlocal, h.localDeliveries]
  · rw [hremote, h.remoteDeliveries, Nat.succ_mul]

/-- All rounds are consumed, so all have been sent, and no token is left. -/
theorem done (hall : copy.consumed = rounds) :
    copy.emitted = rounds ∧ copy.inbox = 0 ∧ queued = 0 := by
  have hbalance := h.balance
  have hwithin := h.within
  rw [hall] at hbalance
  refine ⟨UInt32.toNat_inj.mp ?_, UInt32.toNat_inj.mp ?_, ?_⟩
  · omega
  · show copy.inbox.toNat = 0
    omega
  · omega

end

end Main

/-! ## Processes -/

variable {n : Nat} {rounds : UInt32} {open_ : Bool} {i : Fin n} {b b' : Books DemoNet}
  {s t : Scene DemoNet} {link link' : Mailbox.Link} {ws : List Wire} {events : List TokenEvent}
  {item : WorkItem DemoNet} {rest : List (WorkItem DemoNet)} {packet : Packet}

/-- A copy at another process than the main one. -/
def IsCopy : DemoNet → Prop
  | .inl _ => False
  | .inr b => b.isMain = false

/-- What may wait at another process: nothing there asks for a halt. -/
def IsErrand : WorkItem DemoNet → Prop
  | .adopt made => IsCopy made
  | .halt _ origin => origin.isSome = true
  | .tokens _ | .reclaim _ => True
  | _ => False

theorem closed_copies : Closed IsCopy IsErrand where
  adopt h := h
  tokens {parcel state} _ hstate := by
    cases state with
    | inl r => exact hstate.elim
    | inr b =>
      obtain ⟨inbox, heq⟩ := receive_state b parcel.place parcel.batch
      rw [heq]
      exact hstate
  reclaim _ := trivial

/-- What a process has of the broadcast: the main copy, live if that is allowed for or else done with
all rounds, or a copy of no weight. -/
inductive Station (rounds : UInt32) (open_ : Bool) (i : Fin n) (b : Books DemoNet) (s : Scene DemoNet) :
    Prop
  | live {owner : WorkerId} {adopted : Bool} {copy : Broadcast} {bound : List Parcel} :
      open_ = true → i.val = 0 → s.Seats net owner adopted (.inr copy) bound →
      (∀ parcel ∈ bound, parcel.place = 0 ∧ parcel.batch.count = 1) →
      Main n rounds copy b bound.length → (∀ m, s.Accounted m) → Station rounds open_ i b s
  | spent {copy : Broadcast} : i.val = 0 → s.Dwindles net (.inr copy) → s.registry.Stopped net →
      Main n rounds copy b 0 → copy.consumed = rounds → (∀ m, s.Accounted m) →
      Station rounds open_ i b s
  | peer : i.val ≠ 0 → s.Confines IsCopy IsErrand → Station rounds open_ i b s

theorem Station.congr (h : Station rounds open_ i b s) (hsame : s.Unmoved t) :
    Station rounds open_ i b t := by
  cases h with
  | live hopen hi hseats hbound hmain hsettled =>
    exact .live hopen hi (hseats.congr hsame) hbound hmain (hsame.accounted hsettled)
  | spent hi hleft hstopped hmain hall hsettled =>
    exact .spent hi (hleft.congr hsame) (hsame.registry ▸ hstopped) hmain hall (hsame.accounted hsettled)
  | peer hi hcopies => exact .peer hi (hcopies.congr hsame)

/-- What may be in the mailbox of a process: process 0 is told nothing about its nets but that others
have halted their copies, and the others hear of no net but the broadcast. -/
def Hears (i : Fin n) (packet : Packet) : Prop :=
  (i.val = 0 → packet.Tells ControlMessage.isMild) ∧
    ∀ m template parent origin, ControlMessage.ofPacket packet = .ok (.spawned m template parent origin) →
      m = net ∧ template = 1

theorem hears_of_mild (h : packet.Tells ControlMessage.isMild) : Hears i packet :=
  ⟨fun _ => h, fun _ _ _ _ hmessage => by cases h.2 _ hmessage⟩

theorem hears_of_notice (hi : i.val ≠ 0)
    (h : ∀ message, ControlMessage.ofPacket packet = .ok message → message.isNotice = true) :
    Hears i packet :=
  ⟨fun heq => absurd heq hi, fun _ _ _ _ hmessage => by cases h _ hmessage⟩

/-- Process `i` is at work, and all is as it should be. -/
structure Attends (rounds : UInt32) (open_ : Bool) (i : Fin n) (b : Books DemoNet) (s : Scene DemoNet)
    (link : Mailbox.Link) : Prop where
  serves : link.hub.Serves n
  endpoint : link.endpoint.process = .at i
  home : b.Home rounds i
  mail : ∀ j, ∀ p ∈ link.hub.mail n j, Hears j p
  station : Station rounds open_ i b s

namespace Attends

section

variable (h : Attends rounds open_ i b s link)

include h

section

variable (hn : n < IdSource.wordSize)

include hn

theorem turn
    (hwired : Wired link ws link') (hhome : b'.Home rounds i) (hstation : Station rounds open_ i b' t)
    (hsent : ∀ j, j ≠ i → ∀ p ∈ ws.filterMap (Wire.sentTo? (.at j)), Hears j p) :
    Attends rounds open_ i b' t link' := by
  obtain ⟨hexchange, hserves, hendpoint⟩ := Mailbox.exchange_of_wired hn hwired h.serves h.endpoint
  refine ⟨hserves, hendpoint, hhome, fun j p hp => ?_, hstation⟩
  by_cases hj : j = i
  · subst hj
    refine h.mail j p ?_
    rw [hexchange.mail_own hn]
    exact List.mem_append_right _ hp
  · rw [hexchange.mail_other hj] at hp
    rcases List.mem_append.mp hp with hp | hp
    · exact h.mail j p hp
    · exact hsent j hj p hp

theorem turn_mild
    (hwired : Wired link ws link') (hstation : Station rounds open_ i b t)
    (hws : Wire.Utters (Packet.Tells ControlMessage.isMild) ws) : Attends rounds open_ i b t link' :=
  h.turn hn hwired h.home hstation fun _ _ p hp => hears_of_mild (forall_sentTo? hws _ p hp)

theorem turn_notice (hi : i.val = 0)
    (hwired : Wired link ws link') (hstation : Station rounds open_ i b t)
    (hws : Wire.Utters (Packet.Tells ControlMessage.isNotice) ws) :
    Attends rounds open_ i b t link' := by
  refine h.turn hn hwired h.home hstation fun j hj p hp => ?_
  have hpeer : j.val ≠ 0 := fun heq => hj (Fin.ext (heq.trans hi.symm))
  exact hears_of_notice hpeer (forall_sentTo? hws _ p hp).2

/-- A packet is taken in, and answered. -/
theorem heard
    (hwired : Wired link (.took packet :: ws) link') (hstation : Station rounds open_ i b t)
    (hws : Wire.Utters (Packet.Tells ControlMessage.isMild) ws) : Attends rounds open_ i b t link' := by
  refine h.turn hn hwired h.home hstation fun j _ p hp => hears_of_mild (forall_sentTo? hws (.at j) p ?_)
  simpa [Wire.sentTo?] using hp

theorem hears
    (hreceive : Transport.receive link = (.ok (some packet), link')) : Hears i packet := by
  obtain ⟨hexchange, -, -⟩ :=
    Mailbox.exchange_of_wired hn (.took hreceive .nil) h.serves h.endpoint
  refine h.mail i packet ?_
  rw [hexchange.mail_own hn]
  exact List.mem_cons_self ..

end

theorem not_fire (hhand : s.hand = item :: rest) (m : NetId)
    (transition : TransitionIndex) : item ≠ .fire m transition := by
  rintro rfl
  cases h.station with
  | live _ _ hseats =>
    obtain ⟨-, ⟨-, heq, -⟩ | ⟨-, _, _, -, heq, -⟩⟩ := hseats.hand_cases hhand <;> cases heq
  | spent _ hleft =>
    rcases hleft.of_hand hhand with heq | hexit
    · cases heq
    · cases hexit
  | peer _ hcopies => exact hcopies.of_hand hhand

section

variable (hn : n < IdSource.wordSize)

include hn

/-- Whatever is done about an item keeps the broadcast in order. -/
theorem deal (hs : s.Sound)
    (hhand : s.hand = item :: rest) (hdeals : Deals s item ws events t) (hwired : Wired link ws link') :
    Attends rounds open_ i b (t.finish item rest) link' := by
  cases h.station with
  | @live owner adopted copy bound hopen hi hseats hbound hmain hsettled =>
    have hsettled' := hdeals.accounted hhand hs hsettled
    obtain ⟨rfl, -, after, later, hseats', hcase⟩ := hseats.deal hhand hdeals
    refine h.turn_mild hn hwired ?_ Wire.utters_nil
    rcases hcase with ⟨rfl, rfl⟩ | ⟨parcel, rfl, rfl⟩
    · exact .live hopen hi hseats' hbound hmain hsettled'
    · obtain ⟨hroom, hmain'⟩ := hmain.receive
      obtain ⟨hplace, hcount⟩ := hbound parcel (List.mem_cons_self ..)
      rw [receive_one hplace hcount hroom] at hseats'
      exact .live hopen hi hseats' (fun p hp => hbound p (List.mem_cons_of_mem _ hp)) hmain' hsettled'
  | spent hi hleft hstopped hmain hall hsettled =>
    obtain ⟨hsubsides, hleft'⟩ := hleft.deal hs hhand hdeals
    exact h.turn_notice hn hi hwired (.spent hi hleft' (hsubsides.stopped hstopped) hmain hall
      (hdeals.accounted hhand hs hsettled)) hsubsides.utters
  | peer hi hcopies =>
    refine h.turn_mild hn hwired (.peer hi (hcopies.deal closed_copies hhand hdeals))
      (hdeals.utters.2 fun m => ?_)
    rintro rfl
    cases hcopies.of_hand hhand

theorem fail
    (hhand : s.hand = item :: rest) {c : Crash} (hfails : Fails s item c t) :
    Attends rounds open_ i b t.letGo link := by
  refine h.turn_mild hn .nil ?_ Wire.utters_nil
  cases h.station with
  | @live owner adopted copy bound hopen hi hseats hbound hmain =>
    refine (hseats.not_fails hhand (fun parcel hparcel after c hcrashed => ?_) hfails).elim
    obtain ⟨hplace, hcount⟩ := hbound parcel hparcel
    have hpos : 0 < bound.length := List.length_pos_of_mem hparcel
    obtain ⟨queued, hqueued⟩ := Nat.exists_eq_add_of_lt hpos
    rw [hqueued, Nat.zero_add] at hmain
    rw [receive_one hplace hcount hmain.receive.1] at hcrashed
    cases hcrashed
  | spent _ hleft _ _ _ hsettled => exact (hleft.not_fails hsettled hhand hfails).elim
  | peer hi hcopies => exact .peer hi (hcopies.fail closed_copies hhand hfails)

/-- Taking in a packet that makes no net keeps the broadcast in order. -/
theorem take (hs : s.Sound)
    {mid : Mailbox.Link} (hreceive : Transport.receive link = (.ok (some packet), mid))
    (hnotice : ∀ message, ControlMessage.ofPacket packet = .ok message → message.isNotice = true)
    (htakes : Takes s packet ws events t) (hwired : Wired mid ws link') :
    Attends rounds open_ i b t link' := by
  refine h.heard hn (.took hreceive hwired) ?_ htakes.utters
  have hheard := h.hears hn hreceive
  cases h.station with
  | live hopen hi hseats hbound hmain hsettled =>
    exact .live hopen hi (hseats.congr (hseats.unmoved (hheard.1 hi) htakes)) hbound hmain
      fun m => htakes.accounted hs (hsettled m)
  | spent hi hleft hstopped hmain hall hsettled =>
    obtain ⟨hsubsides, hleft'⟩ := hleft.take hs
      ((hheard.1 hi).mono fun _ => ControlMessage.isNotice_of_isMild) htakes
    exact .spent hi hleft' (hsubsides.stopped hstopped) hmain hall
      fun m => htakes.accounted hs (hsettled m)
  | peer hi hcopies =>
    exact .peer hi (hcopies.take closed_copies hnotice (fun _ _ => trivial) (fun _ _ _ => rfl) htakes)

end

end

end Attends

/-! ## Firings -/

section Fire

variable {w : WorkerId} {m : NetId} {state : DemoNet} {node after : Node DemoNet Mailbox.Link}
  {transition : TransitionIndex} {outcome : FiringEnd DemoNet}

/-- What a firing leaves behind, whether it comes to its end or crashes. -/
def Leaves (rounds : UInt32) (open_ : Bool) (i : Fin n) (w : WorkerId)
    (result : EStateM.Result Fault (Node DemoNet Mailbox.Link) (FiringEnd DemoNet)) : Prop :=
  Attends rounds open_ i (final result).process.books ((final result).process.scene w [])
    (final result).link

theorem leaves_of_perform (hw : w.index < after.process.workers.length)
    (hperform : perform w m false (NetBehaviour.fire state
      ⟨m, w, node.process.id, node.process.processCount⟩ transition) node = .ok outcome after)
    (h : Attends rounds open_ i after.process.books
      ((after.process.scene w []).setActive w m (some outcome.state)) after.link) :
    Leaves rounds open_ i w (fireAndRecord w m state transition node) := by
  obtain ⟨k, hrun, hlink, hbooks, hscene⟩ := fireAndRecord_cases hw hperform
  have hfinal : final (fireAndRecord w m state transition node) = k := by
    rcases hrun with hrun | ⟨c, -, hrun⟩ <;> rw [hrun] <;> rfl
  rw [Leaves, hfinal, hlink, hbooks, hscene]
  exact h

theorem accounted_setActive (hs : ∀ k, s.Accounted k) (hactive : s.active w m = some state)
    {stored : DemoNet} (k : NetId) : (s.setActive w m (some stored)).Accounted k := by
  refine (hs k).congr (.setActive ?_)
  rintro rfl
  simp [hactive]

variable {copy : Broadcast} {bound : List Parcel}

section

variable (h : Attends rounds open_ i node.process.books (node.process.scene w []) node.link)

include h

section

variable (hn : n < IdSource.wordSize)

include hn

/-- The main copy sends a token to every process, its own included. -/
theorem perform_emit
    (hs : (node.process.scene w []).Sound) (hopen : open_ = true)
    (hi : i.val = 0) (hseats : (node.process.scene w []).Seats net w true (.inr copy) bound)
    (hbound : ∀ parcel ∈ bound, parcel.place = 0 ∧ parcel.batch.count = 1)
    (hmain : Main n rounds copy node.process.books bound.length)
    (hsettled : ∀ k, (node.process.scene w []).Accounted k) (hmore : copy.emitted < copy.rounds)
    {next : MulticastReport → Firing DemoNet} (hnext : ∀ report, report.toExcept = .ok () →
      next report = .fired (.inr { copy with emitted := copy.emitted + 1 })) :
    ∃ after, perform w net false
        (.multicast (ProcessId.all node.process.processCount) copy.token next) node =
          .ok ⟨.inr { copy with emitted := copy.emitted + 1 }, .fired, false⟩ after ∧
      after.process.workers.length = node.process.workers.length ∧
      Attends rounds open_ i after.process.books ((after.process.scene w []).setActive w net
        (some (.inr { copy with emitted := copy.emitted + 1 }))) after.link := by
  have hname : copy.id = net := hseats.name
  have hnodup := ProcessId.nodup_all hn
  have hself : (ProcessId.all n).count (.at i) = 1 :=
    List.count_eq_one_of_mem hnodup (ProcessId.mem_all.mpr ⟨i, rfl⟩)
  have hothers : (ProcessId.all n).countP (· ≠ .at i) = n - 1 :=
    List.countP_eq_length_filter.trans (ProcessId.length_peers hn i)
  obtain ⟨results, after, ws, hrun, hresults, hwired, hws, hbooks, hworkers, hseats', hlast⟩ :=
    forEachTarget_seated hn (show copy.token.net = net from hname) (fun t ht => ProcessId.mem_all.mp ht)
      h.home.id h.serves h.endpoint (hseats.hasWorker hs) hseats hsettled
  rw [hself] at hbooks hseats'
  rw [hothers] at hbooks
  have hreport : MulticastReport.toExcept ⟨results⟩ = .ok () := by
    have hnone : MulticastReport.failures ⟨results⟩ = [] := by
      refine List.filterMap_eq_nil_iff.mpr fun x hx => ?_
      obtain ⟨target, result⟩ := x
      cases hresults _ hx
      rfl
    rw [MulticastReport.toExcept, hnone]
  refine ⟨after, ?_, hworkers, h.turn hn hwired ?_ (.live hopen hi (hseats'.setState _ hname) ?_ ?_
    (accounted_setActive hlast hseats'.active_self)) ?_⟩
  · rw [show node.process.processCount = n from h.home.processCount]
    simp only [perform, multicast, eraseDups_of_nodup hnodup, bind_apply, hrun, pure_apply,
      hnext _ hreport]
  · obtain ⟨hid, hcount, htemplates, hinboxes, hnets⟩ := h.home
    rw [hbooks]
    exact ⟨hid, hcount, htemplates, hinboxes, hnets⟩
  · intro parcel hparcel
    rcases List.mem_append.mp hparcel with hparcel | hparcel
    · exact hbound parcel hparcel
    · rw [List.eq_of_mem_replicate hparcel]
      exact ⟨rfl, rfl⟩
  · rw [List.length_append, List.length_replicate]
    exact hmain.emit hmore (by rw [hbooks]) (by rw [hbooks])
  · intro j hj p hp
    obtain ⟨x, hx, hsent⟩ := List.mem_filterMap.mp hp
    obtain ⟨target, rfl⟩ := hws x hx
    simp only [Wire.sentTo?] at hsent
    split at hsent <;> cases hsent
    refine hears_of_notice (fun heq => hj (Fin.ext (heq.trans hi.symm))) fun message hmessage => ?_
    cases Packet.tag_of_message hmessage

/-- The main copy has consumed all rounds and halts the net. -/
theorem perform_finish
    (hs : (node.process.scene w []).Sound) (hi : i.val = 0)
    (hseats : (node.process.scene w []).Seats net w true (.inr copy) bound)
    (hmain : Main n rounds copy node.process.books bound.length) (hall : copy.consumed = rounds)
    (hsettled : ∀ k, (node.process.scene w []).Accounted k)
    {next : Except RuntimeError Unit → Firing DemoNet} (hnext : next (.ok ()) = .fired (.inr copy)) :
    ∃ after, perform w net false (.halt next) node = .ok ⟨.inr copy, .fired, true⟩ after ∧
      after.process.workers.length = node.process.workers.length ∧
      Attends rounds open_ i after.process.books ((after.process.scene w []).setActive w net
        (some (.inr copy))) after.link := by
  obtain ⟨hemitted, hinbox, hnone⟩ := hmain.done hall
  obtain rfl := List.length_eq_zero_iff.mp hnone
  obtain ⟨slot, howner, hlive, hslot⟩ := hseats.slot?_net
  have hbox : slot.owner.index < node.process.inboxes.length := hs.owner_valid _ _ hslot
  obtain ⟨mid, hhalt, hlink, hscene⟩ :=
    halt_apply (howner ▸ hbox) (hseats.isRetired net) hslot hlive hbox
  have hsteady := (halt_within w net).steady node
  rw [hhalt] at hsteady
  refine ⟨mid, perform_halt false hhalt hnext, congrArg Scene.workerCount (hscene w []), ?_⟩
  rw [show mid.process.books = _ from hsteady, hscene, hlink]
  have hleft := (hseats.setState (.inr copy) hseats.name).halts hslot hbox
  refine h.turn_mild hn .nil (.spent hi hleft (.inl ?_) hmain hall fun k => ?_) Wire.utters_nil
  · exact Registry.state?_of_slot Registry.slot?_setSlot_self
  · have hbegin : node.process.registry.beginHalt net = .ok (.started slot.owner slot.isGlobal,
        node.process.registry.setSlot net { slot with state := .halting }) := by
      have hretired : node.process.registry.isRetired net = false := hseats.isRetired net
      have hslot : node.process.registry.slot? net = some slot := hslot
      simp [Registry.beginHalt, hretired, hslot, hlive]
    exact accounted_setActive (fun k => (hsettled k).beginHaltAny hs hbegin) hseats.active_self k

theorem leaves_fire
    (hs : (node.process.scene w []).Sound)
    (hfound : (node.process.worker w).nets.find? m = some state) :
    Leaves rounds open_ i w (fireAndRecord w m state transition node) := by
  have hactive : (node.process.scene w []).active w m = some state := hfound
  have hworker := Process.lt_of_find?_nets hfound
  -- A firing that asks for nothing only stores the instance.
  have hstore {firing : Firing DemoNet} {outcome : FiringEnd DemoNet}
      (hfire : NetBehaviour.fire state ⟨m, w, node.process.id, node.process.processCount⟩ transition =
        firing) (hperform : perform w m false firing node = .ok outcome node)
      (hstation : Station rounds open_ i node.process.books
        ((node.process.scene w []).setActive w m (some outcome.state))) :
      Leaves rounds open_ i w (fireAndRecord w m state transition node) :=
    leaves_of_perform hworker (hfire ▸ hperform) (h.turn_mild hn .nil hstation Wire.utters_nil)
  cases h.station with
  | @live owner adopted copy bound hopen hi hseats hbound hmain hsettled =>
    obtain ⟨rfl, rfl, rfl, rfl⟩ := hseats.eq_of_active hactive
    have hfires := fires copy ⟨net, w, node.process.id, node.process.processCount⟩ transition
    generalize hfire : NetBehaviour.fire (.inr copy : DemoNet) _ transition = firing at hfires
    cases hfires with
    | emit _ hmore hnext =>
      obtain ⟨after, hperform, hworkers, hafter⟩ :=
        perform_emit h hn hs hopen hi hseats hbound hmain hsettled hmore hnext
      exact leaves_of_perform (hworkers ▸ hworker) (hfire ▸ hperform) hafter
    | consume hinbox =>
      refine hstore hfire rfl ?_
      exact .live hopen hi (hseats.setState _ hseats.name) hbound (hmain.consume hinbox).2
        (accounted_setActive hsettled hactive)
    | overflow hinbox hfull => exact absurd (hmain.consume hinbox).1 (Nat.not_lt.mpr hfull)
    | finish _ hall hnext =>
      obtain ⟨after, hperform, hworkers, hafter⟩ :=
        perform_finish h hn hs hi hseats hmain (hall.trans hmain.limit) hsettled hnext
      exact leaves_of_perform (hworkers ▸ hworker) (hfire ▸ hperform) hafter
    | rest =>
      refine hstore hfire rfl ?_
      rw [setActive_self hactive]
      exact h.station
  | @spent copy hi hleft hstopped hmain hall =>
    obtain ⟨rfl, rfl⟩ := hleft.eq_of_active hactive
    obtain ⟨hemitted, hinbox, -⟩ := hmain.done hall
    have hsame : Station rounds open_ i node.process.books
        ((node.process.scene w []).setActive w net (some (.inr copy))) := by
      rw [setActive_self hactive]
      exact h.station
    have hfires := fires copy ⟨net, w, node.process.id, node.process.processCount⟩ transition
    generalize hfire : NetBehaviour.fire (.inr copy : DemoNet) _ transition = firing at hfires
    cases hfires with
    | emit _ hmore => exact absurd hmore (by rw [hemitted, hmain.limit]; exact UInt32.lt_irrefl _)
    | consume hpos | overflow hpos => exact absurd hpos (by rw [hinbox]; exact UInt32.lt_irrefl _)
    | @finish next _ _ hok herror =>
      obtain ⟨r, hhalt⟩ := attempt_halt_stopped hstopped w
      have hperform : perform w net false (.halt next) node = perform w net true (next r) node := by
        simp only [perform, bind_apply, hhalt]
      cases r with
      | ok =>
        rw [hok] at hperform
        exact hstore hfire (hperform.trans rfl) hsame
      | error e =>
        rw [herror] at hperform
        exact hstore hfire (hperform.trans rfl) hsame
    | rest => exact hstore hfire rfl hsame
  | peer hi hcopies =>
    have hcopy := hcopies.active w m state hactive
    obtain r | copy := state
    · exact hcopy.elim
    have hkeep {after : Broadcast} (hafter : after.isMain = false) : Station rounds open_ i
        node.process.books ((node.process.scene w []).setActive w m (some (.inr after))) := by
      refine .peer hi (hcopies.setActive w m ?_)
      rintro _ ⟨⟩
      exact hafter
    have hfires := fires copy ⟨m, w, node.process.id, node.process.processCount⟩ transition
    generalize hfire : NetBehaviour.fire (.inr copy : DemoNet) _ transition = firing at hfires
    cases hfires with
    | emit hmain | finish hmain => cases hmain.symm.trans hcopy
    | consume | overflow | rest => exact hstore hfire rfl (hkeep hcopy)

end

end

end Fire

/-- Every deed of process `i` keeps all in order. -/
theorem regime (hn : n < IdSource.wordSize) (rounds : UInt32) (open_ : Bool) (i : Fin n) :
    Regime (fun _ => True) fun b s _ link => Attends rounds open_ i b s link where
  unmoved h hwired hws hsame :=
    h.turn_mild hn hwired (h.station.congr hsame)
      (hws.mono fun p hp => Packet.Tells.mono hp fun _ => ControlMessage.isMild_of_isAside)
  hear h hwired _ hws hsame :=
    h.heard hn hwired (h.station.congr hsame)
      (hws.mono fun p hp => Packet.Tells.mono hp fun _ => ControlMessage.isMild_of_isAside)
  tally h := by
    obtain ⟨hid, hcount, htemplates, hinboxes, hnets⟩ := h.home
    refine ⟨h.serves, h.endpoint, ⟨hid, hcount, htemplates, hinboxes, hnets⟩, h.mail, ?_⟩
    cases h.station with
    | live hopen hi hseats hbound hmain hsettled =>
      exact .live hopen hi hseats hbound { hmain with } hsettled
    | spent hi hleft hstopped hmain hall hsettled =>
      exact .spent hi hleft hstopped { hmain with } hall hsettled
    | peer hi hcopies => exact .peer hi hcopies
  plain h := h.not_fire
  deal h hs hhand hdeals hwired := ⟨fun _ _ => trivial, h.deal hn hs hhand hdeals hwired⟩
  fail h hhand hfails := ⟨.inr fun _ => trivial, h.fail hn hhand hfails⟩
  take h hs hreceive hnotice htakes hwired :=
    ⟨fun _ _ => trivial, h.take hn hs hreceive hnotice htakes hwired⟩
  news {b s link link' packet m template parent origin} h hreceive hmessage := by
    obtain ⟨hmild, hnews⟩ := h.hears hn hreceive
    obtain ⟨rfl, rfl⟩ := hnews _ _ _ _ hmessage
    have hi : i.val ≠ 0 := by
      intro heq
      cases (hmild heq).2 _ hmessage
    have hmade := create_template hn rounds i (1 : UInt32).toNat parent true
    rw [← h.home.id] at hmade
    nth_rewrite 1 [← h.home.processCount] at hmade
    refine ⟨_, by rw [h.home.templates]; rfl, by rw [hmade]; rfl, .inr fun termination => ?_,
      fun owner registry termination _ _ => ?_⟩
    · exact h.heard hn (.took hreceive .nil) (h.station.congr ⟨rfl, rfl, rfl, fun _ => rfl, fun _ => rfl⟩)
        Wire.utters_nil
    · rw [hmade]
      refine h.heard hn (.took hreceive .nil) ?_ Wire.utters_nil
      cases h.station with
      | live _ heq | spent heq => exact absurd heq hi
      | peer _ hcopies =>
        have hset : ((s.setRegistry registry).setTermination termination).Confines IsCopy IsErrand :=
          ⟨hcopies.active, hcopies.halting, hcopies.items⟩
        exact .peer hi (hset.post owner (decide_eq_false hi))
  fire {w k node m state} transition hs h hfound := by
    refine ⟨fun _ _ => trivial, ?_⟩
    have hleaves : Leaves rounds open_ i w (fireAndRecord w m state transition node) :=
      leaves_fire h hn hs hfound
    unfold Leaves at hleaves
    rcases hrun : fireAndRecord w m state transition node with ⟨outcome, after⟩ | ⟨e, after⟩ <;>
      rw [hrun] at hleaves <;> exact hleaves

end Broadcast

end PetriCluster
