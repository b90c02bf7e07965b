import PetriCluster.Proofs.Census
import PetriCluster.Proofs.RingRuns
import Mathlib

/-!
# The token of the ring

What there is of tokens in a cluster that runs the ring: those that wait in copies, wherever a process
has them, those in inboxes, and those in mailboxes. Until the ring halts there is one token, and its
hop count is the number of times it was handed on; then there is none.
-/

namespace PetriCluster

/-! ## What is counted -/

namespace Process

variable (p : Process DemoNet)

/-- The copies of rings in a process. -/
def ringCopies : List Ring := p.instances.filterMap Sum.getLeft?

/-- The tokens in a process: those that wait in copies of rings, and those in inboxes. -/
def ringTokens : List Parcel :=
  p.ringCopies.flatMap (fun r => r.waiting.map (Ring.token r.id)) ++
    p.inboxes.flatMap (·.filterMap WorkItem.parcel?)

/-- How often the copies of rings in a process have handed tokens on. -/
def ringForwards : Nat := (p.ringCopies.map (·.forwarded.toNat)).sum

/-- The sends that a process has counted, to itself and to others. -/
def deliveries : Nat := p.stats.localDeliveries + p.stats.remoteDeliveries

end Process

namespace Cluster

variable (c : Cluster DemoNet)

/-- The tokens in a cluster: those in its processes, and those in the mailboxes. -/
def ringTokens : List Parcel :=
  c.members.flatMap (·.process.ringTokens) ++ c.hub.boxes.flatMap (·.queue.filterMap Packet.parcel?)

/-- How often the copies of rings in a cluster have handed tokens on. -/
def ringForwards : Nat := (c.members.map (·.process.ringForwards)).sum

/-- The sends that the processes of a cluster have counted. -/
def deliveries : Nat := (c.members.map (·.process.deliveries)).sum

/-- All firings of a cluster. -/
def firings : Nat := (c.members.map (·.process.firings)).sum

/-- Whether some process has begun to halt the ring. -/
def RingHalts : Prop := ∃ m ∈ c.members, m.process.registry.Stopped Ring.net

instance : Decidable c.RingHalts :=
  inferInstanceAs (Decidable (∃ m ∈ c.members, m.process.registry.Stopped Ring.net))

end Cluster

/-! ## Processes -/

section Census

variable {n : Nat} {limit : UInt32} {i : Fin n} {p : Process DemoNet} (hhome : p.books.Home limit i)

include hhome

theorem Scene.Lacks.census (h : p.outline.Lacks) : p.ringCopies = [] ∧ p.ringTokens = [] := by
  have hboxes {β : Type} (f : WorkItem DemoNet → Option β) : p.inboxes.flatMap (·.filterMap f) = [] := by
    rw [Process.flatMap_inboxes hhome ⟨0⟩ fun u _ => by rw [h.items]; rfl, h.items]
    rfl
  have hcopies : p.ringCopies = [] := by
    rw [Process.ringCopies, Process.instances, hboxes, Process.flatMap_workers hhome ⟨0⟩ Ring.net, h.active,
      h.halting]
    · rfl
    · intro u net state hstate
      cases (h.active u net).symm.trans hstate
    · intro u net state hstate
      cases (h.halting u net).symm.trans hstate
  refine ⟨hcopies, ?_⟩
  rw [Process.ringTokens, hcopies, hboxes]
  rfl

theorem Scene.Holds.census {owner : WorkerId} {adopted : Bool} {r : Ring} {bound : List UInt32}
    (h : p.outline.Holds owner adopted r bound) :
    p.ringCopies = [r] ∧ p.ringTokens = (r.waiting ++ bound).map (Ring.token Ring.net) := by
  obtain ⟨hinstances, hparcels⟩ := Seats.census hhome h
  have hcopies : p.ringCopies = [r] := by
    rw [Process.ringCopies, hinstances]
    rfl
  have hname : r.id = Ring.net := h.name
  refine ⟨hcopies, ?_⟩
  rw [Process.ringTokens, hcopies, hparcels, List.map_append, List.flatMap_singleton, hname]

theorem Ring.Seat.Fits.census {x : Seat} {mail : List Packet}
    (h : x.Fits limit i (p.books.station p.outline 0) mail) :
    p.ringTokens = x.hops.map (token net) ∧ p.ringForwards = p.deliveries ∧
      ∀ r ∈ p.ringCopies, r.forwarded.toNat = p.deliveries := by
  cases h with
  | absent hawaits =>
    obtain ⟨hcopies, htokens⟩ := Scene.Lacks.census hhome hawaits.lacks
    refine ⟨htokens, ?_, by simp [hcopies]⟩
    rw [Process.ringForwards, hcopies]
    exact hawaits.deliveries.symm
  | @held _ _ copy _ hholds _ hforwarded =>
    have hforwarded : copy.forwarded.toNat = p.deliveries := hforwarded
    obtain ⟨hcopies, htokens⟩ := Scene.Holds.census hhome hholds
    refine ⟨htokens, ?_, ?_⟩
    · rw [Process.ringForwards, hcopies]
      simpa using hforwarded
    · simpa [hcopies] using hforwarded

theorem Ring.Remains.census {mail : List Packet}
    (h : Remains i (p.books.station p.outline 0) mail) :
    p.ringTokens = [] ∧ p.ringForwards ≤ p.deliveries ∧
      ∀ r ∈ p.ringCopies, r.forwarded.toNat = p.deliveries := by
  cases h with
  | absent hawaits =>
    obtain ⟨hcopies, htokens⟩ := Scene.Lacks.census hhome hawaits.lacks
    exact ⟨htokens, by simp [Process.ringForwards, hcopies], by simp [hcopies]⟩
  | @idle copy hcopy hwaiting hforwarded =>
    have hforwarded : copy.forwarded.toNat = p.deliveries := hforwarded
    obtain ⟨hinstances, hparcels⟩ := Scene.Dwindles.census hhome hcopy
    rw [Process.ringTokens, Process.ringForwards, Process.ringCopies, hparcels]
    rcases hinstances with heq | heq <;> simp [heq, hwaiting, hforwarded]

end Census

/-! ## Clusters -/

theorem Ring.eq_singleton_of_count {tokens : List Parcel} {hop : UInt32}
    (hmem : ∀ t ∈ tokens, ∃ a, t = token net a)
    (hcount : ∀ a, tokens.count (token net a) = if a = hop then 1 else 0) :
    tokens = [token net hop] := by
  refine List.perm_singleton.mp (List.perm_iff_count.mpr fun t => ?_)
  by_cases ht : ∃ a, t = token net a
  · obtain ⟨a, rfl⟩ := ht
    rw [hcount, List.count_singleton, beq_eq_decide]
    by_cases ha : a = hop
    · simp [ha]
    · have hne : token net hop ≠ token net a := fun heq => ha (token_inj heq).symm
      simp [ha, hne]
  · have hnot : t ∉ tokens := fun hin => ht (hmem t hin)
    have hne : t ∉ [token net hop] := fun hin => ht ⟨hop, List.mem_singleton.mp hin⟩
    rw [List.count_eq_zero.mpr hnot, List.count_eq_zero.mpr hne]

namespace Cluster

variable {n : Nat} {limit : UInt32} {c : Cluster DemoNet} {l : Ring.Line n}

namespace Hosts

variable (h : c.Hosts limit l)

include h

theorem deliveries_eq : c.deliveries = ∑ i, (l.station i).deliveries :=
  sum_members h.length fun i m hm => by rw [(h.member i m hm).2.2.2]; rfl

theorem firings_eq : c.firings = ∑ i, (l.station i).firings :=
  sum_members h.length fun i m hm => by rw [(h.member i m hm).2.2.2]; rfl

theorem exists_position {m : Member DemoNet} (hm : m ∈ c.members) :
    ∃ i : Fin n, c.members[i.val]? = some m := by
  obtain ⟨i, hi⟩ := List.mem_iff_getElem?.mp hm
  exact ⟨⟨i, h.length ▸ (List.getElem?_eq_some_iff.mp hi).1⟩, hi⟩

theorem ringHalts_iff : c.RingHalts ↔ ∃ i, (l.station i).scene.registry.Stopped Ring.net := by
  constructor
  · rintro ⟨m, hm, hstopped⟩
    obtain ⟨i, hi⟩ := h.exists_position hm
    refine ⟨i, ?_⟩
    rw [(h.member i m hi).2.2.2]
    exact hstopped
  · rintro ⟨i, hstopped⟩
    have hi := List.getElem?_eq_getElem (h.length ▸ i.isLt : i.val < c.members.length)
    rw [(h.member i _ hi).2.2.2] at hstopped
    exact ⟨_, List.mem_of_getElem? hi, hstopped⟩

theorem exists_mail {b : Mailbox.Box} (hn : n < IdSource.wordSize) (hb : b ∈ c.hub.boxes) :
    ∃ i, b.queue = l.mail i := by
  obtain ⟨i, hi⟩ := List.mem_iff_getElem?.mp hb
  have hlt : i < n := h.serves.1 ▸ (List.getElem?_eq_some_iff.mp hi).1
  refine ⟨⟨i, hlt⟩, ?_⟩
  rw [h.mail]
  simp [Mailbox.Hub.mail, Mailbox.Hub.queue, Mailbox.Hub.box?, ProcessId.index_at hn, hi]

theorem count_ringTokens (hn : n < IdSource.wordSize) {hops : Fin n → List UInt32}
    (hprocess : ∀ (i : Fin n) m, c.members[i.val]? = some m →
      m.process.ringTokens = (hops i).map (Ring.token Ring.net)) (a : UInt32) :
    c.ringTokens.count (Ring.token Ring.net a) =
      ∑ i, (hops i).count a + ∑ i, (l.mail i).countP (Ring.carries a) := by
  have hmembers : (c.members.map fun m => m.process.ringTokens.count (Ring.token Ring.net a)).sum =
      ∑ i, (hops i).count a :=
    sum_members h.length fun i m hm => by
      rw [hprocess i m hm]
      exact List.count_map_of_injective _ _ (fun _ _ => Ring.token_inj) a
  have hboxes := Mailbox.Hub.sum_mail h.serves.1 hn fun q =>
    (q.filterMap Packet.parcel?).count (Ring.token Ring.net a)
  rw [ringTokens, List.count_append, List.count_flatMap, List.count_flatMap]
  refine congrArg₂ (· + ·) hmembers (hboxes.trans (Finset.sum_congr rfl fun i _ => ?_))
  rw [h.mail, List.count_filterMap]
  refine List.countP_congr fun p _ => ?_
  simp [Ring.carries]

theorem mem_ringTokens (hn : n < IdSource.wordSize) {t : Parcel} (ht : t ∈ c.ringTokens) :
    (∃ (i : Fin n) (m : Member DemoNet), c.members[i.val]? = some m ∧ t ∈ m.process.ringTokens) ∨
      ∃ i, ∃ packet ∈ l.mail i, packet.parcel? = some t := by
  rcases List.mem_append.mp ht with ht | ht
  · obtain ⟨m, hm, ht⟩ := List.mem_flatMap.mp ht
    obtain ⟨i, hi⟩ := h.exists_position hm
    exact .inl ⟨i, m, hi, ht⟩
  · obtain ⟨b, hb, ht⟩ := List.mem_flatMap.mp ht
    obtain ⟨i, hqueue⟩ := h.exists_mail hn hb
    obtain ⟨packet, hpacket, hparcel⟩ := List.mem_filterMap.mp ht
    exact .inr ⟨i, packet, hqueue ▸ hpacket, hparcel⟩

variable (hn : n < IdSource.wordSize)

include hn

theorem running {hop : UInt32} {seat : Fin n → Ring.Seat} (hrunning : Ring.Running limit hop seat l) :
    ¬ c.RingHalts ∧ c.ringTokens = [Ring.token Ring.net hop] ∧ c.ringForwards = c.deliveries ∧
      hop.toNat = c.deliveries ∧ c.firings = c.deliveries ∧ c.deliveries ≤ limit.toNat := by
  have hcensus (i : Fin n) (m : Member DemoNet) (hm : c.members[i.val]? = some m) :
      m.process.ringTokens = (seat i).hops.map (Ring.token Ring.net) ∧
        m.process.ringForwards = m.process.deliveries := by
    obtain ⟨-, hhome, -, hstation⟩ := h.member i m hm
    have hfits := hrunning.fits i
    rw [hstation] at hfits
    obtain ⟨htokens, hforwards, -⟩ := hfits.census hhome
    exact ⟨htokens, hforwards⟩
  have hsends : hop.toNat = c.deliveries := hrunning.sends.trans h.deliveries_eq.symm
  refine ⟨?_, ?_, ?_, hsends, ?_, hsends ▸ hrunning.within⟩
  · rw [h.ringHalts_iff]
    rintro ⟨i, hstopped⟩
    have hfits := hrunning.fits i
    generalize seat i = x at hfits
    cases hfits with
    | absent hawaits => exact hawaits.lacks.not_stopped _ hstopped
    | held hholds => exact hholds.not_stopped hstopped
  · refine Ring.eq_singleton_of_count (fun t ht => ?_) fun a =>
      (h.count_ringTokens hn (fun i m hm => (hcensus i m hm).1) a).trans (hrunning.token a)
    rcases h.mem_ringTokens hn ht with ⟨i, m, hm, ht⟩ | ⟨i, packet, hpacket, hparcel⟩
    · rw [(hcensus i m hm).1] at ht
      obtain ⟨a, -, rfl⟩ := List.mem_map.mp ht
      exact ⟨a, rfl⟩
    · exact (hrunning.fits i).parcel_eq hpacket hparcel
  · refine congrArg List.sum (List.map_congr_left fun m hm => ?_)
    obtain ⟨i, hi⟩ := h.exists_position hm
    exact (hcensus i m hi).2
  · rw [h.firings_eq, h.deliveries_eq, hrunning.firings]

theorem spent (hspent : Ring.Spent limit l) :
    c.RingHalts ∧ c.ringTokens = [] ∧ c.ringForwards ≤ c.deliveries ∧
      c.deliveries = limit.toNat ∧ c.firings = limit.toNat + 1 := by
  have hcensus (i : Fin n) (m : Member DemoNet) (hm : c.members[i.val]? = some m) :
      m.process.ringTokens = [] ∧ m.process.ringForwards ≤ m.process.deliveries := by
    obtain ⟨-, hhome, -, hstation⟩ := h.member i m hm
    have hremains := hspent.remains i
    rw [hstation] at hremains
    obtain ⟨htokens, hforwards, -⟩ := hremains.census hhome
    exact ⟨htokens, hforwards⟩
  refine ⟨h.ringHalts_iff.mpr hspent.stopped, ?_, ?_, ?_, ?_⟩
  · refine List.eq_nil_iff_forall_not_mem.mpr fun t ht => ?_
    rcases h.mem_ringTokens hn ht with ⟨i, m, hm, ht⟩ | ⟨i, packet, hpacket, hparcel⟩
    · simp [(hcensus i m hm).1] at ht
    · cases ((hspent.remains i).parcel? hpacket).symm.trans hparcel
  · refine List.sum_le_sum fun m hm => ?_
    obtain ⟨i, hi⟩ := h.exists_position hm
    exact (hcensus i m hi).2
  · rw [h.deliveries_eq, hspent.deliveries]
  · rw [h.firings_eq, hspent.firings]

omit hn in
theorem forwarded_eq {m : Member DemoNet} (hm : m ∈ c.members) {r : Ring} (hr : r ∈ m.process.ringCopies) :
    r.forwarded.toNat = m.process.deliveries := by
  obtain ⟨i, hi⟩ := h.exists_position hm
  obtain ⟨-, hhome, -, hstation⟩ := h.member i m hi
  rcases h.goes with ⟨hop, seat, hrunning⟩ | hspent
  · have hfits := hrunning.fits i
    rw [hstation] at hfits
    exact (hfits.census hhome).2.2 r hr
  · have hremains := hspent.remains i
    rw [hstation] at hremains
    exact (hremains.census hhome).2.2 r hr

end Hosts

/-- The ring of a new cluster keeps its token, whatever the schedulers of the processes do in whatever
order. Until the ring halts there is one token in all copies, inboxes and mailboxes, and it has made as
many hops as the copies have handed it on; as many sends were counted, and as many transitions have
fired. It is never handed on more often than the limit allows, and the ring halts only when the limit is
reached: then there is no token, and one more transition has fired than sends were counted. No token is
dropped, before or after that, and every copy has handed on what its process has counted. -/
theorem ring_token_is_conserved {settings : Settings} {storage : Storage} {start : Cluster DemoNet}
    (hcreate : create n settings (DemoNet.templates limit) storage = .ok start) (now : Nat)
    {calls : List Call} (hcalls : ∀ call ∈ calls, call.operation.isScheduling = true)
    (hc : calls.foldl Cluster.next (start.next ⟨0, .spawnInitial DemoNet.ring, now⟩) = c) :
    (¬ c.RingHalts → ∃ hop, c.ringTokens = [Ring.token Ring.net hop] ∧ hop.toNat = c.ringForwards ∧
        c.deliveries = c.ringForwards ∧ c.firings = c.ringForwards) ∧
      c.ringForwards ≤ limit.toNat ∧ c.deliveries ≤ limit.toNat ∧
      (c.RingHalts → c.ringTokens = [] ∧ c.deliveries = limit.toNat ∧ c.firings = limit.toNat + 1) ∧
      (∀ m ∈ c.members, ∀ r ∈ m.process.ringCopies, r.forwarded.toNat = m.process.deliveries) ∧
      ∀ call : Call, call.operation.isScheduling = true → ∀ e ∈ c.events call, e.2.isDrop = false := by
  obtain ⟨hn, l₀, hstart⟩ := create_hosts hcreate now
  have hgoverns := hosts_governs hn limit
  have hruns := hgoverns.foldl ⟨l₀, hstart⟩ hcalls
  rw [hc] at hruns
  obtain ⟨l, h⟩ := hruns
  have hcopies : ∀ m ∈ c.members, ∀ r ∈ m.process.ringCopies, r.forwarded.toNat = m.process.deliveries :=
    fun m hm r hr => h.forwarded_eq hm hr
  have hdrops : ∀ call : Call, call.operation.isScheduling = true →
      ∀ e ∈ c.events call, e.2.isDrop = false := fun call hcall => (hgoverns.next ⟨l, h⟩ hcall).1
  rcases h.goes with ⟨hop, seat, hrunning⟩ | hspent
  · obtain ⟨hlive, htokens, hforwards, hhop, hfirings, hlimit⟩ := h.running hn hrunning
    rw [← hforwards] at hhop hfirings hlimit
    exact ⟨fun _ => ⟨hop, htokens, hhop, hforwards.symm, hfirings⟩, hlimit, hforwards ▸ hlimit,
      fun hhalts => absurd hhalts hlive, hcopies, hdrops⟩
  · obtain ⟨hhalts, htokens, hforwards, hdeliveries, hfirings⟩ := h.spent hn hspent
    rw [hdeliveries] at hforwards ⊢
    exact ⟨fun hlive => absurd hhalts hlive, hforwards, Nat.le_refl _,
      fun _ => ⟨htokens, rfl, hfirings⟩, hcopies, hdrops⟩

/-- Two processes and a limit of one hop: the token is sent, and then taken in, which halts the ring. -/
theorem ring_token_is_conserved_one_hop :
    ∃ c d : Cluster DemoNet, ¬ c.RingHalts ∧ c.firings = 1 ∧
      c.ringTokens = [Ring.token Ring.net 1] ∧ c.deliveries = 1 ∧
      d.RingHalts ∧ d.ringTokens = [] ∧ d.deliveries = 1 ∧ d.firings = 2 := by
  let sending : List Call := [⟨0, .processMessages ⟨0⟩, 0⟩, ⟨0, .fireReady ⟨0⟩, 0⟩]
  let halting : List Call := sending ++
    [⟨1, .receivePackets 2, 0⟩, ⟨1, .processMessages ⟨0⟩, 0⟩, ⟨1, .fireReady ⟨0⟩, 0⟩]
  obtain ⟨start, hcreate⟩ : ∃ start : Cluster DemoNet,
      create 2 ⟨1, false, 0, 0, none⟩ (DemoNet.templates 1) (.create []) = .ok start := ⟨_, rfl⟩
  obtain ⟨c, hc⟩ : ∃ c,
      sending.foldl Cluster.next (start.next ⟨0, .spawnInitial DemoNet.ring, 0⟩) = c := ⟨_, rfl⟩
  obtain ⟨d, hd⟩ : ∃ d,
      halting.foldl Cluster.next (start.next ⟨0, .spawnInitial DemoNet.ring, 0⟩) = d := ⟨_, rfl⟩
  have hlive : ¬ c.RingHalts ∧ c.firings = 1 := by
    rw [← hc]
    cases hcreate
    exact ⟨of_decide_eq_false (by cbv), by cbv⟩
  have hhalts : d.RingHalts := by
    rw [← hd]
    cases hcreate
    exact of_decide_eq_true (by cbv)
  obtain ⟨hone, -⟩ := ring_token_is_conserved hcreate 0 (by simp [sending, Operation.isScheduling]) hc
  obtain ⟨-, -, -, hnone, -⟩ :=
    ring_token_is_conserved hcreate 0 (by simp [halting, sending, Operation.isScheduling]) hd
  obtain ⟨hop, htokens, hhop, hdeliveries, hfirings⟩ := hone hlive.1
  have hforwards : c.ringForwards = 1 := hfirings.symm.trans hlive.2
  obtain rfl : hop = 1 := UInt32.toNat_inj.mp (hhop.trans hforwards)
  exact ⟨c, d, hlive.1, hlive.2, htokens, hdeliveries.trans hforwards, hhalts, hnone hhalts⟩

end Cluster

end PetriCluster
