import PetriCluster.Proofs.RingSeats

/-!
# The ring in a whole cluster

The processes of a cluster and their mailboxes as a `Ring.Line`. While the token travels (`Running`),
every process waits for the news of the ring or has its copy, there is one token in all copies,
inboxes and mailboxes, and its hop count is the number of sends so far.
-/

namespace PetriCluster.Ring

variable {box mail more : List Packet} {packet : Packet} {P : Packet → Prop} {a : UInt32}

open Wire (filterMap_took? forall_sentTo?)

variable {n : Nat}
variable {i : Fin n}

/-- What counts of a process: its scene, its sends that were accepted, and its transitions that have
fired. -/
structure Station where
  scene : Scene DemoNet
  deliveries : Nat
  firings : Nat

/-- The processes of a cluster and their mailboxes. -/
structure Line (n : Nat) where
  station : Fin n → Station
  mail : Fin n → List Packet

/-- A station changes, and the mail with it. -/
def Line.turn (l : Line n) (i : Fin n) (s : Station) (mail : Fin n → List Packet) : Line n :=
  ⟨Function.update l.station i s, mail⟩

theorem Line.turn_turn (l : Line n) (i : Fin n) (s t : Station) (mail mail' : Fin n → List Packet) :
    (l.turn i s mail).turn i t mail' = l.turn i t mail' := by
  simp [turn]

theorem Line.turn_self (l : Line n) (i : Fin n) : l.turn i (l.station i) l.mail = l := by
  simp [turn]

/-! ## Packets under way -/

/-- Whether a packet holds the token with a given hop count. -/
def carries (hop : UInt32) (p : Packet) : Bool :=
  decide (p.parcel? = some (token net hop))

/-- The packet by which process 0 tells the others of the ring. -/
def announcement : Packet := (ControlMessage.spawned net 0 none ⟨0⟩).toPacket ⟨0⟩

/-- A packet that may be under way while the token travels. -/
def IsPlain (p : Packet) : Prop :=
  p.Tells ControlMessage.isAside ∨ ∃ hop, p.parcel? = some (token net hop)

theorem ofPacket_announcement :
    ControlMessage.ofPacket announcement = .ok (.spawned net 0 none ⟨0⟩) :=
  Packet.message?_eq_some.mp (Packet.message?_toPacket _ _)

theorem not_tells_announcement {f : ControlMessage → Bool}
    (hf : ∀ m, f m = true → m.isNotice = true) : ¬ announcement.Tells f := by
  intro h
  cases hf _ (h.2 _ ofPacket_announcement)

theorem not_isPlain_announcement : ¬ IsPlain announcement := by
  rintro (haside | ⟨hop, hparcel⟩)
  · exact not_tells_announcement (fun _ => ControlMessage.isNotice_of_isAside) haside
  · simp [announcement] at hparcel

theorem carries_of_tells {f : ControlMessage → Bool} {p : Packet} (h : p.Tells f) (hop : UInt32) :
    carries hop p = false := by
  simp [carries, h.parcel?]

theorem carries_iff {hop : UInt32} {p : Packet} (h : p.parcel? = some (token net hop)) :
    carries a p = decide (a = hop) := by
  simp only [carries, h, Option.some.injEq]
  exact decide_eq_decide.mpr ⟨fun heq => (token_inj heq).symm, fun heq => heq ▸ rfl⟩

theorem notices_of_plain (h : ∀ p ∈ mail, IsPlain p) (hnone : ∀ hop, mail.countP (carries hop) = 0) :
    ∀ p ∈ mail, p.Tells ControlMessage.isNotice := by
  intro p hp
  rcases h p hp with haside | ⟨hop, hparcel⟩
  · exact haside.mono fun _ => ControlMessage.isNotice_of_isAside
  · have hnot := List.countP_eq_zero.mp (hnone hop) p hp
    simp [carries, hparcel] at hnot

/-! ## While the token travels -/

/-- A process that has yet to hear of the ring; the news is the first thing in its mailbox. -/
structure Awaits (P : Packet → Prop) (i : Fin n) (s : Station) (mail : List Packet) : Prop where
  other : i.val ≠ 0
  lacks : s.scene.Lacks
  deliveries : s.deliveries = 0
  mail : ∃ later, mail = announcement :: later ∧ ∀ p ∈ later, P p

variable {s : Station}

theorem Awaits.append (h : Awaits P i s mail) (hmore : ∀ p ∈ more, P p) :
    Awaits P i s (mail ++ more) := by
  obtain ⟨later, rfl, hlater⟩ := h.mail
  refine { h with mail := ⟨later ++ more, rfl, fun p hp => ?_⟩ }
  exact (List.mem_append.mp hp).elim (hlater p) (hmore p)

variable {t : Station}

theorem Awaits.congr (h : Awaits P i s mail) (hsame : s.scene.Unmoved t.scene)
    (hdeliveries : t.deliveries = s.deliveries) : Awaits P i t mail :=
  { h with lacks := h.lacks.congr hsame, deliveries := hdeliveries.trans h.deliveries }

theorem Awaits.head_eq (h : Awaits P i s (packet :: box)) : packet = announcement := by
  obtain ⟨later, heq, -⟩ := h.mail
  exact (List.cons.inj heq).1

/-- What a process has of the ring while the token travels. -/
inductive Seat where
  | absent
  /-- It has a copy, adopted or not, and tokens wait for it. -/
  | held (owner : WorkerId) (adopted : Bool) (copy : Ring) (bound : List UInt32)

/-- The hop counts at a seat. -/
def Seat.hops : Seat → List UInt32
  | absent => []
  | held _ _ copy bound => copy.waiting ++ bound

/-- A process has of the ring what the seat says. -/
inductive Seat.Fits (limit : UInt32) (i : Fin n) (s : Station) (mail : List Packet) : Seat → Prop
  | absent : Awaits IsPlain i s mail → Fits limit i s mail .absent
  | held {owner : WorkerId} {adopted : Bool} {copy : Ring} {bound : List UInt32} :
      s.scene.Holds owner adopted copy bound → copy.limit = limit →
      copy.forwarded.toNat = s.deliveries → (∀ p ∈ mail, IsPlain p) →
      Fits limit i s mail (.held owner adopted copy bound)

variable {limit hop : UInt32} {seat : Fin n → Seat} {l : Line n} {i : Fin n} {s : Station}
  {ws : List Wire} {mail : Fin n → List Packet}

variable {x : Seat}

theorem Seat.Fits.append (h : x.Fits limit i s box) (hmore : ∀ p ∈ more, IsPlain p) :
    x.Fits limit i s (box ++ more) := by
  cases h with
  | absent hawaits => exact .absent (hawaits.append hmore)
  | held hholds hlimit hforwarded hplain =>
    exact .held hholds hlimit hforwarded fun p hp =>
      (List.mem_append.mp hp).elim (hplain p) (hmore p)

theorem Seat.Fits.congr (h : x.Fits limit i s box) (hsame : s.scene.Unmoved t.scene)
    (hdeliveries : t.deliveries = s.deliveries) : x.Fits limit i t box := by
  cases h with
  | absent hawaits => exact .absent (hawaits.congr hsame hdeliveries)
  | held hholds hlimit hforwarded hplain =>
    exact .held (hholds.congr hsame) hlimit (hforwarded.trans hdeliveries.symm) hplain

theorem Seat.Fits.tail (h : x.Fits limit i s (packet :: box)) (hother : packet ≠ announcement) :
    x.Fits limit i s box := by
  cases h with
  | absent hawaits => exact absurd hawaits.head_eq hother
  | held hholds hlimit hforwarded hplain =>
    exact .held hholds hlimit hforwarded fun p hp => hplain p (List.mem_cons_of_mem _ hp)

theorem Seat.Fits.parcel_eq (h : x.Fits limit i s box) (hpacket : packet ∈ box) {parcel : Parcel}
    (hparcel : packet.parcel? = some parcel) : ∃ a, parcel = Ring.token net a := by
  have hplain (hp : IsPlain packet) : ∃ a, parcel = Ring.token net a := by
    rcases hp with haside | ⟨a, htoken⟩
    · cases haside.parcel?.symm.trans hparcel
    · exact ⟨a, Option.some.inj (hparcel.symm.trans htoken)⟩
  cases h with
  | absent hawaits =>
    obtain ⟨later, rfl, hlater⟩ := hawaits.mail
    rcases List.mem_cons.mp hpacket with rfl | hpacket
    · simp [announcement] at hparcel
    · exact hplain (hlater packet hpacket)
  | held _ _ _ hall => exact hplain (hall packet hpacket)

/-- The token travels: there is one, it has made as many hops as there were sends, and not more than
the limit. -/
structure Running (limit hop : UInt32) (seat : Fin n → Seat) (l : Line n) : Prop where
  fits : ∀ j, (seat j).Fits limit j (l.station j) (l.mail j)
  token : ∀ a, ∑ j, (seat j).hops.count a + ∑ j, (l.mail j).countP (carries a) =
    if a = hop then 1 else 0
  sends : hop.toNat = ∑ j, (l.station j).deliveries
  firings : ∑ j, (l.station j).firings = ∑ j, (l.station j).deliveries
  within : hop ≤ limit

section

variable (h : Running limit hop seat l)

include h

/-- The work of one process: the token may go from one hop count to another, and then as many sends and
firings are counted as hops. -/
theorem Running.turn (hn : n < IdSource.wordSize)
    (htraffic : Traffic i l.mail ws mail) {hop' : UInt32}
    (hplain : ∀ q : Fin n, ∀ p ∈ ws.filterMap (Wire.sentTo? (.at q)), IsPlain p)
    (hfits : x.Fits limit i s (mail i))
    (htoken : ∀ a, x.hops.count a + Wire.accepted (carries a) ws + (if a = hop then 1 else 0) =
      (seat i).hops.count a + Wire.taken (carries a) ws + if a = hop' then 1 else 0)
    (hhop : hop'.toNat + (l.station i).deliveries = hop.toNat + s.deliveries)
    (hfirings : s.firings + (l.station i).deliveries = (l.station i).firings + s.deliveries)
    (hbound : hop' ≤ limit) : Running limit hop' (Function.update seat i x) (l.turn i s mail) where
  fits j := by
    by_cases hj : j = i
    · subst hj
      simpa [Line.turn] using hfits
    · have hmail := htraffic.mail_other hj
      simp only [Line.turn, Function.update_of_ne hj, hmail]
      exact (h.fits j).append (hplain j)
  token a := by
    have hseats := sum_update seat i x fun y => y.hops.count a
    have htotal := htraffic.total hn (carries a)
    have hold := h.token a
    have hstep := htoken a
    simp only [Line.turn]
    omega
  sends := by
    have hsum := sum_update l.station i s Station.deliveries
    have hold := h.sends
    simp only [Line.turn]
    omega
  firings := by
    have hdeliveries := sum_update l.station i s Station.deliveries
    have hcounts := sum_update l.station i s Station.firings
    have hold := h.firings
    simp only [Line.turn]
    omega
  within := hbound

theorem Running.keep (hn : n < IdSource.wordSize)
    (htraffic : Traffic i l.mail ws mail) (hws : Wire.Utters (Packet.Tells ControlMessage.isAside) ws)
    (hfits : x.Fits limit i s (l.mail i)) (hperm : x.hops.Perm (seat i).hops)
    (hdeliveries : s.deliveries = (l.station i).deliveries)
    (hfirings : s.firings = (l.station i).firings) :
    Running limit hop (Function.update seat i x) (l.turn i s mail) := by
  have hmail : mail i = l.mail i := by
    rw [htraffic.mail_own hn, filterMap_took? hws, List.nil_append]
  have hsilent (a : UInt32) (w : Wire) (hw : w ∈ ws) : carries a w.packet = false :=
    carries_of_tells (hws w hw).2 a
  refine h.turn hn htraffic (fun q p hp => .inl (forall_sentTo? hws _ p hp)) (hmail ▸ hfits)
    (fun a => ?_) (by omega) (by omega) h.within
  rw [hperm.count_eq, Wire.accepted_eq_zero (hsilent a), Wire.taken_eq_zero (hsilent a)]

theorem Running.take (hn : n < IdSource.wordSize)
    (htraffic : Traffic i l.mail (.took packet :: ws) mail)
    (hws : Wire.Utters (Packet.Tells ControlMessage.isAside) ws) (hfits : x.Fits limit i s (mail i))
    (hhops : ∀ a, x.hops.count a = (seat i).hops.count a + if carries a packet then 1 else 0)
    (hdeliveries : s.deliveries = (l.station i).deliveries)
    (hfirings : s.firings = (l.station i).firings) :
    Running limit hop (Function.update seat i x) (l.turn i s mail) := by
  have hsilent (a : UInt32) (w : Wire) (hw : w ∈ ws) : carries a w.packet = false :=
    carries_of_tells (hws w hw).2 a
  refine h.turn hn htraffic (fun q p hp => .inl (forall_sentTo? hws (.at q) p hp)) hfits
    (fun a => ?_) (by omega) (by omega) h.within
  rw [hhops, Wire.accepted_took, Wire.taken_took, Wire.accepted_eq_zero (hsilent a),
    Wire.taken_eq_zero (hsilent a)]
  omega

theorem Running.only {later : List UInt32}
    (hhops : (seat i).hops = a :: later) :
    a = hop ∧ later = [] ∧ (∀ j, j ≠ i → (seat j).hops = []) ∧
      ∀ j b, (l.mail j).countP (carries b) = 0 := by
  have hsplit (b : UInt32) : ∑ j, (seat j).hops.count b =
      (seat i).hops.count b + ∑ j ∈ Finset.univ \ {i}, (seat j).hops.count b :=
    Finset.sum_eq_add_sum_sdiff_singleton_of_mem (Finset.mem_univ i) _
  have hcount (b : UInt32) : later.count b + (if a = b then 1 else 0) +
      ∑ j ∈ Finset.univ \ {i}, (seat j).hops.count b + ∑ j, (l.mail j).countP (carries b) =
        if b = hop then 1 else 0 := by
    have htoken := h.token b
    rw [hsplit, hhops, List.count_cons] at htoken
    simpa using htoken
  obtain rfl : a = hop := by
    have hat := hcount a
    by_contra hne
    simp [hne] at hat
  have hzero (b : UInt32) : later.count b = 0 ∧
      ∑ j ∈ Finset.univ \ {i}, (seat j).hops.count b = 0 ∧
      ∑ j, (l.mail j).countP (carries b) = 0 := by
    have hat := hcount b
    by_cases hb : b = a
    · simp only [hb, if_true] at hat ⊢
      omega
    · simp only [hb, Ne.symm hb, if_false] at hat
      omega
  refine ⟨rfl, ?_, fun j hj => ?_, fun j b => ?_⟩
  · exact List.eq_nil_iff_forall_not_mem.mpr fun b => List.count_eq_zero.mp (hzero b).1
  · refine List.eq_nil_iff_forall_not_mem.mpr fun b => List.count_eq_zero.mp ?_
    exact (Finset.sum_eq_zero_iff.mp (hzero b).2.1) j (by simp [hj])
  · exact Finset.sum_eq_zero_iff.mp (hzero b).2.2 j (Finset.mem_univ j)

theorem Running.forward (hn : n < IdSource.wordSize)
    (htraffic : Traffic i l.mail ws mail) {owner : WorkerId} {copy : Ring} {bound bound' : List UInt32}
    {rest : List UInt32} (hseat : seat i = .held owner true copy bound)
    (hwaiting : copy.waiting = a :: rest) (hlt : a < limit) (hholds : s.scene.Holds owner true
      { copy with waiting := rest, forwarded := copy.forwarded + 1 } bound')
    (hsent : ws = [] ∧ bound' = bound ++ [a + 1] ∨ ∃ target source,
      ws = [.sent target (.ofTokens source (Ring.token net (a + 1)))] ∧ bound' = bound)
    (hdeliveries : s.deliveries = (l.station i).deliveries + 1)
    (hfirings : s.firings = (l.station i).firings + 1) :
    ∃ hop' seat', Running limit hop' seat' (l.turn i s mail) := by
  have hhops : (seat i).hops = a :: (rest ++ bound) := by rw [hseat, Seat.hops, hwaiting]; rfl
  obtain ⟨rfl, -, -, -⟩ := h.only hhops
  have hroom : a.toNat + 1 < 2 ^ 32 :=
    Nat.lt_of_le_of_lt (UInt32.lt_iff_toNat_lt.mp hlt) limit.toNat_lt
  have hnext : (a + 1).toNat = a.toNat + 1 := (UInt32.toNat_add a 1).trans (Nat.mod_eq_of_lt hroom)
  have hfits := h.fits i
  rw [hseat] at hfits
  cases hfits with
  | held _ hlimit hforwarded hplain =>
    have hle : (l.station i).deliveries ≤ a.toNat := by
      have hsplit := Finset.sum_eq_add_sum_sdiff_singleton_of_mem (Finset.mem_univ i)
        fun j => (l.station j).deliveries
      have hsends := h.sends
      omega
    have hcounted : (copy.forwarded + 1).toNat = s.deliveries := by
      have hfit : copy.forwarded.toNat + 1 < 2 ^ 32 := by omega
      rw [hdeliveries, ← hforwarded]
      exact (UInt32.toNat_add copy.forwarded 1).trans (Nat.mod_eq_of_lt hfit)
    have hmail : mail i = l.mail i := by
      have hnone : ws.filterMap Wire.took? = [] := by
        rcases hsent with ⟨rfl, -⟩ | ⟨target, source, rfl, -⟩ <;> rfl
      rw [htraffic.mail_own hn, hnone, List.nil_append]
    refine ⟨a + 1, _, h.turn (x := .held owner true _ bound') hn htraffic ?_
      (.held hholds hlimit hcounted (hmail ▸ hplain)) (fun b => ?_) (by omega) (by omega) ?_⟩
    · intro q p hp
      rcases hsent with ⟨rfl, -⟩ | ⟨target, source, rfl, -⟩
      · cases hp
      · obtain ⟨w, hw, hp⟩ := List.mem_filterMap.mp hp
        obtain rfl := List.mem_singleton.mp hw
        simp only [Wire.sentTo?] at hp
        split at hp <;> cases hp
        exact .inr ⟨a + 1, Packet.parcel?_ofTokens _ _⟩
    · rw [hhops]
      rcases hsent with ⟨rfl, rfl⟩ | ⟨target, source, rfl, rfl⟩
      · simp only [Seat.hops, List.count_append, List.count_cons, List.count_nil, Wire.accepted_nil,
          Wire.taken_nil, beq_iff_eq, eq_comm (a := b)]
        omega
      · have haccepted : Wire.accepted (carries b)
            [.sent target (.ofTokens source (Ring.token net (a + 1)))] = if b = a + 1 then 1 else 0 := by
          simp [Wire.accepted, Wire.isAccepted, carries_iff (Packet.parcel?_ofTokens _ _)]
        rw [haccepted, Wire.taken_sent, Wire.taken_nil]
        simp only [Seat.hops, List.count_append, List.count_cons, beq_iff_eq, eq_comm (a := b)]
        omega
    · rw [UInt32.le_iff_toNat_le, hnext]
      exact UInt32.lt_iff_toNat_lt.mp hlt

end

/-! ## After the halt -/

/-- What a process has of the ring after the halt. -/
inductive Remains (i : Fin n) (s : Station) (mail : List Packet) : Prop
  | absent : Awaits (Packet.Tells ControlMessage.isNotice) i s mail → Remains i s mail
  | idle {copy : Ring} : s.scene.Dwindles net (.inl copy) → copy.waiting = [] →
      copy.forwarded.toNat = s.deliveries → (∀ p ∈ mail, p.Tells ControlMessage.isNotice) →
      Remains i s mail

theorem Remains.append (h : Remains i s box) (hmore : ∀ p ∈ more, p.Tells ControlMessage.isNotice) :
    Remains i s (box ++ more) := by
  cases h with
  | absent hawaits => exact .absent (hawaits.append hmore)
  | idle hcopy hwaiting hforwarded hnotices =>
    exact .idle hcopy hwaiting hforwarded fun p hp =>
      (List.mem_append.mp hp).elim (hnotices p) (hmore p)

theorem Remains.congr (h : Remains i s box) (hsame : s.scene.Unmoved t.scene)
    (hdeliveries : t.deliveries = s.deliveries) : Remains i t box := by
  cases h with
  | absent hawaits => exact .absent (hawaits.congr hsame hdeliveries)
  | idle hcopy hwaiting hforwarded hnotices =>
    exact .idle (hcopy.congr hsame) hwaiting (hforwarded.trans hdeliveries.symm) hnotices

theorem Remains.tail (h : Remains i s (packet :: box)) (hother : packet ≠ announcement) :
    Remains i s box := by
  cases h with
  | absent hawaits => exact absurd hawaits.head_eq hother
  | idle hcopy hwaiting hforwarded hnotices =>
    exact .idle hcopy hwaiting hforwarded fun p hp => hnotices p (List.mem_cons_of_mem _ hp)

theorem Remains.parcel? (h : Remains i s box) (hpacket : packet ∈ box) : packet.parcel? = none := by
  cases h with
  | absent hawaits =>
    obtain ⟨later, rfl, hlater⟩ := hawaits.mail
    rcases List.mem_cons.mp hpacket with rfl | hpacket
    · simp [announcement]
    · exact (hlater packet hpacket).parcel?
  | idle _ _ _ hnotices => exact (hnotices packet hpacket).parcel?

theorem Seat.Fits.remains (h : x.Fits limit i s box) (hhops : x.hops = [])
    (hnone : ∀ a, box.countP (carries a) = 0) : Remains i s box := by
  cases h with
  | absent hawaits =>
    obtain ⟨later, rfl, hlater⟩ := hawaits.mail
    refine .absent { hawaits with mail := ⟨later, rfl, notices_of_plain hlater fun a => ?_⟩ }
    have hall := hnone a
    rw [List.countP_cons] at hall
    omega
  | held hholds _ hforwarded hplain =>
    obtain ⟨hwaiting, rfl⟩ := List.append_eq_nil_iff.mp hhops
    exact .idle hholds.dwindles hwaiting hforwarded (notices_of_plain hplain hnone)

/-- The ring has halted: there is no token, and as many sends as the limit, with one more firing. -/
structure Spent (limit : UInt32) (l : Line n) : Prop where
  remains : ∀ j, Remains j (l.station j) (l.mail j)
  stopped : ∃ j, (l.station j).scene.registry.Stopped net
  deliveries : ∑ j, (l.station j).deliveries = limit.toNat
  firings : ∑ j, (l.station j).firings = limit.toNat + 1

theorem Spent.turn (h : Spent limit l) (htraffic : Traffic i l.mail ws mail)
    (hnotices : ∀ q : Fin n, ∀ p ∈ ws.filterMap (Wire.sentTo? (.at q)), p.Tells ControlMessage.isNotice)
    (hremains : Remains i s (mail i))
    (hstopped : (l.station i).scene.registry.Stopped net → s.scene.registry.Stopped net)
    (hdeliveries : s.deliveries = (l.station i).deliveries)
    (hfirings : s.firings = (l.station i).firings) : Spent limit (l.turn i s mail) where
  remains j := by
    by_cases hj : j = i
    · subst hj
      simpa [Line.turn] using hremains
    · have hmail := htraffic.mail_other hj
      simp only [Line.turn, Function.update_of_ne hj, hmail]
      exact (h.remains j).append (hnotices j)
  stopped := by
    obtain ⟨j, hj⟩ := h.stopped
    refine ⟨j, ?_⟩
    by_cases hi : j = i
    · subst hi
      simpa [Line.turn] using hstopped hj
    · simpa [Line.turn, Function.update_of_ne hi] using hj
  deliveries := by
    have hsum := sum_update l.station i s Station.deliveries
    have hold := h.deliveries
    simp only [Line.turn]
    omega
  firings := by
    have hsum := sum_update l.station i s Station.firings
    have hold := h.firings
    simp only [Line.turn]
    omega

/-- The firing that finds the limit reached ends the journey of the token. -/
theorem Running.halt (h : Running limit hop seat l) {later : List UInt32}
    (hhops : (seat i).hops = a :: later) (hlimit : limit ≤ a) {copy : Ring}
    (hcopy : s.scene.Dwindles net (.inl copy)) (hwaiting : copy.waiting = [])
    (hforwarded : copy.forwarded.toNat = s.deliveries) (hstopped : s.scene.registry.Stopped net)
    (hdeliveries : s.deliveries = (l.station i).deliveries)
    (hfirings : s.firings = (l.station i).firings + 1) : Spent limit (l.turn i s l.mail) := by
  obtain ⟨rfl, -, hothers, hnone⟩ := h.only hhops
  obtain rfl : a = limit := UInt32.le_antisymm h.within hlimit
  have hmail : ∀ p ∈ l.mail i, p.Tells ControlMessage.isNotice := by
    have hfits := h.fits i
    cases hseat : seat i with
    | absent =>
      rw [hseat] at hhops
      cases hhops
    | held owner adopted copy bound =>
      rw [hseat] at hfits
      cases hfits with
      | held _ _ _ hplain => exact notices_of_plain hplain (hnone i)
  have hsum := sum_update l.station i s Station.deliveries
  have hcounts := sum_update l.station i s Station.firings
  have hold := h.sends
  have hsame := h.firings
  refine ⟨fun j => ?_, ⟨i, ?_⟩, ?_, ?_⟩
  · by_cases hj : j = i
    · subst hj
      simpa [Line.turn] using Remains.idle hcopy hwaiting hforwarded hmail
    · simpa [Line.turn, Function.update_of_ne hj] using (h.fits j).remains (hothers j hj) (hnone j)
  · simpa [Line.turn] using hstopped
  · simp only [Line.turn]
    omega
  · simp only [Line.turn]
    omega

/-! ## Before and after -/

/-- The token is somewhere on its way, or the ring is spent. -/
def Goes (limit : UInt32) (l : Line n) : Prop :=
  (∃ hop seat, Running limit hop seat l) ∨ Spent limit l

theorem Goes.unmoved (h : Goes limit l) (hn : n < IdSource.wordSize)
    (htraffic : Traffic i l.mail ws mail) (hws : Wire.Utters (Packet.Tells ControlMessage.isAside) ws)
    (hsame : (l.station i).scene.Unmoved s.scene) (hdeliveries : s.deliveries = (l.station i).deliveries)
    (hfirings : s.firings = (l.station i).firings) : Goes limit (l.turn i s mail) := by
  have hmail : mail i = l.mail i := by
    rw [htraffic.mail_own hn, filterMap_took? hws, List.nil_append]
  rcases h with ⟨hop, seat, hrunning⟩ | hspent
  · exact .inl ⟨hop, _, hrunning.keep hn htraffic hws ((hrunning.fits i).congr hsame hdeliveries)
      (.refl _) hdeliveries hfirings⟩
  · have hnotices := hws.mono fun p (hp : p.Tells ControlMessage.isAside) =>
      hp.mono fun _ => ControlMessage.isNotice_of_isAside
    refine .inr (hspent.turn htraffic (fun q => forall_sentTo? hnotices _) ?_
      (fun hstopped => hsame.registry ▸ hstopped) hdeliveries hfirings)
    rw [hmail]
    exact (hspent.remains i).congr hsame hdeliveries

theorem Goes.hear (h : Goes limit l) (hn : n < IdSource.wordSize)
    (htraffic : Traffic i l.mail (.took packet :: ws) mail)
    (hpacket : packet.Tells ControlMessage.isAside)
    (hws : Wire.Utters (Packet.Tells ControlMessage.isAside) ws)
    (hsame : (l.station i).scene.Unmoved s.scene)
    (hdeliveries : s.deliveries = (l.station i).deliveries)
    (hfirings : s.firings = (l.station i).firings) : Goes limit (l.turn i s mail) := by
  have hother : packet ≠ announcement := by
    rintro rfl
    exact not_isPlain_announcement (.inl hpacket)
  have hmail : l.mail i = packet :: mail i := by
    rw [htraffic.mail_own hn]
    simp [Wire.took?, filterMap_took? hws]
  rcases h with ⟨hop, seat, hrunning⟩ | hspent
  · have hfits := hrunning.fits i
    rw [hmail] at hfits
    refine .inl ⟨hop, _, hrunning.take hn htraffic hws ((hfits.tail hother).congr hsame hdeliveries)
      (fun a => ?_) hdeliveries hfirings⟩
    simp [carries_of_tells hpacket]
  · have hremains := hspent.remains i
    rw [hmail] at hremains
    have hnotices := hws.mono fun p (hp : p.Tells ControlMessage.isAside) =>
      hp.mono fun _ => ControlMessage.isNotice_of_isAside
    exact .inr (hspent.turn htraffic (fun q => forall_sentTo? hnotices (.at q))
      ((hremains.tail hother).congr hsame hdeliveries)
      (fun hstopped => hsame.registry ▸ hstopped) hdeliveries hfirings)

end PetriCluster.Ring
