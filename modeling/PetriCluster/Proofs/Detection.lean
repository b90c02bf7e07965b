import PetriCluster.Proofs.ProbeRounds
import PetriCluster.Proofs.Quitting
import PetriCluster.Proofs.Verdicts
import PetriCluster.Proofs.WorkTotals
import Mathlib

/-!
# The end of all work is found within two waves

Once nothing is left to do in a cluster, its counters do not change any more. A wave gives their
totals, and if the wave before gave other ones, the next wave gives the same again. As many work
packets were taken in as were sent, unless a caller has told a process by hand of a net that nobody
has made.
-/

namespace PetriCluster

variable {n : Nat} {σ : Type}
variable {p : Fin n → Process σ} {z : Fin n} {F : Forum n σ}

/-! ## What never changes -/

namespace Termination

variable {t t' : Termination}

theorem beginWave_place {own : ProbeSnapshot} {now : Nat} {wave : Option Nat}
    (h : t.beginWave own now = (wave, t')) :
    t'.process = t.process ∧ t'.processCount = t.processCount := by
  unfold beginWave at h
  split at h <;> cases h <;> exact ⟨rfl, rfl⟩

theorem onReply_place {wave : Nat} {sender : ProcessId} {answer : ProbeSnapshot}
    {verdict : Except Crash Verdict} (h : t.onReply wave sender answer = (verdict, t')) :
    t'.process = t.process ∧ t'.processCount = t.processCount := by
  rcases onReply_cases h with ⟨-, rfl⟩ | ⟨current, -, -, ⟨-, rfl⟩ | ⟨-, hprocess, hcount, -⟩⟩
  · exact ⟨rfl, rfl⟩
  · exact ⟨rfl, rfl⟩
  · exact ⟨hprocess, hcount⟩

end Termination

namespace Front

variable {f g : Front σ} {i : Fin n} {settings : Settings} {ws : List Wire}

/-- A process has its place in a cluster with the given settings. -/
structure Placed (settings : Settings) (i : Fin n) (f : Front σ) : Prop where
  id : f.id = .at i
  count : f.processCount = n
  settings : f.settings = settings
  process : f.termination.process = .at i
  processCount : f.termination.processCount = n

theorem Placed.of_termination (h : f.Placed settings i) (hid : g.id = f.id)
    (hcount : g.processCount = f.processCount) (hsettings : g.settings = f.settings)
    (htermination : g.termination.process = f.termination.process ∧
      g.termination.processCount = f.termination.processCount) : g.Placed settings i :=
  ⟨hid.trans h.id, hcount.trans h.count, hsettings.trans h.settings, htermination.1.trans h.process,
    htermination.2.trans h.processCount⟩

theorem Placed.shift {entering : BarrierPhase → Prop} (h : f.Placed settings i)
    (hshift : f.Shift entering ws g) : g.Placed settings i := by
  cases hshift with
  | rest | refused | haltAck | reply | halted => exact h
  | change | draw | tokens | quit | barrier => exact h.of_termination rfl rfl rfl ⟨rfl, rfl⟩
  | probe hbegin => exact h.of_termination rfl rfl rfl (Termination.beginWave_place hbegin)

theorem Placed.acts {naming : NetId → Prop} {o : Occasion} {made spent : Option NetId}
    (h : f.Placed settings i) (hacts : f.Acts naming o made spent ws g) : g.Placed settings i := by
  cases hacts with
  | made | misfit | tokens => exact h.of_termination rfl rfl rfl ⟨rfl, rfl⟩
  | notMade | noise => exact h
  | message _ hheeds =>
    cases hheeds with
    | copy | noCopy | quit | barrier => exact h.of_termination rfl rfl rfl ⟨rfl, rfl⟩
    | reply hreply => exact h.of_termination rfl rfl rfl (Termination.onReply_place hreply)
    | note => exact h

theorem Parts.ended {told : Prop} (h : f.Parts told ws g)
    (hf : f.quitting = true ∧ f.quitSent = true) : g.quitting = true ∧ g.quitSent = true := by
  refine ⟨h.kept hf.1, ?_⟩
  rcases h.tells with ⟨hsame, -⟩ | ⟨-, hsent, -⟩
  · exact hsame.trans hf.2
  · exact hsent

end Front

/-! ## Clusters in which nothing is left to do -/

/-- Counters that fit in the 64 bits of an answer are the totals of a wave. -/
theorem totals_idleAnswers (hsent : ∑ i, (p i).termination.sent < UInt64.size)
    (hreceived : ∑ i, (p i).termination.received < UInt64.size) :
    WaveTotals.of (idleAnswers p) =
      ⟨true, ∑ i, (p i).termination.sent, ∑ i, (p i).termination.received⟩ := by
  have hword (count : Fin n → Nat) (hcount : ∑ i, count i < UInt64.size) (i : Fin n) :
      (UInt64.ofNat (count i)).toNat = count i := by
    have hle : count i ≤ ∑ i, count i :=
      Finset.single_le_sum (fun _ _ => Nat.zero_le _) (Finset.mem_univ i)
    exact UInt64.toNat_ofNat_of_lt' (Nat.lt_of_le_of_lt hle hcount)
  have hidle : ∀ i, (idleAnswers p i).idle = true := fun _ => rfl
  rw [WaveTotals.of, decide_eq_true hidle]
  exact congrArg₂ (WaveTotals.mk true) (Finset.sum_congr rfl fun i _ => hword _ hsent i)
    (Finset.sum_congr rfl fun i _ => hword _ hreceived i)

/-- When the coordinator has noted a wave, nothing is left to do as before. -/
theorem Calm.concluded (h : Calm z p) (now : Nat) (totals : WaveTotals) :
    Calm z (Function.update p z
      { p z with termination := ((p z).termination.begun now).concluded totals }) := by
  let q : Process σ := { p z with termination := ((p z).termination.begun now).concluded totals }
  have hall {P : Fin n → Process σ → Prop} (hz : P z q) (hp : ∀ i, P i (p i)) :
      ∀ i, P i (Function.update p z q i) :=
    (Function.forall_update_iff p P).mpr ⟨hz, fun i _ => hp i⟩
  have hself : Function.update p z q z = q := Function.update_self ..
  exact {
    id := hall (P := fun i p => p.id = .at i) (h.id z) h.id
    count := hall (P := fun _ p => p.processCount = n) (h.count z) h.count
    idle := hall (P := fun _ p => p.Idle) ⟨(h.idle z).drained, (h.idle z).owed⟩ h.idle
    going := hall (P := fun _ p => p.quitting = false) (h.going z) h.going
    autohalt := by
      rw [hself]
      exact h.autohalt
    process := by
      rw [hself]
      exact h.process
    processCount := by
      rw [hself]
      exact h.processCount
    resting := by rw [hself]; rfl }

namespace Cluster

variable {c : Cluster σ}

/-- No process has a net or owes anything, no mailbox holds a packet, no wave is under way, and nobody
ends the run. -/
@[mk_iff]
structure Quiet (c : Cluster σ) : Prop where
  drained : ∀ m ∈ c.members, m.process.registry.isDrained = true
  owed : ∀ m ∈ c.members, m.process.obligations = 0
  empty : ∀ b ∈ c.hub.boxes, b.queue = []
  resting : ∀ m ∈ c.members, m.process.termination.inProgress = false
  going : ∀ m ∈ c.members, m.process.quitting = false

/-- Whether the cluster is quiet, to be computed. -/
def isQuiet (c : Cluster σ) : Bool :=
  (c.members.all fun m => m.process.registry.isDrained && m.process.obligations == 0 &&
      !m.process.termination.inProgress && !m.process.quitting) &&
    c.hub.boxes.all (·.queue.isEmpty)

theorem isQuiet_eq_true : c.isQuiet = true ↔ c.Quiet := by
  simp only [isQuiet, quiet_iff, Bool.and_eq_true, List.all_eq_true, beq_iff_eq, Bool.not_eq_eq_eq_not,
    Bool.not_true, List.isEmpty_iff, forall_and]
  tauto

theorem Quiet.mail_eq (h : c.Quiet) (hn : n < IdSource.wordSize) : c.hub.mail n = fun _ => [] :=
  funext fun _ => Mailbox.Hub.mail_eq_nil hn fun b hb => h.empty b (List.mem_of_getElem? hb)

theorem Quiet.calm (h : c.Quiet) (hn : n < IdSource.wordSize) (hF : c.Presents F)
    (hserves : c.hub.Serves n) {settings : Settings} (hplaced : ∀ i, (F.front i).Placed settings i)
    (hauto : settings.autohalt = true) (hz : z.val = 0) (hsent : c.workSent < UInt64.size)
    (hreceived : c.workReceived < UInt64.size) :
    ∃ p : Fin n → Process σ, c.Comprises p (fun _ => []) ∧ Calm z p ∧
      c.wavesStarted = (p z).termination.nextWave ∧
      WaveTotals.of (idleAnswers p) = ⟨true, c.workSent, c.workReceived⟩ := by
  have hlt (i : Fin n) : i.val < c.members.length := hF.count ▸ i.isLt
  let p (i : Fin n) : Process σ := (c.members.get ⟨i, hlt i⟩).process
  have hmem (i : Fin n) : c.members.get ⟨i, hlt i⟩ ∈ c.members := List.get_mem ..
  have hget (i : Fin n) : c.members[i.val]? = some (c.members.get ⟨i, hlt i⟩) :=
    List.getElem?_eq_getElem (hlt i)
  have hp (i : Fin n) (m : Member σ) (hm : c.members[i.val]? = some m) : m.process = p i := by
    rw [hget i] at hm
    cases hm
    rfl
  have hfront (i : Fin n) : (p i).front.Placed settings i := (hF.member i _ (hget i)).1 ▸ hplaced i
  have hcalm : Calm z p := {
    id := fun i => (hfront i).id
    count := fun i => (hfront i).count
    idle := fun i => ⟨h.drained _ (hmem i), h.owed _ (hmem i)⟩
    going := fun i => h.going _ (hmem i)
    autohalt := (congrArg Settings.autohalt (hfront z).settings).trans hauto
    process := (hfront z).process
    processCount := (hfront z).processCount
    resting := by simpa [p, Termination.inProgress] using h.resting _ (hmem z) }
  have hsent_eq : c.workSent = ∑ i, (p i).termination.sent :=
    sum_members hF.count fun i m hm => by rw [hp i m hm]
  have hreceived_eq : c.workReceived = ∑ i, (p i).termination.received :=
    sum_members hF.count fun i m hm => by rw [hp i m hm]
  refine ⟨p, ⟨hF.count, fun i m hm => ⟨hp i m hm, (hF.member i m hm).2⟩, hserves, h.mail_eq hn⟩, hcalm,
    ?_, ?_⟩
  · rw [wavesStarted, ← hz, hget z]
    rfl
  · rw [hsent_eq, hreceived_eq]
    exact totals_idleAnswers (hsent_eq ▸ hsent) (hreceived_eq ▸ hreceived)

theorem Quiet.workMailed (h : c.Quiet) : c.workMailed = 0 :=
  List.sum_eq_zero fun count hcount => by
    obtain ⟨box, hbox, rfl⟩ := List.mem_map.mp hcount
    simp [h.empty box hbox]

theorem Quiet.farewell (h : c.Quiet) (hn : n < IdSource.wordSize) (hF : c.Presents F)
    {told : Fin n → Prop} {taken : Fin n → List Packet} (hfarewell : F.Farewell told taken) :
    F.Farewell (fun _ => False) fun _ => [] := by
  have hgoing (i : Fin n) : (F.front i).quitting = false := by
    have hlt : i.val < c.members.length := hF.count ▸ i.isLt
    rw [← hF.quitting_eq (List.getElem?_eq_getElem hlt)]
    exact h.going _ (List.getElem_mem hlt)
  have hmail (q : Fin n) : F.mail q = [] := by
    rw [Forum.mail, ← hF.hub]
    exact congrFun (h.mail_eq hn) q
  have hunsaid (i : Fin n) : (F.front i).quitSent = false := by
    rw [Bool.eq_false_iff]
    intro hsent
    rcases hfarewell.spread i hsent i with hquitting | ⟨packet, hpacket, -⟩
    · simp [hgoing i] at hquitting
    · simp [hmail i] at hpacket
  exact {
    place := hfarewell.place
    serves := hfarewell.serves
    cause := by simp [hgoing]
    spread := by simp [hunsaid]
    mailed := by simp [hmail]
    once := by simp [hmail, hunsaid] }

variable [NetBehaviour σ]

/-- Who ends the run and has said so goes on with that, whatever is ordered. -/
theorem Presents.ended (h : c.Presents F) (hn : n < IdSource.wordSize)
    (hz : (F.front z).quitting = true ∧ (F.front z).quitSent = true) (orders : List (Order σ)) :
    ∃ G : Forum n σ, (orders.foldl Cluster.obey c).Presents G ∧
      (G.front z).quitting = true ∧ (G.front z).quitSent = true := by
  let I (i : Fin n) (f : Front σ) : Prop := i = z → f.quitting = true ∧ f.quitSent = true
  obtain ⟨G, hG, hI⟩ := h.fronts (I := I)
    (fun hI hshift hi => (hshift.parts : Front.Parts True _ _ _).ended (hI hi))
    (fun hI hacts hi => (hacts.parts : Front.Parts True _ _ _).ended (hI hi)) hn
    (fun i hi => hi ▸ hz) orders
  exact ⟨G, hG, hI z rfl⟩

theorem Round.Completes.plain {r : Round σ} (h : r.Completes c) {order : Order σ}
    (horder : order ∈ r.orders) : order.command = .act (.operation .tick) ∨
      ∃ limit, order.command = .act (.operation (.receivePackets limit)) := by
  have hintake (htakes : order.takesIn = true) :
      ∃ limit, order.command = .act (.operation (.receivePackets limit)) := by
    unfold Order.takesIn at htakes
    split at htakes
    · exact ⟨_, ‹_›⟩
    · cases htakes
  simp only [Round.orders, List.mem_cons, List.mem_append] at horder
  rcases horder with rfl | hother | hown
  · exact .inl rfl
  · exact .inr (hintake (h.others order hother).1)
  · exact .inr (hintake (h.own order hown).1)

omit [NetBehaviour σ] in
theorem Comprises.presents {q : Process σ} {mail : Fin n → List Packet}
    (h : c.Comprises (Function.update p z q) mail) :
    ∃ F : Forum n σ, c.Presents F ∧ F.front z = q.front := by
  let F : Forum n σ := ⟨fun i => (Function.update p z q i).front, c.hub, fun _ => True⟩
  refine ⟨F, ⟨h.count, h.serves.1, rfl, fun i m hm => ?_⟩, ?_⟩
  · obtain ⟨hprocess, hname⟩ := h.member i m hm
    exact ⟨congrArg Process.front hprocess, hname⟩
  · exact congrArg Process.front (Function.update_self ..)

theorem Comprises.rounds (h : c.Comprises p fun _ => []) (hn : n < IdSource.wordSize) (hmany : 2 ≤ n)
    (hz : z.val = 0) (hcalm : Calm z p) {first second : Round σ} (hfirst : first.Completes c)
    (hsecond : second.Completes (first.orders.foldl Cluster.obey c))
    (hwaves : (p z).termination.nextWave + 1 < UInt64.size)
    (hfits : (WaveTotals.of (idleAnswers p)).fits = true) :
    ∃ F : Forum n σ, (second.orders.foldl Cluster.obey (first.orders.foldl Cluster.obey c)).Presents F ∧
      ((WaveTotals.of (idleAnswers p)).balanced = true →
        (F.front z).quitting = true ∧ (F.front z).quitSent = true) ∧
      ((WaveTotals.of (idleAnswers p)).balanced = false → (F.front z).quitting = false) := by
  obtain ⟨q, mail, hc, ⟨-, rfl, rfl⟩ | ⟨hverdict, hended⟩⟩ :=
    h.round hn hmany hz hcalm hfirst (Nat.lt_of_succ_lt hwaves) hfits
  · -- the coordinator has noted the totals, and the second wave gives the same again
    let q : Process σ := { p z with
      termination := ((p z).termination.begun first.now).concluded (.of (idleAnswers p)) }
    have hself : Function.update p z q z = q := Function.update_self ..
    have hsame : idleAnswers (Function.update p z q) = idleAnswers p :=
      funext ((Function.forall_update_iff p fun i x => x.idleAnswer = (p i).idleAnswer).mpr
        ⟨rfl, fun _ _ => rfl⟩)
    have hround := hc.round hn hmany hz (hcalm.concluded _ _) hsecond (by rwa [hself])
      (by rwa [hsame])
    rw [hsame, hself] at hround
    obtain ⟨q', mail', hc', hend⟩ := hround
    obtain ⟨F, hF, hfront⟩ := hc'.presents
    refine ⟨F, hF, ?_⟩
    rw [hfront]
    rcases hend with ⟨hverdict, rfl, -⟩ | ⟨hverdict, hended⟩
    · refine ⟨fun hbalanced => ?_, fun _ => hcalm.going z⟩
      simp [Termination.verdict, hbalanced, q, Termination.concluded] at hverdict
    · exact ⟨fun _ => hended, fun hbalanced => by
        simp [Termination.verdict, hbalanced] at hverdict⟩
  · -- the wave before has given these totals, and who ends the run does not go on
    obtain ⟨F, hF, hfront⟩ := hc.presents
    obtain ⟨G, hG, hkept⟩ := hF.ended hn (by rw [hfront]; exact hended) second.orders
    exact ⟨G, hG, fun _ => hkept, fun hbalanced => by
      simp [Termination.verdict, hbalanced] at hverdict⟩

theorem Quiet.news (h : c.Quiet) (hn : n < IdSource.wordSize) (hF : c.Presents F) {told : Fin n → Prop}
    {taken : Fin n → List Packet} (hfarewell : F.Farewell told taken) {first second : Round σ}
    (hfirst : first.Completes c) (hsecond : second.Completes (first.orders.foldl Cluster.obey c))
    {m : Member σ}
    (hm : ((first.orders ++ second.orders).foldl Cluster.obey c).members[z.val]? = some m) {j : Fin n}
    (hj : j ≠ z) :
    (takenBy j (c.history (first.orders ++ second.orders)) ++
        ((first.orders ++ second.orders).foldl Cluster.obey c).hub.queue (.at j)).countP
      (Packet.isQuitOf (.at z)) = if m.process.quitSent then 1 else 0 := by
  have hrounds : ∀ order ∈ first.orders ++ second.orders, order.command = .act (.operation .tick) ∨
      ∃ limit, order.command = .act (.operation (.receivePackets limit)) := by
    intro order horder
    rcases List.mem_append.mp horder with h | h
    · exact hfirst.plain h
    · exact hsecond.plain h
  obtain ⟨G, hG, hlast, -⟩ := hF.farewell hn (h.farewell hn hF hfarewell)
    (fun order horder => by rcases hrounds order horder with h | ⟨_, h⟩ <;> simp [h])
    (fun order horder _ _ _ hquit => by
      rcases hrounds order horder with h | ⟨_, h⟩ <;> simp [h] at hquit)
  have hsaid : m.process.quitSent = (G.front z).quitSent :=
    congrArg Front.quitSent (hG.member z m hm).1
  have honce := hlast.once z j hj
  rw [List.nil_append, Forum.mail, ← hG.hub] at honce
  rw [hsaid]
  exact honce

end Cluster

/-- Callers may have had the processes of a cluster do whatever they like, short of sending packets of
their own and closing ends of the transport. Once nothing is left to do and nobody asks for the end of
the run, two rounds are enough: process 0 ends the run, and the news is in the mailbox of each of the
others or was taken out of it, once. The one exception is that a caller has told a process by hand of a
net that nobody has made; then the two rounds do not end the run. Numbers of waves and counters of
packets have to fit in the 64 bits of a probe and of an answer. -/
theorem end_of_work_is_found_in_two_waves {σ : Type} [NetBehaviour σ] {n : Nat} {settings : Settings}
    {templates : List (Template σ)} {storage : Storage} {start c : Cluster σ}
    (hcreate : Cluster.create n settings templates storage = .ok start) (hmany : 2 ≤ n)
    (hauto : settings.autohalt = true) {orders : List (Cluster.Order σ)}
    (hplain : ∀ order ∈ orders, order.command ≠ .shutdown ∧
      ∀ packet exclude, order.command ≠ .broadcast packet exclude)
    (hrun : orders.foldl Cluster.obey start = c) (hquiet : c.Quiet)
    (hwaves : c.wavesStarted + 1 < UInt64.size) (hreceived : c.workReceived < UInt64.size)
    {first second : Cluster.Round σ} (hfirst : first.Completes c)
    (hsecond : second.Completes (first.orders.foldl Cluster.obey c)) :
    let e := (first.orders ++ second.orders).foldl Cluster.obey c
    ∃ m, e.members[0]? = some m ∧
      (start.strayWork orders = 0 → m.process.quitting = true ∧ ∀ j : Fin n, j.val ≠ 0 →
        (takenBy j (c.history (first.orders ++ second.orders)) ++ e.hub.queue (.at j)).countP
          (Packet.isQuitOf ⟨0⟩) = 1) ∧
      (start.strayWork orders ≠ 0 → m.process.quitting = false) := by
  intro e
  obtain ⟨hpos, hn, hstart⟩ := Cluster.create_presents hcreate
  let z : Fin n := ⟨0, hpos⟩
  -- what holds in the quiet state, from the start of the run
  obtain ⟨F₁, hF₁, hplaced⟩ := hstart.fronts (I := fun i f => f.Placed settings i)
    (fun hI hshift => hI.shift hshift) (fun hI hacts => hI.acts hacts) hn
    (fun i => ⟨rfl, rfl, rfl, rfl, rfl⟩) orders
  obtain ⟨F₂, hF₂, hbalanced⟩ := hstart.balanced hn (Forum.fresh_balanced settings templates) orders
  have hfresh : (Forum.fresh n settings templates).Farewell (fun _ => True) (fun _ => []) :=
    Forum.farewell_fresh settings templates
  obtain ⟨F, hF, hfarewell, -⟩ := hstart.farewell hn hfresh hplain fun _ _ _ _ _ _ => trivial
  rw [hrun] at hF₁ hF₂ hF
  rw [hF₂.balanced_iff hn, hquiet.workMailed, Nat.zero_add, Nat.add_zero] at hbalanced
  have hsent : c.workSent < UInt64.size := by omega
  obtain ⟨p, hc, hcalm, hwaves_eq, htotals⟩ := hquiet.calm hn hF₁ (hF.hub ▸ hfarewell.serves) hplaced
    hauto (z := z) rfl hsent hreceived
  have hfits : (WaveTotals.of (idleAnswers p)).fits = true := by
    rw [htotals, WaveTotals.fits, Bool.and_eq_true_iff, decide_eq_true_iff, decide_eq_true_iff]
    exact ⟨hsent, hreceived⟩
  have hagree : (WaveTotals.of (idleAnswers p)).balanced = decide (start.strayWork orders = 0) := by
    rw [htotals, Bool.eq_iff_iff]
    simp only [WaveTotals.balanced, Bool.true_and, beq_iff_eq, decide_eq_true_iff]
    omega
  obtain ⟨G, hG, hends, hgoes⟩ :=
    hc.rounds hn hmany rfl hcalm hfirst hsecond (hwaves_eq ▸ hwaves) hfits
  rw [← List.foldl_append] at hG
  have hlt : z.val < e.members.length := hG.count ▸ z.isLt
  have hm : e.members[z.val]? = some e.members[z.val] := List.getElem?_eq_getElem hlt
  refine ⟨_, hm, fun hstray => ?_, fun hstray => ?_⟩
  · obtain ⟨hquitting, hsaid⟩ := hends (hagree.trans (decide_eq_true hstray))
    rw [← (hG.member z _ hm).1] at hquitting hsaid
    refine ⟨hquitting, fun j hj => ?_⟩
    have hother : j ≠ z := fun h => hj (congrArg Fin.val h)
    exact (hquiet.news hn hF hfarewell hfirst hsecond hm hother).trans (if_pos hsaid)
  · exact (hG.quitting_eq hm).trans (hgoes (hagree.trans (decide_eq_false hstray)))

/-- A first wave, a global net that lives and dies, and two rounds: the totals of the first of them are
not those of the wave before. -/
theorem end_of_work_is_found_in_two_waves_after_a_net :
    ∃ (c e : Cluster Bare) (rounds : List (Cluster.Order Bare)) (m : Member Bare),
      rounds.foldl Cluster.obey c = e ∧ c.workReceived = 1 ∧ e.members[0]? = some m ∧
      m.process.quitting = true ∧
      (takenBy 1 (c.history rounds) ++ e.hub.queue ⟨1⟩).countP (Packet.isQuitOf ⟨0⟩) = 1 := by
  let order (i : Nat) (op : Operation) (now : Nat) : Cluster.Order Bare := ⟨i, .act (.operation op), now⟩
  let orders : List (Cluster.Order Bare) := [order 0 .tick 0, order 1 (.receivePackets 1) 0,
    order 0 (.receivePackets 1) 0, order 0 (.spawn ⟨0⟩ 0 none none true) 1, order 0 (.halt ⟨0⟩ ⟨0⟩) 1,
    order 0 (.processMessages ⟨0⟩) 1, order 1 (.receivePackets 2) 2, order 1 (.processMessages ⟨0⟩) 2,
    order 0 (.receivePackets 1) 3, order 0 (.processMessages ⟨0⟩) 3, order 1 (.processMessages ⟨0⟩) 3]
  let round (now : Nat) : Cluster.Round Bare :=
    ⟨now, [order 1 (.receivePackets 1) now], [order 0 (.receivePackets 1) now]⟩
  obtain ⟨start, hcreate⟩ : ∃ start : Cluster Bare,
      Cluster.create 2 ⟨1, true, 5, 0, none⟩ [Bare.template] (.create []) = .ok start := ⟨_, rfl⟩
  have hplain : ∀ order ∈ orders, order.command ≠ .shutdown ∧
      ∀ packet exclude, order.command ≠ .broadcast packet exclude := by simp [orders, order]
  have hhand : ∀ order ∈ orders, order.command.isByHand = false := by decide
  have hquiet : (orders.foldl Cluster.obey start).isQuiet = true := by
    cases hcreate
    cbv
  have hcounts : (orders.foldl Cluster.obey start).wavesStarted = 1 ∧
      (orders.foldl Cluster.obey start).workReceived = 1 := by
    cases hcreate
    constructor <;> cbv
  have hrounds : (round 5).completes (orders.foldl Cluster.obey start) = true ∧
      (round 10).completes
        ((round 5).orders.foldl Cluster.obey (orders.foldl Cluster.obey start)) = true := by
    cases hcreate
    constructor <;> cbv
  obtain ⟨m, hm, hends, -⟩ := end_of_work_is_found_in_two_waves hcreate (Nat.le_refl 2) rfl hplain rfl
    (Cluster.isQuiet_eq_true.mp hquiet) (by rw [hcounts.1]; decide) (by rw [hcounts.2]; decide)
    ((round 5).completes_eq_true.mp hrounds.1) ((round 10).completes_eq_true.mp hrounds.2)
  obtain ⟨hquitting, hnews⟩ := hends (Cluster.strayWork_eq_zero hhand)
  exact ⟨_, _, _, m, rfl, hcounts.2, hm, hquitting, hnews 1 (by decide)⟩

/-- Process 1 is told by hand of a net that nobody has made. Nothing is left to do then, but the
counters never agree, and two rounds do not end the run. -/
theorem end_of_work_is_missed_after_stray_news :
    ∃ (start : Cluster Bare) (first second : Cluster.Round Bare),
      Cluster.create 2 ⟨1, true, 0, 0, none⟩ [Bare.template] (.create []) = .ok start ∧
      let c := start.obey ⟨1, .consume (.spawned ⟨0⟩ 7 none ⟨0⟩), 0⟩
      c.Quiet ∧ first.Completes c ∧ second.Completes (first.orders.foldl Cluster.obey c) ∧
      ((first.orders ++ second.orders).foldl Cluster.obey c).members.map (·.process.quitting) =
        [false, false] := by
  let round : Cluster.Round Bare := ⟨0, [⟨1, .act (.operation (.receivePackets 1)), 0⟩],
    [⟨0, .act (.operation (.receivePackets 1)), 0⟩]⟩
  refine ⟨_, round, round, rfl, ?_, ?_, ?_, ?_⟩
  · exact Cluster.isQuiet_eq_true.mp (by cbv)
  · exact round.completes_eq_true.mp (by cbv)
  · exact round.completes_eq_true.mp (by cbv)
  · cbv

end PetriCluster
