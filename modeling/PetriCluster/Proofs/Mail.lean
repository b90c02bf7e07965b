import PetriCluster.Cluster.Basic
import PetriCluster.Proofs.Refinement
import Mathlib.Algebra.BigOperators.Fin
import Mathlib.Data.Fintype.BigOperators

/-!
# Packets in mailboxes

What an operation of one process does to the mailboxes of a cluster: what was taken out of a mailbox
and then what is left in it is what was there before and then what was accepted for it (`Traffic`).
-/

namespace PetriCluster

variable {q target : ProcessId} {ws : List Wire} {n : Nat}

namespace Wire

/-- A packet of a kind was taken in. -/
def isTaken (f : Packet → Bool) : Wire → Bool
  | took packet => f packet
  | _ => false

/-- The packet was accepted for a process, and is of a kind. -/
def isAcceptedFor (q : ProcessId) (f : Packet → Bool) : Wire → Bool
  | sent target packet => decide (target = q) && f packet
  | _ => false

/-- A packet of a kind was accepted. -/
def isAccepted (f : Packet → Bool) : Wire → Bool
  | sent _ packet => f packet
  | _ => false

/-- The number of packets of a kind that were taken. -/
def taken (f : Packet → Bool) (ws : List Wire) : Nat := ws.countP (isTaken f)

/-- The number of packets of a kind that were accepted for a process. -/
def acceptedFor (q : ProcessId) (f : Packet → Bool) (ws : List Wire) : Nat :=
  ws.countP (isAcceptedFor q f)

/-- The number of packets of a kind that were accepted. -/
def accepted (f : Packet → Bool) (ws : List Wire) : Nat := ws.countP (isAccepted f)

/-- The packet that was taken in. -/
def took? : Wire → Option Packet
  | took packet => some packet
  | _ => none

/-- The packet that was accepted for a process. -/
def sentTo? (q : ProcessId) : Wire → Option Packet
  | sent target packet => if target = q then some packet else none
  | _ => none

/-- The packet. -/
def packet : Wire → Packet
  | took packet | sent _ packet | refused _ packet => packet

variable {f : Packet → Bool} {ws : List Wire}

theorem countP_took? (f : Packet → Bool) (ws : List Wire) :
    (ws.filterMap took?).countP f = taken f ws := by
  rw [taken, List.countP_filterMap]
  congr 1
  funext w
  cases w <;> rfl

theorem countP_sentTo? (q : ProcessId) (f : Packet → Bool) (ws : List Wire) :
    (ws.filterMap (sentTo? q)).countP f = acceptedFor q f ws := by
  rw [acceptedFor, List.countP_filterMap]
  congr 1
  funext w
  cases w with
  | took | refused => rfl
  | sent target packet => by_cases h : target = q <;> simp [sentTo?, isAcceptedFor, h]

section

variable (h : ∀ w ∈ ws, f w.packet = false)

include h

theorem taken_eq_zero : taken f ws = 0 := by
  rw [taken, List.countP_eq_zero]
  intro w hw
  have := h w hw
  cases w <;> simp_all [isTaken, packet]

theorem accepted_eq_zero : accepted f ws = 0 := by
  rw [accepted, List.countP_eq_zero]
  intro w hw
  have := h w hw
  cases w <;> simp_all [isAccepted, packet]

theorem acceptedFor_eq_zero (q : ProcessId) :
    acceptedFor q f ws = 0 := by
  rw [acceptedFor, List.countP_eq_zero]
  intro w hw
  have := h w hw
  cases w <;> simp_all [isAcceptedFor, packet]

end

@[simp] theorem taken_nil : taken f [] = 0 := rfl

@[simp] theorem accepted_nil : accepted f [] = 0 := rfl

@[simp] theorem taken_sent (q : ProcessId) (p : Packet) : taken f (.sent q p :: ws) = taken f ws := by
  simp [taken, isTaken]

theorem taken_took (p : Packet) : taken f (.took p :: ws) = taken f ws + if f p then 1 else 0 := by
  rw [taken, List.countP_cons]
  rfl

@[simp] theorem accepted_took (p : Packet) : accepted f (.took p :: ws) = accepted f ws := by
  simp [accepted, isAccepted]

@[simp] theorem acceptedFor_took (q : ProcessId) (p : Packet) :
    acceptedFor q f (.took p :: ws) = acceptedFor q f ws := by
  simp [acceptedFor, isAcceptedFor]

namespace Broadcast

variable {p : Packet} {targets : List ProcessId}

section

variable (h : Broadcast p targets ws)

include h

theorem packet_eq : ∀ w ∈ ws, w.packet = p := by
  induction h with
  | nil => simp
  | sent _ ih | refused _ ih => simpa [packet] using ih

theorem taken_eq : taken f ws = 0 := by
  induction h with
  | nil => rfl
  | sent _ ih | refused _ ih => simpa [taken, isTaken] using ih

theorem accepted_eq (hf : f p = true) :
    accepted f ws + ws.countP isRefused = targets.length := by
  induction h with
  | nil => rfl
  | sent _ ih =>
    simp only [accepted, List.countP_cons, isAccepted, isRefused, hf, List.length_cons] at ih ⊢
    simp only [if_true, Bool.false_eq_true, if_false]
    omega
  | refused _ ih =>
    simp only [accepted, List.countP_cons, isAccepted, isRefused, List.length_cons] at ih ⊢
    simp only [if_true, Bool.false_eq_true, if_false]
    omega

theorem countP_isSent (hf : f p = true) :
    ws.countP isSent = accepted f ws := by
  refine List.countP_congr fun w hw => ?_
  have hp := h.packet_eq w hw
  cases w with
  | took | refused => simp [isSent, isAccepted]
  | sent target packet =>
    obtain rfl : packet = p := hp
    simp [isSent, isAccepted, hf]

theorem target_mem {packet : Packet} (hw : Wire.refused target packet ∈ ws) :
    target ∈ targets := by
  induction h with
  | nil => simp at hw
  | sent _ ih =>
    simp only [List.mem_cons, reduceCtorEq, false_or] at hw
    exact List.mem_cons_of_mem _ (ih hw)
  | refused _ ih =>
    rcases List.mem_cons.mp hw with heq | hw
    · cases heq
      exact List.mem_cons_self ..
    · exact List.mem_cons_of_mem _ (ih hw)

theorem took_notMem (packet : Packet) : Wire.took packet ∉ ws := by
  induction h with
  | nil => simp
  | sent _ ih | refused _ ih => simpa using ih

theorem sentTo?_eq_nil (hq : q ∉ targets) :
    ws.filterMap (sentTo? q) = [] := by
  induction h with
  | nil => rfl
  | sent _ ih =>
    obtain ⟨hne, hq⟩ := not_or.mp (hq ∘ List.mem_cons.mpr)
    simpa [sentTo?, Ne.symm hne] using ih hq
  | refused _ ih =>
    exact ih fun hmem => hq (List.mem_cons_of_mem _ hmem)

theorem sentTo?_eq (hnodup : targets.Nodup) {packet : Packet}
    (hmem : Wire.sent q packet ∈ ws) : ws.filterMap (sentTo? q) = [packet] := by
  induction h with
  | nil => simp at hmem
  | @sent target targets ws hrest ih =>
    obtain ⟨hfirst, hnodup⟩ := List.nodup_cons.mp hnodup
    by_cases hq : target = q
    · subst hq
      have hpacket : packet = p := (Broadcast.sent hrest).packet_eq _ hmem
      simp [sentTo?, hrest.sentTo?_eq_nil hfirst, hpacket]
    · have hmem : Wire.sent q packet ∈ ws := by simpa [Ne.symm hq] using hmem
      simpa [sentTo?, hq] using ih hnodup hmem
  | refused _ ih => exact ih (List.nodup_cons.mp hnodup).2 (by simpa using hmem)

theorem length_sentTo?_le (hnodup : targets.Nodup) (q : ProcessId) :
    (ws.filterMap (sentTo? q)).length ≤ 1 := by
  by_cases hmem : ∃ packet, Wire.sent q packet ∈ ws
  · obtain ⟨packet, hpacket⟩ := hmem
    rw [h.sentTo?_eq hnodup hpacket]
    rfl
  · have hnone : ws.filterMap (sentTo? q) = [] := by
      rw [List.filterMap_eq_nil_iff]
      intro w hw
      cases w with
      | took | refused => rfl
      | sent target packet =>
        have hne : target ≠ q := by
          rintro rfl
          exact hmem ⟨packet, hw⟩
        simp [sentTo?, hne]
    simp [hnone]

theorem sent_or_refused (hq : q ∈ targets) :
    Wire.sent q p ∈ ws ∨ Wire.refused q p ∈ ws := by
  induction h with
  | nil => simp at hq
  | sent _ ih | refused _ ih =>
    rcases List.mem_cons.mp hq with rfl | hq
    · simp
    · exact (ih hq).imp (List.mem_cons_of_mem _) (List.mem_cons_of_mem _)

end

end Broadcast

end Wire

theorem Scene.Farewell.packet_eq {σ : Type} {s : Scene σ} (h : s.Farewell ws) :
    ∀ w ∈ ws, w.packet = (ControlMessage.quit s.id).toPacket s.id := by
  intro w hw
  unfold Farewell at h
  split at h
  · simp [h] at hw
  · exact h.packet_eq w hw

/-- The name of the process at a position of a cluster. -/
def ProcessId.at {n : Nat} (i : Fin n) : ProcessId := .ofIndex i

namespace ProcessId

variable {n : Nat}
variable {i : Fin n}

theorem index_ofIndex {i : Nat} (h : i < IdSource.wordSize) : (ofIndex i).index = i := by
  rw [ofIndex, index, UInt32.toNat_ofNat']
  exact Nat.mod_eq_of_lt h

section

variable (hn : n < IdSource.wordSize)

include hn

theorem index_at (i : Fin n) : (ProcessId.at i).index = i :=
  index_ofIndex (Nat.lt_trans i.isLt hn)

theorem at_inj {j : Fin n} (h : ProcessId.at i = ProcessId.at j) :
    i = j := by
  have hidx := congrArg index h
  rw [index_at hn, index_at hn] at hidx
  exact Fin.ext hidx

theorem at_eq_iff {j : Fin n} : ProcessId.at i = ProcessId.at j ↔ i = j :=
  ⟨at_inj hn, congrArg _⟩

theorem exists_at (h : q.index < n) : ∃ j : Fin n, q = ProcessId.at j :=
  ⟨⟨q.index, h⟩, index_inj (index_at hn ⟨q.index, h⟩).symm⟩

end

theorem mem_all : q ∈ all n ↔ ∃ i : Fin n, ProcessId.at i = q := by
  simp only [all, List.mem_map, List.mem_range, ProcessId.at]
  exact ⟨fun ⟨i, hi, heq⟩ => ⟨⟨i, hi⟩, heq⟩, fun ⟨i, heq⟩ => ⟨i, i.isLt, heq⟩⟩

theorem nodup_all (hn : n < IdSource.wordSize) : (all n).Nodup := by
  refine List.Nodup.map_on (fun i hi j hj heq => ?_) List.nodup_range
  rw [List.mem_range] at hi hj
  exact Fin.mk.inj_iff.mp (at_inj hn (i := ⟨i, hi⟩) (j := ⟨j, hj⟩) heq)

theorem exists_at_of_mem_peers (h : q ∈ (ProcessId.at i).peers n) : ∃ k : Fin n, q = .at k ∧ k ≠ i := by
  simp only [peers, List.mem_filter, mem_all, decide_eq_true_eq] at h
  obtain ⟨⟨k, rfl⟩, hne⟩ := h
  exact ⟨k, rfl, fun e => hne (congrArg _ e)⟩

section

variable (hn : n < IdSource.wordSize)

include hn

theorem nodup_peers (id : ProcessId) : (id.peers n).Nodup :=
  (nodup_all hn).filter _

theorem at_mem_peers {q : Fin n} (h : q ≠ i) :
    ProcessId.at q ∈ (ProcessId.at i).peers n := by
  simp only [peers, List.mem_filter, mem_all, decide_eq_true_eq]
  exact ⟨⟨q, rfl⟩, fun heq => h (at_inj hn heq)⟩

theorem length_peers (i : Fin n) :
    ((ProcessId.at i).peers n).length = n - 1 := by
  have hfilter : (ProcessId.at i).peers n = (all n).erase (.at i) := by
    rw [(nodup_all hn).erase_eq_filter, peers]
    congr 1
    funext q
    simp [bne, beq_eq_decide]
  rw [hfilter, List.length_erase_of_mem (mem_all.mpr ⟨i, rfl⟩)]
  simp [all]

end

end ProcessId

/-- What process `i` does to the mailboxes of all. -/
structure Traffic {n : Nat} (i : Fin n) (mail : Fin n → List Packet) (ws : List Wire)
    (mail' : Fin n → List Packet) : Prop where
  /-- First in, first out: what was taken and what is left is what was there and what was accepted. -/
  queue : ∀ q : Fin n, (if q = i then ws.filterMap Wire.took? else []) ++ mail' q =
    mail q ++ ws.filterMap (Wire.sentTo? (.at q))
  /-- A packet that was accepted goes to another process. -/
  sent : ∀ target packet, Wire.sent target packet ∈ ws → ∃ q, target = ProcessId.at q ∧ q ≠ i

/-- What process `i` does to the mailboxes of all as long as nobody shuts down. -/
structure Exchange {n : Nat} (i : Fin n) (mail : Fin n → List Packet) (ws : List Wire)
    (mail' : Fin n → List Packet) : Prop extends Traffic i mail ws mail' where
  /-- A packet that was refused goes to no other process. -/
  refused : ∀ target packet, Wire.refused target packet ∈ ws → ∀ q, target = ProcessId.at q → q = i

namespace Traffic

variable {n : Nat} {i : Fin n} {mail mail' mail'' : Fin n → List Packet} {ws : List Wire}

/-- Of every kind, what is there and what was taken is what was there and what was accepted. -/
theorem count (h : Traffic i mail ws mail') (q : Fin n) (f : Packet → Bool) :
    (mail' q).countP f + (if q = i then Wire.taken f ws else 0) =
      (mail q).countP f + Wire.acceptedFor (.at q) f ws := by
  have hcount := congrArg (List.countP f) (h.queue q)
  rw [List.countP_append, List.countP_append, Wire.countP_sentTo?] at hcount
  rw [← hcount, Nat.add_comm]
  split
  · rw [Wire.countP_took?]
  · rfl

theorem nil : Traffic i mail [] mail where
  queue q := by simp
  sent := by simp

theorem cons {w : Wire} (h : Traffic i mail [w] mail') (h' : Traffic i mail' ws mail'') :
    Traffic i mail (w :: ws) mail'' where
  queue q := by
    have hsplit (g : Wire → Option Packet) :
        (w :: ws).filterMap g = [w].filterMap g ++ ws.filterMap g :=
      List.filterMap_append (l := [w])
    have htook : (if q = i then (w :: ws).filterMap Wire.took? else []) =
        (if q = i then [w].filterMap Wire.took? else []) ++
          if q = i then ws.filterMap Wire.took? else [] := by
      split
      · exact hsplit _
      · rfl
    rw [htook, hsplit, List.append_assoc, h'.queue q, ← List.append_assoc, h.queue q,
      List.append_assoc]
  sent target packet hmem := by
    rcases List.mem_cons.mp hmem with heq | hmem
    · exact h.sent target packet (by simp [heq])
    · exact h'.sent target packet hmem

section

variable (h : Traffic i mail ws mail')

include h

theorem total (hn : n < IdSource.wordSize) (f : Packet → Bool) :
    ∑ q, (mail' q).countP f + Wire.taken f ws = ∑ q, (mail q).countP f + Wire.accepted f ws := by
  have hsum : ∑ q : Fin n, Wire.acceptedFor (.at q) f ws = Wire.accepted f ws := by
    have hsent := h.sent
    clear h
    induction ws with
    | nil => simp [Wire.acceptedFor, Wire.accepted]
    | cons w ws ih =>
      have ih := ih fun target packet hmem => hsent target packet (List.mem_cons_of_mem _ hmem)
      simp only [Wire.acceptedFor, Wire.accepted, List.countP_cons, Finset.sum_add_distrib] at ih ⊢
      rw [ih]
      congr 1
      cases w with
      | took | refused => simp [Wire.isAcceptedFor, Wire.isAccepted]
      | sent target packet =>
        obtain ⟨q, rfl, -⟩ := hsent _ packet (List.mem_cons_self ..)
        have heq (j : Fin n) : ProcessId.at q = ProcessId.at j ↔ q = j :=
          ⟨ProcessId.at_inj hn, congrArg _⟩
        by_cases hf : f packet = true
        · simp [Wire.isAcceptedFor, Wire.isAccepted, hf, heq]
        · simp [Wire.isAcceptedFor, Wire.isAccepted, hf]
  have hcount := Finset.sum_congr rfl fun (q : Fin n) (_ : q ∈ Finset.univ) => h.count q f
  simp only [Finset.sum_add_distrib, Finset.sum_ite_eq', Finset.mem_univ, if_true, hsum] at hcount
  exact hcount

theorem mem {q : Fin n} {packet : Packet} (hmem : packet ∈ mail' q) :
    packet ∈ mail q ∨ Wire.sent (.at q) packet ∈ ws := by
  have hcount := h.count q (· = packet)
  have hpos : 0 < (mail' q).countP (· = packet) := List.countP_pos_iff.mpr ⟨packet, hmem, by simp⟩
  by_cases hold : packet ∈ mail q
  · exact .inl hold
  · have hzero : (mail q).countP (· = packet) = 0 := by
      rw [List.countP_eq_zero]
      intro p hp
      simp only [decide_eq_true_eq]
      rintro rfl
      exact hold hp
    have hsent : 0 < Wire.acceptedFor (.at q) (· = packet) ws := by omega
    obtain ⟨w, hw, hf⟩ := List.countP_pos_iff.mp hsent
    cases w with
    | took | refused => simp [Wire.isAcceptedFor] at hf
    | sent target p =>
      simp only [Wire.isAcceptedFor, Bool.and_eq_true, decide_eq_true_eq] at hf
      obtain ⟨rfl, rfl⟩ := hf
      exact .inr hw

/-- What was accepted for another process is at the end of its mailbox. -/
theorem mail_other {q : Fin n} (hq : q ≠ i) :
    mail' q = mail q ++ ws.filterMap (Wire.sentTo? (.at q)) := by
  simpa [hq] using h.queue q

section

variable (hn : n < IdSource.wordSize)

include hn

theorem mail_own :
    mail i = ws.filterMap Wire.took? ++ mail' i := by
  have hnone : ws.filterMap (Wire.sentTo? (.at i)) = [] := by
    rw [List.filterMap_eq_nil_iff]
    intro w hw
    cases w with
    | took | refused => rfl
    | sent target packet =>
      obtain ⟨q, rfl, hq⟩ := h.sent target packet hw
      have hne : ProcessId.at q ≠ ProcessId.at i := fun e => hq (ProcessId.at_inj hn e)
      simp [Wire.sentTo?, hne]
  have hqueue := h.queue i
  rwa [if_pos rfl, hnone, List.append_nil, eq_comm] at hqueue

theorem acceptedFor_own (f : Packet → Bool) :
    Wire.acceptedFor (.at i) f ws = 0 := by
  rw [Wire.acceptedFor, List.countP_eq_zero]
  intro w hw
  cases w with
  | took | refused => simp [Wire.isAcceptedFor]
  | sent target p =>
    obtain ⟨q, rfl, hq⟩ := h.sent target p hw
    have hne : ProcessId.at q ≠ ProcessId.at i := fun e => hq (ProcessId.at_inj hn e)
    simp [Wire.isAcceptedFor, hne]

theorem took_mem {packet : Packet}
    (hmem : Wire.took packet ∈ ws) : packet ∈ mail i := by
  have hcount := h.count i (· = packet)
  have hzero := h.acceptedFor_own hn (· = packet)
  have hpos : 0 < Wire.taken (· = packet) ws :=
    List.countP_pos_iff.mpr ⟨_, hmem, by simp [Wire.isTaken]⟩
  simp only [if_true] at hcount
  obtain ⟨p, hp, heq⟩ := List.countP_pos_iff.mp (show 0 < (mail i).countP (· = packet) by omega)
  simp only [decide_eq_true_eq] at heq
  exact heq ▸ hp

theorem taken_eq_zero {f : Packet → Bool}
    (hnone : (mail i).countP f = 0) : Wire.taken f ws = 0 := by
  rw [Wire.taken, List.countP_eq_zero]
  intro w hw
  cases w with
  | took packet => exact List.countP_eq_zero.mp hnone packet (h.took_mem hn hw)
  | sent | refused => simp [Wire.isTaken]

end

end

end Traffic

theorem Exchange.none_refused {i : Fin n} {mail mail' : Fin n → List Packet}
    (h : Exchange i mail ws mail') {packet : Packet}
    (hcast : Wire.Broadcast packet ((ProcessId.at i).peers n) ws) : ws.countP Wire.isRefused = 0 := by
  rw [List.countP_eq_zero]
  intro w hw
  cases w with
  | took | sent => simp [Wire.isRefused]
  | refused target p =>
    obtain ⟨k, rfl, hk⟩ := ProcessId.exists_at_of_mem_peers (hcast.target_mem hw)
    exact absurd (h.refused _ p hw k rfl) hk

theorem Exchange.sentTo_peer {i q : Fin n} {mail mail' : Fin n → List Packet}
    (h : Exchange i mail ws mail') (hn : n < IdSource.wordSize) {packet : Packet}
    (hcast : Wire.Broadcast packet ((ProcessId.at i).peers n) ws) (hq : q ≠ i) :
    ws.filterMap (Wire.sentTo? (.at q)) = [packet] := by
  refine hcast.sentTo?_eq (ProcessId.nodup_peers hn _) ?_
  refine (hcast.sent_or_refused (ProcessId.at_mem_peers hn hq)).resolve_right fun hrefused => ?_
  exact hq (h.refused _ _ hrefused q rfl)

namespace Mailbox

namespace Hub

variable {h : Hub} {p q : ProcessId}

/-- There is an open mailbox for each of so many processes. -/
def Serves (h : Hub) (n : Nat) : Prop :=
  h.boxes.length = n ∧ ∀ b ∈ h.boxes, b.closed = false

/-- The packets that wait for the processes. -/
def mail (h : Hub) (n : Nat) (q : Fin n) : List Packet := h.queue (.at q)

theorem sum_mail (hsize : h.boxes.length = n) (hn : n < IdSource.wordSize) (count : List Packet → Nat) :
    (h.boxes.map fun b => count b.queue).sum = ∑ q, count (h.mail n q) := by
  obtain rfl := hsize
  rw [← Fin.sum_univ_fun_getElem]
  refine Finset.sum_congr rfl fun q _ => ?_
  simp [mail, queue, box?, ProcessId.index_at hn]

theorem isClosed_eq_false (hs : h.Serves n) (hp : p.index < n) : h.isClosed p = false := by
  have hlt : p.index < h.boxes.length := hs.1 ▸ hp
  simp [isClosed, box?, List.getElem?_eq_getElem hlt, hs.2 _ (List.getElem_mem hlt)]

theorem queue_update_of_ne (hne : q ≠ p) (f : Box → Box) : (h.update p f).queue q = h.queue q := by
  have hidx : p.index ≠ q.index := fun e => hne (ProcessId.index_inj e).symm
  simp [queue, box?, update, hidx]

theorem queue_update_self (hp : p.index < h.boxes.length) {f : Box → Box}
    {g : List Packet → List Packet} (hf : ∀ b, (f b).queue = g b.queue) :
    (h.update p f).queue p = g (h.queue p) := by
  simp [queue, box?, update, List.getElem?_eq_getElem hp, hf]

theorem isClosed_update_of_ne (hne : q ≠ p) (f : Box → Box) :
    (h.update p f).isClosed q = h.isClosed q := by
  have hidx : p.index ≠ q.index := fun e => hne (ProcessId.index_inj e).symm
  simp [isClosed, box?, update, hidx]

theorem isClosed_update {f : Box → Box} (hf : ∀ b, (f b).closed = b.closed) :
    (h.update p f).isClosed q = h.isClosed q := by
  by_cases hq : q = p
  · subst hq
    cases hbox : h.boxes[q.index]? <;> simp [isClosed, box?, update, hbox, hf]
  · exact isClosed_update_of_ne hq f

theorem isClosed_deliver (packet : Packet) : (h.deliver p packet).isClosed q = h.isClosed q :=
  isClosed_update fun _ => rfl

theorem isClosed_close_self : (h.close p).isClosed p = true := by
  cases hbox : h.boxes[p.index]? <;> simp [isClosed, box?, close, update, hbox]

theorem isClosed_of_le (hp : h.boxes.length ≤ p.index) : h.isClosed p = true := by
  simp [isClosed, box?, hp]

theorem lt_of_isClosed (hopen : h.isClosed p = false) : p.index < h.boxes.length := by
  by_contra hle
  rw [isClosed_of_le (Nat.not_lt.mp hle)] at hopen
  cases hopen

theorem queue_deliver (hp : p.index < h.boxes.length) (packet : Packet) :
    (h.deliver p packet).queue q = h.queue q ++ if q = p then [packet] else [] := by
  by_cases hq : q = p
  · subst hq
    rw [if_pos rfl]
    exact queue_update_self hp (g := (· ++ [packet])) fun _ => rfl
  · rw [if_neg hq, List.append_nil]
    exact queue_update_of_ne hq _

theorem queue_close : (h.close p).queue q = h.queue q := by
  by_cases hq : q = p
  · subst hq
    cases hbox : h.boxes[q.index]? <;> simp [queue, box?, close, update, hbox]
  · exact queue_update_of_ne hq _

theorem take_eq_some {packet : Packet} {h' : Hub} (htake : h.take p = (some packet, h')) :
    h.queue p = packet :: h'.queue p ∧ h' = h.update p fun b => { b with queue := b.queue.tail } := by
  unfold take at htake
  split at htake
  · cases htake
  · rename_i first rest hqueue
    cases htake
    have hp : p.index < h.boxes.length := by
      by_contra hle
      simp [queue, box?, Nat.not_lt.mp hle] at hqueue
    rw [queue_update_self hp (g := List.tail) fun _ => rfl, hqueue]
    exact ⟨rfl, rfl⟩

end Hub

/-- A packet may go from a process that is open to another one that is open. -/
theorem route_eq_ok {h : Hub} {sender : ProcessId} :
    Endpoint.route h sender target = .ok () ↔
      h.isClosed sender = false ∧ h.isClosed target = false ∧ target ≠ sender := by
  unfold Endpoint.route Transport.checkTarget
  cases hsender : h.isClosed sender with
  | true => simp
  | false =>
    by_cases hself : target = sender
    · simp [hself]
    · by_cases hbeyond : h.processCount ≤ target.index
      · simp [hself, hbeyond, Hub.isClosed_of_le hbeyond]
      · cases htarget : h.isClosed target <;> simp [hself, hbeyond]

/-- As long as nobody shuts down, a packet for another process is accepted. -/
theorem send_of_serves {i q : Fin n} (hn : n < IdSource.wordSize) {l : Link} (hs : l.hub.Serves n)
    (hi : l.endpoint.process = .at i) (hq : q ≠ i) (packet : Packet) :
    ∃ m, Transport.send l (.at q) packet = (.ok (), m) := by
  have hopen (j : Fin n) : l.hub.isClosed (.at j) = false :=
    Hub.isClosed_eq_false hs (by rw [ProcessId.index_at hn]; exact j.isLt)
  have hroute : Endpoint.route l.hub l.endpoint.process (.at q) = .ok () := by
    rw [hi]
    exact route_eq_ok.mpr ⟨hopen i, hopen q, fun heq => hq (ProcessId.at_inj hn heq)⟩
  simp only [Transport.send, Endpoint.send, hroute]
  exact ⟨_, rfl⟩

theorem link_of_receive {l m : Link} (h : Transport.receive l = (.ok none, m)) : m = l := by
  simp only [Transport.receive, Endpoint.receive] at h
  rcases htake : l.hub.take l.endpoint.process with ⟨_ | packet, hub⟩ <;> rw [htake] at h <;> cases h
  unfold Hub.take at htake
  split at htake <;> cases htake
  rfl

/-- What a process does at its mailbox and at those of the others, any of which may have shut down. -/
structure Carries {n : Nat} (i : Fin n) (h : Hub) (ws : List Wire) (h' : Hub) : Prop where
  size : h'.boxes.length = h.boxes.length
  closed : ∀ q, h'.isClosed q = h.isClosed q
  traffic : Traffic i (h.mail n) ws (h'.mail n)
  /-- A packet that was accepted goes to a process that is open. -/
  sent : ∀ target packet, Wire.sent target packet ∈ ws → h.isClosed target = false
  /-- A packet that was refused goes to the process itself, or one of the ends has shut down. -/
  refused : ∀ target packet, Wire.refused target packet ∈ ws →
    h.isClosed (.at i) = true ∨ h.isClosed target = true ∨ target = .at i

namespace Carries

variable {n : Nat} {i : Fin n} {h h' h'' : Hub} {ws : List Wire}

theorem nil : Carries i h [] h where
  size := rfl
  closed _ := rfl
  traffic := .nil
  sent := by simp
  refused := by simp

theorem cons {w : Wire} (hfirst : Carries i h [w] h') (hrest : Carries i h' ws h'') :
    Carries i h (w :: ws) h'' where
  size := hrest.size.trans hfirst.size
  closed q := (hrest.closed q).trans (hfirst.closed q)
  traffic := hfirst.traffic.cons hrest.traffic
  sent target packet hmem := by
    rcases List.mem_cons.mp hmem with heq | hmem
    · exact hfirst.sent target packet (by simp [heq])
    · rw [← hfirst.closed]
      exact hrest.sent target packet hmem
  refused target packet hmem := by
    rcases List.mem_cons.mp hmem with heq | hmem
    · exact hfirst.refused target packet (by simp [heq])
    · rw [← hfirst.closed, ← hfirst.closed]
      exact hrest.refused target packet hmem

theorem deliver (hn : n < IdSource.wordSize) (hsize : h.boxes.length = n) {q : Fin n} (hq : q ≠ i)
    (hopen : h.isClosed (.at q) = false) (packet : Packet) :
    Carries i h [.sent (.at q) packet] (h.deliver (.at q) packet) where
  size := by simp [Hub.deliver, Hub.update]
  closed _ := Hub.isClosed_deliver packet
  traffic := by
    refine ⟨fun r => ?_, fun target p hmem => ?_⟩
    · have hidx : (ProcessId.at q).index < h.boxes.length := by
        rw [ProcessId.index_at hn, hsize]
        exact q.isLt
      have htook : (if r = i then [Wire.sent (.at q) packet].filterMap Wire.took? else []) = [] := by
        simp [Wire.took?]
      rw [htook, List.nil_append, Hub.mail, Hub.queue_deliver hidx]
      by_cases hr : r = q
      · simp [Hub.mail, Wire.sentTo?, hr]
      · have hname : ProcessId.at r ≠ ProcessId.at q := fun e => hr (ProcessId.at_inj hn e)
        simp [Hub.mail, Wire.sentTo?, hname, Ne.symm hname]
    · simp only [List.mem_singleton, Wire.sent.injEq] at hmem
      exact ⟨q, hmem.1, hq⟩
  sent target p hmem := by
    simp only [List.mem_singleton, Wire.sent.injEq] at hmem
    rwa [hmem.1]
  refused := by simp

theorem take (hn : n < IdSource.wordSize) {packet : Packet}
    (htake : h.take (.at i) = (some packet, h')) : Carries i h [.took packet] h' := by
  obtain ⟨hqueue, rfl⟩ := Hub.take_eq_some htake
  refine ⟨by simp [Hub.update], fun _ => Hub.isClosed_update fun _ => rfl, ⟨fun r => ?_, by simp⟩,
    by simp, by simp⟩
  by_cases hr : r = i
  · subst hr
    simp [Hub.mail, hqueue, Wire.took?, Wire.sentTo?]
  · have hname : ProcessId.at r ≠ ProcessId.at i := fun e => hr (ProcessId.at_inj hn e)
    simp [Hub.mail, Hub.queue_update_of_ne hname, hr, Wire.sentTo?]

theorem refuse {e : TransportError} (packet : Packet)
    (hroute : Endpoint.route h (.at i) target = .error e) : Carries i h [.refused target packet] h where
  size := rfl
  closed _ := rfl
  traffic := by
    refine ⟨fun r => ?_, by simp⟩
    simp only [List.filterMap_cons, List.filterMap_nil, Wire.took?, Wire.sentTo?, ite_self,
      List.nil_append, List.append_nil]
  sent := by simp
  refused other p hmem := by
    simp only [List.mem_singleton, Wire.refused.injEq] at hmem
    have hclosed : ¬(h.isClosed (.at i) = false ∧ h.isClosed target = false ∧ target ≠ .at i) := by
      rw [← route_eq_ok, hroute]
      simp
    rw [hmem.1]
    by_contra hnone
    simp only [not_or, Bool.not_eq_true] at hnone
    exact hclosed hnone

/-- What an endpoint does at its mailbox and at those of the others. -/
theorem of_wired (hn : n < IdSource.wordSize) {l m : Link} (hw : Wired l ws m)
    (hsize : l.hub.boxes.length = n) (hi : l.endpoint.process = .at i) :
    Carries i l.hub ws m.hub ∧ m.endpoint.process = .at i := by
  induction hw with
  | nil => exact ⟨.nil, hi⟩
  | @sent l m k target packet ws hsend _ ih =>
    obtain ⟨hroute, rfl⟩ : Endpoint.route l.hub l.endpoint.process target = .ok () ∧
        m = ⟨{ l.endpoint with stats := l.endpoint.stats.recordSend packet },
          l.hub.deliver target packet⟩ := by
      simp only [Transport.send, Endpoint.send] at hsend
      split at hsend <;> cases hsend
      exact ⟨‹_›, rfl⟩
    obtain ⟨-, hopen, hself⟩ := route_eq_ok.mp hroute
    obtain ⟨q, rfl⟩ := ProcessId.exists_at hn (hsize ▸ Hub.lt_of_isClosed hopen)
    have hq : q ≠ i := fun e => hself (by rw [e, hi])
    have hfirst := deliver hn hsize hq hopen packet
    obtain ⟨hrest, hname⟩ := ih (hfirst.size.trans hsize) hi
    exact ⟨hfirst.cons hrest, hname⟩
  | @refused l m k target packet e ws hsend _ ih =>
    obtain ⟨hroute, rfl⟩ : Endpoint.route l.hub l.endpoint.process target = .error e ∧
        m = ⟨{ l.endpoint with stats := l.endpoint.stats.recordFailures 1 }, l.hub⟩ := by
      simp only [Transport.send, Endpoint.send] at hsend
      split at hsend <;> cases hsend
      exact ⟨‹_›, rfl⟩
    obtain ⟨hrest, hname⟩ := ih hsize hi
    exact ⟨.cons (refuse packet (hi ▸ hroute)) hrest, hname⟩
  | @took l m k packet ws hreceive _ ih =>
    obtain ⟨hub, htake, rfl⟩ : ∃ hub, l.hub.take (.at i) = (some packet, hub) ∧
        m = ⟨{ l.endpoint with stats := l.endpoint.stats.recordReceive packet }, hub⟩ := by
      simp only [Transport.receive, Endpoint.receive, hi] at hreceive
      split at hreceive <;> cases hreceive
      exact ⟨_, ‹_›, by simp [hi]⟩
    have hfirst := take hn htake
    obtain ⟨hrest, hname⟩ := ih (hfirst.size.trans hsize) hi
    exact ⟨hfirst.cons hrest, hname⟩
  | @nothing l m k ws hreceive _ ih =>
    obtain rfl := link_of_receive hreceive
    exact ih hsize hi
  | failed hreceive =>
    simp only [Transport.receive] at hreceive
    cases hreceive
  | polled hpoll _ ih =>
    cases hpoll
    exact ih hsize hi

theorem serves (hc : Carries i h ws h') (hn : n < IdSource.wordSize) (hs : h.Serves n) :
    h'.Serves n := by
  have hsize : h'.boxes.length = n := hc.size.trans hs.1
  refine ⟨hsize, fun b hb => ?_⟩
  obtain ⟨j, hj, rfl⟩ := List.getElem_of_mem hb
  have hidx : (ProcessId.ofIndex j).index = j :=
    ProcessId.index_ofIndex (Nat.lt_trans (hsize ▸ hj) hn)
  have hopen := (hc.closed (.ofIndex j)).trans
    (Hub.isClosed_eq_false hs (by rw [hidx]; exact hsize ▸ hj))
  simpa [Hub.isClosed, Hub.box?, hidx, List.getElem?_eq_getElem hj] using hopen

theorem exchange (hc : Carries i h ws h') (hn : n < IdSource.wordSize) (hs : h.Serves n) :
    Exchange i (h.mail n) ws (h'.mail n) where
  toTraffic := hc.traffic
  refused := by
    have hopen (q : Fin n) : h.isClosed (.at q) = false :=
      Hub.isClosed_eq_false hs (by rw [ProcessId.index_at hn]; exact q.isLt)
    rintro target packet hmem q rfl
    rcases hc.refused _ packet hmem with hclosed | hclosed | hself
    · simp [hopen i] at hclosed
    · simp [hopen q] at hclosed
    · exact ProcessId.at_inj hn hself

end Carries

theorem exchange_of_wired {i : Fin n} (hn : n < IdSource.wordSize) {l m : Link} (hw : Wired l ws m)
    (hs : l.hub.Serves n) (hi : l.endpoint.process = .at i) :
    Exchange i (l.hub.mail n) ws (m.hub.mail n) ∧ m.hub.Serves n ∧ m.endpoint.process = .at i := by
  obtain ⟨hc, hname⟩ := Carries.of_wired hn hw hs.1 hi
  exact ⟨hc.exchange hn hs, hc.serves hn hs, hname⟩

end Mailbox

end PetriCluster
