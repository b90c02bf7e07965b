import PetriCluster.Proofs.FirstNet

/-!
# The ring as one process has it

The first net of a cluster is a ring. As long as its token travels, a process knows nothing of the ring
yet (`Scene.Lacks`), or one of its workers has the copy or will adopt it next, and nothing but tokens
for it waits (`Scene.Holds`). Whatever the process does about items and packets keeps it so, and keeps
the tokens it has.
-/

namespace PetriCluster

namespace Ring

/-- The name of a ring that is the first net of its cluster. -/
def net : NetId := ⟨0⟩

theorem receive_token (r : Ring) (hop : UInt32) :
    NetBehaviour.receive (.inl r : DemoNet) (token net hop).place (token net hop).batch =
      .accepted (.inl { r with waiting := hop :: r.waiting }) := by
  have hread : readToken r.id (token net hop).batch.payload = .ok hop := by
    simp [readToken, token, Bytes.ofLittleEndian_littleEndian]
  have hreceive : r.receive (token net hop).place (token net hop).batch =
      .accepted { r with waiting := hop :: r.waiting } := by
    unfold receive
    rw [hread]
    rfl
  show (r.receive _ _).map Sum.inl = _
  rw [hreceive]
  rfl

theorem token_inj {a b : UInt32} (h : token net a = token net b) : a = b := by
  have hpayload := congrArg (fun p => Bytes.ofLittleEndian p.batch.payload) h
  simp only [token, Bytes.ofLittleEndian_littleEndian, Bytes.mod_word32] at hpayload
  exact UInt32.toNat_inj.mp hpayload

end Ring

namespace Scene

variable {s t : Scene DemoNet} {owner : WorkerId} {adopted : Bool} {r : Ring} {bound : List UInt32}
  {item : WorkItem DemoNet} {rest : List (WorkItem DemoNet)} {packet : Packet} {ws : List Wire}
  {events : List TokenEvent}

/-- A worker has the copy of the ring, or will adopt it next, and nothing but tokens for it waits. -/
abbrev Holds (s : Scene DemoNet) (owner : WorkerId) (adopted : Bool) (r : Ring) (bound : List UInt32) :
    Prop :=
  s.Seats Ring.net owner adopted (.inl r) (bound.map (Ring.token Ring.net))

namespace Holds

theorem post (h : s.Holds owner adopted r bound) (hs : s.Sound) (hop : UInt32) :
    (s.post owner (.tokens (Ring.token Ring.net hop))).Holds owner adopted r (bound ++ [hop]) := by
  rw [Holds, List.map_append]
  exact Seats.post h (h.hasWorker hs) rfl

theorem not_fails (h : s.Holds owner adopted r bound) (hhand : s.hand = item :: rest) {c : Crash} :
    ¬ Fails s item c t := by
  refine Seats.not_fails h hhand fun parcel hparcel after c hcrashed => ?_
  obtain ⟨hop, -, rfl⟩ := List.mem_map.mp hparcel
  rw [Ring.receive_token] at hcrashed
  cases hcrashed

theorem setCopy (h : s.Holds owner true r bound) (copy : Ring) (hid : copy.id = Ring.net) :
    (s.setActive owner Ring.net (some (.inl copy))).Holds owner true copy bound :=
  h.setState (.inl copy) hid

theorem deal (h : s.Holds owner adopted r bound) (hhand : s.hand = item :: rest)
    (hdeals : Deals s item ws events t) :
    ws = [] ∧ (∀ e ∈ events, e.isDrop = false) ∧ ∃ waiting later,
      (t.finish item rest).Holds owner true { r with waiting } later ∧
      (waiting ++ later).Perm (r.waiting ++ bound) := by
  obtain ⟨hws, hdrops, after, left, hseats, ⟨rfl, rfl⟩ | ⟨parcel, hbound, rfl⟩⟩ :=
    Seats.deal h hhand hdeals
  · exact ⟨hws, hdrops, r.waiting, bound, hseats, .refl _⟩
  · obtain ⟨hop, later, rfl, rfl, rfl⟩ := List.map_eq_cons_iff.mp hbound
    rw [Ring.receive_token] at hseats
    exact ⟨hws, hdrops, hop :: r.waiting, later, hseats, List.perm_middle.symm⟩

/-- A token that arrives is bound for the copy. -/
theorem take (h : s.Holds owner adopted r bound) (hs : s.Sound) {hop : UInt32}
    (hpacket : packet.parcel? = some (Ring.token Ring.net hop)) (htakes : Takes s packet ws events t) :
    ws = [] ∧ events = [] ∧ t.Holds owner adopted r (bound ++ [hop]) := by
  have hparcel := Packet.parcel?_eq_some.mp hpacket
  have htag := Packet.tag_of_parcel hparcel
  have hmessage {m : ControlMessage} (hm : ControlMessage.ofPacket packet = .ok m) : False := by
    have hservice := Packet.tag_of_message hm
    rw [htag] at hservice
    cases hservice
  cases htakes with
  | tokens hsame howner =>
    cases hparcel.symm.trans hsame
    cases h.liveOwner?.symm.trans howner
    have hcounted : (s.setTermination s.termination.recordReceived).Holds owner adopted r bound :=
      h.congr ⟨rfl, rfl, rfl, fun _ => rfl, fun _ => rfl⟩
    exact ⟨rfl, rfl, hcounted.post (hs.setTermination _) hop⟩
  | lateTokens hsame hnone =>
    cases hparcel.symm.trans hsame
    cases h.liveOwner?.symm.trans hnone
  | badTokens _ herror => cases hparcel.symm.trans herror
  | spawned hm => exact (hmessage hm).elim
  | spawnRefused hm => exact (hmessage hm).elim
  | halted hm => exact (hmessage hm).elim
  | haltedBefore hm => exact (hmessage hm).elim
  | haltAck hm => exact (hmessage hm).elim
  | quit hm => exact (hmessage hm).elim
  | ignored hservice => simp [htag] at hservice
  | probe hm => exact (hmessage hm).elim
  | reply hm => exact (hmessage hm).elim

end Holds

end Scene

end PetriCluster
