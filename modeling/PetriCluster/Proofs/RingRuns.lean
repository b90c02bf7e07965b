import PetriCluster.Proofs.RingRounds

/-!
# Clusters that run the ring

In a cluster whose processes have the ring as their first template, process 0 makes the ring and tells
the others of it. From then on all goes as it should (`Cluster.Hosts`), whatever the schedulers of
the processes do in whatever order.
-/

namespace PetriCluster

variable {n : Nat} {limit : UInt32}

theorem Ring.Running.start {l : Line n} {i : Fin n} {owner : WorkerId}
    (hself : (l.station i).scene.Holds owner false ⟨net, limit, [0], 0⟩ []) (hi : i.val = 0)
    (hothers : ∀ j, j ≠ i → (l.station j).scene.Lacks) (hown : l.mail i = [])
    (hmail : ∀ j, j ≠ i → l.mail j = [announcement])
    (hcounts : ∀ j, (l.station j).deliveries = 0 ∧ (l.station j).firings = 0) :
    Running limit 0 (Function.update (fun _ => .absent) i (.held owner false ⟨net, limit, [0], 0⟩ [])) l where
  fits j := by
    by_cases hj : j = i
    · subst hj
      rw [Function.update_self]
      exact .held hself rfl (hcounts j).1.symm (by simp [hown])
    · rw [Function.update_of_ne hj]
      have hother : j.val ≠ 0 := fun heq => hj (Fin.ext (heq.trans hi.symm))
      exact .absent ⟨hother, hothers j hj, (hcounts j).1, [], hmail j hj, by simp⟩
  token a := by
    have hseats := sum_update (fun _ : Fin n => Seat.absent) i
      (.held owner false ⟨net, limit, [0], 0⟩ []) fun x => x.hops.count a
    have hmails (j : Fin n) : (l.mail j).countP (carries a) = 0 := by
      by_cases hj : j = i
      · rw [hj, hown]
        rfl
      · rw [hmail j hj]
        simp [carries, announcement]
    have hnone : Seat.absent.hops = [] := rfl
    have hone : (Seat.held owner false ⟨net, limit, [0], 0⟩ []).hops = [0] := rfl
    simp only [hnone, hone, List.count_nil, Finset.sum_const_zero, Nat.add_zero, Nat.zero_add,
      List.count_singleton, beq_iff_eq] at hseats
    simp only [hmails, Finset.sum_const_zero, Nat.add_zero, hseats, eq_comm (a := a)]
  sends := by simp [hcounts]
  firings := by simp [hcounts]
  within := UInt32.zero_le

theorem Books.Blank.station {b : Books DemoNet} (h : b.Blank) (s : Scene DemoNet) :
    b.station s 0 = ⟨s, 0, 0⟩ := by
  rw [Books.station, h.localDeliveries, h.remoteDeliveries, h.firings]

/-! ## Runs -/

namespace Cluster

variable {c : Cluster DemoNet} {l : Ring.Line n}

/-- A cluster in which all goes on as it should, seen as a line. -/
structure Hosts (c : Cluster DemoNet) (limit : UInt32) (l : Ring.Line n) : Prop where
  length : c.members.length = n
  serves : c.hub.Serves n
  mail : l.mail = c.hub.mail n
  member : ∀ (i : Fin n) (m : Member DemoNet), c.members[i.val]? = some m →
    m.endpoint.process = .at i ∧ m.process.books.Home limit i ∧ m.process.outline.Sound ∧
      l.station i = m.process.books.station m.process.outline 0
  goes : Ring.Goes limit l

theorem Hosts.update (h : c.Hosts limit l) {i : Fin n} {node : Node DemoNet Mailbox.Link}
    (htends : Ring.Tends limit l i ⟨0⟩ [] 0 node) (hs : node.process.outline.Sound) :
    ∃ l' : Ring.Line n, (c.update i node).Hosts limit l' := by
  refine ⟨l.turn i (node.process.books.station node.process.outline 0) (node.link.hub.mail n),
    by simp [Cluster.update, h.length], htends.serves, rfl, fun j m hm => ?_, htends.goes⟩
  have hi : i.val < c.members.length := h.length ▸ i.isLt
  by_cases hj : j = i
  · subst hj
    simp only [Cluster.update, List.getElem?_set_self hi, Option.some.injEq] at hm
    subst hm
    exact ⟨htends.endpoint, htends.home, hs, Ring.Attends.station_eq ..⟩
  · have hne : i.val ≠ j.val := fun e => hj (Fin.ext e).symm
    simp only [Cluster.update, List.getElem?_set_ne hne] at hm
    obtain ⟨hendpoint, hhome, hsound, hstation⟩ := h.member j m hm
    exact ⟨hendpoint, hhome, hsound, (Function.update_of_ne hj ..).trans hstation⟩

theorem Hosts.node (h : c.Hosts limit l) {i : Nat} {node : Node DemoNet Mailbox.Link}
    (hnode : c.node? i = some node) :
    ∃ j : Fin n, j.val = i ∧ Ring.Tends limit l j ⟨0⟩ [] 0 node ∧ node.process.outline.Sound := by
  obtain ⟨m, hm, rfl⟩ := Option.map_eq_some_iff.mp hnode
  have hi : i < n := h.length ▸ (List.getElem?_eq_some_iff.mp hm).1
  obtain ⟨hendpoint, hhome, hsound, hstation⟩ := h.member ⟨i, hi⟩ m hm
  refine ⟨⟨i, hi⟩, rfl, ⟨h.serves, hendpoint, hhome, ?_⟩, hsound⟩
  show Ring.Goes limit (l.turn ⟨i, hi⟩ (m.process.books.station m.process.outline 0) (c.hub.mail n))
  rw [← hstation, ← h.mail, Ring.Line.turn_self]
  exact h.goes

theorem hosts_governs (hn : n < IdSource.wordSize) (limit : UInt32) :
    Governs (fun e => e.isDrop = false) fun c => ∃ l : Ring.Line n, c.Hosts limit l where
  timed _ hc := by
    obtain ⟨l, h⟩ := hc
    exact ⟨l, { h with }⟩
  node hc hnode := by
    obtain ⟨l, h⟩ := hc
    obtain ⟨j, rfl, htends, hs⟩ := h.node hnode
    exact ⟨hs, _, Ring.regime hn limit l j, htends, fun hafter => h.update hafter⟩

theorem create_hosts {settings : Settings} {storage : Storage} {start : Cluster DemoNet}
    (hcreate : create n settings (DemoNet.templates limit) storage = .ok start) (now : Nat) :
    n < IdSource.wordSize ∧
      ∃ l : Ring.Line n, (start.next ⟨0, .spawnInitial DemoNet.ring, now⟩).Hosts limit l := by
  obtain ⟨hn, h⟩ := starts hcreate now (show (DemoNet.templates limit)[DemoNet.ring]? = some _ from rfl)
    (fun hn i hi => (Ring.create_template hn limit i DemoNet.ring none true).trans (by rw [if_pos hi])) rfl
  generalize start.next ⟨0, .spawnInitial DemoNet.ring, now⟩ = c at h
  have hfound (j : Fin n) : ∃ m, c.members[j.val]? = some m :=
    ⟨_, List.getElem?_eq_getElem (h.length ▸ j.isLt)⟩
  choose member hmember using hfound
  let l : Ring.Line n := ⟨fun j => ⟨(member j).process.outline, 0, 0⟩, c.hub.mail n⟩
  let i : Fin n := ⟨0, (create_eq_ok hcreate).1⟩
  have hself : (l.station i).scene.Holds ⟨0⟩ false ⟨Ring.net, limit, [0], 0⟩ [] := by
    have hfirst := (h.member i _ (hmember i)).2.2.2.2.2
    rwa [if_pos rfl] at hfirst
  have hrunning := Ring.Running.start hself rfl (fun j hj => ?_)
    (h.mail i) (fun j hj => ?_) fun j => ⟨rfl, rfl⟩
  · refine ⟨hn, l, h.length, h.serves, rfl, fun j m hm => ?_, .inl ⟨0, _, hrunning⟩⟩
    cases (hmember j).symm.trans hm
    obtain ⟨hendpoint, hhome, hblank, hsound, -⟩ := h.member j _ hm
    exact ⟨hendpoint, hhome, hsound, (hblank.station _).symm⟩
  · have hother := (h.member j _ (hmember j)).2.2.2.2.2
    rwa [if_neg fun heq => hj (Fin.ext heq)] at hother
  · exact (h.mail j).trans (if_neg fun heq => hj (Fin.ext heq))

end Cluster

end PetriCluster
