import PetriCluster.Proofs.Mail
import PetriCluster.Proofs.Operations

/-!
# Whole clusters

A cluster as scenes and mailboxes is a `World`. An operation of one of its processes is a sequence of
moves: the scene of the process changes by a step, and the mailboxes change by what the step says
passes between the process and the transport. What every move keeps holds of every run of the cluster.
-/

namespace PetriCluster

variable {naming open_ : Prop}

/-- The processes of a cluster as scenes, and what is in their mailboxes. -/
structure World (n : Nat) (σ : Type) where
  scene : Fin n → Scene σ
  mail : Fin n → List Packet

/-- What became of which batches of tokens in which process. -/
abbrev Ledger := List (ProcessId × TokenEvent)

namespace World

variable {n : Nat} {σ : Type}

/-- One process takes a step. -/
inductive Moves (step : Scene σ → List Wire → List TokenEvent → Scene σ → Prop) (w : World n σ)
    (i : Fin n) : List TokenEvent → World n σ → Prop
  | intro {ws : List Wire} {events : List TokenEvent} {t : Scene σ} {mail : Fin n → List Packet} :
      step (w.scene i) ws events t → Exchange i w.mail ws mail →
      Moves step w i events ⟨Function.update w.scene i t, mail⟩

/-- Nothing has happened yet. -/
structure Fresh (w : World n σ) : Prop where
  size : n < IdSource.wordSize
  scene : ∀ i, (w.scene i).Fresh
  id : ∀ i, (w.scene i).id = .at i
  processCount : ∀ i, (w.scene i).processCount = n
  mail : ∀ i, w.mail i = []

end World

theorem sum_update {n : Nat} {α : Type} (state : Fin n → α) (i : Fin n) (t : α) (g : α → Nat) :
    ∑ q, g (Function.update state i t q) + g (state i) = ∑ q, g (state q) + g t := by
  have hcomp q : g (Function.update state i t q) = Function.update (g ∘ state) i (g t) q :=
    Function.apply_update (fun _ => g) state i t q
  have hold : ∑ q, g (state q) = g (state i) + ∑ q ∈ Finset.univ \ {i}, g (state q) :=
    Finset.sum_eq_add_sum_sdiff_singleton_of_mem (Finset.mem_univ i) _
  simp only [hcomp, Finset.sum_update_of_mem (Finset.mem_univ i), hold, Function.comp_apply]
  omega

theorem Scene.Step.place_eq {σ : Type} [NetBehaviour σ] {s t : Scene σ} {ws : List Wire}
    {events : List TokenEvent} (h : Scene.Step naming open_ s ws events t) :
    t.id = s.id ∧ t.processCount = s.processCount := by
  cases h with
  | ask _ h => cases h <;> simp
  | take h =>
    cases h with
    | haltAck => exact ⟨Scene.excuse_id _ 1, Scene.excuse_processCount _ 1⟩
    | _ => simp
  | deal _ h => cases h <;> simp
  | _ => simp

/-- A process is in its place and in order. -/
structure Scene.Orderly {n : Nat} {σ : Type} [NetBehaviour σ] (s : Scene σ) (i : Fin n) : Prop where
  id : s.id = .at i
  processCount : s.processCount = n
  sound : s.Sound
  named : s.Named
  accounted : ∀ net, s.Accounted net

theorem Scene.Step.orderly {n : Nat} {σ : Type} [NetBehaviour σ] [LawfulNet σ] {s t : Scene σ}
    {ws : List Wire} {events : List TokenEvent} {i : Fin n} (h : Scene.Step naming open_ s ws events t)
    (hs : s.Orderly i) : t.Orderly i where
  id := h.place_eq.1.trans hs.id
  processCount := h.place_eq.2.trans hs.processCount
  sound := h.sound hs.sound
  named := h.named hs.named
  accounted := h.accounted hs.sound hs.named hs.accounted

namespace World

variable {n : Nat} {σ : Type} [NetBehaviour σ] {w w' : World n σ} {i : Fin n}
  {events : List TokenEvent}

/-- Every process is in its place and in order. -/
def Orderly (w : World n σ) : Prop := ∀ i, (w.scene i).Orderly i

theorem Fresh.orderly (h : w.Fresh) : w.Orderly := fun i =>
  ⟨h.id i, h.processCount i, (h.scene i).sound, (h.scene i).named, (h.scene i).accounted⟩

theorem Moves.orderly [LawfulNet σ] (h : w.Moves (Scene.Step naming open_) i events w') (hw : w.Orderly) :
    w'.Orderly := by
  obtain ⟨hstep, -⟩ := h
  exact (Function.forall_update_iff w.scene fun j s => s.Orderly j).mpr
    ⟨hstep.orderly (hw i), fun j _ => hw j⟩

end World

/-- A cluster whose mailboxes are open is seen as a world. -/
structure Cluster.Shows {n : Nat} {σ : Type} (c : Cluster σ) (w : World n σ) : Prop where
  length : c.members.length = n
  serves : c.hub.Serves n
  mail : w.mail = c.hub.mail n
  member : ∀ (i : Fin n) (m : Member σ), c.members[i.val]? = some m →
    w.scene i = m.process.outline ∧ m.endpoint.process = .at i

namespace Cluster

variable {σ : Type}

/-- The number of items of a kind in the inboxes of the process at a position. -/
def queued (c : Cluster σ) (i : Nat) (f : WorkItem σ → Bool) : Nat :=
  (c.members[i]?.elim [] (·.process.inboxes.flatten)).countP f

/-- The number of packets of a kind in the mailbox of the process at a position. -/
def mailed (c : Cluster σ) (i : Nat) (f : Packet → Bool) : Nat :=
  (c.hub.queue (.ofIndex i)).countP f

variable {n : Nat} {c : Cluster σ} {w : World n σ}

theorem sum_members (hlength : c.members.length = n) {f : Member σ → Nat} {g : Fin n → Nat}
    (h : ∀ (i : Fin n) m, c.members[i.val]? = some m → f m = g i) :
    (c.members.map f).sum = ∑ i, g i := by
  obtain rfl := hlength
  rw [← Fin.sum_univ_fun_getElem]
  exact Finset.sum_congr rfl fun i _ => h i _ (List.getElem?_eq_getElem i.isLt)

theorem Shows.queued (h : c.Shows w) (i : Fin n) (f : WorkItem σ → Bool) :
    c.queued i f = (w.scene i).count f := by
  have hi : i.val < c.members.length := h.length ▸ i.isLt
  have hmember := List.getElem?_eq_getElem hi
  rw [Cluster.queued, hmember, (h.member i _ hmember).1]
  exact (Nat.zero_add _).symm

theorem Shows.mailed (h : c.Shows w) (i : Fin n) (f : Packet → Bool) :
    c.mailed i f = (w.mail i).countP f := by
  rw [h.mail]
  rfl

end Cluster

/-! ## New clusters -/

theorem forall₂_of_mapM {α β ε : Type} {f : α → Except ε β} {l : List α} {r : List β}
    (h : l.mapM f = .ok r) : List.Forall₂ (fun a b => f a = .ok b) l r := by
  induction l generalizing r with
  | nil =>
    cases h
    exact .nil
  | cons a rest ih =>
    rw [List.mapM_cons] at h
    cases ha : f a with
    | error e =>
      rw [ha] at h
      cases h
    | ok b =>
      cases hrest : rest.mapM f with
      | error e =>
        rw [ha, hrest] at h
        cases h
      | ok bs =>
        rw [ha, hrest] at h
        cases h
        exact .cons ha (ih hrest)

namespace Cluster

variable {σ : Type} {c : Cluster σ} {n : Nat} {settings : Settings} {templates : List (Template σ)}
  {storage : Storage}

theorem createMember_eq_ok {hub : Mailbox.Hub} {id : ProcessId} {m : Member σ}
    (h : createMember hub settings templates id = .ok m) :
    Process.create settings templates id hub.processCount = .ok m.process ∧
      m.endpoint.process = id := by
  unfold createMember at h
  split at h
  · cases h
  · rename_i endpoint hendpoint
    split at h
    · cases h
    · rename_i process hprocess
      cases h
      refine ⟨hprocess, ?_⟩
      unfold Mailbox.Endpoint.create at hendpoint
      split at hendpoint <;> cases hendpoint
      rfl

/-- The mailboxes of a new cluster are empty, and its processes are new. -/
theorem create_eq_ok (h : create n settings templates storage = .ok c) :
    0 < n ∧ c.hub = ⟨List.replicate n {}⟩ ∧ c.members.length = n ∧
      ∀ (i : Fin n) m, c.members[i.val]? = some m →
        Process.create settings templates (.at i) n = .ok m.process ∧ m.endpoint.process = .at i := by
  unfold create at h
  split at h
  · cases h
  · rename_i hub hhub
    split at h
    · cases h
    · rename_i members hmembers
      cases h
      obtain ⟨hpos, rfl⟩ : 0 < n ∧ hub = ⟨List.replicate n {}⟩ := by
        unfold Mailbox.Hub.create at hhub
        split at hhub <;> cases hhub
        exact ⟨by omega, rfl⟩
      have hall := List.forall₂_iff_get.mp (forall₂_of_mapM hmembers)
      have hlength : members.length = n := by simpa [ProcessId.all] using hall.1.symm
      refine ⟨hpos, rfl, hlength, fun i m hm => ?_⟩
      obtain ⟨hi, rfl⟩ := List.getElem?_eq_some_iff.mp hm
      have hcreate := hall.2 i.val (by simp [ProcessId.all]) hi
      simp only [ProcessId.all, List.get_eq_getElem, List.getElem_map, List.getElem_range] at hcreate
      simpa [Mailbox.Hub.processCount, ProcessId.at] using createMember_eq_ok hcreate

/-- A new cluster is seen as a world in which nothing has happened. -/
theorem create_shows (h : create n settings templates storage = .ok c) :
    ∃ w : World n σ, c.Shows w ∧ w.Fresh := by
  obtain ⟨hpos, hhub, hlength, hmember⟩ := create_eq_ok h
  have hi (i : Fin n) : i.val < c.members.length := hlength ▸ i.isLt
  have hnew i := Process.create_eq_ok (hmember i _ (List.getElem?_eq_getElem (hi i))).1
  refine ⟨⟨fun i => (c.members.get ⟨i, hi i⟩).process.outline, fun _ => []⟩,
    ⟨hlength, hhub ▸ ⟨by simp, by simp⟩, ?_, ?_⟩, ?_⟩
  · funext q
    simp only [hhub, Mailbox.Hub.mail, Mailbox.Hub.queue, Mailbox.Hub.box?, List.getElem?_replicate]
    split <;> rfl
  · intro i m hm
    obtain ⟨_, rfl⟩ := List.getElem?_eq_some_iff.mp hm
    exact ⟨rfl, (hmember i _ hm).2⟩
  · exact ⟨(hnew ⟨0, hpos⟩).2.2.2.1, fun i => (hnew i).2.2.2.2, fun i => (hnew i).1,
      fun i => (hnew i).2.1, fun _ => rfl⟩

end Cluster

/-! ## Operations of a cluster -/

namespace World

variable {n : Nat} {σ : Type} {step : Scene σ → List Wire → List TokenEvent → Scene σ → Prop}

/-- Moves one after the other. -/
inductive Run (step : Scene σ → List Wire → List TokenEvent → Scene σ → Prop) :
    World n σ → Ledger → World n σ → Prop
  | nil {w : World n σ} : Run step w [] w
  | cons {u v w : World n σ} {i : Fin n} {events : List TokenEvent} {later : Ledger} :
      Moves step u i events v → Run step v later w →
      Run step u (events.map (ProcessId.at i, ·) ++ later) w

/-- What every move keeps holds at the end of a run. -/
theorem Run.invariant {I : World n σ → Prop}
    (hmove : ∀ w i events w', Moves step w i events w' → I w → I w')
    {w w' : World n σ} {later : Ledger} (h : w.Run step later w') (hw : I w) : I w' := by
  induction h with
  | nil => exact hw
  | cons hmoves _ ih => exact ih (hmove _ _ _ _ hmoves hw)

/-- The steps of an operation are moves of the process whose operation it is. -/
theorem run_of_path {R : Rules σ} (hn : n < IdSource.wordSize) {s t : Scene σ} {l m : Mailbox.Link}
    {events : List TokenEvent} (h : R.Path s l events t m) {i : Fin n} {w : World n σ}
    (hscene : w.scene i = s) (hmail : w.mail = l.hub.mail n) (hserves : l.hub.Serves n)
    (hname : l.endpoint.process = .at i) :
    Run R.step w (events.map (ProcessId.at i, ·)) ⟨Function.update w.scene i t, m.hub.mail n⟩ ∧
      m.hub.Serves n ∧ m.endpoint.process = .at i := by
  -- The other processes do not move, so each step of the path is a move and the updates add up to one.
  induction h generalizing w with
  | nil =>
    rw [← hscene, Function.update_eq_self, ← hmail]
    exact ⟨.nil, hserves, hname⟩
  | @cons s t u l m k ws events later hstep hw _ ih =>
    obtain ⟨hexchange, hserves, hname⟩ := Mailbox.exchange_of_wired hn hw hserves hname
    obtain ⟨hrun, hserves, hname⟩ :=
      @ih ⟨Function.update w.scene i t, m.hub.mail n⟩ (Function.update_self ..) rfl hserves hname
    rw [Function.update_idem] at hrun
    refine ⟨?_, hserves, hname⟩
    rw [List.map_append]
    exact .cons (.intro (hscene ▸ hstep) (hmail ▸ hexchange)) hrun

end World

namespace Cluster

variable {n : Nat} {σ : Type} {c : Cluster σ} {w : World n σ}

theorem Shows.node (h : c.Shows w) {i : Nat} {node : Node σ Mailbox.Link}
    (hnode : c.node? i = some node) :
    ∃ j : Fin n, j.val = i ∧ w.scene j = node.process.outline ∧ w.mail = node.link.hub.mail n ∧
      node.link.hub.Serves n ∧ node.link.endpoint.process = .at j := by
  obtain ⟨m, hm, rfl⟩ := Option.map_eq_some_iff.mp hnode
  have hi : i < n := h.length ▸ (List.getElem?_eq_some_iff.mp hm).1
  obtain ⟨hscene, hendpoint⟩ := h.member ⟨i, hi⟩ m hm
  exact ⟨⟨i, hi⟩, rfl, hscene, h.mail, h.serves, hendpoint⟩

theorem Shows.update (h : c.Shows w) {i : Fin n} {node : Node σ Mailbox.Link}
    (hserves : node.link.hub.Serves n) (hname : node.link.endpoint.process = .at i) :
    (c.update i node).Shows (⟨Function.update w.scene i node.process.outline,
      node.link.hub.mail n⟩ : World n σ) where
  length := by simp [Cluster.update, h.length]
  serves := hserves
  mail := rfl
  member j m hm := by
    have hi : i.val < c.members.length := h.length ▸ i.isLt
    by_cases hj : j = i
    · subst hj
      simp only [Cluster.update, List.getElem?_set_self hi, Option.some.injEq] at hm
      subst hm
      exact ⟨Function.update_self .., hname⟩
    · have hne : i.val ≠ j.val := fun e => hj (Fin.ext e).symm
      simp only [Cluster.update, List.getElem?_set_ne hne] at hm
      exact ⟨(Function.update_of_ne hj ..).trans (h.member j m hm).1, (h.member j m hm).2⟩

/-- An operation of one of the processes at some time. -/
structure Call where
  process : Nat
  operation : Operation
  now : Nat

variable [NetBehaviour σ]

/-- The cluster after a call that comes to its end, that is, succeeds or is refused. -/
def after? (c : Cluster σ) (call : Call) : Option (Cluster σ) :=
  match { c with now := call.now }.node? call.process with
  | some node => (node.after? call.operation.run).map (c.update call.process)
  | none => none

/-- What a call does with tokens. -/
def events (c : Cluster σ) (call : Call) : Ledger :=
  match { c with now := call.now }.node? call.process with
  | some node => (call.operation.events node).map (.ofIndex call.process, ·)
  | none => []

/-- The cluster after calls, one after the other, each of which comes to its end. -/
def follow? (c : Cluster σ) : List Call → Option (Cluster σ)
  | [] => some c
  | call :: rest =>
    match c.after? call with
    | some c => c.follow? rest
    | none => none

/-- What calls do to batches of tokens, as long as they come to their ends. -/
def ledger (c : Cluster σ) : List Call → Ledger
  | [] => []
  | call :: rest =>
    c.events call ++ match c.after? call with
      | some c => c.ledger rest
      | none => []

variable {naming : Prop}

theorem Shows.after? (h : c.Shows w) (hn : n < IdSource.wordSize) (hs : ∀ i, (w.scene i).Sound)
    {call : Call} (hnaming : call.operation.chosenName?.isSome = true → naming) {c' : Cluster σ}
    (hcall : c.after? call = some c') :
    ∃ w' : World n σ, c'.Shows w' ∧ w.Run (Scene.Step naming True) (c.events call) w' := by
  unfold Cluster.after? at hcall
  unfold Cluster.events
  split at hcall
  · rename_i node hnode
    obtain ⟨node', hafter, rfl⟩ := Option.map_eq_some_iff.mp hcall
    have htimed : ({ c with now := call.now } : Cluster σ).Shows w := { h with }
    obtain ⟨j, hj, hscene, hmail, hserves, hname⟩ := htimed.node hnode
    have hpath : (Scene.steps naming True).Path _ _ _ _ _ :=
      call.operation.path (fun _ => trivial) hnaming (hscene ▸ hs j) hafter
    obtain ⟨hrun, hserves, hname⟩ := World.run_of_path hn hpath hscene hmail hserves hname
    rw [← hj]
    exact ⟨_, h.update hserves hname, hrun⟩
  · cases hcall

/-- What every move keeps, with what it notes, holds after all calls. -/
theorem follow?_invariant (hn : n < IdSource.wordSize) {I : World n σ → Ledger → Prop}
    (hsound : ∀ w ledger, I w ledger → ∀ i, (w.scene i).Sound)
    (hmove : ∀ w i events w' ledger, World.Moves (Scene.Step naming True) w i events w' → I w ledger →
      I w' (ledger ++ events.map (ProcessId.at i, ·)))
    {calls : List Call} (hnaming : ∀ call ∈ calls, call.operation.chosenName?.isSome = true → naming)
    {c' : Cluster σ} (h : c.Shows w) (before : Ledger) (hw : I w before)
    (hcalls : c.follow? calls = some c') :
    ∃ w', c'.Shows w' ∧ I w' (before ++ c.ledger calls) := by
  have along {w w' : World n σ} {later : Ledger} (hrun : w.Run (Scene.Step naming True) later w') :
      ∀ {before}, I w before → I w' (before ++ later) := by
    induction hrun with
    | nil =>
      intro before hw
      rwa [List.append_nil]
    | cons hmoves _ ih =>
      intro before hw
      rw [← List.append_assoc]
      exact ih (hmove _ _ _ _ _ hmoves hw)
  induction calls generalizing c w before with
  | nil =>
    cases hcalls
    refine ⟨w, h, ?_⟩
    rwa [ledger, List.append_nil]
  | cons call rest ih =>
    unfold follow? at hcalls
    split at hcalls
    · rename_i next hnext
      obtain ⟨w₁, h₁, hrun⟩ :=
        h.after? hn (hsound w before hw) (hnaming call (List.mem_cons_self ..)) hnext
      rw [ledger, hnext, ← List.append_assoc]
      exact ih (fun other hother => hnaming other (List.mem_cons_of_mem _ hother)) h₁ _
        (along hrun hw) hcalls
    · cases hcalls

end Cluster

/-! ## Operations however they end -/

namespace Operation

open Rules Scene

variable {σ : Type} [NetBehaviour σ]

/-- However the operation ends, it leads from outline to outline as the rules have it. -/
def Obeys (op : Operation) (R : Rules σ) : Prop :=
  ∀ n : Node σ Mailbox.Link, n.process.outline.Sound → ∃ events, R.crashing.Path n.process.outline n.link
    events (Node.final (op.run n)).process.outline (Node.final (op.run n)).link

theorem obeys_requests {op : Operation} (hop : op.isSpawn = true) : op.Obeys (requests (σ := σ) True) :=
  fun _ hs => (op.spawn_requests hop (fun _ => trivial) hs).final

theorem obeys_steps {op : Operation} (hop : op.isScheduling = true) :
    op.Obeys (steps (σ := σ) True False) := by
  intro n hs
  have hturn : (steps True False).crashing.step n.process.outline [] [] (n.process.scene op.worker []) :=
    .step (Step.turn op.worker rfl)
  have hfollows : (steps True False).Follows True op.worker [] [] n (op.events n) (op.run n) :=
    op.follows (fun hclosed => by simp [hop] at hclosed) (fun _ => trivial) (Rules.sound _ hturn hs)
  obtain ⟨events, hpath⟩ := hfollows.final
  have hback : (steps True False).crashing.step ((Node.final (op.run n)).process.scene op.worker []) [] []
      (Node.final (op.run n)).process.outline := .step (Step.turn ⟨0⟩ rfl)
  exact ⟨_, ((Path.single hturn .nil).trans hpath).trans (.single hback .nil)⟩

end Operation

namespace Cluster

variable {n : Nat} {σ : Type} [NetBehaviour σ] {c : Cluster σ} {w : World n σ} {R : Rules σ}

/-- The cluster after a call, however it ends. Nothing happens if there is no such process. -/
def next (c : Cluster σ) (call : Call) : Cluster σ :=
  match { c with now := call.now }.act call.process call.operation.run with
  | some (_, c) => c
  | none => c

theorem next_eq {call : Call} {node : Node σ Mailbox.Link}
    (h : { c with now := call.now }.node? call.process = some node) :
    c.next call = c.update call.process (Node.final (call.operation.run node)) := by
  rw [next, act, h, Option.map_some]
  cases call.operation.run node <;> rfl

theorem Shows.next (h : c.Shows w) (hn : n < IdSource.wordSize) (hs : ∀ i, (w.scene i).Sound)
    {I : World n σ → Prop} (hmove : ∀ w i events w', World.Moves R.Goes w i events w' → I w → I w')
    {call : Call} (hcall : call.operation.Obeys R) (hw : I w) :
    ∃ w', (c.next call).Shows w' ∧ I w' := by
  cases hnode : { c with now := call.now }.node? call.process with
  | none =>
    refine ⟨w, ?_, hw⟩
    rwa [Cluster.next, act, hnode]
  | some node =>
    have htimed : ({ c with now := call.now } : Cluster σ).Shows w := { h with }
    obtain ⟨j, hj, hscene, hmail, hserves, hname⟩ := htimed.node hnode
    obtain ⟨events, hpath⟩ := hcall node (hscene ▸ hs j)
    obtain ⟨hrun, hserves, hname⟩ := World.run_of_path hn hpath hscene hmail hserves hname
    rw [next_eq hnode, ← hj]
    exact ⟨_, h.update hserves hname, hrun.invariant hmove hw⟩

/-- What every move keeps holds of every run of a cluster, whether or not calls crash. -/
theorem foldl_next_invariant (hn : n < IdSource.wordSize) {I : World n σ → Prop}
    (hsound : ∀ w, I w → ∀ i, (w.scene i).Sound)
    (hmove : ∀ w i events w', World.Moves R.Goes w i events w' → I w → I w')
    {calls : List Call} (hcalls : ∀ call ∈ calls, call.operation.Obeys R) (h : c.Shows w) (hw : I w) :
    ∃ w', (calls.foldl Cluster.next c).Shows w' ∧ I w' := by
  induction calls generalizing c w with
  | nil => exact ⟨w, h, hw⟩
  | cons call rest ih =>
    obtain ⟨w₁, h₁, hw₁⟩ := h.next hn (hsound w hw) hmove (hcalls call (List.mem_cons_self ..)) hw
    exact ih (fun other hother => hcalls other (List.mem_cons_of_mem _ hother)) h₁ hw₁

end Cluster

end PetriCluster
