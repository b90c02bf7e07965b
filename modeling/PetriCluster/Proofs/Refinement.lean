import PetriCluster.Proofs.Evaluation
import PetriCluster.Proofs.Items
import PetriCluster.Proofs.TokenEvents

/-!
# Operations follow the rules

The scene of a process shows what its operations do. An operation follows the rules if the scene after
it can be reached from the scene before it in steps, with the packets and the token events of the
steps being those of the operation; if it crashes, the steps lead to a wreck.
-/

namespace PetriCluster

variable {ws : List Wire} {naming open_ : Prop} {owner : WorkerId} {events : List TokenEvent}
  {net : NetId} {parent : Option NetId} {isGlobal : Bool} {index : Nat}

/-- A process as a scene, with a worker at work and the items at its hand. -/
def Process.scene {σ : Type} (p : Process σ) (w : WorkerId) (hand : List (WorkItem σ)) :
    Scene σ where
  id := p.id
  processCount := p.processCount
  threads := p.settings.threads
  workerCount := p.workers.length
  templates := p.templates
  ids := p.ids
  registry := p.registry
  inboxes := p.inboxes
  obligations := p.obligations
  active v net := (p.worker v).nets.find? net
  halting v net := (p.worker v).halting.find? net
  termination := p.termination
  quitting := p.quitting
  quitSent := p.quitSent
  worker := w
  hand := hand

/-- A process and its transport do what a list says: packets go out and come in, in that order. -/
inductive Wired {τ : Type} [Transport τ] : τ → List Wire → τ → Prop
  | nil {l : τ} : Wired l [] l
  | sent {l m k : τ} {target : ProcessId} {packet : Packet} {ws : List Wire} :
      Transport.send l target packet = (.ok (), m) → Wired m ws k →
      Wired l (.sent target packet :: ws) k
  | refused {l m k : τ} {target : ProcessId} {packet : Packet} {e : TransportError}
      {ws : List Wire} : Transport.send l target packet = (.error e, m) → Wired m ws k →
      Wired l (.refused target packet :: ws) k
  | took {l m k : τ} {packet : Packet} {ws : List Wire} :
      Transport.receive l = (.ok (some packet), m) → Wired m ws k →
      Wired l (.took packet :: ws) k
  | nothing {l m k : τ} {ws : List Wire} :
      Transport.receive l = (.ok none, m) → Wired m ws k → Wired l ws k
  | failed {l m k : τ} {e : TransportError} {ws : List Wire} :
      Transport.receive l = (.error e, m) → Wired m ws k → Wired l ws k
  | polled {l m k : τ} {report : SendReport} {ws : List Wire} :
      Transport.poll l = (report, m) → Wired m ws k → Wired l ws k

/-- Rules for scenes: the steps there are, and the wrecks that crashes leave behind. -/
structure Rules (σ : Type) where
  step : Scene σ → List Wire → List TokenEvent → Scene σ → Prop
  wreck : Crash → Scene σ → List Wire → Scene σ → Prop
  rest : ∀ s, step s [] [] s
  sound : ∀ {s ws events t}, step s ws events t → s.Sound → t.Sound
  sound_of_wreck : ∀ {c s ws t}, wreck c s ws t → s.Sound → t.Sound

namespace Rules

variable {σ τ α β : Type} [Transport τ]

/-- A sequence of steps, with what becomes of the transport and of tokens. -/
inductive Path (R : Rules σ) : Scene σ → τ → List TokenEvent → Scene σ → τ → Prop
  | nil {s : Scene σ} {l : τ} : Path R s l [] s l
  | cons {s t u : Scene σ} {l m k : τ} {ws : List Wire} {events later : List TokenEvent} :
      R.step s ws events t → Wired l ws m → Path R t m later u k →
      Path R s l (events ++ later) u k

/-- A step, or what a crash leaves behind. -/
inductive Goes (R : Rules σ) : Scene σ → List Wire → List TokenEvent → Scene σ → Prop
  | step {s t : Scene σ} {ws : List Wire} {events : List TokenEvent} : R.step s ws events t →
      Goes R s ws events t
  | wreck {c : Crash} {s t : Scene σ} {ws : List Wire} : R.wreck c s ws t → Goes R s ws [] t

variable {R : Rules σ}

omit [Transport τ] in
theorem Goes.sound {s t : Scene σ} (h : R.Goes s ws events t) (hs : s.Sound) : t.Sound := by
  cases h with
  | step h => exact R.sound h hs
  | wreck h => exact R.sound_of_wreck h hs

/-- The rules by which a crash is a step like any other. -/
def crashing (R : Rules σ) : Rules σ where
  step := R.Goes
  wreck _ _ _ _ := False
  rest s := .step (R.rest s)
  sound h hs := h.sound hs
  sound_of_wreck h := h.elim

namespace Path

variable {s t u : Scene σ} {l m k : τ} {events later : List TokenEvent}

theorem single (h : R.step s ws events t) (hw : Wired l ws m) : R.Path s l events t m := by
  simpa using Path.cons h hw .nil

/-- One path after another. -/
theorem trans (h : R.Path s l events t m) (h' : R.Path t m later u k) :
    R.Path s l (events ++ later) u k := by
  induction h with
  | nil => exact h'
  | cons hstep hw _ ih =>
    rw [List.append_assoc]
    exact .cons hstep hw (ih h')

/-- Along a path a sound scene stays sound. -/
theorem sound (h : R.Path s l events t m) (hs : s.Sound) : t.Sound := by
  induction h with
  | nil => exact hs
  | cons hstep _ _ ih => exact ih (R.sound hstep hs)

theorem crashing (h : R.Path s l events t m) : R.crashing.Path s l events t m := by
  induction h with
  | nil => exact .nil
  | cons hstep hw _ ih => exact .cons (.step hstep) hw ih

end Path

end Rules

/-- The node that an operation leaves behind, however it ends. -/
def Node.final {σ τ α : Type} : EStateM.Result Fault (Node σ τ) α → Node σ τ
  | .ok _ n | .error _ n => n

namespace Rules

variable {σ τ α β : Type} [Transport τ] {R : Rules σ}
variable {result : EStateM.Result Fault (Node σ τ) α} {f : α → NodeM σ τ β} {x : NodeM σ τ α}
  {m : Node σ τ}

/-- What is shown of an operation of a worker with items at hand: how it ends, it has got there by
steps. A refusal has to be permitted, and leaves the items at hand as they were. -/
def Follows (R : Rules σ) (refusals : Prop) (w : WorkerId) (hand after : List (WorkItem σ))
    (n : Node σ τ) (events : List TokenEvent) : EStateM.Result Fault (Node σ τ) α → Prop
  | .ok _ m => R.Path (n.process.scene w hand) n.link events (m.process.scene w after) m.link
  | .error (.refused _) m =>
    refusals ∧ R.Path (n.process.scene w hand) n.link events (m.process.scene w hand) m.link
  | .error (.crashed c) m => ∃ earlier t k ws,
    R.Path (n.process.scene w hand) n.link earlier t k ∧ R.wreck c t ws (m.process.scene w []) ∧
      Wired k ws m.link

namespace Follows

variable {refusals : Prop} {w : WorkerId} {hand after later : List (WorkItem σ)} {n : Node σ τ}
  {events : List TokenEvent}

theorem silent {a : α} (h : m.process.scene w hand = n.process.scene w hand) (hlink : m.link = n.link) :
    R.Follows refusals w hand hand n [] (.ok a m) := by
  show R.Path _ _ _ _ _
  rw [h, hlink]
  exact .nil

theorem refusal {e : RuntimeError} : R.Follows True w hand hand n [] (.error (.refused e) n :
    EStateM.Result Fault (Node σ τ) α) :=
  ⟨trivial, .nil⟩

theorem step {a : α} (h : R.step (n.process.scene w hand) ws events (m.process.scene w after))
    (hw : Wired n.link ws m.link) : R.Follows refusals w hand after n events (.ok a m) :=
  Path.single h hw

variable {next : α → Node σ τ → List TokenEvent}

theorem andThen (hs : (n.process.scene w hand).Sound)
    (hx : R.Follows refusals w hand hand n events result)
    (hf : ∀ a m, result = .ok a m → (m.process.scene w hand).Sound →
      R.Follows refusals w hand after m (next a m) (f a m)) :
    R.Follows refusals w hand after n (Node.andThen events result next) (match result with
      | .ok a m => f a m
      | .error e m => .error e m) := by
  rcases result with ⟨a, m⟩ | ⟨e | c, m⟩
  · have hfm := hf a m rfl (Path.sound hx hs)
    simp only [Node.andThen]
    generalize f a m = second at hfm ⊢
    rcases second with ⟨b, k⟩ | ⟨e | c, k⟩
    · exact Path.trans hx hfm
    · exact ⟨hfm.1, Path.trans hx hfm.2⟩
    · obtain ⟨earlier, t, l, ws, hpath, hwreck, hw⟩ := hfm
      exact ⟨_, t, l, ws, Path.trans hx hpath, hwreck, hw⟩
  · simp only [Node.andThen, List.append_nil]
    exact hx
  · exact hx

theorem bind (hs : (n.process.scene w hand).Sound)
    (hx : R.Follows refusals w hand hand n events (x n))
    (hf : ∀ a m, x n = .ok a m → (m.process.scene w hand).Sound →
      R.Follows refusals w hand hand m (next a m) (f a m)) :
    R.Follows refusals w hand hand n (Node.andThen events (x n) next) ((x >>= f) n) := by
  rw [Node.bind_apply]
  exact andThen hs hx hf

theorem after_path {before : List TokenEvent}
    (hpath : R.Path (n.process.scene w hand) n.link before (m.process.scene w after) m.link)
    (h : R.Follows False w after later m events result) :
    R.Follows refusals w hand later n (before ++ events) result := by
  rcases result with ⟨a, k⟩ | ⟨e | c, k⟩
  · exact hpath.trans h
  · exact h.1.elim
  · obtain ⟨earlier, t, l, ws, hlater, hwreck, hw⟩ := h
    exact ⟨_, t, l, ws, hpath.trans hlater, hwreck, hw⟩

/-- An operation before another one that does nothing about tokens. -/
theorem andThen_quiet (hs : (n.process.scene w hand).Sound)
    (hx : R.Follows refusals w hand hand n events result)
    (hf : ∀ a m, result = .ok a m → (m.process.scene w hand).Sound →
      R.Follows refusals w hand after m [] (f a m)) :
    R.Follows refusals w hand after n events (match result with
      | .ok a m => f a m
      | .error e m => .error e m) := by
  have hnil : Node.andThen events result (fun _ _ => []) = events := by
    unfold Node.andThen
    cases result <;> simp
  rw [← hnil]
  exact andThen hs hx hf

theorem bind_quiet (hs : (n.process.scene w hand).Sound)
    (hx : R.Follows refusals w hand hand n events (x n))
    (hf : ∀ a m, x n = .ok a m → (m.process.scene w hand).Sound →
      R.Follows refusals w hand hand m [] (f a m)) :
    R.Follows refusals w hand hand n events ((x >>= f) n) := by
  rw [Node.bind_apply]
  exact andThen_quiet hs hx hf

theorem attempt (h : R.Follows True w hand hand n events (x n)) :
    R.Follows refusals w hand hand n events (Node.attempt x n) := by
  rw [Node.attempt_apply]
  rcases hx : x n with ⟨a, m⟩ | ⟨e | c, m⟩ <;> rw [hx] at h
  · exact h
  · exact h.2
  · exact h

/-- However an operation ends, it has got there by steps and at most one crash. -/
theorem final (h : R.Follows refusals w [] [] n events result) :
    ∃ all, R.crashing.Path (n.process.scene w []) n.link all
      ((Node.final result).process.scene w []) (Node.final result).link := by
  rcases result with ⟨a, m⟩ | ⟨e | c, m⟩
  · exact ⟨_, Path.crashing h⟩
  · exact ⟨_, Path.crashing h.2⟩
  · obtain ⟨earlier, t, k, ws, hpath, hwreck, hw⟩ := h
    exact ⟨_, hpath.crashing.trans (.single (.wreck hwreck) hw)⟩

theorem mono (h : R.Follows False w hand after n events result) :
    R.Follows refusals w hand after n events result := by
  rcases result with ⟨a, m⟩ | ⟨e | c, m⟩
  · exact h
  · exact h.1.elim
  · exact h

end Follows

end Rules

namespace Scene

variable {σ : Type} [NetBehaviour σ]

/-- What a request can do. -/
inductive Request (naming : Prop) : Scene σ → List Wire → List TokenEvent → Scene σ → Prop
  | rest {s : Scene σ} : Request naming s [] [] s
  | ask {s t : Scene σ} {ws : List Wire} {events : List TokenEvent} : Asks naming s ws events t →
      Request naming s ws events t
  | quit {s : Scene σ} {ws : List Wire} : s.Farewell ws → Request naming s ws [] s.quit

/-- What a request leaves behind that crashes: a slot whose instance turned out to be foreign. -/
inductive RequestWreck (naming : Prop) : Crash → Scene σ → List Wire → Scene σ → Prop
  | misfit {s : Scene σ} {owner : WorkerId} {index : Nat} {net : NetId} {parent : Option NetId}
      {isGlobal : Bool} {registry : Registry} {ids : IdSource} : s.HasWorker owner →
      s.registry.insert net index owner parent isGlobal = .ok registry →
      s.ids.Allots naming net ids → s.Misnames →
      RequestWreck naming .foreignInstance s [] ((s.setRegistry registry).setIds ids).letGo

/-- The rules for what a net may ask. -/
def requests (naming : Prop) : Rules σ where
  step := Request naming
  wreck := RequestWreck naming
  rest _ := .rest
  sound h hs := by
    cases h with
    | rest => exact hs
    | ask h => exact h.sound hs
    | quit => exact { hs with }
  sound_of_wreck h hs := by
    cases h with
    | misfit howner hinsert hname hmade =>
      have hwreck : Wreck naming True _ _ _ _ := .misfit (.inl trivial) howner hinsert hname hmade
      exact hwreck.sound hs

/-- The rules for all steps. -/
def steps (naming open_ : Prop) : Rules σ where
  step := Step naming open_
  wreck := Wreck naming open_
  rest _ := .rest
  sound h hs := h.sound hs
  sound_of_wreck h hs := h.sound hs

variable {s t : Scene σ}

theorem Request.active_eq (h : Request naming s ws events t) : t.active = s.active := by
  cases h with
  | rest | quit => rfl
  | ask h => cases h <;> rfl

/-- Requests may be made by whoever is outside, and by nets that fire. -/
theorem Request.step (h : Request naming s ws events t) (hs : open_ ∨ s.Firing) :
    Step naming open_ s ws events t := by
  cases h with
  | rest => exact .rest
  | ask h => exact .ask hs h
  | quit h => exact .quit h

end Scene

namespace Rules

variable {σ τ α : Type} [NetBehaviour σ] [Transport τ] {s t : Scene σ} {l m : τ}
  {events : List TokenEvent}

theorem Path.active_eq (h : (Scene.requests naming).Path s l events t m) : t.active = s.active := by
  induction h with
  | nil => rfl
  | cons hstep _ _ ih => exact ih.trans (Scene.Request.active_eq hstep)

theorem Path.of_requests (h : (Scene.requests naming).Path s l events t m) (hs : open_ ∨ s.Firing) :
    (Scene.steps naming open_).Path s l events t m := by
  induction h with
  | nil => exact .nil
  | @cons s t _ _ _ _ _ _ _ hstep hw _ ih =>
    refine .cons (Scene.Request.step hstep hs) hw (ih ?_)
    simpa only [Scene.Firing, Scene.Request.active_eq hstep] using hs

theorem Follows.of_requests {refusals : Prop} {w : WorkerId} {hand : List (WorkItem σ)} {n : Node σ τ}
    {result : EStateM.Result Fault (Node σ τ) α}
    (h : (Scene.requests naming).Follows refusals w hand hand n events result)
    (hs : open_ ∨ (n.process.scene w hand).Firing) :
    (Scene.steps naming open_).Follows refusals w hand hand n events result := by
  rcases result with ⟨a, m⟩ | ⟨e | c, m⟩
  · exact Path.of_requests h hs
  · exact ⟨h.1, Path.of_requests h.2 hs⟩
  · obtain ⟨earlier, t, k, ws, hpath, hwreck, hw⟩ := h
    refine ⟨earlier, t, k, ws, Path.of_requests hpath hs, ?_, hw⟩
    generalize m.process.scene w [] = u at hwreck ⊢
    cases hwreck with
    | misfit howner hinsert hname hmade =>
      refine .misfit ?_ howner hinsert hname hmade
      simpa only [Scene.Firing, hpath.active_eq] using hs

end Rules

namespace Process

variable {σ : Type} (p : Process σ) (w : WorkerId) (hand : List (WorkItem σ))

theorem scene_posted (v : WorkerId) (item : WorkItem σ) :
    (p.posted v item).scene w hand = (p.scene w hand).post v item := rfl

end Process

namespace Node

open Rules Scene

variable {σ τ : Type} [Transport τ] {w : WorkerId} {hand : List (WorkItem σ)} {n : Node σ τ}
variable {template : Template σ}

/-! ## Sending -/

theorem forEachTarget_send (packet : Packet) (targets : List ProcessId) (n : Node σ τ) :
    ∃ results link ws,
      forEachTarget (send · packet) targets n = .ok results { n with link } ∧
      Wire.Broadcast packet targets ws ∧ Wired n.link ws link ∧
      (MulticastReport.mk results).delivered = ws.countP Wire.isSent ∧
      (MulticastReport.mk results).failures.length = ws.countP Wire.isRefused := by
  induction targets generalizing n with
  | nil => exact ⟨[], n.link, [], rfl, .nil, .nil, rfl, rfl⟩
  | cons target rest ih =>
    rcases hsend : Transport.send n.link target packet with ⟨e | _, link⟩
    · obtain ⟨results, link', ws, hrun, hcast, hwired, hdelivered, hfailures⟩ :=
        ih { n with link }
      refine ⟨(target, .error (.transport e)) :: results, link', .refused target packet :: ws, ?_,
        .refused hcast, .refused hsend hwired, ?_, ?_⟩
      · simp only [forEachTarget, bind_apply, attempt_apply, send_apply, hsend, hrun, pure_apply]
      · simp only [MulticastReport.delivered, MulticastReport.failures, List.filterMap_cons,
          List.length_cons, Wire.isSent, List.countP_cons] at hdelivered ⊢
        simpa using hdelivered
      · simpa [MulticastReport.failures, Wire.isRefused, List.countP_cons] using hfailures
    · obtain ⟨results, link', ws, hrun, hcast, hwired, hdelivered, hfailures⟩ :=
        ih { n with link }
      refine ⟨(target, .ok ()) :: results, link', .sent target packet :: ws, ?_,
        .sent hcast, .sent hsend hwired, ?_, ?_⟩
      · simp only [forEachTarget, bind_apply, attempt_apply, send_apply, hsend, hrun, pure_apply]
      · have hle : (MulticastReport.mk results).failures.length ≤ results.length :=
          List.length_filterMap_le ..
        simp only [MulticastReport.delivered, MulticastReport.failures, List.filterMap_cons,
          List.length_cons, Wire.isSent, List.countP_cons] at hdelivered hle ⊢
        simp only [if_true]
        omega
      · simpa [MulticastReport.failures, Wire.isRefused] using hfailures

theorem broadcastControl_apply (message : ControlMessage) (n : Node σ τ) :
    ∃ report link ws,
      broadcastControl message n = .ok report { n with
        link
        process := { n.process with
          termination := if message.isWork
            then n.process.termination.recordSent (ws.countP Wire.isSent)
            else n.process.termination } } ∧
      Wire.Broadcast (message.toPacket n.process.id) (n.process.id.peers n.process.processCount) ws ∧
      Wired n.link ws link ∧ report.failures.length = ws.countP Wire.isRefused := by
  obtain ⟨results, link, ws, hrun, hcast, hwired, hdelivered, hfailures⟩ :=
    forEachTarget_send (message.toPacket n.process.id)
      ((ProcessId.all n.process.processCount).filter fun t => t ≠ n.process.id ∧ some t ≠ none) n
  have hpeers : ((ProcessId.all n.process.processCount).filter fun t =>
      t ≠ n.process.id ∧ some t ≠ none) = n.process.id.peers n.process.processCount := by
    simp [ProcessId.peers]
  rw [hpeers] at hcast
  refine ⟨⟨results⟩, link, ws, ?_, hcast, hwired, hfailures⟩
  simp only [broadcastControl, broadcast, bind_apply, getProcess_apply, hrun, pure_apply]
  cases message.isWork
  · rfl
  · simp [bind_apply, hdelivered]

variable [NetBehaviour σ] {naming : Prop}

theorem sendTokens_follows (target : ProcessId) (parcel : Parcel)
    (hs : (n.process.scene w hand).Sound) :
    (requests naming).Follows True w hand hand n (sendEvents target parcel n)
      (sendTokens target parcel n) := by
  unfold sendEvents
  by_cases hlocal : target = n.process.id
  · rcases howner : n.process.registry.liveOwner? parcel.net with _ | owner
    · simp only [sendTokens, bind_apply, getProcess_apply, hlocal, if_true, howner, refuse_apply]
      exact .refusal
    · obtain ⟨slot, hslot, -, hslotOwner⟩ := Registry.liveOwner?_eq_some.mp howner
      have hworker : owner.index < n.process.inboxes.length :=
        hslotOwner ▸ hs.owner_valid _ _ hslot
      simp only [sendTokens, bind_apply, getProcess_apply, hlocal, if_true, howner, post_apply,
        hworker, tally_apply]
      exact .step (.ask (.sendLocal howner)) .nil
  · rcases hsend : Transport.send n.link target (.ofTokens n.process.id parcel) with ⟨e | _, link⟩
    · simp only [sendTokens, bind_apply, getProcess_apply, hlocal, if_false, attempt_apply,
        send_apply, hsend, tallyTransportErrors, tally_apply, refuse_apply]
      exact ⟨trivial, .single (.ask (.sendRefused hlocal)) (.refused hsend .nil)⟩
    · simp only [sendTokens, bind_apply, getProcess_apply, hlocal, if_false, attempt_apply,
        send_apply, hsend, recordSent_apply, tally_apply]
      exact .step (.ask (.sendRemote hlocal)) (.sent hsend .nil)

/-- A multicast follows the steps, one send after the other. -/
theorem multicast_follows (targets : List ProcessId) (parcel : Parcel)
    (hs : (n.process.scene w hand).Sound) :
    (requests naming).Follows False w hand hand n (multicastEvents parcel targets.eraseDups n)
      (multicast targets parcel n) := by
  have each : ∀ (targets : List ProcessId) (n : Node σ τ), (n.process.scene w hand).Sound →
      (requests naming).Follows False w hand hand n (multicastEvents parcel targets n)
        (forEachTarget (sendTokens · parcel) targets n) := by
    intro targets
    induction targets with
    | nil => exact fun n _ => .silent rfl rfl
    | cons target rest ih =>
      intro n hs
      refine .bind hs (.attempt (sendTokens_follows target parcel hs)) fun _ m _ hm => ?_
      exact .bind_quiet hm (ih m hm) fun _ _ _ _ => .silent rfl rfl
  exact .bind_quiet hs (each _ n hs) fun _ _ _ _ => .silent rfl rfl

/-! ## Making nets -/

variable {R : Rules σ} {ids : IdSource} {registry : Registry} {requester : WorkerId} {slot : Slot}

omit [NetBehaviour σ] in
theorem checkWorker_follows (v : WorkerId) :
    R.Follows True w hand hand n [] (checkWorker v n) := by
  rw [checkWorker_apply]
  split
  · exact .silent rfl rfl
  · exact .refusal

omit [NetBehaviour σ] in
theorem getTemplate_follows (index : Nat) :
    R.Follows True w hand hand n [] (getTemplate index n) := by
  rw [getTemplate_apply]
  cases n.process.templates[index]?
  · exact .refusal
  · exact .silent rfl rfl

/-- Make a net of a name that is settled. -/
def spawnNamed (owner : WorkerId) (template : Template σ) (index : Nat) (parent : Option NetId)
    (isGlobal : Bool) (net : NetId) : NodeM σ τ NetId := do
  let made ← createInstance owner template index net parent isGlobal
  let p ← getProcess
  if isGlobal ∧ 1 < p.processCount then
    let report ← broadcastControl (.spawned net (UInt32.ofNat index) parent p.id)
    tallyTransportErrors report.failures.length
  post owner (.adopt made)
  return net

theorem spawn_eq (owner : WorkerId) (index : Nat) (requested parent : Option NetId)
    (isGlobal : Bool) :
    (spawn owner index requested parent isGlobal : NodeM σ τ NetId) =
      checkWorker owner >>= fun _ => getTemplate index >>= fun template =>
        match requested with
        | some net => spawnNamed owner template index parent isGlobal net
        | none => drawId >>= spawnNamed owner template index parent isGlobal := by
  cases requested <;> rfl

theorem spawn_local (net : NetId) (howner : owner.index < n.process.inboxes.length)
    (htemplate : n.process.templates[index]? = some template)
    (hdraw : n.process.ids.draw = .ok (net, ids)) (hretired : n.process.registry.isRetired net = false)
    (hslot : n.process.registry.slot? net = none) (hid : NetBehaviour.id (template.create
      ⟨net, index, parent, n.process.id, n.process.processCount, false⟩) = net) :
    spawn owner index none parent false n = .ok net { n with
      process := Process.posted { n.process with
        ids
        registry := n.process.registry.setSlot net ⟨index, owner, parent, false, .spawned, 0⟩
        stats := { n.process.stats with netsSpawned := n.process.stats.netsSpawned + 1 } } owner
        (.adopt (template.create
          ⟨net, index, parent, n.process.id, n.process.processCount, false⟩)) } := by
  have hinsert : n.process.registry.insert net index owner parent false =
      .ok (n.process.registry.setSlot net ⟨index, owner, parent, false, .spawned, 0⟩) := by
    simp [Registry.insert, hretired, hslot]
  simp [-bind_pure_comp, spawn_eq, spawnNamed, bind_apply, checkWorker_apply, howner,
    getTemplate_apply, htemplate, drawId_apply, hdraw, createInstance_apply, hinsert, hid, post_apply]

theorem spawnNamed_apply (howner : owner.index < n.process.inboxes.length)
    (hinsert : n.process.registry.insert net index owner parent isGlobal = .ok registry)
    (hid : NetBehaviour.id (template.create
      ⟨net, index, parent, n.process.id, n.process.processCount, isGlobal⟩) = net) :
    ∃ m ws, spawnNamed owner template index parent isGlobal net n = .ok net m ∧
      (if isGlobal ∧ 1 < n.process.processCount then
        Wire.Broadcast ((ControlMessage.spawned net (UInt32.ofNat index) parent
          n.process.id).toPacket n.process.id) (n.process.id.peers n.process.processCount) ws
      else ws = []) ∧ Wired n.link ws m.link ∧
      ∀ w hand, m.process.scene w hand = (((n.process.scene w hand).setRegistry registry).setTermination
        (n.process.termination.recordSent (ws.countP Wire.isSent))).post owner (.adopt (template.create
          ⟨net, index, parent, n.process.id, n.process.processCount, isGlobal⟩)) := by
  simp only [spawnNamed, bind_apply, createInstance_apply, hinsert, hid, if_true, getProcess_apply]
  by_cases hglobal : isGlobal ∧ 1 < n.process.processCount
  · obtain ⟨report, link, ws, hrun, hcast, hwired, -⟩ := broadcastControl_apply
      (.spawned net (UInt32.ofNat index) parent n.process.id)
      { n with process := { n.process with
        registry, stats := { n.process.stats with
          netsSpawned := n.process.stats.netsSpawned + 1 } } }
    rw [if_pos hglobal, bind_apply, hrun]
    simp only [tallyTransportErrors, tally_apply, bind_apply, post_apply, howner, if_true]
    exact ⟨_, ws, rfl, (if_pos hglobal).mpr hcast, hwired, fun _ _ => rfl⟩
  · simp only [hglobal, if_false, bind_apply, post_apply, howner, if_true]
    exact ⟨_, [], rfl, rfl, .nil, fun _ _ => rfl⟩

/-- Getting a name and making the net is one step. If the net cannot be made, the name is lost. -/
theorem spawnNamed_follows (howner : owner.index < n.process.inboxes.length)
    (htemplate : template ∈ n.process.templates) (hname : n.process.ids.Allots naming net ids) :
    (requests naming).Follows True w hand hand n []
      (spawnNamed owner template index parent isGlobal net
        { n with process := { n.process with ids } }) := by
  have hscene : (n.process.scene w hand).HasWorker owner := howner
  rcases hinsert : n.process.registry.insert net index owner parent isGlobal with e | registry
  · simp only [spawnNamed, bind_apply, createInstance_apply, hinsert]
    refine ⟨trivial, ?_⟩
    cases hname with
    | drawn hdraw => exact .single (.ask (.draw hdraw)) .nil
    | chosen => exact .nil
  · by_cases hid : NetBehaviour.id (template.create
        ⟨net, index, parent, n.process.id, n.process.processCount, isGlobal⟩) = net
    · obtain ⟨m, ws, hrun, hcast, hwired, hm⟩ := spawnNamed_apply
        (n := { n with process := { n.process with ids } }) howner hinsert hid
      rw [hrun]
      exact .step (hm w hand ▸ .ask (.spawn hscene hinsert hid hcast hname)) hwired
    · simp only [spawnNamed, bind_apply, createInstance_apply, hinsert, hid, if_false]
      exact ⟨[], _, _, [], .nil, .misfit howner hinsert hname ⟨template, htemplate, _, hid⟩, .nil⟩

theorem spawn_follows (owner : WorkerId) (index : Nat) (requested parent : Option NetId)
    (isGlobal : Bool) (hnaming : requested.isSome = true → naming)
    (hs : (n.process.scene w hand).Sound) :
    (requests naming).Follows True w hand hand n [] (spawn owner index requested parent isGlobal n) := by
  rw [spawn_eq]
  refine .bind_quiet hs (checkWorker_follows owner) fun _ m hm hms => ?_
  obtain ⟨howner, rfl⟩ := checkWorker_eq_ok hm
  refine .bind_quiet hms (getTemplate_follows index) fun template k hk hks => ?_
  obtain ⟨htemplate, rfl⟩ := getTemplate_eq_ok hk
  cases requested with
  | some net => exact spawnNamed_follows howner htemplate (.chosen (hnaming rfl))
  | none =>
    simp only [bind_apply, drawId_apply]
    rcases hdraw : k.process.ids.draw with e | ⟨net, ids⟩
    · exact .refusal
    · exact spawnNamed_follows howner htemplate (.drawn hdraw)

theorem spawnInitial_follows (index : Nat) (hs : (n.process.scene w hand).Sound) :
    (requests naming).Follows True w hand hand n [] (spawnInitial index n) := by
  simp only [spawnInitial, bind_apply, getProcess_apply]
  by_cases h : n.process.id.raw = 0
  · simp only [h, if_true]
    exact .bind_quiet hs (spawn_follows _ _ _ _ _ (by simp) hs) fun _ _ _ _ => .silent rfl rfl
  · simp only [h, if_false]
    exact .silent rfl rfl

/-! ## Asking for a halt, and for the end -/

omit [Transport τ] [NetBehaviour σ] in
theorem beginHalt_started (hs : (n.process.scene w hand).Sound)
    (h : n.process.registry.beginHalt net = .ok (.started owner isGlobal, registry)) :
    owner.index < n.process.inboxes.length := by
  obtain ⟨slot, hslot, rfl, -⟩ := Registry.beginHalt_eq_started h
  exact hs.owner_valid _ _ hslot

/-- The first phase of a halt: the slot starts halting and its owner is told, or there is nothing to
halt. -/
theorem halt_follows (requester : WorkerId) (net : NetId)
    (hs : (n.process.scene w hand).Sound) :
    (requests naming).Follows True w hand hand n [] (halt requester net n) := by
  refine .bind_quiet hs (checkWorker_follows requester) fun _ m hm hms => ?_
  obtain ⟨-, rfl⟩ := checkWorker_eq_ok hm
  simp only [bind_apply, takeObligation_apply, attempt_apply, withRegistry_apply]
  rcases h : m.process.registry.beginHalt net with e | ⟨⟨owner, isGlobal⟩ | _, registry⟩
  · simp only [bind_apply, completeObligation_apply, Nat.add_eq_zero_iff, Nat.one_ne_zero,
      and_false, if_false, refuse_apply]
    exact .refusal
  · have howner := beginHalt_started hms h
    simp only [postCounted_apply, howner]
    exact .step (.ask (.halt h)) .nil
  · obtain rfl := Registry.beginHalt_eq_alreadyHalting h
    simp only [completeObligation_apply, Nat.add_eq_zero_iff, Nat.one_ne_zero, and_false, if_false]
    exact .silent rfl rfl

section

variable (hrequester : requester.index < n.process.inboxes.length)
  (hretired : n.process.registry.isRetired net = false)
  (hslot : n.process.registry.slot? net = some slot) (hlive : slot.state.isLive = true)
  (howner : slot.owner.index < n.process.inboxes.length)

include hrequester hretired hslot hlive howner

omit [Transport τ] [NetBehaviour σ]

theorem halt_apply :
    ∃ m, halt requester net n = .ok () m ∧ m.link = n.link ∧ ∀ w hand, m.process.scene w hand =
      ((n.process.scene w hand).setRegistry (n.process.registry.setSlot net
        { slot with state := .halting })).post slot.owner (.halt net none) := by
  have hbegin : n.process.registry.beginHalt net = .ok (.started slot.owner slot.isGlobal,
      n.process.registry.setSlot net { slot with state := .halting }) := by
    simp [Registry.beginHalt, hretired, hslot, hlive]
  simp only [halt, bind_apply, checkWorker_apply, hrequester, if_true, takeObligation_apply,
    attempt_apply, withRegistry_apply, hbegin, postCounted_apply, howner]
  exact ⟨_, rfl, rfl, fun _ _ => rfl⟩

end

omit [NetBehaviour σ] in
theorem quitAll_farewell (w : WorkerId) (hand : List (WorkItem σ)) (n : Node σ τ) :
    ∃ link ws, quitAll n = .ok () { n with
        link, process := { n.process with quitSent := true, quitting := true } } ∧
      (n.process.scene w hand).Farewell ws ∧ Wired n.link ws link := by
  simp only [quitAll, bind_apply, getProcess_apply, modifyProcess_apply]
  cases hsent : n.process.quitSent
  · obtain ⟨report, link, ws, hrun, hcast, hwired, -⟩ := broadcastControl_apply
      (.quit n.process.id) { n with process := { n.process with quitSent := true } }
    refine ⟨link, ws, ?_, ?_, hwired⟩
    · rw [if_neg Bool.false_ne_true, bind_apply, hrun]
      rfl
    · unfold Farewell
      exact (if_neg (by simp [Process.scene, hsent])).mpr hcast
  · exact ⟨n.link, [], rfl, (if_pos hsent).mpr rfl, .nil⟩

theorem quitAll_follows : (requests naming).Follows False w hand hand n [] (quitAll n) := by
  obtain ⟨link, ws, hrun, hfarewell, hwired⟩ := quitAll_farewell w hand n
  rw [hrun]
  exact .step (.quit hfarewell) hwired

end Node

end PetriCluster
