import PetriCluster.Proofs.Commands

/-!
# Whatever is done to one process

An errand is a command together with what the process finds when it carries the command out: its end
of the transport, the files and the time. Nothing is asked of these, so errands take any peers and any
transport.
-/

namespace PetriCluster

/-- A command, and what a process works on when it carries the command out. -/
structure Errand (σ τ : Type) where
  command : Command σ
  link : τ
  storage : Storage
  now : Nat

namespace Process

variable {σ τ : Type} [NetBehaviour σ] [Transport τ]

/-- The process after an errand, however it ends. -/
def after (p : Process σ) (errand : Errand σ τ) : Process σ :=
  (Node.final (errand.command.run ⟨p, errand.link, errand.storage, errand.now⟩)).process

/-- The process after errands, as long as none of them crashes. -/
def pursue? (p : Process σ) : List (Errand σ τ) → Option (Process σ)
  | [] => some p
  | errand :: rest =>
    match Node.after? errand.command.run ⟨p, errand.link, errand.storage, errand.now⟩ with
    | some n => n.process.pursue? rest
    | none => none

/-- What every errand keeps holds after all of them. -/
theorem foldl_after {I : Process σ → Prop} {errands : List (Errand σ τ)}
    (hstep : ∀ {p : Process σ}, ∀ errand ∈ errands, I p → I (p.after errand)) {p : Process σ}
    (hp : I p) : I (errands.foldl after p) := by
  induction errands generalizing p with
  | nil => exact hp
  | cons errand rest ih =>
    exact ih (fun e he => hstep e (List.mem_cons_of_mem _ he)) (hstep errand (List.mem_cons_self ..) hp)

/-- What every errand keeps that does not crash holds after all of them. -/
theorem pursue?_keeps {I : Process σ → Prop} {errands : List (Errand σ τ)}
    (hstep : ∀ {p : Process σ} {m : Node σ τ}, ∀ errand ∈ errands,
      Node.after? errand.command.run ⟨p, errand.link, errand.storage, errand.now⟩ = some m →
      I p → I m.process)
    {p q : Process σ} (h : p.pursue? errands = some q) (hp : I p) : I q := by
  induction errands generalizing p with
  | nil =>
    cases h
    exact hp
  | cons errand rest ih =>
    rw [pursue?] at h
    split at h
    · rename_i m hm
      have hfirst := hstep errand (List.mem_cons_self ..) hm hp
      exact ih (fun e he => hstep e (List.mem_cons_of_mem _ he)) h hfirst
    · cases h

end Process

/-! ## What does not change at the front -/

section Fronts

variable {σ τ : Type} [NetBehaviour σ] [Transport τ] {I : Front σ → Prop}
  (hshift : ∀ {f ws g}, I f → f.Shift (fun _ => True) ws g → I g)
  (hacts : ∀ {f o made spent ws g}, I f → f.Acts (fun _ => True) o made spent ws g → I g)

include hshift hacts

/-- What shifts and acts keep holds along a course. -/
theorem Course.keeps {f g : Front σ} {l k : τ} {ms : List (Moment σ τ)}
    (h : Course (fun _ => True) (fun _ => True) f l ms g k) (hf : I f) : I g := by
  induction h with
  | nil => exact hf
  | shift hfirst _ _ ih => exact ih (hshift hf hfirst)
  | moment _ hfirst _ _ _ ihinner ih => exact ih (ihinner (hacts hf hfirst))

theorem Process.front_after {p : Process σ} (hp : I p.front) (errand : Errand σ τ) :
    I (p.after errand).front := by
  let node : Node σ τ := ⟨p, errand.link, errand.storage, errand.now⟩
  change I (Node.final (errand.command.run node)).process.front
  cases hcommand : errand.command with
  | broadcast packet exclude =>
    obtain ⟨report, link, -, -, hrun, -⟩ := Node.broadcast_apply packet exclude node
    simp only [Command.run, Node.bind_apply, hrun]
    exact hp
  | consume message =>
    obtain ⟨g, hheeds, hcourse⟩ := Node.handleControl_heeds (fun _ => True) (fun _ => True) message node
    have hdecode := Packet.message?_eq_some.mp (Packet.message?_toPacket message ⟨0⟩)
    exact hcourse.keeps hshift hacts (hacts hp (.message hdecode hheeds))
  | shutdown => exact hp
  | _ =>
    have hruns : Node.Runs (fun _ => True) (fun _ => True) node (errand.command.moments node)
        (errand.command.run node) :=
      errand.command.runs (fun _ _ => trivial) (fun _ _ => trivial) (by simp [hcommand, Command.isByHand])
        (by simp [hcommand])
    rw [hcommand] at hruns
    exact hruns.keeps hshift hacts hp

end Fronts

end PetriCluster
