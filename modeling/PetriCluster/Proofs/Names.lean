import PetriCluster.Net.Catalogue
import PetriCluster.Proofs.Scene

/-!
# Nets keep their names

The runtime files an instance under the name it was made for, so an instance has to keep its name
whatever it takes in and however it fires. A type of nets is lawful if its instances do; all nets of
the catalogue are.
-/

namespace PetriCluster

variable {context : FireContext}

/-- Instances keep their names: what an instance becomes by taking tokens in or by a firing has the
name it had. -/
class LawfulNet (σ : Type) [NetBehaviour σ] : Prop where
  id_receive (s : σ) (place : Place) (batch : TokenBatch) :
    NetBehaviour.id (NetBehaviour.receive s place batch).state = NetBehaviour.id s
  id_fire {s after : σ} {context : FireContext} {transition : TransitionIndex} :
    (NetBehaviour.fire s context transition).Ends after → NetBehaviour.id after = NetBehaviour.id s

theorem Reception.state_map {σ ρ : Type} (f : σ → ρ) (r : Reception σ) :
    (r.map f).state = f r.state := by
  cases r <;> rfl

theorem Firing.Ends.of_map {σ ρ : Type} {f : σ → ρ} {firing : Firing σ} {after : ρ}
    (h : (firing.map f).Ends after) : ∃ s, firing.Ends s ∧ after = f s := by
  induction firing with
  | fired s =>
    cases h
    exact ⟨s, .fired s, rfl⟩
  | notEnabled s =>
    cases h
    exact ⟨s, .notEnabled s, rfl⟩
  | failed s e =>
    cases h
    exact ⟨s, .failed s e, rfl⟩
  | crashed s c =>
    cases h
    exact ⟨s, .crashed s c, rfl⟩
  | send target parcel next ih =>
    cases h with | send r h => exact (ih r h).imp fun _ hs => ⟨.send r hs.1, hs.2⟩
  | multicast targets parcel next ih =>
    cases h with | multicast r h => exact (ih r h).imp fun _ hs => ⟨.multicast r hs.1, hs.2⟩
  | spawn template isGlobal next ih =>
    cases h with | spawn r h => exact (ih r h).imp fun _ hs => ⟨.spawn r hs.1, hs.2⟩
  | halt next ih =>
    cases h with | halt r h => exact (ih r h).imp fun _ hs => ⟨.halt r hs.1, hs.2⟩
  | haltNet net next ih =>
    cases h with | haltNet r h => exact (ih r h).imp fun _ hs => ⟨.haltNet r hs.1, hs.2⟩
  | quit next ih =>
    cases h with | quit h => exact (ih h).imp fun _ hs => ⟨.quit hs.1, hs.2⟩

instance {α β : Type} [NetBehaviour α] [NetBehaviour β] [LawfulNet α] [LawfulNet β] :
    LawfulNet (α ⊕ β) where
  id_receive s place batch := by
    cases s with
    | inl a => exact (congrArg _ (Reception.state_map ..)).trans (LawfulNet.id_receive a place batch)
    | inr b => exact (congrArg _ (Reception.state_map ..)).trans (LawfulNet.id_receive b place batch)
  id_fire {s after context transition} h := by
    cases s with
    | inl a =>
      obtain ⟨t, ht, rfl⟩ := Firing.Ends.of_map h
      have hid := LawfulNet.id_fire ht
      exact hid
    | inr b =>
      obtain ⟨t, ht, rfl⟩ := Firing.Ends.of_map h
      have hid := LawfulNet.id_fire ht
      exact hid

instance : LawfulNet Bare where
  id_receive _ _ _ := rfl
  id_fire h := by
    cases h
    rfl

namespace Ring

theorem id_receive (r : Ring) (place : Place) (batch : TokenBatch) :
    (r.receive place batch).state.id = r.id := by
  unfold receive
  split
  · rfl
  · split <;> rfl

theorem id_fire {r after : Ring} (h : (r.fire context).Ends after) : after.id = r.id := by
  unfold fire at h
  split at h
  · cases h
    rfl
  · dsimp only at h
    split at h
    · cases h with
      | halt result h => cases result <;> cases h <;> rfl
    · cases h with
      | send result h => cases result <;> cases h <;> rfl

instance : LawfulNet Ring := ⟨id_receive, id_fire⟩

end Ring

namespace Broadcast

theorem id_receive (b : Broadcast) (place : Place) (batch : TokenBatch) :
    (b.receive place batch).state.id = b.id := by
  unfold receive
  split
  · rfl
  · split <;> rfl

variable {after b : Broadcast}

theorem id_emit (h : (b.emit context).Ends after) : after.id = b.id := by
  unfold emit at h
  split at h
  · cases h with
    | multicast report h =>
      dsimp only at h
      split at h <;> cases h <;> rfl
  · cases h
    rfl

theorem id_consume (h : b.consume.Ends after) : after.id = b.id := by
  unfold consume at h
  split at h
  · dsimp only at h
    split at h <;> cases h <;> rfl
  · cases h
    rfl

theorem id_finish (h : b.finish.Ends after) : after.id = b.id := by
  unfold finish at h
  split at h
  · cases h with
    | halt result h => cases result <;> cases h <;> rfl
  · cases h
    rfl

theorem id_fire {transition : TransitionIndex} (h : (b.fire context transition).Ends after) :
    after.id = b.id := by
  unfold fire at h
  split at h
  · exact id_emit h
  · split at h
    · exact id_consume h
    · split at h
      · exact id_finish h
      · cases h
        rfl

instance : LawfulNet Broadcast := ⟨id_receive, id_fire⟩

end Broadcast

namespace Script

theorem id_receive (s : Script) (place : Place) (batch : TokenBatch) :
    (s.receive place batch).state.id = s.id := by
  unfold receive
  dsimp only
  split
  · rfl
  · split <;> rfl

variable {after s : Script}

theorem id_proceed {strict : Bool} {result : Except RuntimeError Json} {next : Script → Firing Script}
    (hnext : ∀ {t}, (next t).Ends after → after.id = t.id)
    (h : (s.proceed strict result next).Ends after) : after.id = s.id := by
  unfold proceed at h
  split at h
  · have hid := hnext h
    exact hid
  · split at h
    · cases h
      rfl
    · have hid := hnext h
      exact hid

theorem id_perform {strict : Bool} {finish : Script → Script} (hfinish : ∀ s, (finish s).id = s.id)
    (actions : List Action) (h : (perform strict context finish actions s).Ends after) :
    after.id = s.id := by
  induction actions generalizing s with
  | nil =>
    cases h
    exact hfinish s
  | cons action rest ih =>
    have hrest {t : Script} {result : Except RuntimeError Json}
        (h : (t.proceed strict result (perform strict context finish rest)).Ends after) :
        after.id = t.id := id_proceed ih h
    cases action with
    | send target net place batch =>
      simp only [perform] at h
      split at h
      · cases h with | send r h => exact hrest h
      · exact hrest h
    | multicast targets net place batch =>
      simp only [perform] at h
      split at h
      · cases h with | multicast r h => exact hrest h
      · exact hrest h
    | spawn template isGlobal =>
      cases h with
      | spawn r h =>
        cases r with
        | ok net =>
          have hid := hrest (t := { s with child := some net }) h
          exact hid
        | error e => exact hrest h
    | halt => cases h with | halt r h => exact hrest h
    | haltNet net =>
      simp only [perform] at h
      split at h
      · cases h with | haltNet r h => exact hrest h
      · exact hrest h
    | quit => cases h with | quit h => exact hrest h
    | info | fail | unknown =>
      simp only [perform] at h
      exact hrest h
    | breakDown =>
      cases h
      rfl

theorem id_fire {transition : TransitionIndex} (h : (s.fire context transition).Ends after) :
    after.id = s.id := by
  unfold fire at h
  split at h
  · split at h
    · split at h
      · have hid := id_perform ?_ _ h
        · exact hid
        · exact fun _ => rfl
      · cases h
        rfl
    · cases h
      rfl
  · cases h
    rfl

instance : LawfulNet Script := ⟨id_receive, id_fire⟩

end Script

end PetriCluster
