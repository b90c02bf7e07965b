import PetriCluster.Proofs.Extinction

/-!
# The supply of names to its end

A process draws its names in order and stops at the end of 32 bits: it gives out `process`, `process +
count`, `process + 2 * count` and so on, without a gap, as long as the next name and the number of
names drawn both fit.
-/

namespace PetriCluster

namespace IdSource

/-- The supply after a number of draws. A draw that is refused leaves it as it is. -/
def after (s : IdSource) : Nat → IdSource
  | 0 => s
  | n + 1 =>
    match (s.after n).draw with
    | .ok (_, t) => t
    | .error _ => s.after n

/-- What the draw of the given number comes to, the first one being number zero. -/
def outcome (s : IdSource) (n : Nat) : Except RuntimeError NetId :=
  (s.after n).draw.map Prod.fst

/-- How many of the first `n` draws give a name. -/
def successes (s : IdSource) (n : Nat) : Nat :=
  (List.range n).countP fun j => (s.outcome j).isOk

/-- The next name fits into 32 bits, and so does the number of names drawn with it. -/
def HasRoom (s : IdSource) : Prop :=
  s.drawn * s.count + s.process ≤ 2 ^ 32 - 1 ∧ s.drawn < 2 ^ 32 - 1

variable {s : IdSource} {net : NetId} {n m : Nat}

theorem draw_of_full (h : ¬s.HasRoom) : s.draw = .error .idSpaceExhausted := by
  unfold HasRoom at h
  unfold draw wordSize
  exact if_pos (by omega)

theorem draw_of_room (h : s.HasRoom) : ∃ net, s.draw = .ok (net, { s with drawn := s.drawn + 1 }) ∧
    net.index = s.drawn * s.count + s.process := by
  have hfits : ¬(wordSize ≤ s.drawn * s.count + s.process ∨ wordSize ≤ s.drawn + 1) := by
    unfold HasRoom at h
    unfold wordSize
    omega
  have hdraw : s.draw = .ok (⟨UInt32.ofNat (s.drawn * s.count + s.process)⟩,
      { s with drawn := s.drawn + 1 }) := by
    unfold draw
    exact if_neg hfits
  refine ⟨_, hdraw, ?_⟩
  rw [(draw_eq_ok hdraw).1, Nat.mul_comm]

theorem mainProcess_of_draw {t : IdSource} {process : ProcessId} (h : s.draw = .ok (net, t))
    (hprocess : s.process = process.index) (hplace : s.process < s.count) :
    net.mainProcess s.count = process := by
  have hmod := mod_of_draw h hplace
  apply ProcessId.index_inj
  rw [NetId.mainProcess, Nat.max_eq_left (by omega), hmod, hprocess, ProcessId.ofIndex,
    ProcessId.index, ProcessId.index, UInt32.ofNat_toNat]

theorem successes_succ (s : IdSource) (n : Nat) :
    s.successes (n + 1) = s.successes n + (s.outcome n).isOk.toNat := by
  rw [successes, List.range_succ, List.countP_append, List.countP_singleton, successes]
  cases (s.outcome n).isOk <;> rfl

theorem after_eq (hs : s.drawn = 0) (n : Nat) : s.after n = { s with drawn := s.successes n } := by
  induction n with
  | zero =>
    rw [after, successes, List.range_zero, List.countP_nil, ← hs]
  | succ n ih =>
    rw [successes_succ, after, outcome, ih]
    by_cases hroom : HasRoom { s with drawn := s.successes n }
    · obtain ⟨net, hdraw, -⟩ := draw_of_room hroom
      rw [hdraw]
      rfl
    · rw [draw_of_full hroom]
      rfl

theorem after_succ_of_full (h : ¬(s.after n).HasRoom) : s.after (n + 1) = s.after n := by
  rw [after, draw_of_full h]

theorem after_of_full (h : ¬(s.after n).HasRoom) (hle : n ≤ m) : s.after m = s.after n := by
  induction m, hle using Nat.le_induction with
  | base => rfl
  | succ m _ ih => rw [after_succ_of_full (ih ▸ h), ih]

theorem outcome_of_full (h : ¬(s.after n).HasRoom) (hle : n ≤ m) :
    s.outcome m = .error .idSpaceExhausted := by
  rw [outcome, after_of_full h hle, draw_of_full h]
  rfl

theorem outcome_eq_ok (h : s.outcome n = .ok net) :
    (s.after n).HasRoom ∧ net.index = (s.after n).drawn * (s.after n).count + (s.after n).process := by
  by_cases hroom : (s.after n).HasRoom
  · obtain ⟨drawn, hdraw, hindex⟩ := draw_of_room hroom
    rw [outcome, hdraw] at h
    cases h
    exact ⟨hroom, hindex⟩
  · rw [outcome_of_full hroom (Nat.le_refl n)] at h
    cases h

theorem successes_lt (h : s.outcome m = .ok net) (hlt : m < n) : s.successes m < s.successes n := by
  have hstep : s.successes (m + 1) = s.successes m + 1 := by
    rw [successes_succ, h]
    rfl
  have hmono : s.successes (m + 1) ≤ s.successes n :=
    List.Sublist.countP_le (List.range_sublist.mpr hlt)
  omega

theorem index_lt_of_outcome {net' : NetId} (hs : s.drawn = 0) (hcount : 0 < s.count) (hlt : m < n)
    (h : s.outcome m = .ok net) (h' : s.outcome n = .ok net') : net.index < net'.index := by
  have hfewer := successes_lt h hlt
  rw [(outcome_eq_ok h).2, (outcome_eq_ok h').2, after_eq hs, after_eq hs]
  exact Nat.add_lt_add_right (Nat.mul_lt_mul_of_pos_right hfewer hcount) _

/-- Names are given out exactly to the end of 32 bits. Every process of a cluster has its supply, and of
its draws each one succeeds if and only if the name that is next and the number of names both fit. It is
the name that the number of earlier successes calls for, and tells the process. A draw that is refused
leaves the supply as it is, and so all draws after it are refused. No name is given out twice. -/
theorem names_are_exact_to_the_end (process : ProcessId) (count : Nat)
    (hplace : process.index < count) (hcount : count ≤ 2 ^ 32 - 1) :
    ∃ s, create process count = .ok s ∧ ∀ n,
      (s.after n).drawn = s.successes n ∧
      (s.successes n * count + process.index ≤ 2 ^ 32 - 1 ∧ s.successes n < 2 ^ 32 - 1 →
        ∃ net, s.outcome n = .ok net ∧ net.index = s.successes n * count + process.index ∧
          net.mainProcess count = process) ∧
      (¬(s.successes n * count + process.index ≤ 2 ^ 32 - 1 ∧ s.successes n < 2 ^ 32 - 1) →
        s.after (n + 1) = s.after n ∧
          ∀ later, n ≤ later → s.outcome later = .error .idSpaceExhausted) ∧
      ∀ earlier net, earlier < n → s.outcome earlier = .ok net → s.outcome n ≠ .ok net := by
  refine ⟨⟨process.index, count, 0⟩, ?_, fun n => ?_⟩
  · unfold create wordSize
    rw [if_neg (by omega), if_neg (by omega)]
  · set s : IdSource := ⟨process.index, count, 0⟩
    have hafter : s.after n = ⟨process.index, count, s.successes n⟩ := after_eq rfl n
    refine ⟨by rw [hafter], fun hroom => ?_, fun hfull => ?_, fun earlier net hlt hearlier hagain => ?_⟩
    · obtain ⟨net, hdraw, hindex⟩ := draw_of_room (s := s.after n) (by rw [hafter]; exact hroom)
      refine ⟨net, by rw [outcome, hdraw]; rfl, by rw [hindex, hafter], ?_⟩
      rw [hafter] at hdraw
      exact mainProcess_of_draw hdraw rfl hplace
    · have hfull : ¬(s.after n).HasRoom := by rw [hafter]; exact hfull
      exact ⟨after_succ_of_full hfull, fun later hle => outcome_of_full hfull hle⟩
    · exact Nat.lt_irrefl _
        (index_lt_of_outcome rfl (Nat.zero_lt_of_lt hplace) hlt hearlier hagain)

/-- The last process of the largest cluster has one name. -/
theorem names_of_the_last_process :
    ∃ s, create ⟨4294967294⟩ 4294967295 = .ok s ∧
      (∃ net, s.outcome 0 = .ok net ∧ net.index = 4294967294) ∧
      ∀ later, 1 ≤ later → s.outcome later = .error .idSpaceExhausted := by
  have hlast : (⟨4294967294⟩ : ProcessId).index = 4294967294 := rfl
  obtain ⟨s, hcreate, hdraws⟩ :=
    names_are_exact_to_the_end ⟨4294967294⟩ 4294967295 (by omega) (by omega)
  have hzero : s.successes 0 = 0 := rfl
  obtain ⟨-, hfirst, -⟩ := hdraws 0
  obtain ⟨net, hnet, hindex, -⟩ := hfirst (by omega)
  have hone : s.successes 1 = 1 := by
    rw [successes_succ, hzero, hnet]
    rfl
  obtain ⟨-, -, hsecond, -⟩ := hdraws 1
  exact ⟨s, hcreate, ⟨net, hnet, by omega⟩, (hsecond (by omega)).2⟩

end IdSource

end PetriCluster
