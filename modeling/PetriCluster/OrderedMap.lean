/-!
# Finite maps ordered by key

Nets, processes, workers and places are all known by a number, and every listing of them goes in
ascending order of that number. An `OrderedMap` is an association list kept in that order, so that
its entries can be listed as they stand.
-/

namespace PetriCluster

/-- A type whose values are told apart, and ordered, by a number. -/
class Numbered (κ : Type) where
  number : κ → Nat
  number_inj : ∀ {a b : κ}, number a = number b → a = b

export Numbered (number)

instance : Numbered UInt32 where
  number n := n.toNat
  number_inj := UInt32.toNat_inj.mp

instance : Numbered Nat where
  number n := n
  number_inj h := h

/-- A finite map whose entries are listed in ascending order of their keys. -/
structure OrderedMap (κ υ : Type) [Numbered κ] where
  entries : List (κ × υ)
  ordered : entries.Pairwise fun a b => number a.1 < number b.1

namespace OrderedMap

variable {κ υ : Type} [Numbered κ]

/-- The value of the first entry with the given key. -/
def lookup (k : κ) : List (κ × υ) → Option υ
  | [] => none
  | e :: rest => if number e.1 = number k then some e.2 else lookup k rest

/-- Put an entry at its place in an ascending list, in place of one with the same key. -/
def place (k : κ) (v : υ) : List (κ × υ) → List (κ × υ)
  | [] => [(k, v)]
  | e :: rest =>
    if number k < number e.1 then (k, v) :: e :: rest
    else if number e.1 < number k then e :: place k v rest
    else (k, v) :: rest

theorem mem_of_mem_place {k : κ} {v : υ} {l : List (κ × υ)} {x : κ × υ}
    (h : x ∈ place k v l) : x = (k, v) ∨ x ∈ l := by
  induction l with
  | nil => exact .inl (by simpa [place] using h)
  | cons e rest ih =>
    unfold place at h
    split at h
    · simpa using h
    · split at h
      · rcases List.mem_cons.mp h with rfl | h
        · exact .inr (by simp)
        · exact (ih h).imp id (List.mem_cons_of_mem _)
      · rcases List.mem_cons.mp h with rfl | h
        · exact .inl rfl
        · exact .inr (List.mem_cons_of_mem _ h)

theorem pairwise_place (k : κ) (v : υ) {l : List (κ × υ)}
    (h : l.Pairwise fun a b => number a.1 < number b.1) :
    (place k v l).Pairwise fun a b => number a.1 < number b.1 := by
  induction l with
  | nil => simp [place]
  | cons e rest ih =>
    obtain ⟨he, hrest⟩ := List.pairwise_cons.mp h
    unfold place
    split
    · rename_i hk
      refine List.pairwise_cons.mpr ⟨fun x hx => ?_, h⟩
      rcases List.mem_cons.mp hx with rfl | hx
      · exact hk
      · exact Nat.lt_trans hk (he x hx)
    · split
      · rename_i hk
        refine List.pairwise_cons.mpr ⟨fun x hx => ?_, ih hrest⟩
        rcases mem_of_mem_place hx with rfl | hx
        · exact hk
        · exact he x hx
      · rename_i h₁ h₂
        have hk : number k = number e.1 := by omega
        exact List.pairwise_cons.mpr ⟨fun x hx => hk ▸ he x hx, hrest⟩

/-- The empty map. -/
def empty : OrderedMap κ υ where
  entries := []
  ordered := .nil

instance : EmptyCollection (OrderedMap κ υ) := ⟨empty⟩

instance : Inhabited (OrderedMap κ υ) := ⟨empty⟩

/-- The value of a key. -/
def find? (m : OrderedMap κ υ) (k : κ) : Option υ :=
  lookup k m.entries

/-- Whether a key is bound. -/
def contains (m : OrderedMap κ υ) (k : κ) : Bool :=
  (m.find? k).isSome

/-- Store a value under a key, in place of an earlier one. -/
def insert (m : OrderedMap κ υ) (k : κ) (v : υ) : OrderedMap κ υ where
  entries := place k v m.entries
  ordered := pairwise_place k v m.ordered

/-- Unbind a key. -/
def erase (m : OrderedMap κ υ) (k : κ) : OrderedMap κ υ where
  entries := m.entries.filter fun e => number e.1 ≠ number k
  ordered := m.ordered.filter _

/-- The entries in ascending order of their keys. -/
def toList (m : OrderedMap κ υ) : List (κ × υ) :=
  m.entries

/-- The keys in order. -/
def keys (m : OrderedMap κ υ) : List κ :=
  m.entries.map (·.1)

/-- The values in ascending order of their keys. -/
def values (m : OrderedMap κ υ) : List υ :=
  m.entries.map (·.2)

/-- The number of keys. -/
def size (m : OrderedMap κ υ) : Nat :=
  m.entries.length

/-- Whether no key is bound. -/
def isEmpty (m : OrderedMap κ υ) : Bool :=
  m.entries.isEmpty

/-- The map with the given entries; a later entry wins over an earlier one with the same key. -/
def ofList (l : List (κ × υ)) : OrderedMap κ υ :=
  l.foldl (fun m e => m.insert e.1 e.2) empty

/-! ## What each operation does to look-ups -/

@[simp] theorem find?_empty (k : κ) : (empty : OrderedMap κ υ).find? k = none := rfl

theorem lookup_place_self (k : κ) (v : υ) (l : List (κ × υ)) :
    lookup k (place k v l) = some v := by
  induction l with
  | nil => simp [place, lookup]
  | cons e rest ih =>
    unfold place
    split
    · simp [lookup]
    · split
      · rename_i h
        have : ¬ number e.1 = number k := by omega
        simp [lookup, this, ih]
      · simp [lookup]

theorem lookup_place_of_ne {k k' : κ} (hne : number k ≠ number k') (v : υ) (l : List (κ × υ)) :
    lookup k' (place k v l) = lookup k' l := by
  induction l with
  | nil => simp [place, lookup, hne]
  | cons e rest ih =>
    unfold place
    split
    · simp [lookup, hne]
    · split
      · simp [lookup, ih]
      · rename_i h₁ h₂
        have he : ¬ number e.1 = number k' := by omega
        simp [lookup, hne, he]

@[simp] theorem find?_insert_self (m : OrderedMap κ υ) (k : κ) (v : υ) :
    (m.insert k v).find? k = some v :=
  lookup_place_self k v m.entries

theorem find?_insert_of_ne (m : OrderedMap κ υ) {k k' : κ} (h : k ≠ k') (v : υ) :
    (m.insert k v).find? k' = m.find? k' :=
  lookup_place_of_ne (fun e => h (Numbered.number_inj e)) v m.entries

theorem lookup_filter_self (k : κ) (l : List (κ × υ)) :
    lookup k (l.filter fun e => number e.1 ≠ number k) = none := by
  induction l with
  | nil => rfl
  | cons e rest ih =>
    by_cases h : number e.1 = number k
    · simpa [List.filter_cons, h] using ih
    · simp only [List.filter_cons]
      simpa [h, lookup] using ih

theorem lookup_filter_of_ne {k k' : κ} (hne : number k ≠ number k') (l : List (κ × υ)) :
    lookup k' (l.filter fun e => number e.1 ≠ number k) = lookup k' l := by
  induction l with
  | nil => rfl
  | cons e rest ih =>
    by_cases h : number e.1 = number k
    · have h' : ¬ number e.1 = number k' := by omega
      simpa [List.filter_cons, h, lookup, h', hne] using ih
    · have keep : (e :: rest).filter (fun e => number e.1 ≠ number k) =
          e :: rest.filter fun e => number e.1 ≠ number k := by simp [h]
      rw [keep]
      by_cases h' : number e.1 = number k'
      · simp only [lookup, h', if_true]
      · simp only [lookup, h', if_false, ih]

@[simp] theorem find?_erase_self (m : OrderedMap κ υ) (k : κ) : (m.erase k).find? k = none :=
  lookup_filter_self k m.entries

theorem find?_erase_of_ne (m : OrderedMap κ υ) {k k' : κ} (h : k ≠ k') :
    (m.erase k).find? k' = m.find? k' :=
  lookup_filter_of_ne (fun e => h (Numbered.number_inj e)) m.entries

end OrderedMap

end PetriCluster
