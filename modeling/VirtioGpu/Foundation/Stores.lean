import VirtioGpu.Foundation.Words

namespace VirtioGpu.Foundation.Memory

/-! Parts of what is read, and stores made one after the other. -/

theorem drop_read (memory : Memory) (address length count : Nat) :
    (memory.read address length).drop count =
      memory.read (address + count) (length - count) := by
  apply List.ext_getElem
  · simp only [List.length_drop, length_read]
  · intro index _ _
    simp only [read, List.getElem_drop, List.getElem_map,
      List.getElem_range]
    rw [Nat.add_assoc]

theorem take_read (memory : Memory) (address length count : Nat) :
    (memory.read address length).take count =
      memory.read address (min count length) := by
  apply List.ext_getElem
  · simp only [List.length_take, length_read]
  · intro index _ _
    simp only [read, List.getElem_take, List.getElem_map,
      List.getElem_range]

theorem store_nil (memory : Memory) (address : Nat) :
    memory.store address [] = memory := by
  funext location
  apply store_outside
  rw [List.length_nil]
  omega

/-- A store right behind another one. -/
theorem store_store (memory : Memory) (address : Nat)
    (first second : List UInt8) :
    (memory.store address first).store (address + first.length) second =
      memory.store address (first ++ second) := by
  funext location
  rw [store_append]
  unfold store
  by_cases early : address ≤ location ∧ location < address + first.length
  · rw [if_neg (by omega), if_pos early, if_pos early]
  · rw [if_neg early, if_neg early]

section Runs

variable {ι : Type u} {target : ι → Nat} {bytes : ι → List UInt8}
  {location : Nat}

/-- The store of one item of a run does not reach the location. -/
def Misses (target : ι → Nat) (bytes : ι → List UInt8) (location : Nat)
    (item : ι) : Prop :=
  location < target item ∨ target item + (bytes item).length ≤ location

/-- The memory after one store for each item. -/
def storeAll (target : ι → Nat) (bytes : ι → List UInt8)
    (items : List ι) (memory : Memory) : Memory :=
  items.foldl (fun memory item => memory.store (target item) (bytes item))
    memory

theorem storeAll_missed {items : List ι}
    (missed : ∀ item, item ∈ items → Misses target bytes location item)
    (memory : Memory) :
    storeAll target bytes items memory location = memory location := by
  induction items generalizing memory with
  | nil => rfl
  | cons head tail induction =>
      have later := induction
        (fun item member => missed item (List.mem_cons_of_mem head member))
        (memory.store (target head) (bytes head))
      refine later.trans ?_
      apply store_outside
      exact missed head List.mem_cons_self

/-- What the only item that reaches a location stores there. -/
theorem storeAll_reached {items : List ι} {item : ι} {index : Nat}
    (member : item ∈ items)
    (alone : ∀ other, other ∈ items → other ≠ item →
      Misses target bytes (target item + index) other)
    (bound : index < (bytes item).length) (memory : Memory) :
    storeAll target bytes items memory (target item + index) =
      (bytes item).getD index 0 := by
  induction items generalizing memory with
  | nil => cases member
  | cons head tail induction =>
      by_cases later : item ∈ tail
      · exact induction later
          (fun other among => alone other (List.mem_cons_of_mem head among)) _
      · rcases List.mem_cons.mp member with rfl | tailed
        · have kept := @storeAll_missed _ target bytes (target item + index)
            tail
            (fun other among => alone other (List.mem_cons_of_mem item among)
              fun same => later (same ▸ among))
            (memory.store (target item) (bytes item))
          exact kept.trans (store_inside memory bound)
        · exact absurd tailed later

end Runs

end VirtioGpu.Foundation.Memory
