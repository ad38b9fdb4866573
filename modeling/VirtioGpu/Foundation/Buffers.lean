import VirtioGpu.Foundation.Memory

namespace VirtioGpu.Foundation

/-! Byte buffers that remember where they were stored to, and stores that stay
in a part of the buffer. -/

structure Buffer where
  bytes : Memory
  stores : List Nat

namespace Buffer

def put (buffer : Buffer) (position value : Nat) : Buffer where
  bytes := fun location =>
    if location = position then UInt8.ofNat value else buffer.bytes location
  stores := buffer.stores ++ [position]

/-- Stores made one after the other. -/
def putAll (buffer : Buffer) : List (Nat × Nat) → Buffer
  | [] => buffer
  | (position, value) :: rest => (buffer.put position value).putAll rest

/-- `buf[position] |= mask`. -/
def orAt (buffer : Buffer) (position mask : Nat) : Buffer :=
  buffer.put position ((buffer.bytes position).toNat ||| mask)

/-- `memset (buf + start, value, count)`. -/
def fill (buffer : Buffer) (start value count : Nat) : Buffer where
  bytes := fun location =>
    if start ≤ location ∧ location < start + count then UInt8.ofNat value
    else buffer.bytes location
  stores := buffer.stores ++ (List.range count).map fun index => start + index

/-- `memcpy (buf + start, values, values.length)`. -/
def copy (buffer : Buffer) (start : Nat) : List Nat → Buffer
  | [] => buffer
  | value :: rest => (buffer.put start value).copy (start + 1) rest

@[simp] theorem put_bytes (buffer : Buffer) (position value location : Nat) :
    (buffer.put position value).bytes location =
      if location = position then UInt8.ofNat value
      else buffer.bytes location :=
  rfl

@[simp] theorem putAll_nil (buffer : Buffer) : buffer.putAll [] = buffer :=
  rfl

@[simp] theorem putAll_cons (buffer : Buffer) (position value : Nat)
    (rest : List (Nat × Nat)) :
    buffer.putAll ((position, value) :: rest) =
      (buffer.put position value).putAll rest :=
  rfl

@[simp] theorem copy_nil (buffer : Buffer) (start : Nat) :
    buffer.copy start [] = buffer :=
  rfl

@[simp] theorem copy_cons (buffer : Buffer) (start value : Nat)
    (rest : List Nat) :
    buffer.copy start (value :: rest) =
      (buffer.put start value).copy (start + 1) rest :=
  rfl

@[simp] theorem fill_bytes (buffer : Buffer)
    (start value count location : Nat) :
    (buffer.fill start value count).bytes location =
      if start ≤ location ∧ location < start + count then UInt8.ofNat value
      else buffer.bytes location :=
  rfl

theorem copy_before (buffer : Buffer) (values : List Nat)
    {start location : Nat} (before : location < start) :
    (buffer.copy start values).bytes location = buffer.bytes location := by
  induction values generalizing buffer start with
  | nil => rfl
  | cons value rest inductionHypothesis =>
      rw [copy_cons, inductionHypothesis _ (by omega), put_bytes,
        if_neg (by omega)]

theorem copy_bytes (buffer : Buffer) (values : List Nat) (start : Nat)
    {index : Nat} (inside : index < values.length) :
    (buffer.copy start values).bytes (start + index) =
      UInt8.ofNat (values.getD index 0) := by
  induction values generalizing buffer start index with
  | nil => cases inside
  | cons value rest inductionHypothesis =>
      rw [copy_cons]
      cases index with
      | zero =>
          rw [copy_before _ _ (by omega), put_bytes,
            if_pos (Nat.add_zero start)]
          rfl
      | succ index =>
          rw [← Nat.add_assoc, Nat.add_right_comm]
          exact inductionHypothesis _ _ (Nat.lt_of_succ_lt_succ inside)

/-! Stores inside a part of a buffer. -/

/-- Every store from `before` to `after` lies between `low` and `high`, and the
bytes elsewhere are the same. -/
structure Confined (low high : Nat) (before after : Buffer) : Prop where
  kept : ∀ location, location < low ∨ high ≤ location →
    after.bytes location = before.bytes location
  stored : ∃ added, after.stores = before.stores ++ added ∧
    ∀ position, position ∈ added → low ≤ position ∧ position < high

namespace Confined

variable {low high : Nat} {before between after : Buffer}

theorem refl (low high : Nat) (buffer : Buffer) :
    Confined low high buffer buffer := by
  refine ⟨fun _ _ => rfl, [], ?_, ?_⟩
  · rw [List.append_nil]
  · intro position member
    cases member

theorem trans (first : Confined low high before between)
    (second : Confined low high between after) :
    Confined low high before after := by
  obtain ⟨early, same, inside⟩ := first.stored
  obtain ⟨late, grown, within⟩ := second.stored
  refine ⟨?_, early ++ late, ?_, ?_⟩
  · intro location outside
    rw [second.kept location outside, first.kept location outside]
  · rw [grown, same, List.append_assoc]
  · intro position member
    rcases List.mem_append.mp member with inEarly | inLate
    · exact inside position inEarly
    · exact within position inLate

theorem mono {lower upper : Nat} (confined : Confined low high before after)
    (below : lower ≤ low) (above : high ≤ upper) :
    Confined lower upper before after := by
  obtain ⟨added, same, inside⟩ := confined.stored
  refine ⟨?_, added, same, ?_⟩
  · intro location outside
    apply confined.kept
    omega
  · intro position member
    have between := inside position member
    omega

theorem put {position : Nat} (confined : Confined low high before after)
    (value : Nat) (above : low ≤ position) (below : position < high) :
    Confined low high before (after.put position value) := by
  refine confined.trans ⟨?_, [position], rfl, ?_⟩
  · intro location outside
    rw [put_bytes, if_neg (by omega)]
  · intro other member
    rw [List.mem_singleton.mp member]
    exact ⟨above, below⟩

theorem orAt {position : Nat} (confined : Confined low high before after)
    (mask : Nat) (above : low ≤ position) (below : position < high) :
    Confined low high before (after.orAt position mask) :=
  confined.put _ above below

theorem putAll {stores : List (Nat × Nat)}
    (confined : Confined low high before after)
    (inside : ∀ store, store ∈ stores → low ≤ store.1 ∧ store.1 < high) :
    Confined low high before (after.putAll stores) := by
  induction stores generalizing after with
  | nil => exact confined
  | cons store rest induction =>
      obtain ⟨above, below⟩ := inside store List.mem_cons_self
      refine induction (confined.put store.2 above below) ?_
      intro other member
      exact inside other (List.mem_cons_of_mem _ member)

theorem copy {start : Nat} {values : List Nat}
    (confined : Confined low high before after) (above : low ≤ start)
    (below : start + values.length ≤ high) :
    Confined low high before (after.copy start values) := by
  induction values generalizing start after with
  | nil => exact confined
  | cons value rest induction =>
      rw [List.length_cons] at below
      exact induction (confined.put value above (by omega)) (by omega)
        (by omega)

theorem fill {start count : Nat} (confined : Confined low high before after)
    (value : Nat) (above : low ≤ start) (below : start + count ≤ high) :
    Confined low high before (after.fill start value count) := by
  refine confined.trans ⟨?_, _, rfl, ?_⟩
  · intro location outside
    rw [fill_bytes, if_neg (by omega)]
  · intro position member
    obtain ⟨index, inside, rfl⟩ := List.mem_map.mp member
    rw [List.mem_range] at inside
    omega

end Confined

/-! Sums of bytes. -/

/-- The sum of `count` bytes, as a byte. -/
def byteSum (bytes : Memory) (start : Nat) : Nat → UInt8
  | 0 => 0
  | count + 1 => byteSum bytes start count + bytes (start + count)

theorem byteSum_congr {first second : Memory} {start count : Nat}
    (agree : ∀ index, index < count →
      first (start + index) = second (start + index)) :
    byteSum first start count = byteSum second start count := by
  induction count with
  | zero => rfl
  | succ count induction =>
      unfold byteSum
      rw [induction fun index small => agree index (Nat.lt_succ_of_lt small),
        agree count (Nat.lt_succ_self count)]

/-- A byte that holds the negated sum of those before it makes the sum of them
all zero. -/
theorem byteSum_balanced {bytes : Memory} {start count : Nat}
    (balances : bytes (start + count) = 0 - byteSum bytes start count) :
    byteSum bytes start (count + 1) = 0 := by
  unfold byteSum
  rw [balances, UInt8.zero_sub, UInt8.add_right_neg]

end Buffer

end VirtioGpu.Foundation
