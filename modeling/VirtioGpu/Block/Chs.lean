import VirtioGpu.Block.Context

namespace VirtioGpu.Block

/-! The geometry shown to the guest. The locals of `blockif_chs` are an off_t
for `sectors` and `hcyl`, a uint16_t for `secpt` and a uint8_t for `heads`. -/

structure Geometry where
  cylinders : Nat
  heads : Nat
  sectorsPerTrack : Nat
deriving DecidableEq, Repr

def Geometry.capacity (geometry : Geometry) : Nat :=
  geometry.cylinders * geometry.heads * geometry.sectorsPerTrack

def maxChsSectors : Nat := 65535 * 16 * 255

def leastHeads (total : Nat) : Nat := max ((total / 17 + 1023) / 1024) 4

inductive Tracks (total : Nat) : Geometry → Prop
  | short (fits : total / 17 < leastHeads total * 1024)
      (few : leastHeads total ≤ 16) :
      Tracks total ⟨total / 17 / leastHeads total, leastHeads total, 17⟩
  | middle (unfit : leastHeads total * 1024 ≤ total / 17 ∨
        16 < leastHeads total)
      (fits : total / 31 < 16 * 1024) :
      Tracks total ⟨total / 31 / 16, 16, 31⟩
  | long (unfit : 16 * 1024 ≤ total / 31)
      (small : total < 65536 * 16 * 63) :
      Tracks total ⟨total / 63 / 16, 16, 63⟩
  | longest (large : 65536 * 16 * 63 ≤ total)
      (small : total ≤ maxChsSectors) :
      Tracks total ⟨total / 255 / 16, 16, 255⟩

theorem leastHeads_of_long {total : Nat}
    (unfit : 16 * 1024 ≤ total / 31) : 16 < leastHeads total := by
  unfold leastHeads
  omega

theorem Tracks.functional {total : Nat} {first second : Geometry}
    (tracks : Tracks total first) (again : Tracks total second) :
    first = second := by
  have wide := @leastHeads_of_long total
  have least : 4 ≤ leastHeads total := Nat.le_max_right _ _
  have needed : (total / 17 + 1023) / 1024 ≤ leastHeads total :=
    Nat.le_max_left _ _
  cases tracks with
  | short fits few =>
      cases again with
      | short => rfl
      | middle unfit => omega
      | long unfit => omega
      | longest large => omega
  | middle unfit fits =>
      cases again with
      | short => omega
      | middle => rfl
      | long => omega
      | longest => omega
  | long unfit small =>
      cases again with
      | short => omega
      | middle => omega
      | long => rfl
      | longest => omega
  | longest large small =>
      cases again with
      | short => omega
      | middle => omega
      | long => omega
      | longest => rfl

theorem div_div_mul_bounds (total tracks heads : Nat)
    (positive : 0 < heads * tracks) :
    total / tracks / heads * heads * tracks ≤ total ∧
      total - total / tracks / heads * heads * tracks < heads * tracks := by
  have joined : total / tracks / heads * heads * tracks =
      heads * tracks * (total / (heads * tracks)) := by
    rw [Nat.div_div_eq_div_mul, Nat.mul_comm tracks heads, Nat.mul_assoc,
      Nat.mul_comm]
  have split := Nat.div_add_mod total (heads * tracks)
  have rest := Nat.mod_lt total positive
  omega

/-- What the claimed geometry of a disk of `total` sectors has to satisfy. -/
def Geometry.Sound (total : Nat) (geometry : Geometry) : Prop :=
  4 ≤ geometry.heads ∧ geometry.heads ≤ 16 ∧
    geometry.capacity ≤ total ∧
    total - geometry.capacity < geometry.heads * geometry.sectorsPerTrack

theorem sound_of_quotients (total : Nat) {tracks heads : Nat}
    (least : 4 ≤ heads) (few : heads ≤ 16) (positive : 0 < tracks) :
    Geometry.Sound total ⟨total / tracks / heads, heads, tracks⟩ :=
  ⟨least, few, div_div_mul_bounds total tracks heads
    (Nat.mul_pos (by omega) positive)⟩

theorem Tracks.sound {total : Nat} {geometry : Geometry}
    (tracks : Tracks total geometry) : geometry.Sound total := by
  cases tracks with
  | short fits few =>
      exact sound_of_quotients total (Nat.le_max_right _ _) few
        (by decide)
  | middle =>
      exact sound_of_quotients total (by decide) (by decide) (by decide)
  | long =>
      exact sound_of_quotients total (by decide) (by decide) (by decide)
  | longest =>
      exact sound_of_quotients total (by decide) (by decide) (by decide)

end VirtioGpu.Block
