import VirtioGpu.Backend.Device
import VirtioGpu.Foundation.Ensures
import Mathlib.Data.Nat.Bitwise

namespace VirtioGpu.Backend

open Foundation
open Virtio
open Gpu

/-! Feature negotiation through `GFSELECT` and `GF`. -/

inductive FeatureWrite where
  | gfselect (value : Nat)
  | gf (value : Nat)

namespace FeatureWrite

def register : FeatureWrite → CommonReg
  | gfselect _ => .gfselect
  | gf _ => .gf

def value : FeatureWrite → Nat
  | gfselect value => value
  | gf value => value

end FeatureWrite

def writeFeatures (device : Device) :
    List FeatureWrite → Except Fault Device
  | [] => .ok device
  | write :: rest => do
      let written ← virtioCommonCfgWrite device write.register.offset 4
        (write.value % 4294967296)
      writeFeatures written.1 rest

/-- The selector and the last words written under selectors 0 and 1. -/
structure FeatureWords where
  select : Nat
  low : Nat
  high : Nat

namespace FeatureWords

def none : FeatureWords := ⟨0, 0, 0⟩

def after (words : FeatureWords) : FeatureWrite → FeatureWords
  | .gfselect value => { words with select := value % 4294967296 }
  | .gf value =>
      if words.select = 0 then { words with low := value % 4294967296 }
      else if words.select = 1 then { words with high := value % 4294967296 }
      else words

def ofWrites (writes : List FeatureWrite) : FeatureWords :=
  writes.foldl after none

/-- The features a device with these capabilities has agreed on. -/
def agreed (words : FeatureWords) (deviceCaps : Nat) : Nat :=
  deviceCaps &&& words.low ||| (deviceCaps &&& words.high <<< 32)

structure Sized (words : FeatureWords) : Prop where
  low : words.low < 4294967296
  high : words.high < 4294967296

end FeatureWords

/-! Bits of the two halves. -/

theorem testBit_highMask (bit : Nat) :
    Nat.testBit 0xffffffff00000000 bit = decide (32 ≤ bit ∧ bit < 64) := by
  have shifted : (0xffffffff00000000 : Nat) = (2 ^ 32 - 1) <<< 32 := by decide
  rw [shifted, Nat.testBit_shiftLeft, Nat.testBit_two_pow_sub_one]
  by_cases high : 32 ≤ bit
  · simp only [high, decide_true, Bool.true_and, true_and]
    congr 1
    rw [eq_iff_iff]
    omega
  · simp [high]

theorem testBit_lowMask (bit : Nat) :
    Nat.testBit 0xffffffff bit = decide (bit < 32) := by
  have ones : (0xffffffff : Nat) = 2 ^ 32 - 1 := by decide
  rw [ones, Nat.testBit_two_pow_sub_one]

theorem testBit_of_lt {value width bit : Nat} (small : value < 2 ^ width)
    (high : width ≤ bit) : value.testBit bit = false :=
  Nat.testBit_lt_two_pow
    (Nat.lt_of_lt_of_le small (Nat.pow_le_pow_right (by decide) high))

theorem agreed_low {words : FeatureWords} {deviceCaps value : Nat}
    (caps : deviceCaps < 2 ^ 64) (sized : words.Sized)
    (small : value < 4294967296) :
    words.agreed deviceCaps &&& 0xffffffff00000000 ||| (deviceCaps &&& value) =
      FeatureWords.agreed { words with low := value } deviceCaps := by
  apply Nat.eq_of_testBit_eq
  intro bit
  simp only [FeatureWords.agreed, Nat.testBit_or, Nat.testBit_and,
    Nat.testBit_shiftLeft, testBit_highMask]
  rcases Nat.lt_or_ge bit 32 with low | high
  · simp [Nat.not_le.mpr low]
  · have above : value.testBit bit = false :=
      @testBit_of_lt value 32 bit small high
    have gone : words.low.testBit bit = false :=
      @testBit_of_lt words.low 32 bit sized.low high
    rcases Nat.lt_or_ge bit 64 with inside | outside
    · simp [high, inside, above, gone]
    · simp [testBit_of_lt caps outside]

theorem agreed_high {words : FeatureWords} {deviceCaps value : Nat}
    (sized : words.Sized) :
    words.agreed deviceCaps &&& 0xffffffff ||| (value <<< 32 &&& deviceCaps) =
      FeatureWords.agreed { words with high := value } deviceCaps := by
  apply Nat.eq_of_testBit_eq
  intro bit
  simp only [FeatureWords.agreed, Nat.testBit_or, Nat.testBit_and,
    Nat.testBit_shiftLeft, testBit_lowMask]
  rcases Nat.lt_or_ge bit 32 with low | high
  · simp [low, Nat.not_le.mpr low]
  · have gone : words.low.testBit bit = false :=
      @testBit_of_lt words.low 32 bit sized.low high
    simp [high, Nat.not_lt.mpr high, gone, Bool.and_comm]

/-! One write. -/

/-- The device with these words negotiated. -/
def Device.negotiated (device : Device) (words : FeatureWords) : Device :=
  { device with
    base := { device.base with
      driverFeatureSelect := words.select
      negotiatedCaps := words.agreed device.base.deviceCaps } }

theorem FeatureWords.Sized.after {words : FeatureWords} (sized : words.Sized)
    (write : FeatureWrite) : (words.after write).Sized := by
  cases write with
  | gfselect value => exact ⟨sized.low, sized.high⟩
  | gf value =>
      unfold FeatureWords.after
      dsimp only
      split
      · exact ⟨Nat.mod_lt _ (by decide), sized.high⟩
      · split
        · exact ⟨sized.low, Nat.mod_lt _ (by decide)⟩
        · exact sized

theorem writeFeature_negotiated {device : Device} {words : FeatureWords}
    (caps : device.base.deviceCaps < 2 ^ 64) (sized : words.Sized)
    (running : device.base.status &&& virtioConfigSDriverOk = 0)
    (write : FeatureWrite) :
    virtioCommonCfgWrite (device.negotiated words) write.register.offset 4
        (write.value % 4294967296) =
      .ok (device.negotiated (words.after write), []) := by
  cases write with
  | gfselect value =>
      refine (virtioCommonCfgWrite_register _ _
        (show CommonReg.gfselect.readOnly = false from rfl)).trans ?_
      simp only [writeRegister, FeatureWrite.value, Nat.mod_mod]
      rfl
  | gf value =>
      refine (virtioCommonCfgWrite_register _ _
        (show CommonReg.gf.readOnly = false from rfl)).trans ?_
      have clear : ¬(device.negotiated words).base.status &&&
          virtioConfigSDriverOk ≠ 0 := fun set => set running
      simp only [writeRegister, FeatureWrite.value]
      rw [if_neg clear]
      congr 2
      unfold negotiate FeatureWords.after Device.negotiated
      dsimp only
      rw [Nat.mod_mod]
      split
      · split
        · rw [agreed_low caps sized (Nat.mod_lt _ (by decide))]
          rfl
        · rename_i below other
          have one : words.select = 1 := by omega
          rw [if_pos one, agreed_high sized]
          rfl
      · rename_i far
        rw [if_neg (by omega), if_neg (by omega)]

/-- With `DRIVER_OK` set, only the selector moves. -/
theorem writeFeature_running {device : Device}
    (running : device.base.status &&& virtioConfigSDriverOk ≠ 0)
    (write : FeatureWrite) :
    ∃ select,
      virtioCommonCfgWrite device write.register.offset 4
          (write.value % 4294967296) =
        .ok ({ device with base := { device.base with
          driverFeatureSelect := select } }, []) := by
  cases write with
  | gfselect value =>
      refine ⟨value % 4294967296, ?_⟩
      refine (virtioCommonCfgWrite_register _ _
        (show CommonReg.gfselect.readOnly = false from rfl)).trans ?_
      simp only [writeRegister, FeatureWrite.value, Nat.mod_mod]
  | gf value =>
      refine ⟨device.base.driverFeatureSelect, ?_⟩
      refine (virtioCommonCfgWrite_register _ _
        (show CommonReg.gf.readOnly = false from rfl)).trans ?_
      simp only [writeRegister]
      rw [if_pos running]

/-! Sequences of writes. -/

theorem writeFeatures_from {device : Device} {words : FeatureWords}
    (caps : device.base.deviceCaps < 2 ^ 64) (sized : words.Sized)
    (running : device.base.status &&& virtioConfigSDriverOk = 0)
    (writes : List FeatureWrite) :
    writeFeatures (device.negotiated words) writes =
      .ok (device.negotiated (writes.foldl FeatureWords.after words)) := by
  induction writes generalizing words with
  | nil => rfl
  | cons write rest induction =>
      show (virtioCommonCfgWrite _ _ _ _ >>= _) = _
      rw [writeFeature_negotiated caps sized running write]
      exact induction (sized.after write)

theorem writeFeatures_running {device : Device}
    (running : device.base.status &&& virtioConfigSDriverOk ≠ 0)
    (writes : List FeatureWrite) :
    ∃ select, writeFeatures device writes =
      .ok { device with base := { device.base with
        driverFeatureSelect := select } } := by
  induction writes generalizing device with
  | nil => exact ⟨device.base.driverFeatureSelect, rfl⟩
  | cons write rest induction =>
      obtain ⟨select, written⟩ := writeFeature_running running write
      obtain ⟨last, ran⟩ := @induction { device with base := { device.base with
        driverFeatureSelect := select } } running
      refine ⟨last, ?_⟩
      show (virtioCommonCfgWrite _ _ _ _ >>= _) = _
      rw [written]
      exact ran

theorem agreed_subset (words : FeatureWords) (deviceCaps : Nat) :
    words.agreed deviceCaps &&& deviceCaps = words.agreed deviceCaps := by
  apply Nat.eq_of_testBit_eq
  intro bit
  simp only [FeatureWords.agreed, Nat.testBit_or, Nat.testBit_and]
  cases deviceCaps.testBit bit with
  | false => simp
  | true => simp

theorem writeFeatures_agreed {device : Device}
    (caps : device.base.deviceCaps < 2 ^ 64)
    (cleared : device.base.negotiatedCaps = 0)
    (unselected : device.base.driverFeatureSelect = 0)
    (running : device.base.status &&& virtioConfigSDriverOk = 0)
    (writes : List FeatureWrite) :
    writeFeatures device writes =
      .ok (device.negotiated (.ofWrites writes)) := by
  have nothing : FeatureWords.none.agreed device.base.deviceCaps = 0 := by
    simp [FeatureWords.agreed, FeatureWords.none]
  have fresh : device = device.negotiated .none := by
    unfold Device.negotiated
    rw [nothing, ← cleared]
    show device = { device with base := { device.base with
      driverFeatureSelect := 0 } }
    rw [← unselected]
  calc writeFeatures device writes
      = writeFeatures (device.negotiated .none) writes := by rw [← fresh]
    _ = .ok (device.negotiated (.ofWrites writes)) :=
        writeFeatures_from caps ⟨by decide, by decide⟩ running writes

/-- The outcome of a sequence of feature writes on a device that was reset. -/
structure Negotiates (device : Device) (writes : List FeatureWrite)
    (after : Device) : Prop where
  agreed : after.base.negotiatedCaps =
    device.base.deviceCaps &&& (FeatureWords.ofWrites writes).low |||
      (device.base.deviceCaps &&& (FeatureWords.ofWrites writes).high <<< 32)
  subset : after.base.negotiatedCaps &&& device.base.deviceCaps =
    after.base.negotiatedCaps
  order : ∀ others,
    (FeatureWords.ofWrites others).low = (FeatureWords.ofWrites writes).low →
    (FeatureWords.ofWrites others).high =
      (FeatureWords.ofWrites writes).high →
      ∃ last, writeFeatures device others = .ok last ∧
        last.base.negotiatedCaps = after.base.negotiatedCaps
  readBack : virtioCommonCfgRead after.base after.queues
      CommonReg.gf.offset 4 =
    featureWord after.base.negotiatedCaps
      (FeatureWords.ofWrites writes).select
  selector : 2 ≤ after.base.driverFeatureSelect → ∀ value,
    virtioCommonCfgWrite after CommonReg.gf.offset 4 value = .ok (after, [])
  driverOk : ∀ status later,
    status &&& virtioConfigSDriverOk ≠ 0 →
      ∃ last, writeFeatures { after with base := { after.base with
          status := status } } later = .ok last ∧
        last.base.negotiatedCaps = after.base.negotiatedCaps

/-- Any sequence of `GFSELECT` and `GF` writes after a reset and before
`DRIVER_OK` negotiates the last word written under each selector. -/
theorem writeFeatures_negotiates {device : Device}
    (caps : device.base.deviceCaps < 2 ^ 64)
    (cleared : device.base.negotiatedCaps = 0)
    (unselected : device.base.driverFeatureSelect = 0)
    (running : device.base.status &&& virtioConfigSDriverOk = 0)
    (writes : List FeatureWrite) :
    ∃ after, writeFeatures device writes = .ok after ∧
      Negotiates device writes after := by
  refine ⟨device.negotiated (.ofWrites writes),
    writeFeatures_agreed caps cleared unselected running writes, ?_⟩
  refine ⟨rfl, agreed_subset _ _, ?_, rfl, ?_, ?_⟩
  · intro others low high
    refine ⟨device.negotiated (.ofWrites others),
      writeFeatures_agreed caps cleared unselected running others, ?_⟩
    simp only [Device.negotiated, FeatureWords.agreed, low, high]
  · intro far value
    refine (virtioCommonCfgWrite_register _ _
      (show CommonReg.gf.readOnly = false from rfl)).trans ?_
    simp only [writeRegister]
    split
    · rfl
    · unfold negotiate
      rw [if_neg (Nat.not_lt.mpr far)]
  · intro status later set
    obtain ⟨select, ran⟩ := @writeFeatures_running
      { device.negotiated (.ofWrites writes) with
        base := { (device.negotiated (.ofWrites writes)).base with
          status := status } } set later
    exact ⟨_, ran, rfl⟩

/-- A driver that writes the high half first and the low half twice. -/
theorem initialised_negotiates :
    ∃ after, writeFeatures (virtioGpuInit ⟨4096, 3⟩ true 1)
        [.gfselect 1, .gf 3, .gfselect 0, .gf 255, .gf 10, .gfselect 7,
          .gf 1] = .ok after ∧
      after.base.negotiatedCaps = 1 <<< 32 ||| 10 ∧
      Negotiates (virtioGpuInit ⟨4096, 3⟩ true 1)
        [.gfselect 1, .gf 3, .gfselect 0, .gf 255, .gf 10, .gfselect 7,
          .gf 1] after := by
  obtain ⟨after, ran, negotiates⟩ := @writeFeatures_negotiates
    (virtioGpuInit ⟨4096, 3⟩ true 1) (by decide) rfl rfl (by decide)
    [.gfselect 1, .gf 3, .gfselect 0, .gf 255, .gf 10, .gfselect 7, .gf 1]
  refine ⟨after, ran, ?_, negotiates⟩
  rw [negotiates.agreed]
  decide

end VirtioGpu.Backend
