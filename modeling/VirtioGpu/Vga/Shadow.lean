import VirtioGpu.Foundation.Answers
import VirtioGpu.Vga.Indices

namespace VirtioGpu.Vga

open Foundation

/-! A device that has the registers and keeps something else in the place of
the memory.  When it does for each byte what the memory does, it answers a
program alike. -/

/-- What a program does to a device. -/
inductive VgaAct where
  | out (port : Nat) (val : UInt8)
  | input (port : Nat) (val : UInt8)
  | load (addr size : Nat) (val : UInt64)
  | store (addr size : Nat) (val : UInt64)

/-- The device after an act, and what it answers. -/
def vgaAct (undefinedShift : UInt8 → UInt8 → UInt8) (vd : VgaVdev) :
    VgaAct → VgaVdev × UInt64
  | .out port val => ((vgaPortOutHandler vd port val).1, 0)
  | .input port val =>
      let taken := vgaPortInHandler vd port val
      (taken.1, taken.2.toUInt64)
  | .load addr size val => (vgaMemHandlerRead vd addr size val).1
  | .store addr size val =>
      ((vgaMemHandlerWrite undefinedShift vd addr size val).1, 0)

/-- The registers are those of a device whose memory and latches nothing
looks at. -/
structure Shadow (κ : Type) where
  panel : VgaVdev
  contents : κ

/-- How such contents are read and written by the byte. -/
structure Bytewise (κ : Type) where
  load : VgaVdev → κ → Nat → κ × UInt64
  store : VgaVdev → κ → Nat → UInt8 → κ

variable {κ : Type}

namespace Bytewise

variable (bytewise : Bytewise κ)

def loadAll (panel : VgaVdev) (addr : Nat) (start : κ × UInt64)
    (bytes : List Nat) : κ × UInt64 :=
  bytes.foldl (fun state byte =>
    let next := bytewise.load panel state.1 (addr + byte)
    (next.1, (if byte = 0 then 0 else state.2) |||
      next.2 <<< UInt64.ofNat (8 * byte))) start

def storeAll (panel : VgaVdev) (addr : Nat) (val : UInt64) (contents : κ)
    (bytes : List Nat) : κ :=
  bytes.foldl (fun contents byte =>
    bytewise.store panel contents (addr + byte)
      (val >>> UInt64.ofNat (8 * byte)).toUInt8) contents

def act (shadow : Shadow κ) : VgaAct → Shadow κ × UInt64
  | .out port val =>
      ({ shadow with panel := (vgaPortOutHandler shadow.panel port val).1 },
        0)
  | .input port val =>
      let taken := vgaPortInHandler shadow.panel port val
      ({ shadow with panel := taken.1 }, taken.2.toUInt64)
  | .load addr size val =>
      let loaded := bytewise.loadAll shadow.panel addr
        (shadow.contents, val) (accessBytes size)
      ({ shadow with contents := loaded.1 }, loaded.2)
  | .store addr size val =>
      ({ shadow with
        contents := bytewise.storeAll shadow.panel addr val shadow.contents
          (accessBytes size) }, 0)

end Bytewise

/-- The bytes that a program may load and store for the contents to stand for
the memory. -/
structure Within where
  Loads : VgaVdev → Nat → Prop
  Stores : VgaVdev → Nat → UInt8 → Prop

def Within.Allows (within : Within) (vd : VgaVdev) : VgaAct → Prop
  | .out _ _ | .input _ _ => True
  | .load addr size _ =>
      ∀ byte ∈ accessBytes size, within.Loads vd (addr + byte)
  | .store addr size val =>
      ∀ byte ∈ accessBytes size, within.Stores vd (addr + byte)
        (val >>> UInt64.ofNat (8 * byte)).toUInt8

/-- The contents do for a byte what the memory does.  Neither they nor the
bounds look at a memory in the place of which they stand. -/
structure Bytewise.Faithful (bytewise : Bytewise κ)
    (undefinedShift : UInt8 → UInt8 → UInt8) (within : Within)
    (Holds : κ → Memory → (Fin 4 → UInt8) → Prop) : Prop where
  unseen : ∀ panel vgaRam gcLatch,
    bytewise.load (vgaNext panel (.memory vgaRam gcLatch)) =
        bytewise.load panel ∧
      bytewise.store (vgaNext panel (.memory vgaRam gcLatch)) =
        bytewise.store panel
  load : ∀ {vd : VgaVdev} {contents : κ} {addr : Nat},
    Holds contents vd.vgaRam vd.gc.gcLatch → within.Loads vd addr →
      let next := (vgaMemRdHandler vd addr).1
      let other := bytewise.load vd contents addr
      next.2 = other.2 ∧ Holds other.1 next.1.vgaRam next.1.gc.gcLatch
  store : ∀ {vd : VgaVdev} {contents : κ} {addr : Nat} {val : UInt8},
    vd.Decoded → Holds contents vd.vgaRam vd.gc.gcLatch →
      within.Stores vd addr val →
        let next := (vgaMemWrHandler undefinedShift vd addr val).1
        Holds (bytewise.store vd contents addr val) next.vgaRam
          next.gc.gcLatch
  loadsAfter : ∀ {vd : VgaVdev} {addr other : Nat}, within.Loads vd addr →
    within.Loads (vgaMemRdHandler vd other).1.1 addr
  storesAfter : ∀ {vd : VgaVdev} {addr other : Nat} {val byte : UInt8},
    within.Stores vd addr val → within.Stores
      (vgaMemWrHandler undefinedShift vd other byte).1 addr val

/-- The shadow has the registers of the device, and what it holds stands for
the memory. -/
structure Shadow.Follows (Holds : κ → Memory → (Fin 4 → UInt8) → Prop)
    (vd : VgaVdev) (shadow : Shadow κ) : Prop where
  registers : SameRegisters shadow.panel vd
  decoded : vd.Decoded
  holds : Holds shadow.contents vd.vgaRam vd.gc.gcLatch

theorem SameRegisters.trans {panel vd next : VgaVdev}
    (same : SameRegisters panel vd) (other : SameRegisters vd next) :
    SameRegisters panel next := by
  obtain ⟨_, _, rfl⟩ := same
  obtain ⟨vgaRam, gcLatch, rfl⟩ := other
  exact ⟨vgaRam, gcLatch, rfl⟩

theorem SameRegisters.symm {panel vd : VgaVdev}
    (same : SameRegisters panel vd) : SameRegisters vd panel := by
  obtain ⟨_, _, rfl⟩ := same
  exact ⟨panel.vgaRam, panel.gc.gcLatch, rfl⟩

section Run

variable {bytewise : Bytewise κ} {undefinedShift : UInt8 → UInt8 → UInt8}
  {within : Within} {Holds : κ → Memory → (Fin 4 → UInt8) → Prop}
  {vd panel : VgaVdev} {contents : κ} {addr : Nat}

theorem Bytewise.Faithful.loadAll
    (faithful : bytewise.Faithful undefinedShift within Holds)
    (same : SameRegisters panel vd) (bytes : List Nat)
    (holds : Holds contents vd.vgaRam vd.gc.gcLatch)
    (loads : ∀ byte ∈ bytes, within.Loads vd (addr + byte)) (val : UInt64) :
    let next := (foldLogged (fun state byte =>
      let next := vgaMemRdHandler state.1 (addr + byte)
      ((next.1.1, (if byte = 0 then 0 else state.2) |||
        next.1.2 <<< UInt64.ofNat (8 * byte)), next.2)) (vd, val) bytes).1
    let other := bytewise.loadAll panel addr (contents, val) bytes
    next.2 = other.2 ∧ SameRegisters panel next.1 ∧
      Holds other.1 next.1.vgaRam next.1.gc.gcLatch := by
  induction bytes generalizing vd contents val with
  | nil => exact ⟨rfl, same, holds⟩
  | cons byte rest induction =>
      obtain ⟨first, others⟩ := List.forall_mem_cons.mp loads
      obtain ⟨answer, after⟩ := faithful.load holds first
      have unseen : bytewise.load vd = bytewise.load panel := by
        obtain ⟨vgaRam, gcLatch, rfl⟩ := same
        exact (faithful.unseen panel vgaRam gcLatch).1
      have later := induction
        (same.trans (vgaMemRdHandler_event vd (addr + byte))) after
        (fun byte member => faithful.loadsAfter (others byte member))
      rw [unseen] at answer later
      simp only [foldLogged, Bytewise.loadAll, List.foldl_cons]
      rw [answer]
      exact later _

theorem Bytewise.Faithful.storeAll
    (faithful : bytewise.Faithful undefinedShift within Holds)
    (same : SameRegisters panel vd) (decoded : vd.Decoded)
    (bytes : List Nat) {val : UInt64}
    (holds : Holds contents vd.vgaRam vd.gc.gcLatch)
    (stores : ∀ byte ∈ bytes, within.Stores vd (addr + byte)
      (val >>> UInt64.ofNat (8 * byte)).toUInt8) :
    let next := (foldLogged (fun state byte =>
      vgaMemWrHandler undefinedShift state (addr + byte)
        (val >>> UInt64.ofNat (8 * byte)).toUInt8) vd bytes).1
    SameRegisters panel next ∧
      Holds (bytewise.storeAll panel addr val contents bytes) next.vgaRam
        next.gc.gcLatch := by
  induction bytes generalizing vd contents with
  | nil => exact ⟨same, holds⟩
  | cons byte rest induction =>
      obtain ⟨first, others⟩ := List.forall_mem_cons.mp stores
      have after := faithful.store decoded holds first
      have unseen : bytewise.store vd = bytewise.store panel := by
        obtain ⟨vgaRam, gcLatch, rfl⟩ := same
        exact (faithful.unseen panel vgaRam gcLatch).2
      have event : SameRegisters vd _ :=
        vgaMemWrHandler_event undefinedShift vd (addr + byte)
          (val >>> UInt64.ofNat (8 * byte)).toUInt8
      have later := induction (same.trans event) (event.decoded decoded)
        after (fun byte member => faithful.storesAfter (others byte member))
      rw [unseen] at later
      exact later

/-! The ports, which neither look at the memory nor change it. -/

theorem vgaPortOutHandler_memory (panel : VgaVdev) (port : Nat) (val : UInt8)
    (vgaRam : Memory) (gcLatch : Fin 4 → UInt8) :
    (vgaPortOutHandler (vgaNext panel (.memory vgaRam gcLatch)) port val).1 =
      vgaNext (vgaPortOutHandler panel port val).1
        (.memory vgaRam gcLatch) := by
  unfold vgaPortOutHandler
  cases VgaPort.ofPort port with
  | none => rfl
  | some label =>
      cases label with
      | seqData =>
          simp only [vgaNext]
          cases SeqReg.ofIndex panel.seq.seqIndex <;> rfl
      | crtcData =>
          simp only [vgaNext]
          cases CrtcReg.ofIndex panel.crtc.crtcIndex <;> rfl
      | gcData =>
          simp only [vgaNext]
          cases GcReg.ofIndex panel.gc.gcIndex with
          | none => rfl
          | some reg => cases reg <;> rfl
      | _ => rfl

theorem vgaPortInHandler_memory (panel : VgaVdev) (port : Nat) (val : UInt8)
    (vgaRam : Memory) (gcLatch : Fin 4 → UInt8) :
    vgaPortInHandler (vgaNext panel (.memory vgaRam gcLatch)) port val =
      (vgaNext (vgaPortInHandler panel port val).1 (.memory vgaRam gcLatch),
        (vgaPortInHandler panel port val).2) := by
  unfold vgaPortInHandler
  cases VgaPort.ofPort port with
  | none => rfl
  | some label => cases label <;> rfl

theorem Bytewise.Faithful.act
    (faithful : bytewise.Faithful undefinedShift within Holds)
    {shadow : Shadow κ} {act : VgaAct}
    (follows : Shadow.Follows Holds vd shadow)
    (allows : within.Allows vd act) :
    AnswersAlike (Shadow.Follows Holds) (vgaAct undefinedShift vd act)
      (bytewise.act shadow act) := by
  obtain ⟨same, decoded, holds⟩ := follows
  cases act with
  | out port val =>
      have after := decoded.out port val
      obtain ⟨vgaRam, gcLatch, rfl⟩ := same
      have kept := vgaPortOutHandler_memory shadow.panel port val vgaRam
        gcLatch
      rw [kept] at after
      refine ⟨rfl, ?_⟩
      simp only [vgaAct, kept]
      exact ⟨⟨vgaRam, gcLatch, rfl⟩, after, holds⟩
  | input port val =>
      have after := decoded.input port val
      obtain ⟨vgaRam, gcLatch, rfl⟩ := same
      have kept := vgaPortInHandler_memory shadow.panel port val vgaRam
        gcLatch
      rw [kept] at after
      simp only [vgaAct, kept]
      exact ⟨rfl, ⟨vgaRam, gcLatch, rfl⟩, after, holds⟩
  | load addr size val =>
      obtain ⟨answer, after, held⟩ :=
        faithful.loadAll same (accessBytes size) holds allows val
      exact ⟨answer, after, after.decoded (same.symm.decoded decoded), held⟩
  | store addr size val =>
      obtain ⟨after, held⟩ :=
        faithful.storeAll same decoded (accessBytes size) holds allows
      exact ⟨rfl, after, after.decoded (same.symm.decoded decoded), held⟩

/-- A shadow whose contents are faithful follows the device through every run
within the bounds, and answers as it does. -/
theorem Bytewise.Faithful.run
    (faithful : bytewise.Faithful undefinedShift within Holds)
    {shadow : Shadow κ} (follows : Shadow.Follows Holds vd shadow)
    {acts : List VgaAct}
    (allowed : AllowedRun (vgaAct undefinedShift) within.Allows vd acts) :
    AnswersAlike (Shadow.Follows Holds)
      (runInputs (vgaAct undefinedShift) vd acts)
      (runInputs bytewise.act shadow acts) :=
  @runInputs_alike _ _ _ _ (vgaAct undefinedShift) bytewise.act _ _
    (fun _ _ _ follows allows => faithful.act follows allows) _ _ _ follows
    allowed

end Run

end VirtioGpu.Vga
