import VirtioGpu.Vdpy.Delivery
import VirtioGpu.Vdpy.Replay

namespace VirtioGpu.Vdpy

open Foundation

/-! What the two threads send on a connection, as messages of the protocol. -/

/-- The layout of `struct surface`. -/
structure SurfaceLayout where
  size : Nat
  bytes : Surface → List UInt8
  length_bytes : ∀ surf, (bytes surf).length = size
  fits : size ≤ bufSize

def DpyEvtType.code : DpyEvtType → Nat
  | surfaceSet => 0x100
  | surfaceUpdate => 0x101
  | setModifier => 0x102

inductive Announcement where
  | modifier (value : Nat)
  | surface (surf : Surface)
  | update
  deriving Repr, DecidableEq

namespace SurfaceLayout

variable (layout : SurfaceLayout)

def message : Announcement → Message .client
  | .modifier value => setModifier value
  | .surface surf => {
      eType := DpyEvtType.surfaceSet.code
      body := layout.bytes surf
      fd := some surf.dmabufFd
      eType_lt := by decide
      fits := by
        rw [layout.length_bytes]
        exact layout.fits
      carries := rfl
      hotplugs := Peer.noConfusion }
  | .update => {
      eType := DpyEvtType.surfaceUpdate.code
      body := []
      fd := none
      eType_lt := by decide
      fits := by decide
      carries := by decide
      hotplugs := Peer.noConfusion }

end SurfaceLayout

end VirtioGpu.Vdpy
