import Mathlib.Logic.Relation

namespace VirtioGpu.Block

/-! The context of one backing file and the shape of a request. -/

def einval : Int := 22
def erofs : Int := 30
def eopnotsupp : Int := 95

structure BlockifCtxt where
  isblk : Bool
  candiscard : Bool
  rdonly : Bool
  size : Int64
  subFileStartLba : Int64
  sectsz : Int32
  maxDiscardSectors : Int32
  maxDiscardSeg : Int32
  discardSectorAlignment : Int32
  wce : Bool
  sectszPositive : 0 < sectsz

/-- The sector size of a plain file. -/
theorem sectsz_positive : (0 : Int32) < 512 := by
  decide

end VirtioGpu.Block
