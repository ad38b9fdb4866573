import VirtioGpu.Gpu.Protocol

namespace VirtioGpu.Gpu

open Foundation

/-! The part of pixman the device uses: image buffers and 16-bit regions. -/

/-- Executions that leave the defined behaviour of the program. -/
inductive Fault where
  | nullPointer
  | nullImage
  | nullDmaInfo
  | useAfterFree
  | doubleFree
  | divideByZero
  | heapOverflow
  | stackOverread
  | formatString
  deriving Repr, DecidableEq

def pixmanFormat (bpp type a r g b : Nat) : Nat :=
  bpp <<< 24 ||| type <<< 16 ||| a <<< 12 ||| r <<< 8 ||| g <<< 4 ||| b

def pixmanFormatReshift (format offset bits : Nat) : Nat :=
  ((format >>> offset) % 2 ^ bits) <<< ((format >>> 22) % 4)

def pixmanFormatBpp (format : Nat) : Nat := pixmanFormatReshift format 24 8

def pixmanFormatDepth (format : Nat) : Nat :=
  pixmanFormatReshift format 12 4 + pixmanFormatReshift format 8 4 +
    pixmanFormatReshift format 4 4 + pixmanFormatReshift format 0 4

def pixmanA8r8g8b8 : Nat := pixmanFormat 32 2 8 8 8 8
def pixmanX8r8g8b8 : Nat := pixmanFormat 32 2 0 8 8 8
def pixmanA8b8g8r8 : Nat := pixmanFormat 32 3 8 8 8 8
def pixmanX8b8g8r8 : Nat := pixmanFormat 32 3 0 8 8 8
def pixmanB8g8r8a8 : Nat := pixmanFormat 32 8 8 8 8 8
def pixmanB8g8r8x8 : Nat := pixmanFormat 32 8 0 8 8 8
def pixmanR8g8b8a8 : Nat := pixmanFormat 32 9 8 8 8 8
def pixmanR8g8b8x8 : Nat := pixmanFormat 32 9 0 8 8 8

/-- An image of type `BITS`.  `stride` is in bytes; an image with a zero
dimension has no buffer and stride 0. -/
structure Image where
  format : Nat
  width : Nat
  height : Nat
  stride : Nat
  data : Memory

namespace Image

/-- Bytes of the image's buffer. -/
def bufSize (image : Image) : Nat := image.stride * image.height

end Image

def int32Max : Nat := 2147483647
def sizeMax : Nat := 18446744073709551615

/-- Conversion of an `int` holding the 32-bit pattern `value` to `size_t`. -/
def signExtend32 (value : Nat) : Nat :=
  if value < 2147483648 then value else value + (sizeMax + 1 - 4294967296)

/-- `create_bits`: the row stride of the new buffer, `none` when a check
fails. -/
def createBits (format width height : Nat) : Except Fault (Option Nat) :=
  let bpp := pixmanFormatBpp format
  if bpp = 0 then
    .error .divideByZero
  else if width ≥ int32Max / bpp then
    .ok none
  else if width * bpp > int32Max - 0x1f then
    .ok none
  else
    let stride := (width * bpp + 0x1f) / 32 * 4
    if stride = 0 then
      .error .divideByZero
    else if signExtend32 height ≥ sizeMax / stride then
      .ok none
    else
      .ok (some stride)

/-- `pixman_image_create_bits (format, width, height, NULL, 0)`.
`recordAlloc` and `bitsAlloc` tell whether the allocations of the image record
and of its buffer succeed; the record comes first. -/
def pixmanImageCreateBits (recordAlloc bitsAlloc : Bool)
    (format width height : Nat) : Except Fault (Option Image) :=
  if pixmanFormatBpp format < pixmanFormatDepth format then
    .ok none
  else if !recordAlloc then
    .ok none
  else if width ≠ 0 ∧ height ≠ 0 then
    match createBits format width height with
    | .error fault => .error fault
    | .ok none => .ok none
    | .ok (some stride) =>
        if bitsAlloc then
          .ok (some ⟨format, width, height, stride, fun _ => 0⟩)
        else
          .ok none
  else
    .ok (some ⟨format, width, height, 0, fun _ => 0⟩)

/-! Regions of one box, with 16-bit coordinates. -/

structure Box16 where
  x1 : Int
  y1 : Int
  x2 : Int
  y2 : Int
  deriving Repr, DecidableEq

/-- Conversion to `int16_t`. -/
def toInt16 (value : Nat) : Int :=
  ((value + 32768) % 65536 : Nat) - 32768

abbrev Region16 := Option Box16

def pixmanRegionInitRect (x y width height : Nat) : Region16 :=
  let box : Box16 :=
    ⟨toInt16 x, toInt16 y, toInt16 (x + width), toInt16 (y + height)⟩
  if box.x1 < box.x2 ∧ box.y1 < box.y2 then some box else none

def pixmanRegionIntersect : Region16 → Region16 → Region16
  | some left, some right =>
      if left.x2 ≤ right.x1 ∨ left.x1 ≥ right.x2 ∨
          left.y2 ≤ right.y1 ∨ left.y1 ≥ right.y2 then
        none
      else
        some ⟨max left.x1 right.x1, max left.y1 right.y1,
          min left.x2 right.x2, min left.y2 right.y2⟩
  | _, _ => none

def pixmanRegionNotEmpty (region : Region16) : Bool := region.isSome

end VirtioGpu.Gpu
