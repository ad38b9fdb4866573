import VirtioGpu.Vdpy.Announce
import VirtioGpu.Vdpy.EventLoops

namespace VirtioGpu.Vdpy

open Foundation

/-! `struct surface`, as both sides of the socket have it. -/

/-- The pointer `pixel` has no meaning on the other side. -/
structure SurfaceRecord where
  surfType : UInt32
  surfFormat : UInt32
  x : UInt32
  y : UInt32
  width : UInt32
  height : UInt32
  bpp : UInt32
  stride : UInt32
  pixel : UInt64
  dmabufFd : UInt32
  surfFourcc : UInt32
  dmabufOffset : UInt32
  deriving Repr, DecidableEq

/-- One word after the other, as they lie in memory. -/
def wordsBytes : List UInt32 → List UInt8
  | [] => []
  | word :: rest => wordBytes 4 word.toNat ++ wordsBytes rest

def word32At (bytes : List UInt8) (offset : Nat) : UInt32 :=
  UInt32.ofNat (wordAt bytes offset)

theorem length_wordsBytes (words : List UInt32) :
    (wordsBytes words).length = 4 * words.length := by
  induction words with
  | nil => rfl
  | cons word rest induction =>
      rw [wordsBytes, List.length_append, length_wordBytes, induction,
        List.length_cons]
      omega

theorem wordAt_append (front back : List UInt8) (offset : Nat) :
    wordAt (front ++ back) (front.length + offset) = wordAt back offset := by
  simp only [wordAt, ← List.drop_drop, List.drop_left']

theorem word32At_wordBytes (word : UInt32) (rest : List UInt8) :
    word32At (wordBytes 4 word.toNat ++ rest) 0 = word := by
  have front : ((wordBytes 4 word.toNat ++ rest).drop 0).take 4 =
      wordBytes 4 word.toNat := by
    apply List.take_left'
    exact length_wordBytes 4 _
  have small : word.toNat < 256 ^ 4 := word.toNat_lt
  rw [word32At, wordAt, front, wordOf_wordBytes, Nat.mod_eq_of_lt small,
    UInt32.ofNat_toNat]

/-- The word at a position is the one that was stored there. -/
theorem word32At_wordsBytes (words : List UInt32) (rest : List UInt8)
    (index : Nat) {word : UInt32} (stored : words[index]? = some word) :
    word32At (wordsBytes words ++ rest) (4 * index) = word := by
  induction words generalizing index with
  | nil => simp at stored
  | cons head words induction =>
      cases index with
      | zero =>
          cases stored
          rw [wordsBytes, List.append_assoc]
          exact word32At_wordBytes word _
      | succ index =>
          have later := induction index stored
          have skip := wordAt_append (wordBytes 4 head.toNat)
            (wordsBytes words ++ rest) (4 * index)
          rw [length_wordBytes] at skip
          rw [wordsBytes, List.append_assoc, word32At,
            show 4 * (index + 1) = 4 + 4 * index from by omega, skip]
          exact later

namespace SurfaceRecord

/-- The eight words before `pixel`. -/
def front (record : SurfaceRecord) : List UInt32 :=
  [record.surfType, record.surfFormat, record.x, record.y, record.width,
    record.height, record.bpp, record.stride]

/-- `dma_info`, and the padding that aligns the structure. -/
def dmaInfo (record : SurfaceRecord) : List UInt32 :=
  [record.dmabufFd, record.surfFourcc, record.dmabufOffset, 0]

def bytes (record : SurfaceRecord) : List UInt8 :=
  wordsBytes record.front ++
    (wordBytes 8 record.pixel.toNat ++ wordsBytes record.dmaInfo)

/-- The cast of `buf` to a pointer to the structure. -/
def parse (buf : List UInt8) : SurfaceRecord where
  surfType := word32At buf 0
  surfFormat := word32At buf 4
  x := word32At buf 8
  y := word32At buf 12
  width := word32At buf 16
  height := word32At buf 20
  bpp := word32At buf 24
  stride := word32At buf 28
  pixel := UInt64.ofNat (wordOf ((buf.drop 32).take 8))
  dmabufFd := word32At buf dmabufFdOffset
  surfFourcc := word32At buf 44
  dmabufOffset := word32At buf 48

variable (record : SurfaceRecord)

theorem length_front : (wordsBytes record.front).length = 32 :=
  length_wordsBytes record.front

@[simp] theorem length_bytes : record.bytes.length = surfaceSize := by
  rw [bytes, List.length_append, List.length_append, length_front,
    length_wordBytes, length_wordsBytes]
  rfl

theorem front_at (index : Nat) {word : UInt32}
    (stored : record.front[index]? = some word) :
    word32At record.bytes (4 * index) = word :=
  word32At_wordsBytes _ _ index stored

theorem dmaInfo_at (index : Nat) {word : UInt32}
    (stored : record.dmaInfo[index]? = some word) :
    word32At record.bytes (40 + 4 * index) = word := by
  have skip : ∀ rest : List UInt8,
      word32At (wordsBytes record.front ++
        (wordBytes 8 record.pixel.toNat ++ rest)) (40 + 4 * index) =
          word32At rest (4 * index) := by
    intro rest
    have size : (wordsBytes record.front ++
        wordBytes 8 record.pixel.toNat).length = 40 := by
      rw [List.length_append, length_front, length_wordBytes]
    rw [← List.append_assoc, word32At, ← size, wordAt_append, ← word32At]
  rw [bytes, skip]
  have found := word32At_wordsBytes record.dmaInfo [] index stored
  rwa [List.append_nil] at found

theorem pixel_at :
    UInt64.ofNat (wordOf ((record.bytes.drop 32).take 8)) = record.pixel := by
  have small : record.pixel.toNat < 256 ^ 8 := record.pixel.toNat_lt
  rw [bytes, List.drop_left' record.length_front,
    List.take_left' (length_wordBytes 8 _), wordOf_wordBytes,
    Nat.mod_eq_of_lt small, UInt64.ofNat_toNat]

/-- The client reads what the server has sent. -/
theorem parse_bytes : parse record.bytes = record := by
  unfold parse dmabufFdOffset
  rw [record.front_at 0 rfl, record.front_at 1 rfl, record.front_at 2 rfl,
    record.front_at 3 rfl, record.front_at 4 rfl, record.front_at 5 rfl,
    record.front_at 6 rfl, record.front_at 7 rfl, record.pixel_at,
    record.dmaInfo_at 0 rfl, record.dmaInfo_at 1 rfl,
    record.dmaInfo_at 2 rfl]

/-- A surface as the display thread announces it. -/
def surface (record : SurfaceRecord) : Surface where
  surfType :=
    if record.surfType.toNat = surfaceDmabuf then .dmabuf else .pixman
  dmabufFd := record.dmabufFd.toNat
  fields := record.bytes

end SurfaceRecord

/-- `client_send` is given `sizeof(struct surface)`. -/
def structSurface : SurfaceLayout where
  size := surfaceSize
  bytes := fun surf =>
    (surf.fields ++ List.replicate surfaceSize 0).take surfaceSize
  length_bytes := by
    intro surf
    simp
  fits := by decide

theorem structSurface_bytes (record : SurfaceRecord) :
    structSurface.bytes record.surface = record.bytes :=
  List.take_left' record.length_bytes

end VirtioGpu.Vdpy
