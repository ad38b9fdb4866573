import VirtioGpu.Foundation.Buffers

namespace VirtioGpu.Vdpy

open Foundation

/-! The EDID blocks that `vdpy_edid_generate` writes into a buffer. -/

def vdpyDefaultWidth : Nat := 1920
def vdpyDefaultHeight : Nat := 1080

def edidBasicBlockSize : Nat := 128
def edidCea861ExtBlockSize : Nat := 128

/-- Conversion to `uint32_t`. -/
def word32 (value : Nat) : Nat := value % 4294967296

inductive TimingMode where
  | estt
  | stdt
  | estt3
  | cea861
  deriving Repr, DecidableEq

structure TimingEntry where
  hpixel : Nat
  vpixel : Nat
  byte : Nat := 0
  byteT3 : Nat := 0
  bit : Nat := 0
  hz : Nat
  isStd : Bool := false
  isCea861 : Bool := false
  vic : Nat := 0
  deriving Repr, DecidableEq

def timings : List TimingEntry :=
  [{ hpixel := 1280, vpixel := 1024, byte := 36, bit := 0, hz := 75 },
    { hpixel := 1024, vpixel := 768, byte := 36, bit := 1, hz := 75 },
    { hpixel := 1024, vpixel := 768, byte := 36, bit := 3, hz := 60 },
    { hpixel := 800, vpixel := 600, byte := 35, bit := 0, hz := 60 },
    { hpixel := 640, vpixel := 480, byte := 35, bit := 5, hz := 60 },
    { hpixel := 1920, vpixel := 1080, hz := 60, isStd := true },
    { hpixel := 1680, vpixel := 1050, hz := 60, isStd := true },
    { hpixel := 1600, vpixel := 1200, hz := 60, isStd := true },
    { hpixel := 1600, vpixel := 900, hz := 60, isStd := true },
    { hpixel := 1440, vpixel := 900, hz := 60, isStd := true },
    { hpixel := 3840, vpixel := 2160, hz := 60, isCea861 := true, vic := 97 }]

structure FrameParam where
  havPixel : Nat
  hbPixel : Nat
  hfpPixel : Nat
  hspPixel : Nat
  lhbPixel : Nat
  vavLine : Nat
  vbLine : Nat
  vfpLine : Nat
  vspLine : Nat
  tvbLine : Nat
  pixelClock : Nat
  width : Nat
  height : Nat
  deriving Repr, DecidableEq

structure BaseParam where
  hPixel : Nat
  vPixel : Nat
  rate : Nat
  width : Nat
  height : Nat
  idManuf : List Char
  idProduct : Nat
  idSn : Nat
  sn : List Char
  productName : List Char
  deriving Repr, DecidableEq

def vdpyEdidSetBaseparam (width height : Nat) : BaseParam where
  hPixel := width
  vPixel := height
  rate := 60
  width := width
  height := height
  idManuf := ['A', 'C', 'R', 'N']
  idProduct := 4321
  idSn := 12345678
  sn := ['A', '0', '1', '2', '3', '4', '5', '6', '7', '8', '9']
  productName :=
    ['A', 'C', 'R', 'N', '_', 'M', 'o', 'n', 'i', 't', 'o', 'r']

/-- The products are those of `uint32_t` values. -/
def vdpyEdidSetFrame (bParam : BaseParam) : FrameParam :=
  let hbPixel := word32 (bParam.hPixel * 35) / 100
  let vbLine := word32 (bParam.vPixel * 35) / 1000
  { havPixel := bParam.hPixel
    hbPixel := hbPixel
    hfpPixel := word32 (bParam.hPixel * 25) / 100
    hspPixel := word32 (bParam.hPixel * 3) / 100
    lhbPixel := 0
    vavLine := bParam.vPixel
    vbLine := vbLine
    vfpLine := word32 (bParam.vPixel * 5) / 1000
    vspLine := word32 (bParam.vPixel * 5) / 1000
    tvbLine := 0
    pixelClock := word32 (bParam.rate * (bParam.hPixel + hbPixel) *
      (bParam.vPixel + vbLine))
    width := bParam.width
    height := bParam.height }

/-- A coordinate in ten-thousandths as a fraction of 1024, rounded. -/
def transto10bits (color : Nat) : Nat := (color * 2048 + 10000) / 20000

def vdpyEdidSetColor (edid : Buffer)
    (redX redY greenX greenY blueX blueY whiteX whiteY : Nat) : Buffer :=
  let rx := transto10bits redX
  let ry := transto10bits redY
  let gx := transto10bits greenX
  let gy := transto10bits greenY
  let bx := transto10bits blueX
  let byy := transto10bits blueY
  let wx := transto10bits whiteX
  let wy := transto10bits whiteY
  edid.putAll
    [(25, (rx &&& 0x03) <<< 6 ||| (ry &&& 0x03) <<< 4 |||
        (gx &&& 0x03) <<< 2 ||| gy &&& 0x03),
      (26, (bx &&& 0x03) <<< 6 ||| (byy &&& 0x03) <<< 4 |||
        (wx &&& 0x03) <<< 2 ||| wy &&& 0x03),
      (27, rx >>> 2), (28, ry >>> 2), (29, gx >>> 2), (30, gy >>> 2),
      (31, bx >>> 2), (32, byy >>> 2), (33, wx >>> 2), (34, wy >>> 2)]

/-! The table-driven loop of `vdpy_edid_set_timing`. -/

structure TimingLoop where
  edid : Buffer
  addr : Nat
  stdcnt : Nat
  numTimings : Nat

/-- The aspect-ratio code `AR` of a standard timing. -/
def standardAr (timing : TimingEntry) (hpixel : Nat) : Int :=
  if timing.hpixel = 0 ∨ timing.vpixel = 0 then -1
  else if hpixel &&& 0xff00 ≠ 0 then -2
  else if timing.hpixel * 10 = timing.vpixel * 16 then 0
  else if timing.hpixel * 3 = timing.vpixel * 4 then 1
  else if timing.hpixel * 4 = timing.vpixel * 5 then 2
  else if timing.hpixel * 9 = timing.vpixel * 16 then 3
  else -2

def TimingLoop.putPair (loop : TimingLoop) (first second : Nat) :
    TimingLoop :=
  { loop with
    edid := loop.edid.putAll [(loop.addr, first), (loop.addr + 1, second)]
    addr := loop.addr + 2
    stdcnt := loop.stdcnt + 1 }

/-- One entry of the table.  `hz - 60` is taken modulo 64. -/
def TimingLoop.step (mode : TimingMode) (loop : TimingLoop)
    (timing : TimingEntry) : TimingLoop :=
  match mode with
  | .estt =>
      if timing.byte ≠ 0 then
        { loop with
          edid := loop.edid.orAt (loop.addr + timing.byte)
            (1 <<< timing.bit) }
      else
        loop
  | .estt3 =>
      if timing.byteT3 ≠ 0 then
        { loop with
          edid := loop.edid.orAt (loop.addr + timing.byteT3)
            (1 <<< timing.bit) }
      else
        loop
  | .stdt =>
      if loop.stdcnt < 8 ∧ timing.isStd then
        let hpixel := (timing.hpixel / 8 + 65536 - 31) % 65536
        let ar := standardAr timing hpixel
        if ar ≥ 0 then
          loop.putPair (hpixel &&& 0xff)
            (ar.toNat <<< 6 ||| (timing.hz + 64 - 60) % 64)
        else if ar = -1 then
          loop.putPair 0x01 0x01
        else
          loop
      else
        loop
  | .cea861 =>
      if timing.isCea861 then
        { loop with
          edid := loop.edid.put loop.addr timing.vic
          addr := loop.addr + 1
          numTimings := loop.numTimings + 1 }
      else
        loop

/-- The loop that fills the standard timings up to eight. -/
def TimingLoop.padStd (loop : TimingLoop) : Nat → TimingLoop
  | 0 => loop
  | count + 1 => (loop.putPair 0x01 0x01).padStd count

/-- The buffer afterwards, and the number of CEA-861 timings. -/
def vdpyEdidSetTiming (edid : Buffer) (addr : Nat) (mode : TimingMode) :
    Buffer × Nat :=
  let start : TimingLoop :=
    ⟨edid, if mode = .stdt then addr + 38 else addr, 0, 0⟩
  let loop := timings.foldl (TimingLoop.step mode) start
  let loop := if mode = .stdt then loop.padStd (8 - loop.stdcnt) else loop
  (loop.edid, loop.numTimings)

/-! Descriptors. -/

def vdpyEdidSetDtd (edid : Buffer) (dtd : Nat) (frame : FrameParam) :
    Buffer :=
  if frame.pixelClock / 10000 > 65535 then
    edid.put (dtd + 3) 0x10
  else
    let pixelClk := frame.pixelClock / 10000 % 65536
    edid.putAll
      [(dtd, pixelClk % 256),
        (dtd + 1, pixelClk / 256),
        (dtd + 2, frame.havPixel &&& 0xff),
        (dtd + 3, frame.hbPixel &&& 0xff),
        (dtd + 4, (frame.havPixel &&& 0xf00) >>> 4 |||
          (frame.hbPixel &&& 0xf00) >>> 8),
        (dtd + 5, frame.vavLine &&& 0xff),
        (dtd + 6, frame.vbLine &&& 0xff),
        (dtd + 7, (frame.vavLine &&& 0xf00) >>> 4 |||
          (frame.vbLine &&& 0xf00) >>> 8),
        (dtd + 8, frame.hfpPixel &&& 0xff),
        (dtd + 9, frame.hspPixel &&& 0xff),
        (dtd + 10, (frame.vfpLine &&& 0xf) <<< 4 ||| frame.vspLine &&& 0xf),
        (dtd + 11, (frame.hfpPixel &&& 0x300) >>> 2 |||
          (frame.hspPixel &&& 0x300) >>> 4 |||
          (frame.vfpLine &&& 0x030) >>> 6 |||
          (frame.vspLine &&& 0x030) >>> 8),
        (dtd + 12, frame.width &&& 0xff),
        (dtd + 13, frame.height &&& 0xff),
        (dtd + 14, (frame.width &&& 0xf00) >>> 4 |||
          (frame.height &&& 0xf00) >>> 8),
        (dtd + 15, frame.lhbPixel &&& 0xff),
        (dtd + 16, frame.tvbLine &&& 0xff),
        (dtd + 17, 0x18)]

/-- The text of a name or a serial number, ended by a line feed and padded
with blanks. -/
def setDescriptorText (edid : Buffer) (desc : Nat) (text : List Char) :
    Buffer :=
  let edid := edid.fill (desc + 5) 0x20 13
  let text := text.take 12
  let edid := edid.copy (desc + 5) (text.map Char.toNat)
  edid.put (desc + (text.length + 5)) 0x0a

def vdpyEdidSetDescripter (edid : Buffer) (desc : Nat) (isDtd : Bool)
    (tag : Nat) (bParam : BaseParam) : Buffer :=
  if isDtd then
    vdpyEdidSetDtd edid desc (vdpyEdidSetFrame bParam)
  else
    let edid := edid.put (desc + 3) tag
    if tag = 0xf7 then
      (vdpyEdidSetTiming (edid.put (desc + 5) 0x0a) desc .estt3).1
    else if tag = 0xfd then
      edid.putAll
        [(desc + 5, 50), (desc + 6, 125), (desc + 7, 30), (desc + 8, 160),
          (desc + 9, 2550 / 10), (desc + 10, 0x01), (desc + 11, 0x0a)]
    else if tag = 0xfc then
      setDescriptorText edid desc bParam.productName
    else if tag = 0xff then
      setDescriptorText edid desc bParam.sn
    else
      edid

def vdpyEdidGetChecksum (edid : Buffer) (base : Nat) : UInt8 :=
  0 - Buffer.byteSum edid.bytes base 127

/-! The whole buffer. -/

structure EdidInfo where
  prefx : Nat
  prefy : Nat
  deriving Repr, DecidableEq

/-- A letter of the manufacturer's id in five bits. -/
def manufLetter (letter : Char) : Nat := (letter.toNat - 64) &&& 0x1f

/-- Bytes 1 to 24. -/
def setIdentification (edid : Buffer) (bParam : BaseParam)
    (info : EdidInfo) : Buffer :=
  let edid := edid.fill 1 0xff 6
  let idManuf := manufLetter (bParam.idManuf.getD 0 'A') <<< 10 |||
    manufLetter (bParam.idManuf.getD 1 'A') <<< 5 |||
    manufLetter (bParam.idManuf.getD 2 'A')
  let edid := edid.putAll [(8, idManuf >>> 8), (9, idManuf &&& 0xff)]
  let edid := edid.copy 10 [bParam.idProduct % 256, bParam.idProduct / 256]
  let edid := edid.copy 12
    [bParam.idSn % 256, bParam.idSn / 256 % 256, bParam.idSn / 65536 % 256,
      bParam.idSn / 16777216]
  edid.putAll
    [(16, 0), (17, 2018 - 1990), (18, 1), (19, 4), (20, 0xa5),
      (21, info.prefx / 10), (22, info.prefy / 10), (23, 120), (24, 0x06)]

/-- Bytes 25 to 125. -/
def setContents (edid : Buffer) (bParam : BaseParam) : Buffer :=
  let edid := vdpyEdidSetColor edid 6400 3300 3000 6000 1500 600 3127 3290
  let edid := (vdpyEdidSetTiming edid 0 .estt).1
  let edid := (vdpyEdidSetTiming edid 0 .stdt).1
  let edid := vdpyEdidSetDescripter edid 54 true 0 bParam
  let edid := vdpyEdidSetDescripter edid 72 false 0xfd bParam
  let edid := vdpyEdidSetDescripter edid 90 false 0xfc bParam
  vdpyEdidSetDescripter edid 108 false 0xff bParam

/-- The number of extension blocks and the checksum of the first block. -/
def setBlockEnd (edid : Buffer) (extensions : Nat) : Buffer :=
  let edid := edid.put 126 extensions
  edid.put 127 (vdpyEdidGetChecksum edid 0).toNat

/-- The CEA-861 extension block. -/
def setExtension (edid : Buffer) : Buffer :=
  let edid := edid.putAll
    [(edidBasicBlockSize + 0, 0x02), (edidBasicBlockSize + 1, 0x03)]
  let edid := edid.orAt (edidBasicBlockSize + 4) (0x02 <<< 5)
  let timed := vdpyEdidSetTiming edid (edidBasicBlockSize + 5) .cea861
  let edid := timed.1.orAt (edidBasicBlockSize + 4) timed.2
  let edid := edid.orAt (edidBasicBlockSize + 2) (5 + timed.2)
  edid.put (edidBasicBlockSize + 127)
    (vdpyEdidGetChecksum edid edidBasicBlockSize).toNat

/-- What `vdpy_edid_generate` writes after clearing the buffer. -/
def fillEdid (edid : Buffer) (size : Nat) (info : EdidInfo) : Buffer :=
  let bParam := vdpyEdidSetBaseparam info.prefx info.prefy
  let edid := setIdentification edid bParam info
  let edid := setContents edid bParam
  let edid := setBlockEnd edid 0
  if size ≥ edidBasicBlockSize + edidCea861ExtBlockSize then
    setExtension (setBlockEnd edid 1)
  else
    edid

def vdpyEdidGenerate (edid : Buffer) (size : Nat) (info : EdidInfo) :
    Buffer :=
  fillEdid (edid.fill 0 0 size) size info

end VirtioGpu.Vdpy
