import VirtioGpu.Gpu.Local

namespace VirtioGpu.Gpu

open Foundation
open Virtio

/-! The device its driver and its display can tell: resources by id and
screens, each with its contents, and neither pointers nor counts. -/

structure Picture where
  view : View
  fd : Option Int

structure Screen where
  resourceId : Nat
  rect : Rect
  isActive : Bool
  deriving Repr, DecidableEq

structure Board where
  vmctx : Vmctx
  isBlobSupported : Bool
  pictures : Nat → Option Picture
  screens : List Screen
  vgaEnable : Bool

/-- A surface with the pixels behind its pointer. -/
inductive Frame where
  | pixels (format : Nat) (rect : Rect) (stride : Nat) (image : Image)
      (pixel : Nat)
  | dmabuf (rect : Rect) (stride : Nat) (fd : Int) (fourcc offset : Nat)
  | dmabufUpdate (fd : Int)

inductive Showing where
  | surfaceSet (scanoutId : Nat) (frame : Option Frame)
  | surfaceUpdate (scanoutId : Nat) (frame : Frame)
  | setModifier (scanoutId modifier : Nat)
  | cursorDefine (scanoutId x y hotX hotY width height : Nat) (image : Image)
  | cursorMove (scanoutId x y : Nat)

/-- What a command answers and what it has the display show. -/
structure Outcome where
  type : RespType
  body : RespBody
  shown : List Showing

/-- A bare header, and nothing for the display. -/
def Outcome.plain (type : RespType) : Outcome := ⟨type, .nodata, []⟩

/-! Pictures. -/

/-- A resource a command leaves behind: it keeps the dmabuf it had, and a new
blob gets the one the kernel made. -/
def Picture.become (env : Env) (found : Option Picture) (view : View) :
    Picture where
  view := view
  fd :=
    if view.record.blob then
      match found with
      | some picture => picture.fd
      | none => some env.createList
    else
      none

def Picture.pixels (picture : Picture) : Except Fault Image :=
  match picture.view.image with
  | none => .error .nullImage
  | some image => .ok image

def Picture.descriptor (picture : Picture) : Except Fault Int :=
  match picture.fd with
  | none => .error .nullDmaInfo
  | some fd => .ok fd

def Picture.frame (picture : Picture) (image : Image) (rect : Rect) : Frame :=
  let bytesPp := pixmanFormatBpp picture.view.record.format / 8
  .pixels picture.view.record.format rect image.stride image
    (bytesPp * rect.x % 4294967296 + rect.y * image.stride % 4294967296)

namespace Board

/-- The commands that act on one resource. -/
def onResource (board : Board) (env : Env) (cmd : Command) (memory : Memory) :
    Except Fault (Board × Outcome) := do
  let resourceId := touchedId cmd memory
  let found := board.pictures resourceId
  let (type, view) ← act env board.vmctx board.isBlobSupported cmd memory
    (found.map Picture.view)
  return (
    { board with
      pictures := Function.update board.pictures resourceId
        (view.map (Picture.become env found)) },
    .plain type)

/-! Screens. -/

def setScreen (board : Board) (scanoutId : Nat) (screen : Screen) : Board :=
  { board with screens := board.screens.set scanoutId screen }

def leaveVga (board : Board) : Board := { board with vgaEnable := false }

/-- Give a screen a resource, or none under an id that names nothing.  A
resource that is no blob is to have an image. -/
def give (board : Board) (scanoutId resourceId : Nat) (rect : Rect) :
    Except Fault Board := do
  match board.pictures resourceId with
  | none => return board.setScreen scanoutId ⟨resourceId, rect, false⟩
  | some picture =>
      if picture.view.record.blob then
        return board.setScreen scanoutId ⟨resourceId, rect, true⟩
      else
        let _ ← picture.pixels
        return board.setScreen scanoutId ⟨resourceId, rect, true⟩

/-- A scanout that shows nothing. -/
def blank (board : Board) (scanoutId : Nat) (rect : Rect) :
    Except Fault (Board × Outcome) := do
  let board ← board.give scanoutId 0 rect
  return (board, ⟨.okNodata, .nodata, [.surfaceSet scanoutId none]⟩)

def setScanout (board : Board) (req : SetScanout) :
    Except Fault (Board × Outcome) :=
  if req.scanoutId ≥ board.screens.length then
    .error .formatString
  else
    match (if req.resourceId = 0 then none
      else board.pictures req.resourceId) with
    | none => board.blank req.scanoutId req.r
    | some picture =>
        if !rectInside req.r picture.view.record then
          .ok (board.leaveVga, .plain .errInvalidParameter)
        else do
          let board ← board.give req.scanoutId req.resourceId req.r
          let image ← picture.pixels
          return (board.leaveVga, ⟨.okNodata, .nodata,
            [.surfaceSet req.scanoutId (some (picture.frame image req.r))]⟩)

def blobFrame (req : SetScanoutBlob) (fd : Int) : Frame :=
  .dmabuf req.r req.stride fd (drmFourcc req.format)
    ((req.offset + 4 * req.r.x + req.r.y * req.stride) % 4294967296)

/-- The request of a resource that is no blob is read as one of
`SET_SCANOUT`. -/
def setScanoutBlob (board : Board) (req : SetScanoutBlob) (plain : SetScanout) :
    Except Fault (Board × Outcome) :=
  let board := board.leaveVga
  if req.scanoutId ≥ board.screens.length then
    .error .formatString
  else if req.resourceId = 0 then
    board.blank req.scanoutId req.r
  else
    match board.pictures req.resourceId with
    | none => .ok (board, .plain .errInvalidResourceId)
    | some picture =>
        if !picture.view.record.blob then
          board.setScanout plain
        else do
          let board ← board.give req.scanoutId req.resourceId req.r
          let fd ← picture.descriptor
          return (board, ⟨.okNodata, .nodata,
            [.surfaceSet req.scanoutId (some (blobFrame req fd))]⟩)

def needsFlush (screen : Screen) (resourceId : Nat) (flushRect : Rect) :
    Bool :=
  if resourceId ≠ screen.resourceId then
    false
  else
    pixmanRegionNotEmpty
      (pixmanRegionIntersect (regionOfRect screen.rect)
        (regionOfRect flushRect))

def screenAt (board : Board) (scanoutId : Nat) : Screen :=
  board.screens.getD scanoutId ⟨0, Rect.zero, false⟩

/-- The screens a flush reaches, with their positions. -/
def screensToFlush (board : Board) (resourceId : Nat) (flushRect : Rect) :
    List (Nat × Screen) :=
  ((List.range board.screens.length).map fun index =>
    (index, board.screenAt index)).filter fun entry =>
      needsFlush entry.2 resourceId flushRect

/-- Every screen the flush reaches is shown what the resource holds now. -/
def resourceFlush (board : Board) (req : ResourceFlush) :
    Except Fault (Board × Outcome) :=
  let flushed := board.screensToFlush req.resourceId req.r
  match board.pictures req.resourceId with
  | none => .ok (board, .plain .errInvalidResourceId)
  | some picture =>
      if picture.view.record.blob then do
        let shown ← flushed.mapM fun entry => do
          let fd ← picture.descriptor
          return Showing.surfaceUpdate entry.1 (.dmabufUpdate fd)
        return (board, ⟨.okNodata, .nodata, shown⟩)
      else do
        let image ← picture.pixels
        return (board, ⟨.okNodata, .nodata, flushed.map fun entry =>
          .surfaceUpdate entry.1 (picture.frame image entry.2.rect)⟩)

/-! Commands that change nothing. -/

def getEdid (board : Board) (env : Env) (req : GetEdid) :
    Except Fault (Board × Outcome) :=
  if req.scanout ≥ board.screens.length then
    .error .formatString
  else
    .ok (board, ⟨.okEdid,
      .edid virtioGpuEdidSize fun index =>
        if index < virtioGpuEdidSize then env.edid req.scanout index else 0,
      []⟩)

def getDisplayInfo (board : Board) (env : Env) : Outcome :=
  ⟨.okDisplayInfo,
    .displayInfo fun index =>
      if index < board.screens.length then
        ⟨⟨0, 0, (env.displayInfo index).1, (env.displayInfo index).2⟩, 1⟩
      else
        ⟨Rect.zero, 0⟩,
    []⟩

def setModifier (cmd : Command) (req : SetModifier) : Outcome :=
  if cmd.iovcnt < 2 then
    .plain .errInvalidParameter
  else
    ⟨.okNodata, .nodata, [.setModifier req.scanoutId req.modifier]⟩

/-- A control command. -/
def serve (board : Board) (env : Env) (cmd : Command) (memory : Memory) :
    Except Fault (Board × Outcome) :=
  match CtrlCmd.ofCode cmd.hdr.type with
  | some .getEdid =>
      board.getEdid env (GetEdid.load memory cmd.address)
  | some .getDisplayInfo => .ok (board, board.getDisplayInfo env)
  | some .setScanout => board.setScanout (SetScanout.load memory cmd.address)
  | some .resourceFlush =>
      board.resourceFlush (ResourceFlush.load memory cmd.address)
  | some .setScanoutBlob =>
      if !board.isBlobSupported then .ok (board, .plain .errUnspec)
      else board.setScanoutBlob (SetScanoutBlob.load memory cmd.address)
        (SetScanout.load memory cmd.address)
  | some .setModifier =>
      .ok (board, setModifier cmd (SetModifier.load memory cmd.address))
  | some .resourceCreate2d | some .resourceUnref
  | some .resourceAttachBacking | some .resourceDetachBacking
  | some .transferToHost2d | some .resourceCreateBlob =>
      board.onResource env cmd memory
  | none => .ok (board, .plain .errUnspec)

def updateCursor (board : Board) (req : UpdateCursor) :
    Except Fault (List Showing) :=
  if req.resourceId = 0 then
    .ok []
  else
    match board.pictures req.resourceId with
    | none => .ok []
    | some picture => do
        let image ← picture.pixels
        return [.cursorDefine req.scanoutId req.x req.y req.hotX req.hotY
          picture.view.record.width picture.view.record.height image]

/-- A cursor command. -/
def point (board : Board) (cmd : Command) (memory : Memory) :
    Except Fault (List Showing) :=
  match CursorCmd.ofCode cmd.hdr.type with
  | some .updateCursor => do
      let address ← cmd.base 0
      board.updateCursor (UpdateCursor.load memory address)
  | some .moveCursor => do
      let address ← cmd.base 0
      let req := UpdateCursor.load memory address
      return [.cursorMove req.scanoutId req.x req.y]
  | none => .ok []

/-- A reset drops the resources and leaves the screens. -/
def reset (board : Board) : Board :=
  { board with pictures := fun _ => none, vgaEnable := true }

end Board

/-! The board of a device, and what its calls show. -/

def pictureOf (gpu : GpuState) (r2d : Resource2d) : Picture :=
  ⟨viewOf gpu.images r2d, r2d.dmaInfo.bind gpu.dmabufs.contents⟩

def Scanout.screen (scanout : Scanout) : Screen :=
  ⟨scanout.resourceId, scanout.scanoutRect, scanout.isActive⟩

def GpuState.board (gpu : GpuState) : Board where
  vmctx := gpu.vmctx
  isBlobSupported := gpu.isBlobSupported
  pictures := fun resourceId =>
    (virtioGpuFindResource2d gpu resourceId).map (pictureOf gpu)
  screens := gpu.scanouts.map Scanout.screen
  vgaEnable := gpu.vgaEnable

/-- `none` for a surface whose pointer leads nowhere. -/
def frameOf (images : RefHeap Image) : Surface → Option Frame
  | .pixman format rect stride cell pixel =>
      (cell.bind images.contents).map fun image =>
        .pixels format rect stride image pixel
  | .dmabuf rect stride fd fourcc offset =>
      some (.dmabuf rect stride fd fourcc offset)
  | .dmabufUpdate fd => some (.dmabufUpdate fd)

def showingOf (images : RefHeap Image) : DisplayCall → Option Showing
  | .surfaceSet scanoutId none => some (.surfaceSet scanoutId none)
  | .surfaceSet scanoutId (some surface) =>
      (frameOf images surface).map fun frame =>
        .surfaceSet scanoutId (some frame)
  | .surfaceUpdate scanoutId surface =>
      (frameOf images surface).map (.surfaceUpdate scanoutId)
  | .setModifier scanoutId modifier =>
      some (.setModifier scanoutId modifier)
  | .cursorDefine scanoutId x y hotX hotY width height cell =>
      (cell.bind images.contents).map
        (.cursorDefine scanoutId x y hotX hotY width height)
  | .cursorMove scanoutId x y => some (.cursorMove scanoutId x y)

/-- A reply that brings the board about, and shows what it shows. -/
structure Meets (images : RefHeap Image) (acted : Board × Outcome)
    (reply : Reply) : Prop where
  board : reply.gpu.board = acted.1
  answers : reply.Answers acted.2.type
  body : reply.resp.body = acted.2.body
  shown : reply.display.map (showingOf images) = acted.2.shown.map some

end VirtioGpu.Gpu
