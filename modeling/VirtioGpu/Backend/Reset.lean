import VirtioGpu.Backend.Representation
import VirtioGpu.Gpu.Alike

namespace VirtioGpu.Backend

open Foundation
open Virtio
open Gpu

/-! Writing 0 to the status register, against a device fresh from
`virtio_gpu_init`. -/

/-- The device right after its initialisation. -/
def initialOf (device : Device) : Device :=
  virtioGpuInit device.gpu.vmctx device.gpu.isBlobSupported
    device.gpu.scanouts.length

/-- The device is like a fresh one: in the registers under every queue
selection, the configuration, the resources, the scanouts, and the answers to
every sequence of commands.  The commands in flight at the reset are not
covered, nor is the modifier that the display server keeps. -/
structure RestoresInitial (device : Device) : Prop where
  base : device.base = (initialOf device).base
  registers : ∀ curq offset size,
    virtioCommonCfgRead { device.base with curq := curq } device.queues offset
        size =
      virtioCommonCfgRead { (initialOf device).base with curq := curq }
        (initialOf device).queues offset size
  cfg : device.cfg = (initialOf device).cfg
  resources : device.gpu.r2dList = []
  scanouts : ∀ scanout, scanout ∈ device.gpu.scanouts →
    scanout.isActive = false ∧ scanout.resourceId = 0 ∧
      scanout.curImg = none ∧ scanout.dmaBuf = none
  answers : ∀ requests,
    serveAll device.gpu requests = serveAll (initialOf device).gpu requests

/-- A scanout that was never turned on, or was turned off with an empty
rectangle. -/
structure BlankScanout (scanout : Scanout) : Prop where
  inactive : scanout.isActive = false
  resourceId : scanout.resourceId = 0
  image : scanout.curImg = none
  dmabuf : scanout.dmaBuf = none
  hidden : ¬scanout.scanoutRect.Visible

instance (scanout : Scanout) : Decidable (BlankScanout scanout) :=
  decidable_of_iff
    (scanout.isActive = false ∧ scanout.resourceId = 0 ∧
      scanout.curImg = none ∧ scanout.dmaBuf = none ∧
      ¬scanout.scanoutRect.Visible)
    ⟨fun all => ⟨all.1, all.2.1, all.2.2.1, all.2.2.2.1, all.2.2.2.2⟩,
      fun blank => ⟨blank.inactive, blank.resourceId, blank.image,
        blank.dmabuf, blank.hidden⟩⟩

/-- Everything the reset forgets is as it was in the beginning. -/
structure Untouched (device : Device) : Prop where
  qsize : ∀ queue, (device.queues queue).qsize = virtioGpuRingsz
  events : device.cfg.eventsRead = 0
  scanouts : ∀ scanout, scanout ∈ device.gpu.scanouts → BlankScanout scanout

instance (device : Device) : Decidable (Untouched device) :=
  decidable_of_iff
    ((∀ queue, queue ∈ [Queue.control, .cursor] →
        (device.queues queue).qsize = virtioGpuRingsz) ∧
      device.cfg.eventsRead = 0 ∧
      ∀ scanout, scanout ∈ device.gpu.scanouts → BlankScanout scanout)
    ⟨fun all => ⟨fun queue => all.1 queue (by cases queue <;> simp), all.2.1,
        all.2.2⟩,
      fun untouched => ⟨fun queue _ => untouched.qsize queue,
        untouched.events, untouched.scanouts⟩⟩

/-! What no step changes. -/

structure SetUp (device : Device) : Prop where
  caps : device.base.deviceCaps = hostCaps device.gpu.isBlobSupported
  numScanouts : device.cfg.numScanouts = device.gpu.scanouts.length
  numCapsets : device.cfg.numCapsets = 0
  eventsClear : device.cfg.eventsClear = 0

theorem SetUp.with_gpu {device : Device} {gpu : GpuState}
    (setUp : SetUp device) (same : SameSetup device.gpu gpu) :
    SetUp { device with gpu := gpu } := by
  refine ⟨?_, ?_, setUp.numCapsets, setUp.eventsClear⟩
  · rw [setUp.caps, same.isBlobSupported]
  · rw [setUp.numScanouts, same.scanoutNum]

theorem SetUp.with_queues {device : Device} {queues : Queue → VqInfo}
    (setUp : SetUp device) : SetUp { device with queues := queues } :=
  ⟨setUp.caps, setUp.numScanouts, setUp.numCapsets, setUp.eventsClear⟩

theorem SetUp.with_base {device : Device} {base : VirtioBase}
    (setUp : SetUp device) (caps : base.deviceCaps = device.base.deviceCaps) :
    SetUp { device with base := base } :=
  ⟨caps.trans setUp.caps, setUp.numScanouts, setUp.numCapsets,
    setUp.eventsClear⟩

theorem SetUp.writeQueue {device : Device} (setUp : SetUp device)
    (write : VqInfo → VqInfo) : SetUp (writeQueue device write) := by
  unfold Backend.writeQueue
  cases Queue.ofIndex device.base.curq with
  | none => exact setUp
  | some queue => exact setUp.with_queues

theorem SetUp.enableQueue {device : Device} (setUp : SetUp device) :
    SetUp (enableQueue device).1 := by
  unfold Backend.enableQueue
  cases Queue.ofIndex device.base.curq with
  | none => exact setUp
  | some queue => exact setUp.with_queues

theorem SetUp.writeStatus {device : Device} (setUp : SetUp device)
    (value : Nat) : Ensures (writeStatus device value) SetUp := by
  refine .ite (fun _ => ?_) fun _ => .ok (setUp.with_base rfl)
  refine .bind fun gpu cleared => .pure ?_
  have same : SameSetup device.gpu gpu := resetGpu_sameSetup cleared
  have kept := setUp.with_gpu same
  exact ⟨kept.caps, kept.numScanouts, kept.numCapsets, kept.eventsClear⟩

theorem SetUp.writeRegister {device : Device} (setUp : SetUp device)
    (value : Nat) (reg : CommonReg) :
    Ensures (writeRegister device value reg) fun written =>
      SetUp written.1 := by
  cases reg with
  | status =>
      exact .bind fun after ran =>
        .pure (setUp.writeStatus value after ran)
  | gf =>
      exact .ite (fun _ => .ok setUp) fun _ =>
        .ok (setUp.with_base (negotiate_deviceCaps device.base value))
  | qEnable => exact .ok setUp.enableQueue
  | qSize | qMsix | qDesclo | qDeschi | qAvaillo | qAvailhi | qUsedlo
  | qUsedhi =>
      refine .ok ?_
      dsimp only
      exact setUp.writeQueue _
  | dfselect | gfselect | msix | qSelect =>
      exact .ok (SetUp.with_base setUp rfl)
  | df | numq | cfggeneration | qNoff => exact .ok setUp

theorem SetUp.virtioCommonCfgWrite {device : Device} (setUp : SetUp device)
    (offset size value : Nat) :
    Ensures (virtioCommonCfgWrite device offset size value) fun written =>
      SetUp written.1 := by
  intro written ran
  rcases virtioCommonCfgWrite_cases ran with rfl | ⟨reg, _, _, _, wrote⟩
  · exact setUp
  · exact setUp.writeRegister value reg written wrote

/-- The bits written to `events_clear` clear themselves. -/
theorem SetUp.virtioDeviceCfgWrite {device : Device} (setUp : SetUp device)
    (offset size value : Nat) :
    Ensures (virtioDeviceCfgWrite device offset size
      (sizedValue size value)) SetUp := by
  refine .ite (fun _ => .ok setUp) fun _ => ?_
  refine .ite (fun _ => ?_) fun _ => .ok setUp
  refine .ite (fun _ => .error) fun short => .ok ?_
  refine ⟨setUp.caps, setUp.numScanouts, setUp.numCapsets, ?_⟩
  show clearBits _ _ = 0
  have bound : 2 ^ (8 * size) ≤ 4294967296 := by
    calc 2 ^ (8 * size) ≤ 2 ^ 32 :=
          Nat.pow_le_pow_right (by decide) (by omega)
      _ = 4294967296 := by decide
  have small : sizedValue size value < 2 ^ (8 * size) :=
    Nat.mod_lt _ (Nat.two_pow_pos _)
  rw [setUp.eventsClear, Nat.mod_eq_of_lt (Nat.lt_of_lt_of_le small bound),
    Nat.zero_mod, Nat.sub_zero, Nat.zero_add, Nat.mod_eq_of_lt small]
  unfold clearBits
  rw [Nat.and_self, Nat.xor_self]

theorem Section.setUp {env : Env} {before after : Machine}
    {events : List Event} (setUp : SetUp before.device)
    (ran : Section env before after events) : SetUp after.device := by
  have gpu := ran.gpuStep.sameSetup
  cases ran with
  | idle _ | more _ _ | done _ _ | released _ => exact setUp
  | rejected _ _ | accepted _ _ | ended _ => exact setUp.with_queues
  | served _ _ _ | servedCursor _ _ => exact setUp.with_gpu gpu

theorem reached_setUp {state : Traced} (reached : backend.Reached state) :
    SetUp state.machine.device := by
  refine reached.invariant (fun state => SetUp state.machine.device) ?_ ?_
  · rintro state ⟨vmctx, isBlobSupported, scanoutNum, memory, _, _, rfl⟩
    refine ⟨rfl, ?_, rfl, rfl⟩
    exact List.length_replicate.symm
  · rintro before label after setUp ⟨_, machine, events, stepped, rfl⟩
    cases label with
    | guest memory =>
        cases stepped
        exact setUp
    | commonWrite offset size value =>
        obtain ⟨written, ran, rest⟩ := bind_eq_ok stepped
        cases rest
        exact setUp.virtioCommonCfgWrite _ _ _ written ran
    | deviceWrite offset size value =>
        obtain ⟨device, ran, rest⟩ := bind_eq_ok stepped
        cases rest
        exact setUp.virtioDeviceCfgWrite _ _ _ device ran
    | hotplug =>
        cases stepped
        refine ⟨?_, setUp.numScanouts, setUp.numCapsets, setUp.eventsClear⟩
        show (virtioConfigChanged before.machine.device.base).deviceCaps = _
        unfold virtioConfigChanged
        split
        · exact setUp.caps
        · exact setUp.caps
    | start queue iov flags =>
        cases stepped
        unfold startBh
        cases before.machine.task with
        | idle => exact setUp
        | testing _ _ | fetching _ _ | serving _ _ _ _ | releasing _ _ _
        | ending _ => exact setUp
    | run env => exact (bhStep_section stepped).setUp setUp

/-! The device a reset leaves. -/

/-- A device whose reset left this GPU behind. -/
def resetDevice (device : Device) (gpu : GpuState) : Device :=
  virtioResetDev
    { device with base := { device.base with status := 0 }, gpu := gpu }

theorem statusWrite_eq_ok {device : Device}
    {written : Device × List Translation}
    (ran : virtioCommonCfgWrite device CommonReg.status.offset 1 0 =
      .ok written) :
    ∃ gpu, resetGpu device.gpu = .ok gpu ∧
      written.1 = resetDevice device gpu := by
  have selected : virtioCommonCfgWrite device CommonReg.status.offset 1 0 =
      writeRegister device 0 .status :=
    virtioCommonCfgWrite_register device 0 rfl
  rw [selected] at ran
  obtain ⟨after, wrote, rest⟩ := bind_eq_ok ran
  cases rest
  obtain ⟨gpu, cleared, rest⟩ :=
    bind_eq_ok (show virtioGpuReset _ = _ from wrote)
  cases rest
  exact ⟨gpu, cleared, rfl⟩

theorem releaseResources_scanouts {gpu after : GpuState}
    {r2dList : List Resource2d}
    (released : releaseResources gpu r2dList = .ok after) :
    after.scanouts = gpu.scanouts := by
  induction r2dList generalizing gpu with
  | nil =>
      cases released
      rfl
  | cons head tail induction =>
      obtain ⟨next, first, rest⟩ := bind_eq_ok released
      have later := induction rest
      rw [later]
      obtain ⟨_, _, _, _, rfl⟩ := (releaseResource_released first).split
      rfl

theorem resetGpu_scanouts {before after : GpuState}
    (cleared : resetGpu before = .ok after) :
    after.scanouts = before.scanouts := by
  obtain ⟨next, released, rest⟩ := bind_eq_ok cleared
  cases rest
  show next.scanouts = _
  exact releaseResources_scanouts released

/-- The queue without the pointers no register shows. -/
def VqInfo.unmapped (vq : VqInfo) : VqInfo :=
  { vq with desc := none, avail := none, used := none }

theorem virtioCommonCfgRead_unmapped (base : VirtioBase)
    (queues : Queue → VqInfo) (offset size : Nat) :
    virtioCommonCfgRead base queues offset size =
      virtioCommonCfgRead base (fun queue => VqInfo.unmapped (queues queue))
        offset size := by
  unfold virtioCommonCfgRead
  cases Queue.ofIndex base.curq with
  | none => rfl
  | some queue => rfl

theorem virtioCommonCfgRead_qSize (base : VirtioBase)
    (queues : Queue → VqInfo) (queue : Queue) :
    virtioCommonCfgRead { base with curq := queue.index } queues
      CommonReg.qSize.offset 2 = (queues queue).qsize := by
  cases queue with
  | control => rfl
  | cursor => rfl

theorem blank_seen {scanout : Scanout} (blank : BlankScanout scanout) :
    scanout.seen = Scanout.zero := by
  unfold Scanout.seen
  rw [if_neg blank.hidden, blank.inactive, blank.resourceId, blank.image,
    blank.dmabuf]
  rfl

/-- A device without resources and with blank scanouts is like a fresh one. -/
theorem alike_initial {gpu : GpuState} (empty : gpu.r2dList = [])
    (blank : ∀ scanout, scanout ∈ gpu.scanouts → BlankScanout scanout) :
    Alike (fun _ => False) (fun _ => False) gpu
      (initialGpu gpu.vmctx gpu.isBlobSupported gpu.scanouts.length) := by
  refine ⟨rfl, rfl, empty, ?_, nofun, nofun, ⟨?_, ?_, ?_, ?_⟩⟩
  · show gpu.scanouts.map Scanout.seen =
      (List.replicate gpu.scanouts.length Scanout.zero).map Scanout.seen
    rw [List.map_replicate, seen_zero, List.eq_replicate_iff]
    refine ⟨List.length_map _, ?_⟩
    intro scanout member
    obtain ⟨source, present, rfl⟩ := List.mem_map.mp member
    exact blank_seen (blank source present)
  · rw [empty]
    exact nofun
  · rw [empty]
    exact nofun
  · intro scanout member cell held
    rw [(blank scanout member).image] at held
    cases held
  · intro scanout member cell held
    rw [(blank scanout member).dmabuf] at held
    cases held

/-! Two commands that tell the devices apart: resource 0 is created, and a
flush of its whole 16-bit plane updates every scanout that still names it. -/

def wholePlane : Rect := ⟨32768, 32768, 65535, 65535⟩

def probeCreate : List UInt8 :=
  request .resourceCreate2d (le32 0 ++ le32 1 ++ le32 1 ++ le32 1)

def probeFlush : List UInt8 :=
  request .resourceFlush
    (le32 wholePlane.x ++ le32 wholePlane.y ++ le32 wholePlane.width ++
      le32 wholePlane.height ++ le32 0 ++ le32 0)

def probeRequest (bytes : List UInt8) : Request :=
  .control (Env.steady 0) (requestCommand bytes) (requestMemory 0 bytes)

def probeImage : Image := ⟨pixmanA8r8g8b8, 1, 1, 4, fun _ => 0⟩

def probeResource : Resource2d :=
  { Resource2d.fresh 0 with
    width := 1
    height := 1
    format := pixmanA8r8g8b8
    image := some 0 }

theorem toInt16_bounds (value : Nat) :
    -32768 ≤ toInt16 value ∧ toInt16 value ≤ 32767 := by
  unfold toInt16
  omega

theorem needsFlush_wholePlane {scanout : Scanout}
    (visible : scanout.scanoutRect.Visible) (named : scanout.resourceId = 0) :
    virtioGpuScanoutNeedsFlush scanout 0 wholePlane = true := by
  have plane : regionOfRect wholePlane =
      some ⟨-32768, -32768, 32767, 32767⟩ := by decide
  unfold Rect.Visible regionOfRect pixmanRegionInitRect at visible
  unfold virtioGpuScanoutNeedsFlush
  rw [named, if_neg (by simp), plane]
  unfold regionOfRect pixmanRegionInitRect
  dsimp only at visible ⊢
  split at visible
  · rename_i ordered
    rw [if_pos ordered]
    have left := toInt16_bounds scanout.scanoutRect.x
    have top := toInt16_bounds scanout.scanoutRect.y
    have right := toInt16_bounds
      (scanout.scanoutRect.x + scanout.scanoutRect.width)
    have bottom := toInt16_bounds
      (scanout.scanoutRect.y + scanout.scanoutRect.height)
    unfold pixmanRegionIntersect pixmanRegionNotEmpty
    dsimp only
    rw [if_neg (by omega)]
    rfl
  · exact absurd rfl visible

/-- The device once resource 0 is there. -/
def probed (gpu : GpuState) : GpuState :=
  { gpu with
    r2dList := [probeResource]
    images := gpu.images.alloc 0 probeImage }

theorem serve_probeCreate {gpu : GpuState} (empty : gpu.r2dList = []) :
    serve gpu (probeRequest probeCreate) =
      .ok (probed gpu,
        ⟨some (1, .nodata (CtrlHdr.zero.withType .okNodata), 24), []⟩) := by
  have code : CtrlCmd.ofCode (requestCommand probeCreate).hdr.type =
      some .resourceCreate2d := by decide +kernel
  have loaded : ResourceCreate2d.load (requestMemory 0 probeCreate) 256 =
      ⟨0, 1, 1, 1⟩ := by decide +kernel
  have fenced : fencedHdr (requestCommand probeCreate).hdr =
      CtrlHdr.zero := by decide +kernel
  have based : (requestCommand probeCreate).base 0 = .ok 256 := rfl
  have absent : virtioGpuFindResource2d gpu 0 = none := by
    unfold virtioGpuFindResource2d
    rw [empty]
    rfl
  have created : createImage (Env.steady 0) gpu pixmanA8r8g8b8 1 1 =
      .ok ({ gpu with images := gpu.images.alloc 0 probeImage }, some 0) := by
    rfl
  show (ctrlDispatch _ _ _ _ >>= _) = _
  unfold ctrlDispatch
  rw [code]
  dsimp only
  unfold virtioGpuCmdResourceCreate2d
  rw [based]
  have format : virtioGpuGetPixmanFormat 1 = pixmanA8r8g8b8 := rfl
  simp only [bind, Except.bind, loaded, absent, format, created]
  rw [if_neg (by decide)]
  simp only [answer, insertResource, empty, fenced]
  rfl

/-- The flush hands one surface to the display for each scanout that names
resource 0 with a visible rectangle. -/
theorem serve_probeFlush (gpu : GpuState) :
    ∃ next display,
      serve (probed gpu) (probeRequest probeFlush) = .ok (next,
        ⟨some (1, .nodata (CtrlHdr.zero.withType .okNodata), 24), display⟩) ∧
      display.length = (scanoutsToFlush gpu 0 wholePlane).length := by
  have code : CtrlCmd.ofCode (requestCommand probeFlush).hdr.type =
      some .resourceFlush := by decide +kernel
  have loaded : ResourceFlush.load (requestMemory 0 probeFlush) 256 =
      ⟨wholePlane, 0⟩ := by decide +kernel
  have fenced : fencedHdr (requestCommand probeFlush).hdr =
      CtrlHdr.zero := by decide +kernel
  have based : (requestCommand probeFlush).base 0 = .ok 256 := rfl
  have found : virtioGpuFindResource2d (probed gpu) 0 =
      some probeResource := rfl
  obtain ⟨taken, refs⟩ : ∃ taken, pixmanImageRef (probed gpu) (some 0) =
      .ok taken ∧ taken.images 0 = some ⟨1, probeImage⟩ := ⟨_, rfl, rfl⟩
  have viewed : derefImage taken (some 0) = .ok probeImage := by
    simp only [derefImage, refs.2]
    rfl
  obtain ⟨dropped, drops⟩ : ∃ dropped,
      pixmanImageUnref taken (some 0) = .ok dropped := by
    simp only [pixmanImageUnref, RefHeap.unref, refs.2]
    exact ⟨_, rfl⟩
  refine ⟨dropped, (scanoutsToFlush gpu 0 wholePlane).map fun entry =>
    DisplayCall.surfaceUpdate entry.1
      (pixmanSurface probeResource probeImage entry.2.scanoutRect), ?_,
    List.length_map _⟩
  show (ctrlDispatch _ _ _ _ >>= _) = _
  unfold ctrlDispatch
  rw [code]
  dsimp only
  unfold virtioGpuCmdResourceFlush
  rw [based]
  have image : probeResource.image = some 0 := rfl
  simp only [bind, Except.bind, loaded, found, image, refs.1, viewed, drops]
  rw [if_neg (by decide)]
  simp only [answer, fenced]
  rfl

def probe : List Request := [probeRequest probeCreate, probeRequest probeFlush]

theorem serveAll_probe {gpu : GpuState} (empty : gpu.r2dList = []) :
    ∃ display,
      serveAll gpu probe =
        [.ok ⟨some (1, .nodata (CtrlHdr.zero.withType .okNodata), 24), []⟩,
          .ok ⟨some (1, .nodata (CtrlHdr.zero.withType .okNodata), 24),
            display⟩] ∧
      display.length = (scanoutsToFlush gpu 0 wholePlane).length := by
  obtain ⟨next, display, flushed, counted⟩ := serve_probeFlush gpu
  refine ⟨display, ?_, counted⟩
  simp only [probe, serveAll, serve_probeCreate empty, flushed]

theorem scanoutsToFlush_initial (vmctx : Vmctx) (isBlobSupported : Bool)
    (scanoutNum : Nat) (flushRect : Rect) :
    scanoutsToFlush (initialGpu vmctx isBlobSupported scanoutNum) 0
      flushRect = [] := by
  unfold scanoutsToFlush
  rw [List.filter_eq_nil_iff]
  intro entry member
  obtain ⟨index, _, rfl⟩ := List.mem_map.mp member
  have blank : scanoutAt (initialGpu vmctx isBlobSupported scanoutNum) index =
      Scanout.zero := by
    unfold scanoutAt initialGpu
    rw [List.getD_eq_getElem?_getD, List.getElem?_replicate]
    split
    · rfl
    · rfl
  have hidden : regionOfRect Scanout.zero.scanoutRect = none := by decide
  dsimp only
  rw [blank]
  unfold virtioGpuScanoutNeedsFlush
  rw [hidden]
  simp [pixmanRegionIntersect, pixmanRegionNotEmpty]

theorem scanoutsToFlush_ne_nil {gpu : GpuState} {scanout : Scanout}
    {resourceId : Nat} {flushRect : Rect} (member : scanout ∈ gpu.scanouts)
    (flushes : virtioGpuScanoutNeedsFlush scanout resourceId flushRect =
      true) : scanoutsToFlush gpu resourceId flushRect ≠ [] := by
  obtain ⟨index, below, found⟩ := List.mem_iff_getElem.mp member
  have here : scanoutAt gpu index = scanout := by
    unfold scanoutAt
    rw [List.getD_eq_getElem?_getD, List.getElem?_eq_getElem below, found]
    rfl
  apply List.ne_nil_of_mem
  apply List.mem_filter.mpr
  refine ⟨List.mem_map.mpr ⟨index, List.mem_range.mpr below, rfl⟩, ?_⟩
  dsimp only
  rw [here]
  exact flushes

/-- A device that answers the probe like a fresh one has no scanout left over
for resource 0. -/
theorem hidden_of_answers {gpu : GpuState} (empty : gpu.r2dList = [])
    (answers : serveAll gpu probe =
      serveAll (initialGpu gpu.vmctx gpu.isBlobSupported
        gpu.scanouts.length) probe)
    {scanout : Scanout} (member : scanout ∈ gpu.scanouts)
    (named : scanout.resourceId = 0) : ¬scanout.scanoutRect.Visible := by
  intro visible
  obtain ⟨display, served, counted⟩ := serveAll_probe empty
  obtain ⟨fresh, servedFresh, unflushed⟩ := @serveAll_probe
    (initialGpu gpu.vmctx gpu.isBlobSupported gpu.scanouts.length) rfl
  rw [served, servedFresh] at answers
  have same : display = fresh := by
    injection answers with _ rest
    injection rest with flushed
    injection flushed with flushed
    exact congrArg Answer.display flushed
  rw [scanoutsToFlush_initial, ← same, counted] at unflushed
  have flushes := needsFlush_wholePlane visible named
  exact scanoutsToFlush_ne_nil member flushes
    (List.length_eq_zero_iff.mp unflushed)

/-! When the reset restores everything. -/

theorem restoresInitial_resetDevice {device : Device} {gpu : GpuState}
    (setUp : SetUp device) (same : SameSetup device.gpu gpu)
    (empty : gpu.r2dList = []) (kept : gpu.scanouts = device.gpu.scanouts)
    (untouched : Untouched device) :
    RestoresInitial (resetDevice device gpu) := by
  have blank : ∀ scanout, scanout ∈ gpu.scanouts → BlankScanout scanout := by
    rw [kept]
    exact untouched.scanouts
  have base : (resetDevice device gpu).base =
      (initialOf (resetDevice device gpu)).base := by
    have caps : device.base.deviceCaps = hostCaps gpu.isBlobSupported := by
      rw [setUp.caps, same.isBlobSupported]
    show VirtioBase.reset { device.base with status := 0 } =
      VirtioBase.reset ⟨0, hostCaps gpu.isBlobSupported, 0, 0, 0, 0, 0, 0, 0⟩
    simp only [VirtioBase.reset, caps]
  refine ⟨base, ?_, ?_, empty, ?_, ?_⟩
  · intro curq offset size
    have queues : (fun queue =>
          VqInfo.unmapped ((resetDevice device gpu).queues queue)) =
        fun queue => VqInfo.unmapped
          ((initialOf (resetDevice device gpu)).queues queue) := by
      funext queue
      have qsize : (device.queues queue).qsize = virtioGpuRingsz :=
        untouched.qsize queue
      show VqInfo.unmapped (device.queues queue).reset =
        VqInfo.unmapped (VqInfo.fresh virtioGpuRingsz).reset
      simp only [VqInfo.unmapped, VqInfo.reset, VqInfo.fresh, qsize]
    rw [virtioCommonCfgRead_unmapped, queues, ← virtioCommonCfgRead_unmapped,
      base]
  · have numScanouts : device.cfg.numScanouts = gpu.scanouts.length := by
      rw [setUp.numScanouts, same.scanoutNum]
    calc device.cfg
        = ⟨device.cfg.eventsRead, device.cfg.eventsClear,
            device.cfg.numScanouts, device.cfg.numCapsets⟩ := rfl
      _ = ⟨0, 0, gpu.scanouts.length, 0⟩ := by
          rw [untouched.events, setUp.eventsClear, numScanouts,
            setUp.numCapsets]
  · intro scanout member
    have off := blank scanout member
    exact ⟨off.inactive, off.resourceId, off.image, off.dmabuf⟩
  · intro requests
    exact (alike_initial empty blank).serveAll requests

theorem untouched_of_restoresInitial {device : Device} {gpu : GpuState}
    (empty : gpu.r2dList = []) (kept : gpu.scanouts = device.gpu.scanouts)
    (restores : RestoresInitial (resetDevice device gpu)) :
    Untouched device := by
  refine ⟨?_, ?_, ?_⟩
  · intro queue
    have read := restores.registers queue.index CommonReg.qSize.offset 2
    rw [virtioCommonCfgRead_qSize, virtioCommonCfgRead_qSize] at read
    exact read
  · exact congrArg GpuConfig.eventsRead restores.cfg
  · intro scanout member
    rw [← kept] at member
    obtain ⟨inactive, named, image, dmabuf⟩ :=
      restores.scanouts scanout member
    exact ⟨inactive, named, image, dmabuf,
      hidden_of_answers empty (restores.answers probe) member named⟩

theorem reset_restores_iff {before after : Traced}
    (reached : backend.Reached before)
    (reset : backend.step before (.commonWrite CommonReg.status.offset 1 0)
      after) :
    RestoresInitial after.machine.device ↔
      Untouched before.machine.device := by
  obtain ⟨_, machine, events, stepped, rfl⟩ := reset
  obtain ⟨written, ran, rest⟩ := bind_eq_ok stepped
  cases rest
  obtain ⟨gpu, cleared, left⟩ := statusWrite_eq_ok ran
  have empty := resetGpu_r2dList cleared
  have kept := resetGpu_scanouts cleared
  show RestoresInitial written.1 ↔ _
  rw [left]
  constructor
  · exact untouched_of_restoresInitial empty kept
  · exact restoresInitial_resetDevice (reached_setUp reached)
      (resetGpu_sameSetup cleared) empty kept

def statusReset : Label := .commonWrite CommonReg.status.offset 1 0

/-- A driver that set up a queue of 64 entries and showed nothing. -/
theorem idle_driver_restores :
    ∃ before after, backend.Reached before ∧
      backend.step before (.commonWrite CommonReg.status.offset 1 0) after ∧
      Untouched before.machine.device ∧
      RestoresInitial after.machine.device := by
  obtain ⟨before, reached, checked⟩ :=
    @exists_reached ⟨initialMachine ⟨65536, 5⟩ true 2 Memory.zero, []⟩
      (setUpQueue .control 64 1024 4096 8192)
      (fun state => decide (Untouched state.machine.device) &&
        (runLabels state [statusReset]).isSome)
      ⟨_, true, 2, _, fun _ => rfl, by decide, rfl⟩
      (by decide +kernel)
  obtain ⟨untouched, resets⟩ := Bool.and_eq_true_iff.mp checked
  obtain ⟨after, ran⟩ := Option.isSome_iff_exists.mp resets
  have stepped := runLabels_singleton ran
  have untouched := of_decide_eq_true untouched
  exact ⟨before, after, reached, stepped, untouched,
    (reset_restores_iff reached stepped).mpr untouched⟩

/-- A driver that shows resource 1 on scanout 0 and then resets the device
leaves the scanout on. -/
theorem reset_leaves_scanout_on :
    ∃ before after, backend.Reached before ∧
      backend.step before (.commonWrite CommonReg.status.offset 1 0) after ∧
      ¬RestoresInitial after.machine.device := by
  obtain ⟨before, reached, checked⟩ :=
    @exists_serveRequests (fun _ _ _ _ => true) (fun _ _ _ _ => True)
      [createRequest 1 4 4, showRequest 1 4 4]
      (fun state => (runLabels state [statusReset]).any fun after =>
        after.machine.device.gpu.scanouts.any Scanout.isActive)
      (fun _ _ _ _ _ => trivial)
      (by decide +kernel)
  obtain ⟨after, ran, active⟩ := (Option.any_eq_true _ _).mp checked
  obtain ⟨scanout, member, active⟩ := List.any_eq_true.mp active
  refine ⟨before, after, reached.mono (fun _ _ _ => trivial),
    runLabels_singleton ran, ?_⟩
  intro restores
  rw [(restores.scanouts scanout member).1] at active
  cases active

end VirtioGpu.Backend
