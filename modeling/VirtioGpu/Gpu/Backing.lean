import VirtioGpu.Gpu.Holders

namespace VirtioGpu.Gpu

open Foundation
open Virtio

/-! What backs a resource, and which commands hand a null image to pixman or
follow a null `dma_info`. -/

/-- Exactly one backing object, of the kind `blob` announces. -/
def Resource2d.Backed (r2d : Resource2d) : Prop :=
  r2d.blob = true ∧ r2d.dmaInfo ≠ none ∧ r2d.image = none ∨
    r2d.blob = false ∧ r2d.image ≠ none ∧ r2d.dmaInfo = none

def Represented (gpu : GpuState) : Prop :=
  ∀ r2d, r2d ∈ gpu.r2dList → r2d.Backed

theorem Resource2d.Backed.image {r2d : Resource2d} (backed : r2d.Backed)
    (plain : ¬r2d.blob = true) : r2d.image ≠ none := by
  rcases backed with ⟨blob, _⟩ | ⟨_, image, _⟩
  · exact absurd blob plain
  · exact image

theorem Resource2d.Backed.dmaInfo {r2d : Resource2d} (backed : r2d.Backed)
    (blob : r2d.blob = true) : r2d.dmaInfo ≠ none := by
  rcases backed with ⟨_, info, _⟩ | ⟨plain, _⟩
  · exact info
  · rw [blob] at plain
    cases plain

theorem Represented.find {gpu : GpuState} {resourceId : Nat}
    {r2d : Resource2d} (represented : Represented gpu)
    (found : virtioGpuFindResource2d gpu resourceId = some r2d) :
    r2d.Backed :=
  represented r2d (List.mem_of_find?_eq_some found)

/-! Commands that create a resource without its backing object. -/

/-- `CREATE_BLOB` accepts a resource without memory entries, or one of cursor
size whose image cannot be allocated. -/
def CreatesUnbacked (env : Env) (gpu : GpuState) (cmd : Command)
    (memory : Memory) : Prop :=
  CtrlCmd.ofCode cmd.hdr.type = some .resourceCreateBlob ∧
    AcceptsBlob env gpu cmd (ResourceCreateBlob.load memory cmd.address) ∧
    ((ResourceCreateBlob.load memory cmd.address).nrEntries = 0 ∨
      env.entriesAlloc = true ∧
        (ResourceCreateBlob.load memory cmd.address).size ≤ cursorBlobSize ∧
        env.iovAlloc = true ∧ env.imageAlloc = false)

theorem mem_modifyResource {resourceId : Nat}
    {modify : Resource2d → Resource2d} {r2dList : List Resource2d}
    {r2d : Resource2d}
    (member : r2d ∈ modifyResource resourceId modify r2dList) :
    r2d ∈ r2dList ∨ ∃ original, original ∈ r2dList ∧ r2d = modify original := by
  induction r2dList with
  | nil => cases member
  | cons head tail induction =>
      unfold modifyResource at member
      split at member
      · rcases List.mem_cons.mp member with rfl | later
        · exact .inr ⟨head, List.mem_cons_self, rfl⟩
        · exact .inl (List.mem_cons_of_mem _ later)
      · rcases List.mem_cons.mp member with rfl | later
        · exact .inl List.mem_cons_self
        · rcases induction later with listed | ⟨original, listed, rfl⟩
          · exact .inl (List.mem_cons_of_mem _ listed)
          · exact .inr ⟨original, List.mem_cons_of_mem _ listed, rfl⟩

/-- The cursor image has a format and a size pixman accepts. -/
theorem cursorImage_created {env : Env} (allocates : env.imageAlloc = true) :
    pixmanImageCreateBits env.imageRecordAlloc env.imageBitsAlloc
      pixmanA8r8g8b8 64 64 ≠ .ok none := by
  have created : pixmanImageCreateBits true true pixmanA8r8g8b8 64 64 =
      .ok (some ⟨pixmanA8r8g8b8, 64, 64, 256, fun _ => 0⟩) := rfl
  obtain ⟨record, bits⟩ := Env.imageAlloc_iff.mp allocates
  rw [record, bits, created]
  nofun

/-- A cursor image that is made has got its record and its buffer. -/
theorem imageAlloc_of_cursorImage {env : Env} {image : Image}
    (made : pixmanImageCreateBits env.imageRecordAlloc env.imageBitsAlloc
      pixmanA8r8g8b8 64 64 = .ok (some image)) : env.imageAlloc = true := by
  cases record : env.imageRecordAlloc with
  | false =>
      rw [record] at made
      cases made
  | true =>
      cases bits : env.imageBitsAlloc with
      | false =>
          rw [record, bits] at made
          cases made
      | true => exact Env.imageAlloc_iff.mpr ⟨record, bits⟩

theorem r2dList_of_core {before after : GpuState}
    (same : after.core = before.core) : after.r2dList = before.r2dList := by
  have listed : after.core.r2dList = before.core.r2dList := by rw [same]
  exact listed

theorem virtioGpuUpdateScanout_r2dList {gpu after : GpuState}
    {scanoutId resourceId : Nat} {scanRect : Rect}
    (updated : virtioGpuUpdateScanout gpu scanoutId resourceId scanRect =
      .ok after) : after.r2dList = gpu.r2dList := by
  obtain ⟨next, images, dmabufs, released, _, _, rfl⟩ :=
    virtioGpuUpdateScanout_eq_ok updated
  obtain ⟨_, _, _, _, rfl⟩ := released.split
  rfl

theorem createImage_r2dList {env : Env} {gpu after : GpuState}
    {format width height : Nat} {image : Option Nat}
    (made : createImage env gpu format width height = .ok (after, image)) :
    after.r2dList = gpu.r2dList := by
  rcases createImage_eq_ok made with ⟨_, rfl, _⟩ | ⟨bits, _, rfl, _⟩
  · rfl
  · rfl

theorem createImage_dmabufs {env : Env} {gpu after : GpuState}
    {format width height : Nat} {image : Option Nat}
    (made : createImage env gpu format width height = .ok (after, image)) :
    after.dmabufs = gpu.dmabufs := by
  rcases createImage_eq_ok made with ⟨_, rfl, _⟩ | ⟨bits, _, rfl, _⟩
  · rfl
  · rfl

/-! What a command can do to the table. -/

/-- How a resource comes into the table. -/
inductive Creation (env : Env) (gpu : GpuState) (cmd : Command)
    (memory : Memory) (address : Nat) : Resource2d → Prop
  | pixels (code : CtrlCmd.ofCode cmd.hdr.type = some .resourceCreate2d) :
      Creation env gpu cmd memory address
        (resourceOfCreate2d (ResourceCreate2d.load memory address)
          env.imageCell)
  | bare
      (code : CtrlCmd.ofCode cmd.hdr.type = some .resourceCreateBlob)
      (accepted : AcceptsBlob env gpu cmd
        (ResourceCreateBlob.load memory address))
      (empty : (ResourceCreateBlob.load memory address).nrEntries = 0) :
      Creation env gpu cmd memory address
        (.fresh (ResourceCreateBlob.load memory address).resourceId)
  | blob
      (code : CtrlCmd.ofCode cmd.hdr.type = some .resourceCreateBlob)
      (accepted : AcceptsBlob env gpu cmd
        (ResourceCreateBlob.load memory address)) :
      Creation env gpu cmd memory address
        { Resource2d.fresh
            (ResourceCreateBlob.load memory address).resourceId with
          blob := true
          dmaInfo := some env.dmaCell }
  | cursor {next : GpuState} {image : Option Nat} {entries : List MemEntry}
      (code : CtrlCmd.ofCode cmd.hdr.type = some .resourceCreateBlob)
      (accepted : AcceptsBlob env gpu cmd
        (ResourceCreateBlob.load memory address))
      (entriesAlloc : env.entriesAlloc = true)
      (gathered : gatherEntries cmd memory
        (ResourceCreateBlob.load memory address).nrEntries = .ok entries)
      (small : (ResourceCreateBlob.load memory address).size ≤ cursorBlobSize)
      (iovAlloc : env.iovAlloc = true)
      (made : createImage env gpu pixmanA8r8g8b8 64 64 = .ok (next, image)) :
      Creation env gpu cmd memory address
        { Resource2d.fresh
            (ResourceCreateBlob.load memory address).resourceId with
          width := 64
          height := 64
          format := pixmanA8r8g8b8
          image := image
          iov := .live (backingOf gpu.vmctx entries)
          iovcnt := (ResourceCreateBlob.load memory address).nrEntries }

/-- What holds of every resource survives a command if it holds of the
resources the command creates and of those it backs. -/
theorem Change.listed {env : Env} {cmd : Command} {memory : Memory}
    {address : Nat} {before after : GpuState} {Holds : Resource2d → Prop}
    (changed : Change env cmd memory address before after)
    (holds : ∀ r2d, r2d ∈ before.r2dList → Holds r2d)
    (created : ∀ r2d, Creation env before cmd memory address r2d → Holds r2d)
    (backed : ∀ r2d resourceId iov iovcnt,
      Backs env before cmd memory address resourceId iov iovcnt →
        Holds r2d → Holds { r2d with iov := iov, iovcnt := iovcnt }) :
    ∀ r2d, r2d ∈ after.r2dList → Holds r2d := by
  have inserted : ∀ {gpu : GpuState} {r2d : Resource2d},
      gpu.r2dList = before.r2dList →
        Creation env before cmd memory address r2d →
          ∀ entry, entry ∈ (insertResource gpu r2d).r2dList → Holds entry := by
    intro gpu r2d same creation entry member
    rcases List.mem_cons.mp member with rfl | earlier
    · exact created _ creation
    · rw [same] at earlier
      exact holds entry earlier
  cases changed with
  | kept same =>
      rw [r2dList_of_core same]
      exact holds
  | created2d code absent allocated made result =>
      subst result
      exact inserted rfl (.pixels code)
  | createdBare code accepted empty result =>
      subst result
      exact inserted rfl (.bare code accepted empty)
  | createdBlob code accepted valid result =>
      subst result
      exact inserted rfl (.blob code accepted)
  | createdCursor code accepted nonempty entries gathered small iovAlloc made
      result =>
      subst result
      exact inserted (createImage_r2dList made)
        (.cursor code accepted entries gathered small iovAlloc made)
  | leaked iovAlloc made =>
      rw [createImage_r2dList made]
      exact holds
  | removed found released result =>
      subst result
      obtain ⟨_, _, _, _, rfl⟩ := (releaseResource_released released).split
      intro r2d member
      exact holds r2d (List.mem_of_mem_eraseP member)
  | backed reason result =>
      subst result
      intro r2d member
      rcases mem_modifyResource member with listed | ⟨original, listed, rfl⟩
      · exact holds r2d listed
      · exact backed original _ _ _ reason (holds original listed)
  | painted result =>
      subst result
      exact holds
  | shown reason starts inside updated result =>
      rw [r2dList_of_core result, virtioGpuUpdateScanout_r2dList updated,
        r2dList_of_core starts]
      exact holds

theorem Represented.change {env : Env} {cmd : Command} {memory : Memory}
    {before after : GpuState} (represented : Represented before)
    (backs : ¬CreatesUnbacked env before cmd memory)
    (changed : Change env cmd memory cmd.address before after) :
    Represented after := by
  refine changed.listed represented ?_ ?_
  · intro r2d creation
    cases creation with
    | pixels code => exact .inr ⟨rfl, Option.some_ne_none _, rfl⟩
    | bare code accepted empty =>
        exact absurd ⟨code, accepted, .inl empty⟩ backs
    | blob code accepted => exact .inl ⟨rfl, Option.some_ne_none _, rfl⟩
    | cursor code accepted entries gathered small iovAlloc made =>
        refine .inr ⟨rfl, ?_, rfl⟩
        rcases createImage_eq_ok made with ⟨failed, _⟩ | ⟨bits, _, _, rfl⟩
        · cases allocates : env.imageAlloc with
          | true => exact absurd failed (cursorImage_created allocates)
          | false =>
              refine absurd ⟨code, accepted, .inr ?_⟩ backs
              exact ⟨entries, small, iovAlloc, allocates⟩
        · exact Option.some_ne_none _
  · intro r2d resourceId iov iovcnt _ kept
    exact kept

theorem releaseResources_r2dList {gpu after : GpuState}
    {r2dList : List Resource2d}
    (released : releaseResources gpu r2dList = .ok after) :
    after.r2dList = [] := by
  induction r2dList generalizing gpu with
  | nil =>
      cases released
      rfl
  | cons head tail induction =>
      obtain ⟨next, _, rest⟩ := bind_eq_ok released
      exact induction rest

theorem resetGpu_r2dList {before after : GpuState}
    (cleared : resetGpu before = .ok after) : after.r2dList = [] := by
  obtain ⟨next, released, rest⟩ := bind_eq_ok cleared
  cases rest
  show next.r2dList = []
  exact releaseResources_r2dList released

/-! Null images and null `dma_info`. -/

/-- The fault of passing a null image to a pixman function or of following a
null `dma_info`. -/
def Fault.IsNull (fault : Fault) : Prop :=
  fault = .nullImage ∨ fault = .nullDmaInfo

instance (fault : Fault) : Decidable fault.IsNull :=
  inferInstanceAs (Decidable (_ ∨ _))

/-- `SET_SCANOUT` shows a blob resource: with its zero width and height only
the empty rectangle at the origin gets past the bounds test. -/
def ShowsBlobPixels (gpu : GpuState) (cmd : Command) (memory : Memory) :
    Prop :=
  CtrlCmd.ofCode cmd.hdr.type = some .setScanout ∧
    (SetScanout.load memory cmd.address).scanoutId < gpu.scanouts.length ∧
    (SetScanout.load memory cmd.address).resourceId ≠ 0 ∧
    ∃ r2d, virtioGpuFindResource2d gpu
        (SetScanout.load memory cmd.address).resourceId = some r2d ∧
      r2d.blob = true ∧
      rectInside (SetScanout.load memory cmd.address).r r2d = true

/-- `UPDATE_CURSOR` names a blob resource. -/
def PointsAtBlob (gpu : GpuState) (cmd : Command) (memory : Memory) : Prop :=
  CursorCmd.ofCode cmd.hdr.type = some .updateCursor ∧
    (UpdateCursor.load memory cmd.address).resourceId ≠ 0 ∧
    ∃ r2d, virtioGpuFindResource2d gpu
        (UpdateCursor.load memory cmd.address).resourceId = some r2d ∧
      r2d.blob = true

section Faults

variable (env : Env) (gpu : GpuState) (cmd : Command) (memory : Memory)

theorem base_avoids (slot : Nat) : Avoids (cmd.base slot) Fault.IsNull := by
  unfold Command.base
  cases (cmd.iov slot).base with
  | none => exact .error (by decide)
  | some address => exact .ok

theorem liftHeap_avoids (result : Option α) :
    Avoids (liftHeap result) Fault.IsNull := by
  cases result with
  | none => exact .error (by decide)
  | some value => exact .ok

theorem pixmanImageRef_avoids {image : Option Nat} (held : image ≠ none) :
    Avoids (pixmanImageRef gpu image) Fault.IsNull := by
  cases image with
  | none => exact absurd rfl held
  | some cell => exact .bind (liftHeap_avoids _) fun _ _ => .pure

theorem pixmanImageUnref_avoids {image : Option Nat} (held : image ≠ none) :
    Avoids (pixmanImageUnref gpu image) Fault.IsNull := by
  cases image with
  | none => exact absurd rfl held
  | some cell => exact .bind (liftHeap_avoids _) fun _ _ => .pure

theorem derefImage_avoids {image : Option Nat} (held : image ≠ none) :
    Avoids (derefImage gpu image) Fault.IsNull := by
  cases image with
  | none => exact absurd rfl held
  | some cell => exact .bind (liftHeap_avoids _) fun _ _ => .pure

theorem derefDmabuf_avoids {info : Option Nat} (held : info ≠ none) :
    Avoids (derefDmabuf gpu info) Fault.IsNull := by
  cases info with
  | none => exact absurd rfl held
  | some cell => exact .bind (liftHeap_avoids _) fun _ _ => .pure

theorem virtioGpuDmabufRef_avoids (info : Option Nat) :
    Avoids (virtioGpuDmabufRef gpu info) Fault.IsNull := by
  cases info with
  | none => exact .ok
  | some cell => exact .bind (liftHeap_avoids _) fun _ _ => .pure

theorem virtioGpuDmabufUnref_avoids (info : Option Nat) :
    Avoids (virtioGpuDmabufUnref gpu info) Fault.IsNull := by
  cases info with
  | none => exact .ok
  | some cell =>
      refine .bind (liftHeap_avoids _) fun _ _ => ?_
      exact .bind (liftHeap_avoids _) fun _ _ => .pure

theorem releaseScanout_avoids (scanout : Scanout) :
    Avoids (releaseScanout gpu scanout) Fault.IsNull := by
  refine .bind (virtioGpuDmabufUnref_avoids gpu _) fun _ _ => ?_
  cases scanout.curImg with
  | none => exact .pure
  | some cell => exact pixmanImageUnref_avoids _ (Option.some_ne_none cell)

theorem virtioGpuUpdateScanout_avoids {gpu : GpuState}
    (represented : Represented gpu) (scanoutId resourceId : Nat)
    (scanRect : Rect) :
    Avoids (virtioGpuUpdateScanout gpu scanoutId resourceId scanRect)
      Fault.IsNull := by
  refine .bind (releaseScanout_avoids gpu _) fun next released => ?_
  dsimp only
  have same : virtioGpuFindResource2d next resourceId =
      virtioGpuFindResource2d gpu resourceId := by
    obtain ⟨_, _, _, _, rfl⟩ := (releaseScanout_released released).split
    rfl
  rw [same]
  cases found : virtioGpuFindResource2d gpu resourceId with
  | none => exact .pure
  | some r2d =>
      refine .ite (fun _ => ?_) fun plain => ?_
      · exact .bind (virtioGpuDmabufRef_avoids _ _) fun _ _ => .pure
      · refine .bind (pixmanImageRef_avoids _ ?_) fun _ _ => .pure
        exact (represented.find found).image plain

theorem releaseResource_avoids (r2d : Resource2d) :
    Avoids (releaseResource gpu r2d) Fault.IsNull := by
  rw [releaseResource_eq]
  refine .bind ?_ fun next _ => .bind ?_ fun _ _ => .bind ?_ fun _ _ => .pure
  · cases r2d.image with
    | none => exact .pure
    | some cell => exact pixmanImageUnref_avoids gpu (Option.some_ne_none cell)
  · exact .ite (fun _ => virtioGpuDmabufUnref_avoids next _) fun _ => .pure
  · cases r2d.iov with
    | null => exact .ok
    | live entries => exact .ok
    | freed => exact .error (by decide)

theorem gatherEntries_avoids (nrEntries : Nat) :
    Avoids (gatherEntries cmd memory nrEntries) Fault.IsNull := by
  refine .bind ?_ fun bytes _ => ?_
  · refine .bind (.mapM (fun slot => ?_) _) fun _ _ => .pure
    exact .bind (base_avoids cmd slot) fun _ _ => .pure
  · exact .ite (fun _ => .error (by decide)) fun _ => .pure

theorem createBits_avoids (format width height : Nat) :
    Avoids (createBits format width height) Fault.IsNull := by
  refine .ite (fun _ => .error (by decide)) fun _ => ?_
  refine .ite (fun _ => .ok) fun _ => .ite (fun _ => .ok) fun _ => ?_
  refine .ite (fun _ => .error (by decide)) fun _ => ?_
  exact .ite (fun _ => .ok) fun _ => .ok

theorem createImage_avoids (format width height : Nat) :
    Avoids (createImage env gpu format width height) Fault.IsNull := by
  refine .bind ?_ fun image _ => ?_
  · refine .ite (fun _ => .ok) fun _ => .ite (fun _ => .ok) fun _ => ?_
    refine .ite (fun _ => ?_) fun _ => .ok
    cases made : createBits format width height with
    | error fault =>
        exact .error (createBits_avoids format width height fault made)
    | ok stride =>
        cases stride with
        | none => exact .ok
        | some bytes => exact .ite (fun _ => .ok) fun _ => .ok
  · cases image with
    | none => exact .pure
    | some bits => exact .pure

theorem transferRow_avoids (bufSize dst total : Nat) (entries : List IoVec)
    (srcOffset done : Nat) (data : Memory) :
    Avoids (transferRow memory bufSize dst total entries srcOffset done data)
      Fault.IsNull := by
  induction entries generalizing srcOffset done data with
  | nil => exact .ok
  | cons entry rest induction =>
      unfold transferRow
      cases entry.base with
      | none => exact induction srcOffset done data
      | some base =>
          refine .ite (fun _ => induction srcOffset done data) fun _ => ?_
          refine .ite (fun _ => ?_) fun _ => induction _ done data
          refine .ite (fun _ => .error (by decide)) fun _ => ?_
          exact .ite (fun _ => .ok) fun _ => induction _ _ _

theorem backingEntries_avoids (r2d : Resource2d) :
    Avoids (backingEntries r2d) Fault.IsNull := by
  refine .ite (fun _ => .ok) fun _ => ?_
  cases r2d.iov with
  | null => exact .error (by decide)
  | freed => exact .error (by decide)
  | live entries => exact .ite (fun _ => .error (by decide)) fun _ => .ok

theorem transferRows_avoids (req : TransferToHost2d) (r2d : Resource2d)
    (image : Image) (rows : List Nat) (data : Memory) :
    Avoids (transferRows memory req r2d image rows data) Fault.IsNull := by
  induction rows generalizing data with
  | nil => exact .ok
  | cons row rest induction =>
      refine .bind (backingEntries_avoids r2d) fun entries _ => ?_
      exact .bind (transferRow_avoids _ _ _ _ _ _ _ _) fun _ _ => induction _

/-! The commands. -/

variable {gpu} in
theorem virtioGpuCmdSetScanout_avoids (represented : Represented gpu)
    (plain : (SetScanout.load memory cmd.address).scanoutId <
        gpu.scanouts.length →
      (SetScanout.load memory cmd.address).resourceId ≠ 0 →
      ∀ r2d, virtioGpuFindResource2d gpu
          (SetScanout.load memory cmd.address).resourceId = some r2d →
        rectInside (SetScanout.load memory cmd.address).r r2d = true →
          r2d.blob = false) :
    Avoids (virtioGpuCmdSetScanout gpu cmd memory) Fault.IsNull := by
  refine .bind (base_avoids cmd 0) fun address based => ?_
  cases address_of_base based
  refine .ite (fun _ => .error (by decide)) fun valid => ?_
  dsimp only
  have kept : ∀ scanout, Represented (setScanoutAt gpu
      (SetScanout.load memory cmd.address).scanoutId scanout) :=
    fun _ => represented
  cases wanted : (if (SetScanout.load memory cmd.address).resourceId = 0
      then none
      else virtioGpuFindResource2d (setScanoutAt gpu _ _) _) with
  | none =>
      exact .bind (virtioGpuUpdateScanout_avoids (kept _) _ _ _)
        fun _ _ => .pure
  | some r2d =>
      refine .ite (fun _ => .pure) fun covered => ?_
      split at wanted
      · cases wanted
      · rename_i nonzero
        have image : r2d.image ≠ none := by
          refine (represented.find wanted).image ?_
          rw [plain (Nat.not_le.mp valid) nonzero r2d wanted
            (by simpa using covered)]
          decide
        refine .bind (virtioGpuUpdateScanout_avoids (kept _) _ _ _)
          fun _ _ => ?_
        refine .bind (pixmanImageRef_avoids _ image) fun _ _ => ?_
        refine .bind (derefImage_avoids _ image) fun _ _ => ?_
        exact .bind (pixmanImageUnref_avoids _ image) fun _ _ => .pure

variable {gpu}

theorem virtioGpuCmdSetScanoutBlob_avoids (represented : Represented gpu) :
    Avoids (virtioGpuCmdSetScanoutBlob gpu cmd memory) Fault.IsNull := by
  refine .bind (base_avoids cmd 0) fun address based => ?_
  cases address_of_base based
  refine .ite (fun _ => .error (by decide)) fun _ => ?_
  dsimp only
  have kept : ∀ scanout, Represented (setScanoutAt
      { gpu with vgaEnable := false }
      (SetScanoutBlob.load memory cmd.address).scanoutId scanout) :=
    fun _ => represented
  refine .ite (fun _ => ?_) fun nonzero => ?_
  · exact .bind (virtioGpuUpdateScanout_avoids (kept _) _ _ _) fun _ _ => .pure
  · cases found : virtioGpuFindResource2d (setScanoutAt
        { gpu with vgaEnable := false } _ _)
        (SetScanoutBlob.load memory cmd.address).resourceId with
    | none => exact .pure
    | some r2d =>
        refine .ite (fun plain => ?_) fun blob => ?_
        · refine .bind (virtioGpuCmdSetScanout_avoids _ memory (kept _) ?_)
            fun _ _ => .pure
          intro _ _ other same _
          have equal : some r2d = some other := found.symm.trans same
          cases equal
          simpa using plain
        · have info := (represented.find found).dmaInfo (by simpa using blob)
          refine .bind (virtioGpuUpdateScanout_avoids (kept _) _ _ _)
            fun _ _ => ?_
          refine .bind (virtioGpuDmabufRef_avoids _ _) fun _ _ => ?_
          refine .bind (derefDmabuf_avoids _ info) fun _ _ => ?_
          exact .bind (virtioGpuDmabufUnref_avoids _ _) fun _ _ => .pure

theorem virtioGpuCmdTransferToHost2d_avoids (represented : Represented gpu) :
    Avoids (virtioGpuCmdTransferToHost2d gpu cmd memory) Fault.IsNull := by
  refine .bind (base_avoids cmd 0) fun address _ => ?_
  dsimp only
  cases found : virtioGpuFindResource2d gpu
      (TransferToHost2d.load memory address).resourceId with
  | none => exact .pure
  | some r2d =>
      refine .ite (fun _ => .pure) fun plain =>
        .ite (fun _ => .pure) fun _ => ?_
      have image := (represented.find found).image plain
      refine .bind (pixmanImageRef_avoids _ image) fun _ _ => ?_
      refine .bind (derefImage_avoids _ image) fun _ _ => ?_
      refine .bind (transferRows_avoids _ _ _ _ _ _) fun _ _ => ?_
      exact .bind (pixmanImageUnref_avoids _ image) fun _ _ => .pure

theorem virtioGpuCmdResourceFlush_avoids (represented : Represented gpu) :
    Avoids (virtioGpuCmdResourceFlush gpu cmd memory) Fault.IsNull := by
  refine .bind (base_avoids cmd 0) fun address _ => ?_
  dsimp only
  cases found : virtioGpuFindResource2d gpu
      (ResourceFlush.load memory address).resourceId with
  | none => exact .pure
  | some r2d =>
      refine .ite (fun blob => ?_) fun plain => ?_
      · have info := (represented.find found).dmaInfo blob
        refine .bind (virtioGpuDmabufRef_avoids _ _) fun _ _ => ?_
        refine .bind (.mapM (fun entry => ?_) _) fun _ _ => ?_
        · exact .bind (derefDmabuf_avoids _ info) fun _ _ => .pure
        · exact .bind (virtioGpuDmabufUnref_avoids _ _) fun _ _ => .pure
      · have image := (represented.find found).image plain
        refine .bind (pixmanImageRef_avoids _ image) fun _ _ => ?_
        refine .bind (derefImage_avoids _ image) fun _ _ => ?_
        exact .bind (pixmanImageUnref_avoids _ image) fun _ _ => .pure

theorem virtioGpuCmdResourceCreate2d_avoids :
    Avoids (virtioGpuCmdResourceCreate2d env gpu cmd memory)
      Fault.IsNull := by
  refine .bind (base_avoids cmd 0) fun address _ => ?_
  dsimp only
  cases virtioGpuFindResource2d gpu
      (ResourceCreate2d.load memory address).resourceId with
  | some _ => exact .pure
  | none =>
      refine .ite (fun _ => .pure) fun _ => ?_
      refine .bind (createImage_avoids env gpu _ _ _) fun created _ => ?_
      rcases created with ⟨next, image⟩
      cases image with
      | none => exact .pure
      | some cell => exact .pure

theorem virtioGpuCmdResourceUnref_avoids :
    Avoids (virtioGpuCmdResourceUnref gpu cmd memory) Fault.IsNull := by
  refine .bind (base_avoids cmd 0) fun address _ => ?_
  dsimp only
  cases virtioGpuFindResource2d gpu
      (ResourceUnref.load memory address).resourceId with
  | none => exact .pure
  | some r2d => exact .bind (releaseResource_avoids gpu r2d) fun _ _ => .pure

theorem virtioGpuCmdResourceAttachBacking_avoids :
    Avoids (virtioGpuCmdResourceAttachBacking env gpu cmd memory)
      Fault.IsNull := by
  refine .bind (base_avoids cmd 0) fun address _ => ?_
  refine .ite (fun _ => .pure) fun _ => ?_
  dsimp only
  cases virtioGpuFindResource2d gpu
      (ResourceAttachBacking.load memory address).resourceId with
  | none => exact .pure
  | some _ =>
      refine .ite (fun _ => .pure) fun _ => .ite (fun _ => .pure) fun _ => ?_
      refine .ite (fun _ => .pure) fun _ => ?_
      exact .bind (gatherEntries_avoids cmd memory _) fun _ _ => .pure

theorem virtioGpuCmdResourceDetachBacking_avoids :
    Avoids (virtioGpuCmdResourceDetachBacking gpu cmd memory)
      Fault.IsNull := by
  refine .bind (base_avoids cmd 0) fun address _ => ?_
  dsimp only
  cases virtioGpuFindResource2d gpu
      (ResourceDetachBacking.load memory address).resourceId with
  | none => exact .pure
  | some r2d =>
      refine .bind ?_ fun _ _ => .pure
      cases r2d.iov with
      | null => exact .ok
      | live entries => exact .ok
      | freed => exact .error (by decide)

theorem virtioGpuCmdCreateBlob_avoids :
    Avoids (virtioGpuCmdCreateBlob env gpu cmd memory) Fault.IsNull := by
  refine .bind (base_avoids cmd 0) fun address _ => ?_
  refine .ite (fun _ => .pure) fun _ => .ite (fun _ => .pure) fun _ => ?_
  refine .ite (fun _ => .pure) fun _ => ?_
  dsimp only
  cases virtioGpuFindResource2d gpu
      (ResourceCreateBlob.load memory address).resourceId with
  | some _ => exact .pure
  | none =>
      refine .ite (fun _ => .pure) fun _ => .ite (fun _ => .pure) fun _ => ?_
      refine .ite (fun _ => .pure) fun _ => ?_
      refine .bind (gatherEntries_avoids cmd memory _) fun entries _ => ?_
      refine .ite (fun _ => ?_) fun _ => ?_
      · cases (virtioGpuCreateUdmabuf env gpu entries).2 with
        | none => exact .pure
        | some cell => exact .pure
      · refine .bind (createImage_avoids env gpu _ _ _) fun _ _ => ?_
        exact .ite (fun _ => .pure) fun _ => .pure

/-- With every resource backed, only the pixels of a blob resource are
null. -/
theorem ctrlDispatch_avoids (represented : Represented gpu)
    (plain : ¬ShowsBlobPixels gpu cmd memory) :
    Avoids (ctrlDispatch env gpu cmd memory) Fault.IsNull := by
  unfold ctrlDispatch
  cases code : CtrlCmd.ofCode cmd.hdr.type with
  | none => exact .ok
  | some command =>
      cases command with
      | getEdid =>
          exact .bind (base_avoids cmd 0) fun _ _ =>
            .ite (fun _ => .error (by decide)) fun _ => .pure
      | getDisplayInfo => exact .ok
      | resourceCreate2d =>
          exact virtioGpuCmdResourceCreate2d_avoids env cmd memory
      | resourceUnref => exact virtioGpuCmdResourceUnref_avoids cmd memory
      | resourceAttachBacking =>
          exact virtioGpuCmdResourceAttachBacking_avoids env cmd memory
      | resourceDetachBacking =>
          exact virtioGpuCmdResourceDetachBacking_avoids cmd memory
      | setScanout =>
          apply virtioGpuCmdSetScanout_avoids cmd memory represented
          intro valid nonzero r2d found inside
          cases blob : r2d.blob with
          | false => rfl
          | true =>
              exact absurd ⟨code, valid, nonzero, r2d, found, blob, inside⟩
                plain
      | transferToHost2d =>
          exact virtioGpuCmdTransferToHost2d_avoids cmd memory represented
      | resourceFlush =>
          exact virtioGpuCmdResourceFlush_avoids cmd memory represented
      | resourceCreateBlob =>
          refine .ite (fun _ => .ok) fun _ => ?_
          exact virtioGpuCmdCreateBlob_avoids env cmd memory
      | setScanoutBlob =>
          refine .ite (fun _ => .ok) fun _ => ?_
          exact virtioGpuCmdSetScanoutBlob_avoids cmd memory represented
      | setModifier => exact .bind (base_avoids cmd 0) fun _ _ => .pure

theorem cursorDispatch_avoids (represented : Represented gpu)
    (plain : ¬PointsAtBlob gpu cmd memory) :
    Avoids (cursorDispatch gpu cmd memory) Fault.IsNull := by
  unfold cursorDispatch
  cases code : CursorCmd.ofCode cmd.hdr.type with
  | none => exact .ok
  | some command =>
      cases command with
      | moveCursor => exact .bind (base_avoids cmd 0) fun _ _ => .pure
      | updateCursor =>
          refine .bind (base_avoids cmd 0) fun address based => ?_
          cases address_of_base based
          refine .ite (fun _ => .pure) fun nonzero => ?_
          cases found : virtioGpuFindResource2d gpu
              (UpdateCursor.load memory cmd.address).resourceId with
          | none => exact .pure
          | some r2d =>
              have image : r2d.image ≠ none := by
                refine (represented.find found).image ?_
                intro blob
                exact plain ⟨code, nonzero, r2d, found, blob⟩
              refine .bind (pixmanImageRef_avoids _ image) fun _ _ => ?_
              exact .bind (pixmanImageUnref_avoids _ image) fun _ _ => .pure

end Faults

end VirtioGpu.Gpu
