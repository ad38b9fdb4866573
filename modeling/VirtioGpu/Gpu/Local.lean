import VirtioGpu.Gpu.Gather
import VirtioGpu.Gpu.View

namespace VirtioGpu.Gpu

open Foundation
open Virtio

/-! Commands on one resource, said of its view alone. -/

/-- What a command answers and what it makes of the view of the id it
names. -/
abbrev Act := Except Fault (RespType × Option View)

def View.fresh (resourceId : Nat) : View := ⟨.fresh resourceId, none⟩

def actCreate2d (env : Env) (req : ResourceCreate2d) : Option View → Act
  | some view => .ok (.errInvalidResourceId, some view)
  | none =>
      if !env.r2dAlloc then
        .ok (.errOutOfMemory, none)
      else do
        let format := virtioGpuGetPixmanFormat req.format
        let image ← pixmanImageCreateBits env.imageRecordAlloc
          env.imageBitsAlloc format req.width req.height
        match image with
        | none => return (.errOutOfMemory, none)
        | some image =>
            return (.okNodata, some
              ⟨{ Resource2d.fresh req.resourceId with
                  width := req.width
                  height := req.height
                  format := format }, some image⟩)

def actUnref : Option View → Act
  | none => .ok (.errInvalidResourceId, none)
  | some view => do
      view.record.iov.free
      return (.okNodata, none)

/-- The view with another backing. -/
def View.back (view : View) (iov : IovArray) (iovcnt : Nat) : View :=
  { view with record := { view.record with iov := iov, iovcnt := iovcnt } }

def actAttachBacking (env : Env) (ctx : Vmctx) (cmd : Command)
    (memory : Memory) (req : ResourceAttachBacking) (found : Option View) :
    Act :=
  if cmd.iovcnt < 2 then
    .ok (.errInvalidParameter, found)
  else
    match found with
    | none => .ok (.okNodata, none)
    | some view =>
        if req.nrEntries = 0 then
          .ok (.okNodata, some view)
        else if !env.iovAlloc then
          .ok (.errOutOfMemory, some view)
        else if !env.entriesAlloc then
          .ok (.errOutOfMemory, some (view.back .freed req.nrEntries))
        else do
          let entries ← gatherEntries cmd memory req.nrEntries
          return (.okNodata, some
            (view.back (.live (backingOf ctx entries)) req.nrEntries))

def actDetachBacking : Option View → Act
  | none => .ok (.okNodata, none)
  | some view => do
      view.record.iov.free
      return (.okNodata, some (view.back .null view.record.iovcnt))

def actTransferToHost2d (memory : Memory) (req : TransferToHost2d) :
    Option View → Act
  | none => .ok (.errInvalidResourceId, none)
  | some view =>
      if view.record.blob then
        .ok (.okNodata, some view)
      else if !rectInside req.r view.record then
        .ok (.errInvalidParameter, some view)
      else
        match view.image with
        | none => .error .nullImage
        | some image => do
            let data ← transferRows memory req view.record image
              (List.range (min req.r.height view.record.height)) image.data
            return (.okNodata, some
              { view with image := some { image with data := data } })

/-- The kernel makes a dmabuf of these entries. -/
def makesUdmabuf (env : Env) (ctx : Vmctx) (entries : List MemEntry) : Bool :=
  !(decide (env.udmabufFd < 0) || (!env.infoAlloc || !env.listAlloc ||
      decide (entries.length ≥ 2147483648)) ||
    (entries.any fun entry => (vmFindMemfdRegion ctx entry.addr).isNone) ||
    decide (env.createList < 0))

def actCreateBlob (env : Env) (ctx : Vmctx) (cmd : Command)
    (memory : Memory) (req : ResourceCreateBlob) (found : Option View) :
    Act :=
  if req.resourceId = 0 then
    .ok (.errInvalidResourceId, found)
  else if cmd.iovcnt < 2 then
    .ok (.errInvalidParameter, found)
  else if req.blobMem ≠ virtioGpuBlobMemGuest ∨
      req.blobFlags ≠ virtioGpuBlobFlagUseShareable then
    .ok (.errInvalidParameter, found)
  else
    match found with
    | some view => .ok (.errInvalidResourceId, some view)
    | none =>
        if !env.r2dAlloc then
          .ok (.errOutOfMemory, none)
        else if req.nrEntries = 0 then
          .ok (.okNodata, some (View.fresh req.resourceId))
        else if !env.entriesAlloc then
          .ok (.errOutOfMemory, none)
        else do
          let entries ← gatherEntries cmd memory req.nrEntries
          if req.size > cursorBlobSize then
            if makesUdmabuf env ctx entries then
              return (.okNodata, some
                ⟨{ Resource2d.fresh req.resourceId with blob := true }, none⟩)
            else
              return (.errUnspec, none)
          else
            let image ← pixmanImageCreateBits env.imageRecordAlloc
              env.imageBitsAlloc pixmanA8r8g8b8 64 64
            if !env.iovAlloc then
              return (.errOutOfMemory, none)
            else
              return (.okNodata, some
                ⟨{ Resource2d.fresh req.resourceId with
                    width := 64
                    height := 64
                    format := pixmanA8r8g8b8
                    iov := .live (backingOf ctx entries)
                    iovcnt := req.nrEntries }, image⟩)

/-! How views follow the table and the heap. -/

section Views

variable {gpu next : GpuState}

theorem view_insert {r2d : Resource2d}
    (kept : ∀ other, other ≠ r2d.resourceId →
      next.view other = gpu.view other) :
    (insertResource next r2d).view =
      Function.update gpu.view r2d.resourceId
        (some (viewOf next.images r2d)) := by
  funext other
  have looked : virtioGpuFindResource2d (insertResource next r2d) other =
      if r2d.resourceId = other then some r2d
      else virtioGpuFindResource2d next other :=
    KeyedList.lookup_cons Resource2d.resourceId r2d next.r2dList other
  unfold GpuState.view
  rw [looked]
  rcases eq_or_ne other r2d.resourceId with same | different
  · rw [same, if_pos rfl, Function.update_self]
    rfl
  · rw [if_neg different.symm, Function.update_of_ne different]
    exact kept other different

/-- A heap that differs from the device's at a free cell only. -/
theorem view_alloc (tidy : Tidy gpu) {cell : Nat}
    (free : gpu.images cell = none) (image : Image) :
    GpuState.view { gpu with images := gpu.images.alloc cell image } =
      gpu.view := by
  funext other
  refine view_congr rfl ?_
  intro r2d held found own
  apply RefHeap.contents_update_of_ne
  rintro rfl
  exact tidy.image_live (List.mem_of_find?_eq_some found) own free

theorem view_remove (tidy : Tidy gpu) {resourceId : Nat} {r2d : Resource2d}
    {images : RefHeap Image}
    (found : virtioGpuFindResource2d gpu resourceId = some r2d)
    (dropped : gpu.images.unrefOption r2d.image = some images) :
    (GpuState.view { gpu with
        r2dList := removeResource gpu.r2dList resourceId
        images := images }) =
      Function.update gpu.view resourceId none := by
  funext other
  have looked := tidy.distinct.lookup_remove resourceId other
  rcases eq_or_ne other resourceId with same | different
  · rw [same] at looked ⊢
    rw [if_pos rfl] at looked
    rw [Function.update_self]
    unfold GpuState.view
    rw [virtioGpuFindResource2d_eq, removeResource_eq, looked]
    rfl
  · rw [if_neg different.symm] at looked
    rw [Function.update_of_ne different]
    refine view_congr looked ?_
    intro listed cell here image
    cases held : r2d.image with
    | none =>
        rw [held] at dropped
        cases dropped
        rfl
    | some mine =>
        rw [held] at dropped
        obtain ⟨counted, _, rfl⟩ := Option.map_eq_some_iff.mp dropped
        apply RefHeap.contents_update_of_ne
        exact tidy.cells_ne different here found image held

theorem view_setBacking (gpu : GpuState) {resourceId : Nat}
    {r2d : Resource2d}
    (found : virtioGpuFindResource2d gpu resourceId = some r2d)
    (iov : IovArray) (iovcnt : Nat) :
    (setBacking gpu resourceId iov iovcnt).view =
      Function.update gpu.view resourceId
        (some ((viewOf gpu.images r2d).back iov iovcnt)) := by
  funext other
  unfold GpuState.view
  rw [find_setBacking]
  rcases eq_or_ne other resourceId with same | different
  · rw [same, if_pos rfl, Function.update_self, found]
    rfl
  · rw [if_neg different, Function.update_of_ne different]
    rfl

theorem view_set (tidy : Tidy gpu) {resourceId cell : Nat} {r2d : Resource2d}
    (found : virtioGpuFindResource2d gpu resourceId = some r2d)
    (own : r2d.image = some cell) (image : Image) :
    GpuState.view { gpu with images := gpu.images.set cell image } =
      Function.update gpu.view resourceId
        (some { viewOf gpu.images r2d with image := some image }) := by
  funext other
  rcases eq_or_ne other resourceId with same | different
  · rw [same, Function.update_self]
    unfold GpuState.view
    rw [show virtioGpuFindResource2d
      { gpu with images := gpu.images.set cell image } resourceId = some r2d
      from found, Option.map_some]
    unfold viewOf
    rw [own, Option.bind_some, RefHeap.contents_set_self]
    exact tidy.image_live (List.mem_of_find?_eq_some found) own
  · rw [Function.update_of_ne different]
    refine view_congr rfl ?_
    intro listed held here image
    apply RefHeap.contents_set_of_ne
    exact tidy.cells_ne different here found image own

/-- A command that leaves the table and the heap alone keeps every view. -/
theorem view_same {resourceId : Nat} {view : Option View}
    (here : gpu.view resourceId = view) :
    gpu.view = Function.update gpu.view resourceId view := by
  rw [← here, Function.update_eq_self]

end Views

/-! The handlers act on one view. -/

structure Does (gpu : GpuState) (resourceId : Nat)
    (acted : RespType × Option View) (reply : Reply) : Prop where
  answers : reply.Answers acted.1
  view : reply.gpu.view = Function.update gpu.view resourceId acted.2
  scanouts : reply.gpu.scanouts = gpu.scanouts

section Handlers

variable {env : Env} {gpu : GpuState} {cmd : Command} {memory : Memory}

theorem view_of_find {resourceId : Nat} {found : Option Resource2d}
    (here : virtioGpuFindResource2d gpu resourceId = found) :
    gpu.view resourceId = found.map (viewOf gpu.images) := by
  unfold GpuState.view
  rw [here]

/-- An answer that changes nothing. -/
theorem does_nothing {resourceId slot : Nat} {view : Option View}
    {type : RespType} {reads : List Access}
    (here : gpu.view resourceId = view) :
    Does gpu resourceId (type, view) (answer gpu cmd type slot reads) :=
  ⟨rfl, view_same here, rfl⟩

theorem doesKeepingIolen_nothing {resourceId slot : Nat} {view : Option View}
    {type : RespType} {reads : List Access}
    (here : gpu.view resourceId = view) :
    Does gpu resourceId (type, view)
      (answerKeepingIolen gpu cmd type slot reads) :=
  ⟨rfl, view_same here, rfl⟩

theorem create2d_does (tidy : Tidy gpu) (fresh : env.Fresh gpu)
    (based : cmd.base 0 = .ok cmd.address) {req : ResourceCreate2d}
    (loaded : req = ResourceCreate2d.load memory cmd.address) :
    Paired (Does gpu req.resourceId)
      (actCreate2d env req (gpu.view req.resourceId))
      (virtioGpuCmdResourceCreate2d env gpu cmd memory) := by
  unfold virtioGpuCmdResourceCreate2d
  refine .after based ?_
  dsimp only
  rw [← loaded]
  cases found : virtioGpuFindResource2d gpu req.resourceId with
  | some r2d =>
      rw [view_of_find found]
      exact .done (does_nothing (view_of_find found))
  | none =>
      rw [view_of_find found]
      refine .ite (fun _ => .done (does_nothing (view_of_find found)))
        fun _ => ?_
      dsimp only
      unfold createImage
      cases made : pixmanImageCreateBits env.imageRecordAlloc env.imageBitsAlloc
          (virtioGpuGetPixmanFormat req.format) req.width req.height with
      | error fault => exact .failed fault
      | ok image =>
          cases image with
          | none => exact .done (does_nothing (view_of_find found))
          | some image =>
              refine .done ⟨rfl, ?_, rfl⟩
              have inserted := @view_insert gpu
                { gpu with images := gpu.images.alloc env.imageCell image }
                { Resource2d.fresh req.resourceId with
                  width := req.width
                  height := req.height
                  format := virtioGpuGetPixmanFormat req.format
                  image := some env.imageCell }
                fun other _ =>
                  congrFun (view_alloc tidy fresh.image image) other
              refine inserted.trans ?_
              unfold viewOf
              rw [Option.bind_some, RefHeap.contents_alloc_self]
              rfl

/-- Freeing the `iov` is the last of the releases. -/
theorem releaseResource_free (gpu : GpuState) (r2d : Resource2d) :
    releaseResource gpu r2d =
      (releaseResource gpu { r2d with iov := .null } >>= fun next =>
        r2d.iov.free >>= fun _ => pure next) := by
  rw [releaseResource_eq, releaseResource_eq]
  simp only [bind_assoc]
  rfl

theorem unref_does (tidy : Tidy gpu)
    (based : cmd.base 0 = .ok cmd.address) {req : ResourceUnref}
    (loaded : req = ResourceUnref.load memory cmd.address) :
    Paired (Does gpu req.resourceId) (actUnref (gpu.view req.resourceId))
      (virtioGpuCmdResourceUnref gpu cmd memory) := by
  unfold virtioGpuCmdResourceUnref
  refine .after based ?_
  dsimp only
  rw [← loaded]
  cases found : virtioGpuFindResource2d gpu req.resourceId with
  | none =>
      rw [view_of_find found]
      exact .done (does_nothing (view_of_find found))
  | some r2d =>
      rw [view_of_find found]
      have listed := List.mem_of_find?_eq_some found
      obtain ⟨leaks, counts⟩ := tidy.counts
      obtain ⟨next, released, _⟩ :=
        @releaseResource_returns gpu { r2d with iov := .null }
          (fun cell image => counts.image_live listed image)
          (fun cell owned => counts.dmabuf_live listed owned)
          (fun dangling => by cases dangling)
      obtain ⟨images, dmabufs, dropped, _, rfl⟩ :=
        (releaseResource_released released).split
      dsimp only
      rw [releaseResource_free, bind_assoc]
      refine .after released ?_
      rw [bind_assoc]
      refine .bind (.refl r2d.iov.free) fun _ _ _ => .done ⟨rfl, ?_, rfl⟩
      exact view_remove tidy found dropped

theorem attachBacking_does (based : cmd.base 0 = .ok cmd.address)
    {req : ResourceAttachBacking}
    (loaded : req = ResourceAttachBacking.load memory cmd.address) :
    Paired (Does gpu req.resourceId)
      (actAttachBacking env gpu.vmctx cmd memory req
        (gpu.view req.resourceId))
      (virtioGpuCmdResourceAttachBacking env gpu cmd memory) := by
  unfold virtioGpuCmdResourceAttachBacking actAttachBacking
  refine .after based ?_
  dsimp only
  rw [← loaded]
  refine .ite (fun _ => .done ⟨rfl, view_same rfl, rfl⟩) fun _ => ?_
  cases found : virtioGpuFindResource2d gpu req.resourceId with
  | none =>
      rw [view_of_find found]
      exact .done (does_nothing (view_of_find found))
  | some r2d =>
      rw [view_of_find found]
      have backs : ∀ iov iovcnt type slot reads calls,
          Does gpu req.resourceId
            (type, some ((viewOf gpu.images r2d).back iov iovcnt))
            { answer (setBacking gpu req.resourceId iov iovcnt) cmd type slot
                reads with calls := calls } :=
        fun iov iovcnt _ _ _ _ =>
          ⟨rfl, view_setBacking gpu found iov iovcnt, rfl⟩
      refine .ite (fun _ => .done (does_nothing (view_of_find found)))
        fun _ => ?_
      refine .ite (fun _ => .done (does_nothing (view_of_find found)))
        fun _ => ?_
      refine .ite (fun _ => .done (backs _ _ _ _ _ _)) fun _ => ?_
      refine .bind (.refl _) fun entries _ same => ?_
      cases same
      exact .done (backs _ _ _ _ _ _)

theorem detachBacking_does (based : cmd.base 0 = .ok cmd.address)
    {req : ResourceDetachBacking}
    (loaded : req = ResourceDetachBacking.load memory cmd.address) :
    Paired (Does gpu req.resourceId)
      (actDetachBacking (gpu.view req.resourceId))
      (virtioGpuCmdResourceDetachBacking gpu cmd memory) := by
  unfold virtioGpuCmdResourceDetachBacking
  refine .after based ?_
  dsimp only
  rw [← loaded]
  cases found : virtioGpuFindResource2d gpu req.resourceId with
  | none =>
      rw [view_of_find found]
      exact .done (does_nothing (view_of_find found))
  | some r2d =>
      rw [view_of_find found]
      refine .bind (.refl r2d.iov.free) fun _ _ _ => .done ⟨rfl, ?_, rfl⟩
      exact view_setBacking gpu found .null r2d.iovcnt

/-- The row loop reads no pointer of the resource but its `iov`. -/
theorem transferRows_record (images : RefHeap Image) (req : TransferToHost2d)
    (r2d : Resource2d) (image : Image) (rows : List Nat) (data : Memory) :
    transferRows memory req (viewOf images r2d).record image rows data =
      transferRows memory req r2d image rows data := by
  induction rows generalizing data with
  | nil => rfl
  | cons row rest induction =>
      unfold transferRows
      simp only [induction]
      rfl

theorem transferToHost2d_does (tidy : Tidy gpu)
    (based : cmd.base 0 = .ok cmd.address) {req : TransferToHost2d}
    (loaded : req = TransferToHost2d.load memory cmd.address) :
    Paired (Does gpu req.resourceId)
      (actTransferToHost2d memory req (gpu.view req.resourceId))
      (virtioGpuCmdTransferToHost2d gpu cmd memory) := by
  unfold virtioGpuCmdTransferToHost2d
  refine .after based ?_
  dsimp only
  rw [← loaded]
  cases found : virtioGpuFindResource2d gpu req.resourceId with
  | none =>
      rw [view_of_find found]
      exact .done (doesKeepingIolen_nothing (view_of_find found))
  | some r2d =>
      rw [view_of_find found]
      refine .ite
        (fun _ => .done (doesKeepingIolen_nothing (view_of_find found)))
        fun _ => ?_
      refine .ite (fun _ => .done (does_nothing (view_of_find found)))
        fun _ => ?_
      cases own : r2d.image with
      | none =>
          simp only [viewOf, own, Option.bind_none]
          exact .failed _
      | some cell =>
          have live := tidy.image_live (List.mem_of_find?_eq_some found) own
          obtain ⟨counted, held⟩ := Option.ne_none_iff_exists'.mp live
          obtain ⟨taken, ref⟩ := RefHeap.exists_ref live
          have contents : gpu.images.contents cell = some counted.value := by
            rw [RefHeap.contents, held, Option.map_some]
          have image : (viewOf gpu.images r2d).image = some counted.value := by
            rw [viewOf, own, Option.bind_some, contents]
          rw [image]
          dsimp only
          rw [transferRows_record]
          refine .after (by simp only [pixmanImageRef, ref]; rfl) ?_
          refine .after (derefImage_of_ref contents ref) ?_
          refine .bind (.refl _) fun data _ same => ?_
          cases same
          refine .after (by
            simp only [pixmanImageUnref, Option.getD_some,
              RefHeap.unref_set_of_ref _ ref]
            rfl) ?_
          exact .done ⟨rfl, view_set tidy found own _, rfl⟩

theorem virtioGpuCreateUdmabuf_eq (env : Env) (gpu : GpuState)
    (entries : List MemEntry) :
    virtioGpuCreateUdmabuf env gpu entries =
      if makesUdmabuf env gpu.vmctx entries then
        ({ gpu with
            dmabufs := gpu.dmabufs.alloc env.dmaCell env.createList
            openFds := Function.update gpu.openFds env.createList true },
          some env.dmaCell)
      else
        (gpu, none) := by
  unfold virtioGpuCreateUdmabuf makesUdmabuf
  by_cases opened : env.udmabufFd < 0
  · simp [opened]
  · rw [if_neg opened, decide_eq_false opened, Bool.false_or]
    cases (!env.infoAlloc || !env.listAlloc ||
        decide (entries.length ≥ 2147483648)) with
    | true => simp
    | false =>
        cases entries.any fun entry =>
            (vmFindMemfdRegion gpu.vmctx entry.addr).isNone with
        | true => simp
        | false =>
            by_cases made : env.createList < 0
            · simp [made]
            · simp [made]

theorem createBlob_does (tidy : Tidy gpu) (fresh : env.Fresh gpu)
    (based : cmd.base 0 = .ok cmd.address) {req : ResourceCreateBlob}
    (loaded : req = ResourceCreateBlob.load memory cmd.address) :
    Paired (Does gpu req.resourceId)
      (actCreateBlob env gpu.vmctx cmd memory req (gpu.view req.resourceId))
      (virtioGpuCmdCreateBlob env gpu cmd memory) := by
  unfold virtioGpuCmdCreateBlob actCreateBlob
  refine .after based ?_
  dsimp only
  rw [← loaded]
  refine .ite (fun _ => .done (does_nothing rfl)) fun _ => ?_
  refine .ite (fun _ => .done (does_nothing rfl)) fun _ => ?_
  refine .ite (fun _ => .done (does_nothing rfl)) fun _ => ?_
  cases found : virtioGpuFindResource2d gpu req.resourceId with
  | some r2d =>
      rw [view_of_find found]
      exact .done (does_nothing (view_of_find found))
  | none =>
      rw [view_of_find found]
      have unchanged : ∀ type slot reads, Does gpu req.resourceId (type, none)
          (answer gpu cmd type slot reads) :=
        fun _ _ _ => does_nothing (view_of_find found)
      refine .ite (fun _ => .done (unchanged _ _ _)) fun _ => ?_
      refine .ite (fun _ => .done ⟨rfl, ?_, rfl⟩) fun _ => ?_
      · exact @view_insert gpu gpu (.fresh req.resourceId) fun _ _ => rfl
      refine .ite (fun _ => .done (unchanged _ _ _)) fun _ => ?_
      refine .bind (.refl _) fun entries _ same => ?_
      cases same
      refine .ite (fun _ => ?_) fun _ => ?_
      · rw [virtioGpuCreateUdmabuf_eq]
        cases makesUdmabuf env gpu.vmctx entries with
        | false => exact .done (unchanged _ _ _)
        | true =>
            refine .done ⟨rfl, ?_, rfl⟩
            exact @view_insert gpu
              { gpu with
                dmabufs := gpu.dmabufs.alloc env.dmaCell env.createList
                openFds := Function.update gpu.openFds env.createList true }
              { Resource2d.fresh req.resourceId with
                blob := true
                dmaInfo := some env.dmaCell } fun _ _ => rfl
      · unfold createImage
        cases made : pixmanImageCreateBits env.imageRecordAlloc
            env.imageBitsAlloc pixmanA8r8g8b8 64 64 with
        | error fault => exact .failed fault
        | ok image =>
            cases image with
            | none =>
                refine .ite (fun _ => .done (unchanged _ _ _)) fun _ => ?_
                refine .done ⟨rfl, ?_, rfl⟩
                exact @view_insert gpu gpu
                  { Resource2d.fresh req.resourceId with
                    width := 64
                    height := 64
                    format := pixmanA8r8g8b8
                    iov := .live (backingOf gpu.vmctx entries)
                    iovcnt := req.nrEntries } fun _ _ => rfl
            | some image =>
                have kept := view_alloc tidy fresh.image image
                refine .ite (fun _ => .done ⟨rfl, ?_, rfl⟩) fun _ => ?_
                · exact kept.trans (view_same (view_of_find found))
                · refine .done ⟨rfl, ?_, rfl⟩
                  have inserted := @view_insert gpu
                    { gpu with
                      images := gpu.images.alloc env.imageCell image }
                    { Resource2d.fresh req.resourceId with
                      width := 64
                      height := 64
                      format := pixmanA8r8g8b8
                      image := some env.imageCell
                      iov := .live (backingOf gpu.vmctx entries)
                      iovcnt := req.nrEntries }
                    fun other _ => congrFun kept other
                  refine inserted.trans ?_
                  unfold viewOf
                  rw [Option.bind_some, RefHeap.contents_alloc_self]
                  rfl

end Handlers

/-! The dispatcher. -/

/-- The six commands that act on one resource. -/
def OnResource (cmd : Command) : Bool :=
  match CtrlCmd.ofCode cmd.hdr.type with
  | some .resourceCreate2d | some .resourceUnref
  | some .resourceAttachBacking | some .resourceDetachBacking
  | some .transferToHost2d | some .resourceCreateBlob => true
  | _ => false

/-- The `resource_id` such a command names. -/
def touchedId (cmd : Command) (memory : Memory) : Nat :=
  match CtrlCmd.ofCode cmd.hdr.type with
  | some .resourceCreate2d =>
      (ResourceCreate2d.load memory cmd.address).resourceId
  | some .resourceUnref => (ResourceUnref.load memory cmd.address).resourceId
  | some .resourceAttachBacking =>
      (ResourceAttachBacking.load memory cmd.address).resourceId
  | some .resourceDetachBacking =>
      (ResourceDetachBacking.load memory cmd.address).resourceId
  | some .transferToHost2d =>
      (TransferToHost2d.load memory cmd.address).resourceId
  | _ => (ResourceCreateBlob.load memory cmd.address).resourceId

def act (env : Env) (ctx : Vmctx) (isBlobSupported : Bool) (cmd : Command)
    (memory : Memory) (found : Option View) : Act :=
  match CtrlCmd.ofCode cmd.hdr.type with
  | some .resourceCreate2d =>
      actCreate2d env (ResourceCreate2d.load memory cmd.address) found
  | some .resourceUnref => actUnref found
  | some .resourceAttachBacking =>
      actAttachBacking env ctx cmd memory
        (ResourceAttachBacking.load memory cmd.address) found
  | some .resourceDetachBacking => actDetachBacking found
  | some .transferToHost2d =>
      actTransferToHost2d memory (TransferToHost2d.load memory cmd.address)
        found
  | _ =>
      if !isBlobSupported then
        .ok (.errUnspec, found)
      else
        actCreateBlob env ctx cmd memory
          (ResourceCreateBlob.load memory cmd.address) found

theorem ctrlDispatch_does {env : Env} {gpu : GpuState} {cmd : Command}
    {memory : Memory} (tidy : Tidy gpu) (fresh : env.Fresh gpu)
    (based : cmd.base 0 = .ok cmd.address)
    (onResource : OnResource cmd = true) :
    Paired (Does gpu (touchedId cmd memory))
      (act env gpu.vmctx gpu.isBlobSupported cmd memory
        (gpu.view (touchedId cmd memory)))
      (ctrlDispatch env gpu cmd memory) := by
  unfold OnResource at onResource
  unfold touchedId act ctrlDispatch
  cases code : CtrlCmd.ofCode cmd.hdr.type with
  | none =>
      rw [code] at onResource
      cases onResource
  | some command =>
      rw [code] at onResource
      cases command with
      | resourceCreate2d => exact create2d_does tidy fresh based rfl
      | resourceUnref => exact unref_does tidy based rfl
      | resourceAttachBacking => exact attachBacking_does based rfl
      | resourceDetachBacking => exact detachBacking_does based rfl
      | transferToHost2d => exact transferToHost2d_does tidy based rfl
      | resourceCreateBlob =>
          refine .ite (fun _ => .done ⟨rfl, view_same rfl, rfl⟩) fun _ => ?_
          exact createBlob_does tidy fresh based rfl
      | getEdid | getDisplayInfo | setScanout | resourceFlush
      | setScanoutBlob | setModifier => cases onResource

/-! Every other command leaves the table and the contents of images alone. -/

theorem Undisturbed.refl (gpu : GpuState) : Undisturbed gpu gpu :=
  ⟨rfl, .refl _⟩

theorem Undisturbed.trans {before middle after : GpuState}
    (first : Undisturbed before middle) (second : Undisturbed middle after) :
    Undisturbed before after :=
  ⟨second.r2dList.trans first.r2dList, first.images.trans second.images⟩

/-- A scanout update, from a state that differs in scanouts only. -/
theorem virtioGpuUpdateScanout_undisturbed {gpu start after : GpuState}
    {scanoutId resourceId : Nat} {scanRect : Rect}
    (updated : virtioGpuUpdateScanout start scanoutId resourceId scanRect =
      .ok after)
    (starts : Undisturbed gpu start) : Undisturbed gpu after := by
  refine starts.trans ⟨virtioGpuUpdateScanout_r2dList updated, ?_⟩
  obtain ⟨next, images, dmabufs, released, raised, _, rfl⟩ :=
    virtioGpuUpdateScanout_eq_ok updated
  obtain ⟨dropped, _, lowered, _, rfl⟩ := released.split
  exact (RefHeap.KeepsContents.unrefOption lowered).trans
    (RefHeap.KeepsContents.refOption raised)

section Others

variable (env : Env) (gpu : GpuState) (cmd : Command) (memory : Memory)

theorem virtioGpuCmdSetScanout_undisturbed :
    Ensures (virtioGpuCmdSetScanout gpu cmd memory) fun reply =>
      Undisturbed gpu reply.gpu := by
  refine .bind fun address _ => ?_
  refine .ite (fun _ => .error) fun _ => ?_
  dsimp only
  split
  · refine .bind fun after updated => .pure ?_
    exact virtioGpuUpdateScanout_undisturbed updated ⟨rfl, .refl _⟩
  · refine .ite (fun _ => .pure ⟨rfl, .refl _⟩) fun _ => ?_
    refine .bind fun after updated => .bind fun taken ref => ?_
    refine .bind fun image _ => .bind fun last unref => .pure ?_
    cases pixmanImageUnref_of_ref ref unref
    have kept : Undisturbed gpu after :=
      virtioGpuUpdateScanout_undisturbed updated ⟨rfl, .refl _⟩
    exact ⟨kept.r2dList, kept.images⟩

theorem virtioGpuCmdSetScanoutBlob_undisturbed :
    Ensures (virtioGpuCmdSetScanoutBlob gpu cmd memory) fun reply =>
      Undisturbed gpu reply.gpu := by
  refine .bind fun address _ => ?_
  refine .ite (fun _ => .error) fun _ => ?_
  refine .ite (fun _ => .bind fun after updated => .pure ?_) fun _ => ?_
  · exact virtioGpuUpdateScanout_undisturbed updated ⟨rfl, .refl _⟩
  dsimp only
  split
  · exact .pure ⟨rfl, .refl _⟩
  · refine .ite (fun _ => .bind fun reply handled => .pure ?_) fun _ => ?_
    · have kept := virtioGpuCmdSetScanout_undisturbed _ _ _ reply handled
      exact ⟨kept.r2dList, kept.images⟩
    · refine .bind fun after updated => .bind fun taken ref => ?_
      refine .bind fun fd _ => .bind fun last unref => .pure ?_
      cases virtioGpuDmabufUnref_of_ref ref unref
      exact virtioGpuUpdateScanout_undisturbed updated ⟨rfl, .refl _⟩

theorem virtioGpuCmdResourceFlush_gpu :
    Ensures (virtioGpuCmdResourceFlush gpu cmd memory) fun reply =>
      reply.gpu = gpu := by
  refine .bind fun address _ => ?_
  dsimp only
  split
  · exact .pure rfl
  · refine .ite (fun _ => ?_) fun _ => ?_
    · refine .bind fun taken ref => .bind fun display _ => ?_
      refine .bind fun after unref => .pure ?_
      exact virtioGpuDmabufUnref_of_ref ref unref
    · refine .bind fun taken ref => .bind fun image _ => ?_
      refine .bind fun after unref => .pure ?_
      exact pixmanImageUnref_of_ref ref unref

theorem virtioGpuCmdResourceFlush_undisturbed :
    Ensures (virtioGpuCmdResourceFlush gpu cmd memory) fun reply =>
      Undisturbed gpu reply.gpu := by
  refine (virtioGpuCmdResourceFlush_gpu gpu cmd memory).mono ?_
  intro reply same
  rw [same]
  exact .refl gpu

theorem ctrlDispatch_undisturbed (elsewhere : OnResource cmd = false) :
    Ensures (ctrlDispatch env gpu cmd memory) fun reply =>
      Undisturbed gpu reply.gpu := by
  unfold OnResource at elsewhere
  unfold ctrlDispatch
  cases code : CtrlCmd.ofCode cmd.hdr.type with
  | none => exact .ok (.refl gpu)
  | some command =>
      rw [code] at elsewhere
      cases command with
      | getEdid =>
          exact .bind fun _ _ => .ite (fun _ => .error) fun _ =>
            .pure (.refl gpu)
      | getDisplayInfo => exact .ok (.refl gpu)
      | setScanout =>
          exact virtioGpuCmdSetScanout_undisturbed gpu cmd memory
      | resourceFlush =>
          exact virtioGpuCmdResourceFlush_undisturbed gpu cmd memory
      | setScanoutBlob =>
          refine .ite (fun _ => .ok (.refl gpu)) fun _ => ?_
          exact virtioGpuCmdSetScanoutBlob_undisturbed gpu cmd memory
      | setModifier => exact .bind fun _ _ => .pure (.refl gpu)
      | resourceCreate2d | resourceUnref | resourceAttachBacking
      | resourceDetachBacking | transferToHost2d | resourceCreateBlob =>
          cases elsewhere

end Others

end VirtioGpu.Gpu
