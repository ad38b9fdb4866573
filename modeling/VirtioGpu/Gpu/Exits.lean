import VirtioGpu.Gpu.Display
import VirtioGpu.Foundation.Ensures

namespace VirtioGpu.Gpu

open Foundation
open Virtio

/-! The exits of the control handlers: which slot the response goes to, how
long it is, how much of the first descriptor is read as the request, whether
the fence is echoed and whether `cmd->iolen` is set. -/

structure Exit where
  slot : Nat
  size : Nat
  request : Nat
  echoesFence : Bool
  setsIolen : Bool
  deriving Repr, DecidableEq

/-- The request bytes of a command: its header, read by the dispatcher, and
what its handler reads. -/
def requestReads (reply : Reply) : List Access :=
  ⟨0, CtrlHdr.size⟩ :: reply.reads

structure Reply.Follows (cmd : Command) (exit : Exit) (reply : Reply) :
    Prop where
  slot : reply.slot = exit.slot
  size : reply.resp.size = exit.size
  iolen : reply.iolen = if exit.setsIolen then exit.size else cmd.iolen
  header : ∃ type : RespType, reply.resp.hdr =
    (if exit.echoesFence then fencedHdr cmd.hdr else CtrlHdr.zero).withType type
  request : (⟨0, exit.request⟩ : Access) ∈ requestReads reply
  bounded : ∀ access, access ∈ requestReads reply →
    access.slot = 0 ∧ access.len ≤ exit.request ∨ access ∈ cmd.middleReads

/-- The exit all handlers with a bare header response share. -/
def plainExit (slot request : Nat) : Exit :=
  ⟨slot, CtrlHdr.size, request, true, true⟩

theorem Reply.Follows.with_effects {cmd : Command} {exit : Exit}
    {reply : Reply} (follows : reply.Follows cmd exit) (gpu : GpuState)
    (calls : List Translation) (display : List DisplayCall) :
    Reply.Follows cmd exit
      { reply with gpu := gpu, calls := calls, display := display } :=
  ⟨follows.slot, follows.size, follows.iolen, follows.header, follows.request,
    follows.bounded⟩

/-- Reads of the header, of one request record and of middle descriptors. -/
theorem requestReads_bounded {cmd : Command} {reply : Reply} {request : Nat}
    {rest : List Access} (reads : reply.reads = ⟨0, request⟩ :: rest)
    (header : CtrlHdr.size ≤ request)
    (middle : ∀ access, access ∈ rest → access ∈ cmd.middleReads) :
    ∀ access, access ∈ requestReads reply →
      access.slot = 0 ∧ access.len ≤ request ∨ access ∈ cmd.middleReads := by
  intro access member
  simp only [requestReads, reads, List.mem_cons] at member
  rcases member with rfl | rfl | later
  · exact .inl ⟨rfl, header⟩
  · exact .inl ⟨rfl, Nat.le_refl _⟩
  · exact .inr (middle access later)

theorem answer_follows (gpu : GpuState) (cmd : Command) (type : RespType)
    (slot : Nat) {request : Nat} (header : CtrlHdr.size ≤ request) :
    (answer gpu cmd type slot [⟨0, request⟩]).Follows cmd
      (plainExit slot request) where
  slot := rfl
  size := rfl
  iolen := rfl
  header := ⟨type, rfl⟩
  request := by simp [requestReads, answer, plainExit]
  bounded := requestReads_bounded rfl header (by simp)

theorem answer_middle_follows (gpu : GpuState) (cmd : Command)
    (type : RespType) (slot : Nat) {request : Nat}
    (header : CtrlHdr.size ≤ request) :
    (answer gpu cmd type slot ([⟨0, request⟩] ++ cmd.middleReads)).Follows cmd
      (plainExit slot request) where
  slot := rfl
  size := rfl
  iolen := rfl
  header := ⟨type, rfl⟩
  request := by simp [requestReads, answer, plainExit]
  bounded := requestReads_bounded rfl header (fun _ member => member)

theorem answerKeepingIolen_follows (gpu : GpuState) (cmd : Command)
    (type : RespType) (slot : Nat) {request : Nat}
    (header : CtrlHdr.size ≤ request) :
    (answerKeepingIolen gpu cmd type slot [⟨0, request⟩]).Follows cmd
      { plainExit slot request with setsIolen := false } where
  slot := rfl
  size := rfl
  iolen := rfl
  header := ⟨type, rfl⟩
  request := by simp [requestReads, answerKeepingIolen, answer, plainExit]
  bounded := requestReads_bounded rfl header (by simp)

/-! The exit of each handler. -/

theorem virtioGpuCmdUnspec_follows (gpu : GpuState) (cmd : Command) :
    Ensures (virtioGpuCmdUnspec gpu cmd)
      (Reply.Follows cmd (plainExit (cmd.iovcnt - 1) CtrlHdr.size)) := by
  refine .ok ⟨rfl, rfl, rfl, ⟨.errUnspec, rfl⟩, ?_, ?_⟩
  · exact List.mem_cons_self
  · intro access member
    simp only [requestReads, List.mem_singleton] at member
    subst member
    exact .inl ⟨rfl, Nat.le_refl _⟩

def edidExit : Exit := ⟨1, 1056, GetEdid.size, true, true⟩

theorem virtioGpuCmdGetEdid_follows (env : Env) (gpu : GpuState)
    (cmd : Command) (memory : Memory) :
    Ensures (virtioGpuCmdGetEdid env gpu cmd memory)
      (Reply.Follows cmd edidExit) := by
  unfold virtioGpuCmdGetEdid
  refine .bind fun address _ => .ite (fun _ => .error) fun _ => .pure ?_
  constructor
  · rfl
  · rfl
  · rfl
  · exact ⟨_, rfl⟩
  · simp [requestReads, edidExit]
  · exact requestReads_bounded rfl (by decide) (by simp)

def displayInfoExit : Exit := ⟨1, 408, CtrlHdr.size, true, true⟩

theorem virtioGpuCmdGetDisplayInfo_follows (env : Env) (gpu : GpuState)
    (cmd : Command) :
    Ensures (virtioGpuCmdGetDisplayInfo env gpu cmd)
      (Reply.Follows cmd displayInfoExit) := by
  refine .ok ⟨rfl, rfl, rfl, ⟨.okDisplayInfo, rfl⟩, ?_, ?_⟩
  · exact List.mem_cons_self
  · intro access member
    simp only [requestReads, List.mem_singleton] at member
    subst member
    exact .inl ⟨rfl, Nat.le_refl _⟩

theorem virtioGpuCmdResourceCreate2d_follows (env : Env) (gpu : GpuState)
    (cmd : Command) (memory : Memory) :
    Ensures (virtioGpuCmdResourceCreate2d env gpu cmd memory)
      (Reply.Follows cmd (plainExit 1 ResourceCreate2d.size)) := by
  have plain : ∀ gpu type,
      (answer gpu cmd type 1 [⟨0, ResourceCreate2d.size⟩]).Follows cmd
        (plainExit 1 ResourceCreate2d.size) :=
    fun gpu type => answer_follows gpu cmd type 1 (by decide)
  unfold virtioGpuCmdResourceCreate2d
  refine .bind fun address _ => ?_
  dsimp only
  cases virtioGpuFindResource2d gpu
      (ResourceCreate2d.load memory address).resourceId with
  | some _ => exact .pure (plain _ _)
  | none =>
      refine .ite (fun _ => .pure (plain _ _)) fun _ => ?_
      refine .bind fun created _ => ?_
      rcases created with ⟨gpu, image⟩
      cases image with
      | none => exact .pure (plain _ _)
      | some cell => exact .pure (plain _ _)

theorem virtioGpuCmdResourceUnref_follows (gpu : GpuState) (cmd : Command)
    (memory : Memory) :
    Ensures (virtioGpuCmdResourceUnref gpu cmd memory)
      (Reply.Follows cmd (plainExit 1 ResourceUnref.size)) := by
  have plain := fun gpu type =>
    @answer_follows gpu cmd type 1 ResourceUnref.size (by decide)
  unfold virtioGpuCmdResourceUnref
  refine .bind fun address _ => ?_
  dsimp only
  cases virtioGpuFindResource2d gpu
      (ResourceUnref.load memory address).resourceId with
  | none => exact .pure (plain _ _)
  | some r2d => exact .bind fun _ _ => .pure (plain _ _)

/-- Without room for a response behind the request, the fence and `iolen` are
forgotten. -/
def attachBackingExit (cmd : Command) : Exit :=
  { plainExit (cmd.iovcnt - 1) ResourceAttachBacking.size with
    echoesFence := decide (2 ≤ cmd.iovcnt)
    setsIolen := decide (2 ≤ cmd.iovcnt) }

theorem attachBackingExit_of_room {cmd : Command} (room : ¬cmd.iovcnt < 2) :
    attachBackingExit cmd =
      plainExit (cmd.iovcnt - 1) ResourceAttachBacking.size := by
  simp [attachBackingExit, plainExit, Nat.not_lt.mp room]

theorem virtioGpuCmdResourceAttachBacking_follows (env : Env) (gpu : GpuState)
    (cmd : Command) (memory : Memory) :
    Ensures (virtioGpuCmdResourceAttachBacking env gpu cmd memory)
      (Reply.Follows cmd (attachBackingExit cmd)) := by
  have plain := fun gpu type =>
    @answer_follows gpu cmd type (cmd.iovcnt - 1) ResourceAttachBacking.size
      (by decide)
  unfold virtioGpuCmdResourceAttachBacking
  refine .bind fun address _ => .ite (fun short => .pure ?_) fun room => ?_
  · have narrow : ¬2 ≤ cmd.iovcnt := by omega
    constructor
    · rfl
    · rfl
    · simp [attachBackingExit, narrow]
    · exact ⟨.errInvalidParameter, by simp [attachBackingExit, narrow,
        Resp.nodata]⟩
    · simp [requestReads, attachBackingExit, plainExit]
    · exact @requestReads_bounded cmd _ ResourceAttachBacking.size [] rfl
        (by decide) (by simp)
  · rw [attachBackingExit_of_room room]
    dsimp only
    cases virtioGpuFindResource2d gpu
        (ResourceAttachBacking.load memory address).resourceId with
    | none => exact .pure (plain _ _)
    | some _ =>
        refine .ite (fun _ => .pure (plain _ _)) fun _ => ?_
        refine .ite (fun _ => .pure (plain _ _)) fun _ => ?_
        refine .ite (fun _ => .pure (plain _ _)) fun _ => ?_
        refine .bind fun entries _ => .pure ?_
        exact (answer_middle_follows _ cmd _ _ (by decide)).with_effects _ _ _

theorem virtioGpuCmdResourceDetachBacking_follows (gpu : GpuState)
    (cmd : Command) (memory : Memory) :
    Ensures (virtioGpuCmdResourceDetachBacking gpu cmd memory)
      (Reply.Follows cmd (plainExit 1 ResourceDetachBacking.size)) := by
  have plain := fun gpu type =>
    @answer_follows gpu cmd type 1 ResourceDetachBacking.size (by decide)
  unfold virtioGpuCmdResourceDetachBacking
  refine .bind fun address _ => ?_
  dsimp only
  cases virtioGpuFindResource2d gpu
      (ResourceDetachBacking.load memory address).resourceId with
  | none => exact .pure (plain _ _)
  | some r2d => exact .bind fun _ _ => .pure (plain _ _)

theorem virtioGpuCmdCreateBlob_follows (env : Env) (gpu : GpuState)
    (cmd : Command) (memory : Memory) :
    Ensures (virtioGpuCmdCreateBlob env gpu cmd memory)
      (Reply.Follows cmd
        (plainExit (cmd.iovcnt - 1) ResourceCreateBlob.length)) := by
  have plain := fun gpu type =>
    @answer_follows gpu cmd type (cmd.iovcnt - 1) ResourceCreateBlob.length
      (by decide)
  have gathered := fun gpu type =>
    @answer_middle_follows gpu cmd type (cmd.iovcnt - 1)
      ResourceCreateBlob.length (by decide)
  unfold virtioGpuCmdCreateBlob
  refine .bind fun address _ => .ite (fun _ => .pure (plain _ _)) fun _ => ?_
  refine .ite (fun _ => .pure (plain _ _)) fun _ => ?_
  refine .ite (fun _ => .pure (plain _ _)) fun _ => ?_
  dsimp only
  cases virtioGpuFindResource2d gpu
      (ResourceCreateBlob.load memory address).resourceId with
  | some _ => exact .pure (plain _ _)
  | none =>
      refine .ite (fun _ => .pure (plain _ _)) fun _ => ?_
      refine .ite (fun _ => .pure (plain _ _)) fun _ => ?_
      refine .ite (fun _ => .pure (plain _ _)) fun _ => ?_
      refine .bind fun entries _ => .ite (fun _ => ?_) fun _ => ?_
      · cases (virtioGpuCreateUdmabuf env gpu entries).2 with
        | none => exact .pure (gathered _ _)
        | some cell => exact .pure (gathered _ _)
      · refine .bind fun created _ => ?_
        refine .ite (fun _ => .pure (gathered _ _)) fun _ => .pure ?_
        exact (gathered _ _).with_effects _ _ _

/-! Commands that only set `iolen` when they reach an image. -/

/-- The resource exists and its pixels are in an image of the device. -/
def namesPixels (gpu : GpuState) (resourceId : Nat) : Bool :=
  match virtioGpuFindResource2d gpu resourceId with
  | none => false
  | some r2d => !r2d.blob

/-- `SET_SCANOUT` gets past its check of the resource. -/
def setScanoutShows (gpu : GpuState) (req : SetScanout) : Bool :=
  decide (req.resourceId ≠ 0) &&
    (virtioGpuFindResource2d gpu req.resourceId).isSome

def setScanoutExit (gpu : GpuState) (req : SetScanout) : Exit :=
  { plainExit 1 SetScanout.size with setsIolen := setScanoutShows gpu req }

theorem find_setScanoutAt (gpu : GpuState) (scanoutId : Nat)
    (scanout : Scanout) (resourceId : Nat) :
    virtioGpuFindResource2d (setScanoutAt gpu scanoutId scanout) resourceId =
      virtioGpuFindResource2d gpu resourceId := rfl

theorem scanoutAt_setScanoutAt {gpu : GpuState} {scanoutId : Nat}
    (inside : scanoutId < gpu.scanouts.length) (scanout : Scanout) :
    scanoutAt (setScanoutAt gpu scanoutId scanout) scanoutId = scanout := by
  unfold scanoutAt setScanoutAt
  rw [List.getD_eq_getElem?_getD, List.getElem?_set_self inside,
    Option.getD_some]

theorem virtioGpuCmdSetScanout_follows (gpu : GpuState) (cmd : Command)
    (memory : Memory) {address : Nat} (based : cmd.base 0 = .ok address) :
    Ensures (virtioGpuCmdSetScanout gpu cmd memory)
      (Reply.Follows cmd
        (setScanoutExit gpu (SetScanout.load memory address))) := by
  have plain := fun gpu type =>
    @answer_follows gpu cmd type 1 SetScanout.size (by decide)
  have keeping := fun gpu type =>
    @answerKeepingIolen_follows gpu cmd type 1 SetScanout.size (by decide)
  unfold virtioGpuCmdSetScanout
  refine .after based ?_
  refine .ite (fun _ => .error) fun _ => ?_
  dsimp only
  rw [find_setScanoutAt]
  have shows : setScanoutShows gpu (SetScanout.load memory address) =
      (if (SetScanout.load memory address).resourceId = 0 then none
        else virtioGpuFindResource2d gpu
          (SetScanout.load memory address).resourceId).isSome := by
    cases Decidable.em ((SetScanout.load memory address).resourceId = 0) with
    | inl zero => simp [setScanoutShows, zero]
    | inr nonzero => simp [setScanoutShows, nonzero]
  rw [setScanoutExit, shows]
  cases (if (SetScanout.load memory address).resourceId = 0 then none
      else virtioGpuFindResource2d gpu
        (SetScanout.load memory address).resourceId) with
  | none =>
      refine .bind fun gpu _ => .pure ?_
      exact (keeping _ _).with_effects _ _ _
  | some r2d =>
      refine .ite (fun _ => .pure (plain _ _)) fun _ => ?_
      refine .bind fun _ _ => .bind fun _ _ => .bind fun _ _ => ?_
      refine .bind fun _ _ => .pure ?_
      exact (plain _ _).with_effects _ _ _

def pixelsExit (gpu : GpuState) (resourceId request : Nat) : Exit :=
  { plainExit 1 request with setsIolen := namesPixels gpu resourceId }

theorem virtioGpuCmdTransferToHost2d_follows (gpu : GpuState) (cmd : Command)
    (memory : Memory) {address : Nat} (based : cmd.base 0 = .ok address) :
    Ensures (virtioGpuCmdTransferToHost2d gpu cmd memory)
      (Reply.Follows cmd
        (pixelsExit gpu (TransferToHost2d.load memory address).resourceId
          TransferToHost2d.size)) := by
  have plain := fun gpu type =>
    @answer_follows gpu cmd type 1 TransferToHost2d.size (by decide)
  have keeping := fun gpu type =>
    @answerKeepingIolen_follows gpu cmd type 1 TransferToHost2d.size
      (by decide)
  unfold virtioGpuCmdTransferToHost2d
  refine .after based ?_
  dsimp only
  cases found : virtioGpuFindResource2d gpu
      (TransferToHost2d.load memory address).resourceId with
  | none =>
      simp only [pixelsExit, namesPixels, found]
      exact .pure (keeping _ _)
  | some r2d =>
      simp only [pixelsExit, namesPixels, found]
      refine .ite (fun blob => ?_) fun image => ?_
      · rw [blob]
        exact .pure (keeping _ _)
      · rw [eq_false_of_ne_true image]
        refine .ite (fun _ => .pure (plain _ _)) fun _ => ?_
        refine .bind fun _ _ => .bind fun _ _ => .bind fun _ _ => ?_
        exact .bind fun _ _ => .pure (plain _ _)

theorem virtioGpuCmdResourceFlush_follows (gpu : GpuState) (cmd : Command)
    (memory : Memory) {address : Nat} (based : cmd.base 0 = .ok address) :
    Ensures (virtioGpuCmdResourceFlush gpu cmd memory)
      (Reply.Follows cmd
        (pixelsExit gpu (ResourceFlush.load memory address).resourceId
          ResourceFlush.size)) := by
  have plain := fun gpu type =>
    @answer_follows gpu cmd type 1 ResourceFlush.size (by decide)
  have keeping := fun gpu type =>
    @answerKeepingIolen_follows gpu cmd type 1 ResourceFlush.size (by decide)
  unfold virtioGpuCmdResourceFlush
  refine .after based ?_
  dsimp only
  cases found : virtioGpuFindResource2d gpu
      (ResourceFlush.load memory address).resourceId with
  | none =>
      simp only [pixelsExit, namesPixels, found]
      exact .pure (keeping _ _)
  | some r2d =>
      simp only [pixelsExit, namesPixels, found]
      refine .ite (fun blob => ?_) fun image => ?_
      · rw [blob]
        refine .bind fun _ _ => .bind fun _ _ => .bind fun _ _ => .pure ?_
        exact (keeping _ _).with_effects _ _ _
      · rw [eq_false_of_ne_true image]
        refine .bind fun _ _ => .bind fun _ _ => .bind fun _ _ => .pure ?_
        exact (plain _ _).with_effects _ _ _

/-! Commands on modifiers and blob scanouts. -/

def setModifierExit (cmd : Command) : Exit :=
  { plainExit (cmd.iovcnt - 1) SetModifier.size with echoesFence := false }

theorem virtioGpuCmdSetModifier_follows (gpu : GpuState) (cmd : Command)
    (memory : Memory) :
    Ensures (virtioGpuCmdSetModifier gpu cmd memory)
      (Reply.Follows cmd (setModifierExit cmd)) := by
  unfold virtioGpuCmdSetModifier
  refine .bind fun address _ => .pure ?_
  constructor
  · rfl
  · rfl
  · rfl
  · exact ⟨_, rfl⟩
  · simp [requestReads, setModifierExit, plainExit]
  · exact @requestReads_bounded cmd _ SetModifier.size [] rfl (by decide)
      (by simp)

/-- `SET_SCANOUT_BLOB` hands an image resource over to `SET_SCANOUT`. -/
def setScanoutBlobFallsBack (gpu : GpuState) (req : SetScanoutBlob) : Bool :=
  decide (req.resourceId ≠ 0) && namesPixels gpu req.resourceId

def setScanoutBlobExit (gpu : GpuState) (cmd : Command)
    (req : SetScanoutBlob) : Exit :=
  plainExit (if setScanoutBlobFallsBack gpu req then 1 else cmd.iovcnt - 1)
    SetScanoutBlob.size

/-- The reply of the fallback, with the reads of both handlers. -/
theorem fallback_follows {gpu : GpuState} {cmd : Command} {req : SetScanout}
    {reply : Reply}
    (follows : reply.Follows { cmd with iolen := CtrlHdr.size }
      (setScanoutExit gpu req)) :
    Reply.Follows cmd (plainExit 1 SetScanoutBlob.size)
      { reply with reads := [⟨0, SetScanoutBlob.size⟩] ++ reply.reads } where
  slot := follows.slot
  size := follows.size
  iolen := by
    have iolen := follows.iolen
    unfold setScanoutExit at iolen
    cases shows : setScanoutShows gpu req with
    | false =>
        rw [shows] at iolen
        exact iolen
    | true =>
        rw [shows] at iolen
        exact iolen
  header := follows.header
  request := by simp [requestReads, plainExit]
  bounded := by
    intro access member
    simp only [requestReads, List.mem_cons, List.mem_append,
      List.not_mem_nil, or_false] at member
    rcases member with rfl | rfl | later
    · exact .inl ⟨rfl, by decide⟩
    · exact .inl ⟨rfl, Nat.le_refl _⟩
    · have bounded := follows.bounded access
        (by simp [requestReads, later])
      rcases bounded with ⟨first, short⟩ | middle
      · exact .inl ⟨first, Nat.le_trans short
          (show SetScanout.size ≤ SetScanoutBlob.size by decide)⟩
      · exact .inr middle

theorem virtioGpuCmdSetScanoutBlob_follows (gpu : GpuState) (cmd : Command)
    (memory : Memory) {address : Nat} (based : cmd.base 0 = .ok address) :
    Ensures (virtioGpuCmdSetScanoutBlob gpu cmd memory)
      (Reply.Follows cmd
        (setScanoutBlobExit gpu cmd (SetScanoutBlob.load memory address))) := by
  have plain := fun gpu type =>
    @answer_follows gpu cmd type (cmd.iovcnt - 1) SetScanoutBlob.size
      (by decide)
  unfold virtioGpuCmdSetScanoutBlob
  refine .after based ?_
  refine .ite (fun _ => .error) fun _ => ?_
  refine .ite (fun zero => ?_) fun nonzero => ?_
  · have stays : setScanoutBlobFallsBack gpu
        (SetScanoutBlob.load memory address) = false := by
      simp [setScanoutBlobFallsBack, zero]
    rw [setScanoutBlobExit, stays]
    refine .bind fun _ _ => .pure ?_
    exact (plain _ _).with_effects _ _ _
  · dsimp only
    rw [find_setScanoutAt]
    have fallsBack : setScanoutBlobFallsBack gpu
        (SetScanoutBlob.load memory address) =
          namesPixels gpu
            (SetScanoutBlob.load memory address).resourceId := by
      simp only [setScanoutBlobFallsBack, decide_eq_true nonzero,
        Bool.true_and]
    rw [setScanoutBlobExit, fallsBack, namesPixels]
    cases found : virtioGpuFindResource2d gpu
        (SetScanoutBlob.load memory address).resourceId with
    | none =>
        have same : virtioGpuFindResource2d
            { gpu with vgaEnable := false }
            (SetScanoutBlob.load memory address).resourceId = none := found
        rw [same]
        exact .pure (plain _ _)
    | some r2d =>
        have same : virtioGpuFindResource2d
            { gpu with vgaEnable := false }
            (SetScanoutBlob.load memory address).resourceId =
              some r2d := found
        rw [same]
        dsimp only
        refine .ite (fun image => ?_) fun blob => ?_
        · rw [if_pos image]
          refine .bind fun reply ran => .pure ?_
          exact fallback_follows
            (virtioGpuCmdSetScanout_follows _
              { cmd with iolen := CtrlHdr.size } memory based reply ran)
        · rw [if_neg blob]
          refine .bind fun _ _ => .bind fun _ _ => .bind fun _ _ => ?_
          refine .bind fun _ _ => .pure ?_
          exact (plain _ _).with_effects _ _ _

/-! All control commands together. -/

/-- The exit a control command takes, from its type, its chain, the request
and the resources before it. -/
def exitOf (gpu : GpuState) (cmd : Command) (memory : Memory)
    (address : Nat) : Exit :=
  match CtrlCmd.ofCode cmd.hdr.type with
  | some .getEdid => edidExit
  | some .getDisplayInfo => displayInfoExit
  | some .resourceCreate2d => plainExit 1 ResourceCreate2d.size
  | some .resourceUnref => plainExit 1 ResourceUnref.size
  | some .resourceAttachBacking => attachBackingExit cmd
  | some .resourceDetachBacking => plainExit 1 ResourceDetachBacking.size
  | some .setScanout => setScanoutExit gpu (SetScanout.load memory address)
  | some .transferToHost2d =>
      pixelsExit gpu (TransferToHost2d.load memory address).resourceId
        TransferToHost2d.size
  | some .resourceFlush =>
      pixelsExit gpu (ResourceFlush.load memory address).resourceId
        ResourceFlush.size
  | some .resourceCreateBlob =>
      if gpu.isBlobSupported then
        plainExit (cmd.iovcnt - 1) ResourceCreateBlob.length
      else
        plainExit (cmd.iovcnt - 1) CtrlHdr.size
  | some .setScanoutBlob =>
      if gpu.isBlobSupported then
        setScanoutBlobExit gpu cmd (SetScanoutBlob.load memory address)
      else
        plainExit (cmd.iovcnt - 1) CtrlHdr.size
  | some .setModifier => setModifierExit cmd
  | none => plainExit (cmd.iovcnt - 1) CtrlHdr.size

theorem ctrlDispatch_follows (env : Env) (gpu : GpuState) (cmd : Command)
    (memory : Memory) {address : Nat} (based : cmd.base 0 = .ok address) :
    Ensures (ctrlDispatch env gpu cmd memory)
      (Reply.Follows cmd (exitOf gpu cmd memory address)) := by
  unfold ctrlDispatch exitOf
  cases CtrlCmd.ofCode cmd.hdr.type with
  | none => exact virtioGpuCmdUnspec_follows gpu cmd
  | some command =>
      cases command with
      | getEdid => exact virtioGpuCmdGetEdid_follows env gpu cmd memory
      | getDisplayInfo => exact virtioGpuCmdGetDisplayInfo_follows env gpu cmd
      | resourceCreate2d =>
          exact virtioGpuCmdResourceCreate2d_follows env gpu cmd memory
      | resourceUnref => exact virtioGpuCmdResourceUnref_follows gpu cmd memory
      | resourceAttachBacking =>
          exact virtioGpuCmdResourceAttachBacking_follows env gpu cmd memory
      | resourceDetachBacking =>
          exact virtioGpuCmdResourceDetachBacking_follows gpu cmd memory
      | setScanout => exact virtioGpuCmdSetScanout_follows gpu cmd memory based
      | transferToHost2d =>
          exact virtioGpuCmdTransferToHost2d_follows gpu cmd memory based
      | resourceFlush =>
          exact virtioGpuCmdResourceFlush_follows gpu cmd memory based
      | resourceCreateBlob =>
          cases gpu.isBlobSupported with
          | false => exact virtioGpuCmdUnspec_follows gpu cmd
          | true => exact virtioGpuCmdCreateBlob_follows env gpu cmd memory
      | setScanoutBlob =>
          cases gpu.isBlobSupported with
          | false => exact virtioGpuCmdUnspec_follows gpu cmd
          | true =>
              exact virtioGpuCmdSetScanoutBlob_follows gpu cmd memory based
      | setModifier => exact virtioGpuCmdSetModifier_follows gpu cmd memory

end VirtioGpu.Gpu
