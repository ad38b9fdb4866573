import VirtioGpu.Backend.AbsentResource
import VirtioGpu.Foundation.Logged
import VirtioGpu.Vdpy.Edid

namespace VirtioGpu.Backend

open Foundation
open Virtio
open Gpu

/-! The commands that carry a scanout id, down into the display, with the
elements of `gpu_scanouts` and of `vdpy.vscrs` they touch. -/

structure Vscreen where
  width : Nat
  height : Nat
  modifier : Nat
  setModifier : Bool
  deriving Repr, DecidableEq

inductive ClientMessage where
  | surfaceSet (surface : Surface)
  | surfaceFd (fd : Int)
  | surfaceUpdate
  | setModifier (modifier : Nat)
  deriving Repr, DecidableEq

/-- The part of `vdpy` these commands reach.  `vscrs` gives what is found
behind the array's first element at any distance, `connected` tells whether
`handle == vdpy.s.n_connect`, and `sent` holds the messages for the client. -/
structure Screens where
  vscrs : Int → Vscreen
  vscrsNum : Nat
  connected : Bool
  sent : List ClientMessage

inductive Element where
  | gpuScanout (index : Int)
  | vscreen (index : Int)
  deriving Repr, DecidableEq

def Element.index : Element → Int
  | .gpuScanout index => index
  | .vscreen index => index

abbrev Touching := Logged Element Fault

/-- Conversion of a `uint32_t` to `int`. -/
def toInt32 (value : Nat) : Int :=
  if value < 2147483648 then value else (value : Int) - 4294967296

/-! The display. -/

/-- The preferred mode that `vdpy_get_edid` hands to `vdpy_edid_generate`. -/
def vdpyGetEdid (screens : Screens) (scanoutId : Int) :
    Touching (Option Vdpy.EdidInfo) :=
  if scanoutId ≥ screens.vscrsNum then
    return none
  else if screens.connected then do
    Logged.touch (.vscreen scanoutId)
    let vscr := screens.vscrs scanoutId
    return some ⟨vscr.width, vscr.height⟩
  else
    return some ⟨Vdpy.vdpyDefaultWidth, Vdpy.vdpyDefaultHeight⟩

def vdpySetModifier (screens : Screens) (scanoutId : Int) (modifier : Nat) :
    Touching Screens :=
  if scanoutId ≥ screens.vscrsNum then
    return screens
  else do
    Logged.touch (.vscreen scanoutId)
    let vscr :=
      { screens.vscrs scanoutId with
        modifier := modifier
        setModifier := true }
    return { screens with
      vscrs := Function.update screens.vscrs scanoutId vscr
      sent := screens.sent ++ [.setModifier modifier] }

/-- Only the modifier depends on the scanout. -/
def vdpyCall (screens : Screens) : DisplayCall → Touching Screens
  | .setModifier scanoutId modifier =>
      vdpySetModifier screens (toInt32 scanoutId) modifier
  | .surfaceSet _ (some (.dmabuf rect stride fd fourcc offset)) =>
      return { screens with sent := screens.sent ++
        [.surfaceSet (.dmabuf rect stride fd fourcc offset), .surfaceFd fd] }
  | .surfaceUpdate _ (.dmabufUpdate _) =>
      return { screens with sent := screens.sent ++ [.surfaceUpdate] }
  | .surfaceSet _ _ | .surfaceUpdate _ _ | .cursorDefine _ _ _ _ _ _ _ _
  | .cursorMove _ _ _ => return screens

/-! The handlers. -/

def touchScanout (scanoutId : Nat) : Touching PUnit :=
  Logged.touch (.gpuScanout scanoutId)

def updateScanout (gpu : GpuState) (scanoutId resourceId : Nat)
    (scanRect : Rect) : Touching GpuState := do
  touchScanout scanoutId
  virtioGpuUpdateScanout gpu scanoutId resourceId scanRect

def getEdid (env : Env) (screens : Screens) (gpu : GpuState) (cmd : Command)
    (memory : Memory) : Touching Reply := do
  let address ← cmd.base 0
  let req := GetEdid.load memory address
  if req.scanout ≥ gpu.scanouts.length then
    virtioGpuCmdGetEdid env gpu cmd memory
  else do
    let _ ← vdpyGetEdid screens (toInt32 req.scanout)
    virtioGpuCmdGetEdid env gpu cmd memory

def setScanout (gpu : GpuState) (cmd : Command) (memory : Memory) :
    Touching Reply := do
  let address ← cmd.base 0
  let req := SetScanout.load memory address
  let reads : List Access := [⟨0, SetScanout.size⟩]
  if req.scanoutId ≥ gpu.scanouts.length then
    throw .formatString
  else do
    touchScanout req.scanoutId
    let gpu := setScanoutAt gpu req.scanoutId
      { scanoutAt gpu req.scanoutId with scanoutId := req.scanoutId }
    let found := virtioGpuFindResource2d gpu req.resourceId
    match (if req.resourceId = 0 then none else found) with
    | none => do
        let gpu ← updateScanout gpu req.scanoutId 0 req.r
        return { answerKeepingIolen gpu cmd .okNodata 1 reads with
          display := [.surfaceSet req.scanoutId none] }
    | some r2d =>
        if !rectInside req.r r2d then
          return answer { gpu with vgaEnable := false } cmd
            .errInvalidParameter 1 reads
        else do
          let gpu ← updateScanout gpu req.scanoutId req.resourceId req.r
          let gpu ← pixmanImageRef gpu r2d.image
          let image ← derefImage gpu r2d.image
          let gpu ← pixmanImageUnref gpu r2d.image
          return { answer { gpu with vgaEnable := false } cmd
              .okNodata 1 reads with
            display := [.surfaceSet req.scanoutId
              (some (pixmanSurface r2d image req.r))] }

def setScanoutBlob (gpu : GpuState) (cmd : Command) (memory : Memory) :
    Touching Reply := do
  let address ← cmd.base 0
  let req := SetScanoutBlob.load memory address
  let reads : List Access := [⟨0, SetScanoutBlob.size⟩]
  let last := cmd.iovcnt - 1
  let gpu := { gpu with vgaEnable := false }
  if req.scanoutId ≥ gpu.scanouts.length then
    throw .formatString
  else do
    touchScanout req.scanoutId
    let gpu := setScanoutAt gpu req.scanoutId
      { scanoutAt gpu req.scanoutId with scanoutId := req.scanoutId }
    if req.resourceId = 0 then do
      let gpu ← updateScanout gpu req.scanoutId 0 req.r
      return { answer gpu cmd .okNodata last reads with
        display := [.surfaceSet req.scanoutId none] }
    else
      match virtioGpuFindResource2d gpu req.resourceId with
      | none => return answer gpu cmd .errInvalidResourceId last reads
      | some r2d =>
          if !r2d.blob then do
            let reply ← setScanout gpu { cmd with iolen := CtrlHdr.size }
              memory
            return { reply with reads := reads ++ reply.reads }
          else do
            let gpu ← updateScanout gpu req.scanoutId req.resourceId req.r
            let gpu ← virtioGpuDmabufRef gpu r2d.dmaInfo
            let fd ← derefDmabuf gpu r2d.dmaInfo
            let gpu ← virtioGpuDmabufUnref gpu r2d.dmaInfo
            return { answer gpu cmd .okNodata last reads with
              display := [.surfaceSet req.scanoutId (some (.dmabuf req.r
                req.stride fd (drmFourcc req.format)
                ((req.offset + 4 * req.r.x + req.r.y * req.stride) %
                  4294967296)))] }

def handleScanout (env : Env) (screens : Screens) (gpu : GpuState)
    (cmd : Command) (memory : Memory) : Touching Reply :=
  match CtrlCmd.ofCode cmd.hdr.type with
  | some .getEdid => getEdid env screens gpu cmd memory
  | some .setScanout => setScanout gpu cmd memory
  | some .setScanoutBlob =>
      if !gpu.isBlobSupported then virtioGpuCmdUnspec gpu cmd
      else setScanoutBlob gpu cmd memory
  | some .setModifier => virtioGpuCmdSetModifier gpu cmd memory
  | _ => ctrlDispatch env gpu cmd memory

/-- A control command with the calls it makes to the display. -/
def serveScanout (env : Env) (screens : Screens) (gpu : GpuState)
    (cmd : Command) (memory : Memory) : Touching (Reply × Screens) := do
  let reply ← handleScanout env screens gpu cmd memory
  let screens ← reply.display.foldlM vdpyCall screens
  return (reply, screens)

/-! What the handlers return, and what they touch. -/

/-- An element of an array of `count`. -/
def Element.Inside (count : Nat) (element : Element) : Prop :=
  0 ≤ element.index ∧ element.index < count

theorem gpuScanout_inside {scanoutId count : Nat} (inside : scanoutId < count) :
    (Element.gpuScanout scanoutId).Inside count :=
  ⟨Int.natCast_nonneg scanoutId, Int.ofNat_lt.mpr inside⟩

theorem toInt32_of_small {value : Nat} (small : value < 2147483648) :
    toInt32 value = value :=
  if_pos small

theorem vscreen_inside {scanoutId count : Nat} (inside : scanoutId < count)
    (few : count < 2147483648) :
    (Element.vscreen (toInt32 scanoutId)).Inside count := by
  rw [toInt32_of_small (Nat.lt_trans inside few)]
  exact ⟨Int.natCast_nonneg scanoutId, Int.ofNat_lt.mpr inside⟩

section Handlers

variable {env : Env} {screens : Screens} {gpu : GpuState} {cmd : Command}
  {memory : Memory} {count : Nat}

theorem updateScanout_runs {scanoutId : Nat} (inside : scanoutId < count)
    (resourceId : Nat) (scanRect : Rect) :
    Logged.Runs (Element.Inside count)
      (updateScanout gpu scanoutId resourceId scanRect)
      (virtioGpuUpdateScanout gpu scanoutId resourceId scanRect) :=
  .touch_bind (gpuScanout_inside inside) (.lift _)

theorem getEdid_runs (few : gpu.scanouts.length < 2147483648) :
    Logged.Runs (Element.Inside gpu.scanouts.length)
      (getEdid env screens gpu cmd memory)
      (virtioGpuCmdGetEdid env gpu cmd memory) := by
  have again : virtioGpuCmdGetEdid env gpu cmd memory =
      cmd.base 0 >>= fun _ => virtioGpuCmdGetEdid env gpu cmd memory := by
    cases based : cmd.base 0 with
    | error failure =>
        unfold virtioGpuCmdGetEdid
        rw [based]
        rfl
    | ok address => rfl
  rw [again]
  refine .bind (.lift _) fun address _ => ?_
  dsimp only
  split
  · exact .lift _
  · rename_i valid
    have described : ∃ info, Logged.Runs (Element.Inside gpu.scanouts.length)
        (vdpyGetEdid screens
          (toInt32 (GetEdid.load memory address).scanout)) (.ok info) := by
      unfold vdpyGetEdid
      split
      · exact ⟨none, .pure none⟩
      · split
        · exact ⟨_, .touch_bind
            (vscreen_inside (Nat.not_le.mp valid) few) (.pure _)⟩
        · exact ⟨_, .pure _⟩
    obtain ⟨info, runs⟩ := described
    exact .after runs (.lift _)

theorem setScanout_runs (counted : gpu.scanouts.length = count) :
    Logged.Runs (Element.Inside count)
      (setScanout gpu cmd memory) (virtioGpuCmdSetScanout gpu cmd memory) := by
  refine .bind (.lift _) fun address _ => ?_
  refine .ite (fun _ => .throw _) fun valid => ?_
  have inside := counted ▸ Nat.not_le.mp valid
  refine .touch_bind (gpuScanout_inside inside) ?_
  generalize setScanoutAt gpu _ _ = marked
  dsimp only
  generalize (if (SetScanout.load memory address).resourceId = 0 then none
    else virtioGpuFindResource2d marked
      (SetScanout.load memory address).resourceId) = found
  cases found with
  | none => exact .bind (updateScanout_runs inside _ _) fun _ _ => .pure _
  | some r2d =>
      refine .ite (fun _ => .pure _) fun _ => ?_
      exact .bind (updateScanout_runs inside _ _) fun _ _ =>
        .bind (.lift _) fun _ _ => .bind (.lift _) fun _ _ =>
          .bind (.lift _) fun _ _ => .pure _

theorem setScanoutBlob_runs :
    Logged.Runs (Element.Inside gpu.scanouts.length)
      (setScanoutBlob gpu cmd memory)
      (virtioGpuCmdSetScanoutBlob gpu cmd memory) := by
  refine .bind (.lift _) fun address _ => ?_
  refine .ite (fun _ => .throw _) fun valid => ?_
  have inside := Nat.not_le.mp valid
  refine .touch_bind (gpuScanout_inside inside) ?_
  refine .ite (fun _ => ?_) fun _ => ?_
  · exact .bind (updateScanout_runs inside _ _) fun _ _ => .pure _
  · generalize marks : setScanoutAt _ _ _ = marked
    cases virtioGpuFindResource2d marked
        (SetScanoutBlob.load memory address).resourceId with
    | none => exact .pure _
    | some r2d =>
        refine .ite (fun _ => ?_) fun _ => ?_
        · refine .bind (setScanout_runs ?_) fun _ _ => .pure _
          rw [← marks]
          exact List.length_set
        · exact .bind (updateScanout_runs inside _ _) fun _ _ =>
            .bind (.lift _) fun _ _ => .bind (.lift _) fun _ _ =>
              .bind (.lift _) fun _ _ => .pure _

/-! The calls to the display. -/

/-- Only `vdpy_set_modifier` looks at a screen. -/
theorem vdpyCall_runs {Allowed : Element → Prop} {call : DisplayCall}
    (allowed : ∀ scanoutId modifier, call = .setModifier scanoutId modifier →
      Allowed (.vscreen (toInt32 scanoutId))) :
    ∃ after, Logged.Runs Allowed (vdpyCall screens call) (.ok after) := by
  unfold vdpyCall
  split
  · unfold vdpySetModifier
    split
    · exact ⟨screens, .pure screens⟩
    · exact ⟨_, .touch_bind (allowed _ _ rfl) (.pure _)⟩
  all_goals exact ⟨_, .pure _⟩

theorem vdpyCalls_run {Allowed : Element → Prop} {calls : List DisplayCall}
    (allowed : ∀ scanoutId modifier,
      .setModifier scanoutId modifier ∈ calls →
        Allowed (.vscreen (toInt32 scanoutId))) :
    ∃ after, Logged.Runs Allowed (calls.foldlM vdpyCall screens) (.ok after) ∧
      (calls = [] → after = screens) := by
  induction calls generalizing screens with
  | nil => exact ⟨screens, .pure screens, fun _ => rfl⟩
  | cons call rest inductionHypothesis =>
      obtain ⟨between, here⟩ := @vdpyCall_runs screens Allowed call
        (fun scanoutId modifier same => allowed scanoutId modifier
          (same ▸ .head rest))
      obtain ⟨after, later, _⟩ := @inductionHypothesis between
        fun scanoutId modifier member =>
          allowed scanoutId modifier (.tail call member)
      refine ⟨after, ?_, fun empty => by cases empty⟩
      rw [List.foldlM_cons]
      exact .after here later

/-! The four commands. -/

/-- The scanout id a command carries. -/
def scanoutIdOf (kind : CtrlCmd) (memory : Memory) (address : Nat) :
    Option Nat :=
  match kind with
  | .getEdid => some (GetEdid.load memory address).scanout
  | .setScanout => some (SetScanout.load memory address).scanoutId
  | .setScanoutBlob => some (SetScanoutBlob.load memory address).scanoutId
  | .setModifier => some (SetModifier.load memory address).scanoutId
  | .getDisplayInfo | .resourceCreate2d | .resourceUnref | .resourceFlush
  | .transferToHost2d | .resourceAttachBacking | .resourceDetachBacking
  | .resourceCreateBlob => none

/-- `SET_MODIFIER` passes on an id that no screen has. -/
def PassesOn (kind : CtrlCmd) (cmd : Command) (scanoutId count : Nat) : Prop :=
  kind = .setModifier ∧ 2 ≤ cmd.iovcnt ∧ count ≤ scanoutId

/-- A call of `vdpy_set_modifier` names a screen there is. -/
def Harmless (count : Nat) (calls : List DisplayCall) : Prop :=
  ∀ scanoutId modifier, .setModifier scanoutId modifier ∈ calls →
    scanoutId < count

theorem harmless_nil : Harmless count [] := by
  intro scanoutId modifier member
  cases member

theorem harmless_surfaceSet (scanoutId : Nat) (surface : Option Surface) :
    Harmless count [.surfaceSet scanoutId surface] := by
  intro other modifier member
  cases List.mem_singleton.mp member

theorem virtioGpuCmdSetScanout_harmless :
    Ensures (virtioGpuCmdSetScanout gpu cmd memory) fun reply =>
      Harmless count reply.display := by
  refine .bind fun address _ => .ite (fun _ => .error) fun _ => ?_
  generalize setScanoutAt gpu _ _ = marked
  dsimp only
  generalize (if (SetScanout.load memory address).resourceId = 0 then none
    else virtioGpuFindResource2d marked
      (SetScanout.load memory address).resourceId) = found
  cases found with
  | none => exact .bind fun _ _ => .pure (harmless_surfaceSet _ _)
  | some r2d =>
      refine .ite (fun _ => .pure harmless_nil) fun _ => ?_
      exact .bind fun _ _ => .bind fun _ _ => .bind fun _ _ =>
        .bind fun _ _ => .pure (harmless_surfaceSet _ _)

theorem virtioGpuCmdSetScanoutBlob_harmless :
    Ensures (virtioGpuCmdSetScanoutBlob gpu cmd memory) fun reply =>
      Harmless count reply.display := by
  refine .bind fun address _ => .ite (fun _ => .error) fun _ => ?_
  refine .ite (fun _ => .bind fun _ _ => .pure (harmless_surfaceSet _ _))
    fun _ => ?_
  generalize setScanoutAt _ _ _ = marked
  cases virtioGpuFindResource2d marked
      (SetScanoutBlob.load memory address).resourceId with
  | none => exact .pure harmless_nil
  | some r2d =>
      refine .ite (fun _ => .bind fun reply ran => .pure ?_) fun _ => ?_
      · exact virtioGpuCmdSetScanout_harmless reply ran
      · exact .bind fun _ _ => .bind fun _ _ => .bind fun _ _ =>
          .bind fun _ _ => .pure (harmless_surfaceSet _ _)

theorem virtioGpuCmdSetModifier_harmless {address : Nat}
    (based : cmd.base 0 = .ok address)
    (held : ¬PassesOn .setModifier cmd
      (SetModifier.load memory address).scanoutId count) :
    Ensures (virtioGpuCmdSetModifier gpu cmd memory) fun reply =>
      Harmless count reply.display := by
  unfold virtioGpuCmdSetModifier
  rw [based]
  refine .bind fun other same => .pure ?_
  cases same
  dsimp only
  split
  · exact harmless_nil
  · rename_i room
    intro scanoutId modifier member
    cases List.mem_singleton.mp member
    apply Decidable.byContradiction
    intro outside
    exact held ⟨rfl, by omega, by omega⟩

section Kinds

variable {kind : CtrlCmd} {scanoutId address : Nat}
  (code : CtrlCmd.ofCode cmd.hdr.type = some kind)
  (based : cmd.base 0 = .ok address)
  (carries : scanoutIdOf kind memory address = some scanoutId)

include code based carries

/-- The calls made for a carried id. -/
theorem ctrlDispatch_harmless
    (held : ¬PassesOn kind cmd scanoutId gpu.scanouts.length) :
    Ensures (ctrlDispatch env gpu cmd memory) fun reply =>
      Harmless gpu.scanouts.length reply.display := by
  unfold ctrlDispatch
  rw [code]
  cases kind with
  | getEdid =>
      exact .bind fun _ _ => .ite (fun _ => .error) fun _ =>
        .pure harmless_nil
  | setScanout => exact virtioGpuCmdSetScanout_harmless
  | setScanoutBlob =>
      exact .ite (fun _ => .ok harmless_nil)
        fun _ => virtioGpuCmdSetScanoutBlob_harmless
  | setModifier =>
      cases carries
      exact virtioGpuCmdSetModifier_harmless based held
  | getDisplayInfo | resourceCreate2d | resourceUnref | resourceFlush
  | transferToHost2d | resourceAttachBacking | resourceDetachBacking
  | resourceCreateBlob => cases carries

/-- An id without a scanout, unless it is passed on: nothing is touched, and
the handler stops at its log call or answers with an error. -/
theorem handleScanout_refuses
    (held : ¬PassesOn kind cmd scanoutId gpu.scanouts.length)
    (outside : gpu.scanouts.length ≤ scanoutId) :
    ∃ result, Logged.Runs (fun _ => False)
      (handleScanout env screens gpu cmd memory) result ∧
        (result = .error .formatString ∨
          ∃ reply : Reply, result = .ok reply ∧ reply.Fails ∧
            reply.display = []) := by
  unfold handleScanout
  rw [code]
  cases kind with
  | getEdid =>
      cases carries
      have stops : virtioGpuCmdGetEdid env gpu cmd memory =
          .error .formatString := by
        unfold virtioGpuCmdGetEdid
        rw [based]
        exact if_pos outside
      refine ⟨.error .formatString, ?_, .inl rfl⟩
      refine .after (.lift_ok based) ?_
      dsimp only
      rw [if_pos outside, stops]
      exact .lift _
  | setScanout =>
      cases carries
      refine ⟨.error .formatString, ?_, .inl rfl⟩
      refine .after (.lift_ok based) ?_
      dsimp only
      rw [if_pos outside]
      exact .throw _
  | setScanoutBlob =>
      cases carries
      dsimp only
      cases gpu.isBlobSupported with
      | false =>
          exact ⟨_, .lift _, .inr ⟨_, rfl, ⟨.errUnspec, rfl, rfl⟩, rfl⟩⟩
      | true =>
          refine ⟨.error .formatString, ?_, .inl rfl⟩
          refine .after (.lift_ok based) ?_
          dsimp only
          rw [if_pos outside]
          exact .throw _
  | setModifier =>
      have single : cmd.iovcnt < 2 := by
        apply Decidable.byContradiction
        intro room
        exact held ⟨rfl, Nat.not_lt.mp room, outside⟩
      refine ⟨_, .lift _, .inr ?_⟩
      unfold virtioGpuCmdSetModifier
      rw [based]
      refine ⟨_, rfl, ⟨.errInvalidParameter, rfl, ?_⟩, if_pos single⟩
      rw [if_pos single]
      rfl
  | getDisplayInfo | resourceCreate2d | resourceUnref | resourceFlush
  | transferToHost2d | resourceAttachBacking | resourceDetachBacking
  | resourceCreateBlob => cases carries

omit based in
/-- The handlers return what the dispatcher does, and touch what there is. -/
theorem handleScanout_runs (few : gpu.scanouts.length < 2147483648) :
    Logged.Runs (Element.Inside gpu.scanouts.length)
      (handleScanout env screens gpu cmd memory)
      (ctrlDispatch env gpu cmd memory) := by
  unfold handleScanout ctrlDispatch
  rw [code]
  cases kind with
  | getEdid => exact getEdid_runs few
  | setScanout => exact setScanout_runs rfl
  | setScanoutBlob =>
      exact .ite (fun _ => .lift _) fun _ => setScanoutBlob_runs
  | setModifier => exact .lift _
  | getDisplayInfo | resourceCreate2d | resourceUnref | resourceFlush
  | transferToHost2d | resourceAttachBacking | resourceDetachBacking
  | resourceCreateBlob => cases carries

/-- A command whose id is not passed on touches elements there are. -/
theorem serveScanout_runs
    (held : ¬PassesOn kind cmd scanoutId gpu.scanouts.length)
    (few : gpu.scanouts.length < 2147483648) :
    ∃ result, Logged.Runs (Element.Inside gpu.scanouts.length)
      (serveScanout env screens gpu cmd memory) result := by
  have handled : Logged.Runs (Element.Inside gpu.scanouts.length)
      (handleScanout env screens gpu cmd memory)
      (ctrlDispatch env gpu cmd memory) := handleScanout_runs code carries few
  have harmless := @ctrlDispatch_harmless env _ _ _ _ _ _ code based carries
    held
  cases ran : ctrlDispatch env gpu cmd memory with
  | error failure =>
      rw [ran] at handled
      exact ⟨.error failure, .failed handled⟩
  | ok reply =>
      rw [ran] at handled
      obtain ⟨after, calls, _⟩ := @vdpyCalls_run screens
        (Element.Inside gpu.scanouts.length) reply.display
        fun scanoutId modifier member =>
          vscreen_inside (harmless reply ran scanoutId modifier member) few
      exact ⟨.ok (reply, after), .after handled (.after calls (.pure _))⟩

/-- One whose id no scanout has touches nothing and leaves the display
alone. -/
theorem serveScanout_refuses
    (held : ¬PassesOn kind cmd scanoutId gpu.scanouts.length)
    (outside : gpu.scanouts.length ≤ scanoutId) :
    ∃ result, Logged.Runs (fun _ => False)
      (serveScanout env screens gpu cmd memory) result ∧
        (result = .error .formatString ∨
          ∃ reply : Reply, result = .ok (reply, screens) ∧ reply.Fails) := by
  obtain ⟨result, handled, stops | ⟨reply, returns, fails, silent⟩⟩ :=
    @handleScanout_refuses env screens _ _ _ _ _ _ code based carries held
      outside
  · rw [stops] at handled
    exact ⟨.error .formatString, .failed handled, .inl rfl⟩
  · rw [returns] at handled
    refine ⟨.ok (reply, screens), .after handled ?_, .inr ⟨reply, rfl, fails⟩⟩
    rw [silent]
    exact .pure _

omit based in
/-- The service returns the dispatcher's reply. -/
theorem serveScanout_reply (few : gpu.scanouts.length < 2147483648) :
    (serveScanout env screens gpu cmd memory).outcome.map Prod.fst =
      ctrlDispatch env gpu cmd memory := by
  have handled : Logged.Runs (fun _ => True)
      (handleScanout env screens gpu cmd memory)
      (ctrlDispatch env gpu cmd memory) :=
    (handleScanout_runs code carries few).mono fun _ _ => trivial
  cases ran : ctrlDispatch env gpu cmd memory with
  | error failure =>
      rw [ran] at handled
      have served : Logged.Runs (fun _ => True)
          (serveScanout env screens gpu cmd memory) (.error failure) :=
        .failed handled
      rw [served.outcome_eq]
      rfl
  | ok reply =>
      rw [ran] at handled
      obtain ⟨after, calls, _⟩ := @vdpyCalls_run screens (fun _ => True)
        reply.display fun _ _ _ => trivial
      have served : Logged.Runs (fun _ => True)
          (serveScanout env screens gpu cmd memory) (.ok (reply, after)) :=
        .after handled (.after calls (.pure _))
      rw [served.outcome_eq]
      rfl

end Kinds

/-- The id of a command is checked: what the command touches is inside its
array, and one whose id no scanout has touches nothing at all: it stops at the
log call that takes the id for a string, or it changes no screen, sends nothing
and is answered with an error. -/
structure IdsChecked (env : Env) (screens : Screens) (gpu : GpuState)
    (cmd : Command) (memory : Memory) (scanoutId : Nat) : Prop where
  touches : ∀ element,
    element ∈ (serveScanout env screens gpu cmd memory).touched →
      element.Inside gpu.scanouts.length
  rejects : gpu.scanouts.length ≤ scanoutId →
    (serveScanout env screens gpu cmd memory).touched = [] ∧
      ((serveScanout env screens gpu cmd memory).outcome =
          .error .formatString ∨
        ∃ reply : Reply, (serveScanout env screens gpu cmd memory).outcome =
          .ok (reply, screens) ∧ reply.Fails)

theorem reached_few {state : Traced} (reached : backend.Reached state) :
    state.machine.device.gpu.scanouts.length ≤ vdpyMaxNum := by
  have unrestricted :
      backend.ReachedWhere (commandsMeet fun _ _ _ _ => True) state :=
    reached.mono fun _ _ _ _ _ _ _ => trivial
  refine reached_gpu_invariant
    (fun gpu => gpu.scanouts.length ≤ vdpyMaxNum) ?_ ?_ ?_ unrestricted
  · intro vmctx isBlobSupported scanoutNum few
    rw [show (initialGpu vmctx isBlobSupported scanoutNum).scanouts.length =
      scanoutNum from List.length_replicate]
    exact few
  · intro env cmd memory before after holds _ _ changed
    rw [changed.sameSetup.scanoutNum]
    exact holds
  · intro before after holds cleared
    rw [(resetGpu_sameSetup cleared).scanoutNum]
    exact holds

/-- A `SET_MODIFIER` with room for its answer is answered `OK`. -/
theorem setModifier_accepts {address : Nat}
    (code : CtrlCmd.ofCode cmd.hdr.type = some .setModifier)
    (based : cmd.base 0 = .ok address) (room : 2 ≤ cmd.iovcnt) :
    Returns (ctrlDispatch env gpu cmd memory) fun reply =>
      reply.Answers .okNodata := by
  unfold ctrlDispatch
  rw [code]
  dsimp only
  unfold virtioGpuCmdSetModifier
  refine .after based (.pure ?_)
  rw [if_neg (Nat.not_lt.mpr room)]
  rfl

/-- The id is checked for every command but a `SET_MODIFIER` that can be
answered and whose id no scanout has. -/
theorem idsChecked_iff {state : Traced} {kind : CtrlCmd}
    {scanoutId address : Nat} (reached : backend.Reached state)
    (code : CtrlCmd.ofCode cmd.hdr.type = some kind)
    (based : cmd.base 0 = .ok address)
    (carries : scanoutIdOf kind memory address = some scanoutId) :
    IdsChecked env screens state.machine.device.gpu cmd memory scanoutId ↔
      ¬PassesOn kind cmd scanoutId
        state.machine.device.gpu.scanouts.length := by
  have few : state.machine.device.gpu.scanouts.length < 2147483648 :=
    Nat.lt_of_le_of_lt (reached_few reached) (by decide)
  constructor
  · rintro checked ⟨rfl, room, outside⟩
    have served := @serveScanout_reply env screens _ _ _ _ _ _ code carries few
    obtain ⟨answered, returned, accepts⟩ :=
      @setModifier_accepts env _ _ _ _ code based room
    rw [returned] at served
    obtain ⟨_, stops | ⟨reply, outcome, fails⟩⟩ := checked.rejects outside
    · rw [stops] at served
      cases served
    · rw [outcome] at served
      cases served
      exact fails.not_ok accepts
  · intro held
    obtain ⟨result, runs⟩ :=
      @serveScanout_runs env screens _ _ _ _ _ _ code based carries held few
    refine ⟨runs.touched_allowed, fun outside => ?_⟩
    obtain ⟨result, runs, refused⟩ := @serveScanout_refuses env screens _ _ _
      _ _ _ code based carries held outside
    rw [runs.touched_eq_nil, runs.outcome_eq]
    exact ⟨rfl, refused⟩

end Handlers

def modifierRequest (scanoutId modifier : Nat) : List UInt8 :=
  request .setModifier (le64 modifier ++ le32 scanoutId ++ le32 0)

/-- Two screens at rest. -/
def idleScreens : Screens where
  vscrs := fun _ => ⟨0, 0, 0, false⟩
  vscrsNum := 2
  connected := true
  sent := []

/-- A modifier for the second scanout. -/
theorem second_scanout_checked :
    ∃ state, backend.Reached state ∧
      IdsChecked (Env.steady 0) idleScreens state.machine.device.gpu
        (requestCommand (modifierRequest 1 7))
        (requestMemory 0 (modifierRequest 1 7)) 1 := by
  obtain ⟨state, reached, checked⟩ :=
    @exists_serveRequests (fun _ _ _ _ => true) (fun _ _ _ _ => True) []
      (fun state => decide (state.machine.device.gpu.scanouts.length = 2))
      (fun _ _ _ _ _ => trivial)
      (by decide +kernel)
  have unrestricted : backend.Reached state :=
    reached.mono fun _ _ _ => trivial
  refine ⟨state, unrestricted,
    (@idsChecked_iff _ _ _ _ state .setModifier 1 256 unrestricted
      (by decide +kernel) rfl (by decide +kernel)).mpr ?_⟩
  rw [of_decide_eq_true checked]
  rintro ⟨_, _, outside⟩
  exact absurd outside (by decide)

/-- As an `int` the id 2^31 is negative and passes the check of
`vdpy_set_modifier`: memory far in front of the screens is written, the client
is told, and the answer is `OK`. -/
theorem negative_scanout_written :
    ∃ state, backend.Reached state ∧
      (serveScanout (Env.steady 0) idleScreens state.machine.device.gpu
        (requestCommand (modifierRequest 2147483648 7))
        (requestMemory 0 (modifierRequest 2147483648 7))).touched =
          [.vscreen (-2147483648)] ∧
      ¬IdsChecked (Env.steady 0) idleScreens state.machine.device.gpu
        (requestCommand (modifierRequest 2147483648 7))
        (requestMemory 0 (modifierRequest 2147483648 7)) 2147483648 := by
  obtain ⟨state, reached, checked⟩ :=
    @exists_serveRequests (fun _ _ _ _ => true) (fun _ _ _ _ => True) []
      (fun state =>
        decide ((serveScanout (Env.steady 0) idleScreens
          state.machine.device.gpu
          (requestCommand (modifierRequest 2147483648 7))
          (requestMemory 0 (modifierRequest 2147483648 7))).touched =
            [.vscreen (-2147483648)]))
      (fun _ _ _ _ _ => trivial)
      (by decide +kernel)
  have touched := of_decide_eq_true checked
  refine ⟨state, reached.mono (fun _ _ _ => trivial), touched, ?_⟩
  intro safe
  have inside := safe.touches (.vscreen (-2147483648))
    (by rw [touched]; exact .head _)
  exact absurd inside.1 (by decide)

end VirtioGpu.Backend
