import VirtioGpu.Gpu.Screens

namespace VirtioGpu.Gpu

open Foundation
open Virtio

/-! Every command meets what the board makes of it, fault for fault. -/

section Commands

variable {env : Env} {gpu : GpuState} {cmd : Command} {memory : Memory}

/-- A scanout given resource 0, and the display told to show nothing. -/
theorem Presentable.blank_paired {start : GpuState} {board : Board}
    (presentable : Presentable start) (same : start.board = board)
    {scanoutId : Nat} (inside : scanoutId < start.scanouts.length)
    (rect : Rect) (images : RefHeap Image) {make : GpuState → Reply}
    (made : ∀ after, (make after).gpu = after ∧
      (make after).Answers .okNodata ∧ (make after).resp.body = .nodata ∧
        (make after).display = [.surfaceSet scanoutId none]) :
    Paired (Meets images) (board.blank scanoutId rect)
      (virtioGpuUpdateScanout start scanoutId 0 rect >>= fun after =>
        pure (make after)) := by
  rw [← same]
  refine .bind (presentable.give_paired inside 0 rect) ?_
  intro board after given
  obtain ⟨gpu, answers, body, display⟩ := made after
  refine .pure ⟨?_, answers, body, ?_⟩
  · rw [gpu]
    exact given.board
  · rw [display]
    rfl

/-- An image resource is read through a reference taken for the time being. -/
theorem Presentable.read_paired {α β : Type} {Related : α → β → Prop}
    (presentable : Presentable gpu) {resourceId : Nat} {r2d : Resource2d}
    (found : virtioGpuFindResource2d gpu resourceId = some r2d)
    {spec : Image → Except Fault α}
    {code : Image → GpuState → Except Fault β}
    (reads : ∀ image, r2d.image.bind gpu.images.contents = some image →
      Paired Related (spec image) (code image gpu)) :
    Paired Related ((pictureOf gpu r2d).pixels >>= spec)
      (pixmanImageRef gpu r2d.image >>= fun taken =>
        derefImage taken r2d.image >>= fun image =>
          pixmanImageUnref taken r2d.image >>= fun dropped =>
            code image dropped) := by
  cases own : r2d.image with
  | none =>
      rw [pixels_of_null own]
      exact .failed _
  | some cell =>
      obtain ⟨image, contents, pixels⟩ := presentable.pixels_eq found own
      have live := presentable.tidy.image_live
        (List.mem_of_find?_eq_some found) own
      obtain ⟨taken, ref⟩ := RefHeap.exists_ref live
      rw [pixels]
      refine .after (by simp only [pixmanImageRef, ref]; rfl) ?_
      refine .after (derefImage_of_ref contents ref) ?_
      refine .after (by
        simp only [pixmanImageUnref, RefHeap.unref_of_ref ref]
        rfl) ?_
      apply reads image
      rw [own, Option.bind_some, contents]

theorem frameOf_pixmanSurface {images : RefHeap Image} {r2d : Resource2d}
    {image : Image} (held : r2d.image.bind images.contents = some image)
    (rect : Rect) :
    frameOf images (pixmanSurface r2d image rect) =
      some ((pictureOf gpu r2d).frame image rect) := by
  simp only [pixmanSurface, frameOf, held, Option.map_some]
  rfl

theorem Presentable.setScanout_paired (presentable : Presentable gpu)
    (based : cmd.base 0 = .ok cmd.address) :
    Paired (Meets gpu.images)
      (gpu.board.setScanout (SetScanout.load memory cmd.address))
      (virtioGpuCmdSetScanout gpu cmd memory) := by
  unfold virtioGpuCmdSetScanout Board.setScanout
  refine .after based ?_
  generalize SetScanout.load memory cmd.address = req
  dsimp only
  rw [length_screens]
  refine .ite (fun _ => .failed Fault.formatString) fun outside => ?_
  have board := board_noted gpu req.scanoutId req.scanoutId
  have noted := presentable.of_core
    (core_setScanoutAt_scanoutId gpu req.scanoutId req.scanoutId)
  have inside := Nat.not_le.mp outside
  rw [← length_scanouts_of_core gpu
    (core_setScanoutAt_scanoutId gpu req.scanoutId req.scanoutId)] at inside
  rw [find_setScanoutAt]
  have lists : (setScanoutAt gpu req.scanoutId
    { scanoutAt gpu req.scanoutId with
      scanoutId := req.scanoutId }).r2dList = gpu.r2dList := rfl
  have alike : pictureOf (setScanoutAt gpu req.scanoutId
    { scanoutAt gpu req.scanoutId with
      scanoutId := req.scanoutId }) = pictureOf gpu := rfl
  dsimp only at board noted inside lists alike
  generalize setScanoutAt gpu req.scanoutId _ = start at *
  by_cases zero : req.resourceId = 0
  · rw [if_pos zero, if_pos zero]
    exact noted.blank_paired board inside req.r gpu.images
      fun after => ⟨rfl, rfl, rfl, rfl⟩
  rw [if_neg zero, if_neg zero, board_pictures]
  cases found : virtioGpuFindResource2d gpu req.resourceId with
  | none =>
      exact noted.blank_paired board inside req.r gpu.images
        fun after => ⟨rfl, rfl, rfl, rfl⟩
  | some r2d =>
      refine .ite (fun _ => .done ⟨?_, rfl, rfl, rfl⟩) fun _ => ?_
      · exact (board_vga _).trans (congrArg Board.leaveVga board)
      rw [← board]
      refine .bind (noted.give_paired inside req.resourceId req.r)
        fun shown after given => ?_
      have here : virtioGpuFindResource2d start req.resourceId =
          some r2d := by
        unfold virtioGpuFindResource2d at found ⊢
        rw [lists]
        exact found
      obtain ⟨still, same⟩ := given.picture here
      rw [alike] at same
      rw [← same]
      refine given.presentable.read_paired still fun image held => .pure ?_
      have view := congrArg (fun picture => picture.view.image) same
      refine ⟨?_, rfl, rfl, ?_⟩
      · exact (board_vga _).trans (congrArg Board.leaveVga given.board)
      · have frame := @frameOf_pixmanSurface after gpu.images r2d image
          (view.symm.trans held) req.r
        simp only [List.map_cons, List.map_nil, showingOf, frame,
          Option.map_some]

/-- The descriptor of a blob, read through a reference as well. -/
theorem Presentable.descriptor_eq (presentable : Presentable gpu)
    {resourceId : Nat} {r2d : Resource2d}
    (found : virtioGpuFindResource2d gpu resourceId = some r2d)
    (blob : r2d.blob = true) :
    ∃ taken, virtioGpuDmabufRef gpu r2d.dmaInfo = .ok taken ∧
      derefDmabuf taken r2d.dmaInfo = (pictureOf gpu r2d).descriptor ∧
        virtioGpuDmabufUnref taken r2d.dmaInfo = .ok gpu := by
  cases info : r2d.dmaInfo with
  | none =>
      refine ⟨gpu, rfl, ?_, rfl⟩
      simp only [Picture.descriptor, pictureOf, info, Option.bind_none]
      rfl
  | some cell =>
      obtain ⟨leaks, counts⟩ := presentable.tidy.counts
      have live := counts.dmabuf_live (List.mem_of_find?_eq_some found)
        (by rw [Resource2d.owned, if_pos blob, info])
      obtain ⟨counted, held⟩ := Option.ne_none_iff_exists'.mp live
      obtain ⟨dmabufs, ref⟩ := RefHeap.exists_ref live
      have took : virtioGpuDmabufRef gpu (some cell) =
          .ok { gpu with dmabufs := dmabufs } := by
        simp only [virtioGpuDmabufRef, ref]
        rfl
      have there : dmabufs cell =
          some ⟨counted.others + 1, counted.value⟩ := by
        obtain ⟨_, known, rfl⟩ := Option.map_eq_some_iff.mp ref
        rw [held] at known
        cases known
        exact Function.update_self ..
      obtain ⟨dropped, unref, _⟩ :=
        @virtioGpuDmabufUnref_returns { gpu with dmabufs := dmabufs }
          (some cell) (by
            intro other same
            cases same
            dsimp only
            rw [there]
            exact Option.some_ne_none _)
      refine ⟨_, took, ?_, ?_⟩
      · simp only [derefDmabuf, there, Picture.descriptor, pictureOf, info,
          Option.bind_some, RefHeap.contents, held, Option.map_some]
        rfl
      · rw [unref, virtioGpuDmabufUnref_of_ref took unref]

theorem Presentable.setScanoutBlob_paired (presentable : Presentable gpu)
    (based : cmd.base 0 = .ok cmd.address) :
    Paired (Meets gpu.images)
      (gpu.board.setScanoutBlob (SetScanoutBlob.load memory cmd.address)
        (SetScanout.load memory cmd.address))
      (virtioGpuCmdSetScanoutBlob gpu cmd memory) := by
  unfold virtioGpuCmdSetScanoutBlob Board.setScanoutBlob
  refine .after based ?_
  generalize SetScanoutBlob.load memory cmd.address = req
  dsimp only
  rw [show gpu.board.leaveVga.screens.length = gpu.scanouts.length from
    length_screens gpu]
  refine .ite (fun _ => .failed Fault.formatString) fun outside => ?_
  have core := core_setScanoutAt_scanoutId { gpu with vgaEnable := false }
    req.scanoutId req.scanoutId
  have board := board_noted { gpu with vgaEnable := false } req.scanoutId
    req.scanoutId
  have noted := presentable.of_core core
  have inside := Nat.not_le.mp outside
  rw [← length_scanouts_of_core gpu core] at inside
  rw [find_setScanoutAt]
  have images : (setScanoutAt { gpu with vgaEnable := false } req.scanoutId
    { scanoutAt { gpu with vgaEnable := false } req.scanoutId with
      scanoutId := req.scanoutId }).images = gpu.images := rfl
  have lists : (setScanoutAt { gpu with vgaEnable := false } req.scanoutId
    { scanoutAt { gpu with vgaEnable := false } req.scanoutId with
      scanoutId := req.scanoutId }).r2dList = gpu.r2dList := rfl
  have alike : pictureOf (setScanoutAt { gpu with vgaEnable := false }
    req.scanoutId
    { scanoutAt { gpu with vgaEnable := false } req.scanoutId with
      scanoutId := req.scanoutId }) = pictureOf gpu := rfl
  rw [board_vga] at board
  dsimp only at board noted inside images lists alike
  generalize setScanoutAt { gpu with vgaEnable := false } req.scanoutId _ =
    start at *
  rw [← board]
  refine .ite (fun _ => ?_) fun _ => ?_
  · exact noted.blank_paired rfl inside req.r gpu.images
      fun after => ⟨rfl, rfl, rfl, rfl⟩
  have find : virtioGpuFindResource2d { gpu with vgaEnable := false }
      req.resourceId = virtioGpuFindResource2d start req.resourceId := by
    unfold virtioGpuFindResource2d
    rw [lists]
  rw [board_pictures, find]
  cases found : virtioGpuFindResource2d start req.resourceId with
  | none => exact .done ⟨rfl, rfl, rfl, rfl⟩
  | some r2d =>
      have blobs : (pictureOf start r2d).view.record.blob = r2d.blob := rfl
      dsimp only [Option.map_some]
      rw [blobs]
      refine .ite (fun _ => ?_) fun shared => ?_
      · have fallback : Paired (Meets start.images)
            (start.board.setScanout (SetScanout.load memory cmd.address))
            (virtioGpuCmdSetScanout start
              { cmd with iolen := CtrlHdr.size } memory) :=
          @Presentable.setScanout_paired start
            { cmd with iolen := CtrlHdr.size } memory noted based
        rw [images] at fallback
        exact fallback.pass fun acted reply meets =>
          ⟨meets.board, meets.answers, meets.body, meets.shown⟩
      · refine .bind (noted.give_paired inside req.resourceId req.r)
          fun shown after given => ?_
        obtain ⟨still, same⟩ := given.picture found
        have blob : r2d.blob = true := by simpa using shared
        obtain ⟨taken, ref, deref, unref⟩ :=
          given.presentable.descriptor_eq still blob
        rw [← same]
        refine .after ref ?_
        rw [deref]
        refine .bind (.refl _) fun fd _ equal => ?_
        cases equal
        refine .after unref (.pure ⟨given.board, rfl, rfl, rfl⟩)

theorem board_screensToFlush (gpu : GpuState) (resourceId : Nat)
    (rect : Rect) :
    gpu.board.screensToFlush resourceId rect =
      (scanoutsToFlush gpu resourceId rect).map fun entry =>
        (entry.1, entry.2.screen) := by
  unfold Board.screensToFlush scanoutsToFlush
  rw [length_screens]
  have screens : ((List.range gpu.scanouts.length).map fun index =>
      (index, gpu.board.screenAt index)) =
        ((List.range gpu.scanouts.length).map fun index =>
          (index, scanoutAt gpu index)).map fun entry =>
            (entry.1, entry.2.screen) := by
    rw [List.map_map]
    apply List.map_congr_left
    intro index inside
    rw [List.mem_range] at inside
    unfold Board.screenAt scanoutAt GpuState.board
    simp [List.getD_eq_getElem?_getD, inside]
  rw [screens, List.filter_map]
  rfl

theorem Presentable.resourceFlush_paired (presentable : Presentable gpu)
    (based : cmd.base 0 = .ok cmd.address) :
    Paired (Meets gpu.images)
      (gpu.board.resourceFlush (ResourceFlush.load memory cmd.address))
      (virtioGpuCmdResourceFlush gpu cmd memory) := by
  unfold virtioGpuCmdResourceFlush Board.resourceFlush
  refine .after based ?_
  generalize ResourceFlush.load memory cmd.address = req
  dsimp only
  rw [board_pictures, board_screensToFlush]
  cases found : virtioGpuFindResource2d gpu req.resourceId with
  | none => exact .done ⟨rfl, rfl, rfl, rfl⟩
  | some r2d =>
      have blobs : (pictureOf gpu r2d).view.record.blob = r2d.blob := rfl
      dsimp only [Option.map_some]
      rw [blobs]
      refine .ite (fun blob => ?_) fun _ => ?_
      · obtain ⟨taken, ref, deref, unref⟩ :=
          presentable.descriptor_eq found blob
        refine .after ref ?_
        rw [deref, List.mapM_map]
        refine @Paired.bind _ _ _ _ _
          (fun (shown : List Showing) (display : List DisplayCall) =>
            display.map (showingOf gpu.images) = shown.map some)
          _ _ _ _ _ (.mapM (fun entry => ?_) _)
          fun shown display same => ?_
        · refine .bind (.refl _) fun fd _ equal => ?_
          cases equal
          exact .pure rfl
        · exact .after unref (.pure ⟨rfl, rfl, rfl, same⟩)
      · refine presentable.read_paired found fun image held =>
          .pure ⟨rfl, rfl, rfl, ?_⟩
        simp only [List.map_map]
        apply List.map_congr_left
        intro entry _
        have frame := @frameOf_pixmanSurface gpu gpu.images r2d image held
          entry.2.scanoutRect
        simp only [Function.comp_apply, showingOf, frame, Option.map_some]
        rfl

/-! Commands on one resource have nothing for the display. -/

structure Reply.Quiet (gpu : GpuState) (reply : Reply) : Prop where
  display : reply.display = []
  body : reply.resp.body = .nodata
  vga : reply.gpu.vgaEnable = gpu.vgaEnable

theorem answer_quiet {after : GpuState} {type : RespType} {slot : Nat}
    {reads : List Access} (vga : after.vgaEnable = gpu.vgaEnable) :
    (answer after cmd type slot reads).Quiet gpu := ⟨rfl, rfl, vga⟩

theorem createImage_vga {after : GpuState} {format width height : Nat}
    {image : Option Nat}
    (made : createImage env gpu format width height = .ok (after, image)) :
    after.vgaEnable = gpu.vgaEnable := by
  rcases createImage_eq_ok made with ⟨_, rfl, _⟩ | ⟨bits, _, rfl, _⟩
  · rfl
  · rfl

theorem create2d_quiet :
    Ensures (virtioGpuCmdResourceCreate2d env gpu cmd memory)
      (Reply.Quiet gpu) := by
  refine .bind fun address _ => ?_
  dsimp only
  split
  · exact .pure (answer_quiet rfl)
  · refine .ite (fun _ => .pure (answer_quiet rfl)) fun _ => ?_
    refine .bind fun made creates => ?_
    obtain ⟨made, image⟩ := made
    have same := createImage_vga creates
    cases image with
    | none => exact .pure (answer_quiet same)
    | some cell => exact .pure (answer_quiet same)

theorem unref_quiet :
    Ensures (virtioGpuCmdResourceUnref gpu cmd memory)
      (Reply.Quiet gpu) := by
  refine .bind fun address _ => ?_
  dsimp only
  split
  · exact .pure (answer_quiet rfl)
  · refine .bind fun next released => .pure (answer_quiet ?_)
    obtain ⟨_, _, _, _, rfl⟩ := (releaseResource_released released).split
    rfl

theorem attachBacking_quiet :
    Ensures (virtioGpuCmdResourceAttachBacking env gpu cmd memory)
      (Reply.Quiet gpu) := by
  refine .bind fun address _ => ?_
  refine .ite (fun _ => .pure ⟨rfl, rfl, rfl⟩) fun _ => ?_
  dsimp only
  split
  · exact .pure (answer_quiet rfl)
  · refine .ite (fun _ => .pure (answer_quiet rfl)) fun _ => ?_
    refine .ite (fun _ => .pure (answer_quiet rfl)) fun _ => ?_
    refine .ite (fun _ => .pure (answer_quiet rfl)) fun _ => ?_
    exact .bind fun _ _ => .pure ⟨rfl, rfl, rfl⟩

theorem detachBacking_quiet :
    Ensures (virtioGpuCmdResourceDetachBacking gpu cmd memory)
      (Reply.Quiet gpu) := by
  refine .bind fun address _ => ?_
  dsimp only
  split
  · exact .pure (answer_quiet rfl)
  · exact .bind fun _ _ => .pure (answer_quiet rfl)

theorem transferToHost2d_quiet :
    Ensures (virtioGpuCmdTransferToHost2d gpu cmd memory)
      (Reply.Quiet gpu) := by
  refine .bind fun address _ => ?_
  dsimp only
  split
  · exact .pure ⟨rfl, rfl, rfl⟩
  · refine .ite (fun _ => .pure ⟨rfl, rfl, rfl⟩) fun _ => ?_
    refine .ite (fun _ => .pure (answer_quiet rfl)) fun _ => ?_
    refine .bind fun taken ref => .bind fun _ _ => .bind fun _ _ => ?_
    refine .bind fun dropped unref => .pure (answer_quiet ?_)
    obtain ⟨_, _, _, _, rfl⟩ := pixmanImageRef_eq_ok ref
    obtain ⟨_, _, _, _, rfl⟩ := pixmanImageUnref_eq_ok unref
    rfl

theorem createBlob_quiet :
    Ensures (virtioGpuCmdCreateBlob env gpu cmd memory)
      (Reply.Quiet gpu) := by
  refine .bind fun address _ => ?_
  refine .ite (fun _ => .pure (answer_quiet rfl)) fun _ => ?_
  refine .ite (fun _ => .pure (answer_quiet rfl)) fun _ => ?_
  refine .ite (fun _ => .pure (answer_quiet rfl)) fun _ => ?_
  dsimp only
  split
  · exact .pure (answer_quiet rfl)
  · refine .ite (fun _ => .pure (answer_quiet rfl)) fun _ => ?_
    refine .ite (fun _ => .pure (answer_quiet rfl)) fun _ => ?_
    refine .ite (fun _ => .pure (answer_quiet rfl)) fun _ => ?_
    refine .bind fun entries _ => .ite (fun _ => ?_) fun _ => ?_
    · rw [virtioGpuCreateUdmabuf_eq]
      cases makesUdmabuf env gpu.vmctx entries with
      | true => exact .pure (answer_quiet rfl)
      | false => exact .pure (answer_quiet rfl)
    · refine .bind fun made creates => ?_
      obtain ⟨made, image⟩ := made
      have same := createImage_vga creates
      refine .ite (fun _ => .pure (answer_quiet same)) fun _ => ?_
      exact .pure ⟨rfl, rfl, same⟩

theorem ctrlDispatch_quiet (onResource : OnResource cmd = true) :
    Ensures (ctrlDispatch env gpu cmd memory) (Reply.Quiet gpu) := by
  unfold OnResource at onResource
  unfold ctrlDispatch
  cases code : CtrlCmd.ofCode cmd.hdr.type with
  | none =>
      rw [code] at onResource
      cases onResource
  | some command =>
      rw [code] at onResource
      cases command with
      | resourceCreate2d => exact create2d_quiet
      | resourceUnref => exact unref_quiet
      | resourceAttachBacking => exact attachBacking_quiet
      | resourceDetachBacking => exact detachBacking_quiet
      | transferToHost2d => exact transferToHost2d_quiet
      | resourceCreateBlob =>
          exact .ite (fun _ => .ok ⟨rfl, rfl, rfl⟩) fun _ => createBlob_quiet
      | getEdid | getDisplayInfo | setScanout | resourceFlush
      | setScanoutBlob | setModifier => cases onResource

theorem Presentable.onResource_paired (presentable : Presentable gpu)
    (fresh : env.Fresh gpu) (based : cmd.base 0 = .ok cmd.address)
    (onResource : OnResource cmd = true) :
    Paired (Meets gpu.images) (gpu.board.onResource env cmd memory)
      (ctrlDispatch env gpu cmd memory) := by
  have does : Paired (Does gpu (touchedId cmd memory)) _
      (ctrlDispatch env gpu cmd memory) :=
    ctrlDispatch_does presentable.tidy fresh based onResource
  have quiet : Ensures (ctrlDispatch env gpu cmd memory)
      (Reply.Quiet gpu) := ctrlDispatch_quiet onResource
  have changes := ctrlDispatch_changes env gpu cmd memory based
  unfold Board.onResource
  dsimp only
  rw [pictures_view]
  generalize ctrlDispatch env gpu cmd memory = result at does quiet changes ⊢
  change Paired (Meets gpu.images)
    (act env gpu.vmctx gpu.isBlobSupported cmd memory
      (gpu.view (touchedId cmd memory)) >>= _) result
  generalize act env gpu.vmctx gpu.isBlobSupported cmd memory
    (gpu.view (touchedId cmd memory)) = acts at does ⊢
  cases does with
  | failed fault => exact .failed fault
  | @done acted reply does =>
      have changed := (changes reply rfl).gpu
      have setup := changed.sameSetup
      obtain ⟨silent, bare, vga⟩ := quiet reply rfl
      refine .done ⟨?_, does.answers, bare, ?_⟩
      · refine board_eq setup.vmctx setup.isBlobSupported
          (presentable.pictures_update fresh changed does.view) ?_ vga
        unfold GpuState.board
        rw [does.scanouts]
      · rw [silent]
        rfl

/-- The device and its board serve a control command alike, or fail alike. -/
theorem Presentable.serve_paired (presentable : Presentable gpu)
    (fresh : env.Fresh gpu) (based : cmd.base 0 = .ok cmd.address) :
    Paired (Meets gpu.images) (gpu.board.serve env cmd memory)
      (ctrlDispatch env gpu cmd memory) := by
  have onResource : OnResource cmd = true →
      Paired (Meets gpu.images) (gpu.board.onResource env cmd memory)
        (ctrlDispatch env gpu cmd memory) :=
    presentable.onResource_paired fresh based
  unfold OnResource at onResource
  unfold Board.serve
  unfold ctrlDispatch at onResource ⊢
  cases code : CtrlCmd.ofCode cmd.hdr.type with
  | none => exact .done ⟨rfl, rfl, rfl, rfl⟩
  | some command =>
      rw [code] at onResource
      cases command with
      | getEdid =>
          refine .after based ?_
          dsimp only
          unfold Board.getEdid
          rw [length_screens]
          exact .ite (fun _ => .failed Fault.formatString) fun _ =>
            .pure ⟨rfl, rfl, rfl, rfl⟩
      | getDisplayInfo =>
          refine .done ⟨rfl, rfl, ?_, rfl⟩
          unfold Board.getDisplayInfo
          rw [length_screens]
      | setScanout => exact presentable.setScanout_paired based
      | resourceFlush => exact presentable.resourceFlush_paired based
      | setScanoutBlob =>
          refine .ite (fun _ => .done ⟨rfl, rfl, rfl, rfl⟩) fun _ => ?_
          exact presentable.setScanoutBlob_paired based
      | setModifier =>
          refine .after based (.pure ?_)
          unfold Board.setModifier
          split
          · exact ⟨rfl, rfl, rfl, rfl⟩
          · exact ⟨rfl, rfl, rfl, rfl⟩
      | resourceCreate2d | resourceUnref | resourceAttachBacking
      | resourceDetachBacking | transferToHost2d | resourceCreateBlob =>
          exact onResource rfl

/-- A cursor command that shows what the board has it show, on a device it
leaves alone. -/
structure Points (gpu : GpuState) (shown : List Showing)
    (reply : CursorReply) : Prop where
  kept : reply.gpu = gpu
  shown : reply.display.map (showingOf gpu.images) = shown.map some

theorem Presentable.point_paired (presentable : Presentable gpu)
    (cmd : Command) (memory : Memory) :
    Paired (Points gpu) (gpu.board.point cmd memory)
      (cursorDispatch gpu cmd memory) := by
  unfold Board.point cursorDispatch
  cases CursorCmd.ofCode cmd.hdr.type with
  | none => exact .done ⟨rfl, rfl⟩
  | some command =>
      cases command with
      | moveCursor =>
          refine .bind (.refl _) fun address _ same => ?_
          cases same
          exact .pure ⟨rfl, rfl⟩
      | updateCursor =>
          refine .bind (.refl _) fun address _ same => ?_
          cases same
          unfold Board.updateCursor
          dsimp only
          refine .ite (fun _ => .pure ⟨rfl, rfl⟩) fun _ => ?_
          rw [board_pictures]
          cases found : virtioGpuFindResource2d gpu
              (UpdateCursor.load memory address).resourceId with
          | none => exact .done ⟨rfl, rfl⟩
          | some r2d =>
              dsimp only [Option.map_some]
              cases own : r2d.image with
              | none =>
                  rw [pixels_of_null own]
                  exact .failed _
              | some cell =>
                  obtain ⟨image, contents, pixels⟩ :=
                    presentable.pixels_eq found own
                  obtain ⟨taken, ref⟩ :=
                    RefHeap.exists_ref (RefHeap.live_of_contents contents)
                  rw [pixels]
                  refine .after (by simp only [pixmanImageRef, ref]; rfl) ?_
                  refine .after (by
                    simp only [pixmanImageUnref, RefHeap.unref_of_ref ref]
                    rfl) (.pure ⟨rfl, ?_⟩)
                  simp only [List.map_cons, List.map_nil, showingOf,
                    Option.bind_some, contents, Option.map_some]
                  rfl

theorem releaseResources_scanouts {after : GpuState}
    {r2dList : List Resource2d}
    (released : releaseResources gpu r2dList = .ok after) :
    after.scanouts = gpu.scanouts := by
  induction r2dList generalizing gpu with
  | nil =>
      cases released
      rfl
  | cons head tail induction =>
      obtain ⟨next, first, rest⟩ := bind_eq_ok released
      have later := induction rest
      obtain ⟨_, _, _, _, rfl⟩ := (releaseResource_released first).split
      exact later

theorem resetGpu_board {after : GpuState} (cleared : resetGpu gpu = .ok after) :
    after.board = gpu.board.reset := by
  have setup := resetGpu_sameSetup cleared
  have empty := resetGpu_r2dList cleared
  obtain ⟨next, released, rest⟩ := bind_eq_ok cleared
  cases rest
  refine board_eq setup.vmctx setup.isBlobSupported ?_ ?_ rfl
  · funext resourceId
    rw [board_pictures]
    unfold virtioGpuFindResource2d
    rw [empty]
    rfl
  · have scanouts := releaseResources_scanouts released
    exact congrArg (List.map Scanout.screen) scanouts

end Commands

end VirtioGpu.Gpu
