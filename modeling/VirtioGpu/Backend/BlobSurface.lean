import VirtioGpu.Backend.ShownSurface
import VirtioGpu.Gpu.BlobSurface

namespace VirtioGpu.Backend

open Foundation
open Virtio
open Gpu

/-! Blob resources along runs, from their creation to the scanouts that show
them. -/

/-- The step neither resets the device nor drops the resource. -/
def KeepsResource (resourceId : Nat) (state : Traced) (label : Label) : Prop :=
  ¬label.Resets ∧
    commandsMeet (fun _ _ cmd memory =>
      ¬(CtrlCmd.ofCode cmd.hdr.type = some .resourceUnref ∧
        (ResourceUnref.load memory cmd.address).resourceId = resourceId))
      state label

theorem holdsBlob_along {start state : Traced} {resourceId : Nat} {fd : Int}
    (tidy : Tidy start.machine.device.gpu)
    (holds : HoldsBlob start.machine.device.gpu resourceId fd)
    (reached : (backend.startingAt start).ReachedWhere
      (KeepsResource resourceId) state) :
    Tidy state.machine.device.gpu ∧
      HoldsBlob state.machine.device.gpu resourceId fd :=
  @tidy_along _ _ (fun gpu => HoldsBlob gpu resourceId fd) _
    (fun holds tidy fresh based spared =>
      holds.dispatched tidy fresh based spared)
    tidy holds reached

/-- The display gets the rectangle of the request in the blob's dmabuf, from
its unwrapped offset on, and the rectangle ends inside the `total` bytes. -/
def ShownInside (req : SetScanoutBlob) (fd : Int) (total : Nat)
    (reply : Reply) : Prop :=
  ∃ offset, ShowsBlob req fd offset reply ∧ offset = blobOffset req ∧
    (offset : Int) + ((req.r.height : Int) - 1) * req.stride +
      4 * req.r.width ≤ total

/-- The offset has 32 bits, and the last row ends within `total` bytes. -/
def RequestFits (req : SetScanoutBlob) (total : Nat) : Prop :=
  blobOffset req < 4294967296 ∧
    (blobOffset req : Int) + ((req.r.height : Int) - 1) * req.stride +
      4 * req.r.width ≤ total

instance (req : SetScanoutBlob) (total : Nat) :
    Decidable (RequestFits req total) :=
  inferInstanceAs (Decidable (_ ∧ _))

theorem shownInside_iff {req : SetScanoutBlob} {fd : Int} {total : Nat}
    {reply : Reply}
    (shows : ShowsBlob req fd (blobOffset req % 4294967296) reply) :
    ShownInside req fd total reply ↔ RequestFits req total := by
  constructor
  · rintro ⟨offset, shown, rfl, inside⟩
    refine ⟨?_, inside⟩
    rw [ShowsBlob, shows] at shown
    injection shown with call
    injection call with _ surface
    injection surface with same
    injection same with _ _ _ _ wrapped
    omega
  · rintro ⟨small, inside⟩
    rw [Nat.mod_eq_of_lt small] at shows
    exact ⟨_, shows, rfl, inside⟩

/-- A `SET_SCANOUT_BLOB` that is answered `OK` shows a part of the blob if and
only if its fields describe one. -/
theorem setScanoutBlob_inside_iff {before start state : Traced} {env : Env}
    {cmd : Command} {entries : List MemEntry} {reply : Reply}
    {resourceId : Nat} (reached : backend.Reached before)
    (stepped : backend.step before (.run env) start)
    (next : before.machine.nextCommand = some cmd)
    (creates : CreatesBlob env before.machine.device.gpu cmd
      before.machine.memory resourceId entries reply)
    (later : (backend.startingAt start).ReachedWhere
      (KeepsResource resourceId) state)
    {showEnv : Env} {scanout : Command} {memory : Memory} {shown : Reply}
    (based : scanout.base 0 = .ok scanout.address)
    (sets : SetsBlobScanout showEnv state.machine.device.gpu scanout memory
      resourceId shown) :
    ShownInside (SetScanoutBlob.load memory scanout.address) env.createList
        (entriesLength entries) shown ↔
      RequestFits (SetScanoutBlob.load memory scanout.address)
        (entriesLength entries) := by
  have holds := creates.holds (nextCommand_base next)
  obtain ⟨same, tidy⟩ := served_tidy reached stepped next creates.handled
  rw [← same] at tidy holds
  have held := (holdsBlob_along tidy holds later).2
  exact shownInside_iff (sets.shows based held)

/-- `SET_SCANOUT_BLOB` of blob 1 from `offset` on, with packed rows. -/
def blobRequest (width height offset : Nat) : List UInt8 :=
  request .setScanoutBlob (le32 0 ++ le32 0 ++ le32 width ++ le32 height ++
    le32 0 ++ le32 1 ++ le32 width ++ le32 height ++ le32 1 ++ le32 0 ++
    le32 (4 * width) ++ List.replicate 12 0 ++ le32 offset ++
    List.replicate 12 0)

/-- `CREATE_BLOB` in two descriptors: the request, and one memory entry of
16384 bytes. -/
def blobMemory : Memory :=
  (((Memory.zero.store 64
    ((VringDesc.mk 256 56 vringDescFNext 1).bytes ++
      (VringDesc.mk 1024 16 vringDescFNext 2).bytes ++
      (VringDesc.mk 512 24 vringDescFWrite 0).bytes)).store 128
    (le16 0 ++ le16 1)).store 256 (request .resourceCreateBlob
      (le32 1 ++ le32 1 ++ le32 2 ++ le32 1 ++ le64 0 ++
        le64 16385))).store 1024 (le64 0 ++ le32 16384 ++ le32 0)

/-- The `CREATE_BLOB` in service makes blob 1 of 16384 bytes, and the
`SET_SCANOUT_BLOB` after it is answered `OK`. -/
def blobShown (env : Env) (bytes : List UInt8) (state : Traced)
    (cmd : Command) : Bool :=
  decide (CtrlCmd.ofCode cmd.hdr.type = some .resourceCreateBlob) &&
    decide ((ResourceCreateBlob.load state.machine.memory
      cmd.address).resourceId = 1) &&
    (gatherEntries cmd state.machine.memory
      (ResourceCreateBlob.load state.machine.memory
        cmd.address).nrEntries).toOption.any
        (fun entries => decide (entriesLength entries = 16384)) &&
    decide ((virtioGpuFindResource2d state.machine.device.gpu 1).isNone) &&
    (ctrlDispatch env state.machine.device.gpu cmd
      state.machine.memory).toOption.any fun (reply : Reply) =>
        (virtioGpuFindResource2d reply.gpu 1).any (fun r2d => r2d.blob) &&
        (ctrlDispatch env reply.gpu (requestCommand bytes)
          (requestMemory 0 bytes)).toOption.any
            fun (shown : Reply) => decide (shown.Answers .okNodata)

/-- The command in service makes blob 1 of 16384 bytes, and the request after
it shows the blob. -/
structure MakesAndShows (before start : Traced) (cmd : Command)
    (entries : List MemEntry) (reply : Reply) (bytes : List UInt8)
    (shown : Reply) : Prop where
  reached : backend.Reached before
  stepped : backend.step before (.run (Env.steady 0)) start
  next : before.machine.nextCommand = some cmd
  total : entriesLength entries = 16384
  creates : CreatesBlob (Env.steady 0) before.machine.device.gpu cmd
    before.machine.memory 1 entries reply
  sets : SetsBlobScanout (Env.steady 0) start.machine.device.gpu
    (requestCommand bytes) (requestMemory 0 bytes) 1 shown

theorem exists_makesAndShows {bytes : List UInt8}
    (code : CtrlCmd.ofCode (requestCommand bytes).hdr.type =
      some .setScanoutBlob)
    (resource : (SetScanoutBlob.load (requestMemory 0 bytes)
      (requestCommand bytes).address).resourceId = 1)
    (checked : (runLabels
      ⟨initialMachine ⟨65536, 5⟩ true 2 Memory.zero, []⟩
      (setUpQueue .control 4 64 128 160 ++
        .guest blobMemory :: callBh (Env.steady 0) .control 2)).any
      (fun state =>
        state.machine.nextCommand.any
          (blobShown (Env.steady 0) bytes state) &&
        (runLabels state [.run (Env.steady 0)]).isSome) = true) :
    ∃ before start cmd entries reply shown,
      MakesAndShows before start cmd entries reply bytes shown := by
  obtain ⟨before, reached, checks⟩ :=
    exists_reached ⟨_, true, 2, _, fun _ => rfl, by decide, rfl⟩ checked
  obtain ⟨serves, runs⟩ := Bool.and_eq_true_iff.mp checks
  obtain ⟨cmd, next, serves⟩ := (Option.any_eq_true _ _).mp serves
  obtain ⟨start, ran⟩ := Option.isSome_iff_exists.mp runs
  have stepped := runLabels_singleton ran
  simp only [blobShown, Bool.and_eq_true, decide_eq_true_eq] at serves
  obtain ⟨⟨⟨⟨named, same⟩, gathers⟩, absent⟩, creates⟩ := serves
  obtain ⟨entries, gathered, total⟩ := Returns.of_any gathers
  obtain ⟨reply, created, shows⟩ := Returns.of_any creates
  obtain ⟨held, shows⟩ := Bool.and_eq_true_iff.mp shows
  obtain ⟨r2d, found, blob⟩ := (Option.any_eq_true _ _).mp held
  obtain ⟨shown, handled, answers⟩ := Returns.of_any shows
  have after := (served_tidy reached stepped next created).1
  refine ⟨before, start, cmd, entries, reply, shown, reached, stepped, next,
    of_decide_eq_true total,
    ⟨named, same, gathered, created, Option.isNone_iff_eq_none.mp absent,
      ⟨r2d, found, blob⟩⟩, ⟨code, resource, by decide, ?_,
      of_decide_eq_true answers⟩⟩
  rw [after]
  exact handled

/-- 64 by 48 pixels of blob 1 lie in its 16384 bytes. -/
theorem small_blob_inside :
    ∃ before start cmd entries reply shown,
      MakesAndShows before start cmd entries reply (blobRequest 64 48 0)
        shown ∧
      ShownInside (SetScanoutBlob.load
        (requestMemory 0 (blobRequest 64 48 0)) 256)
        (Env.steady 0).createList (entriesLength entries) shown := by
  obtain ⟨before, start, cmd, entries, reply, shown, both⟩ :=
    @exists_makesAndShows (blobRequest 64 48 0) (by decide +kernel)
      (by decide +kernel) (by decide +kernel)
  refine ⟨before, start, cmd, entries, reply, shown, both,
    (setScanoutBlob_inside_iff both.reached both.stepped both.next both.creates
      (.initial rfl) (by decide +kernel) both.sets).mpr ?_⟩
  rw [both.total]
  decide +kernel

/-- 128 by 128 pixels of the same blob reach past its end. -/
theorem tall_blob_outside :
    ∃ before start cmd entries reply shown,
      MakesAndShows before start cmd entries reply (blobRequest 128 128 0)
        shown ∧
      ¬ShownInside (SetScanoutBlob.load
        (requestMemory 0 (blobRequest 128 128 0)) 256)
        (Env.steady 0).createList (entriesLength entries) shown := by
  obtain ⟨before, start, cmd, entries, reply, shown, both⟩ :=
    @exists_makesAndShows (blobRequest 128 128 0) (by decide +kernel)
      (by decide +kernel) (by decide +kernel)
  refine ⟨before, start, cmd, entries, reply, shown, both, ?_⟩
  rintro ⟨offset, _, rfl, inside⟩
  rw [both.total] at inside
  revert inside
  decide +kernel

end VirtioGpu.Backend
