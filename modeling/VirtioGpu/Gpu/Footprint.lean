import VirtioGpu.Gpu.Transfer

namespace VirtioGpu.Gpu

open Foundation
open Virtio

/-! What the commands on one resource read and write of guest memory. -/

/-- Bytes of the first descriptor that are copied as the request. -/
def requestLength (cmd : Command) : Nat :=
  match CtrlCmd.ofCode cmd.hdr.type with
  | some .resourceCreate2d => ResourceCreate2d.size
  | some .resourceUnref => ResourceUnref.size
  | some .resourceAttachBacking => ResourceAttachBacking.size
  | some .resourceDetachBacking => ResourceDetachBacking.size
  | some .transferToHost2d => TransferToHost2d.size
  | _ => ResourceCreateBlob.length

/-- The descriptors gathered as memory entries. -/
def gatheredSlots (cmd : Command) : List Nat :=
  match CtrlCmd.ofCode cmd.hdr.type with
  | some .resourceAttachBacking | some .resourceCreateBlob => cmd.middle
  | _ => []

def responseSlot (cmd : Command) : Nat :=
  match CtrlCmd.ofCode cmd.hdr.type with
  | some .resourceAttachBacking | some .resourceCreateBlob => cmd.iovcnt - 1
  | _ => 1

/-- The location lies in the `length` bytes from `base`. -/
def InRange (base length location : Nat) : Prop :=
  base ≤ location ∧ location < base + length

def InEntry (entry : IoVec) (location : Nat) : Prop :=
  ∃ base, entry.base = some base ∧ InRange base entry.len location

def InRequest (cmd : Command) (location : Nat) : Prop :=
  InRange cmd.address (requestLength cmd) location ∨
    ∃ slot, slot ∈ gatheredSlots cmd ∧ InEntry (cmd.iov slot) location

def InResponse (cmd : Command) (location : Nat) : Prop :=
  InEntry ⟨(cmd.iov (responseSlot cmd)).base, CtrlHdr.size⟩ location

def Resource2d.InBacking (r2d : Resource2d) (location : Nat) : Prop :=
  ∃ entries, r2d.iov = .live entries ∧
    ∃ entry, entry ∈ entries ∧ InEntry entry location

/-! Requests read alike. -/

section Loads

variable {first second : Memory} {address length offset : Nat}

theorem load32_within
    (agree : Memory.AgreeOn (InRange address length) first second)
    (fits : offset + 4 ≤ length) :
    first.load32 (address + offset) = second.load32 (address + offset) := by
  apply Memory.load32_congr
  intro index bound
  exact agree _ ⟨by omega, by omega⟩

theorem load64_within
    (agree : Memory.AgreeOn (InRange address length) first second)
    (fits : offset + 8 ≤ length) :
    first.load64 (address + offset) = second.load64 (address + offset) := by
  apply Memory.load64_congr
  intro index bound
  exact agree _ ⟨by omega, by omega⟩

theorem CtrlHdr.load_congr
    (agree : Memory.AgreeOn (InRange address length) first second)
    (fits : CtrlHdr.size ≤ length) :
    CtrlHdr.load first address = CtrlHdr.load second address := by
  unfold CtrlHdr.size at fits
  have type : first.load32 address = second.load32 address :=
    @load32_within first second address length 0 agree (by omega)
  have ring := agree (address + 20) ⟨by omega, by omega⟩
  unfold CtrlHdr.load
  rw [type, ring, load32_within agree (by omega),
    load64_within agree (by omega), load32_within agree (by omega)]

theorem ResourceCreate2d.load_congr
    (agree : Memory.AgreeOn (InRange address ResourceCreate2d.size) first
      second) :
    ResourceCreate2d.load first address =
      ResourceCreate2d.load second address := by
  unfold ResourceCreate2d.load
  rw [load32_within agree (by decide), load32_within agree (by decide),
    load32_within agree (by decide), load32_within agree (by decide)]

theorem ResourceUnref.load_congr
    (agree : Memory.AgreeOn (InRange address ResourceUnref.size) first
      second) :
    ResourceUnref.load first address = ResourceUnref.load second address := by
  unfold ResourceUnref.load
  rw [load32_within agree (by decide)]

theorem ResourceAttachBacking.load_congr
    (agree : Memory.AgreeOn (InRange address ResourceAttachBacking.size) first
      second) :
    ResourceAttachBacking.load first address =
      ResourceAttachBacking.load second address := by
  unfold ResourceAttachBacking.load
  rw [load32_within agree (by decide), load32_within agree (by decide)]

theorem ResourceDetachBacking.load_congr
    (agree : Memory.AgreeOn (InRange address ResourceDetachBacking.size) first
      second) :
    ResourceDetachBacking.load first address =
      ResourceDetachBacking.load second address := by
  unfold ResourceDetachBacking.load
  rw [load32_within agree (by decide)]

theorem TransferToHost2d.load_congr
    (agree : Memory.AgreeOn (InRange address TransferToHost2d.size) first
      second) :
    TransferToHost2d.load first address =
      TransferToHost2d.load second address := by
  unfold TransferToHost2d.load Rect.load
  simp only [Nat.add_assoc]
  rw [load32_within agree (by decide), load32_within agree (by decide),
    load32_within agree (by decide), load32_within agree (by decide),
    load64_within agree (by decide), load32_within agree (by decide)]

theorem ResourceCreateBlob.load_congr
    (agree : Memory.AgreeOn (InRange address ResourceCreateBlob.length) first
      second) :
    ResourceCreateBlob.load first address =
      ResourceCreateBlob.load second address := by
  unfold ResourceCreateBlob.load
  rw [load32_within agree (by decide), load32_within agree (by decide),
    load32_within agree (by decide), load32_within agree (by decide),
    load64_within agree (by decide)]

end Loads

/-! Entries and pixels read alike. -/

section Reads

variable {first second : Memory}

theorem read_within {base length start count : Nat}
    (agree : Memory.AgreeOn (InRange base length) first second)
    (fits : start + count ≤ length) :
    first.read (base + start) count = second.read (base + start) count := by
  apply Memory.read_congr
  intro index bound
  exact agree _ ⟨by omega, by omega⟩

theorem gatherBytes_congr {cmd : Command}
    (agree : ∀ slot, slot ∈ cmd.middle →
      Memory.AgreeOn (InEntry (cmd.iov slot)) first second) :
    gatherBytes cmd first = gatherBytes cmd second := by
  unfold gatherBytes
  congr 1
  generalize cmd.middle = slots at agree
  induction slots with
  | nil => rfl
  | cons slot rest induction =>
      rw [List.mapM_cons, List.mapM_cons, induction fun later member =>
        agree later (List.mem_cons_of_mem slot member)]
      congr 1
      unfold Command.base
      cases mapped : (cmd.iov slot).base with
      | none => rfl
      | some address =>
          have same : first.read address (cmd.iov slot).len =
              second.read address (cmd.iov slot).len := by
            apply Memory.read_congr
            intro index bound
            apply agree slot List.mem_cons_self
            exact ⟨address, mapped, by omega, by omega⟩
          exact congrArg Except.ok same

theorem transferRow_congr {bufSize dst total : Nat} {entries : List IoVec}
    (agree : ∀ entry, entry ∈ entries →
      Memory.AgreeOn (InEntry entry) first second)
    (srcOffset done : Nat) (data : Memory) :
    transferRow first bufSize dst total entries srcOffset done data =
      transferRow second bufSize dst total entries srcOffset done data := by
  induction entries generalizing srcOffset done data with
  | nil => rfl
  | cons entry rest induction =>
      have later := induction fun other member =>
        agree other (List.mem_cons_of_mem entry member)
      unfold transferRow
      cases mapped : entry.base with
      | none => exact later _ _ _
      | some base =>
          have here : Memory.AgreeOn (InRange base entry.len) first
              second := by
            intro location inside
            exact agree entry List.mem_cons_self location
              ⟨base, mapped, inside⟩
          dsimp only
          split
          · exact later _ _ _
          split
          · rw [read_within here (by omega)]
            split
            · rfl
            split
            · rfl
            · exact later _ _ _
          · exact later _ _ _

theorem transferRows_congr {req : TransferToHost2d} {r2d : Resource2d}
    {image : Image}
    (agree : Memory.AgreeOn r2d.InBacking first second) (rows : List Nat)
    (data : Memory) :
    transferRows first req r2d image rows data =
      transferRows second req r2d image rows data := by
  have rowAlike : ∀ entries, backingEntries r2d = .ok entries →
      ∀ entry, entry ∈ entries →
        Memory.AgreeOn (InEntry entry) first second := by
    intro entries known entry member location inside
    apply agree
    unfold backingEntries at known
    split at known
    · cases known
      cases member
    cases iov : r2d.iov with
    | null =>
        rw [iov] at known
        cases known
    | freed =>
        rw [iov] at known
        cases known
    | live listed =>
        rw [iov] at known
        dsimp only at known
        split at known
        · cases known
        · cases known
          exact ⟨listed, iov, entry, List.mem_of_mem_take member, inside⟩
  induction rows generalizing data with
  | nil => rfl
  | cons row rest induction =>
      unfold transferRows
      cases known : backingEntries r2d with
      | error fault => rfl
      | ok entries =>
          refine (congrArg (· >>= _)
            (transferRow_congr (rowAlike entries known) _ 0 data)).trans ?_
          congr 1
          funext next
          exact induction next

end Reads

/-! Acts read nothing else. -/

/-- The allocator and the kernel give the same kind of answer. -/
structure Env.AnswersAlike (left right : Env) : Prop where
  r2dAlloc : left.r2dAlloc = right.r2dAlloc
  entriesAlloc : left.entriesAlloc = right.entriesAlloc
  iovAlloc : left.iovAlloc = right.iovAlloc
  imageRecordAlloc : left.imageRecordAlloc = right.imageRecordAlloc
  imageBitsAlloc : left.imageBitsAlloc = right.imageBitsAlloc
  listAlloc : left.listAlloc = right.listAlloc
  infoAlloc : left.infoAlloc = right.infoAlloc
  udmabufFd : left.udmabufFd < 0 ↔ right.udmabufFd < 0
  createList : left.createList < 0 ↔ right.createList < 0

theorem Env.AnswersAlike.symm {left right : Env}
    (alike : left.AnswersAlike right) : right.AnswersAlike left :=
  ⟨alike.r2dAlloc.symm, alike.entriesAlloc.symm, alike.iovAlloc.symm,
    alike.imageRecordAlloc.symm, alike.imageBitsAlloc.symm,
    alike.listAlloc.symm, alike.infoAlloc.symm, alike.udmabufFd.symm,
    alike.createList.symm⟩

/-- Where everything succeeds, the answers are alike. -/
theorem Env.Succeeds.answersAlike {left right : Env}
    (first : left.Succeeds) (second : right.Succeeds)
    (firstFd : 0 ≤ left.udmabufFd ∧ 0 ≤ left.createList)
    (secondFd : 0 ≤ right.udmabufFd ∧ 0 ≤ right.createList) :
    left.AnswersAlike right where
  r2dAlloc := first.r2d.trans second.r2d.symm
  entriesAlloc := first.entries.trans second.entries.symm
  iovAlloc := first.iov.trans second.iov.symm
  imageRecordAlloc := (Env.imageAlloc_iff.mp first.image).1.trans
    (Env.imageAlloc_iff.mp second.image).1.symm
  imageBitsAlloc := (Env.imageAlloc_iff.mp first.image).2.trans
    (Env.imageAlloc_iff.mp second.image).2.symm
  listAlloc := first.list.trans second.list.symm
  infoAlloc := first.info.trans second.info.symm
  udmabufFd := by omega
  createList := by omega

section Acts

variable {left right : Env} {first second : Memory} {cmd : Command}

theorem makesUdmabuf_congr (alike : left.AnswersAlike right) (ctx : Vmctx)
    (entries : List MemEntry) :
    makesUdmabuf left ctx entries = makesUdmabuf right ctx entries := by
  unfold makesUdmabuf
  rw [decide_eq_decide.mpr alike.udmabufFd,
    decide_eq_decide.mpr alike.createList, alike.infoAlloc, alike.listAlloc]

theorem gatherEntries_congr
    (agree : ∀ slot, slot ∈ cmd.middle →
      Memory.AgreeOn (InEntry (cmd.iov slot)) first second)
    (nrEntries : Nat) :
    gatherEntries cmd first nrEntries = gatherEntries cmd second nrEntries := by
  unfold gatherEntries
  rw [gatherBytes_congr agree]

/-- The request of a command reads alike. -/
theorem touchedId_congr
    (agree : Memory.AgreeOn (InRequest cmd) first second) :
    touchedId cmd first = touchedId cmd second := by
  have request : Memory.AgreeOn (InRange cmd.address (requestLength cmd))
      first second := fun location inside => agree location (.inl inside)
  unfold touchedId
  unfold requestLength at request
  cases code : CtrlCmd.ofCode cmd.hdr.type with
  | none =>
      rw [code] at request
      exact congrArg ResourceCreateBlob.resourceId
        (ResourceCreateBlob.load_congr request)
  | some command =>
      rw [code] at request
      cases command with
      | resourceCreate2d =>
          exact congrArg ResourceCreate2d.resourceId
            (ResourceCreate2d.load_congr request)
      | resourceUnref =>
          exact congrArg ResourceUnref.resourceId
            (ResourceUnref.load_congr request)
      | resourceAttachBacking =>
          exact congrArg ResourceAttachBacking.resourceId
            (ResourceAttachBacking.load_congr request)
      | resourceDetachBacking =>
          exact congrArg ResourceDetachBacking.resourceId
            (ResourceDetachBacking.load_congr request)
      | transferToHost2d =>
          exact congrArg TransferToHost2d.resourceId
            (TransferToHost2d.load_congr request)
      | getEdid | getDisplayInfo | setScanout | resourceFlush
      | setScanoutBlob | setModifier | resourceCreateBlob =>
          exact congrArg ResourceCreateBlob.resourceId
            (ResourceCreateBlob.load_congr request)

/-- An act depends on the request, on the backing of its resource and on the
kind of answers of the environment. -/
theorem act_congr (alike : left.AnswersAlike right)
    (onResource : OnResource cmd = true)
    (agree : Memory.AgreeOn (InRequest cmd) first second)
    (ctx : Vmctx) (isBlobSupported : Bool) {found : Option View}
    (backing : ∀ view, found = some view →
      Memory.AgreeOn view.record.InBacking first second) :
    act left ctx isBlobSupported cmd first found =
      act right ctx isBlobSupported cmd second found := by
  have request : Memory.AgreeOn (InRange cmd.address (requestLength cmd))
      first second := fun location inside => agree location (.inl inside)
  have gathered : ∀ slot, slot ∈ gatheredSlots cmd →
      Memory.AgreeOn (InEntry (cmd.iov slot)) first second :=
    fun slot member location inside =>
      agree location (.inr ⟨slot, member, inside⟩)
  unfold OnResource at onResource
  unfold act
  unfold requestLength at request
  unfold gatheredSlots at gathered
  cases code : CtrlCmd.ofCode cmd.hdr.type with
  | none =>
      rw [code] at onResource
      cases onResource
  | some command =>
      rw [code] at onResource request gathered
      cases command with
      | resourceCreate2d =>
          dsimp only
          rw [ResourceCreate2d.load_congr request]
          unfold actCreate2d
          rw [alike.r2dAlloc, alike.imageRecordAlloc, alike.imageBitsAlloc]
      | resourceUnref => rfl
      | resourceAttachBacking =>
          dsimp only
          rw [ResourceAttachBacking.load_congr request]
          unfold actAttachBacking
          rw [alike.iovAlloc, alike.entriesAlloc,
            gatherEntries_congr gathered]
      | resourceDetachBacking => rfl
      | transferToHost2d =>
          dsimp only
          rw [TransferToHost2d.load_congr request]
          unfold actTransferToHost2d
          cases found with
          | none => rfl
          | some view =>
              dsimp only
              simp only [transferRows_congr (backing view rfl)]
      | resourceCreateBlob =>
          dsimp only
          rw [ResourceCreateBlob.load_congr request]
          unfold actCreateBlob
          simp only [alike.r2dAlloc, alike.entriesAlloc, alike.iovAlloc,
            alike.imageRecordAlloc, alike.imageBitsAlloc,
            makesUdmabuf_congr alike, gatherEntries_congr gathered]
      | getEdid | getDisplayInfo | setScanout | resourceFlush
      | setScanoutBlob | setModifier => cases onResource

end Acts

end VirtioGpu.Gpu
