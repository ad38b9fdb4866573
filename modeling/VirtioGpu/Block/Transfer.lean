import VirtioGpu.Block.Context
import VirtioGpu.Foundation.Files

namespace VirtioGpu.Block

open Foundation

/-! `BOP_READ` and `BOP_WRITE` of `blockif_proc`: a seek, then a transfer that
takes the array of buffers and its count for a buffer and its size. -/

def blockifIovMax : Nat := 256

/-- `sizeof(struct iovec)`. -/
def iovecSize : Nat := 16

/-- A request whose array of buffers is at the address `iov`. -/
structure BlockifReq where
  iov : Nat
  iovcnt : Nat
  offset : Int64
  resid : Int
  few : iovcnt ≤ blockifIovMax

def BlockifReq.vector (request : BlockifReq) (memory : Memory) :
    List BufferSpan :=
  (List.range request.iovcnt).map fun index =>
    (memory.loadWord (request.iov + index * iovecSize) 8,
      memory.loadWord (request.iov + index * iovecSize + 8) 8)

/-- The bytes of the whole array. -/
def BlockifReq.array (request : BlockifReq) (memory : Memory) :
    List UInt8 :=
  memory.read request.iov (blockifIovMax * iovecSize)

inductive Direction where
  | read
  | write
  deriving Repr, DecidableEq

/-- What the kernel answers to one request: which positions it seeks to, the
most bytes it moves, and the fsync. -/
structure BlockKernel where
  seeks : Int → Bool
  transfer : Except Errno Nat
  fsync : Option Errno

def BlockifCtxt.position (ctxt : BlockifCtxt) (request : BlockifReq) : Int :=
  request.offset.toInt + ctxt.subFileStartLba.toInt

/-- A sum that is no off_t is no position either. -/
def BlockKernel.lseek (kernel : BlockKernel) (position : Int) : Bool :=
  0 ≤ position ∧ position < 9223372036854775808 ∧ kernel.seeks position

structure Transferred where
  memory : Memory
  file : FileBytes
  resid : Int
  err : Int

def blockifFlushCache (ctxt : BlockifCtxt) (kernel : BlockKernel) : Int :=
  if ctxt.wce then 0
  else
    match kernel.fsync with
    | none => 0
    | some errno => errno

def blockifProc (ctxt : BlockifCtxt) (kernel : BlockKernel)
    (request : BlockifReq) (direction : Direction) (memory : Memory)
    (file : FileBytes) : Transferred :=
  let position := ctxt.position request
  match direction with
  | .read =>
      if kernel.lseek position then
        match kernel.transfer with
        | .error errno => ⟨memory, file, request.resid, errno⟩
        | .ok limit =>
            let bytes :=
              file.readAt position.toNat (min limit request.iovcnt)
            ⟨memory.store request.iov bytes, file,
              request.resid - bytes.length, 0⟩
      else
        ⟨memory, file, request.resid, 0⟩
  | .write =>
      if ctxt.rdonly then ⟨memory, file, request.resid, erofs⟩
      else if kernel.lseek position then
        match kernel.transfer with
        | .error errno => ⟨memory, file, request.resid, errno⟩
        | .ok limit =>
            let bytes := memory.read request.iov (min limit request.iovcnt)
            ⟨memory, file.writeAt position.toNat bytes,
              request.resid - bytes.length, blockifFlushCache ctxt kernel⟩
      else
        ⟨memory, file, request.resid, 0⟩

/-! What the request asks for. -/

section Requests

variable (ctxt : BlockifCtxt) (kernel : BlockKernel) (request : BlockifReq)
  (memory : Memory) (file : FileBytes)

/-- The bytes that a vectored read moves. -/
def readBytes (limit : Nat) : List UInt8 :=
  file.readAt (ctxt.position request).toNat
    (min limit (Memory.vectorLength (request.vector memory)))

/-- The bytes that a vectored write moves. -/
def writtenBytes (limit : Nat) : List UInt8 :=
  (memory.gather (request.vector memory)).take limit

def Transferred.MovesFrom (limit : Nat) (outcome : Transferred) : Prop :=
  outcome.memory = memory.scatter (request.vector memory)
      (readBytes ctxt request memory file limit) ∧
    outcome.file = file ∧
    outcome.resid = request.resid -
      (readBytes ctxt request memory file limit).length

def Transferred.MovesTo (limit : Nat) (outcome : Transferred) : Prop :=
  file.Written (ctxt.position request).toNat
      (writtenBytes request memory limit) outcome.file ∧
    outcome.memory = memory ∧
    outcome.resid = request.resid -
      (writtenBytes request memory limit).length

def Transferred.Moves (direction : Direction) (limit : Nat)
    (outcome : Transferred) : Prop :=
  match direction with
  | .read => outcome.MovesFrom ctxt request memory file limit
  | .write => outcome.MovesTo ctxt request memory file limit

/-- The request is refused before any seek. -/
def Refuses (direction : Direction) : Prop :=
  direction = .write ∧ ctxt.rdonly = true

structure Transferred.Right (direction : Direction)
    (outcome : Transferred) : Prop where
  array : request.array outcome.memory = request.array memory
  unsought : kernel.lseek (ctxt.position request) = false →
    outcome.err ≠ 0
  failed : ∀ errno, kernel.transfer = .error errno → outcome.err ≠ 0
  moved : ¬Refuses ctxt direction →
    kernel.lseek (ctxt.position request) = true →
    ∀ limit, kernel.transfer = .ok limit →
      outcome.Moves ctxt request memory file direction limit

/-- The array begins with the bytes that the request moves, as many as its
count says, and for a read the buffers hold them too. -/
def Coincides (direction : Direction) (limit : Nat) : Prop :=
  match direction with
  | .read =>
      let bytes := readBytes ctxt request memory file limit
      bytes.length = (file.readAt (ctxt.position request).toNat
          (min limit request.iovcnt)).length ∧
        memory.read request.iov bytes.length = bytes ∧
        memory.scatter (request.vector memory) bytes = memory
  | .write =>
      let bytes := writtenBytes request memory limit
      bytes.length = min limit request.iovcnt ∧
        memory.read request.iov bytes.length = bytes

def Fortunate (direction : Direction) : Prop :=
  Refuses ctxt direction ∨
    (kernel.lseek (ctxt.position request) = true ∧
      ∀ limit, kernel.transfer = .ok limit →
        Coincides ctxt request memory file direction limit)

end Requests

section Results

variable {ctxt : BlockifCtxt} {kernel : BlockKernel} {request : BlockifReq}
  {memory : Memory} {file : FileBytes}

theorem readAt_eq_of_length {position first second : Nat}
    (same : (file.readAt position first).length =
      (file.readAt position second).length) :
    file.readAt position first = file.readAt position second :=
  (List.prefix_of_prefix_length_le (List.take_prefix _ _)
    (List.take_prefix _ _) (Nat.le_of_eq same)).eq_of_length same

/-- A store that the array survives was of the bytes it began with. -/
theorem held_of_array {bytes : List UInt8}
    (short : bytes.length ≤ blockifIovMax * iovecSize)
    (kept : request.array (memory.store request.iov bytes) =
      request.array memory) :
    memory.read request.iov bytes.length = bytes := by
  have front := congrArg (List.take bytes.length) kept
  unfold BlockifReq.array at front
  rw [Memory.take_read, Memory.take_read, Nat.min_eq_left short,
    Memory.read_store] at front
  exact front.symm

theorem read_moves_iff {limit : Nat} :
    let bytes := file.readAt (ctxt.position request).toNat
      (min limit request.iovcnt)
    (request.array (memory.store request.iov bytes) =
        request.array memory ∧
      Transferred.MovesFrom ctxt request memory file limit
        ⟨memory.store request.iov bytes, file,
          request.resid - bytes.length, 0⟩) ↔
      Coincides ctxt request memory file .read limit := by
  intro bytes
  have few := request.few
  have short : bytes.length ≤ blockifIovMax * iovecSize := by
    have bound : bytes.length = _ := file.length_readAt _ _
    unfold blockifIovMax at few
    unfold blockifIovMax iovecSize
    omega
  constructor
  · intro moves
    obtain ⟨kept, scattered, _, resid⟩ := moves
    have held := held_of_array short kept
    have unchanged := (memory.store_eq_self_iff _ _).mpr held
    have lengths : (readBytes ctxt request memory file limit).length =
        bytes.length := by
      dsimp only at resid
      omega
    have same : readBytes ctxt request memory file limit = bytes :=
      readAt_eq_of_length lengths
    refine ⟨lengths, ?_, ?_⟩
    · rw [same]
      exact held
    · exact scattered.symm.trans unchanged
  · intro coincides
    obtain ⟨lengths, held, settled⟩ := coincides
    have same : readBytes ctxt request memory file limit = bytes :=
      readAt_eq_of_length lengths
    rw [same] at held
    have unchanged := (memory.store_eq_self_iff _ _).mpr held
    rw [unchanged]
    exact ⟨rfl, settled.symm, rfl, by rw [same]⟩

theorem write_moves_iff {limit : Nat} (err : Int) :
    let bytes := memory.read request.iov (min limit request.iovcnt)
    Transferred.MovesTo ctxt request memory file limit
        ⟨memory, file.writeAt (ctxt.position request).toNat bytes,
          request.resid - bytes.length, err⟩ ↔
      Coincides ctxt request memory file .write limit := by
  intro bytes
  have length : bytes.length = min limit request.iovcnt :=
    Memory.length_read _ _ _
  constructor
  · intro moves
    obtain ⟨written, _, resid⟩ := moves
    have lengths : (writtenBytes request memory limit).length =
        bytes.length := by
      dsimp only at resid
      omega
    refine ⟨lengths.trans length, ?_⟩
    rw [lengths, length]
    exact written.unique lengths.symm
  · intro coincides
    obtain ⟨lengths, held⟩ := coincides
    have same : writtenBytes request memory limit = bytes := by
      rw [lengths] at held
      exact held.symm
    rw [← same]
    exact ⟨FileBytes.written_writeAt _ _ _, rfl, rfl⟩

variable {direction : Direction}

/-- A request that ends with an error and no bytes moved. -/
theorem right_of_failure {err : Int} (fails : err ≠ 0)
    (without : Refuses ctxt direction ∨
      ∃ errno, kernel.transfer = .error errno) :
    Transferred.Right ctxt kernel request memory file direction
      ⟨memory, file, request.resid, err⟩ where
  array := rfl
  unsought := fun _ => fails
  failed := fun _ _ => fails
  moved := fun accepted _ limit moves => by
    cases without with
    | inl refused => exact absurd refused accepted
    | inr failed =>
        obtain ⟨errno, failed⟩ := failed
        cases failed.symm.trans moves

theorem right_iff_moves {limit : Nat} {outcome : Transferred}
    (accepted : ¬Refuses ctxt direction)
    (sought : kernel.lseek (ctxt.position request) = true)
    (moves : kernel.transfer = .ok limit) :
    outcome.Right ctxt kernel request memory file direction ↔
      request.array outcome.memory = request.array memory ∧
        outcome.Moves ctxt request memory file direction limit := by
  constructor
  · intro right
    exact ⟨right.array, right.moved accepted sought limit moves⟩
  · intro holds
    refine ⟨holds.1, ?_, ?_, ?_⟩
    · intro unsought
      cases sought.symm.trans unsought
    · intro errno failed
      cases moves.symm.trans failed
    · intro _ _ other same
      cases moves.symm.trans same
      exact holds.2

theorem fortunate_iff_coincides {limit : Nat}
    (accepted : ¬Refuses ctxt direction)
    (sought : kernel.lseek (ctxt.position request) = true)
    (moves : kernel.transfer = .ok limit) :
    Fortunate ctxt kernel request memory file direction ↔
      Coincides ctxt request memory file direction limit := by
  unfold Fortunate
  rw [or_iff_right accepted, and_iff_right sought]
  constructor
  · intro all
    exact all limit moves
  · intro coincides other same
    cases moves.symm.trans same
    exact coincides

/-- Without a position nothing is reported. -/
theorem silent_iff {err : Int} (accepted : ¬Refuses ctxt direction)
    (unsought : kernel.lseek (ctxt.position request) = false)
    (silent : err = 0) :
    Transferred.Right ctxt kernel request memory file direction
        ⟨memory, file, request.resid, err⟩ ↔
      Fortunate ctxt kernel request memory file direction := by
  constructor
  · intro right
    exact absurd silent (right.unsought unsought)
  · intro fortunate
    cases fortunate with
    | inl refused => exact absurd refused accepted
    | inr sought => cases unsought.symm.trans sought.1

/-- A request that reaches the kernel and gets an error from it. -/
theorem failed_iff {errno : Errno}
    (sought : kernel.lseek (ctxt.position request) = true)
    (failed : kernel.transfer = .error errno) :
    Transferred.Right ctxt kernel request memory file direction
        ⟨memory, file, request.resid, errno⟩ ↔
      Fortunate ctxt kernel request memory file direction := by
  constructor
  · intro _
    exact .inr ⟨sought, fun limit moves => by cases failed.symm.trans moves⟩
  · intro _
    exact right_of_failure (Int.ne_of_gt errno.property)
      (.inr ⟨errno, failed⟩)

theorem read_right_iff :
    (blockifProc ctxt kernel request .read memory file).Right ctxt kernel
        request memory file .read ↔
      Fortunate ctxt kernel request memory file .read := by
  have accepted : ¬Refuses ctxt .read := fun refused => by cases refused.1
  unfold blockifProc
  dsimp only
  cases sought : kernel.lseek (ctxt.position request) with
  | false => exact silent_iff accepted sought rfl
  | true =>
      cases answer : kernel.transfer with
      | error errno => exact failed_iff sought answer
      | ok limit =>
          rw [fortunate_iff_coincides accepted sought answer]
          exact (right_iff_moves accepted sought answer).trans
            read_moves_iff

theorem write_right_iff :
    (blockifProc ctxt kernel request .write memory file).Right ctxt kernel
        request memory file .write ↔
      Fortunate ctxt kernel request memory file .write := by
  unfold blockifProc
  dsimp only
  split
  · rename_i readOnly
    have refused : Refuses ctxt .write := ⟨rfl, readOnly⟩
    constructor
    · intro _
      exact .inl refused
    · intro _
      exact right_of_failure (by decide) (.inl refused)
  · rename_i writable
    have accepted : ¬Refuses ctxt .write := fun refused =>
      writable refused.2
    cases sought : kernel.lseek (ctxt.position request) with
    | false => exact silent_iff accepted sought rfl
    | true =>
        cases answer : kernel.transfer with
        | error errno => exact failed_iff sought answer
        | ok limit =>
            rw [fortunate_iff_coincides accepted sought answer]
            have moves := @write_moves_iff ctxt request memory file limit
              (blockifFlushCache ctxt kernel)
            exact (right_iff_moves accepted sought answer).trans
              ((and_iff_right rfl).trans moves)

end Results

/-- A request moves the right bytes just when it is refused, or when its seek
succeeds and the bytes it should move are those its array begins with. -/
theorem blockifProc_right_iff (ctxt : BlockifCtxt) (kernel : BlockKernel)
    (request : BlockifReq) (direction : Direction) (memory : Memory)
    (file : FileBytes) :
    (blockifProc ctxt kernel request direction memory file).Right ctxt kernel
        request memory file direction ↔
      Fortunate ctxt kernel request memory file direction := by
  cases direction with
  | read => exact read_right_iff
  | write => exact write_right_iff

/-- A file of eight bytes, read by a request for four of them. The array at
4096 holds the address 512 and the length 4. -/
def smallFile : FileBytes := [1, 2, 3, 4, 5, 6, 7, 8]

def wholeFile : BlockifCtxt where
  isblk := false
  candiscard := false
  rdonly := false
  size := 512
  subFileStartLba := 0
  sectsz := 512
  maxDiscardSectors := 0
  maxDiscardSeg := 0
  discardSectorAlignment := 0
  wce := true
  sectszPositive := sectsz_positive

def obliging : BlockKernel := ⟨fun _ => true, .ok 4096, none⟩

def fourBytes : BlockifReq := ⟨4096, 1, 2, 4, by decide⟩

def oneBuffer : Memory :=
  Memory.zero.store 4096 (wordBytes 8 512 ++ wordBytes 8 4)

/-- The read stores one byte, into the array, and the buffer gets none. -/
theorem read_overwrites_array :
    let outcome := blockifProc wholeFile obliging fourBytes .read oneBuffer
      smallFile
    fourBytes.vector oneBuffer = [(512, 4)] ∧
      (outcome.memory 4096, outcome.memory 512, outcome.resid) =
        (3, 0, 3) ∧
      ¬outcome.Right wholeFile obliging fourBytes oneBuffer smallFile
        .read := by
  refine ⟨by decide, by decide, fun right => ?_⟩
  have kept := congrArg (List.take 1) right.array
  unfold BlockifReq.array at kept
  rw [Memory.take_read, Memory.take_read] at kept
  exact absurd kept (by decide)

end VirtioGpu.Block
