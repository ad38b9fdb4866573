import VirtioGpu.Foundation.Transition
import VirtioGpu.Virtio.Registers
import Mathlib.Data.Nat.Bitwise

namespace VirtioGpu.Virtio

open Foundation

/-! A data plane in the kernel: which features the guest is offered and which
ones the kernel is told. -/

structure VhostVq where
  kickFd : Int
  callFd : Int
  deriving Repr, DecidableEq

/-- `attached` tells whether `base` points to the device, with its queues and
its `vops`. -/
structure VhostDev where
  attached : Bool
  vqs : List VhostVq
  fd : Int
  vqIdx : Nat
  vhostFeatures : Nat
  vhostExtFeatures : Nat
  busyloopTimeout : Nat
  started : Bool
  deriving Repr, DecidableEq

structure VhostArgs where
  fd : Int
  vqIdx : Nat
  vhostFeatures : Nat
  vhostExtFeatures : Nat
  busyloopTimeout : Nat
  deriving Repr, DecidableEq

/-- What `vhost_dev_init` finds: the device, the features of the kernel, when
the `ioctl` succeeds, and the kick and call descriptors of each queue. -/
structure VhostHost where
  ready : Bool
  nvq : Nat
  features : Option Nat
  eventfds : Nat → Int × Int

def vhostVqInit (eventfds : Int × Int) : VhostVq × Bool :=
  if eventfds.1 < 0 ∨ eventfds.2 < 0 then (⟨-1, -1⟩, false)
  else (⟨eventfds.1, eventfds.2⟩, true)

/-- The loop over the queues, left at the first failure. -/
def vhostVqsInit (eventfds : Nat → Int × Int) :
    Nat → List VhostVq → List VhostVq × Bool
  | _, [] => ([], true)
  | idx, _ :: rest =>
      let vq := vhostVqInit (eventfds idx)
      if vq.2 then
        let later := vhostVqsInit eventfds (idx + 1) rest
        (vq.1 :: later.1, later.2)
      else
        (vq.1 :: rest, false)

def closed (fd : Int) : Int := if fd > 0 then -1 else fd

def vhostVqDeinit (vq : VhostVq) : VhostVq :=
  ⟨closed vq.kickFd, closed vq.callFd⟩

def vhostDevDeinit (vdev : VhostDev) : VhostDev :=
  if vdev.attached then
    { vdev with
      attached := false
      vqs := vdev.vqs.map vhostVqDeinit
      fd := closed vdev.fd
      vqIdx := 0
      busyloopTimeout := 0 }
  else vdev

def vhostKernelInit (vdev : VhostDev) (args : VhostArgs) : VhostDev :=
  { vdev with
    attached := true
    fd := args.fd
    vqIdx := args.vqIdx
    busyloopTimeout := args.busyloopTimeout }

/-- `~` of a `uint64_t`. -/
def complement64 (word : Nat) : Nat := 0xffffffffffffffff ^^^ word

/-- A failure leaves `base` alone. -/
def vhostDevInit (host : VhostHost) (vdev : VhostDev) (base : VirtioBase)
    (args : VhostArgs) : Except VhostDev (VhostDev × VirtioBase) :=
  if host.ready = false ∨ vdev.vqs = [] ∨
      args.vqIdx + vdev.vqs.length > host.nvq then
    .error (vhostDevDeinit vdev)
  else
    let vdev := vhostKernelInit vdev args
    match host.features with
    | none => .error (vhostDevDeinit vdev)
    | some features =>
        let vqs := vhostVqsInit host.eventfds 0 vdev.vqs
        let vdev := { vdev with vqs := vqs.1 }
        if vqs.2 then
          .ok ({ vdev with
              vhostExtFeatures := args.vhostExtFeatures &&& features
              vhostFeatures := args.vhostFeatures &&& features
              started := false },
            { base with
              deviceCaps := base.deviceCaps &&&
                complement64 (args.vhostFeatures ^^^ features) })
        else
          .error (vhostDevDeinit vdev)

/-! Starting and stopping the data plane. -/

inductive VhostRequest where
  | setOwner
  | resetOwner
  | setFeatures (features : Nat)
  | setMemTable
  | setVringBusyloopTimeout (idx timeout : Nat)
  | irqfd (idx : Nat) (register : Bool)
  | setVringNum (idx : Nat)
  | setVringBase (idx : Nat)
  | getVringBase (idx : Nat)
  | setVringAddr (idx : Nat)
  | setVringCall (idx : Nat) (clear : Bool)
  | setVringKick (idx : Nat) (clear : Bool)
  deriving Repr, DecidableEq

/-- What one call of `vhost_dev_start` or `vhost_dev_stop` meets: whether
MSI-X is enabled, whether memory can be had, and which requests succeed. -/
structure VhostCall where
  msixEnabled : Bool
  allocates : Bool
  nvq : Nat
  succeeds : VhostRequest → Bool

/-- The requests made until one fails, and whether none did. -/
def issue (succeeds : VhostRequest → Bool) :
    List VhostRequest → List VhostRequest × Bool
  | [] => ([], true)
  | request :: rest =>
      if succeeds request then
        let later := issue succeeds rest
        (request :: later.1, later.2)
      else
        ([request], false)

def vqStartRequests (idx : Nat) : List VhostRequest :=
  [.irqfd idx true, .setVringNum idx, .setVringBase idx, .setVringAddr idx,
    .setVringCall idx false, .setVringKick idx false]

/-- The labels `fail_vring_kick`, `fail_vring` and `fail`, by the number of
requests made. -/
def vqStartUndo (idx made : Nat) : List VhostRequest :=
  if made ≤ 1 then []
  else if made ≤ 5 then [.irqfd idx false]
  else [.setVringCall idx true, .irqfd idx false]

def vhostVqStart (call : VhostCall) (vdev : VhostDev) (idx : Nat) :
    List VhostRequest × Bool :=
  if idx + vdev.vqIdx ≥ call.nvq then ([], false)
  else
    let issued := issue call.succeeds (vqStartRequests idx)
    if issued.2 then issued
    else (issued.1 ++ vqStartUndo idx issued.1.length, false)

def vhostVqStop (call : VhostCall) (vdev : VhostDev) (idx : Nat) :
    List VhostRequest :=
  if idx + vdev.vqIdx ≥ call.nvq then []
  else
    [.setVringKick idx true, .setVringCall idx true, .getVringBase idx,
      .irqfd idx false]

/-- The queues from `idx` on; a failure stops those before it, the last one
first. -/
def vhostVqsStart (call : VhostCall) (vdev : VhostDev) (idx : Nat) :
    Nat → List VhostRequest × Bool
  | 0 => ([], true)
  | remaining + 1 =>
      let first := vhostVqStart call vdev idx
      if first.2 then
        let later := vhostVqsStart call vdev (idx + 1) remaining
        (first.1 ++ later.1, later.2)
      else
        (first.1 ++ (List.range idx).reverse.flatMap (vhostVqStop call vdev),
          false)

/-- The word for `VHOST_SET_FEATURES`. -/
def featuresWord (vdev : VhostDev) (base : VirtioBase) : Nat :=
  base.negotiatedCaps &&& vdev.vhostFeatures ||| vdev.vhostExtFeatures

def deviceRequests (vdev : VhostDev) (base : VirtioBase) :
    List VhostRequest :=
  [.setOwner, .setFeatures (featuresWord vdev base)]

def busyloopRequests (vdev : VhostDev) : List VhostRequest :=
  if vdev.busyloopTimeout = 0 then []
  else
    (List.range vdev.vqs.length).map fun idx =>
      .setVringBusyloopTimeout idx vdev.busyloopTimeout

def vhostDevStart (call : VhostCall) (vdev : VhostDev) (base : VirtioBase) :
    VhostDev × List VhostRequest :=
  if vdev.started ∨ vdev.attached = false ∨
      base.status &&& virtioConfigSDriverOk = 0 ∨
      call.msixEnabled = false then
    (vdev, [])
  else
    let device := issue call.succeeds (deviceRequests vdev base)
    if device.2 = false ∨ call.allocates = false then (vdev, device.1)
    else
      let memory := issue call.succeeds (.setMemTable :: busyloopRequests vdev)
      if memory.2 then
        let queues := vhostVqsStart call vdev 0 vdev.vqs.length
        ({ vdev with started := queues.2 },
          device.1 ++ memory.1 ++ queues.1)
      else (vdev, device.1 ++ memory.1)

def vhostDevStop (call : VhostCall) (vdev : VhostDev) :
    VhostDev × List VhostRequest :=
  ({ vdev with started := false },
    (List.range vdev.vqs.length).flatMap (vhostVqStop call vdev) ++
      [.resetOwner])

/-! The guest and the data plane. -/

/-- The registers of `virtio_common_cfg_write` that are not those of a queue.
No backend with a data plane changes `base` in its callbacks, but that a reset
is `virtio_reset_dev`. -/
def writeBase (base : VirtioBase) (value : Nat) : CommonReg → VirtioBase
  | .dfselect => { base with deviceFeatureSelect := value % 4294967296 }
  | .gfselect => { base with driverFeatureSelect := value % 4294967296 }
  | .gf =>
      if base.status &&& virtioConfigSDriverOk ≠ 0 then base
      else negotiate base value
  | .msix => { base with msixCfgIdx := value % 65536 }
  | .status =>
      let base := { base with status := value &&& 0xff }
      if base.status = 0 then base.reset else base
  | .qSelect => { base with curq := value }
  | .df | .numq | .cfggeneration | .qSize | .qMsix | .qEnable | .qNoff
  | .qDesclo | .qDeschi | .qAvaillo | .qAvailhi | .qUsedlo | .qUsedhi => base

def commonCfgWriteBase (base : VirtioBase) (offset size value : Nat) :
    VirtioBase :=
  match virtioFindModernCr offset with
  | none => base
  | some cr =>
      if cr.size ≠ size ∨ cr.ro then base
      else
        match CommonReg.ofOffset offset with
        | none => base
        | some reg => writeBase base value reg

/-- `programmed` holds every word the kernel was told, with the negotiated
features of that moment. -/
structure VhostState where
  base : VirtioBase
  vdev : VhostDev
  programmed : List (Nat × Nat)

inductive VhostLabel where
  | write (offset size value : Nat)
  | start (call : VhostCall)
  | stop (call : VhostCall)

def VhostRequest.word : VhostRequest → Option Nat
  | .setFeatures features => some features
  | _ => none

def VhostState.record (state : VhostState)
    (ran : VhostDev × List VhostRequest) : VhostState :=
  { state with
    vdev := ran.1
    programmed := state.programmed ++
      (ran.2.filterMap VhostRequest.word).map fun word =>
        (word, state.base.negotiatedCaps) }

def vhostAct (state : VhostState) : VhostLabel → VhostState
  | .write offset size value =>
      { state with base := commonCfgWriteBase state.base offset size value }
  | .start call => state.record (vhostDevStart call state.vdev state.base)
  | .stop call => state.record (vhostDevStop call state.vdev)

/-- The runs that follow a successful `vhost_dev_init`. -/
def vhostSystem (host : VhostHost) (base : VirtioBase) (args : VhostArgs) :
    TransitionSystem VhostState VhostLabel where
  initial := fun state => state.programmed = [] ∧ ∃ vdev,
    vhostDevInit host vdev base args = .ok (state.vdev, state.base)
  step := fun before label after => vhostAct before label = after

/-- The guest reads the bit as 1 in the word of `DF` that has it. -/
def Offered (base : VirtioBase) (bit : Nat) : Prop :=
  (featureWord base.deviceCaps (bit / 32)).testBit (bit % 32) = true

/-- A word for `VHOST_SET_FEATURES`, as the arguments of `vhost_dev_init` and
the kernel's features allow it. -/
structure Programs (args : VhostArgs) (features negotiated word : Nat) :
    Prop where
  known : ∀ bit, word.testBit bit = true → features.testBit bit = true
  agreed : ∀ bit, args.vhostExtFeatures.testBit bit = false →
    word.testBit bit = (negotiated.testBit bit &&
      (args.vhostFeatures.testBit bit && features.testBit bit))

/-- `before` is the device that `vhost_dev_init` was called for. -/
structure FeaturesAgree (before : VirtioBase) (args : VhostArgs)
    (features : Nat) (state : VhostState) : Prop where
  both : ∀ bit,
    (args.vhostFeatures ||| features).testBit bit = true →
      Offered state.base bit →
        args.vhostFeatures.testBit bit = true ∧ features.testBit bit = true
  others : ∀ bit,
    (args.vhostFeatures ||| features).testBit bit = false →
      (Offered state.base bit ↔ Offered before bit)
  programmed : ∀ word negotiated, (word, negotiated) ∈ state.programmed →
    Programs args features negotiated word

section Vhost

variable {host : VhostHost} {vdev started : VhostDev}
  {base offered : VirtioBase} {args : VhostArgs} {features bit : Nat}

/-! What the guest is offered. -/

theorem testBit_complement64 (word bit : Nat) :
    (complement64 word).testBit bit =
      (decide (bit < 64) ^^ word.testBit bit) := by
  have ones : (0xffffffffffffffff : Nat) = 2 ^ 64 - 1 := by decide
  rw [complement64, Nat.testBit_xor, ones, Nat.testBit_two_pow_sub_one]

theorem offered_iff (base : VirtioBase) (bit : Nat) :
    Offered base bit ↔ bit < 64 ∧ base.deviceCaps.testBit bit = true := by
  have ones : (0xffffffff : Nat) = 2 ^ 32 - 1 := by decide
  have low : bit % 32 < 32 := Nat.mod_lt _ (by decide)
  unfold Offered featureWord
  split
  · rename_i first
    have small : bit < 32 := by omega
    rw [Nat.mod_eq_of_lt small, Nat.testBit_and, ones,
      Nat.testBit_two_pow_sub_one, decide_eq_true small, Bool.and_true]
    exact (and_iff_right (by omega)).symm
  · split
    · rename_i second
      rw [Nat.testBit_and, Nat.testBit_shiftRight, ones,
        Nat.testBit_two_pow_sub_one, decide_eq_true low, Bool.and_true,
        show 32 + bit % 32 = bit by omega]
      exact (and_iff_right (by omega)).symm
    · rw [Nat.zero_testBit]
      constructor
      · intro impossible
        cases impossible
      · intro both
        omega

/-- The bits that only one side has are taken back, no others. -/
theorem vhostDevInit_offers
    (initialized : vhostDevInit host vdev base args = .ok (started, offered)) :
    ∃ features, host.features = some features ∧
      started.vhostFeatures = args.vhostFeatures &&& features ∧
      started.vhostExtFeatures = args.vhostExtFeatures &&& features ∧
      ∀ bit, Offered offered bit ↔ Offered base bit ∧
        args.vhostFeatures.testBit bit = features.testBit bit := by
  unfold vhostDevInit at initialized
  split at initialized
  · cases initialized
  · dsimp only at initialized
    split at initialized
    · cases initialized
    · rename_i features known
      split at initialized
      · cases initialized
        refine ⟨features, known, rfl, rfl, fun bit => ?_⟩
        rw [offered_iff, offered_iff]
        show bit < 64 ∧ (base.deviceCaps &&& complement64
          (args.vhostFeatures ^^^ features)).testBit bit = true ↔ _
        rw [Nat.testBit_and, testBit_complement64, Nat.testBit_xor]
        by_cases small : bit < 64
        · rw [decide_eq_true small]
          cases args.vhostFeatures.testBit bit <;>
            cases features.testBit bit <;> simp [small]
        · simp [small]
      · cases initialized

/-! No write of the guest and no call changes what is offered. -/

theorem commonCfgWriteBase_deviceCaps (base : VirtioBase)
    (offset size value : Nat) :
    (commonCfgWriteBase base offset size value).deviceCaps =
      base.deviceCaps := by
  unfold commonCfgWriteBase
  split
  · rfl
  · split
    · rfl
    · split
      · rfl
      · rename_i reg _
        cases reg with
        | gf =>
            simp only [writeBase]
            split
            · rfl
            · exact negotiate_deviceCaps base value
        | status =>
            simp only [writeBase]
            split
            · rfl
            · rfl
        | _ => rfl

/-! What the kernel is told. -/

theorem issue_subset (succeeds : VhostRequest → Bool)
    (requests : List VhostRequest) :
    (issue succeeds requests).1 ⊆ requests := by
  induction requests with
  | nil => exact List.Subset.refl []
  | cons request rest induction =>
      unfold issue
      split
      · exact List.cons_subset_cons request induction
      · exact List.cons_subset_cons request (List.nil_subset rest)

/-- None of the requests is `VHOST_SET_FEATURES`. -/
def Wordless (requests : List VhostRequest) : Prop :=
  ∀ request ∈ requests, request.word = none

@[simp] theorem wordless_nil : Wordless [] := by
  intro request member
  cases member

@[simp] theorem wordless_cons {request : VhostRequest}
    {rest : List VhostRequest} :
    Wordless (request :: rest) ↔ request.word = none ∧ Wordless rest :=
  List.forall_mem_cons

theorem Wordless.append {first second : List VhostRequest}
    (one : Wordless first) (two : Wordless second) :
    Wordless (first ++ second) := by
  intro request member
  rcases List.mem_append.mp member with early | late
  · exact one request early
  · exact two request late

theorem Wordless.issue {requests : List VhostRequest}
    (wordless : Wordless requests) (succeeds : VhostRequest → Bool) :
    Wordless (issue succeeds requests).1 :=
  fun request member => wordless request (issue_subset succeeds _ member)

theorem Wordless.flatMap {f : Nat → List VhostRequest}
    (each : ∀ idx, Wordless (f idx)) (indices : List Nat) :
    Wordless (indices.flatMap f) := by
  intro request member
  obtain ⟨idx, _, made⟩ := List.mem_flatMap.mp member
  exact each idx request made

theorem vhostVqStop_wordless (call : VhostCall) (vdev : VhostDev)
    (idx : Nat) : Wordless (vhostVqStop call vdev idx) := by
  unfold vhostVqStop
  split
  · exact wordless_nil
  · simp [VhostRequest.word]

theorem vhostVqStart_wordless (call : VhostCall) (vdev : VhostDev)
    (idx : Nat) : Wordless (vhostVqStart call vdev idx).1 := by
  have starts : Wordless (vqStartRequests idx) := by
    simp [vqStartRequests, VhostRequest.word]
  have undoes : ∀ made, Wordless (vqStartUndo idx made) := by
    intro made
    unfold vqStartUndo
    split
    · exact wordless_nil
    · split <;> simp [VhostRequest.word]
  unfold vhostVqStart
  split
  · exact wordless_nil
  · dsimp only
    split
    · exact starts.issue call.succeeds
    · exact (starts.issue call.succeeds).append (undoes _)

theorem vhostVqsStart_wordless (call : VhostCall) (vdev : VhostDev)
    (idx remaining : Nat) :
    Wordless (vhostVqsStart call vdev idx remaining).1 := by
  induction remaining generalizing idx with
  | zero => exact wordless_nil
  | succ remaining induction =>
      have first := vhostVqStart_wordless call vdev idx
      unfold vhostVqsStart
      dsimp only
      split
      · exact first.append (induction (idx + 1))
      · exact first.append (Wordless.flatMap (vhostVqStop_wordless call vdev) _)

theorem busyloopRequests_wordless (vdev : VhostDev) :
    Wordless (.setMemTable :: busyloopRequests vdev) := by
  refine wordless_cons.mpr ⟨rfl, ?_⟩
  unfold busyloopRequests
  split
  · exact wordless_nil
  · intro request member
    obtain ⟨idx, _, rfl⟩ := List.mem_map.mp member
    rfl

/-- The only word that is ever told. -/
theorem vhostDevStart_word {call : VhostCall} {request : VhostRequest}
    {word : Nat}
    (made : request ∈ (vhostDevStart call vdev base).2)
    (tells : request.word = some word) : word = featuresWord vdev base := by
  have told : ∀ requests : List VhostRequest, Wordless requests →
      request ∉ requests := by
    intro requests wordless member
    rw [wordless request member] at tells
    cases tells
  have device : request ∈ (issue call.succeeds
      (deviceRequests vdev base)).1 → word = featuresWord vdev base := by
    intro member
    have listed := issue_subset _ _ member
    rcases List.mem_cons.mp listed with rfl | last
    · cases tells
    · cases List.mem_singleton.mp last
      exact (Option.some.inj tells).symm
  have memory := told _ ((busyloopRequests_wordless vdev).issue call.succeeds)
  have queues := told _ (vhostVqsStart_wordless call vdev 0 vdev.vqs.length)
  unfold vhostDevStart at made
  split at made
  · cases made
  · dsimp only at made
    split at made
    · exact device made
    · split at made
      · rcases List.mem_append.mp made with early | late
        · rcases List.mem_append.mp early with first | second
          · exact device first
          · exact absurd second memory
        · exact absurd late queues
      · rcases List.mem_append.mp made with first | second
        · exact device first
        · exact absurd second memory

theorem vhostDevStop_wordless (call : VhostCall) (vdev : VhostDev) :
    Wordless (vhostDevStop call vdev).2 := by
  have reset : Wordless [.resetOwner] := by
    intro request member
    cases List.mem_singleton.mp member
    rfl
  exact (Wordless.flatMap (vhostVqStop_wordless call vdev) _).append reset

theorem featuresWord_programs
    (own : vdev.vhostFeatures = args.vhostFeatures &&& features)
    (ext : vdev.vhostExtFeatures = args.vhostExtFeatures &&& features) :
    Programs args features base.negotiatedCaps (featuresWord vdev base) := by
  have bits : ∀ bit, (featuresWord vdev base).testBit bit =
      (base.negotiatedCaps.testBit bit &&
          (args.vhostFeatures.testBit bit && features.testBit bit) ||
        args.vhostExtFeatures.testBit bit && features.testBit bit) := by
    intro bit
    rw [featuresWord, own, ext, Nat.testBit_or, Nat.testBit_and,
      Nat.testBit_and, Nat.testBit_and]
  constructor
  · intro bit told
    rw [bits] at told
    revert told
    cases features.testBit bit <;> simp
  · intro bit plain
    rw [bits, plain, Bool.false_and, Bool.or_false]

/-! Whole runs. -/

theorem vhostDevStart_features (call : VhostCall) (vdev : VhostDev)
    (base : VirtioBase) :
    (vhostDevStart call vdev base).1.vhostFeatures = vdev.vhostFeatures ∧
      (vhostDevStart call vdev base).1.vhostExtFeatures =
        vdev.vhostExtFeatures := by
  unfold vhostDevStart
  split
  · exact ⟨rfl, rfl⟩
  · dsimp only
    split
    · exact ⟨rfl, rfl⟩
    · split <;> exact ⟨rfl, rfl⟩

/-- What `vhost_dev_init` has set up and no later step changes. -/
structure VhostState.Kept (state : VhostState) (base : VirtioBase)
    (args : VhostArgs) (features : Nat) : Prop where
  offers : ∀ bit, Offered state.base bit ↔ Offered base bit ∧
    args.vhostFeatures.testBit bit = features.testBit bit
  own : state.vdev.vhostFeatures = args.vhostFeatures &&& features
  ext : state.vdev.vhostExtFeatures = args.vhostExtFeatures &&& features
  programmed : ∀ word negotiated, (word, negotiated) ∈ state.programmed →
    Programs args features negotiated word

theorem VhostState.Kept.record {state : VhostState}
    {ran : VhostDev × List VhostRequest}
    (kept : state.Kept base args features)
    (own : ran.1.vhostFeatures = state.vdev.vhostFeatures)
    (ext : ran.1.vhostExtFeatures = state.vdev.vhostExtFeatures)
    (words : ∀ request word, request ∈ ran.2 → request.word = some word →
      word = featuresWord state.vdev state.base) :
    (state.record ran).Kept base args features where
  offers := kept.offers
  own := own.trans kept.own
  ext := ext.trans kept.ext
  programmed := by
    intro word negotiated member
    rcases List.mem_append.mp member with earlier | now
    · exact kept.programmed word negotiated earlier
    · obtain ⟨told, listed, same⟩ := List.mem_map.mp now
      cases same
      obtain ⟨request, made, tells⟩ := List.mem_filterMap.mp listed
      rw [words request word made tells]
      exact featuresWord_programs kept.own kept.ext

theorem VhostState.Kept.step {state : VhostState}
    (kept : state.Kept base args features) (label : VhostLabel) :
    (vhostAct state label).Kept base args features := by
  cases label with
  | write offset size value =>
      have same :=
        commonCfgWriteBase_deviceCaps state.base offset size value
      refine ⟨fun bit => ?_, kept.own, kept.ext, kept.programmed⟩
      rw [← kept.offers, offered_iff, offered_iff]
      show bit < 64 ∧ (commonCfgWriteBase state.base offset size
        value).deviceCaps.testBit bit = true ↔ _
      rw [same]
  | start call =>
      have same := vhostDevStart_features call state.vdev state.base
      exact kept.record same.1 same.2
        fun request word made tells => vhostDevStart_word made tells
  | stop call =>
      refine kept.record rfl rfl ?_
      intro request word made tells
      rw [vhostDevStop_wordless call state.vdev request made] at tells
      cases tells

theorem vhostSystem_kept {state : VhostState}
    (reached : (vhostSystem host base args).Reached state) :
    ∃ features, host.features = some features ∧
      state.Kept base args features := by
  apply TransitionSystem.Reached.invariant (fun state => ∃ features,
    host.features = some features ∧ state.Kept base args features) _ _ reached
  · rintro start ⟨unasked, vdev, initialized⟩
    obtain ⟨features, known, own, ext, offers⟩ :=
      vhostDevInit_offers initialized
    refine ⟨features, known, offers, own, ext, ?_⟩
    intro word negotiated member
    rw [unasked] at member
    cases member
  · rintro before label after ⟨features, known, kept⟩ rfl
    exact ⟨features, known, kept.step label⟩

theorem vhostSystem_agrees {state : VhostState}
    (reached : (vhostSystem host base args).Reached state) :
    ∃ features, host.features = some features ∧
      FeaturesAgree base args features state := by
  obtain ⟨features, known, kept⟩ := vhostSystem_kept reached
  refine ⟨features, known, ?_, ?_, kept.programmed⟩
  · intro bit union offered
    have same := ((kept.offers bit).mp offered).2
    rw [Nat.testBit_or, same, Bool.or_self] at union
    exact ⟨same.trans union, union⟩
  · intro bit union
    rw [Nat.testBit_or, Bool.or_eq_false_iff] at union
    rw [kept.offers, union.1, union.2]
    exact and_iff_left rfl

/-- A kernel that knows the bits 1 and 27, for a device with one queue. -/
def oneBitHost : VhostHost where
  ready := true
  nvq := 1
  features := some (1 <<< 1 ||| 1 <<< 27)
  eventfds := fun _ => (5, 6)

def oneBitArgs : VhostArgs where
  fd := 4
  vqIdx := 0
  vhostFeatures := 1 <<< 0 ||| 1 <<< 1
  vhostExtFeatures := 1 <<< 27
  busyloopTimeout := 0

def steadyCall : VhostCall where
  msixEnabled := true
  allocates := true
  nvq := 1
  succeeds := fun _ => true

/-- The guest accepts all it is offered, and the kernel is told the bit both
know and the one for the kernel alone. -/
theorem vhostSystem_agrees_oneBit :
    ∃ state, (vhostSystem oneBitHost ⟨0, 0x100000023, 0, 0, 0, 0, 0, 0, 0⟩
        oneBitArgs).Reached state ∧
      state.programmed = [(1 <<< 1 ||| 1 <<< 27, 0x22)] ∧
      ∃ features, oneBitHost.features = some features ∧
        FeaturesAgree ⟨0, 0x100000023, 0, 0, 0, 0, 0, 0, 0⟩ oneBitArgs
          features state := by
  obtain ⟨state, reached, checked⟩ :=
    @TransitionSystem.exists_reached _ _
      (vhostSystem oneBitHost ⟨0, 0x100000023, 0, 0, 0, 0, 0, 0, 0⟩
        oneBitArgs)
      (fun state label => some (vhostAct state label))
      ⟨⟨0, 0x100000022, 0, 0, 0, 0, 0, 0, 0⟩,
        ⟨true, [⟨5, 6⟩], 4, 0, 1 <<< 1, 1 <<< 27, 0, false⟩, []⟩
      [.write 12 4 0xffffffff, .write 20 1 4, .start steadyCall]
      (fun state =>
        decide (state.programmed = [(1 <<< 1 ||| 1 <<< 27, 0x22)]))
      (fun acted => Option.some.inj acted)
      ⟨rfl, ⟨false, [⟨0, 0⟩], 0, 0, 0, 0, 0, false⟩, by decide +kernel⟩
      (by decide +kernel)
  exact ⟨state, reached, of_decide_eq_true checked,
    vhostSystem_agrees reached⟩

end Vhost

end VirtioGpu.Virtio
