import VirtioGpu.Backend.Service

namespace VirtioGpu.Backend

open Foundation
open Virtio
open Gpu

/-! Fences of control commands. -/

/-- The response has the fence flag of its request, and with it its fence. -/
def EchoesFence (request response : CtrlHdr) : Prop :=
  (request.Fenced → response.Fenced ∧ response.fenceId = request.fenceId) ∧
    (¬request.Fenced → ¬response.Fenced)

instance (request response : CtrlHdr) :
    Decidable (EchoesFence request response) :=
  inferInstanceAs (Decidable (_ ∧ _))

theorem fencedHdr_echoes (request : CtrlHdr) (type : RespType) :
    EchoesFence request ((fencedHdr request).withType type) := by
  unfold fencedHdr virtioGpuUpdateRespFence
  cases Decidable.em (request.flags &&& virtioGpuFlagFence ≠ 0) with
  | inl fenced =>
      rw [if_pos fenced]
      refine ⟨fun _ => ⟨?_, rfl⟩, fun unfenced => absurd fenced unfenced⟩
      simp [CtrlHdr.Fenced, CtrlHdr.withType, CtrlHdr.zero,
        virtioGpuFlagFence]
  | inr unfenced =>
      rw [if_neg unfenced]
      refine ⟨fun fenced => absurd fenced unfenced, fun _ => ?_⟩
      simp [CtrlHdr.Fenced, CtrlHdr.withType, CtrlHdr.zero]

/-- A response whose fence was never set echoes only requests without one. -/
theorem zeroHdr_echoes_iff (request : CtrlHdr) (type : RespType) :
    EchoesFence request (CtrlHdr.zero.withType type) ↔ ¬request.Fenced := by
  have clear : ¬(CtrlHdr.zero.withType type).Fenced := by
    simp [CtrlHdr.Fenced, CtrlHdr.withType, CtrlHdr.zero]
  constructor
  · intro echoes fenced
    exact clear (echoes.1 fenced).1
  · intro unfenced
    exact ⟨fun fenced => absurd fenced unfenced, fun _ => clear⟩

/-- The commands answered by a handler that never looks at the fence, or on
an exit before it does. -/
def ForgetsFence (cmd : Command) : Prop :=
  CtrlCmd.ofCode cmd.hdr.type = some .setModifier ∨
    CtrlCmd.ofCode cmd.hdr.type = some .resourceAttachBacking ∧ cmd.iovcnt < 2

theorem exitOf_echoesFence (gpu : GpuState) (cmd : Command) (memory : Memory)
    (address : Nat) :
    (exitOf gpu cmd memory address).echoesFence = true ↔
      ¬ForgetsFence cmd := by
  unfold exitOf ForgetsFence
  cases type : CtrlCmd.ofCode cmd.hdr.type with
  | none => simp [plainExit]
  | some command =>
      cases command with
      | resourceAttachBacking =>
          simp only [attachBackingExit, decide_eq_true_eq, Option.some.injEq,
            reduceCtorEq, false_or, true_and, Nat.not_lt]
      | setModifier => simp [setModifierExit]
      | resourceCreateBlob =>
          cases gpu.isBlobSupported with
          | false => simp [plainExit]
          | true => simp [plainExit]
      | setScanoutBlob =>
          cases gpu.isBlobSupported with
          | false => simp [plainExit]
          | true => simp [setScanoutBlobExit, plainExit]
      | getEdid => simp [edidExit]
      | getDisplayInfo => simp [displayInfoExit]
      | resourceCreate2d | resourceUnref | resourceDetachBacking =>
          simp [plainExit]
      | setScanout => simp [setScanoutExit, plainExit]
      | transferToHost2d | resourceFlush => simp [pixelsExit, plainExit]

/-- In every run, a served command has its fence echoed exactly when it is
not both fenced and one of those that forget it. -/
theorem served_echoesFence_iff {state : Traced} {service : Service}
    (reached : backend.Reached state)
    (served : Event.served service ∈ state.events) :
    EchoesFence service.cmd.hdr service.reply.resp.hdr ↔
      ¬(service.cmd.hdr.Fenced ∧ ForgetsFence service.cmd) := by
  have valid := (reached_faithful reached).served service served
  obtain ⟨type, header⟩ := valid.follows.header
  have forgets := exitOf_echoesFence service.gpu service.cmd service.memory
    service.address
  rw [header]
  cases echoes : service.exit.echoesFence with
  | true =>
      have keeps : ¬ForgetsFence service.cmd := forgets.mp echoes
      exact ⟨fun _ both => keeps both.2,
        fun _ => fencedHdr_echoes service.cmd.hdr type⟩
  | false =>
      have loses : ForgetsFence service.cmd := by
        by_contra keeps
        have kept : service.exit.echoesFence = true := forgets.mpr keeps
        rw [echoes] at kept
        cases kept
      refine (zeroHdr_echoes_iff service.cmd.hdr type).trans ?_
      exact ⟨fun unfenced both => unfenced both.1,
        fun notBoth fenced => notBoth ⟨fenced, loses⟩⟩

/-- A fenced command of an unknown type gets its fence back. -/
theorem unknown_command_echoesFence :
    ∃ state service, backend.Reached state ∧
      Event.served service ∈ state.events ∧ service.cmd.hdr.Fenced ∧
      EchoesFence service.cmd.hdr service.reply.resp.hdr := by
  obtain ⟨state, service, reached, served, checked⟩ :=
    exists_served (oneCommand_initial ⟨0, 1, 7, 0, 0⟩ 24)
      (show (serveOne (oneCommand ⟨0, 1, 7, 0, 0⟩ 24)).any (fun state =>
          state.events.any (servesWith fun service =>
            decide (service.cmd.hdr.type = 0 ∧ service.cmd.hdr.Fenced))) = true
        by decide +kernel)
  obtain ⟨unknown, fenced⟩ := of_decide_eq_true checked
  have keeps : ¬ForgetsFence service.cmd := by
    rw [ForgetsFence, unknown, show CtrlCmd.ofCode 0 = none by decide]
    simp
  exact ⟨state, service, reached, served, fenced,
    (served_echoesFence_iff reached served).mpr fun both => keeps both.2⟩

/-- A fenced `SET_MODIFIER` with room for its response does not. -/
theorem setModifier_loses_fence :
    ∃ state service, backend.Reached state ∧
      Event.served service ∈ state.events ∧
      ¬EchoesFence service.cmd.hdr service.reply.resp.hdr := by
  obtain ⟨state, service, reached, served, checked⟩ :=
    exists_served (oneCommand_initial ⟨0x10e, 1, 7, 0, 0⟩ 40)
      (show (serveOne (oneCommand ⟨0x10e, 1, 7, 0, 0⟩ 40)).any (fun state =>
          state.events.any (servesWith fun service =>
            decide (¬EchoesFence service.cmd.hdr service.reply.resp.hdr))) =
          true
        by decide +kernel)
  exact ⟨state, service, reached, served, of_decide_eq_true checked⟩

end VirtioGpu.Backend
