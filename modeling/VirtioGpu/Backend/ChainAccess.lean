import VirtioGpu.Backend.Service

namespace VirtioGpu.Backend

open Foundation
open Virtio
open Gpu

/-! Accesses of a control command to its own chain. -/

/-- The read stays in a descriptor of the chain. -/
def Command.Reads (cmd : Command) (access : Access) : Prop :=
  access.slot < cmd.iovcnt ∧ access.len ≤ (cmd.iov access.slot).len

/-- A write of `size` bytes to `slot` stays in a descriptor of the chain that
the driver made writable. -/
def Command.Writes (cmd : Command) (flags : Nat → Nat) (slot size : Nat) :
    Prop :=
  slot < cmd.iovcnt ∧ size ≤ (cmd.iov slot).len ∧
    flags slot &&& vringDescFWrite ≠ 0

def Service.AccessesInside (service : Service) : Prop :=
  (∀ access, access ∈ requestReads service.reply →
    Command.Reads service.cmd access) ∧
    Command.Writes service.cmd service.flags service.reply.slot
      service.reply.resp.size

/-- The chain has room for its command: the first descriptor for the request,
and the descriptor its exit answers to for the response. -/
def Service.Fits (service : Service) : Prop :=
  service.exit.request ≤ (service.cmd.iov 0).len ∧
    Command.Writes service.cmd service.flags service.exit.slot
      service.exit.size

instance (service : Service) : Decidable service.Fits :=
  inferInstanceAs (Decidable (_ ∧ _ ∧ _ ∧ _))

theorem middleReads_inside {cmd : Command} {access : Access}
    (middle : access ∈ cmd.middleReads) : Command.Reads cmd access := by
  unfold Command.middleReads Command.middle at middle
  rw [List.map_map] at middle
  obtain ⟨index, ranged, rfl⟩ := List.mem_map.mp middle
  have bound := List.mem_range.mp ranged
  refine ⟨?_, Nat.le_refl _⟩
  show index + 1 < cmd.iovcnt
  omega

theorem Service.Valid.accessesInside_iff {service : Service}
    (valid : service.Valid) : service.AccessesInside ↔ service.Fits := by
  have follows := valid.follows
  unfold Service.AccessesInside Service.Fits
  rw [follows.slot, follows.size]
  constructor
  · rintro ⟨reads, writes⟩
    exact ⟨(reads _ follows.request).2, writes⟩
  · rintro ⟨request, writes⟩
    refine ⟨?_, writes⟩
    intro access member
    rcases follows.bounded access member with ⟨first, short⟩ | middle
    · unfold Command.Reads
      rw [first]
      exact ⟨valid.nonempty, Nat.le_trans short request⟩
    · exact middleReads_inside middle

/-- In every run, a served control command stays inside its own chain exactly
when the chain has room for it. -/
theorem served_accessesInside_iff {state : Traced} {service : Service}
    (reached : backend.Reached state)
    (served : Event.served service ∈ state.events) :
    service.AccessesInside ↔ service.Fits :=
  ((reached_faithful reached).served service served).accessesInside_iff

/-- A command of an unknown type, answered in a header, has room. -/
theorem unknown_command_inside :
    ∃ state service, backend.Reached state ∧
      Event.served service ∈ state.events ∧ service.AccessesInside := by
  obtain ⟨state, service, reached, served, checked⟩ :=
    exists_served (oneCommand_initial ⟨0, 0, 0, 0, 0⟩ 24)
      (show (serveOne (oneCommand ⟨0, 0, 0, 0, 0⟩ 24)).any (fun state =>
          state.events.any (servesWith fun service =>
            decide service.Fits)) = true
        by decide +kernel)
  exact ⟨state, service, reached, served,
    (served_accessesInside_iff reached served).mpr (of_decide_eq_true checked)⟩

/-- `GET_DISPLAY_INFO` writes 408 bytes into a descriptor of 24. -/
theorem displayInfo_overruns :
    ∃ state service, backend.Reached state ∧
      Event.served service ∈ state.events ∧ ¬service.AccessesInside := by
  obtain ⟨state, service, reached, served, checked⟩ :=
    exists_served (oneCommand_initial ⟨0x100, 0, 0, 0, 0⟩ 24)
      (show (serveOne (oneCommand ⟨0x100, 0, 0, 0, 0⟩ 24)).any (fun state =>
          state.events.any (servesWith fun service =>
            decide ((service.cmd.iov service.reply.slot).len <
              service.reply.resp.size))) = true
        by decide +kernel)
  refine ⟨state, service, reached, served, ?_⟩
  rintro ⟨_, _, long, _⟩
  exact absurd (of_decide_eq_true checked) (Nat.not_lt.mpr long)

end VirtioGpu.Backend
