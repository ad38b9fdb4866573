import VirtioGpu.Backend.Call

namespace VirtioGpu.Backend

open Foundation
open Virtio
open Gpu

/-! The length a control chain is released with.  `cmd.iolen` lives as long as
the call, so an exit that does not set it reports the length of the chain
before. -/

/-- The first chain starts with length zero, every other one with the length
of the chain before it. -/
structure Linked (services : List Service) : Prop where
  first : ∀ service, services[0]? = some service → service.cmd.iolen = 0
  next : ∀ index earlier later, services[index]? = some earlier →
    services[index + 1]? = some later →
      later.cmd.iolen = earlier.reply.iolen

def lastIolen (services : List Service) : Nat :=
  (services.getLast?.map fun service => service.reply.iolen).getD 0

theorem Linked.nil : Linked [] := by
  constructor
  · intro service found
    cases found
  · intro index earlier later found
    cases found

theorem lastIolen_snoc (services : List Service) (service : Service) :
    lastIolen (services ++ [service]) = service.reply.iolen := by
  simp [lastIolen]

theorem lastIolen_of_last {services : List Service} {index : Nat}
    {service : Service} (found : services[index]? = some service)
    (last : index + 1 = services.length) :
    lastIolen services = service.reply.iolen := by
  have position : services.length - 1 = index := by omega
  simp [lastIolen, List.getLast?_eq_getElem?, position, found]

theorem Linked.snoc {services : List Service} {service : Service}
    (linked : Linked services)
    (carried : service.cmd.iolen = lastIolen services) :
    Linked (services ++ [service]) := by
  constructor
  · intro head found
    cases services with
    | nil =>
        cases found
        rw [carried]
        rfl
    | cons first rest => exact linked.first head found
  · intro index earlier later earlierFound laterFound
    rcases Nat.lt_trichotomy (index + 1) services.length with
      inside | last | beyond
    · rw [List.getElem?_append_left (by omega)] at earlierFound
      rw [List.getElem?_append_left inside] at laterFound
      exact linked.next index earlier later earlierFound laterFound
    · rw [List.getElem?_append_left (by omega)] at earlierFound
      rw [List.getElem?_append_right (by omega), ← last, Nat.sub_self]
        at laterFound
      cases laterFound
      rw [carried, lastIolen_of_last earlierFound last]
    · rw [List.getElem?_eq_none (by simp; omega)] at laterFound
      cases laterFound

theorem Linked.of_append {earlier later : List Service}
    (linked : Linked (earlier ++ later)) : Linked earlier := by
  have found : ∀ {index : Nat} {service : Service},
      earlier[index]? = some service →
        (earlier ++ later)[index]? = some service := by
    intro index service found
    have bound := (List.getElem?_eq_some_iff.mp found).1
    rw [List.getElem?_append_left bound, found]
  exact ⟨fun service first => linked.first service (found first),
    fun index before after first second =>
      linked.next index before after (found first) (found second)⟩

/-! Lengths along a call. -/

namespace Traced

def reported (state : Traced) : List Nat := state.releases.map Prod.snd

/-- The released chains of a call with the lengths they were released with. -/
def reports (state : Traced) : List (Service × Nat) :=
  state.services.zip state.reported

/-- Every chain was released with the size of its own response. -/
def ReportsExact (state : Traced) : Prop :=
  ∀ service length, (service, length) ∈ state.reports →
    length = service.reply.resp.size

end Traced

/-- The call so far: `done` has been released, `pending` is the chain that is
served and not released yet. -/
structure LengthInvariant (state : Traced) (done pending : List Service) :
    Prop where
  faithful : state.Faithful
  services : state.services = done ++ pending
  reported : state.reported = done.map fun service => service.reply.iolen
  linked : Linked (done ++ pending)
  task : match state.machine.task with
    | .idle | .ending _ => pending = []
    | .testing queue locals | .fetching queue locals
    | .serving queue locals _ _ =>
        queue = .control ∧ pending = [] ∧ locals.iolen = lastIolen done
    | .releasing queue locals _ =>
        queue = .control ∧ ∃ service, pending = [service] ∧
          locals.iolen = service.reply.iolen

theorem LengthInvariant.kept_by_section {env : Env} {before after : Traced}
    {events : List Event} {done pending : List Service}
    (invariant : LengthInvariant before done pending)
    (ran : Section env before.machine after.machine events)
    (extended : after.events = before.events ++ events) :
    ∃ done pending, LengthInvariant after done pending := by
  obtain ⟨machine, history⟩ := after
  have faithful := ran.faithful_append invariant.faithful extended
  have services := Traced.services_of_append extended
  have releases := Traced.releases_of_append extended
  have reported : Traced.reported ⟨machine, history⟩ = before.reported ++
      (events.filterMap Event.release?).map Prod.snd := by
    simp only [Traced.reported, releases, List.map_append]
  rw [invariant.services] at services
  rw [invariant.reported] at reported
  have task := invariant.task
  dsimp only at ran
  cases ran with
  | idle idle =>
      rw [idle] at task
      simp only [List.filterMap_nil, List.map_nil, List.append_nil]
        at services reported
      refine ⟨done, pending, faithful, services, reported,
        invariant.linked, ?_⟩
      dsimp only
      rw [idle]
      exact task
  | more testing ready =>
      rw [testing] at task
      simp only [List.filterMap_nil, List.map_nil, List.append_nil]
        at services reported
      exact ⟨done, pending, faithful, services, reported,
        invariant.linked, task⟩
  | done testing drained =>
      rw [testing] at task
      simp only [List.filterMap_nil, List.map_nil, List.append_nil]
        at services reported
      exact ⟨done, pending, faithful, services, reported,
        invariant.linked, task.2.1⟩
  | rejected fetching bad =>
      rw [fetching] at task
      simp only [List.filterMap_cons, List.filterMap_nil, Event.service?,
        Event.release?, List.map_nil, List.append_nil] at services reported
      exact ⟨done, pending, faithful, services, reported,
        invariant.linked, task.2.1⟩
  | accepted fetching good =>
      rw [fetching] at task
      simp only [List.filterMap_cons, List.filterMap_nil, Event.service?,
        Event.release?, List.map_nil, List.append_nil] at services reported
      exact ⟨done, pending, faithful, services, reported,
        invariant.linked, task⟩
  | @served locals idx n service memory serving serves written =>
      rw [serving] at task
      obtain ⟨_, _, carried⟩ := task
      subst pending
      simp only [List.filterMap_cons, List.filterMap_nil, Event.service?,
        Event.release?, List.map_nil, List.append_nil] at services reported
      have linked := invariant.linked
      rw [List.append_nil] at linked
      exact ⟨done, [service], faithful, services, reported,
        linked.snoc (serves.iolen.trans carried), rfl, service, rfl, rfl⟩
  | servedCursor serving handled =>
      rw [serving] at task
      cases task.1
  | @released queue locals idx releasing =>
      rw [releasing] at task
      obtain ⟨control, service, only, length⟩ := task
      subst pending
      simp only [List.filterMap_cons, List.filterMap_nil, Event.service?,
        Event.release?, List.map_cons, List.map_nil, List.append_nil]
        at services reported
      refine ⟨done ++ [service], [], faithful, ?_, ?_, ?_, ?_⟩
      · rw [services, List.append_nil]
      · rw [reported, List.map_append, length]
        rfl
      · rw [List.append_nil]
        exact invariant.linked
      · refine ⟨control, rfl, ?_⟩
        rw [lastIolen_snoc, length]
  | ended ending =>
      rw [ending] at task
      simp only [List.filterMap_cons, List.filterMap_nil, Event.service?,
        Event.release?, List.map_nil, List.append_nil] at services reported
      exact ⟨done, pending, faithful, services, reported,
        invariant.linked, task⟩

theorem call_lengthInvariant {state : Traced}
    (reached : (call .control).Reached state) :
    ∃ done pending, LengthInvariant state done pending := by
  refine reached.invariant
    (fun state => ∃ done pending, LengthInvariant state done pending) ?_ ?_
  · intro state starts
    obtain ⟨iov, flags, task, unfetched⟩ := call_initial_task starts
    refine ⟨[], [], ⟨by rw [task]; trivial, by simp [unfetched]⟩, ?_, ?_, .nil,
      ?_⟩
    · simp only [Traced.services, unfetched, List.filterMap_nil,
        List.append_nil]
    · simp only [Traced.reported, Traced.releases, unfetched,
        List.filterMap_nil, List.map_nil]
    · rw [task]
      exact ⟨rfl, rfl, rfl⟩
  · rintro before label after ⟨done, pending, invariant⟩ stepped
    rcases call_step_cases stepped with
      ⟨env, events, _, ran, extended⟩ | ⟨memory, _, rfl⟩
    · exact invariant.kept_by_section ran extended
    · exact ⟨done, pending, ⟨invariant.faithful.task,
        invariant.faithful.served⟩, invariant.services, invariant.reported,
        invariant.linked, invariant.task⟩

/-! Which exits report their own length. -/

def Service.KeepsIolen (service : Service) : Prop :=
  service.exit.setsIolen = false

/-- The two commands whose response is longer than a header. -/
def Service.LongAnswer (service : Service) : Prop :=
  CtrlCmd.ofCode service.cmd.hdr.type = some .getEdid ∨
    CtrlCmd.ofCode service.cmd.hdr.type = some .getDisplayInfo

theorem exitOf_size (gpu : GpuState) (cmd : Command) (memory : Memory)
    (address : Nat) :
    (exitOf gpu cmd memory address).size = CtrlHdr.size ↔
      ¬(CtrlCmd.ofCode cmd.hdr.type = some .getEdid ∨
        CtrlCmd.ofCode cmd.hdr.type = some .getDisplayInfo) := by
  unfold exitOf
  cases CtrlCmd.ofCode cmd.hdr.type with
  | none => simp [plainExit]
  | some command =>
      cases command with
      | getEdid => simp [edidExit, CtrlHdr.size]
      | getDisplayInfo => simp [displayInfoExit, CtrlHdr.size]
      | resourceCreateBlob =>
          cases gpu.isBlobSupported with
          | false => simp [plainExit]
          | true => simp [plainExit]
      | setScanoutBlob =>
          cases gpu.isBlobSupported with
          | false => simp [plainExit]
          | true => simp [setScanoutBlobExit, plainExit]
      | resourceCreate2d | resourceUnref | resourceDetachBacking =>
          simp [plainExit]
      | resourceAttachBacking => simp [attachBackingExit, plainExit]
      | setModifier => simp [setModifierExit, plainExit]
      | setScanout => simp [setScanoutExit, plainExit]
      | transferToHost2d | resourceFlush => simp [pixelsExit, plainExit]

/-- An exit that keeps the length answers with a header. -/
theorem Service.KeepsIolen.size {service : Service}
    (keeps : service.KeepsIolen) : service.exit.size = CtrlHdr.size := by
  refine (exitOf_size _ _ _ _).mpr ?_
  intro long
  unfold KeepsIolen Service.exit exitOf at keeps
  rcases long with edid | info
  · rw [edid] at keeps
    cases keeps
  · rw [info] at keeps
    cases keeps

/-- No chain on a keeping exit is the first of the call or comes directly
after a long answer. -/
structure LengthsKnown (services : List Service) : Prop where
  first : ∀ service, services[0]? = some service → ¬service.KeepsIolen
  next : ∀ index earlier later, services[index]? = some earlier →
    services[index + 1]? = some later → later.KeepsIolen →
      ¬earlier.LongAnswer

theorem Service.Valid.reply_iolen {service : Service} (valid : service.Valid)
    (keeps : service.KeepsIolen) :
    service.reply.iolen = service.cmd.iolen ∧
      service.reply.resp.size = CtrlHdr.size := by
  have follows := valid.follows
  refine ⟨?_, follows.size.trans keeps.size⟩
  rw [follows.iolen, show service.exit.setsIolen = false from keeps]
  rfl

theorem Service.Valid.reply_iolen_set {service : Service}
    (valid : service.Valid) (sets : ¬service.KeepsIolen) :
    service.reply.iolen = service.reply.resp.size := by
  have follows := valid.follows
  rw [follows.iolen, follows.size,
    show service.exit.setsIolen = true from eq_true_of_ne_false sets]
  rfl

theorem Service.Valid.size_iff {service : Service} (valid : service.Valid) :
    service.reply.resp.size = CtrlHdr.size ↔ ¬service.LongAnswer := by
  rw [valid.follows.size]
  exact exitOf_size _ _ _ _

theorem Linked.exact_iff {services : List Service} (linked : Linked services)
    (valid : ∀ service, service ∈ services → service.Valid) :
    (∀ service, service ∈ services →
      service.reply.iolen = service.reply.resp.size) ↔
      LengthsKnown services := by
  constructor
  · intro correct
    constructor
    · intro service found keeps
      have member := List.mem_of_getElem? found
      obtain ⟨kept, size⟩ := (valid service member).reply_iolen keeps
      have reported := correct service member
      rw [kept, linked.first service found, size] at reported
      cases reported
    · intro index earlier later earlierFound laterFound keeps
      have earlierMember := List.mem_of_getElem? earlierFound
      have laterMember := List.mem_of_getElem? laterFound
      obtain ⟨kept, size⟩ := (valid later laterMember).reply_iolen keeps
      have carried := linked.next index earlier later earlierFound laterFound
      apply (valid earlier earlierMember).size_iff.mp
      rw [← correct earlier earlierMember, ← carried, ← kept,
        correct later laterMember, size]
  · intro known
    have position : ∀ (index : Nat) (service : Service),
        services[index]? = some service →
        service.reply.iolen = service.reply.resp.size := by
      intro index
      induction index with
      | zero =>
          intro service found
          exact (valid service (List.mem_of_getElem? found)).reply_iolen_set
            (known.first service found)
      | succ index induction =>
          intro later laterFound
          have laterValid := valid later (List.mem_of_getElem? laterFound)
          cases Decidable.em (later.exit.setsIolen = false) with
          | inr sets => exact laterValid.reply_iolen_set sets
          | inl keeps =>
              have bound : index < services.length := by
                have inside := (List.getElem?_eq_some_iff.mp laterFound).1
                omega
              have earlierFound := List.getElem?_eq_getElem bound
              have earlierValid := valid services[index]
                (List.mem_of_getElem? earlierFound)
              obtain ⟨kept, size⟩ := laterValid.reply_iolen keeps
              rw [kept, linked.next index _ later earlierFound laterFound,
                induction _ earlierFound, size]
              exact earlierValid.size_iff.mpr
                (known.next index _ later earlierFound laterFound keeps)
    intro service member
    obtain ⟨index, found⟩ := List.mem_iff_getElem?.mp member
    exact position index service found

/-! The reports of a call. -/

theorem zip_map_append (first second : List α) (f : α → β) :
    (first ++ second).zip (first.map f) =
      first.map fun item => (item, f item) := by
  induction first with
  | nil => simp
  | cons head rest induction => simp [induction]

theorem LengthInvariant.reports {state : Traced} {done pending : List Service}
    (invariant : LengthInvariant state done pending) :
    state.reports = done.map fun service => (service, service.reply.iolen) := by
  rw [Traced.reports, invariant.services, invariant.reported, zip_map_append]

theorem LengthInvariant.valid {state : Traced} {done pending : List Service}
    (invariant : LengthInvariant state done pending) :
    ∀ service, service ∈ done → service.Valid := by
  intro service member
  have served : service ∈ state.services := by
    rw [invariant.services]
    exact List.mem_append_left pending member
  obtain ⟨event, recorded, same⟩ := List.mem_filterMap.mp served
  cases event with
  | served other =>
      cases same
      exact invariant.faithful.served service recorded
  | mapped _ | fetched _ | servedCursor _ _ _ _ | released _ _ _ | ended _ _ =>
      cases same

theorem LengthInvariant.reportsExact_iff {state : Traced}
    {done pending : List Service}
    (invariant : LengthInvariant state done pending) :
    state.ReportsExact ↔ LengthsKnown (state.reports.map Prod.fst) := by
  have released : state.reports.map Prod.fst = done := by
    rw [invariant.reports, List.map_map]
    exact List.map_id done
  rw [released, ← invariant.linked.of_append.exact_iff invariant.valid]
  unfold Traced.ReportsExact
  rw [invariant.reports]
  constructor
  · intro correct service member
    exact correct service _ (List.mem_map.mpr ⟨service, member, rfl⟩)
  · intro correct service length member
    obtain ⟨other, found, same⟩ := List.mem_map.mp member
    cases same
    exact correct service found

/-- Two chains with the same command on the same device, whatever came before
them in their calls. -/
structure Service.SameCommand (first second : Service) : Prop where
  gpu : first.gpu = second.gpu
  memory : first.memory = second.memory
  hdr : first.cmd.hdr = second.cmd.hdr
  iov : first.cmd.iov = second.cmd.iov
  iovcnt : first.cmd.iovcnt = second.cmd.iovcnt

theorem Service.SameCommand.exit {first second : Service}
    (same : first.SameCommand second) : first.exit = second.exit := by
  have rebuilt : first.cmd = ⟨second.cmd.hdr, second.cmd.iov,
      second.cmd.iovcnt, first.cmd.iolen⟩ := by
    rw [← same.hdr, ← same.iov, ← same.iovcnt]
  have address : first.address = second.address := by
    rw [Service.address, Service.address, Command.address, Command.address,
      same.iov]
  rw [Service.exit, Service.exit, same.gpu, same.memory, address, rebuilt]
  rfl

theorem LengthInvariant.size_of_report {state : Traced}
    {done pending : List Service}
    (invariant : LengthInvariant state done pending)
    (exactly : state.ReportsExact) {service : Service} {length : Nat}
    (member : (service, length) ∈ state.reports) :
    length = service.exit.size := by
  have recorded := member
  rw [invariant.reports] at recorded
  obtain ⟨other, found, same⟩ := List.mem_map.mp recorded
  cases same
  rw [exactly service _ member, (invariant.valid service found).follows.size]

/-- In every call, every chain is released with the size of its own response
exactly when no chain on a keeping exit is first or follows a long answer; and
in such calls the length is the same after any earlier commands. -/
theorem call_reportsExact_iff {state : Traced}
    (reached : (call .control).Reached state) :
    (state.ReportsExact ↔ LengthsKnown (state.reports.map Prod.fst)) ∧
      ∀ other, (call .control).Reached other →
        LengthsKnown (state.reports.map Prod.fst) →
        LengthsKnown (other.reports.map Prod.fst) →
        ∀ first firstLength second secondLength,
          (first, firstLength) ∈ state.reports →
          (second, secondLength) ∈ other.reports →
          first.SameCommand second → firstLength = secondLength := by
  obtain ⟨done, pending, invariant⟩ := call_lengthInvariant reached
  refine ⟨invariant.reportsExact_iff, ?_⟩
  intro other otherReached known otherKnown
  obtain ⟨_, _, otherInvariant⟩ := call_lengthInvariant otherReached
  intro first firstLength second secondLength firstMember secondMember same
  rw [invariant.size_of_report (invariant.reportsExact_iff.mpr known)
      firstMember,
    otherInvariant.size_of_report
      (otherInvariant.reportsExact_iff.mpr otherKnown) secondMember,
    same.exit]

/-- A single command of an unknown type reports its 24 bytes. -/
theorem unknown_command_reportsExact :
    ∃ state service, (call .control).Reached state ∧
      state.reports = [(service, 24)] ∧ state.ReportsExact := by
  obtain ⟨state, reached, checked⟩ :=
    @exists_called (fun _ _ => True) _ _ _ _ _ _
      (oneCommand_initial ⟨0, 0, 0, 0, 0⟩ 24) (fun _ => trivial)
      (show ((runLabels ⟨initialMachine ⟨4096, 0⟩ false 1
            (oneCommand ⟨0, 0, 0, 0, 0⟩ 24), []⟩
            (setUpQueue .control 2 64 128 160)).bind
          (runCall (Env.steady 0) .control 4)).any (fun state =>
            state.reports.map (fun report =>
              (report.1.exit.setsIolen, report.2)) == [(true, 24)]) = true
        by decide +kernel)
  obtain ⟨⟨service, length⟩, reports, sole⟩ :=
    List.map_eq_singleton_iff.mp (beq_iff_eq.mp checked)
  have sets : service.exit.setsIolen = true := congrArg Prod.fst sole
  have full : length = 24 := congrArg Prod.snd sole
  subst full
  refine ⟨state, service, reached, reports,
    (call_reportsExact_iff reached).1.mpr ?_⟩
  rw [reports]
  constructor
  · intro first found keeps
    cases found
    rw [show service.exit.setsIolen = false from keeps] at sets
    cases sets
  · intro index earlier later _ found
    cases found

/-- A single flush of an unknown resource reports no bytes and writes 24. -/
theorem unknown_flush_reports_nothing :
    ∃ state, (call .control).Reached state ∧ ¬state.ReportsExact := by
  obtain ⟨state, reached, checked⟩ :=
    @exists_called (fun _ _ => True) _ _ _ _ _ _
      (oneCommand_initial ⟨0x104, 0, 0, 0, 0⟩ 48) (fun _ => trivial)
      (show ((runLabels ⟨initialMachine ⟨4096, 0⟩ false 1
            (oneCommand ⟨0x104, 0, 0, 0, 0⟩ 48), []⟩
            (setUpQueue .control 2 64 128 160)).bind
          (runCall (Env.steady 0) .control 4)).any (fun state =>
            state.reports.any fun report =>
              decide (report.2 ≠ report.1.reply.resp.size)) = true
        by decide +kernel)
  obtain ⟨⟨service, length⟩, member, differs⟩ := List.any_eq_true.mp checked
  refine ⟨state, reached, fun exactly => ?_⟩
  exact of_decide_eq_true differs (exactly service length member)

end VirtioGpu.Backend
