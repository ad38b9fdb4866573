import VirtioGpu.Display.Told

namespace VirtioGpu.Display

open Foundation
open Vdpy
open Client

/-! What each client has heard of what was said. -/

def sets : Option Announcement → Prop
  | some (.modifier _) => True
  | some (.surface _) | some .update | none => False

/-- Modifiers, and then what was said from the time that the client came, up
to its end while the client is there; the scenes are those of that stretch. -/
def Follows (joined : Nat) (said heard : List Announcement)
    (present : Prop) : Prop :=
  ∃ (replay : List Nat) (skipped during later : List Announcement),
    skipped.length = joined ∧
      said = skipped ++ (during ++ later) ∧
      heard = replay.map .modifier ++ during ∧
      shots 0 heard = shots (modifierAfter 0 skipped) during ∧
      (present → later = [])

/-- What is sent at the start of a connection is the modifier of that time; a
modifier that is about to be announced the client may know already. -/
structure Heard (clients : Clients) (said : List Announcement)
    (connection joined : Nat) (sending : Option (Message .client))
    (heard : List Announcement) : Prop where
  follows : Follows joined said heard (clients.clientSock = some connection)
  current : clients.clientSock = some connection →
    clients.server ≠ .testModifier → clients.server.replaying = false →
      sets (unsaid clients.display) ∨
        modifierAfter 0 heard = modifierAfter 0 said
  unheard : clients.accepted ≤ connection ∨
    clients.server.pending = some connection ∨
    clients.clientSock = some connection ∧
      (clients.server = .testModifier ∨ clients.server = .replayHeader) →
    heard = []
  foretold : clients.clientSock = some connection →
    clients.server = .replayBody →
      ∃ value, heard = [.modifier value] ∧
        sending = some (structSurface.message (.modifier value))

/-- What goes over one connection of all that is sent. -/
def sentOn (clients : Clients) (connection : Nat)
    (transmission : Option Transmission) : Option Transmission :=
  if clients.clientSock = some connection then transmission else none

section Carries

variable {clients : Clients} {connection : Nat}
  {transmission : Option Transmission} {heard grown : List Announcement}
  {sending later : Option (Message .client)}

theorem Carries.unsent
    (carries : Carries (sentOn clients connection none) heard sending grown
      later) : grown = heard ∧ later = sending := by
  rw [sentOn, ite_self] at carries
  cases carries with
  | quiet => exact ⟨rfl, rfl⟩

/-- Nothing goes over a connection that is not the client's. -/
theorem Carries.elsewhere (away : clients.clientSock ≠ some connection)
    (carries : Carries (sentOn clients connection transmission) heard sending
      grown later) : grown = heard ∧ later = sending := by
  rw [sentOn, if_neg away] at carries
  cases carries with
  | quiet => exact ⟨rfl, rfl⟩

end Carries

section Follows

variable {joined : Nat} {said heard : List Announcement}
  {present later : Prop}

theorem Follows.mono (follows : Follows joined said heard present)
    (weaker : later → present) : Follows joined said heard later := by
  obtain ⟨replay, skipped, during, rest, size, split, same, scenes, last⟩ :=
    follows
  exact ⟨replay, skipped, during, rest, size, split, same, scenes,
    fun holds => last (weaker holds)⟩

/-- A client that is not there misses what is said. -/
theorem Follows.miss (follows : Follows joined said heard present)
    (more : List Announcement) (absent : ¬later) :
    Follows joined (said ++ more) heard later := by
  obtain ⟨replay, skipped, during, rest, size, split, same, scenes, _⟩ :=
    follows
  refine ⟨replay, skipped, during, rest ++ more, size, ?_, same, scenes,
    fun holds => absurd holds absent⟩
  rw [split, List.append_assoc, List.append_assoc]

/-- A client that comes has missed everything, and modifiers show nothing. -/
theorem follows_modifiers (replay : List Nat)
    (silent : shots 0 (replay.map Announcement.modifier) = []) :
    Follows said.length said (replay.map .modifier) present :=
  ⟨replay, said, [], [], rfl, by simp, by simp, silent, fun _ => rfl⟩

/-- A client that has heard nothing has just come. -/
theorem Follows.joined_eq (follows : Follows joined said [] present)
    (holds : present) : joined = said.length := by
  obtain ⟨replay, skipped, during, rest, size, split, same, scenes, last⟩ :=
    follows
  obtain ⟨_, rfl⟩ := List.append_eq_nil_iff.mp same.symm
  rw [last holds, List.append_nil, List.append_nil] at split
  rw [split, size]

/-- What is said to a client that knows the modifier. -/
theorem Follows.hear (follows : Follows joined said heard present)
    (holds : present) {announcement : Announcement}
    (known : sets (some announcement) ∨
      modifierAfter 0 heard = modifierAfter 0 said) :
    Follows joined (said ++ [announcement]) (heard ++ [announcement]) later ∧
      modifierAfter 0 (heard ++ [announcement]) =
        modifierAfter 0 (said ++ [announcement]) := by
  obtain ⟨replay, skipped, during, rest, size, split, same, scenes, last⟩ :=
    follows
  cases last holds
  rw [List.append_nil] at split
  have alike : shots (modifierAfter 0 heard) [announcement] =
      shots (modifierAfter 0 said) [announcement] ∧
      modifierAfter (modifierAfter 0 heard) [announcement] =
        modifierAfter (modifierAfter 0 said) [announcement] := by
    rcases known with setting | same
    · cases announcement with
      | modifier value => exact ⟨rfl, rfl⟩
      | surface surf => exact setting.elim
      | update => exact setting.elim
    · rw [same]
      exact ⟨rfl, rfl⟩
  constructor
  · refine ⟨replay, skipped, during ++ [announcement], [], size, ?_, ?_, ?_,
      fun _ => rfl⟩
    · rw [split, List.append_nil, List.append_assoc]
    · rw [same, List.append_assoc]
    · rw [shots_append, shots_append, scenes, alike.1, split,
        modifierAfter_append]
  · rw [modifierAfter_append, modifierAfter_append]
    exact alike.2

end Follows

namespace Heard

variable {clients after : Clients} {said heard grown : List Announcement}
  {connection joined : Nat} {sending later : Option (Message .client)}

/-- A call that the display thread takes up. -/
theorem kept_by_call {announcement : Option Announcement}
    (holds : Heard clients said connection joined sending heard)
    (silent : unsaid clients.display = none)
    (presents : Presents clients after announcement) :
    Heard after said connection joined sending heard where
  follows := by
    rw [presents.clientSock]
    exact holds.follows
  current := by
    intro mine untested unreplayed
    rw [presents.clientSock] at mine
    rw [presents.server] at untested unreplayed
    rcases holds.current mine untested unreplayed with setting | same
    · rw [silent] at setting
      exact setting.elim
    · exact .inr same
  unheard := by
    rw [presents.accepted, presents.server, presents.clientSock]
    exact holds.unheard
  foretold := by
    rw [presents.server, presents.clientSock]
    exact holds.foretold

theorem kept_by_displayStep
    (holds : Heard clients said connection joined sending heard)
    (safe : Safe clients) (frame : DisplayFrame clients after)
    (carries : Carries
      (sentOn clients connection (displayTransmits clients.display))
      heard sending grown later) :
    Heard after
      (said ++ (begun (displayTransmits clients.display)).toList)
      connection joined later grown := by
  have server : after.server = clients.server := frame.server
  have clientSock : after.clientSock = clients.clientSock := frame.clientSock
  have accepted : after.accepted = clients.accepted := frame.accepted
  by_cases mine : clients.clientSock = some connection
  · rw [sentOn, if_pos mine] at carries
    have stays : begun (displayTransmits clients.display) = none →
        (displayTransmits clients.display ≠ none ∨ later = sending) →
        Heard after said connection joined later heard := by
      intro nothing under
      refine ⟨?_, ?_, ?_, ?_⟩
      · rw [clientSock]
        exact holds.follows
      · rw [clientSock, server, frame.silent nothing]
        exact holds.current
      · rw [clientSock, server, accepted]
        exact holds.unheard
      · intro _ replays
        rw [server] at replays
        rcases under with sends | same
        · have quiet := (safe.outside (frame.locked sends)).2
          rw [replays] at quiet
          cases quiet
        · rw [same]
          exact holds.foretold mine replays
    have voices := frame.voices
    have locked := frame.locked
    generalize displayTransmits clients.display = transmission
      at carries stays voices locked ⊢
    cases carries with
    | quiet =>
        rw [begun, Option.toList_none, List.append_nil]
        exact stays rfl (.inr rfl)
    | continues under =>
        rw [begun, Option.toList_none, List.append_nil]
        exact stays rfl (.inl (Option.some_ne_none _))
    | @begins _ _ _ announcement sized =>
        obtain ⟨about, spent⟩ := voices announcement rfl
        obtain ⟨untested, unreplayed⟩ :=
          safe.outside (locked (Option.some_ne_none _))
        have known := holds.current mine untested unreplayed
        rw [about] at known
        obtain ⟨follows, known⟩ := holds.follows.hear mine known
        refine ⟨follows, fun _ _ _ => .inr known, ?_, ?_⟩
        · intro nowhere
          rw [accepted, server, clientSock] at nowhere
          have bounded := safe.traffic.bounded connection mine
          rcases nowhere with beyond | pending | ⟨_, testing | replays⟩
          · exact absurd bounded (Nat.not_lt.mpr beyond)
          · exact absurd mine (safe.traffic.waiting connection pending).2.2
          · exact absurd testing untested
          · rw [replays] at unreplayed
            cases unreplayed
        · intro _ replays
          rw [server] at replays
          rw [replays] at unreplayed
          cases unreplayed
  · obtain ⟨rfl, rfl⟩ := carries.elsewhere mine
    have elsewhere : after.clientSock ≠ some connection := by
      rw [clientSock]
      exact mine
    refine ⟨holds.follows.miss _ elsewhere,
      fun current => absurd current elsewhere, ?_,
      fun current => absurd current elsewhere⟩
    rw [accepted, server, clientSock]
    exact holds.unheard

/-- A step of the server thread that leaves the connection its client. -/
theorem serverKeeps (holds : Heard clients said connection joined sending heard)
    (display : after.display = clients.display)
    (clientSock : after.clientSock = clients.clientSock)
    (accepted : after.accepted = clients.accepted)
    (pending : after.server.pending = clients.server.pending)
    (quiet : clients.server ≠ .testModifier ∧
      clients.server.replaying = false)
    (next : after.server ≠ .testModifier ∧ after.server.replaying = false) :
    Heard after said connection joined sending heard where
  follows := by
    rw [clientSock]
    exact holds.follows
  current := by
    intro mine _ _
    rw [clientSock] at mine
    rw [display]
    exact holds.current mine quiet.1 quiet.2
  unheard := by
    intro nowhere
    rw [accepted, pending, clientSock] at nowhere
    rcases nowhere with beyond | waits | ⟨_, testing | replays⟩
    · exact holds.unheard (.inl beyond)
    · exact holds.unheard (.inr (.inl waits))
    · exact absurd testing next.1
    · rw [replays] at next
      cases next.2
  foretold := by
    intro _ replays
    rw [replays] at next
    cases next.2

/-- A step after which the client is another one. -/
theorem absent (holds : Heard clients said connection joined sending heard)
    (elsewhere : after.clientSock ≠ some connection)
    (accepted : after.accepted = clients.accepted)
    (pending : after.server.pending = some connection →
      clients.server.pending = some connection) :
    Heard after said connection joined sending heard := by
  refine ⟨holds.follows.mono fun mine => absurd mine elsewhere,
    fun mine => absurd mine elsewhere, ?_, fun mine => absurd mine elsewhere⟩
  intro nowhere
  rw [accepted] at nowhere
  rcases nowhere with beyond | waits | ⟨mine, _⟩
  · exact holds.unheard (.inl beyond)
  · exact holds.unheard (.inr (.inl (pending waits)))
  · exact absurd mine elsewhere

end Heard

/-- The body of a modifier is its 64 bits. -/
theorem UInt64_of_body {first second : Nat}
    (same : (structSurface.message (.modifier first)).body =
      (structSurface.message (.modifier second)).body) :
    UInt64.ofNat first = UInt64.ofNat second := by
  have word : first % 256 ^ 8 = second % 256 ^ 8 := by
    rw [← wordOf_wordBytes, ← wordOf_wordBytes]
    exact congrArg wordOf same
  apply UInt64.toNat.inj
  rw [UInt64.toNat_ofNat', UInt64.toNat_ofNat']
  exact word

/-- What the server has stored is the modifier last announced, unless the next
one is being stored. -/
theorem stored_modifier {clients : Clients} {said : List Announcement}
    (safe : Safe clients)
    (latest : latestModifier clients =
      modifierAfter 0 (said ++ (unsaid clients.display).toList)) :
    sets (unsaid clients.display) ∨
      (clients.stored.map UInt64.ofNat).getD 0 = modifierAfter 0 said := by
  cases display : clients.display with
  | storeModifier | storeFlag | lockModifier | modifierHeader =>
      exact .inl trivial
  | idle | modifierBody | surfaceBody | surfaceFd | unlock | lockSurface
  | surfaceHeader | lockUpdate | updateHeader =>
      right
      rw [safe.memory (by rw [display]; rfl)]
      rw [display, modifierAfter_append] at latest
      exact latest

namespace Heard

variable {clients after : Clients} {said heard grown : List Announcement}
  {connection joined : Nat} {sending later : Option (Message .client)}

/-! The places of the server thread. -/

/-- The new client becomes the server's. -/
theorem installed (holds : Heard clients said connection joined sending heard)
    {newClientSock : Option Nat}
    (server : clients.server = .install newClientSock) {joined' : Nat}
    (joins : joined' =
      if clients.server = .install (some connection) then said.length
      else joined) :
    Heard { clients with
        clientSock := newClientSock
        server := .testModifier } said connection joined' sending heard := by
  have fresh : newClientSock = some connection → heard = [] := by
    intro mine
    apply holds.unheard
    right
    left
    rw [server]
    exact mine
  rw [server] at joins
  refine ⟨?_, fun _ testing => absurd rfl testing, ?_, ?_⟩
  · by_cases mine : newClientSock = some connection
    · rw [mine, if_pos rfl] at joins
      rw [fresh mine, joins]
      exact follows_modifiers [] rfl
    · have others : ServerPc.install newClientSock ≠
          .install (some connection) :=
        fun same => mine (ServerPc.install.inj same)
      rw [if_neg others] at joins
      rw [joins]
      exact holds.follows.mono fun held => absurd held mine
  · intro nowhere
    rcases nowhere with beyond | waits | ⟨mine, _⟩
    · exact holds.unheard (.inl beyond)
    · cases waits
    · exact fresh mine
  · intro _ replays
    cases replays

/-- The server has tested whether a modifier is stored. -/
theorem tested (holds : Heard clients said connection joined sending heard)
    (server : clients.server = .testModifier) {next : ServerPc}
    (outside : next.pending = none) (unsent : next ≠ .replayBody)
    (current : next.replaying = false → clients.clientSock = some connection →
      sets (unsaid clients.display) ∨
        modifierAfter 0 [] = modifierAfter 0 said) :
    Heard { clients with server := next } said connection joined sending
      heard := by
  have fresh : clients.clientSock = some connection → heard = [] :=
    fun mine => holds.unheard (.inr (.inr ⟨mine, .inl server⟩))
  refine ⟨holds.follows, ?_, ?_, fun _ replays => absurd replays unsent⟩
  · intro mine _ unreplayed
    rw [fresh mine]
    exact current unreplayed mine
  · rintro (beyond | waits | ⟨mine, _⟩)
    · exact holds.unheard (.inl beyond)
    · rw [outside] at waits
      cases waits
    · exact fresh mine

/-- A piece goes to another client. -/
theorem pushed_elsewhere
    (holds : Heard clients said connection joined sending heard)
    (elsewhere : clients.clientSock ≠ some connection) {piece : Piece}
    {next : ServerPc} (outside : next.pending = none) :
    Heard { clients.push piece with server := next } said connection joined
      sending heard := by
  refine holds.absent ?_ (Clients.push_accepted _ _) fun waits => ?_
  · rw [Clients.push_clientSock]
    exact elsewhere
  · rw [outside] at waits
    cases waits

/-- The header of the stored modifier goes to the new client. -/
theorem headerReplayed
    (holds : Heard clients said connection joined sending heard)
    (safe : Safe clients) (server : clients.server = .replayHeader)
    {foretold : Nat}
    (carries : Carries (sentOn clients connection
      (some (.begins (.modifier foretold)))) heard sending grown later) :
    Heard { clients.push (.header .setModifier) with server := .replayBody }
      said connection joined later grown := by
  by_cases mine : clients.clientSock = some connection
  · have fresh := holds.unheard (.inr (.inr ⟨mine, .inr server⟩))
    have follows := holds.follows
    rw [fresh] at follows
    rw [follows.joined_eq mine]
    have bounded := safe.traffic.bounded connection mine
    rw [sentOn, if_pos mine, fresh] at carries
    cases carries with
    | begins sized =>
        have body : (structSurface.message
            (.modifier foretold)).body ≠ [] := by
          intro empty
          have size := congrArg List.length empty
          cases size
        refine ⟨follows_modifiers [foretold] rfl, ?_, ?_,
          fun _ _ => ⟨foretold, rfl, sized body⟩⟩
        · intro _ _ unreplayed
          cases unreplayed
        · rw [Clients.push_accepted]
          rintro (beyond | waits | ⟨_, testing | replays⟩)
          · exact absurd bounded (Nat.not_lt.mpr beyond)
          · cases waits
          · cases testing
          · cases replays
  · obtain ⟨rfl, rfl⟩ := carries.elsewhere mine
    exact holds.pushed_elsewhere mine rfl

/-- The stored modifier follows its header. -/
theorem bodyReplayed
    (holds : Heard clients said connection joined sending heard)
    (safe : Safe clients) (server : clients.server = .replayBody)
    (known : sets (unsaid clients.display) ∨
      UInt64.ofNat clients.modifier = modifierAfter 0 said)
    (carries : Carries (sentOn clients connection
      (some (.continues (.modifier clients.modifier)))) heard sending grown
        later) :
    Heard { clients.push (.modifier clients.modifier) with server := .unlock }
      said connection joined later grown := by
  by_cases mine : clients.clientSock = some connection
  · obtain ⟨value, same, under⟩ := holds.foretold mine server
    have bounded := safe.traffic.bounded connection mine
    rw [sentOn, if_pos mine] at carries
    cases carries with
    | continues guarded =>
        have told : UInt64.ofNat value = UInt64.ofNat clients.modifier := by
          rw [guarded] at under
          have body := congrArg Message.body (Option.some.inj under)
          exact (UInt64_of_body body).symm
        refine ⟨?_, ?_, ?_, ?_⟩
        · rw [Clients.push_clientSock]
          exact holds.follows
        · intro _ _ _
          rw [Clients.push_display, same]
          exact known.imp_right fun known => told.trans known
        · rw [Clients.push_accepted]
          rintro (beyond | waits | ⟨_, testing | replays⟩)
          · exact absurd bounded (Nat.not_lt.mpr beyond)
          · cases waits
          · cases testing
          · cases replays
        · intro _ replays
          cases replays
  · obtain ⟨rfl, rfl⟩ := carries.elsewhere mine
    exact holds.pushed_elsewhere mine rfl

theorem kept_by_serverStep
    (holds : Heard clients said connection joined sending heard)
    (safe : Safe clients)
    (latest : latestModifier clients =
      modifierAfter 0 (said ++ (unsaid clients.display).toList))
    (stepped : serverStep clients = some after) {foretold joined' : Nat}
    (joins : joined' =
      if clients.server = .install (some connection) then said.length
      else joined)
    (carries : Carries
      (sentOn clients connection
        (serverTransmits foretold clients.modifier clients.server))
      heard sending grown later) :
    Heard after said connection joined' later grown := by
  have known := stored_modifier safe latest
  unfold serverStep at stepped
  cases server : clients.server with
  | idle =>
      rw [server] at stepped
      cases stepped
  | lockAccept newClientSock | lockClose =>
      rw [server] at stepped carries joins
      rw [joins, if_neg ServerPc.noConfusion]
      obtain ⟨locked, taken, rfl⟩ := Option.map_eq_some_iff.mp stepped
      obtain ⟨rfl, rfl⟩ := carries.unsent
      rw [lock_frame taken]
      refine holds.serverKeeps rfl rfl rfl ?_ ?_ ?_
      · rw [server]
        rfl
      · rw [server]
        exact ⟨ServerPc.noConfusion, rfl⟩
      · exact ⟨ServerPc.noConfusion, rfl⟩
  | unlock =>
      rw [server] at stepped carries joins
      rw [joins, if_neg ServerPc.noConfusion]
      cases stepped
      obtain ⟨rfl, rfl⟩ := carries.unsent
      refine holds.serverKeeps rfl rfl rfl ?_ ?_ ?_
      · rw [server]
        rfl
      · rw [server]
        exact ⟨ServerPc.noConfusion, rfl⟩
      · exact ⟨ServerPc.noConfusion, rfl⟩
  | closePrevious newClientSock | close =>
      rw [server] at stepped carries joins
      rw [joins, if_neg ServerPc.noConfusion]
      cases stepped
      obtain ⟨rfl, rfl⟩ := carries.unsent
      refine holds.absent (Option.some_ne_none connection).symm rfl ?_
      rw [server]
      exact id
  | install newClientSock =>
      rw [server] at stepped carries
      cases stepped
      obtain ⟨rfl, rfl⟩ := carries.unsent
      exact holds.installed server joins
  | testModifier =>
      rw [server] at stepped carries joins
      rw [joins, if_neg ServerPc.noConfusion]
      obtain ⟨rfl, rfl⟩ := carries.unsent
      dsimp only at stepped
      split at stepped
      · cases stepped
        exact holds.tested server rfl ServerPc.noConfusion
          fun silent => by cases silent
      · rename_i unset
        cases stepped
        rw [Clients.stored, if_neg unset] at known
        exact holds.tested server rfl ServerPc.noConfusion
          fun _ _ => known
  | replayHeader =>
      rw [server] at stepped carries joins
      rw [joins, if_neg ServerPc.noConfusion]
      dsimp only at stepped
      split at stepped
      · rename_i gone
        cases stepped
        have elsewhere : clients.clientSock ≠ some connection := by
          rw [gone]
          exact (Option.some_ne_none connection).symm
        obtain ⟨rfl, rfl⟩ := carries.elsewhere elsewhere
        exact holds.absent elsewhere rfl fun pending => by cases pending
      · cases stepped
        exact holds.headerReplayed safe server carries
  | replayBody =>
      rw [server] at stepped carries joins
      rw [joins, if_neg ServerPc.noConfusion]
      cases stepped
      have set : clients.setModifier = true := by
        apply safe.flagged
        rw [server]
        rfl
      rw [Clients.stored, if_pos set] at known
      exact holds.bodyReplayed safe server known carries

/-- A client comes or goes. -/
theorem kept_by_knock
    (holds : Heard clients said connection joined sending heard)
    {event : Event} (knock : isKnock event = true)
    (stepped : happen clients event = some after) :
    Heard after said connection joined sending heard := by
  have quiet : clients.server = .idle →
      clients.server ≠ .testModifier ∧ clients.server.replaying = false := by
    intro idle
    rw [idle]
    exact ⟨ServerPc.noConfusion, rfl⟩
  cases event with
  | setModifier | surfaceSet | surfaceUpdate | display | server =>
      cases knock
  | accept =>
      obtain ⟨idle, rfl⟩ := Clients.ready stepped
      refine ⟨holds.follows, fun mine _ _ => ?_, ?_, ?_⟩
      · exact holds.current mine (quiet idle).1 (quiet idle).2
      · rintro (beyond | waits | ⟨_, testing | replays⟩)
        · exact holds.unheard (.inl (Nat.le_of_succ_le beyond))
        · cases waits
          exact holds.unheard (.inl (Nat.le_refl _))
        · cases testing
        · cases replays
      · intro _ replays
        cases replays
  | acceptFails =>
      obtain ⟨idle, rfl⟩ := Clients.ready stepped
      refine holds.serverKeeps rfl rfl rfl ?_ (quiet idle) ?_
      · rw [idle]
        rfl
      · exact ⟨ServerPc.noConfusion, rfl⟩
  | hangup =>
      obtain ⟨⟨idle, _⟩, rfl⟩ := Clients.ready stepped
      refine holds.serverKeeps rfl rfl rfl ?_ (quiet idle) ?_
      · rw [idle]
        rfl
      · exact ⟨ServerPc.noConfusion, rfl⟩

end Heard

end VirtioGpu.Display
