import VirtioGpu.Display.Heard

namespace VirtioGpu.Display

open Foundation
open Backend hiding Event
open Gpu hiding Surface
open Vdpy
open Client

/-! What holds along the way of a picture, between any two steps. -/

/-- A client has on its screen what it was dispatched of all it has heard. -/
structure Screened (clients : Clients) (said : List Announcement)
    (connection joined : Nat) (channel : Channel .client) (viewer : Viewer)
    (heard : List Announcement) : Prop where
  issued : channel.issued = heard.map structSurface.message
  hears : Heard clients said connection joined
    (sendingMessage channel.sending) heard
  framed : ∃ done pending, Framed channel done pending
  screens : ∃ events, viewer.Screens
    (shots 0 (heard.take channel.dispatched.length))
    (modifierAfter 0 (heard.take channel.dispatched.length)) events

/-- The calls are those of the device, and what is said is what they
announce. -/
structure Path.Sound (path : Path) (said : List Announcement) : Prop where
  exhibits : Backend.backend.Reached path.traced
  safe : Safe path.clients
  calls : path.traced.events.flatMap eventCalls = path.made ++ path.owed
  split : path.made.filterMap announce =
    said ++ (unsaid path.clients.display).toList
  latest : latestModifier path.clients =
    modifierAfter 0 (path.made.filterMap announce)
  screened : ∀ connection, ∃ heard, Screened path.clients said connection
    (path.joined connection) (path.channels connection)
    (path.viewers connection) heard

section Delivery

variable {channel : Channel .client} {heard : List Announcement}

/-- The messages dispatched are the first that were issued. -/
theorem dispatched_heard
    (issued : channel.issued = heard.map structSurface.message)
    {done pending : List (Message .client)}
    (framed : Framed channel done pending) :
    channel.dispatched.length ≤ heard.length ∧
      done = (heard.take channel.dispatched.length).map
        structSurface.message := by
  have size : channel.dispatched.length = done.length := by
    rw [framed.dispatched, List.length_map]
  have split := framed.issued
  rw [issued] at split
  constructor
  · have total := congrArg List.length split
    rw [List.length_map, List.length_append] at total
    omega
  · rw [size, List.map_take, split, List.take_left' rfl]

end Delivery

namespace Screened

variable {clients after : Clients} {said heard : List Announcement}
  {connection joined : Nat} {channel : Channel .client} {viewer : Viewer}

/-- Only the two threads of the server go on. -/
theorem heardAs (screened : Screened clients said connection joined channel
    viewer heard) {later : List Announcement}
    {joined' : Nat}
    (holds : Heard after later connection joined'
      (sendingMessage channel.sending) heard) :
    Screened after later connection joined' channel viewer heard :=
  ⟨screened.issued, holds, screened.framed, screened.screens⟩

theorem kept_by_terminate
    (screened : Screened clients said connection joined channel viewer
      heard) :
    Screened clients said connection joined channel viewer.terminate
      heard := by
  obtain ⟨events, screens⟩ := screened.screens
  exact ⟨screened.issued, screened.hears, screened.framed, _,
    screens.terminate⟩

/-- A step that sends nothing to this client, or the next part of what it is
told. -/
theorem transmitted (screened : Screened clients said connection joined channel
    viewer heard) {errno : Vdpy.Errno} {transmission : Transmission}
    {later : List Announcement} {joined' : Nat} {next : Channel .client}
    (sent : transmit channel errno transmission = some next)
    (hears : ∀ {grown : List Announcement}
        {sending : Option (Message .client)},
      Carries (some transmission) heard (sendingMessage channel.sending) grown
        sending → Heard after later connection joined' sending grown) :
    ∃ grown, Screened after later connection joined' next viewer grown := by
  obtain ⟨dispatched, grown, issued, carries⟩ :=
    transmit_carries screened.issued sent
  obtain ⟨done, pending, framed⟩ := screened.framed
  have inside := (dispatched_heard screened.issued framed).1
  have front : grown.take channel.dispatched.length =
      heard.take channel.dispatched.length := by
    cases carries with
    | begins => exact List.take_append_of_le_length inside
    | continues => rfl
  refine ⟨grown, issued, hears carries,
    transmit_framed screened.framed sent, ?_⟩
  rw [dispatched, front]
  exact screened.screens

theorem woken (screened : Screened clients said connection joined channel
    viewer heard) {errno : Vdpy.Errno} {next : Channel .client}
    (ran : perform channel (.wake errno) = some next) :
    Screened clients said connection joined next viewer heard := by
  obtain ⟨done, pending, framed⟩ := screened.framed
  have later := framed.kept_by_wake ran
  unfold perform at ran
  dsimp only at ran
  obtain ⟨_, same⟩ := Option.ite_none_right_eq_some.mp ran
  cases same
  exact ⟨screened.issued, screened.hears, ⟨done, pending, later⟩,
    screened.screens⟩

/-- The message dispatched next is the next that was heard. -/
theorem next_heard (screened : Screened clients said connection joined channel
    viewer heard) {next : Channel .client}
    (later : ∃ done pending, Framed next done pending)
    (kept : RecvKept channel next) {content : Nat × List UInt8}
    (grown : next.dispatched = channel.dispatched ++ [content]) :
    ∃ announcement, announcement ∈ heard ∧
      heard.take next.dispatched.length =
        heard.take channel.dispatched.length ++ [announcement] ∧
      content = (structSurface.message announcement).content ∧
      ∀ done message rest, Framed channel done (message :: rest) →
        message = structSurface.message announcement := by
  obtain ⟨done, pending, framed⟩ := later
  obtain ⟨inside, same⟩ :=
    dispatched_heard (kept.issued.trans screened.issued) framed
  have size : next.dispatched.length = channel.dispatched.length + 1 := by
    rw [grown, List.length_append, List.length_singleton]
  rw [size] at inside
  refine ⟨heard[channel.dispatched.length], List.getElem_mem _, ?_, ?_, ?_⟩
  · rw [size, List.take_succ_eq_append_getElem inside]
  · have all := framed.dispatched
    obtain ⟨earlier, before, framedBefore⟩ := screened.framed
    have front := (dispatched_heard screened.issued framedBefore).2
    rw [same, size, List.take_succ_eq_append_getElem inside, grown,
      List.map_append, List.map_append, ← front,
      ← framedBefore.dispatched] at all
    exact List.singleton_inj.mp (List.append_cancel_left all)
  · intro done message rest framedBefore
    have front := (dispatched_heard screened.issued framedBefore).2
    have split := framedBefore.issued
    rw [screened.issued, front] at split
    have position : (List.map structSurface.message
        (heard.take channel.dispatched.length)).length =
          channel.dispatched.length := by
      rw [← front, framedBefore.dispatched, List.length_map]
    have found := congrArg
      (fun messages => messages[channel.dispatched.length]?) split
    rw [List.getElem?_append_right (Nat.le_of_eq position), position,
      Nat.sub_self, List.getElem?_map,
      List.getElem?_eq_getElem inside] at found
    exact (Option.some.inj found).symm

theorem delivered (screened : Screened clients said connection joined channel
    viewer heard) {answer : Vdpy.Answer} {viewed : ViewerAnswer}
    {next : Channel .client}
    (genuine : ∀ announcement, announcement ∈ heard → Genuine announcement)
    (whole : MovesWhole channel (.recv answer))
    (obliges : viewer.Obliges viewed)
    (ran : perform channel (.recv answer) = some next) :
    Screened clients said connection joined next
      (watch channel next (arrivedFile channel answer) viewed viewer)
      heard := by
  obtain ⟨done, pending, framed⟩ := screened.framed
  have later := framed.kept_by_perform whole ran
  obtain ⟨kept, dispatches⟩ := recvStep_dispatches ran
  obtain ⟨events, screens⟩ := screened.screens
  have same : Heard clients said connection joined
      (sendingMessage next.sending) heard := by
    rw [kept.sending]
    exact screened.hears
  have issued := kept.issued.trans screened.issued
  -- The next message heard is handled, with its own file.
  have handles : ∀ content,
      next.dispatched = channel.dispatched ++ [content] →
      (∀ announcement, announcement ∈ heard →
        content = (structSurface.message announcement).content →
        (∀ done message rest, Framed channel done (message :: rest) →
          message = structSurface.message announcement) →
        arrivedFile channel answer =
          (structSurface.message announcement).fd.map UInt32.ofNat) →
      Screened clients said connection joined next
        (watch channel next (arrivedFile channel answer) viewed viewer)
        heard := by
    intro content grown arrives
    obtain ⟨announcement, member, front, rfl, only⟩ :=
      screened.next_heard later kept grown
    have shown := screens.handle (genuine announcement member) obliges
    rw [← arrives announcement member rfl only] at shown
    obtain ⟨more, shown⟩ := shown
    refine ⟨issued, same, later, events ++ more, ?_⟩
    unfold watch
    rw [front, shots_append, modifierAfter_append, grown, List.drop_left' rfl]
    exact shown
  cases dispatches with
  | nothing silent =>
      refine ⟨issued, same, later, events, ?_⟩
      unfold watch
      rw [silent, List.drop_length]
      exact screens
  | plain grown bare receives =>
      refine handles _ grown ?_
      intro announcement _ content _
      have carries := (structSurface.message announcement).carries
      have type : _ = (structSurface.message announcement).eType :=
        congrArg Prod.fst content
      rw [← type, bare] at carries
      have absent : (structSurface.message announcement).fd = none := by
        simpa using carries
      rw [absent, Option.map_none]
      unfold arrivedFile
      cases receiving : channel.receiving with
      | descriptor header => exact absurd receiving (receives header)
      | idle | header | body | crashed | closed => rfl
  | carried grown receives =>
      refine handles _ grown ?_
      intro announcement _ _ only
      rcases arrivedFile_descriptor framed receives whole ran with
        still | ⟨message, rest, rfl, arrives⟩
      · rw [still] at grown
        have size := congrArg List.length grown
        rw [List.length_append, List.length_singleton] at size
        omega
      · rw [arrives, only _ _ _ framed]

end Screened

/-! One step of the path. -/

/-- A thread of the server has gone on. -/
structure Proceeds (path after : Path) (clients : Clients) (errno : Vdpy.Errno)
    (transmission : Option Transmission) : Prop where
  joined : after.joined = path.joined
  traced : after.traced = path.traced
  owed : after.owed = path.owed
  made : after.made = path.made
  viewers : after.viewers = path.viewers
  clients : after.clients = clients
  channels : ∀ connection,
    match sentOn path.clients connection transmission with
    | none => after.channels connection = path.channels connection
    | some sent =>
        transmit (path.channels connection) errno sent =
          some (after.channels connection)

theorem proceed_proceeds {path after : Path} {clients : Clients}
    {errno : Vdpy.Errno} {transmission : Option Transmission}
    (ran : path.proceed clients errno transmission = some after) :
    Proceeds path after clients errno transmission := by
  unfold Path.proceed at ran
  cases transmission with
  | none =>
      have same : some { path with clients := clients } = some after := by
        rw [← ran]
        cases path.clients.clientSock <;> rfl
      cases same
      refine ⟨rfl, rfl, rfl, rfl, rfl, rfl, fun connection => ?_⟩
      rw [sentOn, ite_self]
  | some transmission =>
      cases current : path.clients.clientSock with
      | none =>
          rw [current] at ran
          cases ran
          refine ⟨rfl, rfl, rfl, rfl, rfl, rfl, fun connection => ?_⟩
          rw [sentOn, current, if_neg (Option.some_ne_none connection).symm]
      | some held =>
          rw [current] at ran
          obtain ⟨channel, sent, same⟩ := Option.map_eq_some_iff.mp ran
          cases same
          refine ⟨rfl, rfl, rfl, rfl, rfl, rfl, fun connection => ?_⟩
          rw [sentOn, current]
          by_cases mine : held = connection
          · subst mine
            rw [if_pos rfl]
            dsimp only [Path.setChannel]
            rw [Function.update_self]
            exact sent
          · rw [if_neg (fun same => mine (Option.some.inj same))]
            exact Function.update_of_ne (Ne.symm mine) _ _

namespace Path.Sound

variable {path after : Path} {said : List Announcement}

theorem genuine (sound : path.Sound said) {connection joined : Nat}
    {sending : Option (Message .client)} {heard : List Announcement}
    (holds : Heard path.clients said connection joined sending heard) :
    ∀ announcement, announcement ∈ heard → Genuine announcement := by
  obtain ⟨replay, skipped, during, later, _, split, same, _, _⟩ :=
    holds.follows
  intro announcement member
  rw [same] at member
  rcases List.mem_append.mp member with replayed | heardOf
  · obtain ⟨value, _, rfl⟩ := List.mem_map.mp replayed
    trivial
  · have spoken : announcement ∈ path.made.filterMap announce := by
      rw [sound.split, split]
      simp [heardOf]
    obtain ⟨call, _, announces⟩ := List.mem_filterMap.mp spoken
    exact genuine_of_announce announces

/-- What every client has heard after a step of a server thread. -/
theorem proceeds (sound : path.Sound said) {clients : Clients}
    {errno : Vdpy.Errno} {transmission : Option Transmission}
    {later : List Announcement} {joined : Nat → Nat}
    (proceeds : Proceeds path after clients errno transmission)
    (hears : ∀ connection {sending next : Option (Message .client)}
        {heard grown : List Announcement},
      Heard path.clients said connection (path.joined connection) sending
        heard →
        Carries (sentOn path.clients connection transmission) heard sending
          grown next →
          Heard clients later connection (joined connection) next grown) :
    ∀ connection, ∃ heard, Screened after.clients later connection
      (joined connection) (after.channels connection)
      (after.viewers connection) heard := by
  intro connection
  obtain ⟨heard, screened⟩ := sound.screened connection
  have goes := fun {sending next : Option (Message .client)}
    {heard grown : List Announcement} =>
      @hears connection sending next heard grown
  have channel := proceeds.channels connection
  rw [proceeds.clients, proceeds.viewers]
  cases sent : sentOn path.clients connection transmission with
  | none =>
      rw [sent] at channel
      rw [channel]
      refine ⟨heard, screened.heardAs (goes screened.hears ?_)⟩
      rw [sent]
      exact .quiet
  | some transmission =>
      rw [sent] at channel
      refine screened.transmitted channel fun carries => ?_
      refine goes screened.hears ?_
      rw [sent]
      exact carries

theorem kept_by_backend (sound : path.Sound said) {label : Backend.Label}
    {traced : Traced}
    (stepped : Backend.backend.step path.traced label traced)
    (ran : path.act (.backend label traced) = some after) :
    after.Sound said := by
  have reached := TransitionSystem.ReachedWhere.step sound.exhibits trivial
    stepped
  obtain ⟨_, machine, events, _, rfl⟩ := stepped
  unfold Path.act at ran
  dsimp only at ran
  split at ran
  · cases ran
  · cases ran
    refine ⟨reached, sound.safe, ?_, sound.split, sound.latest,
      sound.screened⟩
    dsimp only
    rw [List.flatMap_append, sound.calls, List.drop_left' rfl,
      List.append_assoc]

theorem kept_by_call (sound : path.Sound said)
    (ran : path.act .call = some after) : after.Sound said := by
  unfold Path.act at ran
  dsimp only at ran
  cases owed : path.owed with
  | nil =>
      rw [owed] at ran
      cases ran
  | cons call rest =>
      rw [owed] at ran
      obtain ⟨idle, called⟩ := Option.ite_none_right_eq_some.mp ran
      obtain ⟨clients, presented, same⟩ := Option.map_eq_some_iff.mp called
      cases same
      have presents := present_presents idle presented
      have quiet : unsaid path.clients.display = none := by
        rw [idle]
        rfl
      have split := sound.split
      have latest := sound.latest
      rw [quiet, Option.toList_none, List.append_nil] at split
      have grown : (path.made ++ [call]).filterMap announce =
          said ++ (announce call).toList := by
        rw [List.filterMap_append, split]
        cases announces : announce call <;> simp [announces]
      refine ⟨sound.exhibits, presents.safe sound.safe, ?_, ?_, ?_, ?_⟩
      · rw [sound.calls, owed]
        simp
      · rw [grown, presents.unsaid]
      · rw [grown, presents.latest, latest, split, modifierAfter_append]
      · intro connection
        obtain ⟨heard, screened⟩ := sound.screened connection
        exact ⟨heard, screened.heardAs
          (screened.hears.kept_by_call quiet presents)⟩

theorem kept_by_display (sound : path.Sound said) {errno : Vdpy.Errno}
    (ran : path.act (.display errno) = some after) :
    ∃ said, after.Sound said := by
  obtain ⟨clients, stepped, ran⟩ := Option.bind_eq_some_iff.mp ran
  have proceeds := proceed_proceeds ran
  have frame := displayStep_frame stepped
  have screened := sound.proceeds proceeds fun connection _ _ _ _ hears =>
    hears.kept_by_displayStep sound.safe frame
  rw [← proceeds.joined] at screened
  have safe : Safe after.clients := by
    rw [proceeds.clients]
    exact sound.safe.kept_by_displayStep stepped
  refine ⟨_, ?_, safe, ?_, ?_, ?_, screened⟩
  · rw [proceeds.traced]
    exact sound.exhibits
  · rw [proceeds.traced, proceeds.made, proceeds.owed]
    exact sound.calls
  · rw [proceeds.made, proceeds.clients, sound.split, List.append_assoc]
    cases begins : begun (displayTransmits path.clients.display) with
    | none => rw [frame.silent begins, Option.toList_none, List.nil_append]
    | some announcement =>
        obtain ⟨about, spent⟩ := frame.voices announcement begins
        rw [about, spent, Option.toList_none, List.append_nil]
  · rw [proceeds.made, proceeds.clients, latestModifier, frame.latest]
    exact sound.latest

/-- How much has been said. -/
theorem said_eq (sound : path.Sound said) : path.said = said.length := by
  rw [Path.said, sound.split, List.length_append, Nat.add_sub_cancel]

theorem joins_eq (sound : path.Sound said) (connection : Nat) :
    path.joins connection =
      if path.clients.server = .install (some connection) then said.length
      else path.joined connection := by
  unfold Path.joins
  cases server : path.clients.server with
  | install newClientSock =>
      cases newClientSock with
      | none => rw [if_neg (by simp)]
      | some held =>
          dsimp only
          by_cases mine : held = connection
          · rw [mine, Function.update_self, if_pos rfl, sound.said_eq]
          · have others : ServerPc.install (some held) ≠
                .install (some connection) :=
              fun same => mine (Option.some.inj (ServerPc.install.inj same))
            rw [if_neg others]
            exact Function.update_of_ne (Ne.symm mine) _ _
  | idle | lockAccept | closePrevious | testModifier | replayHeader
  | replayBody | lockClose | close | unlock =>
      rw [if_neg ServerPc.noConfusion]

theorem kept_by_server (sound : path.Sound said) {errno : Vdpy.Errno}
    {foretold : Nat} (ran : path.act (.server errno foretold) = some after) :
    after.Sound said := by
  obtain ⟨clients, stepped, sent⟩ := Option.bind_eq_some_iff.mp ran
  obtain ⟨next, proceeded, same⟩ := Option.bind_eq_some_iff.mp sent
  cases same
  have proceeds := proceed_proceeds proceeded
  obtain ⟨display, latest⟩ := serverStep_frame stepped
  have known := sound.latest
  rw [sound.split] at known
  have screened := sound.proceeds proceeds fun connection _ _ _ _ hears =>
    hears.kept_by_serverStep sound.safe known stepped
      (sound.joins_eq connection)
  have safe : Safe next.clients := by
    rw [proceeds.clients]
    exact sound.safe.kept_by_serverStep stepped
  refine ⟨?_, safe, ?_, ?_, ?_, screened⟩
  · rw [proceeds.traced]
    exact sound.exhibits
  · rw [proceeds.traced, proceeds.made, proceeds.owed]
    exact sound.calls
  · rw [proceeds.made, proceeds.clients, display]
    exact sound.split
  · rw [proceeds.made, proceeds.clients, latestModifier, latest]
    exact sound.latest

theorem kept_by_knock (sound : path.Sound said) {event : Event}
    (ran : path.act (.knock event) = some after) : after.Sound said := by
  obtain ⟨knock, ran⟩ := Option.ite_none_right_eq_some.mp ran
  obtain ⟨clients, stepped, same⟩ := Option.map_eq_some_iff.mp ran
  cases same
  obtain ⟨display, latest⟩ := knock_frame knock stepped
  refine ⟨sound.exhibits, sound.safe.kept_by_happen stepped, sound.calls,
    ?_, ?_, ?_⟩
  · rw [display]
    exact sound.split
  · rw [latestModifier, latest]
    exact sound.latest
  · intro connection
    obtain ⟨heard, screened⟩ := sound.screened connection
    exact ⟨heard, screened.heardAs (screened.hears.kept_by_knock knock stepped)⟩

/-- A step of one client. -/
theorem kept_by_client (sound : path.Sound said) (connection : Nat)
    {channel : Channel .client} {viewer : Viewer}
    (screened : ∃ heard, Screened path.clients said connection
      (path.joined connection) channel viewer heard) :
    Path.Sound ((path.setChannel connection channel).setViewer connection
      viewer) said := by
  refine ⟨sound.exhibits, sound.safe, sound.calls, sound.split, sound.latest,
    fun other => ?_⟩
  dsimp only [Path.setChannel, Path.setViewer]
  by_cases mine : other = connection
  · rw [mine, Function.update_self, Function.update_self]
    exact screened
  · rw [Function.update_of_ne mine, Function.update_of_ne mine]
    exact sound.screened other

theorem kept_by_act (sound : path.Sound said) {label : PathLabel}
    (keeps : label.Sound path) (whole : ReceivesWhole path label)
    (ran : path.act label = some after) : ∃ said, after.Sound said := by
  cases label with
  | backend label traced => exact ⟨said, sound.kept_by_backend keeps ran⟩
  | call => exact ⟨said, sound.kept_by_call ran⟩
  | display errno => exact sound.kept_by_display ran
  | server errno foretold => exact ⟨said, sound.kept_by_server ran⟩
  | knock event => exact ⟨said, sound.kept_by_knock ran⟩
  | wake connection errno =>
      obtain ⟨channel, woken, same⟩ := Option.map_eq_some_iff.mp ran
      obtain ⟨heard, screened⟩ := sound.screened connection
      have kept := sound.kept_by_client connection ⟨heard, screened.woken woken⟩
      rw [Path.setViewer, Path.setChannel, Function.update_eq_self] at kept
      cases same
      exact ⟨said, kept⟩
  | recv connection answer viewed =>
      obtain ⟨channel, received, same⟩ := Option.map_eq_some_iff.mp ran
      obtain ⟨heard, screened⟩ := sound.screened connection
      cases same
      exact ⟨said, sound.kept_by_client connection ⟨heard, screened.delivered
        (sound.genuine screened.hears) whole keeps received⟩⟩
  | closeWindow connection =>
      cases ran
      obtain ⟨heard, screened⟩ := sound.screened connection
      have kept := sound.kept_by_client connection
        ⟨heard, screened.kept_by_terminate⟩
      rw [Path.setViewer, Path.setChannel, Function.update_eq_self] at kept
      exact ⟨said, kept⟩

end Path.Sound

end VirtioGpu.Display
