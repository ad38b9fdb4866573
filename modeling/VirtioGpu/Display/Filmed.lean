import VirtioGpu.Backend.BlobSurface
import VirtioGpu.Backend.ScanoutIds
import VirtioGpu.Display.Screened

namespace VirtioGpu.Display

open Foundation
open Backend hiding Event
open Gpu hiding Surface
open Vdpy
open Client

/-! What the clients show is what the driver asked for, in its order, from the
time that each of them came. -/

/-- A dmabuf is handed over as a structure; pixels never leave the server. -/
def handedOver : Frame → Option SurfaceRecord
  | .pixels _ _ _ _ _ => none
  | .dmabuf rect stride fd fourcc offset =>
      some (recordOf (.dmabuf rect stride fd fourcc offset))
  | .dmabufUpdate fd => some (recordOf (.dmabufUpdate fd))

/-- What the clients are to be told of a showing. -/
def announced : Showing → Option Announcement
  | .surfaceSet _ frame =>
      (frame.bind handedOver).map fun record => .surface record.surface
  | .surfaceUpdate _ frame => (handedOver frame).map fun _ => .update
  | .setModifier scanoutId modifier =>
      if scanoutId < vscrsNum then some (.modifier modifier) else none
  | .cursorDefine _ _ _ _ _ _ _ _ | .cursorMove _ _ _ => none

section Showings

end Showings

/-! Whole runs. -/

theorem framed_initial {peer : Peer} {channel : Channel peer}
    (starts : (connection peer).initial channel) : Framed channel [] [] := by
  obtain ⟨sendErrno, recvErrno, buf, sized, rfl⟩ := starts
  refine ⟨⟨rfl, rfl, trivial, rfl, ?_, sized, ?_, ?_⟩, .idle [],
    Receiving.noConfusion⟩
  · intro before message after same
    have length := congrArg List.length same
    rw [List.length_append] at length
    cases length
  · exact fun position member => absurd member List.not_mem_nil
  · exact fun call member => absurd member List.not_mem_nil

theorem sound_initial {path : Path} (starts : displayPath.initial path) :
    path.Sound [] := by
  obtain ⟨device, _, owed, made, clients, channels, viewers, joined⟩ := starts
  have events : path.traced.events = [] := by
    obtain ⟨vmctx, isBlobSupported, scanoutNum, memory, _, _, same⟩ := device
    rw [same]
  refine ⟨.initial device, ?_, ?_, ?_, ?_, fun connection => ⟨[], ?_⟩⟩
  · rw [clients]
    exact safe_fresh
  · rw [events, made, owed]
    rfl
  · rw [made, clients]
    rfl
  · rw [made, clients]
    rfl
  · rw [clients, joined, viewers]
    have framed := framed_initial (channels connection)
    have idle : (path.channels connection).dispatched = [] :=
      framed.dispatched
    refine ⟨framed.issued, ?_, ⟨[], [], framed⟩, [], ?_⟩
    · refine ⟨⟨[], [], [], [], rfl, rfl, rfl, rfl, fun _ => rfl⟩, ?_,
        fun _ => rfl, ?_⟩
      · intro nobody
        cases nobody
      · intro nobody
        cases nobody
    · rw [idle]
      exact Viewer.initial_screens

theorem reached_sound {path : Path}
    (reached : displayPath.ReachedWhere ReceivesWhole path) :
    ∃ said, path.Sound said := by
  refine reached.invariant (fun path => ∃ said, path.Sound said) ?_ ?_
  · exact fun start starts => ⟨[], sound_initial starts⟩
  · rintro before label after ⟨said, sound⟩ whole ⟨keeps, ran⟩
    exact sound.kept_by_act keeps whole ran

/-- A client at rest has been dispatched all that it was sent. -/
theorem Screened.settled {clients : Clients} {said heard : List Announcement}
    {connection joined : Nat} {channel : Channel .client} {viewer : Viewer}
    (screened : Screened clients said connection joined channel viewer heard)
    (settled : Settled channel) :
    heard.take channel.dispatched.length = heard := by
  obtain ⟨done, pending, framed⟩ := screened.framed
  have all := framed.framesKept.complete settled
  rw [screened.issued] at all
  apply List.take_of_length_le
  rw [all, List.length_map, List.length_map]

/-- A step whose outcome is computed where it is taken. -/
inductive Move where
  | device (label : Backend.Label)
  | path (label : PathLabel)

def permits (path : Path) : PathLabel → Bool
  | .backend _ _ => false
  | .recv connection answer viewed =>
      decide ((path.viewers connection).Obliges viewed) &&
        decide (MovesWhole (path.channels connection) (.recv answer))
  | .call | .display _ | .server _ _ | .knock _ | .wake _ _
  | .closeWindow _ => true

def move (path : Path) : Move → Option Path
  | .device label => do
      let after ← runLabels path.traced [label]
      path.act (.backend label after)
  | .path label => if permits path label then path.act label else none

end VirtioGpu.Display
