import VirtioGpu.Client.Renderer

namespace VirtioGpu.Client

open Foundation
open Vdpy

/-! What the announcements of the display server come to on the client's
screen. -/

/-- What an announcement asks the screen for, a modifier being known. -/
inductive Shot where
  | scene (scene : Scene)
  | swap
  deriving Repr, DecidableEq

/-- The scene of a surface, whose descriptor stands for its file. -/
def sceneOf (surf : Surface) (modifier : UInt64) : Scene :=
  imageAttrs (.parse (structSurface.bytes surf)) modifier

def modifierAfter (modifier : UInt64) : List Announcement → UInt64
  | [] => modifier
  | .modifier value :: rest => modifierAfter (.ofNat value) rest
  | .surface _ :: rest | .update :: rest => modifierAfter modifier rest

/-- The shots of a series of announcements, each scene with the modifier last
announced. -/
def shots (modifier : UInt64) : List Announcement → List Shot
  | [] => []
  | .modifier value :: rest => shots (.ofNat value) rest
  | .surface surf :: rest =>
      .scene (sceneOf surf modifier) :: shots modifier rest
  | .update :: rest => .swap :: shots modifier rest

def FilmEvent.shot? : FilmEvent → Option Shot
  | .scene shown _ => some (.scene shown)
  | .swap => some .swap
  | .close => none

def Film.playAll (film : Film) (events : List FilmEvent) : Film :=
  events.foldl play film

section Shots

variable {modifier : UInt64} {first second : List Announcement}

theorem modifierAfter_append : modifierAfter modifier (first ++ second) =
    modifierAfter (modifierAfter modifier first) second := by
  induction first generalizing modifier with
  | nil => rfl
  | cons announcement rest induction =>
      cases announcement with
      | modifier value => exact induction
      | surface surf => exact induction
      | update => exact induction

theorem shots_append : shots modifier (first ++ second) =
    shots modifier first ++ shots (modifierAfter modifier first) second := by
  induction first generalizing modifier with
  | nil => rfl
  | cons announcement rest induction =>
      cases announcement with
      | modifier value => exact induction
      | surface surf => exact congrArg (List.cons _) induction
      | update => exact congrArg (List.cons _) induction

end Shots

/-! The messages. -/

/-- A surface is a dmabuf, with all the members of the structure. -/
def Genuine : Announcement → Prop
  | .surface surf => ∃ record : SurfaceRecord,
      record.surfType.toNat = surfaceDmabuf ∧ record.surface = surf
  | .modifier _ | .update => True

/-- The film so far, with the shots it was made of. -/
structure Viewer.Screens (viewer : Viewer) (made : List Shot)
    (modifier : UInt64) (events : List FilmEvent) : Prop where
  taken : events.filterMap FilmEvent.shot? = made
  modifier : viewer.renderer.modifier = modifier
  projects : viewer.Projects (Film.initial.playAll events)

namespace Viewer

variable {viewer : Viewer} {made : List Shot} {modifier : UInt64}
  {events : List FilmEvent} {answer : ViewerAnswer}

theorem initial_screens : initial.Screens [] 0 [] :=
  ⟨rfl, rfl, initial_projects⟩

theorem Screens.terminate (screens : viewer.Screens made modifier events) :
    viewer.terminate.Screens made modifier (events ++ [.close]) := by
  refine ⟨?_, screens.modifier, ?_⟩
  · simp [screens.taken, FilmEvent.shot?]
  · rw [Film.playAll, List.foldl_append]
    exact screens.projects.terminate

/-- One event more. -/
theorem Screens.next (screens : viewer.Screens made modifier events)
    {after : Viewer} {event : FilmEvent} {shot : Shot}
    (shows : event.shot? = some shot)
    (kept : after.renderer.modifier = modifier)
    (projects : after.Projects
      ((Film.initial.playAll events).play event)) :
    after.Screens (made ++ [shot]) modifier (events ++ [event]) := by
  refine ⟨?_, kept, ?_⟩
  · simp [screens.taken, shows]
  · rw [Film.playAll, List.foldl_append]
    exact projects

theorem vdpySurfaceSet_modifier (renderer : Renderer) (surf : SurfaceRecord)
    (egl : EglAnswer) :
    (renderer.vdpySurfaceSet surf egl).1.modifier = renderer.modifier := by
  unfold Renderer.vdpySurfaceSet
  dsimp only
  repeat' split
  all_goals rfl

/-- The client takes the structure as the server has it. -/
theorem handleClientEvent_surface (record : SurfaceRecord)
    (dmabuf : record.surfType.toNat = surfaceDmabuf) :
    (handleClientEvent clientLoop dpyEventSurfaceSet record.bytes).effects =
      [.surfaceSet record.bytes] := by
  have first : wordAt record.bytes 0 = surfaceDmabuf := by
    have stored := record.front_at 0 rfl
    have small : wordAt record.bytes (4 * 0) < 2 ^ 32 := by
      have bound := wordOf_lt ((record.bytes.drop (4 * 0)).take 4)
      rw [List.length_take, List.length_drop, record.length_bytes] at bound
      exact bound
    rw [← dmabuf, ← stored, word32At, UInt32.toNat_ofNat',
      Nat.mod_eq_of_lt small]
  have handled : handleClientEvent clientLoop dpyEventSurfaceSet
      record.bytes = rendererSurfaceSet record.bytes :=
    rfl
  rw [handled, rendererSurfaceSet, if_pos first]
  dsimp only
  rw [List.take_of_length_le (Nat.le_of_eq record.length_bytes)]

/-- A message brings what it announces to the screen. -/
theorem Screens.handle (screens : viewer.Screens made modifier events)
    {announcement : Announcement} (genuine : Genuine announcement)
    (obliges : viewer.Obliges answer) :
    ∃ more, Viewer.Screens
      (viewer.handle (structSurface.message announcement).eType
        (structSurface.message announcement).body
        ((structSurface.message announcement).fd.map UInt32.ofNat) answer)
      (made ++ Client.shots modifier [announcement])
      (modifierAfter modifier [announcement]) (events ++ more) := by
  cases announcement with
  | modifier value =>
      have small : wordOf ((wordBytes 8 value).take modifierSize) =
          value % 256 ^ 8 := by
        unfold modifierSize
        rw [List.take_of_length_le (Nat.le_of_eq (length_wordBytes 8 value)),
          wordOf_wordBytes]
      have word : UInt64.ofNat (value % 256 ^ 8) = UInt64.ofNat value := by
        apply UInt64.toNat.inj
        simp
      have acts : viewer.handle (setModifier value).eType
          (setModifier value).body none answer =
          { viewer with
            renderer := viewer.renderer.vdpySetModifier (.ofNat value) } := by
        rw [← word, ← small]
        rfl
      refine ⟨[], ?_⟩
      show Viewer.Screens (viewer.handle (setModifier value).eType
        (setModifier value).body none answer) (made ++ []) _ (events ++ [])
      rw [acts, List.append_nil, List.append_nil]
      exact ⟨screens.taken, rfl, screens.projects.setModifier _⟩
  | surface surf =>
      obtain ⟨record, dmabuf, rfl⟩ := genuine
      have acts : viewer.handle
          (structSurface.message (.surface record.surface)).eType
          (structSurface.message (.surface record.surface)).body
          (some (.ofNat record.surface.dmabufFd)) answer =
          Viewer.calls
            { viewer with gl := viewer.gl.receive answer.fd record.dmabufFd }
            (viewer.renderer.vdpySurfaceSet
              { record with dmabufFd := answer.fd } answer.egl) := by
        have file : UInt32.ofNat record.surface.dmabufFd =
            record.dmabufFd :=
          UInt32.ofNat_toNat
        have effects := handleClientEvent_surface record dmabuf
        unfold Viewer.handle
        show List.foldl _ _ (handleClientEvent clientLoop dpyEventSurfaceSet
          (structSurface.bytes record.surface)).effects = _
        rw [structSurface_bytes, effects, file]
        dsimp only [List.foldl, Viewer.act]
        rw [record.parse_bytes]
      refine ⟨[.scene (sceneOf record.surface modifier)
        (decide (answer.egl.image ≠ 0))], ?_⟩
      have scene : sceneOf record.surface modifier =
          imageAttrs record viewer.renderer.modifier := by
        rw [sceneOf, structSurface_bytes, record.parse_bytes,
          screens.modifier]
      refine screens.next rfl ?_ ?_
      · show (viewer.handle _ _ (some (.ofNat record.surface.dmabufFd))
          answer).renderer.modifier = modifier
        rw [acts]
        exact (vdpySurfaceSet_modifier _ _ _).trans screens.modifier
      · show (viewer.handle _ _ (some (.ofNat record.surface.dmabufFd))
          answer).Projects _
        rw [acts, scene]
        exact screens.projects.surfaceSet obliges dmabuf rfl
  | update =>
      refine ⟨[.swap], ?_⟩
      exact screens.next rfl screens.modifier screens.projects.update

end Viewer

end VirtioGpu.Client
