import VirtioGpu.Vdpy.Record
import Mathlib.Logic.Function.Basic

namespace VirtioGpu.Client

open Vdpy

/-! The renderer of the client, with the calls it makes of the system, EGL and
GL. -/

/-- The attributes of an image that is made of a dmabuf. -/
inductive EglAttr where
  | width
  | height
  | linuxDrmFourcc
  | plane0Fd
  | plane0Pitch
  | plane0Offset
  | plane0ModifierLo
  | plane0ModifierHi
  deriving Repr, DecidableEq

/-- The list up to `EGL_NONE`. -/
abbrev Attrs := List (EglAttr × UInt32)

/-- The number 0 stands for `EGL_NO_IMAGE_KHR`. -/
inductive GlCall where
  | close (fd : UInt32)
  | deleteTexture (texture : Nat)
  | genTexture (texture : Nat)
  | bindTexture (texture : Nat)
  | createImage (attrs : Attrs) (image : Nat)
  | targetTexture (image : Nat)
  | destroyImage (image : Nat)
  | drawTexture (texture : Nat)
  | swapBuffers
  | destroyContext
  deriving Repr, DecidableEq

/-- The fields of `gl_ctx` that change once the window is there; the number 0
stands for none. -/
structure Renderer where
  initialized : Bool
  modifier : UInt64
  curSurf : SurfaceRecord
  surfTex : Nat
  eglImg : Nat
  deriving Repr, DecidableEq

/-- What `glGenTextures` and `eglCreateImageKHR` give. -/
structure EglAnswer where
  texture : Nat
  image : Nat
  deriving Repr, DecidableEq

/-- A modifier of 0 is left to the driver of the display. -/
def imageAttrs (surf : SurfaceRecord) (modifier : UInt64) : Attrs :=
  [(.width, surf.width), (.height, surf.height),
    (.linuxDrmFourcc, surf.surfFourcc), (.plane0Fd, surf.dmabufFd),
    (.plane0Pitch, surf.stride), (.plane0Offset, surf.dmabufOffset)] ++
    if modifier ≠ 0 then
      [(.plane0ModifierLo, modifier.toUInt32),
        (.plane0ModifierHi, (modifier >>> 32).toUInt32)]
    else []

namespace Renderer

/-- The surface shown so far gives up its descriptor. -/
def closes (renderer : Renderer) : List GlCall :=
  if renderer.curSurf.dmabufFd ≠ 0 then [.close renderer.curSurf.dmabufFd]
  else []

def vdpySurfaceSet (renderer : Renderer) (surf : SurfaceRecord)
    (answer : EglAnswer) : Renderer × List GlCall :=
  if surf.surfType.toNat ≠ surfaceDmabuf then (renderer, [])
  else
    let kept := { renderer with curSurf := surf }
    if !renderer.initialized then (kept, renderer.closes)
    else
      let textured := { kept with surfTex := answer.texture }
      let asks := renderer.closes ++
        (if renderer.surfTex ≠ 0 then [.deleteTexture renderer.surfTex]
          else []) ++
        [.genTexture answer.texture, .bindTexture answer.texture,
          .createImage (imageAttrs surf renderer.modifier) answer.image]
      if answer.image = 0 then (textured, asks)
      else
        ({ textured with eglImg := answer.image },
          asks ++
            [.bindTexture answer.texture, .targetTexture answer.image] ++
            if renderer.eglImg ≠ 0 then [.destroyImage renderer.eglImg]
            else [])

/-- Before the window is there, or after it has gone, nothing is drawn. -/
def vdpySurfaceUpdate (renderer : Renderer) : List GlCall :=
  if !renderer.initialized then []
  else
    (if renderer.surfTex ≠ 0 then [.drawTexture renderer.surfTex] else []) ++
      [.swapBuffers]

def vdpySetModifier (renderer : Renderer) (modifier : UInt64) : Renderer :=
  { renderer with modifier := modifier }

def terminate (renderer : Renderer) : Renderer × List GlCall :=
  ({ renderer with
      initialized := false
      curSurf := { renderer.curSurf with dmabufFd := 0 } },
    renderer.closes ++ [.destroyContext])

end Renderer

/-! What the calls bring about. -/

/-- An image as it is asked for, with the file itself in the place of the
descriptor. -/
abbrev Scene := Attrs

/-- The open descriptors, each with the file it stands for; the texture that is
bound, the images and what each texture shows; what is drawn, and the frames
that were swapped in. -/
structure Gl where
  files : UInt32 → Option UInt32
  bound : Nat
  images : Nat → Option Scene
  textures : Nat → Option Scene
  drawn : Option Scene
  frames : List (Option Scene)

namespace Gl

def initial : Gl :=
  ⟨fun _ => none, 0, fun _ => none, fun _ => none, none, []⟩

/-- `recvmsg` puts the file under a descriptor. -/
def receive (gl : Gl) (fd file : UInt32) : Gl :=
  { gl with files := Function.update gl.files fd (some file) }

def resolve (gl : Gl) (attrs : Attrs) : Scene :=
  attrs.map fun entry =>
    if entry.1 = .plane0Fd then (entry.1, (gl.files entry.2).getD 0)
    else entry

/-- An image keeps its file, and a texture its image, whatever becomes of the
descriptor and the image later on. -/
def call (gl : Gl) : GlCall → Gl
  | .close fd => { gl with files := Function.update gl.files fd none }
  | .deleteTexture texture | .genTexture texture =>
      { gl with textures := Function.update gl.textures texture none }
  | .bindTexture texture => { gl with bound := texture }
  | .createImage attrs image =>
      if image = 0 then gl
      else { gl with
        images := Function.update gl.images image (some (gl.resolve attrs)) }
  | .targetTexture image =>
      { gl with
        textures := Function.update gl.textures gl.bound (gl.images image) }
  | .destroyImage image =>
      { gl with images := Function.update gl.images image none }
  | .drawTexture texture => { gl with drawn := gl.textures texture }
  | .swapBuffers =>
      { gl with
        drawn := none
        frames := gl.frames ++ [gl.drawn] }
  | .destroyContext =>
      { gl with
        bound := 0
        images := fun _ => none
        textures := fun _ => none }

def run (gl : Gl) (calls : List GlCall) : Gl :=
  calls.foldl call gl

end Gl

/-! What the client is for: it shows the last scene. -/

/-- What is asked of the renderer, with whether EGL makes the image. -/
inductive FilmEvent where
  | scene (scene : Scene) (made : Bool)
  | swap
  | close
  deriving Repr, DecidableEq

/-- Whether the window is there, the scene to be shown and the frames shown. -/
structure Film where
  hasWindow : Bool
  scene : Option Scene
  frames : List (Option Scene)
  deriving Repr, DecidableEq

namespace Film

def initial : Film := ⟨true, none, []⟩

def play (film : Film) : FilmEvent → Film
  | .scene scene made =>
      if film.hasWindow then
        { film with scene := if made then some scene else none }
      else film
  | .swap =>
      if film.hasWindow then
        { film with frames := film.frames ++ [film.scene] }
      else film
  | .close => { film with hasWindow := false }

end Film

/-! The client's screen and what is to be seen on it. -/

structure Viewer where
  renderer : Renderer
  gl : Gl

/-- What `recv_fd` and EGL give for one message: the descriptor under which the
file comes, and the names of the texture and the image. -/
structure ViewerAnswer where
  fd : UInt32
  egl : EglAnswer
  deriving Repr, DecidableEq

def clientLoop : EventLoop := ⟨.client, false, true⟩

namespace Viewer

/-- `makeCurrent` has returned: the window is there. -/
def initial : Viewer where
  renderer := ⟨true, 0, ⟨0, 0, 0, 0, 0, 0, 0, 0, 0, 0, 0, 0⟩, 0, 0⟩
  gl := .initial

def calls (viewer : Viewer) (done : Renderer × List GlCall) : Viewer :=
  ⟨done.1, viewer.gl.run done.2⟩

def act (answer : ViewerAnswer) (viewer : Viewer) : Effect → Viewer
  | .surfaceSet bytes =>
      let surf := { SurfaceRecord.parse bytes with dmabufFd := answer.fd }
      viewer.calls (viewer.renderer.vdpySurfaceSet surf answer.egl)
  | .surfaceUpdate =>
      viewer.calls (viewer.renderer, viewer.renderer.vdpySurfaceUpdate)
  | .setModifier modifier =>
      { viewer with
        renderer := viewer.renderer.vdpySetModifier (.ofNat modifier) }
  | .setInfo _ _ _ _ | .triger | .closeClient | .startCast | .stopCast =>
      viewer

/-- A message, with the file that came with it. -/
def handle (viewer : Viewer) (eType : Nat) (buf : List UInt8)
    (file : Option UInt32) (answer : ViewerAnswer) : Viewer :=
  let received :=
    match file with
    | none => viewer
    | some file => { viewer with gl := viewer.gl.receive answer.fd file }
  (handleClientEvent clientLoop eType buf).effects.foldl (act answer) received

def terminate (viewer : Viewer) : Viewer :=
  viewer.calls viewer.renderer.terminate

/-- The kernel gives out a free descriptor, which is not 0, and GL a name. -/
def Obliges (viewer : Viewer) (answer : ViewerAnswer) : Prop :=
  answer.fd ≠ 0 ∧ viewer.gl.files answer.fd = none ∧ answer.egl.texture ≠ 0

instance (viewer : Viewer) (answer : ViewerAnswer) :
    Decidable (viewer.Obliges answer) :=
  inferInstanceAs (Decidable (_ ∧ _))

/-- The client shows the film, and of all descriptors it has received it holds
that of the current surface. -/
structure Projects (viewer : Viewer) (film : Film) : Prop where
  window : film.hasWindow = viewer.renderer.initialized
  frames : viewer.gl.frames = film.frames
  undrawn : viewer.gl.drawn = none
  scene : viewer.renderer.initialized = true → film.scene =
    if viewer.renderer.surfTex = 0 then none
    else viewer.gl.textures viewer.renderer.surfTex
  holds : ∀ fd, (viewer.gl.files fd).isSome = true ↔
    fd = viewer.renderer.curSurf.dmabufFd ∧ fd ≠ 0

theorem initial_projects : initial.Projects Film.initial where
  window := rfl
  frames := rfl
  undrawn := rfl
  scene := fun _ => rfl
  holds := by
    intro fd
    constructor
    · intro isOpen
      cases isOpen
    · intro held
      exact absurd held.1 held.2

end Viewer

namespace Gl

variable (gl : Gl)

theorem run_append (first second : List GlCall) :
    gl.run (first ++ second) = (gl.run first).run second :=
  List.foldl_append

theorem resolve_imageAttrs {surf : SurfaceRecord} {file : UInt32}
    (modifier : UInt64) (stands : gl.files surf.dmabufFd = some file) :
    gl.resolve (imageAttrs surf modifier) =
      imageAttrs { surf with dmabufFd := file } modifier := by
  unfold imageAttrs resolve
  split <;> simp [stands]

/-- The current surface gives up its descriptor, and nothing else changes. -/
theorem run_closes (renderer : Renderer) :
    gl.run renderer.closes =
      { gl with
        files :=
          if renderer.curSurf.dmabufFd = 0 then gl.files
          else Function.update gl.files renderer.curSurf.dmabufFd none } := by
  unfold Renderer.closes
  by_cases bare : renderer.curSurf.dmabufFd = 0
  · rw [if_neg (not_not.mpr bare), if_pos bare]
    rfl
  · rw [if_pos bare, if_neg bare]
    rfl

/-- What the calls for a new surface leave behind, from the time that the
descriptor of the last one is closed. -/
structure Retextured (before after : Gl) (texture : Nat)
    (scene : Option Scene) : Prop where
  files : after.files = before.files
  frames : after.frames = before.frames
  drawn : after.drawn = before.drawn
  shows : after.textures texture = scene

theorem run_refused (old texture : Nat) (attrs : Attrs) :
    Retextured gl
      (gl.run ((if old ≠ 0 then [.deleteTexture old] else []) ++
        [.genTexture texture, .bindTexture texture, .createImage attrs 0]))
      texture none := by
  rw [run_append]
  by_cases bare : old = 0
  · rw [if_neg (not_not.mpr bare)]
    exact ⟨rfl, rfl, rfl, Function.update_self _ _ _⟩
  · rw [if_pos bare]
    exact ⟨rfl, rfl, rfl, Function.update_self _ _ _⟩

theorem run_made (old texture last : Nat) {image : Nat} (attrs : Attrs)
    (made : image ≠ 0) :
    Retextured gl
      (gl.run ((if old ≠ 0 then [.deleteTexture old] else []) ++
        [.genTexture texture, .bindTexture texture,
          .createImage attrs image] ++
        [.bindTexture texture, .targetTexture image] ++
        if last ≠ 0 then [.destroyImage last] else []))
      texture (some (gl.resolve attrs)) := by
  have targeted : ∀ start : Gl, start.files = gl.files →
      start.frames = gl.frames → start.drawn = gl.drawn →
      Retextured gl
        (start.run ([.genTexture texture, .bindTexture texture,
            .createImage attrs image] ++
          [.bindTexture texture, .targetTexture image]))
        texture (some (gl.resolve attrs)) := by
    intro start files frames drawn
    refine ⟨?_, ?_, ?_, ?_⟩
    · simp [run, call, made, files]
    · simp [run, call, made, frames]
    · simp [run, call, made, drawn]
    · simp [run, call, made, resolve, files]
  have shown : Retextured gl
      (gl.run ((if old ≠ 0 then [.deleteTexture old] else []) ++
        ([.genTexture texture, .bindTexture texture,
          .createImage attrs image] ++
        [.bindTexture texture, .targetTexture image])))
      texture (some (gl.resolve attrs)) := by
    rw [run_append]
    split
    · exact targeted _ rfl rfl rfl
    · exact targeted _ rfl rfl rfl
  rw [run_append, List.append_assoc]
  by_cases first : last = 0
  · rw [if_neg (not_not.mpr first)]
    exact shown
  · rw [if_pos first]
    exact ⟨shown.files, shown.frames, shown.drawn, shown.shows⟩

end Gl

namespace Viewer

section Messages

variable {viewer : Viewer} {film : Film} {answer : ViewerAnswer}
  {file : UInt32}

theorem Projects.setModifier (projects : viewer.Projects film)
    (modifier : UInt64) :
    Viewer.Projects
      { viewer with renderer := viewer.renderer.vdpySetModifier modifier }
      film :=
  ⟨projects.window, projects.frames, projects.undrawn, projects.scene,
    projects.holds⟩

theorem Projects.update (projects : viewer.Projects film) :
    Viewer.Projects
      (viewer.calls (viewer.renderer, viewer.renderer.vdpySurfaceUpdate))
      (film.play .swap) := by
  cases ready : viewer.renderer.initialized with
  | false =>
      have stays : film.play .swap = film := by
        simp [Film.play, projects.window, ready]
      have idle : viewer.renderer.vdpySurfaceUpdate = [] := by
        simp [Renderer.vdpySurfaceUpdate, ready]
      rw [stays, idle]
      exact projects
  | true =>
      have shown : film.play .swap =
          { film with frames := film.frames ++ [film.scene] } := by
        simp [Film.play, projects.window, ready]
      have scene := projects.scene ready
      rw [shown]
      by_cases bare : viewer.renderer.surfTex = 0
      · have swaps : viewer.renderer.vdpySurfaceUpdate = [.swapBuffers] := by
          simp [Renderer.vdpySurfaceUpdate, ready, bare]
        rw [if_pos bare] at scene
        rw [swaps]
        refine ⟨projects.window, ?_, rfl, projects.scene, projects.holds⟩
        simp [calls, Gl.run, Gl.call, projects.frames, projects.undrawn,
          scene]
      · have draws : viewer.renderer.vdpySurfaceUpdate =
            [.drawTexture viewer.renderer.surfTex, .swapBuffers] := by
          simp [Renderer.vdpySurfaceUpdate, ready, bare]
        rw [if_neg bare] at scene
        rw [draws]
        refine ⟨projects.window, ?_, rfl, projects.scene, projects.holds⟩
        simp [calls, Gl.run, Gl.call, projects.frames, scene]

/-- The current surface has given up its descriptor. -/
theorem Projects.files_closed (projects : viewer.Projects film)
    (fd : UInt32) :
    (viewer.gl.run viewer.renderer.closes).files fd = none := by
  have held := projects.holds fd
  rw [Gl.run_closes]
  dsimp only
  by_cases bare : viewer.renderer.curSurf.dmabufFd = 0
  · rw [if_pos bare, ← Option.not_isSome_iff_eq_none, held]
    rintro ⟨rfl, shown⟩
    exact shown bare
  · rw [if_neg bare]
    by_cases same : fd = viewer.renderer.curSurf.dmabufFd
    · rw [same, Function.update_self]
    · rw [Function.update_of_ne same, ← Option.not_isSome_iff_eq_none, held]
      exact fun current => same current.1

/-- A surface comes under a descriptor of its own, which is then the only
one. -/
theorem Projects.files_received (projects : viewer.Projects film)
    (obliges : viewer.Obliges answer) (fd : UInt32) :
    ((viewer.gl.receive answer.fd file).run viewer.renderer.closes).files fd =
      if fd = answer.fd then some file else none := by
  have before := projects.files_closed fd
  have fresh := projects.holds answer.fd
  rw [obliges.2.1] at fresh
  have other : answer.fd ≠ viewer.renderer.curSurf.dmabufFd := by
    intro same
    have isOpen := fresh.mpr ⟨same, obliges.1⟩
    cases isOpen
  rw [Gl.run_closes] at before ⊢
  dsimp only [Gl.receive] at before ⊢
  by_cases mine : fd = answer.fd
  · rw [if_pos mine, mine]
    split
    · exact Function.update_self _ _ _
    · rw [Function.update_of_ne other, Function.update_self]
  · rw [if_neg mine, ← before]
    split
    · exact Function.update_of_ne mine _ _
    · by_cases current : fd = viewer.renderer.curSurf.dmabufFd
      · rw [current, Function.update_self, Function.update_self]
      · rw [Function.update_of_ne current, Function.update_of_ne mine,
          Function.update_of_ne current]

/-- What a surface finds when the last one has given up its descriptor. -/
structure Cleared (gl : Gl) (film : Film) (fd file : UInt32) : Prop where
  files : ∀ other, gl.files other = if other = fd then some file else none
  frames : gl.frames = film.frames
  undrawn : gl.drawn = none

theorem Projects.cleared (projects : viewer.Projects film)
    (obliges : viewer.Obliges answer) :
    Cleared ((viewer.gl.receive answer.fd file).run viewer.renderer.closes)
      film answer.fd file := by
  refine ⟨projects.files_received obliges, ?_, ?_⟩
  · rw [Gl.run_closes]
    exact projects.frames
  · rw [Gl.run_closes]
    exact projects.undrawn

theorem Cleared.stands {gl : Gl} {fd : UInt32}
    (cleared : Cleared gl film fd file) : gl.files fd = some file := by
  rw [cleared.files, if_pos rfl]

theorem Cleared.holds {gl : Gl} {fd : UInt32}
    (cleared : Cleared gl film fd file) (nonzero : fd ≠ 0) (other : UInt32) :
    (gl.files other).isSome = true ↔ other = fd ∧ other ≠ 0 := by
  rw [cleared.files]
  constructor
  · intro isOpen
    split at isOpen
    · rename_i same
      exact ⟨same, same ▸ nonzero⟩
    · cases isOpen
  · intro same
    rw [if_pos same.1]
    rfl

/-- The texture of the new surface is the scene. -/
theorem Cleared.projects {gl final : Gl} {renderer : Renderer} {fd : UInt32}
    {scene : Option Scene} (cleared : Cleared gl film fd file)
    (nonzero : fd ≠ 0) (window : film.hasWindow = renderer.initialized)
    (current : renderer.curSurf.dmabufFd = fd)
    (textured : renderer.surfTex ≠ 0)
    (retextured : gl.Retextured final renderer.surfTex scene) :
    Viewer.Projects ⟨renderer, final⟩ { film with scene := scene } := by
  refine ⟨window, retextured.frames.trans cleared.frames,
    retextured.drawn.trans cleared.undrawn, ?_, ?_⟩
  · intro _
    rw [if_neg textured]
    exact retextured.shows.symm
  · intro other
    rw [retextured.files, current]
    exact cleared.holds nonzero other

section SurfaceSet

variable {surf : SurfaceRecord} (projects : viewer.Projects film)
  (obliges : viewer.Obliges answer)
  (dmabuf : surf.surfType.toNat = surfaceDmabuf)
  (named : surf.dmabufFd = answer.fd)

include projects obliges dmabuf named

/-- Without the window only the descriptor is kept. -/
theorem Projects.surfaceSet_unseen
    (unseen : viewer.renderer.initialized = false) :
    Viewer.Projects
      (Viewer.calls { viewer with gl := viewer.gl.receive answer.fd file }
        (viewer.renderer.vdpySurfaceSet surf answer.egl)) film := by
  have keeps : viewer.renderer.vdpySurfaceSet surf answer.egl =
      ({ viewer.renderer with curSurf := surf }, viewer.renderer.closes) := by
    simp [Renderer.vdpySurfaceSet, dmabuf, unseen]
  have cleared := @Projects.cleared viewer film answer file projects obliges
  rw [keeps]
  unfold calls
  dsimp only
  refine ⟨projects.window, cleared.frames, cleared.undrawn, ?_, ?_⟩
  · intro drawing
    rw [unseen] at drawing
    cases drawing
  · dsimp only
    rw [named]
    exact cleared.holds obliges.1

/-- EGL refuses the image, and the texture stays empty. -/
theorem Projects.surfaceSet_refused
    (ready : viewer.renderer.initialized = true)
    (refused : answer.egl.image = 0) :
    Viewer.Projects
      (Viewer.calls { viewer with gl := viewer.gl.receive answer.fd file }
        (viewer.renderer.vdpySurfaceSet surf answer.egl))
      { film with scene := none } := by
  have asks : viewer.renderer.vdpySurfaceSet surf answer.egl =
      ({ viewer.renderer with
          curSurf := surf
          surfTex := answer.egl.texture },
        viewer.renderer.closes ++
          ((if viewer.renderer.surfTex ≠ 0 then
            [.deleteTexture viewer.renderer.surfTex] else []) ++
          [.genTexture answer.egl.texture, .bindTexture answer.egl.texture,
            .createImage (imageAttrs surf viewer.renderer.modifier) 0])) := by
    simp [Renderer.vdpySurfaceSet, dmabuf, ready, refused]
  rw [asks]
  unfold calls
  dsimp only
  rw [Gl.run_append]
  exact Cleared.projects (projects.cleared obliges) obliges.1 projects.window
    named obliges.2.2 (Gl.run_refused _ _ _ _)

/-- The image that EGL made comes to be shown. -/
theorem Projects.surfaceSet_made
    (ready : viewer.renderer.initialized = true)
    (made : answer.egl.image ≠ 0) :
    Viewer.Projects
      (Viewer.calls { viewer with gl := viewer.gl.receive answer.fd file }
        (viewer.renderer.vdpySurfaceSet surf answer.egl))
      { film with scene := some (imageAttrs { surf with dmabufFd := file }
        viewer.renderer.modifier) } := by
  have asks : viewer.renderer.vdpySurfaceSet surf answer.egl =
      ({ viewer.renderer with
          curSurf := surf
          surfTex := answer.egl.texture
          eglImg := answer.egl.image },
        viewer.renderer.closes ++
          ((if viewer.renderer.surfTex ≠ 0 then
            [.deleteTexture viewer.renderer.surfTex] else []) ++
          [.genTexture answer.egl.texture, .bindTexture answer.egl.texture,
            .createImage (imageAttrs surf viewer.renderer.modifier)
              answer.egl.image] ++
          [.bindTexture answer.egl.texture,
            .targetTexture answer.egl.image] ++
          if viewer.renderer.eglImg ≠ 0 then
            [.destroyImage viewer.renderer.eglImg] else [])) := by
    simp [Renderer.vdpySurfaceSet, dmabuf, ready, made]
  have cleared := @Projects.cleared viewer film answer file projects obliges
  have stands : ((viewer.gl.receive answer.fd file).run
      viewer.renderer.closes).files surf.dmabufFd = some file := by
    rw [named]
    exact cleared.stands
  rw [asks, ← Gl.resolve_imageAttrs _ viewer.renderer.modifier stands]
  unfold calls
  dsimp only
  rw [Gl.run_append]
  exact cleared.projects obliges.1 projects.window named obliges.2.2
    (Gl.run_made _ _ _ _ _ made)

/-- A surface comes to be the scene, or leaves none if EGL refuses. -/
theorem Projects.surfaceSet :
    Viewer.Projects
      (Viewer.calls { viewer with gl := viewer.gl.receive answer.fd file }
        (viewer.renderer.vdpySurfaceSet surf answer.egl))
      (film.play (.scene
        (imageAttrs { surf with dmabufFd := file } viewer.renderer.modifier)
        (decide (answer.egl.image ≠ 0)))) := by
  cases ready : viewer.renderer.initialized with
  | false =>
      have stays : ∀ scene made, film.play (.scene scene made) = film := by
        intro scene made
        simp [Film.play, projects.window, ready]
      rw [stays]
      exact projects.surfaceSet_unseen obliges dmabuf named ready
  | true =>
      have shown : ∀ scene made, film.play (.scene scene made) =
          { film with scene := if made then some scene else none } := by
        intro scene made
        simp [Film.play, projects.window, ready]
      rw [shown]
      by_cases refused : answer.egl.image = 0
      · rw [decide_eq_false (not_not.mpr refused), if_neg Bool.false_ne_true]
        exact projects.surfaceSet_refused obliges dmabuf named ready refused
      · rw [decide_eq_true refused, if_pos rfl]
        exact projects.surfaceSet_made obliges dmabuf named ready refused

end SurfaceSet

/-- Once the window has gone, only descriptors are kept. -/
theorem Projects.terminate (projects : viewer.Projects film) :
    viewer.terminate.Projects (film.play .close) := by
  have closed := projects.files_closed
  unfold Viewer.terminate Renderer.terminate calls
  dsimp only
  rw [Gl.run_append]
  rw [Gl.run_closes] at closed ⊢
  refine ⟨rfl, projects.frames, projects.undrawn, ?_, ?_⟩
  · intro drawing
    cases drawing
  · intro fd
    have gone := closed fd
    constructor
    · intro isOpen
      rw [← Option.not_isSome_iff_eq_none] at gone
      exact absurd isOpen gone
    · intro held
      exact absurd held.1 held.2

end Messages

end Viewer

end VirtioGpu.Client
