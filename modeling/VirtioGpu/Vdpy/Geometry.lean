import VirtioGpu.Vdpy.Edid
import VirtioGpu.Vdpy.OwnPayload

namespace VirtioGpu.Vdpy

open Foundation

/-! The size of a vscreen, from the options through the display thread to the
guest, while clients send sizes of their own. -/

def vdpyMaxWidth : Nat := 3840

def vdpyMaxHeight : Nat := 2160

def vdpyMinWidth : Nat := 640

def vdpyMinHeight : Nat := 480

structure DisplayInfo where
  xoff : Int
  yoff : Int
  width : Nat
  height : Nat
  deriving Repr, DecidableEq

structure Vscreen where
  info : DisplayInfo
  orgX : Int
  orgY : Int
  guestWidth : Int
  guestHeight : Int
  deriving Repr, DecidableEq

def clip (low high value : Int) : Int :=
  let value := if value < low then low else value
  if value > high then high else value

def vdpyCalibrateVscreenGeometry (vscr : Vscreen) : Vscreen :=
  if vscr.guestWidth ≠ 0 ∧ vscr.guestHeight ≠ 0 then
    { vscr with
      guestWidth := clip vdpyMinWidth vdpyMaxWidth vscr.guestWidth
      guestHeight := clip vdpyMinHeight vdpyMaxHeight vscr.guestHeight }
  else
    { vscr with
      orgX := 0xffff
      orgY := 0xffff
      guestWidth := vdpyDefaultWidth
      guestHeight := vdpyDefaultHeight }

/-- An int stored in a uint32_t. -/
def asUInt32 (value : Int) : Nat := (value % 4294967296).toNat

/-- A word of a message read as an int. -/
def asInt (word : Nat) : Int :=
  if word < 2147483648 then word else word - 4294967296

/-- One round of the loop that starts `vdpy_sdl_display_thread`. -/
def initVscreen (vscr : Vscreen) : Vscreen :=
  let vscr := vdpyCalibrateVscreenGeometry vscr
  { vscr with
    info := ⟨vscr.orgX, vscr.orgY, asUInt32 vscr.guestWidth,
      asUInt32 vscr.guestHeight⟩ }

/-- `vdpy`, with the receiver of its server thread and the number of vscreens
that its display thread has initialised. -/
structure DisplayServer where
  receiver : Receiver
  vscrs : List Vscreen
  initialised : Nat
  nConnect : Int
  deriving Repr, DecidableEq

/-- `vscr` of the server thread is the first vscreen. -/
def applyEffect (vscrs : List Vscreen) : Effect → List Vscreen
  | .setInfo xoff yoff width height =>
      vscrs.modify 0 fun vscr =>
        { vscr with info := ⟨asInt xoff, asInt yoff, width, height⟩ }
  | _ => vscrs

def newEffects (before after : Receiver) : List Effect :=
  (after.messages.drop before.messages.length).flatMap
    (·.handled.effects)

inductive DisplayAction where
  | receive (action : LoopAction)
  | initVscreen
  | connect
  deriving Repr, DecidableEq

/-- `connect` is the increment of `n_connect` in `vdpy_init`. -/
def DisplayServer.act (eventLoop : EventLoop) (server : DisplayServer) :
    DisplayAction → Option DisplayServer
  | .receive action =>
      (server.receiver.act eventLoop action).map fun after =>
        { server with
          receiver := after
          vscrs := (newEffects server.receiver after).foldl applyEffect
            server.vscrs }
  | .initVscreen =>
      if server.initialised < server.vscrs.length then
        some { server with
          vscrs := server.vscrs.modify server.initialised initVscreen
          initialised := server.initialised + 1 }
      else
        none
  | .connect =>
      if server.nConnect = 0 then some { server with nConnect := 1 }
      else none

/-- The options may have left any size in the vscreens. -/
def displayGeometry (eventLoop : EventLoop) :
    TransitionSystem DisplayServer DisplayAction where
  initial := fun server => (receiveLoop eventLoop).initial server.receiver ∧
    server.initialised = 0 ∧ server.nConnect = 0
  step := fun before action after =>
    before.act eventLoop action = some after

/-! What the guest is told. -/

/-- The vscreen a scanout id stands for, none for an id that the functions
return on. -/
def DisplayServer.vscreen (server : DisplayServer) (scanoutId : Nat) :
    Option Vscreen :=
  server.vscrs[scanoutId]?

def vdpyGetDisplayInfo (server : DisplayServer) (handle : Int)
    (scanoutId : Nat) (info : DisplayInfo) : DisplayInfo :=
  match server.vscreen scanoutId with
  | none => info
  | some vscr =>
      if handle = server.nConnect then vscr.info else ⟨0, 0, 0, 0⟩

/-- The size that `vdpy_get_edid` generates the block for. -/
def edidInfoOf (server : DisplayServer) (handle : Int) (vscr : Vscreen) :
    EdidInfo :=
  if handle = server.nConnect then ⟨vscr.info.width, vscr.info.height⟩
  else ⟨vdpyDefaultWidth, vdpyDefaultHeight⟩

def vdpyGetEdid (server : DisplayServer) (handle : Int) (scanoutId : Nat)
    (edid : Buffer) (size : Nat) : Buffer :=
  match server.vscreen scanoutId with
  | none => edid
  | some vscr =>
      vdpyEdidGenerate edid size (edidInfoOf server handle vscr)

/-! The supported range. -/

def SupportedSize (width height : Nat) : Prop :=
  vdpyMinWidth ≤ width ∧ width ≤ vdpyMaxWidth ∧
    vdpyMinHeight ≤ height ∧ height ≤ vdpyMaxHeight

instance (width height : Nat) : Decidable (SupportedSize width height) :=
  inferInstanceAs (Decidable (_ ∧ _))

/-- Every size that the handle of the connection is told or gets an EDID for
is supported. -/
structure DisplayServer.Advertises (server : DisplayServer) : Prop where
  info : ∀ scanoutId, (server.vscreen scanoutId).isSome → ∀ given,
    SupportedSize
      (vdpyGetDisplayInfo server server.nConnect scanoutId given).width
      (vdpyGetDisplayInfo server server.nConnect scanoutId given).height
  edid : ∀ scanoutId vscr, server.vscreen scanoutId = some vscr →
    SupportedSize (edidInfoOf server server.nConnect vscr).prefx
      (edidInfoOf server server.nConnect vscr).prefy

def Vscreen.Fits (vscr : Vscreen) : Prop :=
  SupportedSize vscr.info.width vscr.info.height

/-- The vscreens initialised so far have a supported size. -/
def DisplayServer.Calibrated (server : DisplayServer) : Prop :=
  ∀ index < server.initialised, ∀ vscr,
    server.vscrs[index]? = some vscr → vscr.Fits

theorem Calibrated.advertises {server : DisplayServer}
    (calibrated : server.Calibrated)
    (ready : server.initialised = server.vscrs.length) :
    server.Advertises := by
  have fits : ∀ scanoutId vscr, server.vscreen scanoutId = some vscr →
      vscr.Fits := by
    intro scanoutId vscr found
    apply calibrated scanoutId _ vscr found
    rw [ready]
    exact (List.getElem?_eq_some_iff.mp found).1
  constructor
  · intro scanoutId known given
    obtain ⟨vscr, found⟩ := Option.isSome_iff_exists.mp known
    unfold vdpyGetDisplayInfo
    rw [found]
    dsimp only
    rw [if_pos rfl]
    exact fits scanoutId vscr found
  · intro scanoutId vscr found
    unfold edidInfoOf
    rw [if_pos rfl]
    exact fits scanoutId vscr found

/-! The display thread brings every size into the range. -/

theorem clip_bounds {low high : Int} (value : Int) (ordered : low ≤ high) :
    low ≤ clip low high value ∧ clip low high value ≤ high := by
  unfold clip
  dsimp only
  constructor
  · split <;> split <;> omega
  · split <;> split <;> omega

theorem asUInt32_of_bounds {value : Int} {low high : Nat}
    (bounds : (low : Int) ≤ value ∧ value ≤ high)
    (small : high < 4294967296) :
    low ≤ asUInt32 value ∧ asUInt32 value ≤ high := by
  unfold asUInt32
  omega

theorem initVscreen_fits (vscr : Vscreen) : (initVscreen vscr).Fits := by
  have wide := fun value => asUInt32_of_bounds
    (clip_bounds value (by decide : (vdpyMinWidth : Int) ≤ vdpyMaxWidth))
    (by decide)
  have high := fun value => asUInt32_of_bounds
    (clip_bounds value (by decide : (vdpyMinHeight : Int) ≤ vdpyMaxHeight))
    (by decide)
  unfold initVscreen vdpyCalibrateVscreenGeometry Vscreen.Fits SupportedSize
  split
  · exact ⟨(wide _).1, (wide _).2, (high _).1, (high _).2⟩
  · have standard : SupportedSize (asUInt32 vdpyDefaultWidth)
        (asUInt32 vdpyDefaultHeight) := by decide
    exact standard

/-! A message that keeps the range. -/

theorem getElem?_modify_cases {vscrs : List Vscreen} {index changed : Nat}
    {change : Vscreen → Vscreen} {vscr : Vscreen}
    (found : (vscrs.modify changed change)[index]? = some vscr) :
    (changed = index ∧ ∃ old, change old = vscr) ∨
      (changed ≠ index ∧ vscrs[index]? = some vscr) := by
  rw [List.getElem?_modify] at found
  split at found
  · rename_i same
    obtain ⟨old, _, changes⟩ := Option.map_eq_some_iff.mp found
    exact .inl ⟨same, old, changes⟩
  · rename_i other
    rw [id_map'] at found
    exact .inr ⟨other, found⟩

def Effect.Fits : Effect → Prop
  | .setInfo _ _ width height => SupportedSize width height
  | _ => True

theorem applyEffect_fits {vscrs : List Vscreen} {effect : Effect}
    (fits : effect.Fits) {index : Nat} {vscr : Vscreen}
    (found : (applyEffect vscrs effect)[index]? = some vscr)
    (earlier : ∀ vscr, vscrs[index]? = some vscr → vscr.Fits) :
    vscr.Fits := by
  cases effect with
  | setInfo xoff yoff width height =>
      cases getElem?_modify_cases found with
      | inl set =>
          obtain ⟨_, old, rfl⟩ := set
          exact fits
      | inr kept => exact earlier vscr kept.2
  | _ => exact earlier vscr found

theorem applyEffects_fits {vscrs : List Vscreen} {effects : List Effect}
    (fits : ∀ effect ∈ effects, effect.Fits) {index : Nat}
    (earlier : ∀ vscr, vscrs[index]? = some vscr → vscr.Fits) :
    ∀ vscr, (effects.foldl applyEffect vscrs)[index]? = some vscr →
      vscr.Fits := by
  induction effects generalizing vscrs with
  | nil => exact earlier
  | cons effect rest induction =>
      rw [List.foldl_cons]
      apply induction fun other member =>
        fits other (List.mem_cons_of_mem effect member)
      intro vscr found
      exact applyEffect_fits (fits effect List.mem_cons_self) found earlier

/-- A message that comes once the first vscreen is initialised brings a
supported size, if it brings one. -/
def KeepsSize (eventLoop : EventLoop) (before : DisplayServer) :
    DisplayAction → Prop
  | .receive action =>
      before.initialised = 0 ∨
        ∀ after ∈ before.receiver.act eventLoop action,
          ∀ effect ∈ newEffects before.receiver after, effect.Fits
  | _ => True

instance : (effect : Effect) → Decidable effect.Fits
  | .setInfo _ _ width height =>
      inferInstanceAs (Decidable (SupportedSize width height))
  | .triger | .closeClient | .startCast | .stopCast | .surfaceSet _
  | .surfaceUpdate | .setModifier _ => inferInstanceAs (Decidable True)

instance (eventLoop : EventLoop) (before : DisplayServer) :
    (action : DisplayAction) → Decidable (KeepsSize eventLoop before action)
  | .receive _ => inferInstanceAs (Decidable (_ ∨ _))
  | .initVscreen | .connect => inferInstanceAs (Decidable True)

section Runs

variable {eventLoop : EventLoop} {server : DisplayServer}

theorem act_calibrated {before after : DisplayServer}
    {action : DisplayAction} (calibrated : before.Calibrated)
    (keeps : KeepsSize eventLoop before action)
    (acted : before.act eventLoop action = some after) :
    after.Calibrated := by
  cases action with
  | receive action =>
      obtain ⟨receiver, received, rfl⟩ := Option.map_eq_some_iff.mp acted
      intro index below
      cases keeps with
      | inl early => exact absurd below (early ▸ Nat.not_lt_zero index)
      | inr fits =>
          exact applyEffects_fits (fits receiver received)
            (calibrated index below)
  | initVscreen =>
      unfold DisplayServer.act at acted
      dsimp only at acted
      split at acted
      · cases acted
        intro index below vscr found
        have below : index < before.initialised + 1 := below
        cases getElem?_modify_cases found with
        | inl set =>
            obtain ⟨_, old, rfl⟩ := set
            exact initVscreen_fits old
        | inr kept =>
            obtain ⟨other, found⟩ := kept
            exact calibrated index (by omega) vscr found
      · cases acted
  | connect =>
      unfold DisplayServer.act at acted
      dsimp only at acted
      split at acted
      · cases acted
        exact calibrated
      · cases acted

/-- Once the display thread has initialised the vscreens, the guest is told
supported sizes only, in every run whose messages keep them so. -/
theorem advertises_of_keepsSize
    (reached : (displayGeometry eventLoop).ReachedWhere
      (KeepsSize eventLoop) server)
    (ready : server.initialised = server.vscrs.length) :
    server.Advertises := by
  have calibrated : server.Calibrated := by
    apply reached.invariant DisplayServer.Calibrated
    · intro start starts index below
      exact absurd below (starts.2.1 ▸ Nat.not_lt_zero index)
    · intro before action after calibrated keeps acted
      exact act_calibrated calibrated keeps acted
  exact Calibrated.advertises calibrated ready

/-- One vscreen whose size no option gives. -/
def DisplayServer.fresh : DisplayServer :=
  ⟨.fresh, [⟨⟨0, 0, 0, 0⟩, 0, 0, 0, 0⟩], 0, 0⟩

theorem fresh_displayGeometry :
    (displayGeometry eventLoop).initial DisplayServer.fresh :=
  ⟨fresh_initial, rfl, rfl⟩

/-- A client that sends its size once the display is ready. -/
def sendSize (width height : Nat) : List DisplayAction :=
  [.initVscreen, .connect] ++
    (sendWhole dpyEventDisplayInfo displayInfoSize
      (wordBytes 4 0 ++ wordBytes 4 0 ++ wordBytes 4 width ++
        wordBytes 4 height)).map .receive

theorem advertises_of_hd :
    ∃ server, (displayGeometry ⟨.displayServer, true, false⟩).ReachedWhere
        (KeepsSize ⟨.displayServer, true, false⟩) server ∧
      server.vscrs.map (·.info) = [⟨0, 0, 1280, 720⟩] ∧
      server.Advertises := by
  obtain ⟨server, reached, checked⟩ :=
    @TransitionSystem.exists_reachedWhere _ _
      (displayGeometry ⟨.displayServer, true, false⟩)
      (KeepsSize ⟨.displayServer, true, false⟩) _
      (DisplayServer.act ⟨.displayServer, true, false⟩) .fresh
      (sendSize 1280 720)
      (fun server => decide (server.initialised = server.vscrs.length ∧
        server.vscrs.map (·.info) = [⟨0, 0, 1280, 720⟩]))
      (fun acted => acted) fresh_displayGeometry (by decide +kernel)
  obtain ⟨ready, info⟩ := of_decide_eq_true checked
  exact ⟨server, reached, info, advertises_of_keepsSize reached ready⟩

/-- A client that sends a size of 10 by 8192. -/
theorem message_leaves_range :
    ∃ server, (displayGeometry ⟨.displayServer, true, false⟩).Reached
        server ∧
      server.initialised = server.vscrs.length ∧ server.nConnect = 1 ∧
      vdpyGetDisplayInfo server 1 0 ⟨0, 0, 0, 0⟩ = ⟨0, 0, 10, 8192⟩ ∧
      ¬server.Advertises := by
  obtain ⟨server, reached, checked⟩ :=
    @TransitionSystem.exists_reached _ _
      (displayGeometry ⟨.displayServer, true, false⟩)
      (DisplayServer.act ⟨.displayServer, true, false⟩) .fresh
      (sendSize 10 8192)
      (fun server => decide (server.initialised = server.vscrs.length ∧
        server.nConnect = 1 ∧ (server.vscreen 0).isSome ∧
        vdpyGetDisplayInfo server 1 0 ⟨0, 0, 0, 0⟩ = ⟨0, 0, 10, 8192⟩))
      (fun acted => acted) fresh_displayGeometry (by decide +kernel)
  obtain ⟨ready, connected, known, told⟩ := of_decide_eq_true checked
  refine ⟨server, reached, ready, connected, told, fun advertises => ?_⟩
  have supported := advertises.info 0 known ⟨0, 0, 0, 0⟩
  rw [connected, told] at supported
  exact absurd supported (by decide)

end Runs

end VirtioGpu.Vdpy
