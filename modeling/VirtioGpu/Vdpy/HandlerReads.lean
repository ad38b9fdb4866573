import VirtioGpu.Vdpy.EventLoops

namespace VirtioGpu.Vdpy

open Foundation

/-! How much of `buf` the handlers of the receive loops read. -/

/-- The size of the structure that a message of this type is read as. -/
def EventLoop.structureSize (eventLoop : EventLoop) (eType : Nat) : Nat :=
  match eventLoop.thread with
  | .displayServer =>
      if eType = dpyEventDisplayInfo then displayInfoSize
      else if eType = dpyEventHotplug then intSize
      else 0
  | .controlServer => 0
  | .client =>
      if eType = dpyEventSurfaceSet then surfaceSize
      else if eType = dpyEventSetModifier then modifierSize
      else 0

/-- The bytes a message must bring: its structure, and for a surface that is no
dmabuf only its type. -/
def EventLoop.needed (eventLoop : EventLoop) (eType : Nat)
    (payload : List UInt8) : Nat :=
  if eventLoop.thread = .client ∧ eventLoop.renderer = false then 0
  else if eventLoop.thread = .client ∧ eType = dpyEventSurfaceSet ∧
      wordAt payload 0 ≠ surfaceDmabuf then intSize
  else eventLoop.structureSize eType

section Handlers

variable {eventLoop : EventLoop} {eType : Nat} {buf other : List UInt8}

theorem wordAt_congr {used offset : Nat}
    (same : buf.take used = other.take used) (inside : offset + 4 ≤ used) :
    wordAt buf offset = wordAt other offset := by
  have part : ∀ bytes : List UInt8,
      (bytes.drop offset).take 4 =
        ((bytes.take used).drop offset).take 4 := by
    intro bytes
    rw [List.drop_take, List.take_take, Nat.min_eq_left (by omega)]
  rw [wordAt, part, same, ← part, ← wordAt]

theorem take_congr {used count : Nat}
    (same : buf.take used = other.take used) (inside : count ≤ used) :
    buf.take count = other.take count := by
  have part : ∀ bytes : List UInt8,
      bytes.take count = (bytes.take used).take count := by
    intro bytes
    rw [List.take_take, Nat.min_eq_left inside]
  rw [part, same, ← part]

theorem handleDisplayInfo_congr
    (same : buf.take displayInfoSize = other.take displayInfoSize) :
    handleDisplayInfo buf = handleDisplayInfo other := by
  unfold handleDisplayInfo
  rw [wordAt_congr same (by decide : 0 + 4 ≤ displayInfoSize),
    wordAt_congr same (by decide : 4 + 4 ≤ displayInfoSize),
    wordAt_congr same (by decide : 8 + 4 ≤ displayInfoSize),
    wordAt_congr same (by decide : 12 + 4 ≤ displayInfoSize)]

theorem handleHotplug_congr (same : buf.take intSize = other.take intSize) :
    handleHotplug eventLoop buf = handleHotplug eventLoop other := by
  unfold handleHotplug
  rw [wordAt_congr same (by decide : 0 + 4 ≤ intSize)]

theorem rendererSurfaceSet_congr
    (same : buf.take (rendererSurfaceSet buf).used =
      other.take (rendererSurfaceSet buf).used) :
    rendererSurfaceSet buf = rendererSurfaceSet other := by
  unfold rendererSurfaceSet at same ⊢
  by_cases dmabuf : wordAt buf 0 = surfaceDmabuf
  · rw [if_pos dmabuf] at same ⊢
    have first := wordAt_congr same (by decide : 0 + 4 ≤ surfaceSize)
    rw [if_pos (first.symm.trans dmabuf), same]
  · rw [if_neg dmabuf] at same ⊢
    have first := wordAt_congr same (by decide : 0 + 4 ≤ intSize)
    rw [if_neg (fun other => dmabuf (first.trans other))]

theorem rendererSetModifier_congr
    (same : buf.take modifierSize = other.take modifierSize) :
    rendererSetModifier buf = rendererSetModifier other := by
  unfold rendererSetModifier
  rw [same]

/-- A message is handled without its body, or as its structure, or, for a
surface, as far as its type says. -/
inductive Handling (eventLoop : EventLoop) (eType : Nat) : Prop
  | without (effects : List Effect)
      (does : ∀ buf, handleEvent eventLoop eType buf = ⟨0, effects⟩)
      (needs : ∀ payload, eventLoop.needed eType payload = 0)
      (quiet : effects = [] ∨ eventLoop.structureSize eType = 0)
  | structured (effects : List UInt8 → List Effect)
      (does : ∀ buf, handleEvent eventLoop eType buf =
        ⟨eventLoop.structureSize eType, effects buf⟩)
      (needs : ∀ payload, eventLoop.needed eType payload =
        eventLoop.structureSize eType)
      (reads : ∀ {buf other : List UInt8},
        buf.take (eventLoop.structureSize eType) =
          other.take (eventLoop.structureSize eType) →
            effects buf = effects other)
  | surface
      (does : ∀ buf, handleEvent eventLoop eType buf = rendererSurfaceSet buf)
      (needs : ∀ payload, eventLoop.needed eType payload =
        if wordAt payload 0 = surfaceDmabuf then surfaceSize else intSize)
      (size : eventLoop.structureSize eType = surfaceSize)

theorem displayServer_handling (triger renderer : Bool) (eType : Nat) :
    Handling ⟨.displayServer, triger, renderer⟩ eType := by
  by_cases info : eType = dpyEventDisplayInfo
  · subst info
    exact .structured (fun buf => (handleDisplayInfo buf).effects)
      (fun _ => rfl) (fun _ => rfl)
      fun same => congrArg Handled.effects (handleDisplayInfo_congr same)
  · by_cases hotplug : eType = dpyEventHotplug
    · subst hotplug
      exact .structured
        (fun buf =>
          (handleHotplug ⟨.displayServer, triger, renderer⟩ buf).effects)
        (fun _ => rfl) (fun _ => rfl)
        fun same => congrArg Handled.effects (handleHotplug_congr same)
    · have sizeless : EventLoop.structureSize
          ⟨.displayServer, triger, renderer⟩ eType = 0 := by
        simp [EventLoop.structureSize, info, hotplug]
      refine .without [] ?_ ?_ (.inl rfl)
      · intro buf
        simp [handleEvent, handleDisplayEvent, info, hotplug,
          Handled.ignored]
      · intro payload
        simp [EventLoop.needed, sizeless]

theorem handleControlEvent_unread (eventLoop : EventLoop) (eType : Nat) :
    handleControlEvent eventLoop eType =
      ⟨0, (handleControlEvent eventLoop eType).effects⟩ := by
  unfold handleControlEvent
  split
  · rfl
  · split
    · rfl
    · rfl

theorem client_handling (triger : Bool) (eType : Nat) :
    Handling ⟨.client, triger, true⟩ eType := by
  by_cases surface : eType = dpyEventSurfaceSet
  · subst surface
    refine .surface (fun _ => rfl) ?_ rfl
    intro payload
    by_cases dmabuf : wordAt payload 0 = surfaceDmabuf
    · simp [EventLoop.needed, EventLoop.structureSize, dmabuf]
    · simp [EventLoop.needed, dmabuf]
  · by_cases modifier : eType = dpyEventSetModifier
    · subst modifier
      exact .structured (fun buf => (rendererSetModifier buf).effects)
        (fun _ => rfl) (fun _ => rfl)
        fun same => congrArg Handled.effects (rendererSetModifier_congr same)
    · have sizeless : EventLoop.structureSize
          ⟨.client, triger, true⟩ eType = 0 := by
        simp [EventLoop.structureSize, surface, modifier]
      refine .without
        (handleEvent ⟨.client, triger, true⟩ eType []).effects
        ?_ ?_ (.inr sizeless)
      · intro buf
        simp only [handleEvent, handleClientEvent, if_neg surface,
          if_neg modifier, Bool.true_eq_false, if_false]
        split
        · rfl
        · rfl
      · intro payload
        simp [EventLoop.needed, sizeless, surface]

theorem handling (eventLoop : EventLoop) (eType : Nat) :
    Handling eventLoop eType := by
  obtain ⟨thread, triger, renderer⟩ := eventLoop
  cases thread with
  | displayServer => exact displayServer_handling triger renderer eType
  | controlServer =>
      exact .without _ (fun _ => handleControlEvent_unread _ eType)
        (fun _ => rfl) (.inr rfl)
  | client =>
      cases renderer with
      | false => exact .without [] (fun _ => rfl) (fun _ => rfl) (.inl rfl)
      | true => exact client_handling triger eType

/-- A handler does the same with any buffer that begins with the bytes it
reads. -/
theorem handleEvent_congr
    (same : buf.take (handleEvent eventLoop eType buf).used =
      other.take (handleEvent eventLoop eType buf).used) :
    handleEvent eventLoop eType buf = handleEvent eventLoop eType other := by
  cases handling eventLoop eType with
  | without effects does _ _ => rw [does, does]
  | structured effects does _ reads =>
      rw [does] at same
      rw [does, does, reads same]
  | surface does _ _ =>
      rw [does] at same
      rw [does, does]
      exact rendererSurfaceSet_congr same

/-- A handler that reads less than the structure has no effect. -/
theorem effects_of_short
    (short : (handleEvent eventLoop eType buf).used <
      eventLoop.structureSize eType) :
    (handleEvent eventLoop eType buf).effects = [] := by
  cases handling eventLoop eType with
  | without effects does _ quiet =>
      rw [does] at short ⊢
      exact quiet.resolve_right (Nat.ne_of_gt short)
  | structured effects does _ _ =>
      rw [does] at short
      exact absurd short (Nat.lt_irrefl _)
  | surface does _ size =>
      rw [does] at short ⊢
      rw [size] at short
      unfold rendererSurfaceSet at short ⊢
      split
      · rename_i dmabuf
        rw [if_pos dmabuf] at short
        exact absurd short (Nat.lt_irrefl _)
      · rfl

/-- What a handler reads is there just when the message brings what it
needs. -/
theorem used_le_iff {payload : List UInt8}
    (agrees : intSize ≤ payload.length → wordAt buf 0 = wordAt payload 0) :
    (handleEvent eventLoop eType buf).used ≤ payload.length ↔
      eventLoop.needed eType payload ≤ payload.length := by
  cases handling eventLoop eType with
  | without effects does needs _ => rw [does, needs]
  | structured effects does needs _ => rw [does, needs]
  | surface does needs _ =>
      have least : intSize ≤ surfaceSize := by decide
      rw [does, needs, rendererSurfaceSet]
      by_cases typed : intSize ≤ payload.length
      · rw [agrees typed]
        by_cases dmabuf : wordAt payload 0 = surfaceDmabuf
        · rw [if_pos dmabuf, if_pos dmabuf]
        · rw [if_neg dmabuf, if_neg dmabuf]
      · refine iff_of_false ?_ ?_
        · split
          · exact fun enough => typed (Nat.le_trans least enough)
          · exact typed
        · split
          · exact fun enough => typed (Nat.le_trans least enough)
          · exact typed

end Handlers

end VirtioGpu.Vdpy
