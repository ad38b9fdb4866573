import VirtioGpu.Foundation.Streams
import VirtioGpu.Vdpy.Modifier

namespace VirtioGpu.Vdpy

open Foundation

/-! What one connection carries: whole messages, and the beginning of the one
that is being sent. -/

inductive Stage where
  | whole
  | modifier
  | surface (surf : Surface)
  | descriptor (surf : Surface)
  deriving Repr, DecidableEq

namespace Stage

/-- The parts of a surface that are still to be sent. -/
def left : Stage → List Piece
  | whole | modifier => []
  | surface surf => [.surface surf, .descriptor surf.dmabufFd]
  | descriptor surf => [.descriptor surf.dmabufFd]

end Stage

inductive Wire : List Sent → Stage → Prop where
  | nil : Wire [] .whole
  | modifierHeader (latest : Option Nat) (wire : Wire sent .whole) :
      Wire (sent ++ [⟨.header .setModifier, latest⟩]) .modifier
  | modifierBody (value : Nat) (latest : Option Nat)
      (wire : Wire sent .modifier) :
      Wire (sent ++ [⟨.modifier value, latest⟩]) .whole
  | surfaceHeader (surf : Surface) (wire : Wire sent .whole)
      (known : lastModifier sent = latest) :
      Wire (sent ++ [⟨.header .surfaceSet, latest⟩]) (.surface surf)
  | surfaceBody (latest : Option Nat) (wire : Wire sent (.surface surf)) :
      Wire (sent ++ [⟨.surface surf, latest⟩]) (.descriptor surf)
  | descriptor (latest : Option Nat) (wire : Wire sent (.descriptor surf)) :
      Wire (sent ++ [⟨.descriptor surf.dmabufFd, latest⟩]) .whole
  | update (latest : Option Nat) (wire : Wire sent .whole) :
      Wire (sent ++ [⟨.header .surfaceUpdate, latest⟩]) .whole

theorem lastModifier_nil : lastModifier [] = none :=
  rfl

theorem lastModifier_modifier (sent : List Sent) (value : Nat)
    (latest : Option Nat) :
    lastModifier (sent ++ [⟨.modifier value, latest⟩]) = some value := by
  simp [lastModifier, Sent.modifier?]

theorem lastModifier_other (sent : List Sent) {part : Sent}
    (other : part.modifier? = none) :
    lastModifier (sent ++ [part]) = lastModifier sent := by
  simp [lastModifier, other]

/-! What stands before and after a part. -/

namespace Wire

variable {sent before after : List Sent} {latest : Option Nat} {stage : Stage}

theorem known (wire : Wire sent stage) (split : sent =
    before ++ ⟨.header .surfaceSet, latest⟩ :: after) :
    lastModifier before = latest := by
  induction wire generalizing after with
  | nil => simp at split
  | surfaceHeader surf wire known induction =>
      obtain ⟨rfl, rfl, same⟩ | ⟨inner, rfl, inside⟩ := snoc_split split
      · cases same
        exact known
      · exact induction inside
  | modifierHeader _ _ induction
  | modifierBody _ _ _ induction
  | surfaceBody _ _ induction
  | descriptor _ _ induction
  | update _ _ induction =>
      obtain ⟨_, _, same⟩ | ⟨inner, rfl, inside⟩ := snoc_split split
      · cases same
      · exact induction inside

/-- What follows the header of a surface begins with its body and its
descriptor once what is left has been sent. -/
theorem follows (wire : Wire sent stage) (split : sent =
    before ++ ⟨.header .surfaceSet, latest⟩ :: after) :
    ∃ surf, [.surface surf, .descriptor surf.dmabufFd] <+:
      after.map Sent.piece ++ stage.left := by
  induction wire generalizing after with
  | nil => simp at split
  | surfaceHeader surf _ _ induction =>
      obtain ⟨rfl, _, _⟩ | ⟨inner, rfl, inside⟩ := snoc_split split
      · exact ⟨surf, List.prefix_rfl⟩
      · obtain ⟨earlier, front⟩ := induction inside
        refine ⟨earlier, ?_⟩
        rw [Stage.left, List.append_nil] at front
        rw [List.map_append, List.append_assoc]
        exact front.trans (List.prefix_append _ _)
  | surfaceBody _ _ induction
  | descriptor _ _ induction =>
      obtain ⟨_, _, same⟩ | ⟨inner, rfl, inside⟩ := snoc_split split
      · cases same
      · rw [List.map_append, List.append_assoc]
        exact induction inside
  | modifierHeader _ _ induction
  | modifierBody _ _ _ induction
  | update _ _ induction =>
      obtain ⟨_, _, same⟩ | ⟨inner, rfl, inside⟩ := snoc_split split
      · cases same
      · obtain ⟨surf, front⟩ := induction inside
        refine ⟨surf, ?_⟩
        rw [Stage.left, List.append_nil] at front
        rw [List.map_append, List.append_assoc]
        exact front.trans (List.prefix_append _ _)

theorem last_header (wire : Wire sent .modifier) :
    sent.getLast?.map Sent.piece = some (.header .setModifier) := by
  cases wire with
  | modifierHeader latest wire => simp

theorem body (wire : Wire sent stage) {value : Nat} (split : sent =
    before ++ ⟨.modifier value, latest⟩ :: after) :
    before.getLast?.map Sent.piece = some (.header .setModifier) := by
  induction wire generalizing after with
  | nil => simp at split
  | modifierBody _ _ wire induction =>
      obtain ⟨rfl, rfl, _⟩ | ⟨inner, rfl, inside⟩ := snoc_split split
      · exact wire.last_header
      · exact induction inside
  | modifierHeader _ _ induction
  | surfaceHeader _ _ _ induction
  | surfaceBody _ _ induction
  | descriptor _ _ induction
  | update _ _ induction =>
      obtain ⟨_, _, same⟩ | ⟨inner, rfl, inside⟩ := snoc_split split
      · cases same
      · exact induction inside

end Wire

end VirtioGpu.Vdpy
