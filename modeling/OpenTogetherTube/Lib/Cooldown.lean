import Mathlib.Algebra.Order.Monoid.Defs

/-!
# A cooldown of two lengths

A gated action keeps a distance from the action before it, and a longer one where there has been a
strain. The cooldown remembers the last action and whether a strain came with it or after it. The
distances are a property of the log, which says what happened and in which order, newest first.
-/

namespace OpenTogetherTube.Lib

/-- What a log holds: an action, which may be gated and may come under strain, a strain, and a
restart, before which nothing counts. -/
inductive CooldownMark (Time : Type*) where
  | used (at_ : Time) (gated underStrain : Bool)
  | strained
  | restarted
deriving DecidableEq

namespace CooldownMark

variable {Time : Type*}

/-- The last action since the last restart. -/
def lastUse : List (CooldownMark Time) → Option Time
  | [] => none
  | .used at_ _ _ :: _ => some at_
  | .strained :: earlier => lastUse earlier
  | .restarted :: _ => none

/-- Whether there was a strain with the last action or after it. -/
def strainedSince : List (CooldownMark Time) → Bool
  | [] => false
  | .used _ _ underStrain :: _ => underStrain
  | .strained :: _ => true
  | .restarted :: _ => false

/-- Each gated action comes `short` after the action before it or later, and where there was a
strain since then, `long` after it or later. -/
def Spaced [Add Time] [LE Time] (short long : Time) : List (CooldownMark Time) → Prop
  | [] => True
  | .used at_ gated _ :: earlier =>
      (gated = true → ∀ last ∈ lastUse earlier,
        last + short ≤ at_ ∧ (strainedSince earlier = true → last + long ≤ at_)) ∧
      Spaced short long earlier
  | .strained :: earlier => Spaced short long earlier
  | .restarted :: earlier => Spaced short long earlier

end CooldownMark

open CooldownMark

/-- The last action, if one counts, and whether the longer distance is asked for. -/
structure Cooldown (Time : Type*) where
  last : Option Time
  slow : Bool

namespace Cooldown

variable {Time : Type*} {cooldown : Cooldown Time} {log : List (CooldownMark Time)}
  {short long now : Time}

/-- Whether a gated action may come now. -/
def Ready [Add Time] [LE Time] (short long : Time) (cooldown : Cooldown Time) (now : Time) : Prop :=
  ∀ last ∈ cooldown.last, last + (if cooldown.slow then long else short) ≤ now

/-- The cooldown knows the last action of the log, and of a strain since. -/
structure Tracks (cooldown : Cooldown Time) (log : List (CooldownMark Time)) : Prop where
  last : cooldown.last = lastUse log
  slow : cooldown.last.isSome = true → strainedSince log = true → cooldown.slow = true

theorem Tracks.none (slow : Bool) : (⟨.none, slow⟩ : Cooldown Time).Tracks [] where
  last := rfl
  slow := nofun

theorem Tracks.used (now : Time) (gated underStrain : Bool) (log : List (CooldownMark Time)) :
    Tracks ⟨some now, underStrain⟩ (.used now gated underStrain :: log) where
  last := rfl
  slow _ strained := strained

theorem Tracks.restarted (slow : Bool) (log : List (CooldownMark Time)) :
    Tracks ⟨.none, slow⟩ (.restarted :: log) where
  last := rfl
  slow := nofun

/-- A strain is tracked by asking for the longer distance, if there is an action to keep it from. -/
theorem Tracks.strained (tracks : Tracks cooldown log)
    (slows : cooldown.last.isSome = true → cooldown.slow = true) :
    Tracks cooldown (.strained :: log) where
  last := tracks.last
  slow used _ := slows used

/-- Asking for the longer distance without need does no harm. -/
theorem Tracks.slowed (tracks : Tracks cooldown log) {slow : Bool}
    (kept : cooldown.slow = true → slow = true) : Tracks ⟨cooldown.last, slow⟩ log where
  last := tracks.last
  slow used strained := kept (tracks.slow used strained)

/-- A gated action that the cooldown is ready for keeps its distance. -/
theorem Tracks.spaced [Add Time] [Preorder Time] [AddLeftMono Time] (tracks : Tracks cooldown log)
    (spaced : Spaced short long log) (shorter : short ≤ long) (ready : cooldown.Ready short long now)
    (gated underStrain : Bool) : Spaced short long (.used now gated underStrain :: log) := by
  refine ⟨fun _ last isLast => ?_, spaced⟩
  rw [← tracks.last] at isLast
  have apart := ready last isLast
  constructor
  · refine le_trans (add_le_add_right ?_ last) apart
    split
    · exact shorter
    · exact le_rfl
  · intro strained
    have used : cooldown.last.isSome = true := Option.isSome_of_mem isLast
    rwa [tracks.slow used strained, if_pos rfl] at apart

/-- An action that is not gated needs no distance. -/
theorem spaced_ungated [Add Time] [LE Time] (spaced : Spaced short long log) (underStrain : Bool) :
    Spaced short long (.used now false underStrain :: log) :=
  ⟨nofun, spaced⟩

end Cooldown

end OpenTogetherTube.Lib
