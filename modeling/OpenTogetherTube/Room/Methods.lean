import OpenTogetherTube.Room.Effects

/-!
# Methods that choose among others

The gate, the preparation round and their deadlines act by a few methods; the rest of the code
chooses among these. What those few keep, the choices keep.
-/

namespace OpenTogetherTube.Playback

/-- A relation that the methods of the gate keep, those of the round and the end of a temporary
speed. -/
structure KeepsMethods (audience : Audience) (now : Int) (relation : Playback → Playback → Prop) :
    Prop where
  clearBufferGate : ∀ (p : Playback) gate timedOut,
    relation p (p.clearBufferGate gate timedOut audience now)
  play : ∀ p : Playback, relation p (p.play now)
  engageBufferGate : ∀ (p : Playback) waitingOn, relation p (p.engageBufferGate waitingOn now)
  waited : ∀ (p : Playback) gate waitingOn,
    relation p ({ p with bufferGate := some gate }.trace (.waiting now waitingOn))
  assignRound : ∀ (p : Playback) round, relation p (p.assignRound round)
  timed : ∀ (p : Playback) playbackStartTimer, relation p { p with playbackStartTimer }
  startPreparedPlayback : ∀ p : Playback, relation p (p.startPreparedPlayback now)
  cancelPlaybackPreparation : ∀ p : Playback, relation p p.cancelPlaybackPreparation
  endTemporaryPlaybackSpeed : ∀ p : Playback, relation p (p.endTemporaryPlaybackSpeed true now)

namespace KeepsMethods

variable {audience : Audience} {now : Int} {relation : Playback → Playback → Prop}
  [IsPreorder Playback relation] (keeps : KeepsMethods audience now relation) (p : Playback)

include keeps

theorem releaseBufferGate (timedOut : Bool) :
    relation p (p.releaseBufferGate timedOut audience now) := by
  rcases releaseBufferGate_cases p now timedOut audience with
    ⟨_, same⟩ | ⟨gate, _, same | ⟨_, _, _, same⟩⟩
  · rw [same]
    exact refl p
  · rw [same]
    exact keeps.clearBufferGate p gate timedOut
  · rw [same]
    exact IsTrans.trans _ _ _ (keeps.clearBufferGate p gate timedOut) (keeps.play _)

theorem evaluateBufferGate (mode : BufferGateMode) :
    relation p (p.evaluateBufferGate mode audience now) := by
  unfold Playback.evaluateBufferGate
  split
  · exact keeps.releaseBufferGate p true
  · split
    · exact keeps.releaseBufferGate p false
    · dsimp only
      split
      · exact keeps.releaseBufferGate p false
      · split
        · exact keeps.waited p _ _
        · split
          · exact refl p
          · exact keeps.engageBufferGate p _

theorem schedulePlaybackStart (fallback : Option Fallback) :
    relation p (p.schedulePlaybackStart fallback audience now) := by
  unfold Playback.schedulePlaybackStart
  split
  · exact refl p
  · split
    · exact refl p
    · split
      · exact IsTrans.trans _ _ _ (keeps.assignRound p _) (keeps.startPreparedPlayback _)
      · exact IsTrans.trans _ _ _ (keeps.assignRound p _) (keeps.timed _ _)

theorem edited (round : PlaybackPreparation) (ready : Bool) :
    relation p (if ready then (p.assignRound round).schedulePlaybackStart none audience now
      else p.assignRound round) := by
  split
  · exact IsTrans.trans _ _ _ (keeps.assignRound p _) (keeps.schedulePlaybackStart _ none)
  · exact keeps.assignRound p _

theorem dropPlaybackParticipant (clientId : ClientId) :
    relation p (p.dropPlaybackParticipant clientId audience now) := by
  unfold Playback.dropPlaybackParticipant
  split
  · exact refl p
  · split
    · exact refl p
    · exact keeps.edited p _ _

theorem refreshPlaybackPreparation : relation p (p.refreshPlaybackPreparation audience) := by
  unfold Playback.refreshPlaybackPreparation
  split
  · exact refl p
  · dsimp only
    split
    · exact refl p
    · split
      · rename_i preparation present _ _
        rw [cancelPlaybackPreparation_of_round p _ (by rw [present]; rfl)]
        exact keeps.cancelPlaybackPreparation p
      · exact keeps.assignRound p _

theorem finishPlaybackPreparation (clientId : ClientId) (status : Option PlayerStatus)
    (prepared : Option PlaybackPrepared) :
    relation p (p.finishPlaybackPreparation clientId status prepared audience now) := by
  unfold Playback.finishPlaybackPreparation
  split
  · split
    · exact refl p
    · split
      · exact keeps.dropPlaybackParticipant p clientId
      · split
        · exact refl p
        · exact keeps.edited p _ _
  · exact refl p

theorem escalatePreparation : relation p (p.escalatePreparation audience now) := by
  unfold Playback.escalatePreparation
  split
  · split
    · unfold escalateRound
      split
      · exact keeps.schedulePlaybackStart p none
      · split
        · split
          · exact keeps.schedulePlaybackStart p _
          · split
            · exact keeps.schedulePlaybackStart p _
            · split
              · exact keeps.assignRound p _
              · exact refl p
        · exact refl p
    · exact refl p
  · exact refl p

theorem updatePreparation : relation p (p.updatePreparation audience now) := by
  unfold Playback.updatePreparation
  split
  · exact refl p
  · have settled : relation p
        ((p.refreshPlaybackPreparation audience).escalatePreparation audience now) :=
      IsTrans.trans _ _ _ (keeps.refreshPlaybackPreparation p) (keeps.escalatePreparation _)
    dsimp only
    split
    · exact IsTrans.trans _ _ _ settled (keeps.startPreparedPlayback _)
    · exact settled

theorem updateTemporarySpeed : relation p (p.updateTemporarySpeed audience now) := by
  unfold Playback.updateTemporarySpeed
  split
  · split
    · exact refl p
    · exact keeps.endTemporaryPlaybackSpeed p
  · exact refl p

end KeepsMethods

end OpenTogetherTube.Playback
