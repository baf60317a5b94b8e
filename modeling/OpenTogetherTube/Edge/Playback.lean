import OpenTogetherTube.Edge.Snapshot

/-!
# Edge rooms: playback

What the methods of `RoomState` do to the playback part of the snapshot: the clock and its
anchor, preparations and temporary speeds.
-/

namespace OpenTogetherTube.Edge.Playback

open Lib

/-- `position`. -/
def positionAt (now : Int) (s : Playback) : ℚ :=
  max 0 (s.position +
    if s.isPlaying then max 0 ((now - s.anchorAt : Int) : ℚ) / 1000 * s.playbackSpeed else 0)

/-- `anchor` at a given position. -/
def anchorTo (position : ℚ) (now : Int) (s : Playback) : Playback :=
  { s with position, anchorAt := now }

/-- `anchor`: by default where playback is now. -/
def anchor (now : Int) (s : Playback) : Playback := s.anchorTo (s.positionAt now) now

def playing (value : Bool) (now : Int) (s : Playback) : Playback :=
  { s.anchor now with isPlaying := value }

def clearPreparation (s : Playback) : Playback := { s with preparation := none }

def clearTemporarySpeed (now : Int) (s : Playback) : Playback :=
  match s.temporarySpeed with
  | none => s
  | some previous =>
      { s.anchor now with playbackSpeed := previous.previousSpeed, temporarySpeed := none }

/-- The preparation `prepare` makes, if any, for the viewer it picks. -/
def nextPreparation (preparer : Option Member) (host : Host) (s : Playback) :
    Option Preparation :=
  if !s.resumeOnNextJoin || s.isPlaying || s.preparation.isSome then none
  else
    match s.currentSource, preparer with
    | some source, some member => some {
        id := host.randomUUID
        clientId := member.id
        video := source.toVideoId
        position := s.positionAt host.now
        expiresAt := host.now + 30000 }
    | _, _ => none

def prepare (preparer : Option Member) (host : Host) (s : Playback) : Playback :=
  match s.nextPreparation preparer host with
  | none => s
  | some preparation => { s with preparation := some preparation }

/-- `resumeOnNextJoin = false`. -/
def forgetResume (s : Playback) : Playback := { s with resumeOnNextJoin := false }

/-- The commanded or prepared change of the play state. -/
def play (value : Bool) (now : Int) (s : Playback) : Playback :=
  s.clearPreparation.forgetResume.playing value now

/-- `resumeOnNextJoin ||= isPlaying`. -/
def awaitJoin (s : Playback) : Playback :=
  { s with resumeOnNextJoin := s.resumeOnNextJoin || s.isPlaying }

/-- What `leave` does when the last viewer left. -/
def hold (now : Int) (s : Playback) : Playback := s.awaitJoin.playing false now

/-- What `start` assigns, with or without viewers. -/
def begin (video : Option QueueItem) (viewers : Bool) (now : Int) (s : Playback) : Playback :=
  { s with
    currentSource := video
    playbackSpeed := 1
    position := (video.bind fun item => item.startAt.get).getD 0
    anchorAt := now
    isPlaying := video.isSome && viewers
    resumeOnNextJoin := video.isSome && !viewers }

def start (video : Option QueueItem) (viewers : Bool) (now : Int) (s : Playback) : Playback :=
  (s.clearTemporarySpeed now).clearPreparation.begin video viewers now

/-- Undo a temporary speed without moving the clock. -/
def restoreSpeed (s : Playback) : Playback :=
  match s.temporarySpeed with
  | none => s
  | some previous =>
      { s with playbackSpeed := previous.previousSpeed, temporarySpeed := none }

/-- What `recover` does when no viewer is left. -/
def recoverEmpty (now : Int) (s : Playback) : Playback :=
  { s with
    resumeOnNextJoin := s.resumeOnNextJoin || s.isPlaying || s.preparation.isSome
    isPlaying := false
    anchorAt := now }.clearPreparation.restoreSpeed

/-- `playbackSpeed = speed`. -/
def assignSpeed (speed : ℚ) (s : Playback) : Playback := { s with playbackSpeed := speed }

/-- The change of `PlaybackSpeedRequest`. -/
def setSpeed (speed : ℚ) (now : Int) (s : Playback) : Playback :=
  ((s.clearTemporarySpeed now).anchor now).assignSpeed speed

/-- Begin a temporary speed. -/
def startTemporarySpeed (clientId : ClientId) (gestureId : String) (now : Int) (s : Playback) :
    Playback :=
  { s.anchor now with
    temporarySpeed := some {
      clientId
      gestureId
      previousSpeed := s.playbackSpeed
      expiresAt := now + 5000 }
    playbackSpeed := 2 }

/-- Lengthen the lease of a temporary speed. -/
def renewTemporarySpeed (now : Int) (s : Playback) : Playback :=
  { s with
    temporarySpeed := s.temporarySpeed.map fun speed => { speed with expiresAt := now + 5000 } }

/-- Whether the current source has played to its end. -/
def ended (now : Int) (s : Playback) : Bool :=
  s.isPlaying &&
    (s.currentSource.bind QueueItem.mediaEnd).any fun last => decide (last ≤ s.positionAt now)

/-! ### What the conditional changes leave alone -/

variable (s : Playback)

@[simp] theorem clearTemporarySpeed_isPlaying (now : Int) :
    (s.clearTemporarySpeed now).isPlaying = s.isPlaying := by
  unfold clearTemporarySpeed
  split <;> rfl

@[simp] theorem clearTemporarySpeed_currentSource (now : Int) :
    (s.clearTemporarySpeed now).currentSource = s.currentSource := by
  unfold clearTemporarySpeed
  split <;> rfl

@[simp] theorem clearTemporarySpeed_resumeOnNextJoin (now : Int) :
    (s.clearTemporarySpeed now).resumeOnNextJoin = s.resumeOnNextJoin := by
  unfold clearTemporarySpeed
  split <;> rfl

@[simp] theorem clearTemporarySpeed_temporarySpeed (now : Int) :
    (s.clearTemporarySpeed now).temporarySpeed = none := by
  unfold clearTemporarySpeed
  split
  · assumption
  · rfl

/-- Preparing changes nothing but the preparation. -/
theorem prepare_eq (preparer : Option Member) (host : Host) :
    s.prepare preparer host =
      { s with preparation := s.nextPreparation preparer host <|> s.preparation } := by
  unfold prepare
  split
  · rename_i absent
    rw [absent]
    rfl
  · rename_i preparation found
    rw [found]
    rfl

@[simp] theorem restoreSpeed_isPlaying :
    (s.restoreSpeed).isPlaying = s.isPlaying := by
  unfold restoreSpeed
  split <;> rfl

@[simp] theorem restoreSpeed_currentSource :
    (s.restoreSpeed).currentSource = s.currentSource := by
  unfold restoreSpeed
  split <;> rfl

@[simp] theorem restoreSpeed_preparation :
    (s.restoreSpeed).preparation = s.preparation := by
  unfold restoreSpeed
  split <;> rfl

end OpenTogetherTube.Edge.Playback
