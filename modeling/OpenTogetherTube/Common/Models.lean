import OpenTogetherTube.Lib.Number

/-!
# Shared data types

The parts of `common/models` and `common/constants.ts` the room logic reads. Times are
server milliseconds; positions, lengths and speeds are numbers in exact arithmetic.
-/

namespace OpenTogetherTube

open Lib

/-- The id of one connection in a room. -/
abbrev ClientId := String

/-- A session's token. -/
abbrev AuthToken := String

/-- `ALL_VIDEO_SERVICES`. -/
inductive VideoService where
  | youtube
  | vimeo
  | direct
  | hls
  | dash
  | tubi
  | reddit
  | googledrive
  | peertube
  | pluto
  | invidious
  | odysee
  | bilibili
deriving DecidableEq

/-- The wire name of a service. -/
def VideoService.name : VideoService → String
  | .youtube => "youtube"
  | .vimeo => "vimeo"
  | .direct => "direct"
  | .hls => "hls"
  | .dash => "dash"
  | .tubi => "tubi"
  | .reddit => "reddit"
  | .googledrive => "googledrive"
  | .peertube => "peertube"
  | .pluto => "pluto"
  | .invidious => "invidious"
  | .odysee => "odysee"
  | .bilibili => "bilibili"

structure VideoId where
  service : VideoService
  id : String
deriving DecidableEq

/-- `QueueItem`: an identified video, the metadata the room logic reads and the queue
extras. -/
structure QueueItem extends VideoId where
  length : Option Number := none
  isLive : Bool := false
  mime : Option String := none
  subtitleUrl : Option String := none
  startAt : Option Number := none
  endAt : Option Number := none
deriving DecidableEq

/-- `VideoAdd`: the identified video and extras of an add or play-now request. -/
structure VideoAdd extends VideoId where
  startAt : Option Number := none
  endAt : Option Number := none
  subtitleUrl : Option String := none
deriving DecidableEq

def QueueItem.clearQueueItemTrim (item : QueueItem) : QueueItem :=
  { item with startAt := none, endAt := none }

/-- The key of an item in the vote map: service and id run together. -/
def VideoId.voteKey (video : VideoId) : String := video.service.name ++ video.id

/-- `ALL_SKIP_CATEGORIES`. -/
inductive Category where
  | sponsor
  | intro
  | outro
  | interaction
  | selfpromo
  | musicOfftopic
  | preview
deriving DecidableEq

/-- The wire name of a category. -/
def Category.name : Category → String
  | .sponsor => "sponsor"
  | .intro => "intro"
  | .outro => "outro"
  | .interaction => "interaction"
  | .selfpromo => "selfpromo"
  | .musicOfftopic => "music_offtopic"
  | .preview => "preview"

/-- `ALL_SKIP_CATEGORIES`, in order. -/
def ALL_SKIP_CATEGORIES : List Category :=
  [.sponsor, .intro, .outro, .interaction, .selfpromo, .musicOfftopic, .preview]

/-- A SponsorBlock segment. -/
structure Segment where
  category : Category
  startTime : Number
  endTime : Number
deriving DecidableEq

/-- `Visibility`: `listed` is the wire value `public` and `locked` is `private`. -/
inductive Visibility where
  | listed
  | unlisted
  | locked
deriving DecidableEq

inductive QueueMode where
  | manual
  | vote
  | loop
  | dj
deriving DecidableEq

inductive BehaviorOption where
  | never
  | prompt
  | always
deriving DecidableEq

inductive BufferGateMode where
  | off
  | pause
deriving DecidableEq

inductive PlayerStatus where
  | none
  | ready
  | buffering
  | error
deriving DecidableEq

structure RoomDanmakuSource where
  videoUrl : String
  provider : String
  label : String
  page : Option String := none
  episodeId : Option String := none
  offset : ℚ := 0
deriving DecidableEq

/-- A registered account, as far as a room looks at it. -/
structure User where
  id : Nat
  username : String := ""
deriving DecidableEq

structure PlaybackReadyInfo where
  clientId : ClientId
  firstFrame : Bool
  bufferAhead : Option Number
  reportedAt : Int
deriving DecidableEq

/-- Why a preparation round was released, or that it waits for a manual start. -/
inductive Fallback where
  | partially
  | none
  | forced
deriving DecidableEq

/-- `PlaybackPreparation`. The optional fields are absent in rounds of older servers. -/
structure PlaybackPreparation where
  id : String
  clientId : ClientId
  video : VideoId
  position : Number
  eligible : Option (List ClientId) := none
  ready : Option (List PlaybackReadyInfo) := none
  deadlineAt : Option Int := none
  hardDeadlineAt : Option Int := none
  startAt : Option Int := none
  fallback : Option Fallback := none
deriving DecidableEq

namespace PlaybackPreparation

/-- `preparation.eligible ?? [preparation.clientId]`. -/
def eligibleIds (preparation : PlaybackPreparation) : List ClientId :=
  preparation.eligible.getD [preparation.clientId]

/-- `preparation.ready ?? []`. -/
def reports (preparation : PlaybackPreparation) : List PlaybackReadyInfo :=
  preparation.ready.getD []

/-- The clients with a readiness report in this round. -/
def readyIds (preparation : PlaybackPreparation) : List ClientId :=
  preparation.reports.map PlaybackReadyInfo.clientId

end PlaybackPreparation

structure PlaybackPrepared where
  id : String
  position : Number
  bufferAhead : Option Number := none
  firstFrame : Option Bool := none
  visible : Option Bool := none
  failed : Bool := false
deriving DecidableEq

def TEMPORARY_PLAYBACK_SPEED : ℚ := 2
def TEMPORARY_PLAYBACK_SPEED_LEASE_MS : Int := 5000
def BUFFER_GATE_MAX_WAIT_MS : Int := 15000
def BUFFER_GATE_START_GRACE_MS : Int := 2000
def BUFFER_GATE_COOLDOWN_MS : Int := 30000
def PLAYBACK_READY_WAIT_MS : Int := 8000
def PLAYBACK_HARD_FALLBACK_MS : Int := 20000
def PLAYBACK_START_LEAD_MS : Int := 1000
def RECENT_EVENTS_LIMIT : Nat := 20
def MAX_QUEUE_ITEMS : Nat := 200
def MAX_VIDEO_ID_LENGTH : Nat := 2048
def MAX_CHAT_MESSAGE_LENGTH : Nat := 300
def MAX_NOTES_PER_ROOM : Nat := 200
def MAX_NOTE_LENGTH : Nat := 1000
def MAX_SEEK_SECONDS : Nat := 24 * 60 * 60

/-- `playbackReadyBufferSeconds`: segmented sources need a longer runway. -/
def playbackReadyBufferSeconds : Option VideoService → Number
  | some .hls => 6
  | some .dash => 6
  | _ => 3

/-- The length of a text in UTF-16 code units, which is what `String.length` counts. -/
def utf16Length (text : String) : Nat :=
  text.toList.foldl (fun units char => units + if char.val ≥ 0x10000 then 2 else 1) 0

/-- White space and line terminators, as `String.trim` counts them. -/
def isSpace (char : Char) : Bool :=
  decide (char.val ∈ [0x09, 0x0A, 0x0B, 0x0C, 0x0D, 0x20, 0xA0, 0x1680, 0x2028, 0x2029, 0x202F, 0x205F,
    0x3000, 0xFEFF]) || (decide (0x2000 ≤ char.val) && decide (char.val ≤ 0x200A))

def trim (text : String) : String :=
  .ofList ((text.toList.dropWhile isSpace).reverse.dropWhile isSpace).reverse

end OpenTogetherTube
