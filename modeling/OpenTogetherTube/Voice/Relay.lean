import OpenTogetherTube.Lib.OrderedMap
import OpenTogetherTube.Lib.Preference
import OpenTogetherTube.Voice.Channels

/-!
# Which relay a room is given

Embeds `getChannelStates` and `selectRelayChannel` of `server/voice-budget.ts` with
`getChannelRelayIceServers` of `server/voice.ts`. Channels are tried from the least used on, those of
equal usage in turns, and the endpoints of a channel from the one used last; the first one below its
cap that has credentials is given. Usage and caps are exact here, where the source multiplies, adds
and compares doubles.
-/

namespace OpenTogetherTube

open Lib

def BYTES_PER_MB : Rat := 1000000

/-- What one call finds: the configuration, the usage of each channel's endpoints, where it can be
read, and the credentials Cloudflare gives. -/
structure RelayWorld where
  config : TurnConfig
  getEndpointEstimatedBytes : String → String → Option Rat
  getEndpointActualBytes : String → String → Option (Option Rat)
  getCloudflareTurnIceServers : TurnChannel → TurnEndpoint → List RtcIceServer := fun _ _ => []

structure VoiceEndpointState where
  channelId : String
  endpointId : String
  limitMb : Rat
  estimatedMb : Rat
  actualMb : Option Rat
  usageMb : Rat
  remainingMb : Rat
  allowed : Bool
deriving DecidableEq

structure VoiceChannelState where
  id : String
  kind : TurnKind
  limitMb : Rat
  estimatedMb : Rat
  actualMb : Option Rat
  usageMb : Rat
  remainingMb : Rat
  allowed : Bool
  endpoints : List VoiceEndpointState
deriving DecidableEq

structure RelaySelection where
  channel : TurnChannel
  endpoint : TurnEndpoint
deriving DecidableEq

/-- What is kept from call to call. -/
structure RelayState where
  channelCursor : Nat := 0
  activeEndpoints : OrderedMap String String := []
deriving DecidableEq

/-- An available channel. -/
structure RelayEntry where
  channel : TurnChannel
  state : VoiceChannelState

namespace RelayWorld

variable (world : RelayWorld)

/-- The round of `getChannelStates` for an endpoint. What cannot be read counts as nothing. -/
def endpointState (channel : TurnChannel) (endpoint : TurnEndpoint) : VoiceEndpointState :=
  let estimated := world.getEndpointEstimatedBytes channel.id endpoint.id
  let actual := world.getEndpointActualBytes channel.id endpoint.id
  let readable := estimated.isSome && actual.isSome
  let estimatedBytes := estimated.getD 0
  let actualBytes := actual.getD none
  let usageBytes := actualBytes.getD estimatedBytes
  let limitBytes := endpoint.monthlyLimitMb * BYTES_PER_MB
  { channelId := channel.id
    endpointId := endpoint.id
    limitMb := endpoint.monthlyLimitMb
    estimatedMb := estimatedBytes / BYTES_PER_MB
    actualMb := actualBytes.map (· / BYTES_PER_MB)
    usageMb := usageBytes / BYTES_PER_MB
    remainingMb := max 0 ((limitBytes - usageBytes) / BYTES_PER_MB)
    allowed := readable && decide (usageBytes < limitBytes) }

/-- The round of `getChannelStates` for a channel. -/
def channelState (channel : TurnChannel) : VoiceChannelState :=
  let endpoints := channel.endpoints.map (world.endpointState channel)
  let usageMb := (endpoints.map (·.usageMb)).sum
  let limitMb := (endpoints.map (·.limitMb)).sum
  { id := channel.id
    kind := channel.kind
    limitMb
    estimatedMb := (endpoints.map (·.estimatedMb)).sum
    actualMb :=
      if endpoints.any (·.actualMb.isSome) then
        some (endpoints.map fun endpoint => endpoint.actualMb.getD endpoint.estimatedMb).sum
      else none
    usageMb
    remainingMb := max 0 (limitMb - usageMb)
    allowed := endpoints.any (·.allowed)
    endpoints }

def getChannelStates : List VoiceChannelState :=
  world.config.channels.map world.channelState

def findChannel (channelId : String) : Option TurnChannel :=
  world.config.channels.find? fun channel => decide (channel.id = channelId)

def getChannelRelayIceServers (channelId endpointId : String) : List RtcIceServer :=
  match world.findChannel channelId with
  | none => []
  | some channel =>
      let named :=
        if endpointId ≠ "" then
          channel.endpoints.find? fun candidate => decide (candidate.id = endpointId)
        else none
      match named.or channel.endpoints.head? with
      | none => []
      | some endpoint =>
          match endpoint.staticIceServers with
          | some iceServers => iceServers
          | none => world.getCloudflareTurnIceServers channel endpoint

/-- The channels with an endpoint below its cap, the least used first. -/
def available : List RelayEntry :=
  byCost (fun entry : RelayEntry => entry.state.usageMb) <|
    world.config.channels.filterMap fun channel =>
      match world.getChannelStates.find? fun state => decide (state.id = channel.id) with
      | some state => if state.allowed then some ⟨channel, state⟩ else none
      | none => none

/-- The endpoints of a channel in the order they are tried. -/
def orderedEndpoints (activeEndpointId : Option String) (channel : TurnChannel) :
    List TurnEndpoint :=
  match activeEndpointId.filter (· ≠ "") with
  | some active => favouring (fun endpoint => decide (endpoint.id = active)) channel.endpoints
  | none => channel.endpoints

/-- Whether the inner loop stops at an endpoint. -/
def stopsAt (entry : RelayEntry) (endpoint : TurnEndpoint) : Bool :=
  let stateById := OrderedMap.ofEntries
    (entry.state.endpoints.map fun state => (state.endpointId, state))
  (stateById.get endpoint.id).any (·.allowed) &&
    decide (0 < (world.getChannelRelayIceServers entry.channel.id endpoint.id).length)

/-- The round of the outer loop for a channel. -/
def pickEndpoint (state : RelayState) (entry : RelayEntry) : Option RelaySelection :=
  ((orderedEndpoints (state.activeEndpoints.get entry.channel.id) entry.channel).find?
    (world.stopsAt entry)).map fun endpoint => ⟨entry.channel, endpoint⟩

def selectRelayChannel (state : RelayState) : Option RelaySelection × RelayState :=
  match world.available with
  | [] => (none, state)
  | least :: _ =>
      let orderedChannels := takeTurns (fun entry : RelayEntry => entry.state.usageMb)
        least.state.usageMb state.channelCursor world.available
      match orderedChannels.findSome? (world.pickEndpoint state) with
      | some selection =>
          (some selection,
            { channelCursor := state.channelCursor + 1
              activeEndpoints :=
                state.activeEndpoints.set selection.channel.id selection.endpoint.id })
      | none => (none, state)

/-- An endpoint that may carry a room: its usage can be read and is below its own cap, and there are
credentials for it. -/
structure Qualifies (channel : TurnChannel) (endpoint : TurnEndpoint) : Prop where
  belowCap : ∃ estimated actual,
    world.getEndpointEstimatedBytes channel.id endpoint.id = some estimated ∧
      world.getEndpointActualBytes channel.id endpoint.id = some actual ∧
      actual.getD estimated < endpoint.monthlyLimitMb * BYTES_PER_MB
  credentials : world.getChannelRelayIceServers channel.id endpoint.id ≠ []

variable {world} {channel : TurnChannel} {endpoint : TurnEndpoint}

theorem allowed_endpointState : (world.endpointState channel endpoint).allowed = true ↔
    ∃ estimated actual, world.getEndpointEstimatedBytes channel.id endpoint.id = some estimated ∧
      world.getEndpointActualBytes channel.id endpoint.id = some actual ∧
      actual.getD estimated < endpoint.monthlyLimitMb * BYTES_PER_MB := by
  unfold endpointState
  dsimp only
  cases world.getEndpointEstimatedBytes channel.id endpoint.id with
  | none => simp
  | some estimated =>
      cases world.getEndpointActualBytes channel.id endpoint.id with
      | none => simp
      | some actual => simp

/-- Where keys tell entries apart, an entry is found by its key. -/
theorem find?_of_key {α : Type} (key : α → String) {entries : List α}
    (distinct : (entries.map key).Nodup) {entry : α} (member : entry ∈ entries) :
    entries.find? (fun other => decide (key other = key entry)) = some entry := by
  induction entries with
  | nil => cases member
  | cons first rest ih =>
      obtain ⟨apart, distinct⟩ := List.nodup_cons.mp distinct
      rcases List.mem_cons.mp member with rfl | later
      · exact List.find?_cons_of_pos (by simp)
      · have different : key first ≠ key entry := fun same =>
          apart (same ▸ List.mem_map_of_mem later)
        rw [List.find?_cons_of_neg (by simpa using different)]
        exact ih distinct later

theorem mem_available {entry : RelayEntry} : entry ∈ world.available ↔
    entry.channel ∈ world.config.channels ∧ entry.state = world.channelState entry.channel ∧
      entry.state.allowed = true := by
  have found : ∀ channel ∈ world.config.channels,
      world.getChannelStates.find? (fun state => decide (state.id = channel.id)) =
        some (world.channelState channel) := by
    intro channel member
    have first := find?_of_key TurnChannel.id world.config.named.distinct member
    unfold getChannelStates
    rw [List.find?_map]
    exact congrArg (Option.map world.channelState) first
  unfold available
  rw [mem_byCost, List.mem_filterMap]
  constructor
  · rintro ⟨channel, member, accepted⟩
    rw [found channel member] at accepted
    dsimp only at accepted
    split at accepted
    · obtain rfl := Option.some.inj accepted
      exact ⟨member, rfl, by assumption⟩
    · cases accepted
  · rintro ⟨member, same, allowed⟩
    refine ⟨entry.channel, member, ?_⟩
    rw [found entry.channel member, ← same]
    exact if_pos allowed

theorem mem_orderedEndpoints {active : Option String} :
    endpoint ∈ orderedEndpoints active channel ↔ endpoint ∈ channel.endpoints := by
  unfold orderedEndpoints
  split
  · exact mem_favouring
  · exact Iff.rfl

theorem stopsAt_iff {entry : RelayEntry} (listed : entry ∈ world.available)
    (member : endpoint ∈ entry.channel.endpoints) :
    world.stopsAt entry endpoint = true ↔ world.Qualifies entry.channel endpoint := by
  obtain ⟨configured, same, -⟩ := mem_available.mp listed
  have states : entry.state.endpoints =
      entry.channel.endpoints.map (world.endpointState entry.channel) := by rw [same]; rfl
  have keys : (entry.state.endpoints.map fun state => (state.endpointId, state)).map Prod.fst =
      entry.channel.endpoints.map TurnEndpoint.id := by
    rw [states, List.map_map, List.map_map]
    rfl
  have distinct := (world.config.named.endpoints entry.channel configured).distinct
  rw [← keys] at distinct
  have entered : (endpoint.id, world.endpointState entry.channel endpoint) ∈
      entry.state.endpoints.map fun state => (state.endpointId, state) := by
    rw [states, List.map_map]
    exact List.mem_map_of_mem member
  have read := OrderedMap.get_of_mem distinct entered
  unfold stopsAt
  rw [OrderedMap.ofEntries_of_nodup distinct]
  dsimp only at read ⊢
  rw [read, Option.any_some, Bool.and_eq_true, allowed_endpointState, decide_eq_true_eq,
    List.length_pos_iff]
  exact ⟨fun both => ⟨both.1, both.2⟩, fun qualifies => ⟨qualifies.belowCap, qualifies.credentials⟩⟩

section Picking

variable {state : RelayState} {entry : RelayEntry} (listed : entry ∈ world.available)

include listed

theorem of_pickEndpoint {selection : RelaySelection}
    (picked : world.pickEndpoint state entry = some selection) :
    selection.channel = entry.channel ∧ selection.endpoint ∈ entry.channel.endpoints ∧
      world.Qualifies entry.channel selection.endpoint := by
  obtain ⟨endpoint, found, rfl⟩ := Option.map_eq_some_iff.mp picked
  have member := mem_orderedEndpoints.mp (List.mem_of_find?_eq_some found)
  exact ⟨rfl, member, (stopsAt_iff listed member).mp (List.find?_some found)⟩

theorem pickEndpoint_ne_none (member : endpoint ∈ entry.channel.endpoints)
    (qualifies : world.Qualifies entry.channel endpoint) : world.pickEndpoint state entry ≠ none := by
  intro none_
  have never := List.find?_eq_none.mp (Option.map_eq_none_iff.mp none_) endpoint
    (mem_orderedEndpoints.mpr member)
  exact never ((stopsAt_iff listed member).mpr qualifies)

/-- The endpoint that was used last is picked while it qualifies. -/
theorem pickEndpoint_sticky {selection : RelaySelection}
    (picked : world.pickEndpoint state entry = some selection)
    (member : endpoint ∈ entry.channel.endpoints)
    (active : state.activeEndpoints.get entry.channel.id = some endpoint.id)
    (qualifies : world.Qualifies entry.channel endpoint) : selection.endpoint = endpoint := by
  obtain ⟨chosen, found, rfl⟩ := Option.map_eq_some_iff.mp picked
  have named := world.config.named.endpoints entry.channel (mem_available.mp listed).1
  have inside := mem_orderedEndpoints.mp (List.mem_of_find?_eq_some found)
  have favoured : (some endpoint.id).filter (· ≠ "") = some endpoint.id := by
    simp [Option.filter, named.named endpoint member]
  rw [active, orderedEndpoints, favoured] at found
  have same := favourite_of_find found member (decide_eq_true rfl)
    ((stopsAt_iff listed member).mpr qualifies)
  exact List.inj_on_of_nodup_map named.distinct inside member (of_decide_eq_true same)

end Picking

theorem exists_available (configured : channel ∈ world.config.channels)
    (member : endpoint ∈ channel.endpoints) (qualifies : world.Qualifies channel endpoint) :
    ⟨channel, world.channelState channel⟩ ∈ world.available := by
  refine mem_available.mpr ⟨configured, rfl, ?_⟩
  have listed : world.endpointState channel endpoint ∈ (world.channelState channel).endpoints :=
    List.mem_map_of_mem member
  exact List.any_eq_true.mpr ⟨_, listed, allowed_endpointState.mpr qualifies.belowCap⟩

/-- How a call ends: with nothing where no channel gives anything, or with what a channel of least
usage gives, among those that give anything, and the state remembers that. -/
theorem selectRelayChannel_cases (world : RelayWorld) (state : RelayState) :
    (world.selectRelayChannel state = (none, state) ∧
        ∀ entry ∈ world.available, world.pickEndpoint state entry = none) ∨
      ∃ entry ∈ world.available, ∃ selection, world.pickEndpoint state entry = some selection ∧
        (∀ other ∈ world.available, world.pickEndpoint state other ≠ none →
          entry.state.usageMb ≤ other.state.usageMb) ∧
        world.selectRelayChannel state = (some selection,
          { channelCursor := state.channelCursor + 1
            activeEndpoints :=
              state.activeEndpoints.set selection.channel.id selection.endpoint.id }) := by
  have rising : Rising (fun entry : RelayEntry => entry.state.usageMb) world.available :=
    rising_byCost _
  unfold selectRelayChannel
  cases all : world.available with
  | nil => exact .inl ⟨rfl, nofun⟩
  | cons least rest =>
      rw [all] at rising
      have lowest : ∀ entry ∈ least :: rest, least.state.usageMb ≤ entry.state.usageMb := by
        intro entry member
        rcases List.mem_cons.mp member with rfl | later
        · exact le_rfl
        · exact (List.pairwise_cons.mp rising).1 entry later
      have turned := rising.takeTurns lowest state.channelCursor
      dsimp only
      cases found : (takeTurns (fun entry : RelayEntry => entry.state.usageMb) least.state.usageMb
          state.channelCursor (least :: rest)).findSome? (world.pickEndpoint state) with
      | none =>
          refine .inl ⟨rfl, fun entry member => ?_⟩
          exact List.findSome?_eq_none_iff.mp found entry (mem_takeTurns.mpr member)
      | some selection =>
          obtain ⟨entry, member, picked, cheapest⟩ := turned.findSome_least found
          refine .inr ⟨entry, mem_takeTurns.mp member, selection, picked, fun other among => ?_, rfl⟩
          exact cheapest other (mem_takeTurns.mpr among)

end RelayWorld

/-- The state after some calls, and what they selected, the latest first. -/
structure RelayHistory where
  state : RelayState := {}
  selections : List RelaySelection := []

namespace RelayHistory

/-- One more call. -/
def next (history : RelayHistory) (world : RelayWorld) : RelayHistory :=
  let (selection, state) := world.selectRelayChannel history.state
  ⟨state, selection.toList ++ history.selections⟩

/-- Calls from the start on. -/
def ofCalls (worlds : List RelayWorld) : RelayHistory :=
  worlds.foldl next {}

/-- The endpoint of a channel that was used last. -/
def usedLast (history : RelayHistory) (channelId : String) : Option String :=
  (history.selections.find? fun selection => decide (selection.channel.id = channelId)).map
    fun selection => selection.endpoint.id

/-- The active endpoints are those that were used last. -/
def Remembers (history : RelayHistory) : Prop :=
  ∀ channelId, history.state.activeEndpoints.get channelId = history.usedLast channelId

theorem Remembers.next {history : RelayHistory} (remembers : history.Remembers)
    (world : RelayWorld) : (history.next world).Remembers := by
  intro channelId
  unfold RelayHistory.next usedLast
  rcases world.selectRelayChannel_cases history.state with
    ⟨ends, -⟩ | ⟨entry, -, selection, -, -, ends⟩
  · rw [ends]
    exact remembers channelId
  · rw [ends]
    dsimp only [Option.toList_some, List.singleton_append]
    rw [OrderedMap.get_set, List.find?_cons]
    by_cases here : channelId = selection.channel.id
    · simp [here]
    · rw [if_neg here, decide_eq_false (Ne.symm here)]
      exact remembers channelId

theorem remembers_ofCalls (worlds : List RelayWorld) : (ofCalls worlds).Remembers := by
  have kept : ∀ history : RelayHistory, history.Remembers → (worlds.foldl RelayHistory.next history).Remembers := by
    induction worlds with
    | nil => exact fun _ remembers => remembers
    | cons world rest ih =>
        exact fun history remembers => ih _ (remembers.next world)
  exact kept {} fun _ => rfl

end RelayHistory

/-- What a call may answer after others: nothing just when nothing qualifies, else an endpoint that
qualifies, in a channel of least usage among those with one, and the one used last there while it
qualifies. -/
structure RelaySelection.Sound (world : RelayWorld) (usedLast : String → Option String)
    (answer : Option RelaySelection) : Prop where
  qualifies : ∀ selection ∈ answer, selection.channel ∈ world.config.channels ∧
    selection.endpoint ∈ selection.channel.endpoints ∧
    world.Qualifies selection.channel selection.endpoint
  none_iff : answer = none ↔ ∀ channel ∈ world.config.channels, ∀ endpoint ∈ channel.endpoints,
    ¬ world.Qualifies channel endpoint
  leastUsed : ∀ selection ∈ answer, ∀ channel ∈ world.config.channels,
    (∃ endpoint ∈ channel.endpoints, world.Qualifies channel endpoint) →
      (world.channelState selection.channel).usageMb ≤ (world.channelState channel).usageMb
  sticky : ∀ selection ∈ answer, ∀ endpoint ∈ selection.channel.endpoints,
    usedLast selection.channel.id = some endpoint.id →
      world.Qualifies selection.channel endpoint → selection.endpoint = endpoint

/-- After any calls, for every configuration, usage and credentials, the answer of a call is sound. -/
theorem selectRelayChannel_sound (calls : List RelayWorld) (world : RelayWorld) :
    RelaySelection.Sound world (RelayHistory.ofCalls calls).usedLast
      (world.selectRelayChannel (RelayHistory.ofCalls calls).state).1 := by
  have remembers := RelayHistory.remembers_ofCalls calls
  generalize RelayHistory.ofCalls calls = history at remembers ⊢
  rcases world.selectRelayChannel_cases history.state with
    ⟨ends, nothing⟩ | ⟨entry, listed, selection, picked, least, ends⟩
  · rw [ends]
    refine ⟨nofun, iff_of_true rfl fun channel configured endpoint member qualifies => ?_, nofun, nofun⟩
    have listed := RelayWorld.exists_available configured member qualifies
    exact RelayWorld.pickEndpoint_ne_none listed member qualifies (nothing _ listed)
  · rw [ends]
    obtain ⟨configured, same, -⟩ := RelayWorld.mem_available.mp listed
    obtain ⟨theirs, member, qualifies⟩ := RelayWorld.of_pickEndpoint listed picked
    rw [← theirs] at configured same member qualifies
    refine ⟨?_, iff_of_false nofun fun none_ => ?_, ?_, ?_⟩
    · rintro _ ⟨⟩
      exact ⟨configured, member, qualifies⟩
    · exact none_ selection.channel configured selection.endpoint member qualifies
    · rintro _ ⟨⟩ channel among ⟨endpoint, inside, does⟩
      have available := RelayWorld.exists_available among inside does
      have cheaper := least _ available (RelayWorld.pickEndpoint_ne_none available inside does)
      rw [same] at cheaper
      exact cheaper
    · rintro _ ⟨⟩ endpoint inside last does
      rw [← remembers] at last
      rw [theirs] at inside last does
      exact RelayWorld.pickEndpoint_sticky listed picked inside last does

end OpenTogetherTube
