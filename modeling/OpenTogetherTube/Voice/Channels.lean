import OpenTogetherTube.Common.Models
import Mathlib.Data.List.Nodup

/-!
# The configured relay channels

Embeds the configuration half of `server/voice.ts`: `getTurnChannels` reads a list of channels, each
with its endpoints and their caps, and a list that is malformed in any place disables them all. What
is read has distinct channels with distinct endpoints, and none of them is nameless.
-/

namespace OpenTogetherTube

/-- What `JSON.parse` returns. -/
inductive JsonValue where
  | null
  | bool (value : Bool)
  | number (value : Lib.Number)
  | string (text : String)
  | array (entries : List JsonValue)
  | object (fields : List (String × JsonValue))

namespace JsonValue

/-- A property, if it is there. -/
def get (fields : List (String × JsonValue)) (name : String) : Option JsonValue :=
  (fields.find? fun field => decide (field.1 = name)).map Prod.snd

/-- A text, trimmed, or nothing. -/
def trimmed : Option JsonValue → String
  | some (.string text) => trim text
  | _ => ""

end JsonValue

/-- What the configuration is read with: `JSON.parse`, where it does not throw, and `Number`, where
it is finite. -/
structure ConfigReader where
  parse : String → Option JsonValue
  number : JsonValue → Option Rat

/-- The settings of voice. -/
structure VoiceConf where
  turnChannels : String := ""
  turnIceServers : String := ""
  cloudflareKeyId : String := ""
  cloudflareApiToken : String := ""

structure RtcIceServer where
  urls : List String
deriving DecidableEq

def DEFAULT_CHANNEL_LIMIT_MB : Rat := 700000

structure TurnEndpoint where
  id : String
  monthlyLimitMb : Rat
  keyId : Option String := none
  apiToken : Option String := none
  staticIceServers : Option (List RtcIceServer) := none
deriving DecidableEq

inductive TurnKind where
  | cloudflare
  | static
deriving DecidableEq

structure TurnChannel where
  id : String
  kind : TurnKind
  endpoints : List TurnEndpoint
deriving DecidableEq

/-- The urls of an entry of ICE servers, where they are valid. -/
def parseIceServer : JsonValue → Except String RtcIceServer
  | .object fields =>
      match JsonValue.get fields "urls" with
      | some (.string url) => .ok ⟨[url]⟩
      | some (.array urls) =>
          let texts := urls.filterMap fun
            | .string url => some url
            | _ => none
          if urls.length > 0 ∧ texts.length = urls.length then .ok ⟨texts⟩
          else .error "entry is missing urls"
      | _ => .error "entry is missing urls"
  | _ => .error "entry is not an object"

section Reader

variable (reader : ConfigReader)

def parseIceServers (raw : String) (fallback : List RtcIceServer) : List RtcIceServer :=
  if trim raw = "" then fallback
  else
    match reader.parse (trim raw) with
    | some (.array (entry :: rest)) =>
        match (entry :: rest).mapM parseIceServer with
        | .ok servers => servers
        | .error _ => fallback
    | _ => fallback

def getStaticRelayIceServers (conf : VoiceConf) : List RtcIceServer :=
  parseIceServers reader conf.turnIceServers []

/-- A limit, if it is positive and finite; `fallback` where it is not given. -/
def configuredLimit (given : Option JsonValue) (fallback : Rat) : Rat :=
  let configured :=
    match given with
    | none | some .null => some fallback
    | some value => reader.number value
  match configured with
  | some limit => if 0 < limit then limit else DEFAULT_CHANNEL_LIMIT_MB
  | none => DEFAULT_CHANNEL_LIMIT_MB

/-- The id of a key's endpoint: its own, or a number in the channel. -/
def keyEndpointId (channelId : String) (key : List (String × JsonValue)) (index : Nat) : String :=
  let named := JsonValue.trimmed (JsonValue.get key "id")
  if named ≠ "" then named else channelId ++ "-" ++ toString (index + 1)

/-- The loop of `parseEndpoints`, over the keys from an index on. The ids that were seen are those of
the endpoints so far. -/
def parseKeys (channelId : String) (channelLimitMb : Rat) :
    List JsonValue → Nat → List TurnEndpoint → Except String (List TurnEndpoint)
  | [], _, endpoints => .ok endpoints
  | .object key :: rest, index, endpoints =>
      let endpointId := keyEndpointId channelId key index
      let keyId := JsonValue.trimmed (JsonValue.get key "keyId")
      let apiToken := JsonValue.trimmed (JsonValue.get key "apiToken")
      if keyId = "" ∨ apiToken = "" then
        .error ("channel " ++ channelId ++ " endpoint " ++ endpointId ++ " is missing keyId/apiToken")
      else if endpointId ∈ endpoints.map TurnEndpoint.id then
        .error ("channel " ++ channelId ++ " has duplicate endpoint id " ++ endpointId)
      else
        let monthlyLimitMb :=
          configuredLimit reader (JsonValue.get key "monthlyLimitMb") channelLimitMb
        parseKeys channelId channelLimitMb rest (index + 1) (endpoints ++
          [{ id := endpointId, monthlyLimitMb, keyId := some keyId, apiToken := some apiToken }])
  | _ :: _, _, _ => .error ("channel " ++ channelId ++ " has an invalid key entry")

def parseEndpoints (channelId : String) (value : List (String × JsonValue)) (channelLimitMb : Rat) :
    Except String (List TurnEndpoint) :=
  match JsonValue.get value "keys" with
  | some (.array []) => .error ("channel " ++ channelId ++ " has an empty keys array")
  | some (.array rawKeys) => parseKeys reader channelId channelLimitMb rawKeys 0 []
  | _ =>
      -- a channel with a single key
      let keyId := JsonValue.trimmed (JsonValue.get value "keyId")
      let apiToken := JsonValue.trimmed (JsonValue.get value "apiToken")
      if keyId = "" ∨ apiToken = "" then
        .error ("channel " ++ channelId ++ " is missing keyId/apiToken or keys")
      else
        .ok [{ id := "default", monthlyLimitMb := channelLimitMb, keyId := some keyId,
               apiToken := some apiToken }]

/-- The loop of `parseTurnChannels`. -/
def parseChannels (conf : VoiceConf) :
    List JsonValue → List TurnChannel → Except String (List TurnChannel)
  | [], channels => .ok channels
  | .object value :: rest, channels => do
      let id := JsonValue.trimmed (JsonValue.get value "id")
      if id = "" ∨ id ∈ channels.map TurnChannel.id then
        throw ("invalid or duplicate channel id: " ++ id)
      let monthlyLimitMb :=
        configuredLimit reader (JsonValue.get value "monthlyLimitMb") DEFAULT_CHANNEL_LIMIT_MB
      match JsonValue.get value "kind" with
      | some (.string "static") =>
          let staticIceServers := getStaticRelayIceServers reader conf
          if staticIceServers.length = 0 then
            throw ("static channel " ++ id ++ " has no VOICE_TURN_ICE_SERVERS")
          parseChannels conf rest (channels ++ [{ id, kind := .static, endpoints :=
            [{ id := "static", monthlyLimitMb, staticIceServers := some staticIceServers }] }])
      | _ =>
          let endpoints ← parseEndpoints reader id value monthlyLimitMb
          parseChannels conf rest (channels ++ [{ id, kind := .cloudflare, endpoints }])
  | _ :: _, _ => .error "entry is not an object"

/-- The channels that the single settings make. -/
def fallbackChannels (conf : VoiceConf) : List TurnChannel :=
  let keyId := trim conf.cloudflareKeyId
  let apiToken := trim conf.cloudflareApiToken
  let staticIceServers := getStaticRelayIceServers reader conf
  (if keyId ≠ "" ∧ apiToken ≠ "" then
    [{ id := "cloudflare", kind := .cloudflare, endpoints :=
      [{ id := "default", monthlyLimitMb := DEFAULT_CHANNEL_LIMIT_MB, keyId := some keyId,
         apiToken := some apiToken }] }]
  else []) ++
  if staticIceServers.length > 0 then
    [{ id := "static", kind := .static, endpoints :=
      [{ id := "static", monthlyLimitMb := DEFAULT_CHANNEL_LIMIT_MB,
         staticIceServers := some staticIceServers }] }]
  else []

def parseTurnChannels (conf : VoiceConf) : List TurnChannel :=
  if trim conf.turnChannels = "" then fallbackChannels reader conf
  else
    match reader.parse (trim conf.turnChannels) with
    | some (.array (entry :: rest)) =>
        match parseChannels reader conf (entry :: rest) [] with
        | .ok channels => channels
        | .error _ => []
    | _ => []

end Reader

/-- Endpoints that are told apart by their ids, each with one. -/
structure TurnEndpoint.Named (endpoints : List TurnEndpoint) : Prop where
  distinct : (endpoints.map TurnEndpoint.id).Nodup
  named : ∀ endpoint ∈ endpoints, endpoint.id ≠ ""

/-- Channels that are told apart by their ids, and so are the endpoints of each. -/
structure TurnChannel.Named (channels : List TurnChannel) : Prop where
  distinct : (channels.map TurnChannel.id).Nodup
  endpoints : ∀ channel ∈ channels, TurnEndpoint.Named channel.endpoints

theorem TurnEndpoint.Named.append {endpoints : List TurnEndpoint} {endpoint : TurnEndpoint}
    (known : TurnEndpoint.Named endpoints) (fresh : endpoint.id ∉ endpoints.map TurnEndpoint.id)
    (named : endpoint.id ≠ "") : TurnEndpoint.Named (endpoints ++ [endpoint]) where
  distinct := by
    rw [List.map_append, List.map_singleton, ← List.concat_eq_append]
    exact known.distinct.concat fresh
  named other member := by
    rcases List.mem_append.mp member with before | last
    · exact known.named other before
    · rw [List.mem_singleton.mp last]
      exact named

theorem TurnEndpoint.Named.nil : TurnEndpoint.Named [] where
  distinct := List.nodup_nil
  named _ member := by cases member

theorem TurnEndpoint.Named.single {endpoint : TurnEndpoint} (named : endpoint.id ≠ "") :
    TurnEndpoint.Named [endpoint] :=
  TurnEndpoint.Named.nil.append List.not_mem_nil named

theorem TurnChannel.Named.append {channels : List TurnChannel} {channel : TurnChannel}
    (known : TurnChannel.Named channels) (fresh : channel.id ∉ channels.map TurnChannel.id)
    (endpoints : TurnEndpoint.Named channel.endpoints) :
    TurnChannel.Named (channels ++ [channel]) where
  distinct := by
    rw [List.map_append, List.map_singleton, ← List.concat_eq_append]
    exact known.distinct.concat fresh
  endpoints other member := by
    rcases List.mem_append.mp member with before | last
    · exact known.endpoints other before
    · rw [List.mem_singleton.mp last]
      exact endpoints

theorem TurnChannel.Named.nil : TurnChannel.Named [] where
  distinct := List.nodup_nil
  endpoints _ member := by cases member

section Read

variable (reader : ConfigReader) {conf : VoiceConf}

omit reader in
theorem keyEndpointId_ne_empty (channelId : String) (key : List (String × JsonValue)) (index : Nat) :
    keyEndpointId channelId key index ≠ "" := by
  unfold keyEndpointId
  dsimp only
  split
  · assumption
  · intro empty
    have length := congrArg String.length empty
    simp at length

theorem parseKeys_named {channelId : String} {channelLimitMb : Rat} {keys : List JsonValue}
    {index : Nat} {endpoints read : List TurnEndpoint} (known : TurnEndpoint.Named endpoints)
    (parsed : parseKeys reader channelId channelLimitMb keys index endpoints = .ok read) :
    TurnEndpoint.Named read := by
  induction keys generalizing index endpoints with
  | nil =>
      obtain rfl := Except.ok.inj parsed
      exact known
  | cons key rest ih =>
      cases key with
      | object fields =>
          unfold parseKeys at parsed
          dsimp only at parsed
          split at parsed
          · cases parsed
          · split at parsed
            · cases parsed
            · rename_i fresh
              exact ih
                (known.append fresh (keyEndpointId_ne_empty channelId fields _)) parsed
      | _ => cases parsed

theorem parseEndpoints_named {channelId : String} {value : List (String × JsonValue)}
    {channelLimitMb : Rat} {read : List TurnEndpoint}
    (parsed : parseEndpoints reader channelId value channelLimitMb = .ok read) :
    TurnEndpoint.Named read := by
  unfold parseEndpoints at parsed
  split at parsed
  · cases parsed
  · exact parseKeys_named reader .nil parsed
  · dsimp only at parsed
    split at parsed
    · cases parsed
    · obtain rfl := Except.ok.inj parsed
      exact .single (by decide : "default" ≠ "")

/-- A channel that is taken has an id no other has, and endpoints with ids of their own. -/
theorem parseChannels_named {entries : List JsonValue} {channels read : List TurnChannel}
    (known : TurnChannel.Named channels)
    (parsed : parseChannels reader conf entries channels = .ok read) : TurnChannel.Named read := by
  induction entries generalizing channels with
  | nil =>
      obtain rfl := Except.ok.inj parsed
      exact known
  | cons entry rest ih =>
      cases entry with
      | object value =>
          unfold parseChannels at parsed
          dsimp only at parsed
          split at parsed
          · cases parsed
          · rename_i accepted
            have fresh := (not_or.mp accepted).2
            split at parsed
            · split at parsed
              · cases parsed
              · exact ih (known.append fresh (.single (by decide : "static" ≠ ""))) parsed
            · cases given : parseEndpoints reader (JsonValue.trimmed (JsonValue.get value "id")) value
                (configuredLimit reader (JsonValue.get value "monthlyLimitMb")
                  DEFAULT_CHANNEL_LIMIT_MB) with
              | error error =>
                  rw [given] at parsed
                  cases parsed
              | ok endpoints =>
                  rw [given] at parsed
                  exact ih (known.append fresh (parseEndpoints_named reader given))
                    parsed
      | _ => cases parsed

theorem fallbackChannels_named : TurnChannel.Named (fallbackChannels reader conf) := by
  unfold fallbackChannels
  dsimp only
  have cloudflare : ∀ endpoint : TurnEndpoint, endpoint.id = "default" →
      TurnChannel.Named [{ id := "cloudflare", kind := .cloudflare, endpoints := [endpoint] }] :=
    fun endpoint is => TurnChannel.Named.nil.append List.not_mem_nil
      (.single (by rw [is]; decide))
  have static : ∀ {channels : List TurnChannel} (endpoint : TurnEndpoint), endpoint.id = "static" →
      TurnChannel.Named channels → "static" ∉ channels.map TurnChannel.id →
      TurnChannel.Named (channels ++ [{ id := "static", kind := .static, endpoints := [endpoint] }]) :=
    fun endpoint is known fresh => known.append fresh (.single (by rw [is]; decide))
  split <;> split
  · exact static _ rfl (cloudflare _ rfl) (by decide : "static" ∉ ["cloudflare"])
  · rw [List.append_nil]
    exact cloudflare _ rfl
  · exact static _ rfl .nil (by decide)
  · exact .nil

/-- The channels that are configured are told apart, whatever the configuration. -/
theorem parseTurnChannels_named (conf : VoiceConf) :
    TurnChannel.Named (parseTurnChannels reader conf) := by
  unfold parseTurnChannels
  split
  · exact fallbackChannels_named reader
  · split
    · split
      · rename_i parsed
        exact parseChannels_named reader .nil parsed
      · exact .nil
    · exact .nil

end Read

/-- The relay channels of a configuration. -/
structure TurnConfig where
  channels : List TurnChannel
  named : TurnChannel.Named channels

def getTurnChannels (reader : ConfigReader) (conf : VoiceConf) : TurnConfig where
  channels := parseTurnChannels reader conf
  named := parseTurnChannels_named reader conf

end OpenTogetherTube
