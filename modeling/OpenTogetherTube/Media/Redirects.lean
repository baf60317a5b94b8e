import OpenTogetherTube.Lib.Handler
import OpenTogetherTube.Media.Addresses

/-!
# Media requests under the guard

Embeds `assertPublicMediaUrl`, `resolvePublicMediaUrl`, `safeMediaDownload` and
`RunFfprobe.getFileInfo` of `server/ffprobe.ts`. Redirects are followed by hand, so that each URL
is checked just before it is requested, whatever the servers answer. The probe is handed the URL it
was called with, which is the one that was resolved just when the redirects lead back to it.
-/

namespace OpenTogetherTube

open Lib Lib.Handler

/-- What `new URL(uri)` says. -/
structure MediaUrl where
  protocol : String
  hostname : String
deriving DecidableEq

/-- What the requests read of a response. A location that is no string counts as none. -/
structure MediaResponse where
  status : Nat
  location : Option String := none
deriving DecidableEq

/-- What the functions take from outside. `none` is an exception. The servers' answers depend on how
many requests were made before. -/
structure MediaWorld where
  /-- `process.env.NODE_ENV === "test"`. -/
  isTest : Bool := false
  parseUrl : String → Option MediaUrl
  /-- `new URL(location, current).href`. -/
  resolveUrl : String → String → Option String
  /-- `dns.lookup` of all addresses, the same at any time. -/
  lookup : String → Option (List String)
  respond : Nat → String → Option MediaResponse
  /-- What `ffprobe` prints for its arguments, if it ends well. -/
  ffprobe : List String → Option String := fun _ => none

/-- What is done to the outside. -/
inductive MediaEvent where
  /-- The check of a URL passed. -/
  | checked (uri : String)
  | requested (uri : String)
  | spawned (args : List String)
deriving DecidableEq

/-- History, the latest first. -/
abbrev MediaTraffic := List MediaEvent

/-- The requests that were made. -/
def MediaTraffic.requests (traffic : MediaTraffic) : Nat :=
  traffic.countP fun event =>
    match event with
    | .requested _ => true
    | _ => false

/-- What the functions throw. -/
inductive MediaError where
  | error (message : String)
  | external
deriving DecidableEq

/-- A function that makes requests. -/
abbrev MediaM := Handler MediaError MediaTraffic

variable (world : MediaWorld)

def assertPublicMediaUrl (uri : String) : MediaM Unit :=
  if world.isTest then return ()
  else
    match world.parseUrl uri with
    | none => throw .external
    | some url =>
        if url.protocol ≠ "http:" ∧ url.protocol ≠ "https:" then
          throw (.error ("Unsupported media URL protocol: " ++ url.protocol))
        else
          match world.lookup url.hostname with
          | none => throw .external
          | some resolved =>
              if resolved.isEmpty then throw (.error "Media URL host did not resolve")
              else if resolved.any fun address => isPrivateAddress address.toList then
                throw (.error "Media URL resolves to a private or local address")
              else modify (.checked uri :: ·)

/-- `axios.get`, without redirects. -/
def requestMedia (uri : String) : MediaM MediaResponse := do
  let traffic ← get
  modify (.requested uri :: ·)
  match world.respond traffic.requests uri with
  | none => throw .external
  | some response => return response

def MAX_MEDIA_REDIRECTS : Nat := 5

/-- A status in the three hundreds. -/
def MediaResponse.isRedirect (response : MediaResponse) : Bool :=
  decide (300 ≤ response.status) && decide (response.status < 400)

/-- One round of the loops: `follow` goes on from a location, `finish` takes any other response. -/
def mediaRound {α : Type} (follow : String → MediaM α) (finish : MediaResponse → MediaM α)
    (current : String) : MediaM α := do
  assertPublicMediaUrl world current
  let response ← requestMedia world current
  if response.isRedirect then
    match response.location.filter (· ≠ "") with
    | none =>
        throw (.error ("Media URL redirected without a location (HTTP " ++
          toString response.status ++ ")"))
    | some location => follow location
  else finish response

/-- The loops, with so many redirects left (`MAX_MEDIA_REDIRECTS - hop`). -/
def mediaLoop {α : Type} (tooMany : String) (finish : String → MediaResponse → MediaM α) :
    Nat → String → MediaM α
  | 0, current =>
      mediaRound world (fun _ => throw (.error tooMany)) (finish current) current
  | left + 1, current =>
      mediaRound world (fun location =>
        match world.resolveUrl location current with
        | none => throw .external
        | some next => mediaLoop tooMany finish left next) (finish current) current

def resolvePublicMediaUrl (uri : String) : MediaM String :=
  mediaLoop world "Too many redirects while resolving media" (fun current _ => pure current)
    MAX_MEDIA_REDIRECTS uri

def safeMediaDownload (uri : String) : MediaM MediaResponse :=
  mediaLoop world "Too many redirects while downloading media" (fun _ response =>
    if response.status ≥ 400 then
      throw (.error ("Media URL responded with HTTP " ++ toString response.status))
    else pure response) MAX_MEDIA_REDIRECTS uri

/-- The arguments of the probe. -/
def ffprobeArgs (input : String) : List String :=
  ["-v", "error", "-protocol_whitelist", "http,https,tcp,tls", "-rw_timeout", "12000000",
    "-analyzeduration", "10000000", "-probesize", "32000000", "-i", input, "-print_format", "json",
    "-show_streams", "-show_format"]

/-- `RunFfprobe.getFileInfo`, up to the parse of what is printed. -/
def getFileInfo (uri : String) : MediaM String := do
  let resolvedUri ← resolvePublicMediaUrl world uri
  if '"' ∈ resolvedUri.toList then throw (.error "Unescaped double quote found in uri")
  else
    modify (.spawned (ffprobeArgs uri) :: ·)
    match world.ffprobe (ffprobeArgs uri) with
    | none => throw .external
    | some out => return out

/-- What the guard lets through: a URL of the web whose host has addresses, none of them private. -/
def PublicUrl (uri : String) : Prop :=
  ∃ url resolved, world.parseUrl uri = some url ∧
    (url.protocol = "http:" ∨ url.protocol = "https:") ∧ world.lookup url.hostname = some resolved ∧
    resolved.isEmpty = false ∧ (resolved.any fun address => isPrivateAddress address.toList) = false

/-- The servers lead from one URL to another over so many redirects, all of them public. -/
inductive Leads : Nat → String → Nat → String → Prop where
  | arrives {requests : Nat} {uri : String} {response : MediaResponse}
      (checked : PublicUrl world uri) (answered : world.respond requests uri = some response)
      (final : response.isRedirect = false) : Leads requests uri 0 uri
  | follows {requests hops : Nat} {uri location next final : String} {response : MediaResponse}
      (checked : PublicUrl world uri) (answered : world.respond requests uri = some response)
      (redirects : response.isRedirect = true)
      (located : response.location.filter (· ≠ "") = some location)
      (resolved : world.resolveUrl location uri = some next)
      (leads : Leads (requests + 1) next hops final) : Leads requests uri (hops + 1) final

/-- A URL is checked and then requested. -/
def visit (uri : String) (traffic : MediaTraffic) : MediaTraffic :=
  .requested uri :: .checked uri :: traffic

/-- So are several, the latest first. -/
def visits (uris : List String) (traffic : MediaTraffic) : MediaTraffic :=
  uris.foldr visit traffic

/-- How a round ends: refused by the guard, without an answer, with an answer that is no redirect,
with a redirect to nowhere, or with one that is followed. -/
inductive Round {α : Type} (follow : String → MediaM α) (finish : MediaResponse → MediaM α)
    (current : String) (traffic : MediaTraffic) : Except MediaError α → MediaTraffic → Prop where
  | refused (hidden : ¬ PublicUrl world current) (error : MediaError) :
      Round follow finish current traffic (.error error) traffic
  | unanswered (checked : PublicUrl world current)
      (silent : world.respond traffic.requests current = none) (error : MediaError) :
      Round follow finish current traffic (.error error) (visit current traffic)
  | finished (response : MediaResponse) (checked : PublicUrl world current)
      (answered : world.respond traffic.requests current = some response)
      (final : response.isRedirect = false) :
      Round follow finish current traffic ((finish response).outcome (visit current traffic))
        ((finish response).after (visit current traffic))
  | lost (response : MediaResponse) (checked : PublicUrl world current)
      (answered : world.respond traffic.requests current = some response)
      (redirects : response.isRedirect = true)
      (nowhere : response.location.filter (· ≠ "") = none) (error : MediaError) :
      Round follow finish current traffic (.error error) (visit current traffic)
  | followed (response : MediaResponse) (location : String) (checked : PublicUrl world current)
      (answered : world.respond traffic.requests current = some response)
      (redirects : response.isRedirect = true)
      (located : response.location.filter (· ≠ "") = some location) :
      Round follow finish current traffic ((follow location).outcome (visit current traffic))
        ((follow location).after (visit current traffic))

/-- A call has requested at most so many URLs, each checked just before. -/
def Guarded (limit : Nat) (before after : MediaTraffic) : Prop :=
  ∃ uris, after = visits uris before ∧ uris.length ≤ limit ∧ ∀ uri ∈ uris, PublicUrl world uri

@[simp] theorem requests_visit (uri : String) (traffic : MediaTraffic) :
    (visit uri traffic).requests = traffic.requests + 1 := by
  unfold visit MediaTraffic.requests
  rw [List.countP_cons_of_pos rfl, List.countP_cons_of_neg Bool.false_ne_true]

section Guard

variable {world} {traffic : MediaTraffic}

/-- Outside the tests the check passes just for public URLs. -/
theorem assertPublicMediaUrl_cases (live : world.isTest = false) (uri : String) :
    PublicUrl world uri ∧ (assertPublicMediaUrl world uri).outcome traffic = .ok () ∧
        (assertPublicMediaUrl world uri).after traffic = .checked uri :: traffic ∨
      ¬ PublicUrl world uri ∧
        (∃ error, (assertPublicMediaUrl world uri).outcome traffic = .error error) ∧
        (assertPublicMediaUrl world uri).after traffic = traffic := by
  unfold assertPublicMediaUrl PublicUrl
  rw [live, if_neg Bool.false_ne_true]
  cases parsed : world.parseUrl uri with
  | none => exact .inr ⟨fun ⟨_, _, known, _⟩ => (nomatch known), ⟨_, rfl⟩, rfl⟩
  | some url =>
      dsimp only
      by_cases foreign : url.protocol ≠ "http:" ∧ url.protocol ≠ "https:"
      · rw [if_pos foreign]
        refine .inr ⟨?_, ⟨_, rfl⟩, rfl⟩
        rintro ⟨_, _, same, web, _⟩
        obtain rfl := Option.some.inj same
        exact web.elim foreign.1 foreign.2
      · rw [if_neg foreign]
        have web : url.protocol = "http:" ∨ url.protocol = "https:" := by
          by_contra neither
          exact foreign (not_or.mp neither)
        cases found : world.lookup url.hostname with
        | none =>
            refine .inr ⟨?_, ⟨_, rfl⟩, rfl⟩
            rintro ⟨_, _, same, _, known, _⟩
            obtain rfl := Option.some.inj same
            rw [found] at known
            cases known
        | some resolved =>
            dsimp only
            have unique : ∀ {other addresses}, some url = some other →
                world.lookup other.hostname = some addresses → resolved = addresses := by
              rintro _ _ same known
              obtain rfl := Option.some.inj same
              exact Option.some.inj (found.symm.trans known)
            cases empty : resolved.isEmpty with
            | true =>
                refine .inr ⟨?_, ⟨_, rfl⟩, rfl⟩
                rintro ⟨_, _, same, _, known, filled, _⟩
                rw [← unique same known, empty] at filled
                cases filled
            | false =>
                rw [if_neg Bool.false_ne_true]
                cases hidden : resolved.any fun address => isPrivateAddress address.toList with
                | true =>
                    refine .inr ⟨?_, ⟨_, rfl⟩, rfl⟩
                    rintro ⟨_, _, same, _, known, _, open_⟩
                    rw [← unique same known, hidden] at open_
                    cases open_
                | false => exact .inl ⟨⟨url, resolved, rfl, web, found, empty, hidden⟩, rfl, rfl⟩

theorem requestMedia_outcome (uri : String) (traffic : MediaTraffic) :
    (requestMedia world uri).outcome traffic =
      match world.respond traffic.requests uri with
      | none => .error .external
      | some response => .ok response := by
  unfold requestMedia
  rw [outcome_get_bind, outcome_modify_bind]
  cases world.respond traffic.requests uri <;> rfl

theorem requestMedia_after (uri : String) (traffic : MediaTraffic) :
    (requestMedia world uri).after traffic = .requested uri :: traffic := by
  unfold requestMedia
  rw [after_get_bind, after_modify_bind]
  cases world.respond traffic.requests uri <;> rfl

theorem mediaRound_round {α : Type} (live : world.isTest = false) (follow : String → MediaM α)
    (finish : MediaResponse → MediaM α) (current : String) (traffic : MediaTraffic) :
    Round world follow finish current traffic
      ((mediaRound world follow finish current).outcome traffic)
      ((mediaRound world follow finish current).after traffic) := by
  have asked : MediaTraffic.requests (.checked current :: traffic) = traffic.requests :=
    List.countP_cons_of_neg Bool.false_ne_true
  unfold mediaRound
  rw [outcome_bind, after_bind]
  rcases assertPublicMediaUrl_cases live current with
    ⟨checked, passed, after⟩ | ⟨hidden, ⟨error, failed⟩, after⟩
  · rw [passed, after]
    dsimp only
    rw [outcome_bind, after_bind, requestMedia_outcome, requestMedia_after, asked]
    cases answered : world.respond traffic.requests current with
    | none => exact .unanswered checked answered .external
    | some response =>
        dsimp only
        cases redirects : response.isRedirect with
        | false => exact .finished response checked answered redirects
        | true =>
            rw [if_pos rfl]
            cases located : response.location.filter (· ≠ "") with
            | none => exact .lost response checked answered redirects located _
            | some location => exact .followed response location checked answered redirects located
  · rw [failed, after]
    exact .refused hidden error

theorem Guarded.visit {limit : Nat} {uri : String} {after : MediaTraffic}
    (checked : PublicUrl world uri)
    (guarded : Guarded world limit (OpenTogetherTube.visit uri traffic) after) :
    Guarded world (limit + 1) traffic after := by
  obtain ⟨uris, rfl, few, all⟩ := guarded
  refine ⟨uris ++ [uri], ?_, ?_, fun other member => ?_⟩
  · unfold visits
    rw [List.foldr_append]
    rfl
  · rw [List.length_append]
    exact Nat.succ_le_succ few
  · rcases List.mem_append.mp member with later | this
    · exact all other later
    · rw [List.mem_singleton.mp this]
      exact checked

theorem Guarded.refl (limit : Nat) (traffic : MediaTraffic) : Guarded world limit traffic traffic :=
  ⟨[], rfl, Nat.zero_le _, nofun⟩

/-- A round requests one URL, and whatever it goes on to. -/
theorem mediaRound_guarded {α : Type} (live : world.isTest = false) {follow : String → MediaM α}
    {finish : MediaResponse → MediaM α} {limit : Nat} (current : String)
    (quiet : ∀ response traffic, (finish response).after traffic = traffic)
    (further : ∀ location traffic, Guarded world limit traffic ((follow location).after traffic))
    (traffic : MediaTraffic) :
    Guarded world (limit + 1) traffic ((mediaRound world follow finish current).after traffic) := by
  have round := mediaRound_round live follow finish current traffic
  generalize (mediaRound world follow finish current).outcome traffic = outcome at round
  generalize (mediaRound world follow finish current).after traffic = after at round ⊢
  cases round with
  | refused hidden error => exact .refl _ _
  | unanswered checked silent error => exact .visit checked (.refl _ _)
  | finished response checked answered final =>
      rw [quiet]
      exact .visit checked (.refl _ _)
  | lost response checked answered redirects nowhere error => exact .visit checked (.refl _ _)
  | followed response location checked answered redirects located =>
      exact .visit checked (further location _)

/-- Whatever the servers answer, every URL is checked just before it is requested, and no more
redirects are followed than are left. -/
theorem mediaLoop_guarded {α : Type} (live : world.isTest = false) (tooMany : String)
    {finish : String → MediaResponse → MediaM α}
    (quiet : ∀ current response traffic, (finish current response).after traffic = traffic)
    (left : Nat) (current : String) (traffic : MediaTraffic) :
    Guarded world (left + 1) traffic ((mediaLoop world tooMany finish left current).after traffic) := by
  induction left generalizing current traffic with
  | zero => exact mediaRound_guarded live current (quiet current) (fun _ _ => .refl _ _) traffic
  | succ left ih =>
      refine mediaRound_guarded live current (quiet current) (fun location traffic => ?_) traffic
      cases world.resolveUrl location current with
      | none => exact .refl _ _
      | some next => exact ih next traffic

theorem mediaRound_ok_iff (live : world.isTest = false) (follow : String → MediaM String)
    (current final : String) (traffic : MediaTraffic) :
    (mediaRound world follow (fun _ => pure current) current).outcome traffic = .ok final ↔
      PublicUrl world current ∧ ∃ response, world.respond traffic.requests current = some response ∧
        (response.isRedirect = false ∧ current = final ∨
          response.isRedirect = true ∧ ∃ location,
            response.location.filter (· ≠ "") = some location ∧
              (follow location).outcome (visit current traffic) = .ok final) := by
  have round := mediaRound_round live follow (fun _ => pure current) current traffic
  generalize (mediaRound world follow (fun _ => pure current) current).outcome traffic = outcome
    at round ⊢
  generalize (mediaRound world follow (fun _ => pure current) current).after traffic = after at round
  cases round with
  | refused hidden error => exact ⟨nofun, fun both => absurd both.1 hidden⟩
  | unanswered checked silent error =>
      refine ⟨nofun, ?_⟩
      rintro ⟨_, response, answered, _⟩
      rw [silent] at answered
      cases answered
  | finished response checked answered final =>
      refine ⟨fun same => ⟨checked, response, answered, .inl ⟨final, Except.ok.inj same⟩⟩, ?_⟩
      rintro ⟨_, other, known, ⟨_, same⟩ | ⟨redirects, _⟩⟩
      · exact congrArg Except.ok same
      · obtain rfl := Option.some.inj (answered.symm.trans known)
        rw [final] at redirects
        cases redirects
  | lost response checked answered redirects nowhere error =>
      refine ⟨nofun, ?_⟩
      rintro ⟨_, other, known, ⟨final, _⟩ | ⟨_, location, located, _⟩⟩
      all_goals obtain rfl := Option.some.inj (answered.symm.trans known)
      · rw [redirects] at final
        cases final
      · rw [nowhere] at located
        cases located
  | followed response location checked answered redirects located =>
      refine ⟨fun same =>
        ⟨checked, response, answered, .inr ⟨redirects, location, located, same⟩⟩, ?_⟩
      rintro ⟨_, other, known, ⟨final, _⟩ | ⟨_, place, found, returned⟩⟩
      all_goals obtain rfl := Option.some.inj (answered.symm.trans known)
      · rw [redirects] at final
        cases final
      · obtain rfl := Option.some.inj (located.symm.trans found)
        exact returned

/-- `resolvePublicMediaUrl` returns where the servers lead, if that is near enough. -/
theorem mediaLoop_ok_iff (live : world.isTest = false) (tooMany : String) (left : Nat)
    (current final : String) (traffic : MediaTraffic) :
    (mediaLoop world tooMany (fun current _ => pure current) left current).outcome traffic =
        .ok final ↔
      ∃ hops ≤ left, Leads world traffic.requests current hops final := by
  induction left generalizing current traffic with
  | zero =>
      refine (mediaRound_ok_iff live _ current final traffic).trans ⟨?_, ?_⟩
      · rintro ⟨checked, response, answered, ⟨last, rfl⟩ | ⟨_, location, _, failed⟩⟩
        · exact ⟨0, Nat.le_refl _, .arrives checked answered last⟩
        · cases failed
      · rintro ⟨hops, none, leads⟩
        obtain rfl : hops = 0 := Nat.le_zero.mp none
        cases leads with
        | arrives checked answered last => exact ⟨checked, _, answered, .inl ⟨last, rfl⟩⟩
  | succ left ih =>
      refine (mediaRound_ok_iff live _ current final traffic).trans ⟨?_, ?_⟩
      · rintro ⟨checked, response, answered, ⟨last, rfl⟩ | ⟨redirects, location, located, returned⟩⟩
        · exact ⟨0, Nat.zero_le _, .arrives checked answered last⟩
        · cases resolved : world.resolveUrl location current with
          | none =>
              rw [resolved] at returned
              cases returned
          | some next =>
              rw [resolved] at returned
              obtain ⟨hops, few, leads⟩ := (ih next _).mp returned
              rw [requests_visit] at leads
              exact ⟨hops + 1, Nat.succ_le_succ few,
                .follows checked answered redirects located resolved leads⟩
      · rintro ⟨hops, few, leads⟩
        cases leads with
        | arrives checked answered last => exact ⟨checked, _, answered, .inl ⟨last, rfl⟩⟩
        | follows checked answered redirects located resolved leads =>
            refine ⟨checked, _, answered, .inr ⟨redirects, _, located, ?_⟩⟩
            rw [resolved]
            refine (ih _ _).mpr ⟨_, Nat.le_of_succ_le_succ few, ?_⟩
            rw [requests_visit]
            exact leads

end Guard

/-- What the three functions promise. Each call requests what was just checked, at most one URL and
five redirects from it, and the probe is handed what `resolvePublicMediaUrl` returned, without
quotes. -/
structure MediaContract (uri : String) (traffic : MediaTraffic) : Prop where
  resolving : Guarded world (MAX_MEDIA_REDIRECTS + 1) traffic
    ((resolvePublicMediaUrl world uri).after traffic)
  downloading : Guarded world (MAX_MEDIA_REDIRECTS + 1) traffic
    ((safeMediaDownload world uri).after traffic)
  probing : ∀ args, (getFileInfo world uri).after traffic =
      .spawned args :: (resolvePublicMediaUrl world uri).after traffic →
    ∃ resolvedUri, (resolvePublicMediaUrl world uri).outcome traffic = .ok resolvedUri ∧
      '"' ∉ resolvedUri.toList ∧ args = ffprobeArgs resolvedUri

section Probe

variable {world} {uri : String} {traffic : MediaTraffic}

theorem ffprobeArgs_injective {first second : String} (same : ffprobeArgs first = ffprobeArgs second) :
    first = second := by
  unfold ffprobeArgs at same
  have inputs := congrArg (·[11]?) same
  exact Option.some.inj inputs

/-- Where the URL does not resolve, nothing is spawned. -/
theorem getFileInfo_after_of_error {error : MediaError}
    (failed : (resolvePublicMediaUrl world uri).outcome traffic = .error error) :
    (getFileInfo world uri).after traffic = (resolvePublicMediaUrl world uri).after traffic := by
  unfold getFileInfo
  rw [after_bind, failed]

/-- Where it does, the probe is spawned for the URL of the call if the other has no quotes. -/
theorem getFileInfo_after_of_ok {resolvedUri : String}
    (returned : (resolvePublicMediaUrl world uri).outcome traffic = .ok resolvedUri) :
    (getFileInfo world uri).after traffic =
      if '"' ∈ resolvedUri.toList then (resolvePublicMediaUrl world uri).after traffic
      else .spawned (ffprobeArgs uri) :: (resolvePublicMediaUrl world uri).after traffic := by
  unfold getFileInfo
  rw [after_bind, returned]
  dsimp only
  split
  · rfl
  · rw [after_modify_bind]
    cases world.ffprobe (ffprobeArgs uri) <;> rfl

theorem resolvePublicMediaUrl_guarded (live : world.isTest = false) :
    Guarded world (MAX_MEDIA_REDIRECTS + 1) traffic
      ((resolvePublicMediaUrl world uri).after traffic) :=
  mediaLoop_guarded live _ (fun _ _ _ => rfl) _ uri traffic

theorem safeMediaDownload_guarded (live : world.isTest = false) :
    Guarded world (MAX_MEDIA_REDIRECTS + 1) traffic
      ((safeMediaDownload world uri).after traffic) := by
  refine mediaLoop_guarded live _ (fun _ response traffic => ?_) _ uri traffic
  rw [after_ite]
  exact ite_self _

/-- A kept promise leaves the redirects nowhere else to lead. -/
theorem MediaContract.final_eq (live : world.isTest = false)
    (contract : MediaContract world uri traffic) {hops : Nat} (few : hops ≤ MAX_MEDIA_REDIRECTS)
    {final : String} (leads : Leads world traffic.requests uri hops final)
    (plain : '"' ∉ final.toList) : final = uri := by
  have returned : (resolvePublicMediaUrl world uri).outcome traffic = .ok final :=
    (mediaLoop_ok_iff live _ _ uri final traffic).mpr ⟨hops, few, leads⟩
  have spawned := getFileInfo_after_of_ok returned
  rw [if_neg plain] at spawned
  obtain ⟨resolvedUri, same, -, args⟩ := contract.probing _ spawned
  rw [returned] at same
  rw [Except.ok.inj same]
  exact (ffprobeArgs_injective args).symm

end Probe

/-- The functions keep their promise just where the redirects lead back to the URL of the call, or
nowhere that can be probed. -/
theorem media_guard_covers_probe (live : world.isTest = false) (uri : String) (traffic : MediaTraffic) :
    MediaContract world uri traffic ↔
      ∀ hops ≤ MAX_MEDIA_REDIRECTS, ∀ final, Leads world traffic.requests uri hops final →
        '"' ∉ final.toList → final = uri := by
  constructor
  · intro contract hops few final leads plain
    exact contract.final_eq live few leads plain
  · intro back
    refine ⟨resolvePublicMediaUrl_guarded live, safeMediaDownload_guarded live, ?_⟩
    intro args spawned
    cases returned : (resolvePublicMediaUrl world uri).outcome traffic with
    | error error =>
        rw [getFileInfo_after_of_error returned] at spawned
        exact absurd spawned.symm (List.cons_ne_self _ _)
    | ok resolvedUri =>
        rw [getFileInfo_after_of_ok returned] at spawned
        split at spawned
        · exact absurd spawned.symm (List.cons_ne_self _ _)
        · rename_i plain
          obtain ⟨hops, few, leads⟩ := (mediaLoop_ok_iff live _ _ uri resolvedUri traffic).mp returned
          refine ⟨resolvedUri, rfl, plain, ?_⟩
          rw [back hops few resolvedUri leads plain]
          exact (MediaEvent.spawned.inj (List.cons.inj spawned).1).symm

/-- Two public hosts, the first of which sends to the second. -/
def sampleMediaWorld : MediaWorld where
  parseUrl uri :=
    if uri = "http://a.example/video.mp4" then some ⟨"http:", "a.example"⟩
    else if uri = "http://b.example/video.mp4" then some ⟨"http:", "b.example"⟩
    else none
  resolveUrl location _ := some location
  lookup _ := some ["93.184.216.34"]
  respond _ uri :=
    if uri = "http://a.example/video.mp4" then
      some { status := 302, location := some "http://b.example/video.mp4" }
    else some { status := 206 }

theorem publicUrl_sample {uri : String} {url : MediaUrl}
    (parsed : sampleMediaWorld.parseUrl uri = some url) (web : url.protocol = "http:") :
    PublicUrl sampleMediaWorld uri :=
  ⟨url, ["93.184.216.34"], parsed, .inl web, rfl, rfl, by decide +kernel⟩

/-- A URL that is answered without a redirect is probed itself. -/
theorem media_guard_covers_probe_direct :
    MediaContract sampleMediaWorld "http://b.example/video.mp4" [] := by
  refine (media_guard_covers_probe sampleMediaWorld rfl _ _).mpr fun hops _ final leads _ => ?_
  have answered : sampleMediaWorld.respond 0 "http://b.example/video.mp4" = some { status := 206 } := by
    decide +kernel
  cases leads with
  | arrives => rfl
  | follows _ known redirects =>
      obtain rfl := Option.some.inj (answered.symm.trans known)
      cases redirects

/-- One that redirects is probed in place of what it redirects to. -/
theorem media_guard_misses_probe :
    ¬ ∀ (world : MediaWorld) (uri : String) (traffic : MediaTraffic), world.isTest = false →
      MediaContract world uri traffic := by
  intro always
  have contract := always sampleMediaWorld "http://a.example/video.mp4" [] rfl
  have first : sampleMediaWorld.parseUrl "http://a.example/video.mp4" =
      some ⟨"http:", "a.example"⟩ := by decide +kernel
  have second : sampleMediaWorld.parseUrl "http://b.example/video.mp4" =
      some ⟨"http:", "b.example"⟩ := by decide +kernel
  have moved : sampleMediaWorld.respond 0 "http://a.example/video.mp4" =
      some { status := 302, location := some "http://b.example/video.mp4" } := by decide +kernel
  have answered : sampleMediaWorld.respond 1 "http://b.example/video.mp4" = some { status := 206 } := by
    decide +kernel
  have leads : Leads sampleMediaWorld 0 "http://a.example/video.mp4" 1
      "http://b.example/video.mp4" :=
    .follows (publicUrl_sample first rfl) moved rfl (by decide +kernel) rfl
      (.arrives (publicUrl_sample second rfl) answered rfl)
  have same := contract.final_eq rfl (by decide) leads (by decide +kernel)
  exact absurd same (by decide +kernel)

end OpenTogetherTube
