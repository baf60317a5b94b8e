import Mathlib.Algebra.Order.Field.Rat
import Mathlib.Tactic.Ring
import OpenTogetherTube.Lib.TokenBucket
import OpenTogetherTube.Manager.Connection

/-!
# The message budget of a client

Embeds `takeToken` and `consumeMessageBudget` of `server/clientmanager.ts`. Every message of a client
draws from its general bucket, and a chat message that gets through draws from its chat bucket as
well. Times are milliseconds.
-/

namespace OpenTogetherTube

open Lib

def MESSAGE_BUCKET_CAPACITY : Rat := 40

def MESSAGE_BUCKET_REFILL_PER_SEC : Rat := 10

def CHAT_BUCKET_CAPACITY : Rat := 5

def CHAT_BUCKET_REFILL_PER_SEC : Rat := 1 / 2

abbrev TokenBucket := Bucket Rat

/-- The buckets of a client. -/
structure ClientBuckets where
  general : TokenBucket
  chat : TokenBucket
deriving DecidableEq

abbrev MessageBuckets := OrderedMap ClientId ClientBuckets

/-- `takeToken`: whether there was one, and the bucket after it. -/
def takeToken (bucket : TokenBucket) (capacity refillPerSec now : Rat) : Bool × TokenBucket :=
  let elapsedSec := max 0 (now - bucket.updatedAt) / 1000
  let tokens := min capacity (bucket.tokens + elapsedSec * refillPerSec)
  if tokens < 1 then (false, { tokens, updatedAt := now })
  else (true, { tokens := tokens - 1, updatedAt := now })

/-- A request to chat. -/
def ClientMessage.isChat : ClientMessage → Bool
  | .req (some request) => decide (request.type = .chat)
  | _ => false

def consumeMessageBudget (client : ClientId) (msg : ClientMessage) (now : Rat)
    (messageBuckets : MessageBuckets) : Bool × MessageBuckets :=
  let buckets := (messageBuckets.get client).getD
    { general := { tokens := MESSAGE_BUCKET_CAPACITY, updatedAt := now }
      chat := { tokens := CHAT_BUCKET_CAPACITY, updatedAt := now } }
  let (taken, general) :=
    takeToken buckets.general MESSAGE_BUCKET_CAPACITY MESSAGE_BUCKET_REFILL_PER_SEC now
  if !taken then (false, messageBuckets.set client { buckets with general })
  else if msg.isChat then
    let (taken, chat) := takeToken buckets.chat CHAT_BUCKET_CAPACITY CHAT_BUCKET_REFILL_PER_SEC now
    (taken, messageBuckets.set client { general, chat })
  else (true, messageBuckets.set client { buckets with general })

/-- A message as it arrives. -/
structure ArrivingMessage where
  client : ClientId
  msg : ClientMessage
  now : Rat

/-- The messages one after the other: which of them are accepted, and the buckets after them. -/
def budgetRun : List ArrivingMessage → MessageBuckets → List (ArrivingMessage × Bool) × MessageBuckets
  | [], messageBuckets => ([], messageBuckets)
  | message :: rest, messageBuckets =>
      let first := consumeMessageBudget message.client message.msg message.now messageBuckets
      let later := budgetRun rest first.2
      ((message, first.1) :: later.1, later.2)

/-- How many messages of a client are accepted, among some, in an interval of so many seconds. -/
def acceptedIn (client : ClientId) (among : ClientMessage → Bool) (start seconds : Rat)
    (outcomes : List (ArrivingMessage × Bool)) : Nat :=
  outcomes.countP fun outcome =>
    outcome.2 && decide (outcome.1.client = client) && among outcome.1.msg &&
      decide (start ≤ outcome.1.now) && decide (outcome.1.now ≤ start + seconds * 1000)

namespace MessageBudget

/-- What flows into a bucket in a millisecond. -/
def perMs (refillPerSec : Rat) : Rat := refillPerSec / 1000

theorem takeToken_eq (bucket : TokenBucket) (capacity refillPerSec now : Rat) :
    takeToken bucket capacity refillPerSec now = bucket.take capacity (perMs refillPerSec) now := by
  have inflow : max 0 (now - bucket.updatedAt) / 1000 * refillPerSec =
      max 0 (now - bucket.updatedAt) * perMs refillPerSec := by
    rw [perMs, div_mul_eq_mul_div, mul_div_assoc]
  unfold takeToken Bucket.take Bucket.filled
  dsimp only
  rw [inflow]

/-- Full buckets, made at some time. -/
def full (now : Rat) : ClientBuckets where
  general := { tokens := MESSAGE_BUCKET_CAPACITY, updatedAt := now }
  chat := { tokens := CHAT_BUCKET_CAPACITY, updatedAt := now }

/-- The buckets a client draws from. -/
def held (client : ClientId) (now : Rat) (messageBuckets : MessageBuckets) : ClientBuckets :=
  (messageBuckets.get client).getD (full now)

/-- A draw from the general bucket. -/
def drawGeneral (now : Rat) (buckets : ClientBuckets) : Bool × TokenBucket :=
  buckets.general.take MESSAGE_BUCKET_CAPACITY (perMs MESSAGE_BUCKET_REFILL_PER_SEC) now

/-- A draw from the chat bucket. -/
def drawChat (now : Rat) (buckets : ClientBuckets) : Bool × TokenBucket :=
  buckets.chat.take CHAT_BUCKET_CAPACITY (perMs CHAT_BUCKET_REFILL_PER_SEC) now

/-- How a message draws: always from the general bucket, and from the chat bucket if it is a chat
message that has got through so far. -/
structure Consumed (client : ClientId) (msg : ClientMessage) (now : Rat)
    (messageBuckets : MessageBuckets) (accepted : Bool) (after : ClientBuckets) : Prop where
  general : after.general = (drawGeneral now (held client now messageBuckets)).2
  drew : accepted = true → (drawGeneral now (held client now messageBuckets)).1 = true
  chat : after.chat = (held client now messageBuckets).chat ∧ (accepted && msg.isChat) = false ∨
    after.chat = (drawChat now (held client now messageBuckets)).2 ∧
      (accepted = true → (drawChat now (held client now messageBuckets)).1 = true)

variable (client : ClientId)

include client

theorem consumeMessageBudget_eq (msg : ClientMessage) (now : Rat)
    (messageBuckets : MessageBuckets) :
    consumeMessageBudget client msg now messageBuckets =
      let buckets := held client now messageBuckets
      if !(drawGeneral now buckets).1 then
        (false, messageBuckets.set client { buckets with general := (drawGeneral now buckets).2 })
      else if msg.isChat then
        ((drawChat now buckets).1, messageBuckets.set client
          { general := (drawGeneral now buckets).2, chat := (drawChat now buckets).2 })
      else (true, messageBuckets.set client { buckets with general := (drawGeneral now buckets).2 }) := by
  unfold consumeMessageBudget
  simp only [takeToken_eq]
  rfl

theorem consumed (msg : ClientMessage) (now : Rat)
    (messageBuckets : MessageBuckets) : ∃ after,
      (consumeMessageBudget client msg now messageBuckets).2 = messageBuckets.set client after ∧
      Consumed client msg now messageBuckets
        (consumeMessageBudget client msg now messageBuckets).1 after := by
  rw [consumeMessageBudget_eq]
  dsimp only
  cases drew : (drawGeneral now (held client now messageBuckets)).1 with
  | false => exact ⟨_, rfl, rfl, nofun, .inl ⟨rfl, rfl⟩⟩
  | true =>
      cases chats : msg.isChat with
      | false => exact ⟨_, rfl, rfl, fun _ => drew, .inl ⟨rfl, by rw [chats, Bool.and_false]⟩⟩
      | true => exact ⟨_, rfl, rfl, fun _ => drew, .inr ⟨rfl, id⟩⟩

/-- The messages of a run, each with whether it counts as an accepted one of a client. -/
def events (client : ClientId) (among : ClientMessage → Bool)
    (outcomes : List (ArrivingMessage × Bool)) : List (Rat × Bool) :=
  outcomes.map fun outcome =>
    (outcome.1.now, outcome.2 && decide (outcome.1.client = client) && among outcome.1.msg)

theorem acceptedIn_eq (among : ClientMessage → Bool) (start seconds : Rat)
    (outcomes : List (ArrivingMessage × Bool)) : acceptedIn client among start seconds outcomes =
      Bucket.countedIn start (start + seconds * 1000) (events client among outcomes) := by
  unfold acceptedIn Bucket.countedIn events
  rw [List.countP_map]
  rfl

omit client in
theorem get_of_other {client : ClientId} {message : ArrivingMessage} (other : message.client ≠ client)
    (messageBuckets : MessageBuckets) :
    (consumeMessageBudget message.client message.msg message.now messageBuckets).2.get client =
      messageBuckets.get client := by
  obtain ⟨after, set, -⟩ := consumed message.client message.msg message.now messageBuckets
  rw [set, OrderedMap.get_set, if_neg (Ne.symm other)]

theorem events_cons (among : ClientMessage → Bool) (message : ArrivingMessage)
    (rest : List ArrivingMessage) (messageBuckets : MessageBuckets) :
    events client among (budgetRun (message :: rest) messageBuckets).1 =
      (message.now,
          (consumeMessageBudget message.client message.msg message.now messageBuckets).1 &&
            decide (message.client = client) && among message.msg) ::
        events client among (budgetRun rest
          (consumeMessageBudget message.client message.msg message.now messageBuckets).2).1 :=
  rfl

theorem held_general (now : Rat) (messageBuckets : MessageBuckets) :
    (held client now messageBuckets).general =
      ((messageBuckets.get client).map ClientBuckets.general).getD ⟨MESSAGE_BUCKET_CAPACITY, now⟩ := by
  unfold held
  cases messageBuckets.get client <;> rfl

theorem held_chat (now : Rat) (messageBuckets : MessageBuckets) :
    (held client now messageBuckets).chat =
      ((messageBuckets.get client).map ClientBuckets.chat).getD ⟨CHAT_BUCKET_CAPACITY, now⟩ := by
  unfold held
  cases messageBuckets.get client <;> rfl

theorem draws_general (messages : List ArrivingMessage)
    (messageBuckets : MessageBuckets) :
    Bucket.Draws MESSAGE_BUCKET_CAPACITY (perMs MESSAGE_BUCKET_REFILL_PER_SEC)
      ((messageBuckets.get client).map ClientBuckets.general)
      (events client (fun _ => true) (budgetRun messages messageBuckets).1) := by
  induction messages generalizing messageBuckets with
  | nil => exact .done _
  | cons message rest ih =>
      rw [events_cons]
      have later := ih
        (consumeMessageBudget message.client message.msg message.now messageBuckets).2
      by_cases own : message.client = client
      · subst own
        obtain ⟨after, set, drawn⟩ := consumed message.client message.msg message.now messageBuckets
        rw [set] at later ⊢
        rw [OrderedMap.get_set, if_pos rfl, Option.map_some, drawn.general] at later
        refine .of_full ?_
        rw [← held_general]
        exact .draw (fun counts => drawn.drew (by simpa using counts)) later
      · rw [get_of_other own] at later
        rw [decide_eq_false own, Bool.and_false, Bool.false_and]
        exact .idle later

/-- A client's chat messages draw from its chat bucket, those that get so far. -/
theorem draws_chat (messages : List ArrivingMessage)
    (messageBuckets : MessageBuckets) :
    Bucket.Draws CHAT_BUCKET_CAPACITY (perMs CHAT_BUCKET_REFILL_PER_SEC)
      ((messageBuckets.get client).map ClientBuckets.chat)
      (events client ClientMessage.isChat (budgetRun messages messageBuckets).1) := by
  induction messages generalizing messageBuckets with
  | nil => exact .done _
  | cons message rest ih =>
      rw [events_cons]
      have later := ih
        (consumeMessageBudget message.client message.msg message.now messageBuckets).2
      by_cases own : message.client = client
      · subst own
        obtain ⟨after, set, drawn⟩ := consumed message.client message.msg message.now messageBuckets
        rw [set] at later ⊢
        rw [OrderedMap.get_set, if_pos rfl, Option.map_some] at later
        refine .of_full ?_
        rw [← held_chat, decide_eq_true rfl, Bool.and_true]
        rcases drawn.chat with ⟨kept, unaccepted⟩ | ⟨taken, drew⟩
        · rw [kept] at later
          rw [unaccepted]
          exact .idle later
        · rw [taken] at later
          exact .draw (fun counts => drew (Bool.and_eq_true_iff.mp counts).1) later
      · rw [get_of_other own] at later
        rw [decide_eq_false own, Bool.and_false, Bool.false_and]
        exact .idle later

omit client

/-- Both buckets hold between nothing and their capacity. -/
structure Sound (buckets : ClientBuckets) : Prop where
  general : buckets.general.Sound MESSAGE_BUCKET_CAPACITY
  chat : buckets.chat.Sound CHAT_BUCKET_CAPACITY

theorem held_sound {messageBuckets : MessageBuckets}
    (sound : ∀ client, ∀ buckets ∈ messageBuckets.get client, Sound buckets) (client : ClientId)
    (now : Rat) : Sound (held client now messageBuckets) := by
  unfold held
  cases found : messageBuckets.get client with
  | none => exact ⟨.full (by decide +kernel) now, .full (by decide +kernel) now⟩
  | some buckets => exact sound client buckets found

theorem sound_run (messages : List ArrivingMessage) {messageBuckets : MessageBuckets}
    (sound : ∀ client, ∀ buckets ∈ messageBuckets.get client, Sound buckets) :
    ∀ client, ∀ buckets ∈ (budgetRun messages messageBuckets).2.get client, Sound buckets := by
  induction messages generalizing messageBuckets with
  | nil => exact sound
  | cons message rest ih =>
      unfold budgetRun
      refine ih fun client buckets found => ?_
      obtain ⟨after, set, drawn⟩ := consumed message.client message.msg message.now messageBuckets
      rw [set, OrderedMap.get_set] at found
      split at found
      · obtain rfl := Option.some.inj found
        have before := held_sound sound message.client message.now
        constructor
        · rw [drawn.general]
          exact before.general.take (by decide +kernel) (by decide +kernel) _
        · rcases drawn.chat with ⟨kept, -⟩ | ⟨taken, -⟩
          · rw [kept]
            exact before.chat
          · rw [taken]
            exact before.chat.take (by decide +kernel) (by decide +kernel) _
      · exact sound client buckets found

theorem inOrder_events {messages : List ArrivingMessage}
    (ordered : messages.Pairwise fun first second => first.now ≤ second.now) (client : ClientId)
    (among : ClientMessage → Bool) (messageBuckets : MessageBuckets) :
    Bucket.InOrder (events client among (budgetRun messages messageBuckets).1) := by
  have times : ∀ messageBuckets, (events client among (budgetRun messages messageBuckets).1).map
      Prod.fst = messages.map ArrivingMessage.now := by
    clear ordered
    induction messages with
    | nil => exact fun _ => rfl
    | cons message rest ih =>
        intro messageBuckets
        rw [events_cons, List.map_cons, List.map_cons, ih]
  refine List.pairwise_map.mp ?_
  rw [times]
  exact List.pairwise_map.mpr ordered

theorem acceptedIn_le {capacity refillPerSec : Rat} {client : ClientId}
    {among : ClientMessage → Bool} {messages : List ArrivingMessage}
    (draws : Bucket.Draws capacity (perMs refillPerSec) none
      (events client among (budgetRun messages []).1))
    (ordered : messages.Pairwise fun first second => first.now ≤ second.now)
    (positive : 0 ≤ capacity) (flows : 0 ≤ refillPerSec) (start : Rat) {seconds : Rat}
    (forth : 0 ≤ seconds) :
    (acceptedIn client among start seconds (budgetRun messages []).1 : Rat) ≤
      capacity + refillPerSec * seconds := by
  rw [acceptedIn_eq]
  have counted := draws.countedIn_le positive (div_nonneg flows (by norm_num))
    (inOrder_events ordered client among []) nofun nofun
    (le_add_of_nonneg_right (mul_nonneg forth (by norm_num)) : start ≤ start + seconds * 1000)
  refine counted.trans_eq ?_
  unfold perMs
  ring

end MessageBudget

/-- Whatever arrives in the order of time, in any interval no more messages of a client are accepted
than its bucket holds and is refilled with meanwhile, nor more chat messages than its chat bucket, and
neither bucket is ever below nothing or above its capacity. -/
theorem message_budget {messages : List ArrivingMessage}
    (ordered : messages.Pairwise fun first second => first.now ≤ second.now) (client : ClientId)
    (start : Rat) {seconds : Rat} (forth : 0 ≤ seconds) :
    (acceptedIn client (fun _ => true) start seconds (budgetRun messages []).1 : Rat) ≤
        40 + 10 * seconds ∧
      (acceptedIn client ClientMessage.isChat start seconds (budgetRun messages []).1 : Rat) ≤
        5 + 1 / 2 * seconds ∧
      ∀ buckets ∈ (budgetRun messages []).2.get client,
        (0 ≤ buckets.general.tokens ∧ buckets.general.tokens ≤ 40) ∧
          0 ≤ buckets.chat.tokens ∧ buckets.chat.tokens ≤ 5 := by
  have general := MessageBudget.draws_general client messages []
  have chat := MessageBudget.draws_chat client messages []
  refine ⟨MessageBudget.acceptedIn_le general ordered (by decide +kernel) (by decide +kernel) start
    forth, MessageBudget.acceptedIn_le chat ordered (by decide +kernel) (by decide +kernel) start forth,
    fun buckets found => ?_⟩
  have sound := MessageBudget.sound_run messages (fun _ _ none_ => by cases none_) client buckets found
  exact ⟨⟨sound.general.nonneg, sound.general.le_capacity⟩, sound.chat.nonneg, sound.chat.le_capacity⟩

/-- Two lines of chat, a second apart, and a ping. -/
theorem message_budget_chat :
    (acceptedIn "a" (fun _ => true) 0 1 (budgetRun
        [⟨"a", .req (some (.chat "hello")), 0⟩, ⟨"a", .req (some (.chat "there")), 1000⟩,
          ⟨"a", .ping, 1000⟩] []).1 : Rat) ≤ 40 + 10 * 1 ∧
      (acceptedIn "a" ClientMessage.isChat 0 1 (budgetRun
        [⟨"a", .req (some (.chat "hello")), 0⟩, ⟨"a", .req (some (.chat "there")), 1000⟩,
          ⟨"a", .ping, 1000⟩] []).1 : Rat) ≤ 5 + 1 / 2 * 1 ∧
      ∀ buckets ∈ (budgetRun
        [⟨"a", .req (some (.chat "hello")), 0⟩, ⟨"a", .req (some (.chat "there")), 1000⟩,
          ⟨"a", .ping, 1000⟩] []).2.get "a",
        (0 ≤ buckets.general.tokens ∧ buckets.general.tokens ≤ 40) ∧
          0 ≤ buckets.chat.tokens ∧ buckets.chat.tokens ≤ 5 :=
  message_budget (by simp) "a" 0 (by norm_num)

end OpenTogetherTube
