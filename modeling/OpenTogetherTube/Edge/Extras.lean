import Mathlib.Tactic.Tauto
import OpenTogetherTube.Edge.Commands

/-!
# Edge rooms: extras of a queue item

Embeds `applyExtras` of `ott-edge/src/media.ts` and what `UpdateQueueItemRequest` resolves
to. An update gives an item some of three properties; the others keep what the item has.
-/

namespace OpenTogetherTube.Edge

open Lib

/-- `mediaUrl(value).href`, which parses the text with the URL parser of the platform: no
URL is written as the empty text, and one that was written reads as itself, unless it got
too long to be accepted again. -/
structure MediaUrl where
  href : String → Except ApiError String
  nonempty : ∀ {value text : String}, href value = .ok text → text ≠ ""
  stable : ∀ {value text again : String}, href value = .ok text → href text = .ok again →
    again = text

/-- The `update` of an `UpdateQueueItemRequest`. A socket's command misses the keys that are
not given; the queue route may build one with all keys, undefined where not given. -/
structure ItemPatch where
  startAt : Property ℚ := .missing
  endAt : Property ℚ := .missing
  subtitleUrl : Property String := .missing
deriving DecidableEq

/-- The update as the command has it. -/
def ItemPatch.update (patch : ItemPatch) : ItemUpdate where
  startAt := patch.startAt.get
  endAt := patch.endAt.get
  subtitleUrl := patch.subtitleUrl.get

/-- `{ ...existing, ...update }`. -/
def ItemPatch.onto (patch : ItemPatch) (existing : QueueItem) : VideoAdd where
  toVideoId := existing.toVideoId
  startAt := (existing.startAt.spread patch.startAt).get
  endAt := (existing.endAt.spread patch.endAt).get
  subtitleUrl := (existing.subtitleUrl.spread patch.subtitleUrl).get

/-- A position that no extra may have: negative, or past the length if that is known. -/
def QueueItem.Outside (item : QueueItem) (number : ℚ) : Prop :=
  number < 0 ∨ ∃ length ∈ item.length.get, length ≠ 0 ∧ length < number

instance (item : QueueItem) (number : ℚ) : Decidable (item.Outside number) := by
  unfold QueueItem.Outside
  infer_instance

/-- One round of the loop in `applyExtras`: what `{ ...video, ...extras }` has under a key. -/
def extraTime (video : QueueItem) (old : Property ℚ) : Option ℚ → Except ApiError (Property ℚ)
  | none => .ok old
  | some number =>
      if video.Outside number then .error { status := 400, message := "视频起止位置无效。" }
      else .ok (.value number)

/-- The subtitle in `applyExtras`. -/
def extraSubtitle (mediaUrl : MediaUrl) (old : Property String) :
    Option String → Except ApiError (Property String)
  | none => .ok old
  | some url => if url = "" then .ok .undefined else (mediaUrl.href url).map .value

namespace QueueItem

/-- `endAt` is undefined or after `startAt ?? 0`. -/
def Ordered (item : QueueItem) : Prop :=
  ∀ last, item.endAt.get = some last → item.startAt.get.getD 0 < last

/-- An item with both positions ends after it starts. -/
def InOrder (item : QueueItem) : Prop :=
  ∀ start ∈ item.startAt.get, ∀ last ∈ item.endAt.get, start < last

theorem Ordered.inOrder {item : QueueItem} (ordered : item.Ordered) : item.InOrder := by
  intro start first last final
  have later := ordered last final
  rw [Option.mem_def.mp first] at later
  exact later

instance (item : QueueItem) : Decidable item.Ordered :=
  decidable_of_iff (item.endAt.get.all fun last => decide (item.startAt.get.getD 0 < last)) <| by
    unfold Ordered
    cases item.endAt.get <;> simp

end QueueItem

def applyExtras (mediaUrl : MediaUrl) (video : QueueItem) (value : VideoAdd) :
    Except ApiError QueueItem := do
  let startAt ← extraTime video video.startAt value.startAt
  let endAt ← extraTime video video.endAt value.endAt
  let subtitleUrl ← extraSubtitle mediaUrl video.subtitleUrl value.subtitleUrl
  let result := { video with startAt, endAt, subtitleUrl }
  if result.Ordered then return result
  else throw { status := 400, message := "结束位置必须晚于开始位置。" }

/-! ### What an update gives -/

/-- What an update gives a property: nothing, no value, or a value. -/
abbrev Gift (α : Type) := Option (Option α)

namespace Property

variable {α : Type} {old : Property α} {gift first second : Gift α}

/-- The property after the update. -/
def give (old : Property α) : Gift α → Property α
  | none => old
  | some none => .undefined
  | some (some given) => .value given

/-- `second` leaves what `first` gave, though it was resolved without it: it gives the
property itself, or the item misses the property, or has it as `first` gives it. -/
def Leaves (old : Property α) (first second : Gift α) : Prop :=
  first = none ∨ second ≠ none ∨ old = .missing ∨ old.give first = old

/-- The property is there, or `second` gives it, or `first` does not. -/
def Hides (old : Property α) (first second : Gift α) : Prop :=
  first = none ∨ second ≠ none ∨ old ≠ .missing

/-- Only `first` gives the property, or `second` gives what is there. -/
def Repeats (old : Property α) (first second : Gift α) : Prop :=
  first ≠ none ∨ old.give second = old

/-- Not given twice, or given the same. -/
def Agree (first second : Gift α) : Prop := first = none ∨ second = none ∨ first = second

theorem spread_self (old : Property α) : old.spread old = old := by cases old <;> rfl

theorem spread_give (old : Property α) (gift : Gift α) :
    old.spread (old.give gift) = old.give gift := by
  rcases gift with _ | _ | given
  · exact spread_self old
  · rfl
  · rfl

theorem spread_eq_both : (old.give first).spread (old.give second) = (old.give first).give second ↔
    old.Leaves first second := by
  rcases second with _ | _ | given
  · rcases first with _ | _ | given
    · cases old <;> simp [Leaves, give, spread]
    · cases old <;> simp [Leaves, give, spread]
    · cases old <;> simp [Leaves, give, spread, eq_comm]
  · simp [Leaves, give, spread]
  · simp [Leaves, give, spread]

theorem spread_eq_reverse :
    (old.give first).spread (old.give second) = (old.give second).give first ↔
      old.Leaves first second ∧ Agree first second := by
  rcases second with _ | _ | given
  · rcases first with _ | _ | given
    · cases old <;> simp [Leaves, Agree, give, spread]
    · cases old <;> simp [Leaves, Agree, give, spread]
    · cases old <;> simp [Leaves, Agree, give, spread, eq_comm]
  · rcases first with _ | _ | given <;> simp [Leaves, Agree, give, spread]
  · rcases first with _ | _ | other <;> simp [Leaves, Agree, give, spread, eq_comm]

theorem spread_eq_second : (old.give first).spread (old.give second) = old.give second ↔
    old.Hides first second := by
  rcases second with _ | _ | given
  · rcases first with _ | _ | given
    · cases old <;> simp [Hides, give, spread]
    · cases old <;> simp [Hides, give, spread]
    · cases old <;> simp [Hides, give, spread]
  · simp [Hides, give, spread]
  · simp [Hides, give, spread]

theorem spread_eq_first : (old.give first).spread (old.give second) = old.give first ↔
    old.Leaves first second ∧ (old.give first).give second = old.give first := by
  rcases second with _ | _ | given
  · rcases first with _ | _ | given
    · cases old <;> simp [Leaves, give, spread]
    · cases old <;> simp [Leaves, give, spread]
    · cases old <;> simp [Leaves, give, spread, eq_comm]
  · simp [Leaves, give, spread]
  · simp [Leaves, give, spread]

theorem give_back : (old.give second).give first = old.give first ↔ old.Repeats first second := by
  rcases first with _ | _ | given <;> simp [Repeats, give]

/-- What adds nothing after another update repeats what is there. -/
theorem repeats_of_give (same : (old.give first).give second = old.give first) :
    old.Repeats first second := by
  rcases first with _ | _ | given
  · exact Or.inr same
  · exact Or.inl nofun
  · exact Or.inl nofun

theorem give_comm (disjoint : first = none ∨ second = none) :
    (old.give first).give second = (old.give second).give first := by
  rcases disjoint with rfl | rfl <;> rfl

end Property

/-- What an update gives an item. -/
structure Gifts where
  startAt : Gift ℚ
  endAt : Gift ℚ
  subtitleUrl : Gift String
deriving DecidableEq

/-- An empty subtitle takes the subtitle away. -/
def ItemPatch.gifts (mediaUrl : MediaUrl) (patch : ItemPatch) : Gifts where
  startAt := patch.startAt.get.map some
  endAt := patch.endAt.get.map some
  subtitleUrl := patch.subtitleUrl.get.map fun url =>
    if url = "" then none else (mediaUrl.href url).toOption

namespace QueueItem

/-- Replace the three properties. -/
def withExtras (item : QueueItem) (startAt endAt : Property ℚ) (subtitleUrl : Property String) :
    QueueItem :=
  { item with startAt, endAt, subtitleUrl }

/-- The item after the update. -/
def give (item : QueueItem) (gifts : Gifts) : QueueItem :=
  item.withExtras (item.startAt.give gifts.startAt) (item.endAt.give gifts.endAt)
    (item.subtitleUrl.give gifts.subtitleUrl)

/-- Each property that only `first` gives is missing from the item, or there as given. -/
def Leaves (item : QueueItem) (first second : Gifts) : Prop :=
  item.startAt.Leaves first.startAt second.startAt ∧ item.endAt.Leaves first.endAt second.endAt ∧
    item.subtitleUrl.Leaves first.subtitleUrl second.subtitleUrl

/-- Each property that only `first` gives is there. -/
def Hides (item : QueueItem) (first second : Gifts) : Prop :=
  item.startAt.Hides first.startAt second.startAt ∧ item.endAt.Hides first.endAt second.endAt ∧
    item.subtitleUrl.Hides first.subtitleUrl second.subtitleUrl

/-- Each property that only `second` gives is there as given. -/
def Repeats (item : QueueItem) (first second : Gifts) : Prop :=
  item.startAt.Repeats first.startAt second.startAt ∧
    item.endAt.Repeats first.endAt second.endAt ∧
    item.subtitleUrl.Repeats first.subtitleUrl second.subtitleUrl

/-- What an item is made with: the metadata has each key once, as objects do, and a subtitle
was written by `applyExtras`, where alone subtitles are set. -/
structure WellFormed (mediaUrl : MediaUrl) (item : QueueItem) : Prop where
  keys : (item.metadata.map Prod.fst).Nodup
  subtitle : ∀ url, item.subtitleUrl = .value url → ∃ text, mediaUrl.href text = .ok url

end QueueItem

/-- No property is given different values. -/
def Gifts.Agree (first second : Gifts) : Prop :=
  Property.Agree first.startAt second.startAt ∧ Property.Agree first.endAt second.endAt ∧
    Property.Agree first.subtitleUrl second.subtitleUrl

/-- No property is given by both. -/
def Gifts.Disjoint (first second : Gifts) : Prop :=
  (first.startAt = none ∨ second.startAt = none) ∧ (first.endAt = none ∨ second.endAt = none) ∧
    (first.subtitleUrl = none ∨ second.subtitleUrl = none)

section Metadata

variable {map entries : OrderedMap String (Option String)}

/-- Writing an entry that is there changes nothing. -/
theorem set_self (keys : (map.map Prod.fst).Nodup) {entry : String × Option String}
    (inside : entry ∈ map) : map.set entry.1 entry.2 = map := by
  have there : map.has entry.1 = true := by
    unfold OrderedMap.has OrderedMap.get
    rw [Option.isSome_map, List.find?_isSome]
    exact ⟨entry, inside, decide_eq_true rfl⟩
  unfold OrderedMap.set
  rw [if_pos there]
  refine (List.map_congr_left fun other known => ?_).trans (List.map_id map)
  split
  · rename_i same
    exact (List.inj_on_of_nodup_map keys known inside same).symm
  · rfl

theorem foldl_set_self (keys : (map.map Prod.fst).Nodup) (inside : ∀ entry ∈ entries, entry ∈ map) :
    entries.foldl (fun known entry => OrderedMap.set known entry.1 entry.2) map = map := by
  induction entries with
  | nil => rfl
  | cons entry rest ih =>
      rw [List.foldl_cons, set_self keys (inside entry List.mem_cons_self)]
      exact ih fun other later => inside other (List.mem_cons_of_mem _ later)

end Metadata

namespace QueueItem

variable {mediaUrl : MediaUrl} {item : QueueItem} {first second : Gifts}

theorem withExtras_inj {startAt startAt' endAt endAt' : Property ℚ}
    {subtitleUrl subtitleUrl' : Property String} :
    item.withExtras startAt endAt subtitleUrl = item.withExtras startAt' endAt' subtitleUrl' ↔
      startAt = startAt' ∧ endAt = endAt' ∧ subtitleUrl = subtitleUrl' := by
  unfold withExtras
  simp

/-- Two versions of one item, spread. -/
theorem spread_withExtras (keys : (item.metadata.map Prod.fst).Nodup)
    (startAt startAt' endAt endAt' : Property ℚ) (subtitleUrl subtitleUrl' : Property String) :
    (item.withExtras startAt endAt subtitleUrl).spread
        (item.withExtras startAt' endAt' subtitleUrl') =
      item.withExtras (startAt.spread startAt') (endAt.spread endAt')
        (subtitleUrl.spread subtitleUrl') := by
  unfold spread withExtras
  dsimp only
  rw [Property.spread_self, foldl_set_self keys fun _ inside => inside]

theorem spread_give (keys : (item.metadata.map Prod.fst).Nodup) (gifts : Gifts) :
    item.spread (item.give gifts) = item.give gifts := by
  have made := spread_withExtras keys item.startAt (item.startAt.give gifts.startAt) item.endAt
    (item.endAt.give gifts.endAt) item.subtitleUrl (item.subtitleUrl.give gifts.subtitleUrl)
  rw [Property.spread_give, Property.spread_give, Property.spread_give] at made
  exact made

theorem spread_self (keys : (item.metadata.map Prod.fst).Nodup) : item.spread item = item := by
  have made := spread_withExtras keys item.startAt item.startAt item.endAt item.endAt
    item.subtitleUrl item.subtitleUrl
  rw [Property.spread_self, Property.spread_self, Property.spread_self] at made
  exact made

theorem stale_eq_both (keys : (item.metadata.map Prod.fst).Nodup) :
    (item.give first).spread (item.give second) = (item.give first).give second ↔
      item.Leaves first second := by
  unfold give
  rw [spread_withExtras keys]
  refine withExtras_inj.trans (and_congr Property.spread_eq_both (and_congr ?_ ?_))
  · exact Property.spread_eq_both
  · exact Property.spread_eq_both

theorem stale_eq_reverse (keys : (item.metadata.map Prod.fst).Nodup) :
    (item.give first).spread (item.give second) = (item.give second).give first ↔
      item.Leaves first second ∧ first.Agree second := by
  unfold give
  rw [spread_withExtras keys]
  refine withExtras_inj.trans ((and_congr Property.spread_eq_reverse
    (and_congr Property.spread_eq_reverse Property.spread_eq_reverse)).trans ?_)
  unfold Leaves Gifts.Agree
  tauto

theorem stale_eq_second (keys : (item.metadata.map Prod.fst).Nodup) :
    (item.give first).spread (item.give second) = item.give second ↔ item.Hides first second := by
  unfold give
  rw [spread_withExtras keys]
  refine withExtras_inj.trans (and_congr Property.spread_eq_second (and_congr ?_ ?_))
  · exact Property.spread_eq_second
  · exact Property.spread_eq_second

theorem stale_eq_first (keys : (item.metadata.map Prod.fst).Nodup) :
    (item.give first).spread (item.give second) = item.give first ↔
      item.Leaves first second ∧ (item.give first).give second = item.give first := by
  have absorbs : (item.give first).give second = item.give first ↔
      (item.startAt.give first.startAt).give second.startAt = item.startAt.give first.startAt ∧
      (item.endAt.give first.endAt).give second.endAt = item.endAt.give first.endAt ∧
      (item.subtitleUrl.give first.subtitleUrl).give second.subtitleUrl =
        item.subtitleUrl.give first.subtitleUrl := withExtras_inj
  rw [absorbs]
  unfold give
  rw [spread_withExtras keys]
  refine withExtras_inj.trans ((and_congr Property.spread_eq_first
    (and_congr Property.spread_eq_first Property.spread_eq_first)).trans ?_)
  unfold Leaves
  tauto

theorem give_back :
    (item.give second).give first = item.give first ↔ item.Repeats first second := by
  refine withExtras_inj.trans (and_congr Property.give_back (and_congr ?_ ?_))
  · exact Property.give_back
  · exact Property.give_back

theorem repeats_of_give (same : (item.give first).give second = item.give first) :
    item.Repeats first second := by
  obtain ⟨startAt, endAt, subtitleUrl⟩ := withExtras_inj.mp same
  exact ⟨Property.repeats_of_give startAt, Property.repeats_of_give endAt,
    Property.repeats_of_give subtitleUrl⟩

/-- Updates that give different properties commute. -/
theorem give_comm (disjoint : first.Disjoint second) :
    (item.give first).give second = (item.give second).give first :=
  withExtras_inj.mpr ⟨Property.give_comm disjoint.1, Property.give_comm disjoint.2.1,
    Property.give_comm disjoint.2.2⟩

/-- A value is one an extra may have. -/
def TimeOk (item : QueueItem) (value : Property ℚ) : Prop :=
  ∀ number ∈ value.get, ¬item.Outside number

end QueueItem

/-- A subtitle that `applyExtras` takes. -/
def MediaUrl.Takes (mediaUrl : MediaUrl) (subtitleUrl : Property String) : Prop :=
  ∀ url ∈ subtitleUrl.get, url = "" ∨ ∃ text, mediaUrl.href url = .ok text

instance (mediaUrl : MediaUrl) (url : String) : Decidable (∃ text, mediaUrl.href url = .ok text) :=
  decidable_of_iff ((mediaUrl.href url).toOption.isSome = true) <| by
    cases mediaUrl.href url <;> simp [Except.toOption]

instance (mediaUrl : MediaUrl) (subtitleUrl : Property String) :
    Decidable (mediaUrl.Takes subtitleUrl) :=
  inferInstanceAs (Decidable (∀ _ ∈ _, _))

namespace QueueItem

instance (item : QueueItem) (value : Property ℚ) : Decidable (item.TimeOk value) :=
  inferInstanceAs (Decidable (∀ _ ∈ _, _))

/-- `applyExtras` takes the update. -/
structure Accepts (mediaUrl : MediaUrl) (item : QueueItem) (patch : ItemPatch) : Prop where
  startAt : item.TimeOk (item.startAt.spread patch.startAt)
  endAt : item.TimeOk (item.endAt.spread patch.endAt)
  subtitleUrl : mediaUrl.Takes (item.subtitleUrl.spread patch.subtitleUrl)
  ordered : (item.give (patch.gifts mediaUrl)).Ordered

instance (mediaUrl : MediaUrl) (item : QueueItem) (patch : ItemPatch) :
    Decidable (item.Accepts mediaUrl patch) :=
  decidable_of_iff (item.TimeOk (item.startAt.spread patch.startAt) ∧
    item.TimeOk (item.endAt.spread patch.endAt) ∧
    mediaUrl.Takes (item.subtitleUrl.spread patch.subtitleUrl) ∧
    (item.give (patch.gifts mediaUrl)).Ordered)
  ⟨fun ⟨startAt, endAt, subtitleUrl, ordered⟩ => ⟨startAt, endAt, subtitleUrl, ordered⟩,
    fun accepts => ⟨accepts.startAt, accepts.endAt, accepts.subtitleUrl, accepts.ordered⟩⟩

end QueueItem

section Resolving

variable {mediaUrl : MediaUrl} {item : QueueItem}

theorem extraTime_ok {old new made : Property ℚ} :
    extraTime item old (old.spread new).get = .ok made ↔
      item.TimeOk (old.spread new) ∧ old.give (new.get.map some) = made := by
  have kept : old.give ((old.spread new).get.map some) = old.give (new.get.map some) := by
    cases old <;> cases new <;> rfl
  rw [← kept]
  unfold extraTime QueueItem.TimeOk
  cases (old.spread new).get with
  | none => simp [Property.give]
  | some number =>
      dsimp only
      split
      · rename_i outside
        exact ⟨nofun, fun ⟨within, _⟩ => absurd outside (within number rfl)⟩
      · rename_i within
        simpa [Property.give] using fun _ => within

theorem extraSubtitle_ok {old new made : Property String}
    (written : ∀ url, old = .value url → ∃ text, mediaUrl.href text = .ok url) :
    extraSubtitle mediaUrl old (old.spread new).get = .ok made ↔
      mediaUrl.Takes (old.spread new) ∧
        old.give (new.get.map fun url =>
          if url = "" then none else (mediaUrl.href url).toOption) = made := by
  unfold MediaUrl.Takes
  cases new with
  | missing =>
      cases old with
      | missing => simp [Property.spread, Property.get, extraSubtitle, Property.give]
      | undefined => simp [Property.spread, Property.get, extraSubtitle, Property.give]
      | value url =>
          -- A subtitle that was written is written again as it is, or refused.
          obtain ⟨text, parsed⟩ := written url rfl
          have nonempty := mediaUrl.nonempty parsed
          simp only [Property.spread, Property.get, extraSubtitle, Option.map_none,
            Property.give, Option.mem_def, Option.some.injEq, forall_eq', nonempty, false_or]
          cases again : mediaUrl.href url with
          | error error => simp [Except.map]
          | ok same =>
              rw [mediaUrl.stable parsed again]
              simp [Except.map]
  | undefined => cases old <;> simp [Property.spread, Property.get, extraSubtitle, Property.give]
  | value url =>
      have spread : old.spread (.value url) = .value url := by cases old <;> rfl
      rw [spread]
      by_cases empty : url = ""
      · simp [Property.get, extraSubtitle, Property.give, empty]
      · simp only [Property.get, extraSubtitle, Option.map_some, Option.mem_def,
          Option.some.injEq, forall_eq', empty, false_or]
        cases mediaUrl.href url with
        | error error => simp [Except.map]
        | ok text => simp [Except.map, Property.give, Except.toOption]

theorem bind_ok {α β : Type} {first : Except ApiError α} {next : α → Except ApiError β}
    {made : β} : (first >>= next) = .ok made ↔ ∃ value, first = .ok value ∧ next value = .ok made := by
  cases first with
  | error error => exact ⟨nofun, nofun⟩
  | ok value =>
      refine ⟨fun same => ⟨value, rfl, same⟩, ?_⟩
      rintro ⟨_, ⟨⟩, same⟩
      exact same

/-- An update resolves exactly when it is taken, and to the item with what it gives. -/
theorem applyExtras_onto (formed : item.WellFormed mediaUrl) {patch : ItemPatch}
    {made : QueueItem} :
    applyExtras mediaUrl item (patch.onto item) = .ok made ↔
      item.Accepts mediaUrl patch ∧ item.give (patch.gifts mediaUrl) = made := by
  unfold applyExtras ItemPatch.onto
  simp only [bind_ok, extraTime_ok, extraSubtitle_ok formed.subtitle]
  constructor
  · rintro ⟨_, ⟨start, rfl⟩, _, ⟨last, rfl⟩, _, ⟨subtitle, rfl⟩, result⟩
    split at result
    · rename_i ordered
      exact ⟨⟨start, last, subtitle, ordered⟩, Except.ok.inj result⟩
    · cases result
  · rintro ⟨accepted, rfl⟩
    refine ⟨_, ⟨accepted.startAt, rfl⟩, _, ⟨accepted.endAt, rfl⟩, _,
      ⟨accepted.subtitleUrl, rfl⟩, ?_⟩
    exact if_pos accepted.ordered

/-- An item that takes an update stays well formed. -/
theorem QueueItem.WellFormed.give (formed : item.WellFormed mediaUrl) {patch : ItemPatch}
    (accepted : item.Accepts mediaUrl patch) :
    (item.give (patch.gifts mediaUrl)).WellFormed mediaUrl := by
  refine ⟨formed.keys, fun url there => ?_⟩
  change item.subtitleUrl.give (patch.gifts mediaUrl).subtitleUrl = .value url at there
  unfold ItemPatch.gifts at there
  cases given : patch.subtitleUrl with
  | missing =>
      rw [given] at there
      exact formed.subtitle url there
  | undefined =>
      rw [given] at there
      exact formed.subtitle url there
  | value text =>
      have taken := accepted.subtitleUrl
      rw [given] at there taken
      have spread : item.subtitleUrl.spread (.value text) = .value text := by
        cases item.subtitleUrl <;> rfl
      rw [spread] at taken
      rcases taken text rfl with rfl | ⟨written, parsed⟩
      · cases there
      · refine ⟨text, ?_⟩
        simp only [Property.get, Option.map_some, parsed, Except.toOption] at there
        split at there
        · cases there
        · rw [parsed, Property.value.inj there]

/-- What is given again in vain does not show in what an update resolves to. -/
theorem Property.spread_of_repeats {α : Type} {old new : Property α} {second : Gift α}
    {f : α → Option α} (repeats : old.Repeats (new.get.map f) second) :
    (old.give second).spread new = old.spread new := by
  cases new with
  | missing =>
      rcases repeats with given | same
      · exact absurd rfl given
      · rw [same]
  | undefined => cases old <;> rcases second with _ | _ | _ <;> rfl
  | value given => cases old <;> rcases second with _ | _ | _ <;> rfl

/-- An update that is taken is taken after one that repeats what is there. -/
theorem QueueItem.Accepts.of_repeats {first second : ItemPatch}
    (accepted : item.Accepts mediaUrl first)
    (repeats : item.Repeats (first.gifts mediaUrl) (second.gifts mediaUrl)) :
    (item.give (second.gifts mediaUrl)).Accepts mediaUrl first := by
  have startAt := Property.spread_of_repeats repeats.1
  have endAt := Property.spread_of_repeats repeats.2.1
  have subtitleUrl := Property.spread_of_repeats repeats.2.2
  refine ⟨?_, ?_, ?_, ?_⟩
  · change item.TimeOk ((item.startAt.give _).spread first.startAt)
    rw [startAt]
    exact accepted.startAt
  · change item.TimeOk ((item.endAt.give _).spread first.endAt)
    rw [endAt]
    exact accepted.endAt
  · change mediaUrl.Takes ((item.subtitleUrl.give _).spread first.subtitleUrl)
    rw [subtitleUrl]
    exact accepted.subtitleUrl
  · rw [QueueItem.give_back.mpr repeats]
    exact accepted.ordered

/-- The item up to the three properties. -/
structure QueueItem.Version (mediaUrl : MediaUrl) (item version : QueueItem) : Prop where
  rest : ∃ startAt endAt subtitleUrl, version = item.withExtras startAt endAt subtitleUrl
  formed : version.WellFormed mediaUrl

theorem QueueItem.WellFormed.version (formed : item.WellFormed mediaUrl) :
    item.Version mediaUrl item :=
  ⟨⟨item.startAt, item.endAt, item.subtitleUrl, rfl⟩, formed⟩

theorem QueueItem.Version.give {version : QueueItem} (made : item.Version mediaUrl version)
    {patch : ItemPatch} (accepted : version.Accepts mediaUrl patch) :
    item.Version mediaUrl (version.give (patch.gifts mediaUrl)) := by
  refine ⟨?_, made.formed.give accepted⟩
  obtain ⟨startAt, endAt, subtitleUrl, rfl⟩ := made.rest
  exact ⟨_, _, _, rfl⟩

theorem QueueItem.Version.spread {one other : QueueItem} (keys : (item.metadata.map Prod.fst).Nodup)
    (first : item.Version mediaUrl one) (second : item.Version mediaUrl other) :
    item.Version mediaUrl (one.spread other) := by
  obtain ⟨⟨startAt, endAt, subtitleUrl, rfl⟩, formed⟩ := first
  obtain ⟨⟨startAt', endAt', subtitleUrl', rfl⟩, formed'⟩ := second
  rw [QueueItem.spread_withExtras keys]
  refine ⟨⟨_, _, _, rfl⟩, keys, fun url there => ?_⟩
  change subtitleUrl.spread subtitleUrl' = .value url at there
  cases subtitleUrl' with
  | missing => exact formed.subtitle url (by cases subtitleUrl <;> exact there)
  | undefined => cases subtitleUrl <;> cases there
  | value given => exact formed'.subtitle url (by cases subtitleUrl <;> exact there)

end Resolving

end OpenTogetherTube.Edge
