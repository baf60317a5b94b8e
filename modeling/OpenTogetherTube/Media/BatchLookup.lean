import OpenTogetherTube.Common.Models
import OpenTogetherTube.Lib.Aligned
import OpenTogetherTube.Lib.OrderedMap

/-!
# Looking up many videos at once

Embeds `getManyVideoInfo` of `server/infoextractor.ts` with the cached half of it from
`server/storage/cachedvideo.ts`. The requests are grouped by service, but the groups are flattened
and searched by id alone, so an id that two services share is answered by the first of them.
-/

namespace OpenTogetherTube

open Lib

/-- The columns of `CachedVideo` that describe a video. -/
inductive VideoField where
  | title
  | description
  | thumbnail
  | length
  | mime
deriving DecidableEq

/-- `VideoMetadata`, as far as it is cached. -/
structure VideoMetadata where
  title : Option String := none
  description : Option String := none
  thumbnail : Option String := none
  length : Option Number := none
  mime : Option String := none
deriving DecidableEq

/-- A text that is there and not empty. -/
def truthyText (text : Option String) : Option String :=
  text.filter (· ≠ "")

/-- `!!video[field]`. -/
def VideoMetadata.has (metadata : VideoMetadata) : VideoField → Bool
  | .title => (truthyText metadata.title).isSome
  | .description => (truthyText metadata.description).isSome
  | .thumbnail => (truthyText metadata.thumbnail).isSome
  | .length => metadata.length.any Number.truthy
  | .mime => (truthyText metadata.mime).isSome

/-- `Video`. It has no id where the cache failed. -/
structure Video where
  service : VideoService
  id : Option String
  metadata : VideoMetadata := {}
deriving DecidableEq

/-- `mergeVideo`: what is truthy in the second goes over the first. -/
def mergeVideo (a b : Video) : Video where
  service := b.service
  id := truthyText b.id <|> a.id
  metadata :=
    { title := truthyText b.metadata.title <|> a.metadata.title
      description := truthyText b.metadata.description <|> a.metadata.description
      thumbnail := truthyText b.metadata.thumbnail <|> a.metadata.thumbnail
      length := b.metadata.length.filter Number.truthy <|> a.metadata.length
      mime := truthyText b.metadata.mime <|> a.metadata.mime }

def getVideoInfoFields (service : VideoService) : List VideoField :=
  [VideoField.title, .description, .thumbnail, .length, .mime].filter fun column =>
    decide (¬((service = .youtube ∨ service = .vimeo) ∧ column = .mime)) &&
      decide (¬(service = .googledrive ∧ column = .description))

/-- A row of `CachedVideos`, and how many days ago it was created and last updated. -/
structure CachedRow where
  service : VideoService
  serviceId : String
  metadata : VideoMetadata := {}
  createdDays : Int := 0
  updatedDays : Int := 0
deriving DecidableEq

def filterVideoInfo (cachedVideo : CachedRow) : Video :=
  let intervalDays : Int := if cachedVideo.createdDays ≤ 7 then 7 else 30
  let isCachedInfoValid : Bool := decide (cachedVideo.updatedDays ≤ intervalDays)
  let metadata := cachedVideo.metadata
  { service := cachedVideo.service
    id := some cachedVideo.serviceId
    metadata :=
      { title := (truthyText metadata.title).filter fun _ => isCachedInfoValid
        description := (truthyText metadata.description).filter fun _ => isCachedInfoValid
        thumbnail := (truthyText metadata.thumbnail).filter fun _ => isCachedInfoValid
        length := (metadata.length.filter Number.truthy).filter fun _ => isCachedInfoValid
        mime := truthyText metadata.mime } }

/-- The cache's table, with its unique index. -/
structure CacheTable where
  rows : List CachedRow
  unique : (rows.map fun row => (row.service, row.serviceId)).Nodup

/-- Whether a row is about a video. -/
def CachedRow.isOf (row : CachedRow) (video : VideoId) : Prop :=
  row.service = video.service ∧ row.serviceId = video.id

instance (row : CachedRow) (video : VideoId) : Decidable (row.isOf video) :=
  inferInstanceAs (Decidable (_ ∧ _))

/-- One round of the loop that adds what was not found. -/
def pushMissing (foundVideos : List CachedRow) (video : VideoId) : List CachedRow :=
  if ∃ row ∈ foundVideos, row.isOf video then foundVideos
  else foundVideos ++ [{ service := video.service, serviceId := video.id }]

/-- The rows that storage's `getManyVideoInfo` filters. -/
def CacheTable.findMany (table : CacheTable) (videos : List VideoId) : List CachedRow :=
  let foundVideos := table.rows.filter fun row => decide (∃ video ∈ videos, row.isOf video)
  if videos.length ≠ foundVideos.length then videos.foldl pushMissing foundVideos
  else foundVideos

/-- `getManyVideoInfo` of the storage. Where the cache fails it returns what it was about to ask
for, whose ids are under another name. -/
def cachedManyVideoInfo (cache : Option CacheTable) (videos : List VideoId) : List Video :=
  match cache with
  | none => videos.map fun video => { service := video.service, id := none }
  | some table => (table.findMany videos).map filterVideoInfo

namespace CacheTable

variable (table : CacheTable) {videos : List VideoId}

theorem mem_pushMissing {rows : List CachedRow} {videos : List VideoId} {row : CachedRow}
    (member : row ∈ videos.foldl pushMissing rows) :
    row ∈ rows ∨ ∃ video ∈ videos, row.isOf video := by
  induction videos generalizing rows with
  | nil => exact .inl member
  | cons video rest ih =>
      rcases ih member with earlier | ⟨other, listed, of⟩
      · unfold pushMissing at earlier
        split at earlier
        · exact .inl earlier
        · rcases List.mem_append.mp earlier with old | new
          · exact .inl old
          · obtain rfl := List.mem_singleton.mp new
            exact .inr ⟨video, List.mem_cons_self, rfl, rfl⟩
      · exact .inr ⟨other, List.mem_cons_of_mem _ listed, of⟩

theorem mem_foldl_pushMissing {rows : List CachedRow} {videos : List VideoId} {row : CachedRow}
    (member : row ∈ rows) : row ∈ videos.foldl pushMissing rows := by
  induction videos generalizing rows with
  | nil => exact member
  | cons video rest ih =>
      refine ih ?_
      unfold pushMissing
      split
      · exact member
      · exact List.mem_append_left _ member

theorem exists_pushMissing {rows : List CachedRow} {videos : List VideoId} {video : VideoId}
    (member : video ∈ videos) : ∃ row ∈ videos.foldl pushMissing rows, row.isOf video := by
  induction videos generalizing rows with
  | nil => cases member
  | cons first rest ih =>
      rcases List.mem_cons.mp member with rfl | later
      · have present : ∃ row ∈ pushMissing rows video, row.isOf video := by
          unfold pushMissing
          split
          · assumption
          · exact ⟨_, List.mem_append_right _ (List.mem_singleton.mpr rfl), rfl, rfl⟩
        obtain ⟨row, listed, of⟩ := present
        refine ⟨row, ?_, of⟩
        rw [List.foldl_cons]
        exact mem_foldl_pushMissing listed
      · exact ih later

/-- The rows are about what was asked for. -/
theorem asked_of_mem_findMany {row : CachedRow} (member : row ∈ table.findMany videos) :
    ∃ video ∈ videos, row.isOf video := by
  have inRows : row ∈ table.rows.filter (fun row => decide (∃ video ∈ videos, row.isOf video)) →
      ∃ video ∈ videos, row.isOf video := fun found =>
    of_decide_eq_true (List.mem_filter.mp found).2
  simp only [findMany] at member
  split at member
  · rcases mem_pushMissing member with found | missing
    · exact inRows found
    · exact missing
  · exact inRows member

/-- Everything that is asked for gets a row. Where there are as many rows as questions no question
was left over, since no two rows are about the same video. -/
theorem exists_mem_findMany {video : VideoId} (member : video ∈ videos) :
    ∃ row ∈ table.findMany videos, row.isOf video := by
  simp only [findMany]
  split
  · exact exists_pushMissing member
  · rename_i lengths
    rw [not_ne_iff] at lengths
    let found := table.rows.filter fun row => decide (∃ video ∈ videos, row.isOf video)
    let keys := found.map fun row => (row.service, row.serviceId)
    let asked := videos.map fun video => (video.service, video.id)
    have apart : keys.Nodup := table.unique.sublist (List.filter_sublist.map _)
    have wanted : keys ⊆ asked := by
      intro key listed
      obtain ⟨row, inside, rfl⟩ := List.mem_map.mp listed
      obtain ⟨other, requested, of⟩ := of_decide_eq_true (List.mem_filter.mp inside).2
      exact List.mem_map.mpr ⟨other, requested, by rw [of.1, of.2]⟩
    have all : keys.Perm asked := by
      refine (List.subperm_of_subset apart wanted).perm_of_length_le ?_
      simp only [asked, keys, found, List.length_map]
      exact lengths.le
    have answered : (video.service, video.id) ∈ keys :=
      all.mem_iff.mpr (List.mem_map_of_mem member)
    obtain ⟨row, inside, same⟩ := List.mem_map.mp answered
    rw [Prod.mk.injEq] at same
    exact ⟨row, inside, same⟩

end CacheTable

structure VideoRequest where
  id : Option String
  missingInfo : List VideoField
deriving DecidableEq

/-- What the lookup takes from outside. `none` is an exception. -/
structure LookupWorld where
  /-- Whether the service's adapter is cache safe, where there is one. -/
  adapter : VideoService → Option Bool
  cache : VideoService → Option CacheTable
  fetchManyVideoInfo : VideoService → List VideoRequest → Option (List Video)

namespace LookupWorld

variable (world : LookupWorld)

/-- The videos of one service before anything is fetched. -/
def cachedVideos (isCacheSafe : Bool) (service : VideoService) (serviceVideos : List VideoId) :
    List Video :=
  if isCacheSafe then cachedManyVideoInfo (world.cache service) serviceVideos
  else serviceVideos.map fun video => { service := video.service, id := some video.id }

/-- What is asked of the adapter. -/
def fetchRequests (cachedVideos : List Video) : List VideoRequest :=
  (cachedVideos.map fun video =>
    { id := video.id
      missingInfo := (getVideoInfoFields video.service).filter fun field =>
        !video.metadata.has field : VideoRequest }).filter fun request =>
          decide (0 < request.missingInfo.length)

/-- A video with what was fetched under its id. -/
def mergeFetched (fetchedVideos : List Video) (video : Video) : Video :=
  match fetchedVideos.find? fun fetched => decide (fetched.id = video.id) with
  | some fetchedVideo => mergeVideo video fetchedVideo
  | none => video

/-- One service's share of `getManyVideoInfo`. -/
def serviceVideoInfo (service : VideoService) (serviceVideos : List VideoId) :
    Option (List Video) := do
  let isCacheSafe ← world.adapter service
  let cachedVideos := world.cachedVideos isCacheSafe service serviceVideos
  let requests := fetchRequests cachedVideos
  if requests.length = 0 ∧ isCacheSafe then return cachedVideos
  let fetchedVideos ← world.fetchManyVideoInfo service requests
  return cachedVideos.map (mergeFetched fetchedVideos)

/-- The requests of one service. -/
def ofService (videoIds : List VideoId) (service : VideoService) : List VideoId :=
  videoIds.filter fun video => decide (video.service = service)

/-- `flattened.find(v => v.id === video.id)`. -/
def findById (flattened : List Video) (video : VideoId) : Option Video :=
  flattened.find? fun found => decide (found.id = some video.id)

def getManyVideoInfo (videoIds : List VideoId) : Option (List Video) := do
  let services : OrderedSet VideoService := OrderedSet.addAll [] (videoIds.map (·.service))
  let results ← services.mapM fun service =>
    world.serviceVideoInfo service (ofService videoIds service)
  let flattened := results.flatten
  let result := videoIds.filterMap (findById flattened)
  -- `updateCache` is handed those of a cache safe adapter, and each needs to have one
  let _ ← result.mapM fun video => world.adapter video.service
  return result

/-! ## One service -/

/-- A service's videos come with their ids, unless its cache fails. -/
structure Readable (service : VideoService) : Prop where
  read : world.adapter service = some true → world.cache service ≠ none

instance (service : VideoService) : Decidable (world.Readable service) :=
  decidable_of_iff (world.adapter service = some true → (world.cache service).isSome)
    ⟨fun read => ⟨fun safe => Option.isSome_iff_ne_none.mp (read safe)⟩,
      fun readable safe => Option.isSome_iff_ne_none.mpr (readable.read safe)⟩

/-- What the adapter gives for one service's requests, asked only where there is something to
ask. -/
def fetchedVideos (isCacheSafe : Bool) (service : VideoService) (serviceVideos : List VideoId) :
    Option (List Video) :=
  let requests := fetchRequests (world.cachedVideos isCacheSafe service serviceVideos)
  if requests.length = 0 ∧ isCacheSafe then some []
  else world.fetchManyVideoInfo service requests

/-- What the adapter gives under a requested id, if anything. -/
def fetchedFor (videoIds : List VideoId) (request : VideoId) : Option Video := do
  let isCacheSafe ← world.adapter request.service
  let fetchedVideos ← world.fetchedVideos isCacheSafe request.service
    (ofService videoIds request.service)
  fetchedVideos.find? fun fetched => decide (fetched.id = some request.id)

variable {world} {service : VideoService} {serviceVideos videoIds : List VideoId}
  {isCacheSafe : Bool} {id : String}

theorem mem_ofService {video : VideoId} :
    video ∈ ofService videoIds service ↔ video ∈ videoIds ∧ video.service = service := by
  simp [ofService]

/-- Not asking is the same as being given nothing. -/
theorem serviceVideoInfo_eq : world.serviceVideoInfo service serviceVideos =
    (world.adapter service).bind fun isCacheSafe =>
      (world.fetchedVideos isCacheSafe service serviceVideos).map fun fetchedVideos =>
        (world.cachedVideos isCacheSafe service serviceVideos).map (mergeFetched fetchedVideos) := by
  unfold serviceVideoInfo
  refine congrArg _ (funext fun isCacheSafe => ?_)
  have unchanged : mergeFetched [] = id := funext fun _ => rfl
  simp only [fetchedVideos]
  split
  · simp [unchanged]
  · cases world.fetchManyVideoInfo service _ <;> rfl

/-- Before anything is fetched, a video of the service with an id was asked for. -/
theorem service_of_mem_cachedVideos (only : ∀ video ∈ serviceVideos, video.service = service)
    {video : Video} (member : video ∈ world.cachedVideos isCacheSafe service serviceVideos) :
    video.service = service ∧ ∀ id, video.id = some id →
      ⟨service, id⟩ ∈ serviceVideos ∧ (isCacheSafe = true → world.cache service ≠ none) := by
  unfold cachedVideos at member
  split at member
  · cases cached : world.cache service with
    | none =>
        rw [cached] at member
        obtain ⟨asked, listed, rfl⟩ := List.mem_map.mp member
        exact ⟨only asked listed, nofun⟩
    | some table =>
        rw [cached] at member
        obtain ⟨row, listed, rfl⟩ := List.mem_map.mp member
        obtain ⟨asked, requested, of⟩ := table.asked_of_mem_findMany listed
        have here := only asked requested
        refine ⟨of.1.trans here, fun id named => ⟨?_, fun _ => nofun⟩⟩
        obtain rfl : row.serviceId = id := Option.some.inj named
        rw [of.2, ← here]
        exact requested
  · rename_i uncached
    obtain ⟨asked, listed, rfl⟩ := List.mem_map.mp member
    have here := only asked listed
    refine ⟨here, fun id named => ⟨?_, fun safe => absurd safe uncached⟩⟩
    obtain rfl : asked.id = id := Option.some.inj named
    rw [← here]
    exact listed

/-- Where the cache is read or not needed, every video that was asked for is there. -/
theorem exists_mem_cachedVideos (read : isCacheSafe = true → world.cache service ≠ none)
    {video : VideoId} (member : video ∈ serviceVideos) :
    ∃ cached ∈ world.cachedVideos isCacheSafe service serviceVideos,
      cached.id = some video.id := by
  unfold cachedVideos
  split
  · rename_i safe
    cases cached : world.cache service with
    | none => exact absurd cached (read safe)
    | some table =>
        obtain ⟨row, listed, of⟩ := table.exists_mem_findMany member
        exact ⟨_, List.mem_map_of_mem listed, congrArg some of.2⟩
  · exact ⟨_, List.mem_map_of_mem member, rfl⟩

/-- Merging keeps the id. -/
@[simp] theorem id_mergeFetched (fetchedVideos : List Video) (video : Video) :
    (mergeFetched fetchedVideos video).id = video.id := by
  unfold mergeFetched
  split
  · rename_i fetchedVideo found
    have same : fetchedVideo.id = video.id := by simpa using List.find?_some found
    simp only [mergeVideo, same, truthyText]
    cases named : video.id with
    | none => rfl
    | some id => by_cases empty : id = "" <;> simp [Option.filter, empty]
  · rfl

/-- Merging puts in the service that came with the fetched video. -/
theorem service_mergeFetched (fetchedVideos : List Video) (video : Video) :
    (mergeFetched fetchedVideos video).service =
      ((fetchedVideos.find? fun fetched => decide (fetched.id = video.id)).map
        Video.service).getD video.service := by
  unfold mergeFetched
  split <;> rename_i found <;> rw [found] <;> rfl

section Group

variable {group : List Video}
  (looked : world.serviceVideoInfo service (ofService videoIds service) = some group)

include looked

/-- What a service's lookup consists of. -/
theorem group_eq : ∃ isCacheSafe fetchedVideos, world.adapter service = some isCacheSafe ∧
    world.fetchedVideos isCacheSafe service (ofService videoIds service) = some fetchedVideos ∧
    group = (world.cachedVideos isCacheSafe service (ofService videoIds service)).map
      (mergeFetched fetchedVideos) := by
  rw [serviceVideoInfo_eq] at looked
  obtain ⟨isCacheSafe, adapted, looked⟩ := Option.bind_eq_some_iff.mp looked
  obtain ⟨fetchedVideos, fetched, rfl⟩ := Option.map_eq_some_iff.mp looked
  exact ⟨isCacheSafe, fetchedVideos, adapted, fetched, rfl⟩

/-- A video with an id was asked of its service, and is labelled with the service unless another
label was fetched for it. -/
theorem of_mem_group {video : Video} (member : video ∈ group) {id : String}
    (named : video.id = some id) :
    ⟨service, id⟩ ∈ videoIds ∧ world.Readable service ∧
      video.service = ((world.fetchedFor videoIds ⟨service, id⟩).map Video.service).getD service := by
  obtain ⟨isCacheSafe, fetchedVideos, adapted, fetched, rfl⟩ := group_eq looked
  obtain ⟨cached, listed, rfl⟩ := List.mem_map.mp member
  rw [id_mergeFetched] at named
  obtain ⟨labelled, asked⟩ := service_of_mem_cachedVideos
    (fun video inside => (mem_ofService.mp inside).2) listed
  obtain ⟨requested, read⟩ := asked id named
  refine ⟨(mem_ofService.mp requested).1, ⟨fun safe => read ?_⟩, ?_⟩
  · exact Option.some.inj (adapted.symm.trans safe)
  · rw [service_mergeFetched, labelled, named, fetchedFor, adapted]
    simp only [Option.bind_eq_bind, Option.bind_some, fetched]

/-- Every request of a readable service is among what its lookup gives. -/
theorem exists_mem_group (readable : world.Readable service) {request : VideoId}
    (member : request ∈ videoIds) (here : request.service = service) :
    ∃ video ∈ group, video.id = some request.id := by
  obtain ⟨isCacheSafe, fetchedVideos, adapted, -, rfl⟩ := group_eq looked
  obtain ⟨cached, listed, named⟩ := exists_mem_cachedVideos
    (fun safe => readable.read (safe ▸ adapted)) (mem_ofService.mpr ⟨member, here⟩)
  exact ⟨_, List.mem_map_of_mem listed, by rw [id_mergeFetched, named]⟩

end Group

/-! ## All services -/

/-- The lookups of the services, one after the other. -/
structure Groups (world : LookupWorld) (videoIds : List VideoId) (flattened : List Video) :
    Prop where
  lookedUp : ∀ video ∈ flattened, ∃ service group,
    world.serviceVideoInfo service (ofService videoIds service) = some group ∧ video ∈ group
  complete : ∀ request ∈ videoIds, ∃ group,
    world.serviceVideoInfo request.service (ofService videoIds request.service) = some group ∧
      ∀ video ∈ group, video ∈ flattened

/-- A batch lookup searches the lookups of its services. -/
theorem groups_of_getManyVideoInfo {results : List Video}
    (returned : world.getManyVideoInfo videoIds = some results) :
    ∃ flattened, Groups world videoIds flattened ∧
      results = videoIds.filterMap (findById flattened) := by
  unfold getManyVideoInfo at returned
  obtain ⟨groups, looked, returned⟩ := Option.bind_eq_some_iff.mp returned
  obtain ⟨-, -, returned⟩ := Option.bind_eq_some_iff.mp returned
  obtain rfl := Option.some.inj returned
  obtain ⟨asked, answered⟩ := mem_mapM looked
  refine ⟨groups.flatten, ⟨fun video member => ?_, fun request member => ?_⟩, rfl⟩
  · obtain ⟨group, listed, inside⟩ := List.mem_flatten.mp member
    obtain ⟨service, -, found⟩ := asked group listed
    exact ⟨service, group, found, inside⟩
  · have inside : request.service ∈
        (OrderedSet.addAll [] (videoIds.map (·.service)) : OrderedSet VideoService) :=
      OrderedSet.mem_addAll.mpr (.inr (List.mem_map_of_mem member))
    obtain ⟨group, listed, found⟩ := answered request.service inside
    exact ⟨group, found, fun video inside => List.mem_flatten_of_mem listed inside⟩

end LookupWorld

/-- A video is what was asked for. -/
structure Video.Answers (video : Video) (request : VideoId) : Prop where
  service : video.service = request.service
  id : video.id = some request.id

instance (video : Video) (request : VideoId) : Decidable (video.Answers request) :=
  decidable_of_iff (video.service = request.service ∧ video.id = some request.id)
    ⟨fun both => ⟨both.1, both.2⟩, fun answers => ⟨answers.service, answers.id⟩⟩

namespace LookupWorld

/-- Nothing else goes by the id of a request. -/
structure Unmistakable (world : LookupWorld) (videoIds : List VideoId) (request : VideoId) :
    Prop where
  unshared : ∀ other ∈ videoIds, other.id = request.id → other.service = request.service
  labelled : ∀ video, world.fetchedFor videoIds request = some video →
    video.service = request.service

variable {world : LookupWorld} {videoIds : List VideoId} {flattened : List Video}

theorem id_of_findById {request : VideoId} {video : Video}
    (found : findById flattened request = some video) : video.id = some request.id := by
  unfold findById at found
  simpa using List.find?_some found

/-- The search goes by the id alone. -/
theorem findById_congr {request other : VideoId} (same : request.id = other.id) :
    findById flattened request = findById flattened other := by
  unfold findById
  rw [same]

namespace Groups

variable (groups : Groups world videoIds flattened)

include groups

/-- What is found was asked of a readable service, which labelled it. -/
theorem of_findById {request : VideoId} {video : Video}
    (found : findById flattened request = some video) : ∃ other ∈ videoIds,
      other.id = request.id ∧ world.Readable other.service ∧
        video.service = ((world.fetchedFor videoIds other).map Video.service).getD other.service := by
  obtain ⟨service, group, looked, inside⟩ := groups.lookedUp video (List.mem_of_find?_eq_some found)
  obtain ⟨requested, readable, labelled⟩ := of_mem_group looked inside (id_of_findById found)
  exact ⟨⟨service, request.id⟩, requested, rfl, readable, labelled⟩

theorem exists_findById {request : VideoId} (member : request ∈ videoIds)
    (readable : world.Readable request.service) :
    ∃ video, findById flattened request = some video := by
  obtain ⟨group, looked, inside⟩ := groups.complete request member
  obtain ⟨video, listed, named⟩ := exists_mem_group looked readable member rfl
  refine Option.isSome_iff_exists.mp (List.find?_isSome.mpr ⟨video, inside video listed, ?_⟩)
  rw [named, decide_eq_true rfl]

/-- Every search is right just when nothing else goes by the ids that are searched for. -/
theorem right_iff :
    (∀ request ∈ videoIds, ∀ video, findById flattened request = some video →
        video.Answers request) ↔
      ∀ request ∈ videoIds, world.Readable request.service →
        Unmistakable world videoIds request := by
  constructor
  · intro right request member readable
    obtain ⟨video, found⟩ := groups.exists_findById member readable
    have here := (right request member video found).service
    have unshared : ∀ other ∈ videoIds, other.id = request.id →
        other.service = request.service := by
      intro other listed same
      rw [← here, (right other listed video ((findById_congr same).trans found)).service]
    refine ⟨unshared, fun fetched given => ?_⟩
    obtain ⟨other, listed, same, -, labelled⟩ := groups.of_findById found
    obtain rfl : other = request := by
      have theirs := unshared other listed same
      cases other; cases request
      exact congr (congrArg VideoId.mk theirs) same
    rw [given] at labelled
    exact labelled.symm.trans here
  · intro unmistakable request member video found
    obtain ⟨other, listed, same, readable, labelled⟩ := groups.of_findById found
    have sole := unmistakable other listed readable
    have theirs : video.service = other.service := by
      rw [labelled]
      cases given : world.fetchedFor videoIds other with
      | none => rfl
      | some fetched => exact sole.labelled fetched given
    exact ⟨theirs.trans (sole.unshared request member same.symm).symm, id_of_findById found⟩

end Groups

/-- A batch lookup answers its requests in order, and nothing else, just when each id that can be
looked up stands for one service only, both among the requests and in what is fetched for it. -/
theorem batch_lookup_aligned {results : List Video}
    (returned : world.getManyVideoInfo videoIds = some results) :
    (Aligned Video.Answers videoIds results ∧
        ∀ video ∈ results, ∃ request ∈ videoIds, video.Answers request) ↔
      ∀ request ∈ videoIds, world.Readable request.service →
        Unmistakable world videoIds request := by
  obtain ⟨flattened, groups, rfl⟩ := groups_of_getManyVideoInfo returned
  have settled : ∀ request other video, findById flattened other = some video →
      video.Answers request → findById flattened request = some video := by
    intro request other video found answers
    rw [← found]
    exact findById_congr (Option.some.inj (answers.id.symm.trans (id_of_findById found)))
  rw [← groups.right_iff, ← aligned_filterMap_iff settled]
  exact and_iff_left_of_imp fun aligned _ member => aligned.requested member

/-- Adapters for two services, a cache that has nothing, and an adapter for each service that knows
every title. -/
def twoServices : LookupWorld where
  adapter service := if service = .direct then none else some true
  cache _ := some { rows := [], unique := List.nodup_nil }
  fetchManyVideoInfo service requests := some (requests.map fun request =>
    { service, id := request.id, metadata := { title := some "A title" } })

theorem batch_lookup_aligned_two :
    Aligned Video.Answers [⟨.youtube, "x"⟩, ⟨.vimeo, "y"⟩]
        [⟨.youtube, some "x", { title := some "A title" }⟩,
          ⟨.vimeo, some "y", { title := some "A title" }⟩] ∧
      ∀ video ∈ [(⟨.youtube, some "x", { title := some "A title" }⟩ : Video),
          ⟨.vimeo, some "y", { title := some "A title" }⟩],
        ∃ request ∈ [(⟨.youtube, "x"⟩ : VideoId), ⟨.vimeo, "y"⟩], video.Answers request := by
  have returned : twoServices.getManyVideoInfo [⟨.youtube, "x"⟩, ⟨.vimeo, "y"⟩] =
      some [⟨.youtube, some "x", { title := some "A title" }⟩,
        ⟨.vimeo, some "y", { title := some "A title" }⟩] := by decide +kernel
  refine (batch_lookup_aligned returned).mpr fun request member _ => ?_
  rcases List.mem_cons.mp member with rfl | later
  · refine ⟨by decide +kernel, fun video found => ?_⟩
    obtain rfl := Option.some.inj ((by decide +kernel : twoServices.fetchedFor _ _ =
      some ⟨.youtube, some "x", { title := some "A title" }⟩).symm.trans found)
    rfl
  · obtain rfl := List.mem_singleton.mp later
    refine ⟨by decide +kernel, fun video found => ?_⟩
    obtain rfl := Option.some.inj ((by decide +kernel : twoServices.fetchedFor _ _ =
      some ⟨.vimeo, some "y", { title := some "A title" }⟩).symm.trans found)
    rfl

/-- The two services are asked for the same id, and the second gets the first one's video. -/
theorem batch_lookup_mistaken :
    ∃ results, twoServices.getManyVideoInfo [⟨.youtube, "x"⟩, ⟨.vimeo, "x"⟩] = some results ∧
      ¬Aligned Video.Answers [⟨.youtube, "x"⟩, ⟨.vimeo, "x"⟩] results := by
  refine ⟨[⟨.youtube, some "x", { title := some "A title" }⟩,
    ⟨.youtube, some "x", { title := some "A title" }⟩], by decide +kernel, fun aligned => ?_⟩
  exact absurd (List.Forall₂.length_eq aligned) (by decide +kernel)

end LookupWorld

end OpenTogetherTube
