import OpenTogetherTube.Edge.Snapshot
import OpenTogetherTube.Lib.Contracts

/-!
# Edge media: the MP4 probe

Embeds `probeMp4` of `ott-edge/src/media.ts` and the ranged form of `Probe.read` it uses. The bytes come
from a source that may answer anything. Sizes and offsets are natural numbers: where the code's rounding
could tell, it has already thrown. `walk` calls itself for the boxes inside a box and for those after it,
so the loop of the source takes fuel here.

What is received and interpreted and which boxes are visited is kept beside the state of the code.
-/

namespace OpenTogetherTube.Edge

open Lib Lib.Handler

def MAX_SAFE_INTEGER : Nat := 2 ^ 53 - 1

def MAX_BYTES : Nat := 2 * 1024 * 1024

def MAX_REQUESTS : Nat := 16

/-- The errors of the probe, but for those of `mediaUrl`. -/
def probeError (message : String) : ApiError := { status := 400, message }

/-- What a read asks of a response. -/
structure Response where
  status : Nat
  location : Option String := none
  /-- The numbers of a `Content-Range` header that `CONTENT_RANGE` matches. -/
  contentRange : Option (Nat × Nat × Nat) := none
  /-- `Number(response.headers.get("Content-Length"))`; no header counts as zero. -/
  contentLength : Number := 0
  body : Option (List UInt8) := none
  /-- The stream fails behind the bytes of the body. -/
  broken : Bool := false
deriving DecidableEq

/-- What the probe takes from outside, by the number of requests made before. -/
structure MediaSource where
  /-- The deadline has passed. -/
  expired : Nat → Bool := fun _ => false
  /-- `fetch` of a range of a URL; `none` is an exception. -/
  fetch : Nat → String → Nat → Nat → Option Response
  /-- `mediaUrl(new URL(location, target).href)`. -/
  redirect : String → String → Except ApiError String :=
    fun _ _ => .error (probeError "需要可公开访问的 HTTP 或 HTTPS 视频链接。")

/-- The members of `Probe`. -/
structure Probe where
  bytes : Nat := 0
  requests : Nat := 0
deriving DecidableEq

/-- A response that `readAt` received: the size of the file as it was known before, where its bytes
begin, how many were read of them, and the size it told. -/
structure Received where
  known : Option Nat
  start : Nat
  length : Nat
  told : Option Nat
deriving DecidableEq

/-- The variables of `probeMp4` that `readAt` writes, and the probe. -/
structure Window where
  probe : Probe := {}
  target : String
  total : Option Nat := none
  cached : List UInt8 := []
  cachedOffset : Nat := 0
  /-- History: the responses, latest first. -/
  received : List Received := []
deriving DecidableEq

/-- A function that reads from the source. -/
abbrev ReadM := Handler ApiError Window

/-- `[301, 302, 303, 307, 308].includes(response.status)`. -/
def Response.isRedirect (response : Response) : Bool :=
  decide (response.status ∈ [301, 302, 303, 307, 308])

def Response.ok (response : Response) : Bool :=
  decide (200 ≤ response.status) && decide (response.status < 300)

/-- The size of the file, if the response tells it, for a range from `start`. -/
def Response.total (response : Response) (start : Nat) : Except ApiError (Option Nat) :=
  if response.status = 206 then
    match response.contentRange with
    | none => .error (probeError "片源返回了错误的分段位置。")
    | some (first, last, size) =>
        if first ≠ start ∨ last < start ∨ size ≤ last ∨ MAX_SAFE_INTEGER < size then
          .error (probeError "片源返回了错误的分段位置。")
        else .ok (some size)
  else if 0 < start then .error (probeError "片源不支持读取视频信息所需的 Range 分段请求。")
  else .ok (response.contentLength.asIndex.filter fun size => 0 < size ∧ size ≤ MAX_SAFE_INTEGER)

/-- What a request was answered with, and the URL that answered. -/
structure Answer where
  response : Response
  body : List UInt8
  url : String

section Read

variable (source : MediaSource) (start last : Nat)

/-- The requests of `Probe.read`, with so many hops left. -/
def Probe.follow : Nat → String → ReadM Answer
  | 0, _ => throw (probeError "暂时无法读取片源信息，请检查链接或稍后重试。")
  | left + 1, target => do
      modify fun window => { window with probe.requests := window.probe.requests + 1 }
      let window ← get
      if MAX_REQUESTS < window.probe.requests then
        throw (probeError "本次媒体信息读取次数已达上限，请减少同时添加的视频数量。")
      else
        match source.fetch window.probe.requests target start last with
        | none =>
            throw { probeError "片源响应较慢或无法访问，请稍后重试。" with name := "MediaProbeFailed" }
        | some response =>
            if response.isRedirect then
              match response.location.filter (· ≠ "") with
              | none => throw (probeError "片源返回了无效跳转。")
              | some location =>
                  match source.redirect location target with
                  | .error error => throw error
                  | .ok next => Probe.follow left next
            else
              match response.body.filter fun _ => response.ok with
              | none => throw (probeError "暂时无法读取片源信息，请检查链接或稍后重试。")
              | some body => return { response, body, url := target }

/-- What `Probe.read` returns. -/
structure ReadResult where
  bytes : List UInt8
  total : Option Nat
  url : String

/-- The end of `Probe.read`: as many bytes as were asked for, within what is left for all reads. -/
def Probe.take (answer : Answer) (total : Option Nat) : ReadM ReadResult := do
  let window ← get
  let maximum := min (last + 1 - start) (MAX_BYTES - window.probe.bytes)
  if maximum = 0 then throw (probeError "媒体信息超过本次读取上限。")
  else if answer.response.broken ∧ answer.body.length < maximum then
    throw { probeError "片源响应较慢或无法访问，请稍后重试。" with name := "MediaProbeFailed" }
  else
    let bytes := answer.body.take maximum
    modify fun window => { window with probe.bytes := window.probe.bytes + bytes.length }
    return { bytes, total, url := answer.url }

/-- `Probe.read` of a range. -/
def Probe.read (url : String) : ReadM ReadResult := do
  let window ← get
  if source.expired window.probe.requests then throw (probeError "读取片源信息超时，请稍后重试。")
  else
    let answer ← Probe.follow source start last 4 url
    match answer.response.total start with
    | .error error => throw error
    | .ok total => Probe.take start last answer total

end Read

/-- The last byte a read from `offset` asks for. -/
def Window.last (window : Window) (offset : Nat) : Nat :=
  min (offset + 4095) (window.total.elim MAX_SAFE_INTEGER (· - 1))

/-- The bytes are in the window. -/
def Window.holds (window : Window) (offset length : Nat) : Prop :=
  window.cachedOffset ≤ offset ∧ offset + length ≤ window.cachedOffset + window.cached.length

instance (window : Window) (offset length : Nat) : Decidable (window.holds offset length) :=
  inferInstanceAs (Decidable (_ ∧ _))

/-- What a read leaves in the window. -/
def Window.filled (window : Window) (offset : Nat) (response : ReadResult) : Window :=
  { window with
    total := window.total <|> response.total
    target := response.url
    cached := response.bytes
    cachedOffset := offset
    received := ⟨window.total, offset, response.bytes.length, response.total⟩ :: window.received }

section ReadAt

variable (source : MediaSource) (offset length : Nat)

/-- The first half of `readAt`: read what the window does not hold. -/
def refill : ReadM Unit := do
  let window ← get
  if window.holds offset length then return ()
  else if MAX_SAFE_INTEGER < offset ∨ window.last offset < offset + length - 1 then
    throw (probeError "MP4 媒体信息不完整。")
  else
    let response ← Probe.read source offset (window.last offset) window.target
    if window.total.isSome ∧ response.total.isSome ∧ window.total ≠ response.total then
      throw (probeError "片源文件在读取期间发生变化，请重试。")
    else modify fun window => window.filled offset response

def readAt : ReadM (List UInt8) := do
  refill source offset length
  let window ← get
  if window.holds offset length then
    return (window.cached.drop (offset - window.cachedOffset)).take length
  else throw (probeError "MP4 媒体信息不完整。")

end ReadAt

/-- The name of a box or a handler as the file spells it. -/
def fourCharacters (name : List Char) : List UInt8 := name.map Char.toUInt8

structure Box where
  type : List UInt8
  offset : Nat
  size : Nat
  header : Nat
deriving DecidableEq

/-- Where the box's content starts. -/
def Box.content (box : Box) : Nat := box.offset + box.header

/-- Where the box ends. -/
def Box.boxEnd (box : Box) : Nat := box.offset + box.size

/-- A piece of the file from one offset up to another. -/
structure Span where
  start : Nat
  end_ : Nat
deriving DecidableEq

/-- The whole box. -/
def Box.span (box : Box) : Span := ⟨box.offset, box.boxEnd⟩

/-- A field that was interpreted: the box it was taken for a part of, where there is one with a known end,
and the total size as it was known. -/
structure Field where
  offset : Nat
  length : Nat
  container : Option Span
  total : Option Nat
deriving DecidableEq

/-- What was found in a box. -/
inductive Finding where
  | nothing
  | time (ticks timescale : Nat)
  | handler (name : List UInt8)
deriving DecidableEq

/-- A box that was visited. -/
structure Visit where
  box : Box
  found : Finding := .nothing
deriving DecidableEq

/-- The variables of `probeMp4`, with what was interpreted and visited, the latest first. -/
structure Reading where
  window : Window
  boxes : Nat := 0
  duration : Option Number := none
  video : Bool := false
  audio : Bool := false
  fields : List Field := []
  visits : List Visit := []
deriving DecidableEq

/-- How the probe fails. The code throws; running out of fuel is the model's own. -/
inductive ProbeFailure where
  | thrown (error : ApiError)
  | exhausted
deriving DecidableEq

/-- A function of `probeMp4`. -/
abbrev ProbeM := Handler ProbeFailure Reading

/-- Throw an error of the probe. -/
def reject {α : Type} (message : String) : ProbeM α := throw (.thrown (probeError message))

/-- A read in the midst of the probe. -/
def reading {α : Type} (handler : ReadM α) : ProbeM α :=
  within Reading.window (fun window state => { state with window }) .thrown handler

/-- The field is interpreted. -/
def interpret (offset length : Nat) (container : Option Span) : ProbeM Unit :=
  modify fun state =>
    { state with fields := ⟨offset, length, container, state.window.total⟩ :: state.fields }

/-- The latest of the visits turned up something. -/
def foundLatest (found : Finding) : List Visit → List Visit
  | [] => []
  | visit :: earlier => { visit with found } :: earlier

/-- The box that was visited last turns out to hold something. -/
def record (found : Finding) : ProbeM Unit :=
  modify fun state => { state with visits := foundLatest found state.visits }

/-- The number in these bytes, the highest byte first: `getUint32` and `getBigUint64`. -/
def unsigned (bytes : List UInt8) : Nat :=
  bytes.foldl (fun value byte => 256 * value + byte.toNat) 0

/-- `ticks / timescale`. -/
def seconds (ticks timescale : Nat) : Number :=
  if timescale = 0 then if ticks = 0 then .nan else .posInf else .fin (ticks / timescale)

/-- The size and the length of a header. -/
structure Extent where
  size : Nat
  header : Nat

/-- The end that bounds a box: its parent's, or else that of the file. -/
def Reading.limit (state : Reading) (parent : Option Span) : Option Nat :=
  (parent.map Span.end_) <|> state.window.total

section Boxes

variable (source : MediaSource)

/-- The size of a box as it stands in the file, from the first number of its header. -/
def statedSize (offset : Nat) (parent : Option Span) (first : Nat) : ProbeM Extent :=
  if first = 1 then
    if parent.any fun span => span.end_ < offset + 16 then reject "MP4 媒体信息不完整。"
    else do
      let extended ← reading (readAt source (offset + 8) 8)
      interpret (offset + 8) 8 parent
      return { size := unsigned extended, header := 16 }
  else return { size := first, header := 8 }

/-- The end of `readBox`: a size of zero reaches to the limit, and no box ends behind it. -/
def sizedBox (type : List UInt8) (offset : Nat) (parent : Option Span) (stated : Extent) :
    ProbeM Box := do
  let state ← get
  let limit := state.limit parent
  if stated.size = 0 ∧ limit = none then reject "片源未提供读取 MP4 媒体信息所需的文件大小。"
  else
    let size := if stated.size = 0 then limit.getD 0 - offset else stated.size
    if MAX_SAFE_INTEGER < offset + size ∨ size < stated.header ∨ limit.any (· < offset + size) then
      reject "无效的 MP4 文件结构。"
    else
      let box : Box := { type, offset, size, header := stated.header }
      interpret (offset + 4) 4 (some box.span)
      modify fun state => { state with visits := { box } :: state.visits }
      return box

/-- `readBox`. The start of the parent is there for what is recorded. -/
def readBox (offset : Nat) (parent : Option Span) : ProbeM Box := do
  modify fun state => { state with boxes := state.boxes + 1 }
  let state ← get
  if 256 < state.boxes ∨ parent.any fun span => span.end_ < offset + 8 then
    reject "MP4 媒体信息结构过于复杂或不完整。"
  else
    let bytes ← reading (readAt source offset 8)
    interpret offset 4 parent
    let stated ← statedSize source offset parent (unsigned (bytes.take 4))
    sizedBox (bytes.drop 4) offset parent stated

/-- The layout of a movie header of a version: where the time scale stands in the content, and how long
it and the ticks are. -/
def timeLayout (version : Nat) : Nat × Nat := if version = 1 then (20, 12) else (12, 8)

/-- The branch of `walk` for `mvhd`. -/
def movieHeader (box : Box) : ProbeM Unit :=
  if box.boxEnd < box.content + 1 then reject "无效的 MP4 时间信息。"
  else do
    let first ← reading (readAt source box.content 1)
    interpret box.content 1 (some box.span)
    let version := unsigned first
    let timeOffset := box.content + (timeLayout version).1
    let length := (timeLayout version).2
    if (version ≠ 0 ∧ version ≠ 1) ∨ box.boxEnd < timeOffset + length then
      reject "无效的 MP4 时间信息。"
    else do
      let bytes ← reading (readAt source timeOffset length)
      interpret timeOffset length (some box.span)
      let timescale := unsigned (bytes.take 4)
      let ticks := unsigned (bytes.drop 4)
      record (.time ticks timescale)
      modify fun state => { state with duration := some (seconds ticks timescale) }

/-- The branch of `walk` for `hdlr`. -/
def handlerBox (box : Box) : ProbeM Unit := do
  let handler ← reading (readAt source (box.content + 8) 4)
  interpret (box.content + 8) 4 (some box.span)
  record (.handler handler)
  modify fun state =>
    { state with
      video := state.video || decide (handler = fourCharacters ['v', 'i', 'd', 'e'])
      audio := state.audio || decide (handler = fourCharacters ['s', 'o', 'u', 'n']) }

/-- The branches of `walk`, with the walk of the box's content. -/
def enter (inside : ProbeM Unit) (box : Box) : ProbeM Unit :=
  if box.type = fourCharacters ['m', 'v', 'h', 'd'] then movieHeader source box
  else if box.type = fourCharacters ['h', 'd', 'l', 'r'] ∧ box.content + 12 ≤ box.boxEnd then
    handlerBox source box
  else if box.type ∈ [fourCharacters ['t', 'r', 'a', 'k'], fourCharacters ['m', 'd', 'i', 'a']] then
    inside
  else return ()

/-- `walk`, from an offset on. Each round looks at the depth again, which the loop never changes. -/
def walk : Nat → Nat → Span → Nat → ProbeM Unit
  | 0, _, _, _ => throw .exhausted
  | fuel + 1, offset, span, depth =>
      if 5 < depth then reject "MP4 媒体信息嵌套过深。"
      else if offset < span.end_ then do
        let box ← readBox source offset (some span)
        enter source (walk fuel box.content ⟨box.content, box.boxEnd⟩ (depth + 1)) box
        let state ← get
        if state.video ∧ state.duration.isSome then return ()
        else walk fuel box.boxEnd span depth
      else return ()

/-- What `probeMp4` returns. -/
structure Mp4Info where
  length : Number
  mime : String
deriving DecidableEq

/-- The answer once `moov` was walked through. -/
def described : ProbeM Mp4Info := do
  let state ← get
  let duration := state.duration.getD 0
  if !duration.truthy ∨ !duration.isFinite ∨ Number.lt (.fin (31 * 86400)) duration ∨
      (!state.video ∧ !state.audio) then
    reject "无法确定此 MP4 的有效时长和音视频轨道。"
  else return { length := duration, mime := if state.video then "video/mp4" else "audio/mp4" }

/-- The loop of `probeMp4`, with so many attempts left. -/
def search (fuel : Nat) : Nat → Nat → ProbeM Mp4Info
  | 0, _ => reject "未找到此 MP4 的媒体信息。"
  | left + 1, offset => do
      let state ← get
      let box ← readBox source offset (state.window.total.map (⟨0, ·⟩))
      if box.type = fourCharacters ['m', 'o', 'o', 'v'] then do
        walk source fuel box.content ⟨box.content, box.boxEnd⟩ 0
        described
      else do
        let state ← get
        if state.window.total.any (· ≤ box.boxEnd) then reject "未找到此 MP4 的媒体信息。"
        else search fuel left box.boxEnd

def probeMp4 (fuel : Nat) : ProbeM Mp4Info := search source fuel 12 0

end Boxes

/-- What `probeMp4` starts from. -/
def Reading.at_ (url : String) (probe : Probe) : Reading := { window := { probe, target := url } }

end OpenTogetherTube.Edge
