import Mathlib.Algebra.Order.Field.Basic
import Mathlib.Algebra.Order.Field.Rat
import OpenTogetherTube.Edge.Probe

/-!
# The MP4 probe on any bytes

Whatever the source answers, the probe ends after at most 256 boxes, stays inside the boxes and describes
what it visited last. It stays inside the file when no response that is the first to tell the size of the
file carries bytes from behind it: what is in the window is not measured against a size that came later.
-/

namespace OpenTogetherTube.Edge

open Lib Lib.Handler

/-- The field lies inside the box it is taken for a part of. -/
def Field.InBox (field : Field) : Prop :=
  ∀ span, field.container = some span →
    span.start ≤ field.offset ∧ field.offset + field.length ≤ span.end_

/-- The field lies inside the file as far as its size is known. -/
def Field.InFile (field : Field) : Prop :=
  ∀ total, field.total = some total → field.offset + field.length ≤ total

/-- No response that came before the size was known and that told it carried bytes from behind the end. -/
def Window.Truthful (window : Window) : Prop :=
  ∀ received ∈ window.received, received.known = none →
    ∀ total, received.told = some total → received.start + received.length ≤ total

/-- The box is a movie header. -/
def Visit.isMovieHeader (visit : Visit) : Bool :=
  decide (visit.box.type = fourCharacters ['m', 'v', 'h', 'd'])

/-- The duration a box gave. -/
def Finding.duration : Finding → Option Number
  | .time ticks timescale => some (seconds ticks timescale)
  | _ => none

/-- The duration that the last movie header gave. -/
def lastDuration (visits : List Visit) : Option Number :=
  (visits.find? Visit.isMovieHeader).bind fun visit => visit.found.duration

/-- A visited handler box names this handler. -/
def Names (name : List Char) (visits : List Visit) : Prop :=
  ∃ visit ∈ visits, visit.box.type = fourCharacters ['h', 'd', 'l', 'r'] ∧
    visit.found = .handler (fourCharacters name)

/-- The answer describes the boxes that were visited. -/
structure Mp4Info.Describes (info : Mp4Info) (visits : List Visit) : Prop where
  duration : ∃ visit ticks timescale, visits.find? Visit.isMovieHeader = some visit ∧
    visit.found = .time ticks timescale ∧ 0 < timescale ∧
    info.length = .fin (ticks / timescale) ∧
    (0 : ℚ) < ticks / timescale ∧ (ticks / timescale : ℚ) ≤ 31 * 86400
  video : info.mime = "video/mp4" ↔ Names ['v', 'i', 'd', 'e'] visits
  audio : info.mime ≠ "video/mp4" → info.mime = "audio/mp4" ∧ Names ['s', 'o', 'u', 'n'] visits

/-! ## Reads -/

/-- The size is positive, and the window ends inside it. -/
def Window.Ends (window : Window) : Prop :=
  ∀ total, window.total = some total →
    0 < total ∧ window.cachedOffset + window.cached.length ≤ total

theorem Response.total_pos {response : Response} {start total : Nat}
    (told : response.total start = .ok (some total)) : 0 < total := by
  unfold Response.total at told
  split at told
  · split at told
    · cases told
    · split at told
      · cases told
      · next inRange =>
          cases told
          omega
  · split at told
    · cases told
    · have kept := Option.filter_eq_some_iff.mp (Except.ok.inj told)
      simpa using (of_decide_eq_true kept.2).1

/-- What is true of all responses is true of the earlier ones. -/
theorem Window.Truthful.earlier {before after : Window} (truthful : after.Truthful)
    (kept : before.received ⊆ after.received) : before.Truthful :=
  fun received listed => truthful received (kept listed)

section Read

variable {source : MediaSource} {start last : Nat}

/-- Only the probe's counts have changed. -/
def Counted (before after : Window) : Prop := after = { before with probe := after.probe }

theorem follow_counted (left : Nat) (target : String) (window : Window) :
    Ensures (fun _ => Counted window) (fun _ => Counted window)
      (Probe.follow source start last left target) window := by
  induction left generalizing target window with
  | zero => exact .throw rfl
  | succ left ih =>
      unfold Probe.follow
      refine .modify_bind (.get_bind (.ite (fun _ => .throw rfl) fun _ => ?_))
      split
      · exact .throw rfl
      · refine .ite (fun _ => ?_) fun _ => ?_
        · split
          · exact .throw rfl
          · split
            · exact .throw rfl
            · next next _ => exact ih next _
        · split
          · exact .throw rfl
          · exact .pure rfl

/-- What a read returns was asked for, and its size is what one response told. -/
structure ReadFrom (start last : Nat) (before : Window) (result : ReadResult) (after : Window) :
    Prop where
  asked : result.bytes.length ≤ last + 1 - start
  told : ∃ response : Response, response.total start = .ok result.total
  same : Counted before after

theorem read_from (url : String) (window : Window) :
    Ensures (ReadFrom start last window) (fun _ => Counted window)
      (Probe.read source start last url) window := by
  unfold Probe.read
  refine .get_bind (.ite (fun _ => .throw rfl) fun _ => ?_)
  refine .bind (follow_counted 4 url window) fun answer after same => ?_
  split
  · exact .throw same
  · next total told =>
      unfold Probe.take
      refine .get_bind (.ite (fun _ => .throw same) fun _ => .ite (fun _ => .throw same)
        fun _ => .modify_bind (.pure ⟨?_, ⟨answer.response, told⟩, ?_⟩))
      · exact (List.length_take_le _ _).trans (min_le_left _ _)
      · rw [same]
        rfl

/-- The window after a read: nothing received is forgotten, and it ends inside the file if the responses
were truthful. -/
structure Reread (before after : Window) : Prop where
  kept : before.received ⊆ after.received
  ends : after.Truthful → after.Ends

theorem Counted.received {before after : Window} (same : Counted before after) :
    before.received ⊆ after.received := by
  rw [same]
  exact List.Subset.refl _

theorem refill_reread {offset length : Nat} (positive : 0 < length) {window : Window}
    (ends : window.Truthful → window.Ends) :
    Ensures (fun _ => Reread window) (fun _ after => window.received ⊆ after.received)
      (refill source offset length) window := by
  unfold refill
  refine .get_bind (.ite (fun _ => .pure ⟨List.Subset.refl _, ends⟩) fun _ =>
    .ite (fun _ => .throw (List.Subset.refl _)) fun inRange => ?_)
  refine .bind ((read_from window.target window).mono (fun _ _ met => met)
    fun _ _ same => same.received) ?_
  rintro result after ⟨asked, ⟨response, told⟩, same⟩
  refine .ite (fun _ => .throw same.received) fun agrees => ?_
  have grows : window.received ⊆ (after.filled offset result).received :=
    fun _ listed => List.mem_cons_of_mem _ (same.received listed)
  refine .update ⟨grows, fun truthful total known => ?_⟩
  have head := truthful _ List.mem_cons_self
  rw [same] at known head
  have reaches : offset + length - 1 ≤ window.last offset := by omega
  unfold Window.last at reaches asked
  cases before : window.total with
  | some size =>
      have same : size = total := by simpa [Window.filled, before] using known
      rw [before] at reaches asked
      dsimp only [Option.elim] at reaches asked
      obtain ⟨positiveTotal, -⟩ := ends (truthful.earlier grows) size before
      refine ⟨same ▸ positiveTotal, ?_⟩
      show offset + result.bytes.length ≤ total
      omega
  | none =>
      have first : result.total = some total := by simpa [Window.filled, before] using known
      rw [first] at told
      exact ⟨Response.total_pos told, head before total first⟩

/-- What `readAt` hands out lies inside the file where the responses were truthful. -/
theorem readAt_reread {offset length : Nat} (positive : 0 < length) {window : Window}
    (ends : window.Truthful → window.Ends) :
    Ensures
      (fun _ after => Reread window after ∧
        (after.Truthful → ∀ total, after.total = some total → offset + length ≤ total))
      (fun _ after => window.received ⊆ after.received) (readAt source offset length) window := by
  unfold readAt
  refine .bind (refill_reread positive ends) fun _ after reread => ?_
  refine .get_bind (.ite (fun held => ?_) fun _ => .throw reread.kept)
  exact .pure ⟨reread, fun truthful total known => held.2.trans (reread.ends truthful total known).2⟩

end Read

/-! ## Boxes -/

/-- What holds however the probe ends. -/
structure Sound (state : Reading) : Prop where
  counted : state.visits.length ≤ 256
  inBox : ∀ field ∈ state.fields, field.InBox
  inFile : state.window.Truthful → ∀ field ∈ state.fields, field.InFile

/-- How the probe may fail. -/
def Stopped (failure : ProbeFailure) (state : Reading) : Prop :=
  failure ≠ .exhausted ∧ Sound state

/-- The variables hold what these visits found. -/
structure Tells (duration : Option Number) (video audio : Bool) (visits : List Visit) : Prop where
  duration : duration = lastDuration visits
  video : video = true ↔ Names ['v', 'i', 'd', 'e'] visits
  audio : audio = true ↔ Names ['s', 'o', 'u', 'n'] visits

/-- So many boxes were counted and these visited, and the variables hold what `told` found. -/
structure Ready (boxes : Nat) (visits told : List Visit) (state : Reading) :
    Prop extends Sound state where
  boxes_eq : state.boxes = boxes
  visits_eq : state.visits = visits
  tells : Tells state.duration state.video state.audio told
  ends : state.window.Truthful → state.window.Ends

/-- Between two boxes: at least `floor` boxes were counted. -/
def Metered (floor : Nat) (state : Reading) : Prop :=
  ∃ boxes visits, floor ≤ boxes ∧ boxes ≤ 256 ∧ visits.length ≤ boxes ∧
    Ready boxes visits visits state

section Boxes

variable {source : MediaSource} {boxes : Nat} {visits told : List Visit} {state : Reading}
  {α : Type} {returns : α → Reading → Prop}

/-- An error of the code is one way to stop. -/
theorem Sound.reject (sound : Sound state) (message : String) :
    Ensures returns Stopped (reject message) state :=
  .throw ⟨nofun, sound⟩

/-- A read changes nothing of what was interpreted. -/
theorem Sound.reread (sound : Sound state) {window : Window}
    (kept : state.window.received ⊆ window.received) : Sound { state with window } where
  counted := sound.counted
  inBox := sound.inBox
  inFile truthful := sound.inFile (truthful.earlier kept)

/-- A field that is interpreted joins the others. -/
theorem Ready.interpret_bind {offset length : Nat} {container : Option Span}
    {next : PUnit → ProbeM α} (ready : Ready boxes visits told state)
    (inBox : ∀ span, container = some span → span.start ≤ offset ∧ offset + length ≤ span.end_)
    (inFile : state.window.Truthful →
      ∀ total, state.window.total = some total → offset + length ≤ total)
    (tail : ∀ after, after.window = state.window → Ready boxes visits told after →
      Ensures returns Stopped (next ⟨⟩) after) :
    Ensures returns Stopped (interpret offset length container >>= next) state := by
  refine .modify_bind (tail _ rfl ?_)
  refine { ready with inBox := ?_, inFile := ?_ }
  · intro field listed
    rcases List.mem_cons.mp listed with rfl | earlier
    · exact inBox
    · exact ready.inBox field earlier
  · intro truthful field listed
    rcases List.mem_cons.mp listed with rfl | earlier
    · exact inFile truthful
    · exact ready.inFile truthful field earlier

theorem Ready.look {offset length shown : Nat} {container : Option Span}
    {next : List UInt8 → PUnit → ProbeM α} (ready : Ready boxes visits told state)
    (positive : 0 < length) (part : shown ≤ length)
    (inBox : ∀ span, container = some span → span.start ≤ offset ∧ offset + shown ≤ span.end_)
    (tail : ∀ bytes after, Ready boxes visits told after →
      (after.window.Truthful → ∀ total, after.window.total = some total → offset + length ≤ total) →
        Ensures returns Stopped (next bytes ⟨⟩) after) :
    Ensures returns Stopped
      (do
        let bytes ← reading (readAt source offset length)
        let done ← interpret offset shown container
        next bytes done) state := by
  have read : Ensures
      (fun (_ : List UInt8) after => Ready boxes visits told after ∧
        (after.window.Truthful → ∀ total, after.window.total = some total → offset + length ≤ total))
      Stopped (reading (readAt source offset length)) state := by
    refine .within ((readAt_reread positive ready.ends).mono ?_ ?_)
    · rintro _ window ⟨reread, inFile⟩
      exact ⟨{ ready with toSound := ready.toSound.reread reread.kept, ends := reread.ends }, inFile⟩
    · intro _ window kept
      exact ⟨nofun, ready.toSound.reread kept⟩
  refine .bind read fun bytes after looked => ?_
  refine looked.1.interpret_bind inBox (fun truthful total known => ?_) fun last same ready => ?_
  · have whole := looked.2 truthful total known
    omega
  · refine tail bytes last ready ?_
    rw [same]
    exact looked.2

/-- What is known of a box that was read from an offset. -/
structure Read (boxes : Nat) (visits : List Visit) (offset : Nat) (box : Box)
    (state : Reading) : Prop extends Ready boxes ({ box } :: visits) visits state where
  offset_eq : box.offset = offset
  few : boxes ≤ 256
  fewer : visits.length < boxes

theorem statedSize_ready {offset first : Nat} {parent : Option Span}
    (ready : Ready boxes visits told state)
    (start : ∀ span, parent = some span → span.start ≤ offset)
    (header : state.window.Truthful → ∀ total, state.window.total = some total → offset + 8 ≤ total) :
    Ensures
      (fun stated after => 8 ≤ stated.header ∧ Ready boxes visits told after ∧
        (after.window.Truthful → ∀ total, after.window.total = some total → offset + 8 ≤ total))
      Stopped (statedSize source offset parent first) state := by
  unfold statedSize
  refine .ite (fun _ => ?_) fun _ => .pure ⟨le_rfl, ready, header⟩
  refine .ite (fun _ => ready.reject _) fun fits => ?_
  refine ready.look (by decide) le_rfl (fun span known => ?_) fun _ after ready looked => ?_
  · rw [known] at fits
    have started := start span known
    have fits : ¬ span.end_ < offset + 16 := by simpa using fits
    omega
  · refine .pure ⟨(by decide : 8 ≤ 16), ready, fun truthful total known => ?_⟩
    have whole := looked truthful total known
    omega

theorem sizedBox_read {type : List UInt8} {offset : Nat} {parent : Option Span} {stated : Extent}
    (ready : Ready boxes visits visits state) (few : boxes ≤ 256)
    (fewer : visits.length < boxes) (long : 8 ≤ stated.header)
    (header : state.window.Truthful → ∀ total, state.window.total = some total → offset + 8 ≤ total) :
    Ensures (Read boxes visits offset) Stopped
      (sizedBox type offset parent stated) state := by
  unfold sizedBox
  refine .get_bind (.ite (fun _ => ready.reject _) fun _ => .ite (fun _ => ready.reject _)
    fun sized => ?_)
  refine ready.interpret_bind ?_ header fun after _ ready => .modify_bind (.pure ?_)
  · rintro span ⟨⟩
    dsimp only [Box.span, Box.boxEnd]
    omega
  · refine { ready with counted := ?_, visits_eq := ?_, offset_eq := rfl, few, fewer }
    · show (_ :: after.visits).length ≤ 256
      rw [ready.visits_eq, List.length_cons]
      omega
    · show _ :: after.visits = _
      rw [ready.visits_eq]

/-- Reading one box: it is counted and visited, and nothing was found in it yet. -/
theorem readBox_read {offset : Nat} {parent : Option Span}
    (ready : Ready boxes visits visits state) (counted : visits.length ≤ boxes)
    (start : ∀ span, parent = some span → span.start ≤ offset) :
    Ensures (Read (boxes + 1) visits offset) Stopped
      (readBox source offset parent) state := by
  unfold readBox
  have more : Ready (boxes + 1) visits visits { state with boxes := state.boxes + 1 } :=
    { ready with boxes_eq := congrArg (· + 1) ready.boxes_eq }
  refine .modify_bind (.get_bind (.ite (fun _ => more.reject _) fun within => ?_))
  have few : boxes + 1 ≤ 256 := by
    have most := not_lt.mp (not_or.mp within).1
    exact more.boxes_eq ▸ most
  refine more.look (by decide) (by decide) (fun span known => ?_) fun bytes after ready looked => ?_
  · have started := start span known
    have fits := (not_or.mp within).2
    rw [known] at fits
    have fits : ¬ span.end_ < offset + 8 := by simpa using fits
    omega
  · refine .bind (statedSize_ready ready start looked) fun stated after sized => ?_
    exact sizedBox_read sized.2.1 few (Nat.lt_succ_of_le counted) sized.1 sized.2.2

end Boxes

/-! ## Findings -/

section Findings

variable {duration : Option Number} {video audio : Bool} {visits : List Visit} {box : Box}

theorem names_cons {name : List Char} {visit : Visit} :
    Names name (visit :: visits) ↔
      visit.box.type = fourCharacters ['h', 'd', 'l', 'r'] ∧
        visit.found = .handler (fourCharacters name) ∨ Names name visits := by
  unfold Names
  simp only [List.mem_cons, exists_eq_or_imp]

theorem lastDuration_header {visit : Visit} (header : visit.isMovieHeader = true) :
    lastDuration (visit :: visits) = visit.found.duration := by
  unfold lastDuration
  rw [List.find?_cons_of_pos header]
  rfl

theorem lastDuration_other {visit : Visit} (other : visit.isMovieHeader = false) :
    lastDuration (visit :: visits) = lastDuration visits := by
  unfold lastDuration
  rw [List.find?_cons_of_neg (by simp [other])]

/-- A box that is passed over changes nothing, unless it is a movie header. -/
theorem Tells.passed (tells : Tells duration video audio visits)
    (other : box.type ≠ fourCharacters ['m', 'v', 'h', 'd']) :
    Tells duration video audio ({ box } :: visits) where
  duration := by
    rw [lastDuration_other (decide_eq_false other)]
    exact tells.duration
  video := tells.video.trans (by simp [names_cons])
  audio := tells.audio.trans (by simp [names_cons])

theorem Tells.timed (tells : Tells duration video audio visits)
    (header : box.type = fourCharacters ['m', 'v', 'h', 'd']) (ticks timescale : Nat) :
    Tells (some (seconds ticks timescale)) video audio
      ({ box, found := .time ticks timescale } :: visits) where
  duration := by
    rw [lastDuration_header (decide_eq_true header)]
    rfl
  video := tells.video.trans (by simp [names_cons])
  audio := tells.audio.trans (by simp [names_cons])

theorem Tells.handled (tells : Tells duration video audio visits)
    (handler : box.type = fourCharacters ['h', 'd', 'l', 'r']) (name : List UInt8) :
    Tells duration (video || decide (name = fourCharacters ['v', 'i', 'd', 'e']))
      (audio || decide (name = fourCharacters ['s', 'o', 'u', 'n']))
      ({ box, found := .handler name } :: visits) where
  duration := by
    have other : box.type ≠ fourCharacters ['m', 'v', 'h', 'd'] := by
      rw [handler]
      decide
    rw [lastDuration_other (decide_eq_false other)]
    exact tells.duration
  video := by simp [names_cons, handler, tells.video, or_comm]
  audio := by simp [names_cons, handler, tells.audio, or_comm]

end Findings

section Walk

variable {source : MediaSource} {boxes floor offset : Nat} {visits : List Visit} {box : Box}
  {state : Reading}

variable (read : Read boxes visits offset box state)

include read

/-- What was found in the latest box is put down with it. -/
theorem Read.metered {found : Finding}
    {duration : Option Number} {video audio : Bool}
    (tells : Tells duration video audio ({ box, found } :: visits)) :
    Metered boxes
      { state with visits := foundLatest found state.visits, duration, video, audio } := by
  have listed : foundLatest found state.visits = { box, found } :: visits := by
    rw [read.visits_eq]
    rfl
  refine ⟨boxes, _, le_rfl, read.few, ?_, { read with counted := ?_, visits_eq := listed, tells }⟩
  · exact read.fewer
  · show (foundLatest found state.visits).length ≤ 256
    rw [listed]
    exact le_trans read.fewer read.few

theorem Read.passed
    (other : box.type ≠ fourCharacters ['m', 'v', 'h', 'd']) : Metered boxes state :=
  ⟨boxes, { box } :: visits, le_rfl, read.few, read.fewer,
    { read with tells := read.tells.passed other }⟩

theorem movieHeader_metered
    (header : box.type = fourCharacters ['m', 'v', 'h', 'd']) :
    Ensures (fun _ => Metered boxes) Stopped (movieHeader source box) state := by
  unfold movieHeader
  refine .ite (fun _ => read.reject _) fun fits => ?_
  refine read.look (by decide) le_rfl ?_ fun first middle ready _ => ?_
  · rintro span ⟨⟩
    dsimp only [Box.span, Box.content] at fits ⊢
    omega
  · refine .ite (fun _ => ready.reject _) fun fits => ?_
    refine ready.look ?_ le_rfl ?_ fun bytes after ready _ => .modify_bind (.update ?_)
    · unfold timeLayout
      split <;> decide
    · rintro span ⟨⟩
      dsimp only [Box.span, Box.content] at fits ⊢
      omega
    · have read : Read boxes visits offset box after := { read with toReady := ready }
      exact read.metered (read.tells.timed header _ _)

theorem handlerBox_metered
    (handler : box.type = fourCharacters ['h', 'd', 'l', 'r'])
    (fits : box.content + 12 ≤ box.boxEnd) :
    Ensures (fun _ => Metered boxes) Stopped (handlerBox source box) state := by
  unfold handlerBox
  refine read.look (by decide) le_rfl ?_ fun name after ready _ => .modify_bind (.update ?_)
  · rintro span ⟨⟩
    dsimp only [Box.span, Box.content] at fits ⊢
    omega
  · have read : Read boxes visits offset box after := { read with toReady := ready }
    exact read.metered (read.tells.handled handler name)

/-- The branches of `walk`: what holds between two boxes holds again behind this one. -/
theorem enter_metered {inside : ProbeM Unit}
    (walked : Metered boxes state →
      Ensures (fun _ => Metered boxes) Stopped inside state) :
    Ensures (fun _ => Metered boxes) Stopped (enter source inside box) state := by
  unfold enter
  refine .ite (movieHeader_metered read) fun other => .ite (fun handler => ?_) fun _ =>
    .ite (fun _ => walked (read.passed other)) fun _ => .pure (read.passed other)
  exact handlerBox_metered read handler.1 handler.2

omit read

theorem Metered.mono {least : Nat} (metered : Metered floor state) (lower : least ≤ floor) :
    Metered least state := by
  obtain ⟨boxes, visits, most, rest⟩ := metered
  exact ⟨boxes, visits, lower.trans most, rest⟩

/-- The walk ends when its fuel outlasts the boxes that are left to count. -/
theorem walk_metered {fuel offset : Nat} {span : Span} {depth : Nat}
    (enough : 257 ≤ fuel + floor) (started : span.start ≤ offset)
    (metered : Metered floor state) :
    Ensures (fun _ => Metered floor) Stopped (walk source fuel offset span depth)
      state := by
  induction fuel generalizing floor offset span depth state with
  | zero =>
      obtain ⟨boxes, visits, least, few, -⟩ := metered
      omega
  | succ fuel ih =>
      obtain ⟨boxes, visits, least, few, counted, ready⟩ := metered
      unfold walk
      refine .ite (fun _ => ready.reject _) fun _ => .ite (fun _ => ?_) fun _ => .pure ?_
      · have start : ∀ known, some span = some known → known.start ≤ offset := by
          rintro known ⟨⟩
          exact started
        refine .bind (readBox_read ready counted start) fun box middle read => ?_
        have enough : 257 ≤ fuel + (boxes + 1) := by omega
        refine .bind (enter_metered read fun metered =>
          ih enough le_rfl metered) fun _ after metered => ?_
        refine .get_bind (.ite (fun _ => .pure (metered.mono (by omega))) fun _ => ?_)
        have further : span.start ≤ box.boxEnd := by
          have from_ := read.offset_eq
          unfold Box.boxEnd
          omega
        exact (ih enough further metered).mono
          (fun _ _ metered => metered.mono (by omega)) fun _ _ stopped => stopped
      · exact ⟨boxes, visits, least, few, counted, ready⟩

end Walk

/-! ## The whole probe -/

section Search

variable {source : MediaSource} {boxes : Nat} {visits : List Visit} {state : Reading}

/-- Nothing was found in these boxes. -/
def Silent (visits : List Visit) : Prop := ∀ visit ∈ visits, visit.found = .nothing

theorem Silent.lastDuration (silent : Silent visits) : lastDuration visits = none := by
  unfold Edge.lastDuration
  cases found : visits.find? Visit.isMovieHeader with
  | none => rfl
  | some visit =>
      rw [Option.bind_some, silent visit (List.mem_of_find?_eq_some found)]
      rfl

theorem Silent.not_names (silent : Silent visits) (name : List Char) : ¬ Names name visits := by
  rintro ⟨visit, listed, -, found⟩
  rw [silent visit listed] at found
  cases found

/-- At the top level no box is looked into, whatever it calls itself. -/
theorem Silent.tells {duration : Option Number} {video audio : Bool} {more : List Visit}
    (silent : Silent visits) (still : Silent more) (tells : Tells duration video audio visits) :
    Tells duration video audio more where
  duration := tells.duration.trans (silent.lastDuration.trans still.lastDuration.symm)
  video := tells.video.trans (iff_of_false (silent.not_names _) (still.not_names _))
  audio := tells.audio.trans (iff_of_false (silent.not_names _) (still.not_names _))

theorem seconds_eq_fin {ticks timescale : Nat} {value : ℚ}
    (finite : seconds ticks timescale = .fin value) :
    0 < timescale ∧ value = ticks / timescale := by
  unfold seconds at finite
  split at finite
  · split at finite <;> cases finite
  · next positive => exact ⟨Nat.pos_of_ne_zero positive, (Number.fin.inj finite).symm⟩

theorem exists_of_lastDuration {duration : Number}
    (last : lastDuration visits = some duration) :
    ∃ visit ticks timescale, visits.find? Visit.isMovieHeader = some visit ∧
      visit.found = .time ticks timescale ∧ duration = seconds ticks timescale := by
  obtain ⟨visit, listed, found⟩ := Option.bind_eq_some_iff.mp last
  cases result : visit.found with
  | time ticks timescale =>
      rw [result] at found
      exact ⟨visit, ticks, timescale, listed, result, (Option.some.inj found).symm⟩
  | nothing =>
      rw [result] at found
      cases found
  | handler name =>
      rw [result] at found
      cases found

/-- A finite, nonzero duration of at most 31 days is the quotient of what the last movie header says. -/
theorem exists_quotient {duration : Option Number} (last : duration = lastDuration visits)
    (nonzero : (duration.getD 0).truthy = true) (finite : (duration.getD 0).isFinite = true)
    (short : Number.lt (.fin (31 * 86400)) (duration.getD 0) = false) :
    ∃ visit ticks timescale, visits.find? Visit.isMovieHeader = some visit ∧
      visit.found = .time ticks timescale ∧ 0 < timescale ∧
      duration.getD 0 = .fin (ticks / timescale) ∧
      (0 : ℚ) < ticks / timescale ∧ (ticks / timescale : ℚ) ≤ 31 * 86400 := by
  cases duration with
  | none => exact absurd nonzero (by decide)
  | some duration =>
      obtain ⟨visit, ticks, timescale, listed, found, quotient⟩ := exists_of_lastDuration last.symm
      rw [Option.getD_some] at nonzero finite short ⊢
      cases duration with
      | fin value =>
          obtain ⟨positive, rfl⟩ := seconds_eq_fin quotient.symm
          have nonnegative : (0 : ℚ) ≤ ticks / timescale :=
            div_nonneg (Nat.cast_nonneg _) (Nat.cast_nonneg _)
          have nonzero : (ticks / timescale : ℚ) ≠ 0 := of_decide_eq_true nonzero
          have short : ¬ (31 * 86400 : ℚ) < ticks / timescale := of_decide_eq_false short
          exact ⟨visit, ticks, timescale, listed, found, positive, rfl,
            lt_of_le_of_ne nonnegative nonzero.symm, not_lt.mp short⟩
      | nan => cases finite
      | negInf => cases finite
      | posInf => cases finite

/-- The answer of the probe describes its visits. -/
theorem described_describes (ready : Ready boxes visits visits state) :
    Ensures (fun info after => info.Describes after.visits ∧ Sound after) Stopped
      described state := by
  unfold described
  refine .get_bind (.ite (fun _ => ready.reject _) fun valid => .pure ⟨?_, ready.toSound⟩)
  rw [ready.visits_eq]
  obtain ⟨nonzero, finite, short, kinds⟩ :
      (state.duration.getD 0).truthy = true ∧ (state.duration.getD 0).isFinite = true ∧
        Number.lt (.fin (31 * 86400)) (state.duration.getD 0) = false ∧
        (state.video = false → state.audio = true) := by
    simpa [not_or] using valid
  have tells := ready.tells
  refine ⟨exists_quotient tells.duration nonzero finite short, ?_, ?_⟩
  · rw [← tells.video]
    cases state.video with
    | false => exact iff_of_false (by decide : "audio/mp4" ≠ "video/mp4") nofun
    | true => exact iff_of_true rfl rfl
  · intro other
    cases video : state.video with
    | false => exact ⟨rfl, tells.audio.mp (kinds video)⟩
    | true => exact absurd rfl (video ▸ other)

/-- The loop over the top level, as long as nothing was found. -/
theorem search_describes {fuel left offset : Nat} (enough : 257 ≤ fuel)
    (ready : Ready boxes visits visits state) (counted : visits.length ≤ boxes)
    (silent : Silent visits) :
    Ensures (fun info after => info.Describes after.visits ∧ Sound after) Stopped
      (search source fuel left offset) state := by
  induction left generalizing offset boxes visits state with
  | zero => exact ready.reject _
  | succ left ih =>
      unfold search
      have start : ∀ span, state.window.total.map (Span.mk 0) = some span → span.start ≤ offset := by
        intro span whole
        obtain ⟨total, -, rfl⟩ := Option.map_eq_some_iff.mp whole
        exact Nat.zero_le _
      refine .get_bind (.bind (readBox_read ready counted start) fun box middle read =>
        .ite (fun movie => ?_) fun _ => .get_bind (.ite (fun _ => read.reject _) fun _ => ?_))
      · have other : box.type ≠ fourCharacters ['m', 'v', 'h', 'd'] := by
          rw [movie]
          decide
        have walked : Ensures (fun _ => Metered (boxes + 1)) Stopped
            (walk source fuel box.content ⟨box.content, box.boxEnd⟩ 0) middle :=
          walk_metered (Nat.le_add_right_of_le enough) le_rfl (read.passed other)
        refine .bind walked fun _ after metered => ?_
        obtain ⟨boxes, visits, -, -, -, ready⟩ := metered
        exact described_describes ready
      · have still : Silent ({ box } :: visits) := by
          intro visit listed
          rcases List.mem_cons.mp listed with rfl | earlier
          · rfl
          · exact silent visit earlier
        have ready : Ready (boxes + 1) ({ box } :: visits) ({ box } :: visits) middle :=
          { read with tells := silent.tells still read.tells }
        exact ih ready read.fewer still

end Search

/-- What the probe promises of any source, of how it ends and of what it did until then. -/
structure ProbeContract (outcome : Except ProbeFailure Mp4Info)
    (left : Reading) : Prop where
  terminates : outcome ≠ .error .exhausted
  visited : left.visits.length ≤ 256
  inBox : ∀ field ∈ left.fields, field.InBox
  describes : ∀ info, outcome = .ok info → info.Describes left.visits
  inFile : left.window.Truthful → ∀ field ∈ left.fields, field.InFile

/-- From any URL and any state of the probe, whatever the source answers. -/
theorem probeMp4_contract (source : MediaSource) (url : String) (probe : Probe) (extra : Nat) :
    ProbeContract ((probeMp4 source (257 + extra)).outcome (.at_ url probe))
      ((probeMp4 source (257 + extra)).after (.at_ url probe)) := by
  have ready : Ready 0 [] [] (.at_ url probe) :=
    { counted := Nat.zero_le _
      inBox := nofun
      inFile := fun _ => nofun
      boxes_eq := rfl
      visits_eq := rfl
      tells := ⟨rfl, iff_of_false nofun (by simp [Names]), iff_of_false nofun (by simp [Names])⟩
      ends := fun _ => nofun }
  have ensures : Ensures (fun info after => info.Describes after.visits ∧ Sound after)
      Stopped (probeMp4 source (257 + extra)) (.at_ url probe) :=
    search_describes (Nat.le_add_right 257 extra) ready le_rfl (fun _ => nofun)
  have sound := (ensures.mono (fun _ _ met => met.2) fun _ _ stopped => stopped.2).always
  exact {
    terminates := fun exhausted => ensures.of_thrown exhausted |>.1 rfl
    visited := sound.counted
    inBox := sound.inBox
    describes := fun info returned => (ensures.of_returned returned).1
    inFile := sound.inFile }

/-- A server that sends the ranges of a file as it is asked to. -/
def MediaSource.serving (file : List UInt8) : MediaSource where
  fetch _ _ start last :=
    some {
      status := 206
      contentRange := some (start, min last (file.length - 1), file.length)
      body := some ((file.drop start).take (last + 1 - start)) }

/-- A number in four bytes. -/
def sampleWord (value : Nat) : List UInt8 :=
  [16777216, 65536, 256, 1].map fun unit => UInt8.ofNat (value / unit)

/-- A box with a name and a content. -/
def sampleBox (name : List Char) (content : List UInt8) : List UInt8 :=
  sampleWord (8 + content.length) ++ fourCharacters name ++ content

/-- A movie header of 45 ticks at 10 a second, and a video handler. -/
def sampleMovie : List UInt8 :=
  sampleBox ['m', 'v', 'h', 'd'] ([0, 0, 0, 10, 45, 0].flatMap sampleWord) ++
    sampleBox ['h', 'd', 'l', 'r'] ([0, 0].flatMap sampleWord ++ fourCharacters ['v', 'i', 'd', 'e'])

example :
    (probeMp4 (.serving (sampleBox ['m', 'o', 'o', 'v'] sampleMovie)) 257).outcome
        (.at_ "https://media.example/a.mp4" {}) =
      .ok { length := .fin (9 / 2), mime := "video/mp4" } := by
  decide +kernel

/-- First the start of a movie of 1000 bytes, with no size told; then, from its sixteenth byte on, the
rest of it in a file of 20 bytes. -/
def lateSize : MediaSource where
  fetch request _ _ _ :=
    if request = 1 then
      some {
        status := 200
        body := some (sampleWord 1000 ++ fourCharacters ['m', 'o', 'o', 'v'] ++
          sampleBox ['f', 'r', 'e', 'e'] []) }
    else some { status := 206, contentRange := some (16, 19, 20), body := some sampleMovie }

/-- The time is taken from behind the end of the file, and the probe answers with it. -/
theorem probeMp4_passes_end :
    (probeMp4 lateSize 257).outcome (.at_ "https://media.example/a.mp4" {}) =
        .ok { length := .fin (9 / 2), mime := "video/mp4" } ∧
      ∃ field ∈ ((probeMp4 lateSize 257).after (.at_ "https://media.example/a.mp4" {})).fields,
        ¬ field.InFile :=
  ⟨by decide +kernel, ⟨36, 8, some ⟨16, 48⟩, some 20⟩, by decide +kernel,
    fun inside => absurd (inside 20 rfl) (by decide)⟩

end OpenTogetherTube.Edge
