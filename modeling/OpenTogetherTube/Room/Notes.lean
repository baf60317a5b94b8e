import OpenTogetherTube.Lib.Claims
import OpenTogetherTube.Room.Requests

/-!
# Notes

Embeds `storage/roomnote.ts` and, from one await to the next, `addNote` and `deleteNote` of
`server/room.ts`. The count and the insert are two statements. Between them an add has been let
through and its note is not stored yet, so the cap holds as long as each count that lets an add
through leaves space for those that were let through before.
-/

namespace OpenTogetherTube

open Lib Lib.Handler

/-- `RoomNoteAttributes`. -/
structure NoteRow where
  id : Nat
  roomName : String
  authorName : String
  authorId : ClientId
  text : String
deriving DecidableEq

/-- The table behind `RoomNote`. A new row gets a higher id than all before it. -/
structure NoteTable where
  rows : List NoteRow := []
  nextId : Nat := 1
deriving DecidableEq

namespace NoteTable

def listNotes (roomName : String) (table : NoteTable) : List NoteRow :=
  table.rows.filter fun row => decide (row.roomName = roomName)

def countNotes (roomName : String) (table : NoteTable) : Nat := (table.listNotes roomName).length

def addNote (roomName authorName : String) (authorId : ClientId) (text : String)
    (table : NoteTable) : NoteTable :=
  ⟨table.rows ++ [⟨table.nextId, roomName, authorName, authorId, text⟩], table.nextId + 1⟩

/-- `where: { roomName, id: noteId }`. -/
def isNote (roomName : String) (noteId : Number) (row : NoteRow) : Bool :=
  decide (row.roomName = roomName) && decide (noteId = .fin row.id)

/-- `deleteNote`: whether a row was deleted. -/
def deletesNote (roomName : String) (noteId : Number) (table : NoteTable) : Bool :=
  table.rows.any (isNote roomName noteId)

/-- `deleteNote`: the table after it. -/
def deleteNote (roomName : String) (noteId : Number) (table : NoteTable) : NoteTable :=
  { table with rows := table.rows.filter fun row => !isNote roomName noteId row }

@[simp] theorem countNotes_addNote (roomName authorName : String) (authorId : ClientId)
    (text : String) (table : NoteTable) :
    (table.addNote roomName authorName authorId text).countNotes roomName =
      table.countNotes roomName + 1 := by
  unfold countNotes listNotes addNote
  rw [List.filter_append, List.length_append]
  refine congrArg _ ?_
  rw [List.filter_singleton, decide_eq_true rfl]
  rfl

theorem countNotes_deleteNote_le (roomName : String) (noteId : Number) (table : NoteTable) :
    (table.deleteNote roomName noteId).countNotes roomName ≤ table.countNotes roomName :=
  (List.Sublist.filter _ List.filter_sublist).length_le

end NoteTable

/-- How a call to the database ends. A statement can be carried out although its call fails. -/
inductive StorageAnswer where
  | resolves
  | rejects
  | rejectsLate
deriving DecidableEq

/-- What a piece takes from outside: how its call ends and whom `getUserInfo` finds by then. -/
structure NoteAnswer where
  storage : StorageAnswer := .resolves
  user : Option RoomUserInfo := none
deriving DecidableEq

/-- What the note requests of a room write: the table and what they publish. -/
structure NoteBoard where
  table : NoteTable
  published : List (List NoteRow) := []
  /-- History: how the requests ended. -/
  ended : List (Except RoomError Unit) := []

/-- A request about notes. A text that is no string counts as empty. -/
inductive NoteRequest where
  | addNote (text : String) (context : RoomRequestContext)
  | deleteNote (noteId : Number)

/-- Where a request waits, at the database or for its turn to go on. -/
inductive NotePoint where
  | counting (clientId : ClientId) (text : String)
  | counted (clientId : ClientId) (text : String) (notes : Nat)
  | adding (authorName : String) (clientId : ClientId) (text : String)
  | added
  | deleting (noteId : Number)
  | deleted (found : Bool)
  | listing
  | listed (notes : List NoteRow)
deriving DecidableEq

namespace NoteBoard

/-- The request is over. -/
def finish (result : Except RoomError Unit) (board : NoteBoard) : NoteBoard × Rest NotePoint Empty :=
  ({ board with ended := result :: board.ended }, .done)

/-- The awaited call ends: `next` is where the request goes on. -/
def await (answer : StorageAnswer) (next : NotePoint) (board : NoteBoard) :
    NoteBoard × Rest NotePoint Empty :=
  match answer with
  | .resolves => (board, .point next)
  | _ => board.finish (.error .external)

/-- The database carries a statement out, or does not. -/
def write (answer : StorageAnswer) (statement : NoteTable → NoteTable) (board : NoteBoard) :
    NoteBoard :=
  match answer with
  | .rejects => board
  | _ => { board with table := statement board.table }

variable (room : Room)

/-- A request up to its first await. -/
def request (request : NoteRequest) (_ : NoteAnswer) (board : NoteBoard) :
    NoteBoard × Rest NotePoint Empty :=
  match request with
  | .addNote text context =>
      if room.isTemporary then
        board.finish (.error (.featureDisabled "notes are only available in permanent rooms"))
      else
        match context.clientId with
        | none => board.finish (.error (.error "context.clientId was undefined"))
        | some clientId =>
            let text := trim text
            if utf16Length text = 0 then board.finish (.ok ())
            else if utf16Length text > MAX_NOTE_LENGTH then board.finish (.error .noteTooLong)
            else (board, .point (.counting clientId text))
  | .deleteNote noteId =>
      if room.isTemporary then
        board.finish (.error (.featureDisabled "notes are only available in permanent rooms"))
      else if !noteId.isInteger then
        board.finish (.error (.badApiArgument "noteId" "Expected an integer note id"))
      else (board, .point (.deleting noteId))

/-- A request from an await to the next. -/
def goOn (point : NotePoint) (answer : NoteAnswer) (board : NoteBoard) :
    NoteBoard × Rest NotePoint Empty :=
  match point with
  | .counting clientId text =>
      board.await answer.storage (.counted clientId text (board.table.countNotes room.name))
  | .counted clientId text notes =>
      if notes ≥ MAX_NOTES_PER_ROOM then board.finish (.error .tooManyNotes)
      else
        match answer.user with
        | none => board.finish (.error (.error "Client not found"))
        | some user => (board, .point (.adding user.name clientId text))
  | .adding authorName clientId text =>
      (board.write answer.storage (NoteTable.addNote room.name authorName clientId text)).await
        answer.storage .added
  | .added => (board, .point .listing)
  | .deleting noteId =>
      (board.write answer.storage (NoteTable.deleteNote room.name noteId)).await
        answer.storage (.deleted (board.table.deletesNote room.name noteId))
  | .deleted found =>
      if found then (board, .point .listing) else board.finish (.error .noteNotFound)
  | .listing => board.await answer.storage (.listed (board.table.listNotes room.name))
  | .listed notes => { board with published := notes :: board.published }.finish (.ok ())

end NoteBoard

/-- The requests as a program without a lock. The name and the kind of a room never change. -/
def noteProgram (room : Room) : Program NoteBoard NoteRequest NoteAnswer NotePoint Empty where
  call := NoteBoard.request room
  resume := NoteBoard.goOn room
  serve guarded := nomatch guarded

/-- The note requests of a room on their way. -/
abbrev NoteRequests := Tasks NoteBoard NotePoint Empty

/-- An add that was let through has a note to store. -/
def noteClaims (room : Room) : Claims NoteBoard NotePoint where
  stored board := board.table.countNotes room.name
  claims
    | .counted _ _ notes => decide (notes < MAX_NOTES_PER_ROOM)
    | .adding _ _ _ => true
    | _ => false

/-- The count that lets an add through. -/
def letsThrough (room : Room) : Guard NoteBoard NoteRequest NoteAnswer NotePoint Empty where
  call _ _ _ := false
  resume point answer board :=
    match point with
    | .counting _ _ => decide (answer.storage = .resolves) &&
        decide (board.table.countNotes room.name < MAX_NOTES_PER_ROOM)
    | _ => false
  serve guarded := nomatch guarded

/-- Every interleaving of the note requests of a permanent room whose notes fit. -/
def noteSystem (room : Room) :
    TransitionSystem NoteRequests (TaskLabel NoteRequest NoteAnswer) :=
  (noteProgram room).system fun board =>
    room.isTemporary = false ∧ board.table.countNotes room.name ≤ MAX_NOTES_PER_ROOM

/-- A count that lets an add through leaves space for those that were let through before. -/
def NoteRequests.Spare (room : Room) : NoteRequests → TaskLabel NoteRequest NoteAnswer → Prop :=
  (noteClaims room).Spare (letsThrough room) MAX_NOTES_PER_ROOM

namespace NoteBoard

variable {room : Room}

/-- A call that fails leaves its point, and with it the claim. -/
theorem left_await_le (answer : StorageAnswer) (next : NotePoint) (board : NoteBoard) :
    (noteClaims room).left (board.await answer next) ≤
      (noteClaims room).stored board + if (noteClaims room).claims next then 1 else 0 := by
  cases answer with
  | resolves => exact Nat.le_of_eq (congrArg (_ + ·) List.countP_singleton)
  | _ => exact Nat.le_add_right _ _

theorem stored_write_le (answer : StorageAnswer) (statement : NoteTable → NoteTable)
    (board : NoteBoard) {added : Nat}
    (changes : (statement board.table).countNotes room.name ≤
      board.table.countNotes room.name + added) :
    (noteClaims room).stored (board.write answer statement) ≤
      (noteClaims room).stored board + added := by
  cases answer with
  | rejects => exact Nat.le_add_right _ _
  | _ => exact changes

end NoteBoard

/-- Only the count that lets an add through makes a claim. -/
theorem noteClaims_accounts (room : Room) :
    (noteClaims room).Accounts (noteProgram room) (letsThrough room) where
  call request answer board := by
    change (noteClaims room).left (board.request room request answer) ≤ _
    unfold NoteBoard.request
    split
    · split
      · exact Nat.le_refl _
      · split
        · exact Nat.le_refl _
        · dsimp only
          split
          · exact Nat.le_refl _
          · split <;> exact Nat.le_refl _
    · split
      · exact Nat.le_refl _
      · split <;> exact Nat.le_refl _
  resume point answer board := by
    change (noteClaims room).left (board.goOn room point answer) ≤ _
    cases point with
    | counting clientId text =>
        obtain ⟨storage, user⟩ := answer
        cases storage with
        | resolves =>
            refine Nat.le_trans (NoteBoard.left_await_le _ _ _) (Nat.le_of_eq ?_)
            exact congrArg (_ + ·) (if_congr (by simp [letsThrough, noteClaims]) rfl rfl)
        | _ => exact Nat.le_add_right _ _
    | counted clientId text notes =>
        refine Nat.le_trans ?_ (Nat.le_add_right _ _)
        unfold NoteBoard.goOn
        dsimp only
        split
        · exact Nat.le_add_right _ _
        · rename_i below
          have claimed : (noteClaims room).claims (.counted clientId text notes) = true :=
            decide_eq_true (Nat.lt_of_not_le below)
          rw [if_pos claimed]
          split
          · exact Nat.le_add_right _ _
          · exact Nat.le_refl _
    | adding authorName clientId text =>
        refine Nat.le_trans (NoteBoard.left_await_le _ _ _) ?_
        exact NoteBoard.stored_write_le _ _ _ (Nat.le_of_eq (NoteTable.countNotes_addNote ..))
    | deleting noteId =>
        refine Nat.le_trans (NoteBoard.left_await_le _ _ _) ?_
        exact NoteBoard.stored_write_le _ _ _ (NoteTable.countNotes_deleteNote_le ..)
    | deleted found =>
        unfold NoteBoard.goOn
        dsimp only
        split <;> exact Nat.le_refl _
    | listing => exact NoteBoard.left_await_le _ _ _
    | _ => exact Nat.le_refl _
  serve guarded := nomatch guarded

namespace NoteRequests

variable {room : Room} {tasks : NoteRequests}

/-- In every run in which a count lets an add through only while there is space for those that were
let through before, a room never has more than `MAX_NOTES_PER_ROOM` notes. -/
theorem notes_within_cap (reachable : ((noteSystem room).restrict (Spare room)).Reachable tasks) :
    tasks.shared.table.countNotes room.name ≤ MAX_NOTES_PER_ROOM := by
  have total := (noteClaims_accounts room).total_le (fun _ fits => fits.2) reachable
  exact Nat.le_trans (Nat.le_add_right _ _) total

/-- The request that came to rest last goes on. -/
theorem goOn_last (board : NoteBoard) (point : NotePoint) (answer : NoteAnswer) :
    (noteSystem room).Steps (tasks.park (board, .point point))
      (tasks.park (board.goOn room point answer)) := by
  obtain ⟨possible, next⟩ := (noteProgram room).next_resume_last tasks board point answer
  exact .single ⟨possible, next.symm⟩

/-- Without another request in between and with a database that answers, the pieces of `addNote`
come to what the handler does. -/
theorem addNote_alone (env : Env) (text : String) (context : RoomRequestContext) (board : NoteBoard)
    (counts : env.countNotes = board.table.countNotes room.name) :
    ∃ after, (noteSystem room).Steps (tasks.park (board, .done)) (tasks.park (after, .done)) ∧
      after.ended = (Room.addNote env text context).outcome room :: board.ended ∧
      ((Room.addNote env text context).after room = room ∧ after.table = board.table ∧
          after.published = board.published ∨
        (Room.addNote env text context).after room = room.publish .notes ∧
          (∃ authorName authorId note,
            after.table = board.table.addNote room.name authorName authorId note) ∧
          after.published = after.table.listNotes room.name :: board.published) := by
  have called : (noteSystem room).Steps (tasks.park (board, .done))
      (tasks.park (board.request room (.addNote text context) {})) := by
    have possible : Program.Enabled (tasks.park (board, .done))
        (.call (NoteRequest.addNote text context) ({} : NoteAnswer)) := trivial
    exact .single ⟨possible, rfl⟩
  unfold NoteBoard.request at called
  dsimp only at called
  unfold Room.addNote
  rw [outcome_get_bind, after_get_bind]
  by_cases temporary : room.isTemporary = true
  · rw [if_pos temporary] at called ⊢
    exact ⟨_, called, rfl, .inl ⟨rfl, rfl, rfl⟩⟩
  rw [if_neg temporary] at called ⊢
  cases present : context.clientId with
  | none =>
      rw [present] at called
      exact ⟨_, called, rfl, .inl ⟨rfl, rfl, rfl⟩⟩
  | some clientId =>
    rw [present] at called
    dsimp only at called ⊢
    by_cases empty : utf16Length (trim text) = 0
    · rw [if_pos empty] at called ⊢
      exact ⟨_, called, rfl, .inl ⟨rfl, rfl, rfl⟩⟩
    rw [if_neg empty] at called ⊢
    by_cases long : utf16Length (trim text) > MAX_NOTE_LENGTH
    · rw [if_pos long] at called ⊢
      exact ⟨_, called, rfl, .inl ⟨rfl, rfl, rfl⟩⟩
    rw [if_neg long] at called ⊢
    have counted := called.trans (goOn_last board (.counting clientId _) {})
    have decided := counted.trans
      (goOn_last board (.counted clientId _ (board.table.countNotes room.name))
        { user := room.getUserInfo clientId })
    unfold NoteBoard.goOn at decided
    dsimp only at decided
    rw [counts]
    by_cases full : board.table.countNotes room.name ≥ MAX_NOTES_PER_ROOM
    · rw [if_pos full] at decided ⊢
      exact ⟨_, decided, rfl, .inl ⟨rfl, rfl, rfl⟩⟩
    rw [if_neg full] at decided ⊢
    cases found : room.getUserInfo clientId with
    | none =>
        rw [found] at decided
        exact ⟨_, decided, rfl, .inl ⟨rfl, rfl, rfl⟩⟩
    | some user =>
        rw [found] at decided
        have stored := decided.trans (goOn_last board (.adding user.name clientId _) {})
        have asked := (stored.trans (goOn_last _ .added {})).trans (goOn_last _ .listing {})
        exact ⟨_, asked.trans (goOn_last _ (.listed _) {}), rfl, .inr ⟨rfl, ⟨_, _, _, rfl⟩, rfl⟩⟩

end NoteRequests

namespace Sample

/-- A permanent room. -/
def notesRoom : Room := { name := "room", isTemporary := false }

/-- Its table, with one note less than the cap. -/
def nearlyFull : NoteBoard where
  table := ⟨(List.range 199).map fun index => ⟨index + 1, "room", "author", "author", "note"⟩, 200⟩

/-- An add of one of two clients. -/
def addsNote (clientId : ClientId) : TaskLabel NoteRequest NoteAnswer :=
  .call (.addNote "note" { role := .unregisteredUser, clientId := some clientId }) {}

/-- The first task that waits goes on; its client is in the room. -/
def goesOn : TaskLabel NoteRequest NoteAnswer :=
  .resume 0 { user := some ⟨"client", "name", false, .none, .unregisteredUser⟩ }

/-- One add from its call to its insert. -/
def addAlone : List (TaskLabel NoteRequest NoteAnswer) := [addsNote "first", goesOn, goesOn, goesOn]

/-- Two adds side by side, up to the second insert. -/
def addTogether : List (TaskLabel NoteRequest NoteAnswer) :=
  [addsNote "first", addsNote "second", goesOn, goesOn, goesOn, goesOn, goesOn, goesOn]

theorem nearlyFull_initial :
    notesRoom.isTemporary = false ∧
      nearlyFull.table.countNotes notesRoom.name ≤ MAX_NOTES_PER_ROOM := by
  decide +kernel

end Sample

namespace NoteRequests

instance (room : Room) (tasks : NoteRequests) (label : TaskLabel NoteRequest NoteAnswer) :
    Decidable (Spare room tasks label) :=
  inferInstanceAs (Decidable (_ → _))

/-- The last note that fits is stored. -/
theorem notes_within_cap_alone :
    (TransitionSystem.run (noteProgram Sample.notesRoom).next Sample.addAlone
      { shared := Sample.nearlyFull }).shared.table.countNotes "room" = 200 ∧ 200 ≤ MAX_NOTES_PER_ROOM := by
  have run := (noteProgram Sample.notesRoom).steps_run
    (fun board => Sample.notesRoom.isTemporary = false ∧
      board.table.countNotes Sample.notesRoom.name ≤ MAX_NOTES_PER_ROOM)
    (Spare Sample.notesRoom) Sample.addAlone { shared := Sample.nearlyFull } (by decide +kernel)
  have count : (TransitionSystem.run (noteProgram Sample.notesRoom).next Sample.addAlone
      { shared := Sample.nearlyFull }).shared.table.countNotes "room" = 200 := by decide +kernel
  have within := notes_within_cap ⟨_, ⟨_, Sample.nearlyFull_initial, rfl⟩, run⟩
  exact ⟨count, count ▸ within⟩

/-- Two adds that both see room for one note store two. -/
theorem notes_exceed_cap_together : ¬ ∀ (room : Room) (tasks : NoteRequests),
    (noteSystem room).Reachable tasks →
      tasks.shared.table.countNotes room.name ≤ MAX_NOTES_PER_ROOM := by
  intro within
  have run := (noteProgram Sample.notesRoom).steps_run
    (fun board => Sample.notesRoom.isTemporary = false ∧
      board.table.countNotes Sample.notesRoom.name ≤ MAX_NOTES_PER_ROOM)
    (fun _ _ => True) Sample.addTogether { shared := Sample.nearlyFull } (by decide +kernel)
  have fits := within Sample.notesRoom _ ⟨_, ⟨_, Sample.nearlyFull_initial, rfl⟩, run.of_restrict⟩
  revert fits
  decide +kernel

end NoteRequests

end OpenTogetherTube
