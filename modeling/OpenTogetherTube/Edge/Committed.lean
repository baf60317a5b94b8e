import OpenTogetherTube.Edge.Closings

/-!
# Edge rooms: a commit ends with its snapshot stored

After the first write of a round the saved text is that of the room. Only a departure can part them
again, and each departure leaves fewer members, so the rounds end; and they end because the texts agree.
-/

namespace OpenTogetherTube.Edge

open Lib

namespace LiveRoom

section Persisting

variable (timing : Timing) (checkpoint : Bool) (joined : Option ClientId) (runtime : Runtime)
  (object : LiveRoom)

/-- After the write, what was saved is the text of the room. -/
theorem persist_saved : (object.persist checkpoint runtime).storage.saved =
    some (object.persist checkpoint runtime).room.snapshot.json := by
  unfold persist
  split
  · rfl
  · rename_i unchanged
    simp only [Bool.or_eq_true, not_or, Bool.not_eq_true] at unchanged
    exact (of_decide_eq_false unchanged.2 |> not_not.mp).symm

theorem persist_members : (object.persist checkpoint runtime).room.members = object.room.members := by
  unfold persist
  split <;> rfl

theorem index_room : (object.index timing runtime).room = object.room := by
  unfold index
  split
  · rfl
  · split <;> rfl

theorem index_storage : (object.index timing runtime).storage = object.storage := by
  unfold index
  split
  · rfl
  · split <;> rfl

/-- A round up to its draining. -/
def greeted : LiveRoom :=
  ((object.persist checkpoint runtime).index timing runtime).welcome joined runtime

theorem greeted_closes : Closes runtime (ungreeted joined runtime)
    ((object.persist checkpoint runtime).index timing runtime)
    (object.greeted timing checkpoint joined runtime) :=
  welcome_closes joined runtime _

theorem exchange_closes : Closes runtime
    ((object.greeted timing checkpoint joined runtime).departing joined runtime)
    ((object.greeted timing checkpoint joined runtime).drain joined runtime)
    (object.exchange timing checkpoint joined runtime) :=
  deliver_closes joined runtime _

theorem greeted_room : (object.greeted timing checkpoint joined runtime).room =
    (object.persist checkpoint runtime).room.leaveAll runtime (ungreeted joined runtime) := by
  rw [(object.greeted_closes ..).room, index_room]

/-- The room after a round: the socket that joined may have left before the draining, others in the
delivery. -/
theorem exchange_room : (object.exchange timing checkpoint joined runtime).room =
    ((object.persist checkpoint runtime).room.leaveAll runtime
      (ungreeted joined runtime)).drained.leaveAll runtime
        ((object.greeted timing checkpoint joined runtime).departing joined runtime) := by
  rw [(object.exchange_closes ..).room, ← greeted_room timing]
  rfl

/-- A round writes to storage once. -/
theorem exchange_storage : (object.exchange timing checkpoint joined runtime).storage =
    (object.persist checkpoint runtime).storage := by
  rw [(object.exchange_closes ..).storage]
  change (object.greeted timing checkpoint joined runtime).storage = _
  rw [(object.greeted_closes ..).storage, index_storage]

/-- What a round saved is the text of the room it wrote. -/
theorem exchange_saved : (object.exchange timing checkpoint joined runtime).storage.saved =
    some (object.persist checkpoint runtime).room.snapshot.json := by
  rw [exchange_storage, persist_saved]

/-- A round that leaves something unsaved leaves fewer members. -/
theorem exchange_unsaved (unsaved : (object.exchange timing checkpoint joined runtime).unsaved = true) :
    (object.exchange timing checkpoint joined runtime).room.members.length <
      object.room.members.length := by
  have changed := of_decide_eq_true unsaved
  rw [exchange_saved, exchange_room] at changed
  rw [exchange_room, ← object.persist_members checkpoint runtime]
  let written := (object.persist checkpoint runtime).room
  let silent := (written.leaveAll runtime (ungreeted joined runtime)).drained
  let gone := (object.greeted timing checkpoint joined runtime).departing joined runtime
  change (silent.leaveAll runtime gone).members.length < written.members.length
  have fewer : silent.members.length ≤ written.members.length := RoomState.leaveAll_length_le
  by_cases left : ∃ id ∈ gone, silent.members.has id = true
  · obtain ⟨id, leaves, present⟩ := left
    exact Nat.lt_of_lt_of_le (RoomState.leaveAll_length_lt leaves present) fewer
  · have stay : silent.leaveAll runtime gone = silent :=
      RoomState.leaveAll_eq_self fun id leaves => by
        by_contra present
        exact left ⟨id, leaves, by simpa using present⟩
    rw [stay]
    by_cases failed : ∃ id ∈ ungreeted joined runtime, written.members.has id = true
    · obtain ⟨id, leaves, present⟩ := failed
      exact RoomState.leaveAll_length_lt leaves present
    · have same : written.leaveAll runtime (ungreeted joined runtime) = written :=
        RoomState.leaveAll_eq_self fun id leaves => by
          by_contra present
          exact failed ⟨id, leaves, by simpa using present⟩
      apply absurd _ changed
      change some (silent.leaveAll runtime gone).snapshot.json = some written.snapshot.json
      rw [stay]
      change some (written.leaveAll runtime (ungreeted joined runtime)).snapshot.json = _
      rw [same]

end Persisting

section Rounds

variable (timing : Timing) (checkpoint : Bool) (joined : Option ClientId)
  (runtime : Nat → Runtime) (object : LiveRoom)

theorem round_eq (checkpoint : Bool) (joined : Option ClientId) (runtime : Runtime) :
    ∃ alarm, object.round timing checkpoint joined runtime =
      { object.exchange timing checkpoint joined runtime with alarm } := by
  unfold round
  dsimp only
  split
  · exact ⟨_, rfl⟩
  · exact ⟨_, rfl⟩

/-- Going round again means that there are fewer members. -/
theorem rounds_fall (index : Nat) (goes : (rounds timing checkpoint joined runtime).again
      ((rounds timing checkpoint joined runtime).round index object) = true) :
    ((rounds timing checkpoint joined runtime).round index object).room.members.length <
      object.room.members.length := by
  obtain ⟨alarm, same⟩ := object.round_eq timing (checkpoint && index == 0)
    (if index = 0 then joined else none) (runtime index)
  change unsaved (object.round ..) = true at goes
  change (object.round ..).room.members.length < _
  rw [same] at goes ⊢
  exact object.exchange_unsaved _ _ _ _ goes

/-- The rounds of a commit end, and as many of them are enough as there are members, and one more. -/
theorem rounds_end : ∃ begun final,
    (rounds timing checkpoint joined runtime).Ends 0 object.begin begun final ∧
      ∀ fuel > object.room.members.length,
        object.commit timing checkpoint joined runtime fuel = some final := by
  obtain ⟨begun, final, ends, short⟩ := Rounds.ends_of_measure
    (fun object => object.room.members.length)
    (fun index object => object.rounds_fall timing checkpoint joined runtime index) 0 object.begin
  exact ⟨begun, final, ends, fun fuel enough => ends.runFrom_eq (Nat.le_trans short enough)⟩

/-- A commit returns, whatever sends fail, and then the record in storage has the text of the room. -/
theorem commit_stores : ∃ final,
    (∀ fuel > object.room.members.length,
      object.commit timing checkpoint joined runtime fuel = some final) ∧
    final.storage.stored.map Snapshot.json = some final.room.snapshot.json := by
  obtain ⟨begun, final, ends, returns⟩ := object.rounds_end timing checkpoint joined runtime
  refine ⟨final, returns, ?_⟩
  have settled := of_decide_eq_false ends.settled
  rw [← final.storage.agree]
  exact (not_not.mp settled).symm

end Rounds

end LiveRoom

end OpenTogetherTube.Edge
