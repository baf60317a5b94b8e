import OpenTogetherTube.Manager.VoicePresence

/-!
# Who is in voice, over every run

The participants of a room are the connected clients that want it, but for those that are being closed,
and they are not too many: an invariant of every run whose joins still fit where they resume. The loop of
an unload is the one place where a client can be missed, and `roomJoins` says whom it reaches.
-/

namespace OpenTogetherTube

open Lib

namespace VoiceState

/-- No set is in two rooms, and a relay is that of a room in voice. -/
structure WellFormed (voice : VoiceState) : Prop where
  distinct : ∀ first second object, voice.participants.get first = some object →
    voice.participants.get second = some object → first = second
  made : ∀ roomName object, voice.participants.get roomName = some object →
    object < voice.sets.length
  relayed : ∀ roomName, voice.relays.has roomName = true → voice.participants.has roomName = true

/-- Without the two entries of one room. -/
theorem WellFormed.close {voice : VoiceState} (formed : voice.WellFormed) (roomName : String) :
    (voice.close roomName).WellFormed := by
  have read : ∀ {other : String} {object : Nat},
      (voice.participants.delete roomName).get other = some object →
        voice.participants.get other = some object := by
    intro other object found
    rw [OrderedMap.get_delete] at found
    split at found
    · cases found
    · exact found
  refine ⟨fun _ _ _ left right => formed.distinct _ _ _ (read left) (read right),
    fun _ _ found => formed.made _ _ (read found), fun other relayed => ?_⟩
  unfold VoiceState.close OrderedMap.has at relayed ⊢
  rw [OrderedMap.get_delete] at relayed ⊢
  split at relayed
  · cases relayed
  · rename_i different
    rw [if_neg different]
    exact formed.relayed other relayed

theorem participantsOf_close (voice : VoiceState) (roomName other : String) :
    (voice.close roomName).participantsOf other =
      if other = roomName then [] else voice.participantsOf other := by
  unfold participantsOf VoiceState.close
  rw [OrderedMap.get_delete]
  by_cases same : other = roomName
  · rw [if_pos same, if_pos same]
  · rw [if_neg same, if_neg same]
    rfl

/-- Closing what is empty is closing or nothing. -/
theorem closeEmpty_cases (voice : VoiceState) (object : Nat) (roomName : String) :
    voice.members object = [] ∧ voice.closeEmpty object roomName = voice.close roomName ∨
      voice.members object ≠ [] ∧ voice.closeEmpty object roomName = voice := by
  unfold closeEmpty
  by_cases empty : voice.members object = []
  · rw [if_pos (List.isEmpty_iff.mpr empty)]
    exact .inl ⟨empty, rfl⟩
  · rw [if_neg fun isEmpty => empty (List.isEmpty_iff.mp isEmpty)]
    exact .inr ⟨empty, rfl⟩

theorem WellFormed.closeEmpty {voice : VoiceState} (formed : voice.WellFormed) (object : Nat)
    (roomName : String) : (voice.closeEmpty object roomName).WellFormed := by
  rcases voice.closeEmpty_cases object roomName with ⟨_, closed⟩ | ⟨_, kept⟩
  · rw [closed]
    exact formed.close roomName
  · rw [kept]
    exact formed

/-- A room whose set is empty has no participants whether it is closed or not. -/
theorem participantsOf_closeEmpty {voice : VoiceState} {object : Nat} {roomName : String}
    (nobody : voice.members object = [] → voice.participantsOf roomName = []) (other : String) :
    (voice.closeEmpty object roomName).participantsOf other = voice.participantsOf other := by
  rcases voice.closeEmpty_cases object roomName with ⟨empty, closed⟩ | ⟨_, kept⟩
  · rw [closed, participantsOf_close]
    split
    · rename_i same
      rw [same, nobody empty]
    · rfl
  · rw [kept]

theorem members_write {voice : VoiceState} {object : Nat} (made : object < voice.sets.length)
    (members : OrderedSet ClientId) (other : Nat) :
    (voice.write object members).members other =
      if other = object then members else voice.members other := by
  unfold VoiceState.members VoiceState.write
  by_cases same : other = object
  · subst same
    simp [made]
  · rw [if_neg same, List.getElem?_set_ne (Ne.symm same)]

theorem WellFormed.write {voice : VoiceState} (formed : voice.WellFormed) (object : Nat)
    (members : OrderedSet ClientId) : (voice.write object members).WellFormed :=
  ⟨formed.distinct, fun roomName other found => by
    simpa [VoiceState.write] using formed.made roomName other found, formed.relayed⟩

theorem participantsOf_write {voice : VoiceState} {object : Nat}
    (made : object < voice.sets.length) (members : OrderedSet ClientId) (roomName : String) :
    (voice.write object members).participantsOf roomName =
      if voice.participants.get roomName = some object then members
      else voice.participantsOf roomName := by
  have same : (voice.write object members).participants = voice.participants := rfl
  unfold participantsOf
  rw [same]
  cases found : voice.participants.get roomName with
  | none => rfl
  | some other =>
      dsimp only
      rw [members_write made]
      by_cases here : other = object
      · rw [if_pos here, if_pos (congrArg some here)]
      · rw [if_neg here, if_neg fun equal => here (Option.some.inj equal)]

/-- A room that is entered has a set, and its participants stay. -/
structure Entered (roomName : String) (before : VoiceState) (object : Nat) (after : VoiceState) :
    Prop where
  formed : after.WellFormed
  here : after.participants.get roomName = some object
  grows : before.sets.length ≤ after.sets.length
  same : ∀ other, after.participantsOf other = before.participantsOf other

theorem enter_entered {voice : VoiceState} (formed : voice.WellFormed) (roomName : String) :
    Entered roomName voice (voice.enter roomName).1 (voice.enter roomName).2 := by
  unfold enter
  cases found : voice.participants.get roomName with
  | some object => exact ⟨formed, found, le_rfl, fun _ => rfl⟩
  | none =>
      have reads : ∀ other, (voice.participants.set roomName voice.sets.length).get other =
          if other = roomName then some voice.sets.length else voice.participants.get other :=
        fun other => OrderedMap.get_set voice.participants roomName other voice.sets.length
      refine ⟨⟨?_, ?_, ?_⟩, ?_, ?_, ?_⟩
      · intro first second object left right
        simp only [reads] at left right
        split at left <;> split at right
        · simp_all
        · cases left
          exact absurd (formed.made second _ right) (Nat.lt_irrefl _)
        · cases right
          exact absurd (formed.made first _ left) (Nat.lt_irrefl _)
        · exact formed.distinct first second object left right
      · intro other object read
        simp only [reads] at read
        rw [List.length_append, List.length_singleton]
        split at read
        · cases read
          exact Nat.lt_succ_self _
        · exact Nat.lt_succ_of_lt (formed.made other object read)
      · intro other relayed
        have earlier := formed.relayed other relayed
        unfold OrderedMap.has at earlier ⊢
        simp only [reads]
        split
        · rfl
        · exact earlier
      · simp only [reads, if_pos]
      · simp
      · intro other
        unfold participantsOf
        simp only [reads]
        by_cases same : other = roomName
        · subst same
          simp [found, members]
        · rw [if_neg same]
          cases read : voice.participants.get other with
          | none => rfl
          | some object =>
              unfold members
              dsimp only
              rw [List.getElem?_append_left (formed.made other object read)]

end VoiceState

namespace VoicePresence

variable {config : VoiceConfig}

/-- The participants of a room are the clients that want it, but for the room of a client that is
being closed, and they are not too many. -/
structure Sound (config : VoiceConfig) (presence : VoicePresence) : Prop where
  formed : presence.voice.WellFormed
  made : ∀ task ∈ presence.tasks, ∀ object, task.object = some object →
    object < presence.voice.sets.length
  only : ∀ roomName, ∀ id ∈ presence.voice.participantsOf roomName,
    presence.inVoice id roomName = true
  all : ∀ id client, presence.clients.lookup id = some client → client.wants = true →
    client.kicked = false → id ∈ presence.voice.participantsOf client.room
  capped : 0 < config.maxParticipantsPerRoom → ∀ roomName,
    (presence.voice.participantsOf roomName).length ≤ config.maxParticipantsPerRoom

theorem inVoice_iff {presence : VoicePresence} {id : ClientId} {client : VoiceClient}
    (read : presence.clients.lookup id = some client) (roomName : String) :
    presence.inVoice id roomName = true ↔ client.wants = true ∧ client.room = roomName := by
  simp [inVoice, read]

/-- A step of one client. -/
theorem Sound.of_local {before after : VoicePresence} (sound : before.Sound config) (id : ClientId)
    (client : VoiceClient) (written : after.clients = before.clients.insert id client)
    (formed : after.voice.WellFormed)
    (made : ∀ task ∈ after.tasks, ∀ object, task.object = some object →
      object < after.voice.sets.length)
    (others : ∀ roomName other, other ≠ id →
      (other ∈ after.voice.participantsOf roomName ↔ other ∈ before.voice.participantsOf roomName))
    (only : ∀ roomName, id ∈ after.voice.participantsOf roomName →
      client.wants = true ∧ client.room = roomName)
    (all : client.wants = true → client.kicked = false →
      id ∈ after.voice.participantsOf client.room)
    (capped : 0 < config.maxParticipantsPerRoom → ∀ roomName,
      (after.voice.participantsOf roomName).length ≤ config.maxParticipantsPerRoom) :
    after.Sound config where
  formed := formed
  made := made
  only roomName other inside := by
    by_cases same : other = id
    · subst same
      have read : after.clients.lookup other = some client := by
        rw [written, AList.lookup_insert]
      exact (inVoice_iff read roomName).mpr (only roomName inside)
    · have earlier := sound.only roomName other ((others roomName other same).mp inside)
      unfold inVoice at earlier ⊢
      rw [written, AList.lookup_insert_ne same]
      exact earlier
  all other found read wants alive := by
    rw [written] at read
    rcases Table.lookup_insert_cases read with ⟨rfl, rfl⟩ | ⟨different, earlier⟩
    · exact all wants alive
    · exact (others _ other different).mpr (sound.all other found earlier wants alive)
  capped := capped

/-- A step that only writes a client and its tasks. -/
theorem Sound.write {presence : VoicePresence} (sound : presence.Sound config) (id : ClientId)
    (client : VoiceClient)
    (only : ∀ roomName, id ∈ presence.voice.participantsOf roomName →
      client.wants = true ∧ client.room = roomName)
    (all : client.wants = true → client.kicked = false →
      id ∈ presence.voice.participantsOf client.room) :
    (presence.write id client).Sound config :=
  sound.of_local id client rfl sound.formed sound.made (fun _ _ _ => Iff.rfl) only all sound.capped

/-- The pending handlers change and nothing else that counts. -/
theorem Sound.retask {presence : VoicePresence} (sound : presence.Sound config)
    (tasks : List VoiceTask) (messages : Nat)
    (made : ∀ task ∈ tasks, ∀ object, task.object = some object →
      object < presence.voice.sets.length) :
    ({ presence with tasks, messages } : VoicePresence).Sound config :=
  ⟨sound.formed, made, sound.only, sound.all, sound.capped⟩

/-- A handler goes on to an await with no set, or ends. -/
theorem made_of_others {tasks : List VoiceTask} {bound : Nat}
    (made : ∀ task ∈ tasks, ∀ object, task.object = some object → object < bound) (index : Nat)
    {next : VoiceTask} (free : next.object = none) :
    (∀ task ∈ tasks.set index next, ∀ object, task.object = some object → object < bound) ∧
      ∀ task ∈ tasks ++ [next], ∀ object, task.object = some object → object < bound := by
  have new : ∀ object, next.object = some object → object < bound := fun object held => by
    rw [free] at held
    cases held
  refine ⟨fun task held => ?_, fun task held => ?_⟩
  · rcases List.mem_or_eq_of_mem_set held with earlier | rfl
    · exact made task earlier
    · exact new
  · rcases List.mem_append.mp held with earlier | added
    · exact made task earlier
    · rw [List.mem_singleton.mp added]
      exact new

theorem announcing_object (roomName : String) (object : Nat) (voice : VoiceState) :
    (voice.announcing roomName object).object = none := by
  unfold VoiceState.announcing
  split <;> rfl

section Handlers

variable {presence : VoicePresence} {id : ClientId} {client : VoiceClient}

/-- The room of a client is entered where it is already. -/
theorem entered_self {voice : VoiceState} (formed : voice.WellFormed) {roomName : String}
    {object : Nat} (here : voice.participants.get roomName = some object) :
    VoiceState.Entered roomName voice object voice :=
  ⟨formed, here, le_rfl, fun _ => rfl⟩

/-- A wish for voice outlives an older message. -/
theorem wants_acceptLate (message : Nat) (wants : client.wants = true) :
    (client.acceptLate message).wants = true := by
  unfold VoiceClient.acceptLate
  have connected : client.connected = true := (Bool.and_eq_true_iff.mp wants).1
  have accepted : (client.accept message true).wants = true := by
    unfold VoiceClient.wants VoiceClient.accept
    rw [connected]
    rfl
  cases client.last with
  | none => exact accepted
  | some last =>
      dsimp only
      split
      · exact wants
      · exact accepted

/-- A late join changes nothing else of its client. -/
theorem acceptLate_frame (message : Nat) :
    (client.acceptLate message).room = client.room ∧
      (client.acceptLate message).kicked = client.kicked := by
  unfold VoiceClient.acceptLate
  cases client.last with
  | none => exact ⟨rfl, rfl⟩
  | some last =>
      dsimp only
      split <;> exact ⟨rfl, rfl⟩

variable (sound : presence.Sound config)

include sound

theorem Sound.room_of_mem
    (read : presence.clients.lookup id = some client) {roomName : String}
    (inside : id ∈ presence.voice.participantsOf roomName) :
    client.wants = true ∧ client.room = roomName :=
  (inVoice_iff read roomName).mp (sound.only roomName id inside)

theorem Sound.remove
    (read : presence.clients.lookup id = some client) {voice : VoiceState} {object : Nat}
    (entered : VoiceState.Entered client.room presence.voice object voice)
    (after : VoiceClient) (gone : after.wants = false) (tasks : List VoiceTask) (messages : Nat)
    (made : ∀ task ∈ tasks, ∀ object, task.object = some object → object < voice.sets.length) :
    ({ presence with
        voice := (voice.write object ((voice.members object).remove id)).closeEmpty object client.room
        tasks, messages }.write id after : VoicePresence).Sound config := by
  have inside := entered.formed.made _ _ entered.here
  have held : voice.participantsOf client.room = voice.members object := by
    unfold VoiceState.participantsOf
    rw [entered.here]
  have written : ∀ roomName,
      ((voice.write object ((voice.members object).remove id)).closeEmpty object
        client.room).participantsOf roomName =
        if roomName = client.room then (voice.members object).remove id
        else voice.participantsOf roomName := by
    intro roomName
    rw [VoiceState.participantsOf_closeEmpty, VoiceState.participantsOf_write inside]
    · by_cases same : roomName = client.room
      · rw [if_pos same, if_pos (same ▸ entered.here)]
      · rw [if_neg same, if_neg fun other => same (entered.formed.distinct _ _ _ other entered.here)]
    · intro empty
      rw [VoiceState.participantsOf_write inside, if_pos entered.here]
      rwa [VoiceState.members_write inside, if_pos rfl] at empty
  have sets : ((voice.write object ((voice.members object).remove id)).closeEmpty object
      client.room).sets.length = voice.sets.length := by
    rcases VoiceState.closeEmpty_cases (voice.write object ((voice.members object).remove id)) object
      client.room with ⟨_, closed⟩ | ⟨_, kept⟩
    · rw [closed]
      exact List.length_set
    · rw [kept]
      exact List.length_set
  refine sound.of_local id after rfl ((entered.formed.write object _).closeEmpty object _) ?_ ?_ ?_
    (fun wants => absurd (gone.symm.trans wants) nofun) ?_
  · exact fun task held object read => sets.symm ▸ made task held object read
  · intro roomName other different
    refine (iff_of_eq (congrArg (other ∈ ·) (written roomName))).trans ?_
    split
    · rename_i same
      rw [OrderedSet.mem_remove, same, ← entered.same, held]
      exact and_iff_left different
    · rw [entered.same]
  · intro roomName member
    replace member := (congrArg (id ∈ ·) (written roomName)).mp member
    split at member
    · exact absurd rfl (OrderedSet.mem_remove.mp member).2
    · rename_i different
      rw [entered.same] at member
      exact absurd (sound.room_of_mem read member).2.symm different
  · intro limited roomName
    refine (congrArg List.length (written roomName)).trans_le ?_
    split
    · rename_i same
      refine (List.length_filter_le _ _).trans ?_
      rw [← held, entered.same]
      exact sound.capped limited _
    · rw [entered.same]
      exact sound.capped limited roomName

theorem Sound.enter {voice : VoiceState} {object : Nat}
    {roomName : String} (entered : VoiceState.Entered roomName presence.voice object voice) :
    ({ presence with voice } : VoicePresence).Sound config := by
  refine ⟨entered.formed, fun task held other read =>
    (sound.made task held other read).trans_le entered.grows, ?_, ?_, ?_⟩
  · intro other member inside
    exact sound.only other member (entered.same other ▸ inside)
  · intro member found read wants alive
    exact (entered.same found.room).symm ▸ sound.all member found read wants alive
  · intro limited other
    exact (congrArg List.length (entered.same other)).trans_le (sound.capped limited other)

theorem Sound.setVoicePresence
    (read : presence.clients.lookup id = some client) (here : client.connected = true)
    (joined : Bool) (messages : Nat) :
    ({ presence.setVoicePresence config id client joined with messages } : VoicePresence).Sound
      config := by
  unfold VoicePresence.setVoicePresence
  by_cases closed : (!config.enabled || decide (client.joinStatus ≠ .joined)) = true
  · rw [if_pos closed]
    split
    · exact sound.retask _ _ (made_of_others sound.made 0 rfl).2
    · exact sound.retask _ _ sound.made
  rw [if_neg closed]
  have entered := VoiceState.enter_entered sound.formed client.room
  generalize presence.voice.enter client.room = result at entered ⊢
  obtain ⟨object, voice⟩ := result
  dsimp only at entered ⊢
  have inside := entered.formed.made _ _ entered.here
  have opened := sound.enter entered
  split
  · refine opened.retask _ _ fun task held other waits => ?_
    rcases List.mem_append.mp held with earlier | added
    · exact opened.made task earlier other waits
    · rw [List.mem_singleton.mp added] at waits
      cases waits
      exact inside
  · rename_i ready
    have made := (made_of_others opened.made 0 (announcing_object client.room object
      ((if joined then voice else voice.write object ((voice.members object).remove id)).closeEmpty
        object client.room))).2
    cases joined with
    | true =>
        have member : id ∈ voice.members object := by
          by_contra missing
          exact ready ⟨rfl, missing⟩
        have kept : voice.closeEmpty object client.room = voice := by
          rcases voice.closeEmpty_cases object client.room with ⟨empty, _⟩ | ⟨_, kept⟩
          · rw [empty] at member
            cases member
          · exact kept
        have there : id ∈ voice.participantsOf client.room := by
          unfold VoiceState.participantsOf
          rw [entered.here]
          exact member
        simp only [if_true, kept] at made ⊢
        refine (opened.retask _ messages made).write id _ ?_ fun _ _ => there
        intro roomName elsewhere
        refine ⟨?_, (opened.room_of_mem read elsewhere).2⟩
        unfold VoiceClient.wants VoiceClient.accept
        rw [here]
        rfl
    | false =>
        refine sound.remove read entered (client.accept presence.messages false) ?_ _ messages made
        unfold VoiceClient.wants VoiceClient.accept
        exact Bool.and_false _

/-- Who has joined which room says nothing about voice. -/
theorem Sound.rejoin (roomJoins : OrderedMap String (List ClientId)) :
    ({ presence with roomJoins } : VoicePresence).Sound config :=
  ⟨sound.formed, sound.made, sound.only, sound.all, sound.capped⟩

theorem Sound.leave (read : presence.clients.lookup id = some client) :
    ((presence.write id { client with connected := false }).removeFromVoice id client).Sound
      config := by
  have gone : ({ client with connected := false } : VoiceClient).wants = false := rfl
  have written (absent : id ∉ presence.voice.participantsOf client.room) :
      (presence.write id { client with connected := false }).Sound config := by
    refine sound.write id _ (fun roomName inside => ?_) fun wants => absurd wants nofun
    have here := (sound.room_of_mem read inside).2
    subst here
    exact absurd inside absent
  unfold VoicePresence.removeFromVoice
  dsimp only [VoicePresence.write] at written ⊢
  cases found : presence.voice.participants.get client.room with
  | none =>
      refine written ?_
      unfold VoiceState.participantsOf
      rw [found]
      exact List.not_mem_nil
  | some object =>
      dsimp only
      split
      · rename_i absent
        refine written ?_
        unfold VoiceState.participantsOf
        rw [found]
        exact absent
      · have made := (made_of_others sound.made 0 (announcing_object client.room object
          ((presence.voice.write object ((presence.voice.members object).remove id)).closeEmpty
            object client.room))).2
        exact sound.remove read (entered_self sound.formed found) _ gone _ presence.messages made

theorem Sound.disconnect (read : presence.clients.lookup id = some client) :
    (presence.disconnect id client).Sound config := by
  unfold VoicePresence.disconnect
  split
  · exact (sound.rejoin _).leave read
  · exact sound.leave read

/-- Whoever is kicked has left or is leaving. -/
theorem Sound.kick (id : ClientId) : (presence.kick id).Sound config := by
  unfold VoicePresence.kick
  cases read : presence.clients.lookup id with
  | none => exact sound
  | some client =>
      dsimp only
      split
      · exact sound.write id _ (fun _ inside => sound.room_of_mem read inside) fun _ => nofun
      · exact sound.disconnect read

theorem Sound.join
    (read : presence.clients.lookup id = some client) {message object : Nat}
    (made : object < presence.voice.sets.length)
    (inOrder : presence.joinInOrder config id client message object = true)
    (tasks : List VoiceTask)
    (ready : ∀ task ∈ tasks, ∀ object, task.object = some object →
      object < presence.voice.sets.length) :
    ({ presence with
        voice := presence.voice.write object ((presence.voice.members object).add id)
        tasks }.write id (client.acceptLate message) : VoicePresence).Sound config := by
  obtain ⟨room, kicked⟩ := @acceptLate_frame client message
  unfold joinInOrder at inOrder
  dsimp only at inOrder
  rw [Bool.and_eq_true, List.all_eq_true] at inOrder
  obtain ⟨fits, wanted⟩ := inOrder
  have fits : ∀ roomName, presence.voice.participants.get roomName = some object →
      roomName = client.room ∧ (client.acceptLate message).wants = true ∧
        (id ∈ presence.voice.members object ∨ config.maxParticipantsPerRoom = 0 ∨
          (presence.voice.members object).length < config.maxParticipantsPerRoom) :=
    fun roomName here => of_decide_eq_true (fits _ (OrderedMap.mem_of_get here)) rfl
  have written := VoiceState.participantsOf_write made ((presence.voice.members object).add id)
  have held : ∀ {roomName}, presence.voice.participants.get roomName = some object →
      presence.voice.participantsOf roomName = presence.voice.members object := by
    intro roomName here
    unfold VoiceState.participantsOf
    rw [here]
  refine sound.of_local id _ rfl (sound.formed.write object _) ?_ ?_ ?_ ?_ ?_
  · exact fun task waits other read => (ready task waits other read).trans_eq List.length_set.symm
  · intro roomName other different
    refine (iff_of_eq (congrArg (other ∈ ·) (written roomName))).trans ?_
    split
    · rename_i here
      rw [OrderedSet.mem_add, held here]
      exact or_iff_left different
    · rfl
  · intro roomName inside
    replace inside := (congrArg (id ∈ ·) (written roomName)).mp inside
    rw [room]
    split at inside
    · rename_i here
      obtain ⟨same, wants, _⟩ := fits roomName here
      exact ⟨wants, same.symm⟩
    · obtain ⟨wants, same⟩ := sound.room_of_mem read inside
      exact ⟨wants_acceptLate message wants, same⟩
  · intro wants alive
    refine (congrArg (id ∈ ·) (written _)).mpr ?_
    rw [kicked] at alive
    simp only [wants, alive, Bool.or_false, Bool.not_true, Bool.or_eq_true, decide_eq_true_eq] at wanted
    rw [room]
    split
    · exact OrderedSet.mem_add.mpr (.inr rfl)
    · rename_i elsewhere
      exact wanted.resolve_left elsewhere
  · intro limited roomName
    refine (congrArg List.length (written roomName)).trans_le ?_
    split
    · rename_i here
      have room := sound.capped limited roomName
      rw [held here] at room
      unfold OrderedSet.add
      split
      · exact room
      · rename_i missing
        obtain ⟨_, _, space⟩ := fits roomName here
        rw [List.length_append, List.length_singleton]
        rcases space with member | unlimited | space
        · exact absurd member missing
        · omega
        · exact space
    · exact sound.capped limited roomName

theorem Sound.decided {index message object : Nat}
    {decision : VoiceJoinDecision} {answer : RelayAnswer}
    (waiting : presence.tasks[index]? = some (.deciding id message object decision))
    (read : presence.clients.lookup id = some client)
    (inOrder : presence.orderly config (.resume index answer) = true) :
    (presence.decided index id client message object decision).Sound config := by
  have made := sound.made _ (List.mem_of_getElem? waiting) object rfl
  simp only [orderly, waiting, read, Option.all_some] at inOrder
  unfold VoicePresence.decided
  split
  · rename_i allowed
    rw [if_pos allowed] at inOrder
    have kept : (presence.voice.write object ((presence.voice.members object).add id)).closeEmpty
        object client.room =
          presence.voice.write object ((presence.voice.members object).add id) := by
      rcases VoiceState.closeEmpty_cases (presence.voice.write object
        ((presence.voice.members object).add id)) object client.room with ⟨empty, _⟩ | ⟨_, kept⟩
      · rw [VoiceState.members_write made, if_pos rfl] at empty
        have member : id ∈ (presence.voice.members object).add id :=
          OrderedSet.mem_add.mpr (.inr rfl)
        rw [empty] at member
        cases member
      · exact kept
    dsimp only
    rw [kept]
    exact sound.join read made inOrder _
      (made_of_others sound.made index (announcing_object client.room object _)).1
  · rename_i refused
    rw [if_neg refused, decide_eq_true_eq] at inOrder
    have same := VoiceState.participantsOf_closeEmpty inOrder
    have sets : (presence.voice.closeEmpty object client.room).sets = presence.voice.sets := by
      rcases presence.voice.closeEmpty_cases object client.room with ⟨_, closed⟩ | ⟨_, kept⟩
      · rw [closed]
        rfl
      · rw [kept]
    refine ⟨sound.formed.closeEmpty object _, ?_, ?_, ?_, ?_⟩
    · intro task held other waits
      rw [sets]
      exact (made_of_others sound.made index rfl).1 task held other waits
    · intro roomName member inside
      exact sound.only roomName member (same roomName ▸ inside)
    · intro member found known wants alive
      exact (same found.room).symm ▸ sound.all member found known wants alive
    · intro limited roomName
      exact (congrArg List.length (same roomName)).trans_le (sound.capped limited roomName)

theorem Sound.select {index : Nat} {roomName : String}
    {answer : RelayAnswer} (waiting : presence.tasks[index]? = some (.selecting roomName))
    (inOrder : presence.orderly config (.resume index answer) = true) :
    (presence.select index roomName answer).Sound config := by
  simp only [orderly, waiting] at inOrder
  unfold VoicePresence.select
  split
  · exact sound.retask _ _ fun task held =>
      sound.made task (List.mem_of_mem_eraseIdx held)
  · rename_i answered
    have free : VoiceTask.informing.object = none := rfl
    have going := (made_of_others sound.made index free).1
    cases selected : answer.selection with
    | none => exact sound.retask _ _ going
    | some selection =>
        have inVoice : presence.voice.participants.has roomName = true := by
          simpa [answered, selected] using inOrder
        refine ⟨⟨sound.formed.distinct, sound.formed.made, fun other relayed => ?_⟩, going,
          sound.only, sound.all, sound.capped⟩
        unfold OrderedMap.has at relayed
        rw [OrderedMap.get_set] at relayed
        split at relayed
        · rename_i same
          exact same ▸ inVoice
        · exact sound.formed.relayed other relayed

theorem Sound.resume (index : Nat) (answer : RelayAnswer)
    (inOrder : presence.orderly config (.resume index answer) = true) :
    (presence.resume index answer).Sound config := by
  unfold VoicePresence.resume
  cases waiting : presence.tasks[index]? with
  | none => exact sound
  | some task =>
      cases task with
      | deciding id message object decision =>
          dsimp only
          cases read : presence.clients.lookup id with
          | none => exact sound
          | some client => exact sound.decided waiting read inOrder
      | selecting roomName => exact sound.select waiting inOrder
      | informing =>
          exact sound.retask _ _ fun task held =>
            sound.made task (List.mem_of_mem_eraseIdx held)

end Handlers

/-! ## Who has joined which room -/

@[simp] theorem joinsOf_write (presence : VoicePresence) (id : ClientId) (client : VoiceClient)
    (roomName : String) : (presence.write id client).joinsOf roomName = presence.joinsOf roomName :=
  rfl

theorem joinsOf_writeJoins (presence : VoicePresence) (roomName other : String)
    (joins : List ClientId) : (presence.writeJoins roomName joins).joinsOf other =
      if other = roomName then joins else presence.joinsOf other := by
  unfold joinsOf writeJoins
  rw [OrderedMap.get_set]
  split <;> rfl

/-- `removeFromVoice` changes voice only. -/
theorem removeFromVoice_frame (presence : VoicePresence) (id : ClientId) (client : VoiceClient) :
    (presence.removeFromVoice id client).clients = presence.clients ∧
      (presence.removeFromVoice id client).roomJoins = presence.roomJoins := by
  unfold removeFromVoice
  split
  · exact ⟨rfl, rfl⟩
  · dsimp only
    split <;> exact ⟨rfl, rfl⟩

theorem disconnect_clients (presence : VoicePresence) (id : ClientId) (client : VoiceClient) :
    (presence.disconnect id client).clients =
      presence.clients.insert id { client with connected := false } := by
  unfold disconnect
  rw [(removeFromVoice_frame _ id client).1]
  dsimp only [write]
  split <;> rfl

theorem joinsOf_disconnect (presence : VoicePresence) (id : ClientId) (client : VoiceClient)
    (roomName : String) : (presence.disconnect id client).joinsOf roomName =
      if client.connected ∧ roomName = client.room then (presence.joinsOf roomName).erase id
      else presence.joinsOf roomName := by
  have same : (presence.disconnect id client).joinsOf roomName =
      (if client.connected then presence.writeJoins client.room ((presence.joinsOf client.room).erase id)
        else presence).joinsOf roomName := by
    unfold disconnect
    dsimp only
    rw [joinsOf, (removeFromVoice_frame _ id client).2, ← joinsOf, joinsOf_write]
  rw [same]
  by_cases here : client.connected = true
  · rw [if_pos here, joinsOf_writeJoins]
    by_cases room : roomName = client.room
    · rw [if_pos room, if_pos ⟨here, room⟩, room]
    · rw [if_neg room, if_neg fun both => room both.2]
  · rw [if_neg here, if_neg fun both => here both.1]

/-- How far `joinAuthenticatedClient` has come with a client, and for which room. -/
def seat (client : VoiceClient) : String × ClientJoinStatus × Bool :=
  (client.room, client.joinStatus, client.joining)

/-- Every client is listed once, for the room it has been let into, and only those that have
authenticated join. -/
structure Seated (presence : VoicePresence) : Prop where
  distinct : ∀ roomName, (presence.joinsOf roomName).Nodup
  known : ∀ roomName, ∀ id ∈ presence.joinsOf roomName, ∃ client,
    presence.clients.lookup id = some client ∧ seat client = (roomName, .joined, false)
  joined : ∀ id client, presence.clients.lookup id = some client → client.joining = true →
    client.joinStatus = .joined

/-- A client keeps its seat, and nobody is listed anew. -/
theorem Seated.of_local {before after : VoicePresence} (seated : before.Seated) {id : ClientId}
    {client changed : VoiceClient} (read : before.clients.lookup id = some client)
    (written : after.clients = before.clients.insert id changed) (same : seat changed = seat client)
    (fewer : ∀ roomName, (after.joinsOf roomName).Sublist (before.joinsOf roomName)) :
    after.Seated where
  distinct roomName := (seated.distinct roomName).sublist (fewer roomName)
  known roomName other listed := by
    obtain ⟨found, held, here⟩ := seated.known roomName other ((fewer roomName).subset listed)
    rw [written, Table.lookup_insert_ite]
    split
    · rename_i here
      obtain rfl : found = client := Option.some.inj (held.symm.trans (here ▸ read))
      exact ⟨changed, rfl, by rwa [same]⟩
    · exact ⟨found, held, here⟩
  joined other found held joining := by
    obtain ⟨-, status, waits⟩ : changed.room = client.room ∧ changed.joinStatus = client.joinStatus ∧
        changed.joining = client.joining := by simpa [seat] using same
    rw [written] at held
    rcases Table.lookup_insert_cases held with ⟨rfl, rfl⟩ | ⟨_, earlier⟩
    · rw [status]
      exact seated.joined other client read (waits ▸ joining)
    · exact seated.joined other found earlier joining

/-- Neither the clients nor the lists change. -/
theorem Seated.of_same {before after : VoicePresence} (seated : before.Seated)
    (clients : after.clients = before.clients) (joins : after.roomJoins = before.roomJoins) :
    after.Seated where
  distinct roomName := by
    rw [joinsOf, joins]
    exact seated.distinct roomName
  known roomName id listed := by
    rw [joinsOf, joins] at listed
    rw [clients]
    exact seated.known roomName id listed
  joined id client read := seated.joined id client (clients ▸ read)

section Seats

variable {presence : VoicePresence} {id : ClientId} {client : VoiceClient}

variable (seated : presence.Seated)

include seated

theorem Seated.setVoicePresence (read : presence.clients.lookup id = some client) (joined : Bool)
    (messages : Nat) :
    ({ presence.setVoicePresence config id client joined with messages } : VoicePresence).Seated := by
  unfold VoicePresence.setVoicePresence
  split
  · split <;> exact seated.of_same rfl rfl
  · dsimp only
    split
    · exact seated.of_same rfl rfl
    · exact seated.of_local read rfl rfl fun _ => List.Sublist.refl _

theorem Seated.resume (index : Nat) (answer : RelayAnswer) : (presence.resume index answer).Seated := by
  unfold VoicePresence.resume
  split
  · exact seated
  · rename_i id message object decision _
    split
    · rename_i client read
      unfold VoicePresence.decided
      split
      · have same : seat (client.acceptLate message) = seat client := by
          unfold VoiceClient.acceptLate
          split
          · rfl
          · split <;> rfl
        exact seated.of_local read rfl same fun _ => List.Sublist.refl _
      · exact seated.of_same rfl rfl
    · exact seated
  · unfold VoicePresence.select
    split <;> exact seated.of_same rfl rfl
  · exact seated.of_same rfl rfl

theorem Seated.disconnect (read : presence.clients.lookup id = some client) :
    (presence.disconnect id client).Seated := by
  refine seated.of_local read (disconnect_clients presence id client) rfl fun roomName => ?_
  rw [joinsOf_disconnect]
  split
  · exact List.erase_sublist
  · exact List.Sublist.refl _

theorem Seated.kick (id : ClientId) : (presence.kick id).Seated := by
  unfold VoicePresence.kick
  split
  · exact seated
  · rename_i client read
    split
    · exact seated.of_local read rfl rfl fun _ => List.Sublist.refl _
    · exact seated.disconnect read

/-- Whoever is let in is listed nowhere yet. -/
theorem Seated.letIn (read : presence.clients.lookup id = some client) (roomName : String) :
    (presence.letIn roomName id client).Seated := by
  unfold VoicePresence.letIn
  split
  · rename_i joining
    have new : ∀ other, id ∉ presence.joinsOf other := by
      intro other listed
      obtain ⟨found, held, here⟩ := seated.known other id listed
      obtain rfl := Option.some.inj (held.symm.trans read)
      exact absurd (joining.symm.trans (congrArg (·.2.2) here)) nofun
    have status := seated.joined id client read joining
    refine ⟨fun other => ?_, fun other member listed => ?_, fun member found held waits => ?_⟩
    · rw [joinsOf_writeJoins, joinsOf_write]
      split
      · refine List.nodup_append.mpr ⟨seated.distinct roomName, List.nodup_singleton id, ?_⟩
        rintro earlier listed _ last rfl
        exact new roomName (List.mem_singleton.mp last ▸ listed)
      · exact seated.distinct other
    · rw [joinsOf_writeJoins, joinsOf_write] at listed
      change ∃ found, (presence.clients.insert id _).lookup member = some found ∧ _
      rw [Table.lookup_insert_ite]
      by_cases same : member = id
      · rw [if_pos same]
        refine ⟨_, rfl, ?_⟩
        split at listed
        · rename_i here
          rw [here, seat, status]
        · exact absurd (same ▸ listed) (new other)
      · rw [if_neg same]
        split at listed
        · rename_i here
          rcases List.mem_append.mp listed with earlier | last
          · exact here ▸ seated.known roomName member earlier
          · exact absurd (List.mem_singleton.mp last) same
        · exact seated.known other member listed
    · rcases Table.lookup_insert_cases held with ⟨rfl, rfl⟩ | ⟨_, earlier⟩
      · cases waits
      · exact seated.joined member found earlier waits
  · exact seated

end Seats

/-! ## The loop of an unload -/

/-- The client has left, or its socket is being closed. -/
def Gone (id : ClientId) (presence : VoicePresence) : Prop :=
  ∀ client, presence.clients.lookup id = some client → client.connected = false ∨ client.kicked = true

/-- Whoever is kicked is gone, and stays in the room it was in. -/
theorem lookup_kick {presence : VoicePresence} {id other : ClientId} {client : VoiceClient}
    (read : (presence.kick id).clients.lookup other = some client) :
    presence.clients.lookup other = some client ∧ other ≠ id ∨
      other = id ∧ (client.connected = false ∨ client.kicked = true) ∧
        (!client.direct && client.connected) = false := by
  unfold kick at read
  split at read
  · rename_i missing
    refine Or.inl ⟨read, ?_⟩
    rintro rfl
    exact absurd (missing.symm.trans read) nofun
  · rename_i found _
    split at read
    · rename_i direct
      rcases Table.lookup_insert_cases read with ⟨rfl, rfl⟩ | ⟨different, earlier⟩
      · exact Or.inr ⟨rfl, Or.inr rfl, by simp [direct]⟩
      · exact Or.inl ⟨earlier, different⟩
    · rw [disconnect_clients] at read
      rcases Table.lookup_insert_cases read with ⟨rfl, rfl⟩ | ⟨different, earlier⟩
      · exact Or.inr ⟨rfl, Or.inl rfl, Bool.and_false _⟩
      · exact Or.inl ⟨earlier, different⟩

theorem Gone.kick {presence : VoicePresence} {other : ClientId} (gone : presence.Gone other)
    (id : ClientId) : (presence.kick id).Gone other := by
  intro client read
  rcases lookup_kick read with ⟨earlier, _⟩ | ⟨_, left, _⟩
  · exact gone client earlier
  · exact left

theorem gone_kick (presence : VoicePresence) (id : ClientId) : (presence.kick id).Gone id := by
  intro client read
  rcases lookup_kick read with ⟨_, different⟩ | ⟨_, left, _⟩
  · exact absurd rfl different
  · exact left

/-- A kick takes its client out of the room's list if it leaves at once. -/
theorem joinsOf_kick {presence : VoicePresence} (seated : presence.Seated) {roomName : String}
    {id : ClientId} (listed : id ∈ presence.joinsOf roomName) :
    (presence.kick id).joinsOf roomName =
      if presence.leavesAtOnce id then (presence.joinsOf roomName).erase id
      else presence.joinsOf roomName := by
  obtain ⟨client, read, seat⟩ := seated.known roomName id listed
  obtain rfl : client.room = roomName := congrArg Prod.fst seat
  unfold kick leavesAtOnce
  rw [read, Option.any_some]
  dsimp only
  cases direct : client.direct with
  | true => rfl
  | false =>
      rw [if_neg Bool.false_ne_true, joinsOf_disconnect]
      simp

/-- The loop of an unload so far: who leaves at once has left the list, and nobody else has come to be
in voice. -/
structure Unloading (config : VoiceConfig) (roomName : String) (start presence : VoicePresence) :
    Prop where
  sound : presence.Sound config
  seated : presence.Seated
  leaves : ∀ id ∈ presence.joinsOf roomName, presence.leavesAtOnce id = start.leavesAtOnce id
  earlier : ∀ id client, presence.clients.lookup id = some client → client.wants = true →
    client.kicked = false → start.clients.lookup id = some client

theorem Unloading.kick {roomName : String} {start presence : VoicePresence}
    (unloading : Unloading config roomName start presence) {id : ClientId}
    {front rest : List ClientId} (list : presence.joinsOf roomName = front ++ id :: rest) :
    Unloading config roomName start (presence.kick id) ∧ (presence.kick id).joinsOf roomName =
      front ++ if start.leavesAtOnce id then rest else id :: rest := by
  have listed : id ∈ presence.joinsOf roomName := by simp [list]
  have distinct := unloading.seated.distinct roomName
  have agrees := unloading.leaves id listed
  have joins := joinsOf_kick unloading.seated listed
  rw [agrees] at joins
  have erased : (presence.joinsOf roomName).erase id = front ++ rest := by
    rw [list] at distinct ⊢
    have fresh : id ∉ front := fun before =>
      (List.nodup_append.mp distinct).2.2 id before id List.mem_cons_self rfl
    rw [List.erase_append_right _ fresh, List.erase_cons_head]
  have kept : ∀ other ∈ (presence.kick id).joinsOf roomName, other ∈ presence.joinsOf roomName ∧
      (other = id → start.leavesAtOnce id = false) := by
    intro other later
    rw [joins] at later
    split at later
    · refine ⟨List.mem_of_mem_erase later, ?_⟩
      rintro rfl
      exact absurd later (distinct.not_mem_erase)
    · rename_i stays
      exact ⟨later, fun _ => Bool.not_eq_true _ ▸ stays⟩
  refine ⟨⟨unloading.sound.kick id, unloading.seated.kick id, fun other later => ?_, ?_⟩, ?_⟩
  · obtain ⟨before, stays⟩ := kept other later
    obtain ⟨client, read, _⟩ := (unloading.seated.kick id).known roomName other later
    rcases lookup_kick read with ⟨same, _⟩ | ⟨rfl, _, stayed⟩
    · rw [← unloading.leaves other before]
      unfold leavesAtOnce
      rw [read, same]
    · rw [stays rfl]
      unfold leavesAtOnce
      rw [read]
      exact stayed
  · intro other client read wants alive
    rcases lookup_kick read with ⟨same, _⟩ | ⟨_, left | left, _⟩
    · exact unloading.earlier other client same wants alive
    · exact absurd (left.symm.trans (Bool.and_eq_true_iff.mp wants).1) nofun
    · exact absurd (left.symm.trans alive) nofun
  · rw [joins, erased, list]
    split <;> rfl

/-- Whom the loop reaches is gone after it. -/
theorem unloading_forOf {presence : VoicePresence} (sound : presence.Sound config)
    (seated : presence.Seated) (roomName : String) :
    Unloading config roomName presence
        (forOf (joinsOf roomName) VoicePresence.kick (presence.joinsOf roomName).length 0 presence) ∧
      ∀ id ∈ reached presence.leavesAtOnce false (presence.joinsOf roomName),
        Gone id (forOf (joinsOf roomName) VoicePresence.kick (presence.joinsOf roomName).length 0
          presence) := by
  have start : Unloading config roomName presence presence :=
    ⟨sound, seated, fun _ _ => rfl, fun _ _ read _ _ => read⟩
  obtain ⟨unloading, _, gone⟩ := forOf_reached (joinsOf roomName) VoicePresence.kick
    presence.leavesAtOnce (Unloading config roomName presence) Gone
    (fun id state _ _ unloading list =>
      ⟨(unloading.kick list).1, gone_kick state id, (unloading.kick list).2⟩)
    (fun id _ _ _ gone => gone.kick id) false le_rfl start (List.nil_append _).symm
  exact ⟨unloading, gone⟩

theorem Seated.onRoomUnload {presence : VoicePresence} (seated : presence.Seated)
    (roomName : String) : (presence.onRoomUnload roomName).Seated := by
  have looped : Seated (forOf (joinsOf roomName) VoicePresence.kick
      (presence.joinsOf roomName).length 0 presence) :=
    forOf_keeps _ _ (fun id _ kept => kept.kick id) _ _ seated
  unfold VoicePresence.onRoomUnload
  generalize forOf (joinsOf roomName) VoicePresence.kick _ 0 presence = last at looped
  have closed : ∀ other, VoicePresence.joinsOf other { last with
      roomJoins := last.roomJoins.delete roomName, voice := last.voice.close roomName } =
        if other = roomName then [] else last.joinsOf other := by
    intro other
    unfold joinsOf
    rw [OrderedMap.get_delete]
    split <;> rfl
  refine ⟨fun other => ?_, fun other id listed => ?_, looped.joined⟩
  · rw [closed]
    split
    · exact List.nodup_nil
    · exact looped.distinct other
  · rw [closed] at listed
    split at listed
    · cases listed
    · exact looped.known other id listed

/-- Nobody is left in voice in an unloaded room: those who were have left or are being closed. -/
theorem Sound.onRoomUnload {presence : VoicePresence} (sound : presence.Sound config)
    (seated : presence.Seated) {roomName : String}
    (inOrder : presence.orderly config (.unload roomName) = true) :
    (presence.onRoomUnload roomName).Sound config := by
  obtain ⟨looped, gone⟩ := unloading_forOf sound seated roomName
  unfold VoicePresence.onRoomUnload
  generalize forOf (joinsOf roomName) VoicePresence.kick _ 0 presence = last at looped gone
  have closed := last.voice.participantsOf_close roomName
  refine ⟨looped.sound.formed.close roomName, looped.sound.made, ?_, ?_, ?_⟩
  · intro other id inside
    replace inside := (congrArg (id ∈ ·) (closed other)).mp inside
    split at inside
    · cases inside
    · exact looped.sound.only other id inside
  · intro id client read wants alive
    refine (congrArg (id ∈ ·) (closed client.room)).mpr ?_
    split
    · rename_i here
      have before := looped.earlier id client read wants alive
      have fine := List.all_eq_true.mp inOrder ⟨id, client⟩ (AList.mem_lookup_iff.mp before)
      simp only [wants, here, alive, Bool.not_true, Bool.false_or, ne_eq, not_true_eq_false,
        decide_false, decide_eq_true_eq] at fine
      rcases gone id fine client read with left | left
      · exact absurd (left.symm.trans (Bool.and_eq_true_iff.mp wants).1) nofun
      · exact absurd (left.symm.trans alive) nofun
    · exact looped.sound.all id client read wants alive
  · intro limited other
    refine (congrArg List.length (closed other)).trans_le ?_
    split
    · exact Nat.zero_le _
    · exact looped.sound.capped limited other

/-- Every event keeps the participants of every room right. -/
theorem Sound.next {presence : VoicePresence} (sound : presence.Sound config)
    (seated : presence.Seated) (label : VoiceLabel)
    (inOrder : presence.orderly config label = true) : (presence.next config label).Sound config := by
  have onClient : ∀ (id : ClientId) (handler : VoiceClient → VoicePresence → VoicePresence),
      (∀ client, presence.clients.lookup id = some client →
        (handler client presence).Sound config) →
      (presence.onClient id handler).Sound config := by
    intro id handler each
    unfold VoicePresence.onClient
    cases read : presence.clients.lookup id with
    | none => exact sound
    | some client => exact each client read
  cases label with
  | connect id roomName direct =>
      dsimp only [VoicePresence.next]
      split
      · exact sound
      · rename_i fresh
        refine sound.write id _ (fun other inside => ?_) nofun
        have known := sound.only other id inside
        unfold inVoice at known
        rw [AList.lookup_eq_none.mpr fresh] at known
        cases known
  | authenticate id =>
      refine onClient id _ fun client read => ?_
      split
      · exact sound.write id _ (fun _ inside => sound.room_of_mem read inside)
          (sound.all id client read)
      · exact sound
  | letIn id roomName =>
      refine onClient id _ fun client read => ?_
      simp only [orderly, read, Option.all_some, Bool.or_eq_true, Bool.not_eq_true',
        decide_eq_true_eq] at inOrder
      unfold VoicePresence.letIn
      split
      swap
      · exact sound
      refine Sound.rejoin (sound.write id _ (fun other inside => ?_) fun wants alive => ?_) _
      · obtain ⟨wants, room⟩ := sound.room_of_mem read inside
        refine ⟨wants, ?_⟩
        rcases inOrder with idle | same
        · exact absurd (idle.symm.trans wants) nofun
        · exact same.symm.trans room
      · rcases inOrder with idle | same
        · exact absurd (idle.symm.trans wants) nofun
        · exact same ▸ sound.all id client read wants alive
  | message id joined =>
      refine onClient id _ fun client read => ?_
      dsimp only
      split
      · rename_i here
        exact sound.setVoicePresence read here joined _
      · exact sound
  | resume index answer => exact sound.resume index answer inOrder
  | disconnect id => exact onClient id _ fun client read => sound.disconnect read
  | unload roomName => exact sound.onRoomUnload seated inOrder

/-- Every event keeps the lists of who has joined right. -/
theorem Seated.next {presence : VoicePresence} (seated : presence.Seated) (config : VoiceConfig)
    (label : VoiceLabel) : (presence.next config label).Seated := by
  have onClient : ∀ (id : ClientId) (handler : VoiceClient → VoicePresence → VoicePresence),
      (∀ client, presence.clients.lookup id = some client → (handler client presence).Seated) →
      (presence.onClient id handler).Seated := by
    intro id handler each
    unfold VoicePresence.onClient
    cases read : presence.clients.lookup id with
    | none => exact seated
    | some client => exact each client read
  cases label with
  | connect id roomName direct =>
      dsimp only [VoicePresence.next]
      split
      · exact seated
      · rename_i fresh
        refine ⟨seated.distinct, fun other member listed => ?_, fun member found held waits => ?_⟩
        · obtain ⟨client, read, here⟩ := seated.known other member listed
          refine ⟨client, ?_, here⟩
          have different : member ≠ id := by
            rintro rfl
            exact absurd (read.symm.trans (AList.lookup_eq_none.mpr fresh)) nofun
          exact (AList.lookup_insert_ne different).trans read
        · rcases Table.lookup_insert_cases held with ⟨rfl, rfl⟩ | ⟨_, earlier⟩
          · cases waits
          · exact seated.joined member found earlier waits
  | authenticate id =>
      refine onClient id _ fun client read => ?_
      split
      · rename_i waiting
        refine ⟨seated.distinct, fun other member listed => ?_, fun member found held waits => ?_⟩
        · obtain ⟨found, held, here⟩ := seated.known other member listed
          refine ⟨found, ?_, here⟩
          have different : member ≠ id := by
            rintro rfl
            obtain rfl := Option.some.inj (held.symm.trans read)
            exact absurd (waiting.symm.trans (congrArg (·.2.1) here)) nofun
          exact (AList.lookup_insert_ne different).trans held
        · rcases Table.lookup_insert_cases held with ⟨rfl, rfl⟩ | ⟨_, earlier⟩
          · rfl
          · exact seated.joined member found earlier waits
      · exact seated
  | letIn id roomName => exact onClient id _ fun client read => seated.letIn read roomName
  | message id joined =>
      refine onClient id _ fun client read => ?_
      dsimp only
      split
      · exact seated.setVoicePresence read joined _
      · exact seated
  | resume index answer => exact seated.resume index answer
  | disconnect id => exact onClient id _ fun client read => seated.disconnect read
  | unload roomName => exact seated.onRoomUnload roomName

theorem sound_of_reachable {presence : VoicePresence}
    (reachable : ((voiceSystem config).restrict fun presence label =>
      presence.orderly config label = true).Reachable presence) : presence.Sound config := by
  suffices invariant : TransitionSystem.Inductive ((voiceSystem config).restrict
      fun presence label => presence.orderly config label = true)
      (fun presence => presence.Sound config ∧ presence.Seated) from
    (invariant.of_reachable reachable).1
  constructor
  · rintro _ rfl
    have nobody : ∀ id client, (({} : VoicePresence).clients.lookup id) = some client → False :=
      fun _ _ read => absurd (read.symm.trans (AList.lookup_empty _)) nofun
    exact ⟨⟨⟨nofun, nofun, nofun⟩, nofun, nofun, fun id client read => (nobody id client read).elim,
      fun _ _ => Nat.zero_le _⟩, fun _ => List.nodup_nil, nofun,
      fun id client read => (nobody id client read).elim⟩
  · rintro before label _ ⟨sound, seated⟩ ⟨inOrder, rfl⟩
    exact ⟨sound.next seated label inOrder, seated.next config label⟩

/-- In every run in which the joins that resume still fit, the participants of a room are capped
and a relay is that of a room in voice, always; and once nothing is pending the participants of a
room are its connected clients whose last accepted voice message was a join. -/
theorem exact_and_capped {presence : VoicePresence}
    (reachable : ((voiceSystem config).restrict fun presence label =>
      presence.orderly config label = true).Reachable presence) :
    (0 < config.maxParticipantsPerRoom → ∀ roomName,
      (presence.voice.participantsOf roomName).length ≤ config.maxParticipantsPerRoom) ∧
    (∀ roomName, presence.voice.relays.has roomName = true →
      presence.voice.participants.has roomName = true) ∧
    (presence.quiet = true → ∀ roomName id,
      id ∈ presence.voice.participantsOf roomName ↔ presence.inVoice id roomName = true) := by
  have sound := sound_of_reachable reachable
  refine ⟨sound.capped, sound.formed.relayed, fun quiet roomName id => ⟨sound.only roomName id, ?_⟩⟩
  intro wanted
  obtain ⟨client, read, wanted⟩ := Option.any_eq_true _ _ |>.mp wanted
  rw [Bool.and_eq_true, decide_eq_true_eq] at wanted
  obtain ⟨wants, rfl⟩ := wanted
  refine sound.all id client read wants ?_
  have settled := List.all_eq_true.mp (Bool.and_eq_true_iff.mp quiet).2 ⟨id, client⟩
    (AList.mem_lookup_iff.mp read)
  have connected : client.connected = true := (Bool.and_eq_true_iff.mp wants).1
  simpa [connected] using settled

end VoicePresence

namespace Sample

/-- Two viewers join voice one after the other, and the first one leaves it. -/
def speakInTurn : List VoiceLabel :=
  [.connect "first" "cinema" true, .authenticate "first", .letIn "first" "cinema",
    .connect "second" "cinema" true, .authenticate "second", .letIn "second" "cinema",
    .message "first" true, .resume 0 {}, .resume 0 { selection := some "relay" }, .resume 0 {},
    .message "second" true, .resume 0 {}, .message "first" false, .resume 0 {}, .resume 0 {}]

/-- Two viewers ask to join before either is let in. -/
def speakAtOnce : List VoiceLabel :=
  [.connect "first" "cinema" true, .authenticate "first", .letIn "first" "cinema",
    .connect "second" "cinema" true, .authenticate "second", .letIn "second" "cinema",
    .message "first" true, .message "second" true, .resume 0 {}, .resume 1 {}, .resume 0 {},
    .resume 1 {}, .resume 0 {}, .resume 0 {}]

/-- Two viewers behind a balancer are in voice when their room is unloaded. -/
def speakAndUnload : List VoiceLabel :=
  [.connect "first" "cinema" false, .authenticate "first", .letIn "first" "cinema",
    .connect "second" "cinema" false, .authenticate "second", .letIn "second" "cinema",
    .message "first" true, .resume 0 {}, .resume 0 { selection := some "relay" }, .resume 0 {},
    .message "second" true, .resume 0 {}, .resume 0 {}, .unload "cinema", .resume 0 {}]

end Sample

namespace VoicePresence

/-- The second viewer is in voice, with the relay of the room. -/
theorem exact_and_capped_speakInTurn :
    (TransitionSystem.run (next {}) Sample.speakInTurn {}).voice.participantsOf "cinema" =
      ["second"] ∧
    (TransitionSystem.run (next {}) Sample.speakInTurn {}).voice.relays = [("cinema", "relay")] ∧
    ∀ id, id ∈ (TransitionSystem.run (next {}) Sample.speakInTurn {}).voice.participantsOf "cinema" ↔
      (TransitionSystem.run (next {}) Sample.speakInTurn {}).inVoice id "cinema" = true := by
  have run : ((voiceSystem {}).restrict fun presence label =>
      presence.orderly {} label = true).Steps {}
      (TransitionSystem.run (next {}) Sample.speakInTurn {}) := by
    have step : ∀ presence label, presence.orderly {} label = true →
        ((voiceSystem {}).restrict fun presence label => presence.orderly {} label = true).Step
          presence label (next {} label presence) :=
      fun _ _ inOrder => ⟨inOrder, rfl⟩
    exact TransitionSystem.steps_run step Sample.speakInTurn {} (by decide +kernel)
  exact ⟨by decide +kernel, by decide +kernel,
    (exact_and_capped ⟨{}, rfl, run⟩).2.2 (by decide +kernel) "cinema"⟩

/-- Two viewers are in voice in a room for one. -/
theorem exact_and_capped_fails :
    ¬ ∀ config presence, (voiceSystem config).Reachable presence → presence.quiet = true →
      (∀ roomName id,
        id ∈ presence.voice.participantsOf roomName ↔ presence.inVoice id roomName = true) ∧
      (0 < config.maxParticipantsPerRoom → ∀ roomName,
        (presence.voice.participantsOf roomName).length ≤ config.maxParticipantsPerRoom) ∧
      (∀ roomName, presence.voice.relays.has roomName = true →
        presence.voice.participants.has roomName = true) := by
  intro holds
  have reachable : (voiceSystem { maxParticipantsPerRoom := 1 }).Reachable
      (TransitionSystem.run (next { maxParticipantsPerRoom := 1 }) Sample.speakAtOnce {}) := by
    have step : ∀ presence label, True →
        (voiceSystem { maxParticipantsPerRoom := 1 }).Step presence label
          (next { maxParticipantsPerRoom := 1 } label presence) :=
      fun _ _ _ => rfl
    exact ⟨{}, rfl, TransitionSystem.steps_run step Sample.speakAtOnce {} (by decide +kernel)⟩
  have capped := (holds _ _ reachable (by decide +kernel)).2.1 Nat.one_pos "cinema"
  have both : (TransitionSystem.run (next { maxParticipantsPerRoom := 1 }) Sample.speakAtOnce
      {}).voice.participantsOf "cinema" = ["first", "second"] := by
    decide +kernel
  rw [both] at capped
  exact absurd capped (by decide)

-- the loop of the unload passes over the second of two clients of a balancer
example :
    (TransitionSystem.run (next {}) Sample.speakAndUnload {}).quiet = true ∧
      (TransitionSystem.run (next {}) Sample.speakAndUnload {}).inVoice "second" "cinema" = true ∧
      (TransitionSystem.run (next {}) Sample.speakAndUnload {}).voice.participantsOf "cinema" = [] := by
  decide +kernel

end VoicePresence

end OpenTogetherTube
