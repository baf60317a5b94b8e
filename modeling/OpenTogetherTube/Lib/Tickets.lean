import Mathlib.Data.List.Nodup

/-!
# Tickets that are used once

Tickets are issued, and lie open. A worker picks one up, uses it and withdraws it, or gives it
back unused. Where no worker picks up a ticket that another one holds, none is used twice.
-/

namespace OpenTogetherTube.Lib

universe u

/-- The open tickets, the used ones, and those that workers hold, used or not. -/
structure Tickets (Ticket : Type u) where
  opened : List Ticket
  used : List Ticket
  held : List (Ticket × Bool)

namespace Tickets

variable {Ticket : Type u} {issued : Ticket → Prop} {opened used : List Ticket} {ticket : Ticket}
  {held : List (Ticket × Bool)}

/-- No ticket has been used twice, and whoever picks up one that nobody holds can use it. -/
structure Single (issued : Ticket → Prop) (tickets : Tickets Ticket) : Prop where
  once : tickets.used.Nodup
  opened_issued : ∀ ticket ∈ tickets.opened, issued ticket
  used_issued : ∀ ticket ∈ tickets.used, issued ticket
  held_issued : ∀ ticket ∈ tickets.held.map Prod.fst, issued ticket
  alone : (tickets.held.map Prod.fst).Nodup
  kept : ∀ ticket ∈ tickets.opened, ticket ∈ tickets.used → (ticket, true) ∈ tickets.held
  unused : ∀ ticket, (ticket, false) ∈ tickets.held → ticket ∉ tickets.used

namespace Single

/-- Nobody has picked up a ticket yet. -/
theorem start (known : ∀ ticket ∈ opened, issued ticket) : Single issued ⟨opened, [], []⟩ where
  once := List.nodup_nil
  opened_issued := known
  used_issued := nofun
  held_issued := nofun
  alone := List.nodup_nil
  kept := nofun
  unused := nofun

/-- The order of the workers does not matter. -/
theorem perm {other : List (Ticket × Bool)} (single : Single issued ⟨opened, used, held⟩)
    (same : other.Perm held) : Single issued ⟨opened, used, other⟩ where
  once := single.once
  opened_issued := single.opened_issued
  used_issued := single.used_issued
  held_issued ticket holds := single.held_issued ticket ((same.map Prod.fst).mem_iff.mp holds)
  alone := (same.map Prod.fst).nodup_iff.mpr single.alone
  kept ticket there before := same.mem_iff.mpr (single.kept ticket there before)
  unused ticket holds := single.unused ticket (same.mem_iff.mp holds)

/-- Tickets go out of date. -/
theorem expire {fewer : List Ticket} (single : Single issued ⟨opened, used, held⟩)
    (subset : ∀ ticket ∈ fewer, ticket ∈ opened) : Single issued ⟨fewer, used, held⟩ where
  once := single.once
  opened_issued ticket there := single.opened_issued ticket (subset ticket there)
  used_issued := single.used_issued
  held_issued := single.held_issued
  alone := single.alone
  kept ticket there := single.kept ticket (subset ticket there)
  unused := single.unused

theorem issue {later : Ticket → Prop} (single : Single issued ⟨opened, used, held⟩)
    (grows : ∀ ticket, issued ticket → later ticket) (fresh : ¬ issued ticket)
    (known : later ticket) : Single later ⟨opened ++ [ticket], used, held⟩ where
  once := single.once
  opened_issued other there := by
    rcases List.mem_append.mp there with old | new
    · exact grows other (single.opened_issued other old)
    · rw [List.mem_singleton.mp new]
      exact known
  used_issued other before := grows other (single.used_issued other before)
  held_issued other holds := grows other (single.held_issued other holds)
  alone := single.alone
  kept other there before := by
    rcases List.mem_append.mp there with old | new
    · exact single.kept other old before
    · rw [List.mem_singleton.mp new] at before
      exact absurd (single.used_issued ticket before) fresh
  unused := single.unused

/-- A worker picks up an open ticket that nobody holds. -/
theorem pick (single : Single issued ⟨opened, used, held⟩) (there : ticket ∈ opened)
    (free : ticket ∉ held.map Prod.fst) : Single issued ⟨opened, used, (ticket, false) :: held⟩ where
  once := single.once
  opened_issued := single.opened_issued
  used_issued := single.used_issued
  held_issued := List.forall_mem_cons.mpr ⟨single.opened_issued ticket there, single.held_issued⟩
  alone := List.nodup_cons.mpr ⟨free, single.alone⟩
  kept other open' before := List.mem_cons_of_mem _ (single.kept other open' before)
  unused other holds := by
    rcases List.mem_cons.mp holds with same | holds
    · cases same
      exact fun before => free (List.mem_map_of_mem (single.kept ticket there before))
    · exact single.unused other holds

/-- A worker gives a ticket back unused. -/
theorem giveBack (single : Single issued ⟨opened, used, (ticket, false) :: held⟩) :
    Single issued ⟨opened, used, held⟩ where
  once := single.once
  opened_issued := single.opened_issued
  used_issued := single.used_issued
  held_issued other holds := single.held_issued other (List.mem_cons_of_mem _ holds)
  alone := (List.nodup_cons.mp single.alone).2
  kept other there before := by
    rcases List.mem_cons.mp (single.kept other there before) with same | holds
    · cases same
    · exact holds
  unused other holds := single.unused other (List.mem_cons_of_mem _ holds)

theorem use (single : Single issued ⟨opened, used, (ticket, false) :: held⟩) :
    Single issued ⟨opened, ticket :: used, (ticket, true) :: held⟩ where
  once := List.nodup_cons.mpr ⟨single.unused ticket List.mem_cons_self, single.once⟩
  opened_issued := single.opened_issued
  used_issued := List.forall_mem_cons.mpr
    ⟨single.held_issued ticket List.mem_cons_self, single.used_issued⟩
  held_issued := single.held_issued
  alone := single.alone
  kept other there before := by
    rcases List.mem_cons.mp before with rfl | before
    · exact List.mem_cons_self
    · exact List.mem_cons_of_mem _ (single.giveBack.kept other there before)
  unused other holds := by
    rcases List.mem_cons.mp holds with same | elsewhere
    · cases same
    · rw [List.mem_cons, not_or]
      refine ⟨?_, single.giveBack.unused other elsewhere⟩
      rintro rfl
      exact (List.nodup_cons.mp single.alone).1 (List.mem_map_of_mem elsewhere)

theorem withdraw {status : Bool} {fewer : List Ticket}
    (single : Single issued ⟨opened, used, (ticket, status) :: held⟩)
    (gone : ∀ other ∈ fewer, other ∈ opened ∧ other ≠ ticket) :
    Single issued ⟨fewer, used, held⟩ where
  once := single.once
  opened_issued other there := single.opened_issued other (gone other there).1
  used_issued := single.used_issued
  held_issued other holds := single.held_issued other (List.mem_cons_of_mem _ holds)
  alone := (List.nodup_cons.mp single.alone).2
  kept other there before := by
    rcases List.mem_cons.mp (single.kept other (gone other there).1 before) with same | holds
    · cases same
      exact absurd rfl (gone _ there).2
    · exact holds
  unused other holds := single.unused other (List.mem_cons_of_mem _ holds)

end Single

end Tickets

end OpenTogetherTube.Lib
