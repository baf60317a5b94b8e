import Mathlib.Algebra.Order.Ring.Defs
import Mathlib.Algebra.Order.Group.MinMax
import Mathlib.Data.List.Count
import Mathlib.Tactic.Linarith

/-!
# Token buckets

A bucket holds tokens up to a capacity and is refilled at a rate. A draw takes a token if there is
one. What a bucket holds and what will flow in until some time is never exceeded by the draws that
succeed until then, so in no window of time do more succeed than the capacity and what flows in
during the window.
-/

namespace OpenTogetherTube.Lib

universe u

/-- The tokens of a bucket, as of the last draw. -/
structure Bucket (K : Type u) where
  tokens : K
  updatedAt : K
deriving DecidableEq

namespace Bucket

variable {K : Type u} [CommRing K] [LinearOrder K]

section Draws

variable (capacity rate : K)

/-- What a bucket holds when it is looked at. -/
def filled (now : K) (bucket : Bucket K) : K :=
  min capacity (bucket.tokens + max 0 (now - bucket.updatedAt) * rate)

/-- Whether there is a token, and the bucket without it. -/
def take (now : K) (bucket : Bucket K) : Bool × Bucket K :=
  let tokens := bucket.filled capacity rate now
  if tokens < 1 then (false, ⟨tokens, now⟩) else (true, ⟨tokens - 1, now⟩)

/-- Events in the life of a bucket, which may still have to be made, each with its time and whether
it counts. Those that count drew a token. -/
inductive Draws : Option (Bucket K) → List (K × Bool) → Prop
  | done (bucket : Option (Bucket K)) : Draws bucket []
  | idle {bucket : Option (Bucket K)} {now : K} {rest : List (K × Bool)}
      (later : Draws bucket rest) : Draws bucket ((now, false) :: rest)
  | made {now : K} {counts : Bool} {rest : List (K × Bool)}
      (full : Draws (some ⟨capacity, now⟩) ((now, counts) :: rest)) :
      Draws none ((now, counts) :: rest)
  | draw {bucket : Bucket K} {now : K} {counts : Bool} {rest : List (K × Bool)}
      (drew : counts = true → (bucket.take capacity rate now).1 = true)
      (later : Draws (some (bucket.take capacity rate now).2) rest) :
      Draws (some bucket) ((now, counts) :: rest)

/-- The tokens are between nothing and the capacity. -/
structure Sound (bucket : Bucket K) : Prop where
  nonneg : 0 ≤ bucket.tokens
  le_capacity : bucket.tokens ≤ capacity

end Draws

/-- The events that count, from one time to another. -/
def countedIn (start finish : K) (events : List (K × Bool)) : Nat :=
  events.countP fun event => event.2 && decide (start ≤ event.1) && decide (event.1 ≤ finish)

@[simp] theorem updatedAt_take (capacity rate now : K) (bucket : Bucket K) :
    (bucket.take capacity rate now).2.updatedAt = now := by
  unfold Bucket.take
  dsimp only
  split <;> rfl

omit [CommRing K] in
theorem countedIn_cons (start finish : K) (event : K × Bool) (rest : List (K × Bool)) :
    countedIn start finish (event :: rest) = countedIn start finish rest +
      if event.2 = true ∧ start ≤ event.1 ∧ event.1 ≤ finish then 1 else 0 := by
  unfold countedIn
  rw [List.countP_cons]
  simp [and_assoc]

omit [CommRing K] in
/-- After a window nothing counts. -/
theorem countedIn_of_after {start finish : K} {events : List (K × Bool)}
    (after : ∀ event ∈ events, finish < event.1) : countedIn start finish events = 0 := by
  refine List.countP_eq_zero.mpr fun event member => ?_
  simp [not_le.mpr (after event member)]

variable {capacity rate now : K} {bucket : Bucket K}

theorem Sound.full (positive : 0 ≤ capacity) (now : K) : Sound capacity ⟨capacity, now⟩ :=
  ⟨positive, le_rfl⟩

variable [IsStrictOrderedRing K]

theorem Sound.take (sound : bucket.Sound capacity) (positive : 0 ≤ capacity) (flows : 0 ≤ rate)
    (now : K) : (bucket.take capacity rate now).2.Sound capacity := by
  have inflow : 0 ≤ max 0 (now - bucket.updatedAt) * rate := mul_nonneg (le_max_left _ _) flows
  have held : 0 ≤ bucket.filled capacity rate now :=
    le_min positive (add_nonneg sound.nonneg inflow)
  have room : bucket.filled capacity rate now ≤ capacity := min_le_left _ _
  unfold Bucket.take
  dsimp only
  split
  · exact ⟨held, room⟩
  · exact ⟨by dsimp only; linarith, by dsimp only; linarith⟩

/-- A draw spends a token, if it succeeds, of what the bucket held and what has flown in. -/
theorem take_spends (capacity rate : K) (advances : bucket.updatedAt ≤ now) :
    (bucket.take capacity rate now).2.tokens +
        (if (bucket.take capacity rate now).1 = true then 1 else 0) ≤
      bucket.tokens + (now - bucket.updatedAt) * rate := by
  have filled : bucket.filled capacity rate now ≤
      bucket.tokens + (now - bucket.updatedAt) * rate := by
    have least : bucket.filled capacity rate now ≤
        bucket.tokens + max 0 (now - bucket.updatedAt) * rate := min_le_right _ _
    rwa [max_eq_right (sub_nonneg.mpr advances)] at least
  unfold Bucket.take
  dsimp only
  split <;> simpa using filled

omit [IsStrictOrderedRing K] in
/-- A draw leaves no more than the capacity, with the token it took. -/
theorem take_le_capacity (capacity rate now : K) (bucket : Bucket K) :
    (bucket.take capacity rate now).2.tokens +
      (if (bucket.take capacity rate now).1 = true then 1 else 0) ≤ capacity := by
  have room : bucket.filled capacity rate now ≤ capacity := min_le_left _ _
  unfold Bucket.take
  dsimp only
  split <;> simpa using room

/-- Events in the order of their times. -/
def InOrder (events : List (K × Bool)) : Prop :=
  events.Pairwise fun first second => first.1 ≤ second.1

omit [IsStrictOrderedRing K] in
/-- A bucket that still has to be made is full when it is. -/
theorem Draws.of_full {held : Option (Bucket K)} {counts : Bool} {rest : List (K × Bool)}
    (draws : Draws capacity rate (some (held.getD ⟨capacity, now⟩)) ((now, counts) :: rest)) :
    Draws capacity rate held ((now, counts) :: rest) := by
  cases held with
  | none => exact .made draws
  | some bucket => exact draws

section Windows

variable {start finish : K} {held : Option (Bucket K)} {events : List (K × Bool)}

theorem counts_le_drew {counts : Bool} (inWindow : Prop) [Decidable inWindow]
    (drew : counts = true → (bucket.take capacity rate now).1 = true) :
    (((if counts = true ∧ inWindow then 1 else 0 : Nat)) : K) ≤
      if (bucket.take capacity rate now).1 = true then 1 else 0 := by
  by_cases counted : counts = true ∧ inWindow
  · rw [if_pos counted, if_pos (drew counted.1), Nat.cast_one]
  · rw [if_neg counted, Nat.cast_zero]
    split
    · exact zero_le_one
    · exact le_rfl

/-- Until some time no more draws succeed than the bucket holds and what flows in until then. -/
theorem Draws.countedIn_le_held (draws : Draws capacity rate held events) (start : K)
    (positive : 0 ≤ capacity) (flows : 0 ≤ rate) (ordered : InOrder events) {bucket : Bucket K} (is : held = some bucket)
    (sound : bucket.Sound capacity) (since : ∀ event ∈ events, bucket.updatedAt ≤ event.1)
    (until_ : bucket.updatedAt ≤ finish) :
    (countedIn start finish events : K) ≤
      bucket.tokens + (finish - bucket.updatedAt) * rate := by
  have some_ : 0 ≤ bucket.tokens + (finish - bucket.updatedAt) * rate :=
    add_nonneg sound.nonneg (mul_nonneg (sub_nonneg.mpr until_) flows)
  induction draws generalizing bucket with
  | done held => simpa [countedIn] using some_
  | idle later ih =>
      obtain ⟨-, ordered⟩ := List.pairwise_cons.mp ordered
      rw [countedIn_cons, if_neg (by simp), add_zero]
      exact ih ordered is sound
        (fun event member => since event (List.mem_cons_of_mem _ member)) until_ some_
  | made full ih => cases is
  | @draw drawn now counts rest drew later ih =>
      obtain rfl := Option.some.inj is
      obtain ⟨further, orderedRest⟩ := List.pairwise_cons.mp ordered
      have advances : drawn.updatedAt ≤ now := since _ List.mem_cons_self
      by_cases inside : now ≤ finish
      · have drawnSound := sound.take positive flows now
        have others := ih orderedRest rfl drawnSound
          (fun event member => (updatedAt_take ..).trans_le (further event member))
          ((updatedAt_take ..).trans_le inside)
          (add_nonneg drawnSound.nonneg
            (mul_nonneg (by rw [updatedAt_take]; exact sub_nonneg.mpr inside) flows))
        have spent := take_spends capacity rate advances
        rw [updatedAt_take] at others
        rw [countedIn_cons, Nat.cast_add]
        have here := counts_le_drew (start ≤ now ∧ now ≤ finish) drew
        linarith
      · rw [countedIn_of_after, Nat.cast_zero]
        · exact some_
        · intro event member
          rcases List.mem_cons.mp member with rfl | after
          · exact not_le.mp inside
          · exact (not_le.mp inside).trans_le (further event after)

/-- In a window of time no more draws succeed than the capacity and what flows in during it. -/
theorem Draws.countedIn_le (draws : Draws capacity rate held events) (positive : 0 ≤ capacity)
    (flows : 0 ≤ rate) (ordered : InOrder events) (sound : ∀ bucket ∈ held, bucket.Sound capacity)
    (since : ∀ bucket ∈ held, ∀ event ∈ events, bucket.updatedAt ≤ event.1)
    (forth : start ≤ finish) :
    (countedIn start finish events : K) ≤ capacity + (finish - start) * rate := by
  have some_ : 0 ≤ capacity + (finish - start) * rate :=
    add_nonneg positive (mul_nonneg (sub_nonneg.mpr forth) flows)
  induction draws with
  | done held => simpa [countedIn] using some_
  | idle later ih =>
      obtain ⟨-, orderedRest⟩ := List.pairwise_cons.mp ordered
      rw [countedIn_cons, if_neg (by simp), add_zero]
      exact ih orderedRest sound
        fun bucket is event member => since bucket is event (List.mem_cons_of_mem _ member)
  | @made now counts rest full ih =>
      refine ih ordered ?_ ?_
      · rintro _ ⟨⟩
        exact Sound.full positive now
      · rintro _ ⟨⟩ event member
        rcases List.mem_cons.mp member with rfl | after
        · exact le_rfl
        · exact (List.pairwise_cons.mp ordered).1 event after
  | @draw drawn now counts rest drew later ih =>
      obtain ⟨further, orderedRest⟩ := List.pairwise_cons.mp ordered
      have drawnSound := (sound drawn rfl).take positive flows now
      have since : ∀ event ∈ rest, (drawn.take capacity rate now).2.updatedAt ≤ event.1 :=
        fun event member => (updatedAt_take ..).trans_le (further event member)
      rw [countedIn_cons, Nat.cast_add]
      by_cases inside : start ≤ now ∧ now ≤ finish
      · have others := later.countedIn_le_held start positive flows orderedRest rfl
          drawnSound since ((updatedAt_take ..).trans_le inside.2)
        have spent := take_le_capacity capacity rate now drawn
        have here := counts_le_drew (start ≤ now ∧ now ≤ finish) drew
        have shorter : (finish - now) * rate ≤ (finish - start) * rate :=
          mul_le_mul_of_nonneg_right (sub_le_sub_left inside.1 finish) flows
        rw [updatedAt_take] at others
        linarith
      · rw [if_neg fun counted => inside counted.2, Nat.cast_zero, add_zero]
        refine ih orderedRest ?_ ?_
        · rintro _ ⟨⟩
          exact drawnSound
        · rintro _ ⟨⟩
          exact since

end Windows

end Bucket

end OpenTogetherTube.Lib
