import Mathlib.Order.Nat

/-!
# Where a list is cut by a property

In a list that a property holds of up to some position and not from there on, that position
is the cut. It is the only one, it moves with the property, and what lies between two cuts is
what the one property holds of and the other does not.
-/

namespace OpenTogetherTube.Lib

variable {α : Type*} {holds first second : α → Prop} {items : List α} {position early late : Nat}

/-- The items before the position have the property, those from it on do not. -/
structure Cut (holds : α → Prop) (items : List α) (position : Nat) : Prop where
  within : position ≤ items.length
  before : ∀ {index item}, items[index]? = some item → index < position → holds item
  after : ∀ {index item}, items[index]? = some item → position ≤ index → ¬ holds item

/-- What has the property is followed by nothing without it, read from the back. -/
def Falling (holds : α → Prop) (items : List α) : Prop :=
  items.Pairwise fun earlier later => holds later → holds earlier

theorem Falling.earlier (falling : Falling holds items) {low high : Nat} {lower upper : α}
    (order : low ≤ high) (atLow : items[low]? = some lower) (atHigh : items[high]? = some upper)
    (holds_ : holds upper) : holds lower := by
  rcases order.eq_or_lt with rfl | less
  · rw [atLow] at atHigh
    cases atHigh
    exact holds_
  · obtain ⟨inLow, rfl⟩ := List.getElem?_eq_some_iff.mp atLow
    obtain ⟨inHigh, rfl⟩ := List.getElem?_eq_some_iff.mp atHigh
    exact List.pairwise_iff_getElem.mp falling low high inLow inHigh less holds_

/-- A stronger property cuts no later. -/
theorem Cut.le_of_imp (cut : Cut first items early) (other : Cut second items late)
    (stronger : ∀ item ∈ items, first item → second item) : early ≤ late := by
  by_contra less
  have inside : late < items.length := lt_of_lt_of_le (not_le.mp less) cut.within
  have at_ : items[late]? = some items[late] := List.getElem?_eq_getElem inside
  have holds_ := stronger _ (List.getElem_mem inside) (cut.before at_ (not_le.mp less))
  exact other.after at_ le_rfl holds_

theorem Cut.eq_of_iff (cut : Cut first items early) (other : Cut second items late)
    (agree : ∀ item ∈ items, first item ↔ second item) : early = late :=
  le_antisymm (cut.le_of_imp other fun item listed => (agree item listed).mp)
    (other.le_of_imp cut fun item listed => (agree item listed).mpr)

/-- What lies between two cuts has the second property and not the first. -/
theorem Cut.between_iff (cut : Cut first items early) (other : Cut second items late) {index : Nat}
    {item : α} (at_ : items[index]? = some item) :
    early ≤ index ∧ index < late ↔ ¬ first item ∧ second item := by
  constructor
  · rintro ⟨low, high⟩
    exact ⟨cut.after at_ low, other.before at_ high⟩
  · rintro ⟨not_, holds_⟩
    refine ⟨not_lt.mp fun less => not_ (cut.before at_ less), ?_⟩
    exact not_le.mp fun less => other.after at_ less holds_

/-- Where everything before has the property and the next item does not, there is the cut. -/
theorem Falling.cut (falling : Falling holds items) (within : position ≤ items.length)
    (before : ∀ {index item}, items[index]? = some item → index < position → holds item)
    (stops : ∀ item, items[position]? = some item → ¬ holds item) : Cut holds items position where
  within := within
  before := before
  after := by
    intro index item at_ from_ holds_
    have inside : index < items.length := (List.getElem?_eq_some_iff.mp at_).1
    have present := List.getElem?_eq_getElem (lt_of_le_of_lt from_ inside)
    exact stops _ present (falling.earlier from_ present at_ holds_)

end OpenTogetherTube.Lib
