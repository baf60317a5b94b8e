import Mathlib.Order.CompletePartialOrder
import Mathlib.Order.PartialSups
import Mathlib.Data.Set.Lattice

/-!
# Values that are inherited upwards

Over an order where whatever a place has all higher places have too, a write gives one place a
value and then passes it on. The result of a write is the least monotone assignment above the
overwritten one. Writes to different places commute as long as none takes anything away.
-/

namespace OpenTogetherTube.Lib

universe u v

section Writes

variable {Place : Type u} {Value : Type v} [DecidableEq Place] {values : Place → Value}

/-- Writes made one after the other, the last one to a place counting. -/
def writeAll (values : Place → Value) (writes : List (Place × Value)) : Place → Value :=
  writes.foldl (fun values write => Function.update values write.1 write.2) values

theorem writeAll_of_not_mem {writes : List (Place × Value)} {other : Place}
    (unwritten : other ∉ writes.map Prod.fst) : writeAll values writes other = values other := by
  induction writes generalizing values with
  | nil => rfl
  | cons write rest ih =>
      rw [List.map_cons, List.mem_cons, not_or] at unwritten
      refine (ih unwritten.2).trans ?_
      exact Function.update_of_ne unwritten.1 _ _

theorem writeAll_of_mem {writes : List (Place × Value)} (distinct : (writes.map Prod.fst).Nodup)
    {write : Place × Value} (member : write ∈ writes) :
    writeAll values writes write.1 = write.2 := by
  induction writes generalizing values with
  | nil => cases member
  | cons first rest ih =>
      rw [List.map_cons, List.nodup_cons] at distinct
      rcases List.mem_cons.mp member with rfl | later
      · refine (writeAll_of_not_mem distinct.1).trans ?_
        exact Function.update_self _ _ _
      · exact ih distinct.2 later

end Writes

section Order

variable {Place : Type u} [PartialOrder Place]

/-- One place comes before all others, which follow upwards. -/
def Precedes (first : Option Place) (earlier later : Place) : Prop :=
  some later ≠ first ∧ (some earlier = first ∨ earlier < later)

theorem Precedes.ne {first : Option Place} {earlier later : Place}
    (precedes : Precedes first earlier later) : earlier ≠ later := by
  rintro rfl
  exact precedes.2.elim precedes.1 (lt_irrefl _)

end Order

variable {Place : Type u} {Value : Type v} [PartialOrder Place] [LocallyFiniteOrderBot Place]

/-- What a place inherits is what some place at or below it has. -/
theorem mem_partialSups {Member : Type v} {values : Place → Set Member} {place : Place}
    {member : Member} :
    member ∈ partialSups values place ↔ ∃ lower ≤ place, member ∈ values lower := by
  rw [← not_iff_not, partialSups_iff_forall (fun value => member ∉ value) not_or]
  simp

/-- Values that add to what is below them what a place is given are the ones it inherits. -/
theorem eq_partialSups [WellFoundedLT Place] {Member : Type v} {values given : Place → Set Member}
    (monotone : Monotone values) (has : given ≤ values)
    (adds : ∀ place, ∀ member ∈ values place,
      member ∈ given place ∨ ∃ lower < place, member ∈ values lower) :
    values = partialSups given := by
  refine le_antisymm (fun place => ?_) fun place =>
    partialSups_le _ _ _ fun lower below => (has lower).trans (monotone below)
  induction place using WellFoundedLT.induction with
  | ind place ih =>
      intro member holds
      rcases adds place member holds with own | ⟨lower, below, inherited⟩
      · exact le_partialSups given place own
      · exact (partialSups given).monotone below.le (ih lower below inherited)

variable [DecidableEq Place] [SemilatticeSup Value]

/-- One place is given a value, and every place takes what is below it. -/
def raise (values : Place → Value) (place : Place) (value : Value) : Place →o Value :=
  partialSups (Function.update values place value)

variable {values bound : Place → Value} {place : Place} {value : Value}

/-- Places that are not above the one written keep what they have. -/
theorem raise_of_not_le (monotone : Monotone values) {other : Place} (apart : ¬ place ≤ other) :
    raise values place value other = values other := by
  refine le_antisymm (partialSups_le _ _ _ fun lower below => ?_) ?_
  · rw [Function.update_of_ne fun same : lower = place => apart (same ▸ below)]
    exact monotone below
  · refine le_trans (le_of_eq ?_) (le_partialSups _ other)
    rw [Function.update_of_ne fun same => apart (le_of_eq same.symm)]

/-- Places above the one written add its value to what they have. -/
theorem raise_of_lt (monotone : Monotone values) {other : Place} (above : place < other) :
    raise values place value other = values other ⊔ value := by
  refine le_antisymm (partialSups_le _ _ _ fun lower below => ?_) (sup_le ?_ ?_)
  · by_cases written : lower = place
    · rw [written, Function.update_self]
      exact le_sup_right
    · rw [Function.update_of_ne written]
      exact le_sup_of_le_left (monotone below)
  · refine le_trans (le_of_eq ?_) (le_partialSups _ other)
    rw [Function.update_of_ne above.ne']
  · refine le_trans (le_of_eq ?_) (le_partialSups_of_le _ above.le)
    rw [Function.update_self]

/-- The place written has its value at least. -/
theorem le_raise (values : Place → Value) (place : Place) (value : Value) :
    value ≤ raise values place value place :=
  le_trans (le_of_eq (Function.update_self place value values).symm) (le_partialSups _ place)

/-- The place written has its value and what is below it. -/
theorem mem_raise_self {Member : Type v} {values : Place → Set Member} {place : Place}
    {value : Set Member} {member : Member} :
    member ∈ raise values place value place ↔
      member ∈ value ∨ ∃ lower < place, member ∈ values lower := by
  unfold raise
  rw [mem_partialSups]
  constructor
  · rintro ⟨lower, below, holds⟩
    by_cases written : lower = place
    · rw [written, Function.update_self] at holds
      exact .inl holds
    · rw [Function.update_of_ne written] at holds
      exact .inr ⟨lower, lt_of_le_of_ne below written, holds⟩
  · rintro (own | ⟨lower, below, holds⟩)
    · exact ⟨place, le_rfl, by rwa [Function.update_self]⟩
    · exact ⟨lower, below.le, by rwa [Function.update_of_ne below.ne]⟩

/-- A write within bounds that are themselves passed on stays within them. -/
theorem raise_le (monotone : Monotone bound) (within : values ≤ bound) (small : value ≤ bound place) :
    ⇑(raise values place value) ≤ bound := fun other =>
  partialSups_le _ _ _ fun lower below => by
    by_cases written : lower = place
    · rw [written, Function.update_self]
      exact small.trans (monotone (written ▸ below))
    · rw [Function.update_of_ne written]
      exact (within lower).trans (monotone below)

/-- A write that takes nothing away may be made before the values are passed on. -/
theorem raise_partialSups (grows : values place ≤ value) :
    raise (partialSups values) place value = raise values place value := by
  refine le_antisymm (fun other => partialSups_le _ _ _ fun lower below => ?_)
    (partialSups_mono fun lower => ?_)
  · by_cases written : lower = place
    · rw [written, Function.update_self]
      exact (le_raise values place value).trans ((raise values place value).monotone (written ▸ below))
    · rw [Function.update_of_ne written]
      refine partialSups_le _ _ _ fun source reaches => ?_
      refine le_trans ?_ (le_partialSups_of_le _ (reaches.trans below))
      by_cases source_written : source = place
      · rw [source_written, Function.update_self]
        exact grows
      · rw [Function.update_of_ne source_written]
  · by_cases written : lower = place
    · rw [written, Function.update_self, Function.update_self]
    · rw [Function.update_of_ne written, Function.update_of_ne written]
      exact le_partialSups values lower

/-- Writes made one after the other, each of them passed on before the next. -/
def raiseAll (values : Place → Value) (writes : List (Place × Value)) : Place → Value :=
  writes.foldl (fun values write => raise values write.1 write.2) values

/-- However much is written, a place has what is below it. -/
theorem raiseAll_monotone (monotone : Monotone values) (writes : List (Place × Value)) :
    Monotone (raiseAll values writes) := by
  induction writes generalizing values with
  | nil => exact monotone
  | cons write rest ih =>
      exact ih (raise values write.1 write.2).monotone

theorem raiseAll_append (values : Place → Value) (first second : List (Place × Value)) :
    raiseAll values (first ++ second) = raiseAll (raiseAll values first) second :=
  List.foldl_append

/-- A place that is not written keeps its value as long as what is written below it is part of
it. -/
theorem raiseAll_of_not_mem (monotone : Monotone values) {writes : List (Place × Value)}
    {other : Place} (unwritten : other ∉ writes.map Prod.fst)
    (small : ∀ write ∈ writes, write.1 ≤ other → write.2 ≤ values other) :
    raiseAll values writes other = values other := by
  induction writes generalizing values with
  | nil => rfl
  | cons write rest ih =>
      rw [List.map_cons, List.mem_cons, not_or] at unwritten
      have kept : raise values write.1 write.2 other = values other := by
        by_cases below : write.1 ≤ other
        · rw [raise_of_lt monotone (lt_of_le_of_ne below (Ne.symm unwritten.1)),
            sup_eq_left.mpr (small write List.mem_cons_self below)]
        · exact raise_of_not_le monotone below
      refine (ih (raise values write.1 write.2).monotone unwritten.2
        fun later member below => ?_).trans kept
      rw [kept]
      exact small later (List.mem_cons_of_mem write member) below

/-- Of writes to different places, the one to a place decides what the place has, as long as what is
written below it afterwards is part of it. -/
theorem raiseAll_of_split {before after : List (Place × Value)}
    (last : place ∉ after.map Prod.fst)
    (small : ∀ write ∈ after, write.1 ≤ place → write.2 ≤ value) :
    raiseAll values (before ++ (place, value) :: after) place =
      raise (raiseAll values before) place value place := by
  rw [raiseAll_append]
  change raiseAll (raise (raiseAll values before) place value) after place = _
  refine raiseAll_of_not_mem (raise _ place value).monotone last fun write member below => ?_
  exact (small write member below).trans (le_raise _ place value)

/-- Writes to different places that take nothing away may all be made before anything is passed
on, so their order does not matter. -/
theorem raiseAll_partialSups {writes : List (Place × Value)}
    (distinct : (writes.map Prod.fst).Nodup) (grow : ∀ write ∈ writes, values write.1 ≤ write.2) :
    raiseAll (partialSups values) writes = partialSups (writeAll values writes) := by
  induction writes generalizing values with
  | nil => rfl
  | cons write rest ih =>
      rw [List.map_cons, List.nodup_cons] at distinct
      change raiseAll (raise (partialSups values) write.1 write.2) rest = _
      rw [raise_partialSups (grow write List.mem_cons_self)]
      refine ih distinct.2 fun later member => ?_
      have other : later.1 ≠ write.1 := fun same =>
        distinct.1 (same ▸ List.mem_map_of_mem member)
      rw [Function.update_of_ne other]
      exact grow later (List.mem_cons_of_mem write member)

section Ordered

variable {Member : Type v} {values target : Place → Set Member} {first : Option Place}
  {writes : List (Place × Set Member)}

/-- What a written place has in the end: what is asked for, and what the places below it have by
then. They have what they had at first if the place comes first, and else what they have in the
end. -/
theorem mem_raiseAll_written (monotone : Monotone values) (inherited : Monotone target)
    (order : (writes.map Prod.fst).Pairwise (Precedes first))
    (asked : ∀ write ∈ writes, write.2 = target write.1) {place : Place}
    (written : place ∈ writes.map Prod.fst) {member : Member} :
    member ∈ raiseAll values writes place ↔ member ∈ target place ∨
      ∃ lower < place, member ∈ if first = some place then values lower
        else raiseAll values writes lower := by
  obtain ⟨write, listed, rfl⟩ := List.mem_map.mp written
  obtain ⟨before, after, rfl⟩ := List.append_of_mem listed
  obtain ⟨place, value⟩ := write
  have given : value = target place := asked _ listed
  subst given
  dsimp only
  rw [List.map_append, List.map_cons, List.pairwise_append, List.pairwise_cons] at order
  obtain ⟨_, ⟨later, _⟩, earlier⟩ := order
  have last : place ∉ after.map Prod.fst := fun again => (later place again).ne rfl
  have small : ∀ write ∈ after, write.1 ≤ place → write.2 ≤ target place := by
    intro write there below
    rw [asked write (List.mem_append_right before (List.mem_cons_of_mem _ there))]
    exact inherited below
  rw [raiseAll_of_split last small, mem_raise_self]
  refine or_congr_right (exists_congr fun lower => and_congr_right fun below => ?_)
  by_cases leads : first = some place
  · have nothing : before = [] := by
      rw [List.eq_nil_iff_forall_not_mem]
      intro write there
      exact (earlier write.1 (List.mem_map_of_mem there) place List.mem_cons_self).1 leads.symm
    rw [if_pos leads, nothing]
    rfl
  · rw [if_neg leads, raiseAll_append]
    have above : ∀ write ∈ (place, target place) :: after, ¬ write.1 ≤ lower := by
      intro write there reaches
      rcases List.mem_cons.mp there with rfl | there
      · exact absurd (lt_of_le_of_lt reaches below) (lt_irrefl _)
      · rcases (later write.1 (List.mem_map_of_mem there)).2 with front | follows
        · exact leads front.symm
        · exact absurd ((follows.trans_le reaches).trans below) (lt_irrefl _)
    have untouched : raiseAll (raiseAll values before) ((place, target place) :: after) lower =
        raiseAll values before lower := by
      refine raiseAll_of_not_mem (raiseAll_monotone monotone before) (fun written => ?_)
        fun write there reaches => absurd reaches (above write there)
      obtain ⟨write, there, same⟩ := List.mem_map.mp written
      exact above write there same.le
    rw [untouched]

/-- Places that are written in order, one of them first, and else have what is asked for already: in
the end every place has what is asked for up to it, and above the place that came first there is
also what was below that place. -/
theorem raiseAll_ordered [WellFoundedLT Place] (monotone : Monotone values)
    (inherited : Monotone target) (order : (writes.map Prod.fst).Pairwise (Precedes first))
    (asked : ∀ write ∈ writes, write.2 = target write.1)
    (kept : ∀ place ∉ writes.map Prod.fst, values place = target place) :
    raiseAll values writes = partialSups fun place =>
      target place ∪ {member | first = some place ∧ ∃ lower < place, member ∈ values lower} := by
  have unwritten : ∀ place ∉ writes.map Prod.fst, raiseAll values writes place = target place := by
    intro place absent
    refine (raiseAll_of_not_mem monotone absent fun write there below => ?_).trans (kept place absent)
    rw [kept place absent, asked write there]
    exact inherited below
  refine eq_partialSups (raiseAll_monotone monotone writes) (fun place member holds => ?_)
    fun place member holds => ?_
  · by_cases written : place ∈ writes.map Prod.fst
    · rw [mem_raiseAll_written monotone inherited order asked written]
      refine holds.imp_right fun ⟨leads, lower, below, had⟩ => ⟨lower, below, ?_⟩
      rwa [if_pos leads]
    · rw [unwritten place written]
      rcases holds with own | ⟨_, lower, below, had⟩
      · exact own
      · rw [← kept place written]
        exact monotone below.le had
  · by_cases written : place ∈ writes.map Prod.fst
    · rw [mem_raiseAll_written monotone inherited order asked written] at holds
      rcases holds with own | ⟨lower, below, had⟩
      · exact .inl (.inl own)
      · by_cases leads : first = some place
        · rw [if_pos leads] at had
          exact .inl (.inr ⟨leads, lower, below, had⟩)
        · rw [if_neg leads] at had
          exact .inr ⟨lower, below, had⟩
    · rw [unwritten place written] at holds
      exact .inl (.inl holds)

end Ordered

end OpenTogetherTube.Lib
