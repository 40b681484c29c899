/-
The last layer that sets a field decides.

Layers are written one over the other, and each sets some fields and leaves the
others alone.  What is left of a field is what the last layer that sets it set it
to (`field_foldl`), wherever that layer stands (`lastSet_eq_some_iff`).  Clauses
of a query and options of a call are both such layers.
-/
import Mathlib.Data.List.Basic

namespace TableGateway

variable {σ α β : Type}

/-- What the last of several layers that set a field sets it to. -/
def lastSet (field : α → Option β) (layers : List α) : Option β :=
  (layers.filterMap field).getLast?

theorem lastSet_cons (field : α → Option β) (layer : α) (layers : List α) :
    lastSet field (layer :: layers) = (lastSet field layers).or (field layer) := by
  unfold lastSet
  cases h : field layer with
  | none => rw [List.filterMap_cons_none h, Option.or_none]
  | some b => rw [List.filterMap_cons_some h, List.getLast?_cons, Option.or_some]

theorem lastSet_append (field : α → Option β) (layers more : List α) :
    lastSet field (layers ++ more) = (lastSet field more).or (lastSet field layers) := by
  rw [lastSet, List.filterMap_append, List.getLast?_append]
  rfl

theorem lastSet_eq_none_iff {field : α → Option β} {layers : List α} :
    lastSet field layers = none ↔ ∀ layer ∈ layers, field layer = none := by
  rw [lastSet, List.getLast?_eq_none_iff, List.filterMap_eq_nil_iff]

/-- The layer that decides comes after all others that set the field. -/
theorem lastSet_eq_some_iff {field : α → Option β} {layers : List α} {b : β} :
    lastSet field layers = some b ↔ ∃ earlier layer later, layers = earlier ++ layer :: later ∧
      field layer = some b ∧ ∀ l ∈ later, field l = none := by
  induction layers with
  | nil => simp [lastSet]
  | cons first rest ih =>
      rw [lastSet_cons, Option.or_eq_some_iff, ih, lastSet_eq_none_iff]
      constructor
      · rintro (⟨earlier, layer, later, rfl, h⟩ | ⟨hrest, h⟩)
        · exact ⟨first :: earlier, layer, later, rfl, h⟩
        · exact ⟨[], first, rest, rfl, h, hrest⟩
      · rintro ⟨earlier, layer, later, heq, h, hlater⟩
        cases earlier with
        | nil =>
            cases heq
            exact Or.inr ⟨hlater, h⟩
        | cons first' earlier =>
            cases heq
            exact Or.inl ⟨earlier, layer, later, rfl, h, hlater⟩

/-- A field that every layer is written over holds in the end what the last layer
set it to. -/
theorem field_foldl {step : σ → α → σ} {field : σ → Option β} {set : α → Option β}
    (hstep : ∀ s a, field (step s a) = (set a).or (field s)) (layers : List α) (s : σ) :
    field (layers.foldl step s) = (lastSet set layers).or (field s) := by
  induction layers generalizing s with
  | nil => rfl
  | cons layer rest ih =>
      rw [List.foldl_cons, ih, hstep, lastSet_cons, Option.or_assoc]

end TableGateway
