/-
Maps from strings, kept in key order.

A `SortedMap` is a list of pairs whose keys ascend in code point order, which
is also the byte order of their UTF-8 forms.  Key order is the order in which
every map of this library is walked and written, so it is part of the type:
two maps with the same entries are equal.
-/
namespace TableGateway

namespace Entries

variable {α : Type}

/-- Puts a pair in its place in key order; a pair with the same key is replaced. -/
def insert (k : String) (v : α) : List (String × α) → List (String × α)
  | [] => [(k, v)]
  | (k', v') :: rest =>
      if k < k' then (k, v) :: (k', v') :: rest
      else if k' < k then (k', v') :: insert k v rest
      else (k, v) :: rest

/-- All pairs in key order; of equal keys the last pair stays. -/
def sort (pairs : List (String × α)) : List (String × α) :=
  pairs.foldl (fun acc p => insert p.1 p.2 acc) []

/-- Keys ascend strictly. -/
def Ascending (pairs : List (String × α)) : Prop :=
  pairs.Pairwise fun a b => a.1 < b.1

/-- A key of the list with one pair put in is the new key or an old one. -/
theorem mem_insert {k : String} {v : α} {p : String × α} :
    ∀ {pairs : List (String × α)}, p ∈ insert k v pairs → p = (k, v) ∨ p ∈ pairs
  | [], h => Or.inl (List.mem_singleton.mp h)
  | (k', v') :: rest, h => by
      unfold insert at h
      split at h
      · exact List.mem_cons.mp h
      · split at h
        · rcases List.mem_cons.mp h with rfl | h
          · exact Or.inr List.mem_cons_self
          · exact (mem_insert h).imp_right (List.mem_cons_of_mem _)
        · exact (List.mem_cons.mp h).imp_right (List.mem_cons_of_mem _)

theorem ascending_insert (k : String) (v : α) :
    ∀ {pairs : List (String × α)}, Ascending pairs → Ascending (insert k v pairs)
  | [], _ => List.pairwise_singleton _ _
  | (k', v') :: rest, h => by
      have ⟨hd, tl⟩ := List.pairwise_cons.mp h
      unfold insert
      split
      case isTrue hlt =>
        refine List.pairwise_cons.mpr ⟨fun p hp => ?_, h⟩
        rcases List.mem_cons.mp hp with rfl | hp
        · exact hlt
        · exact String.lt_trans hlt (hd p hp)
      case isFalse hge =>
        split
        case isTrue hgt =>
          refine List.pairwise_cons.mpr ⟨fun p hp => ?_, ascending_insert k v tl⟩
          rcases mem_insert hp with rfl | hp
          · exact hgt
          · exact hd p hp
        case isFalse hle =>
          have hk : k = k' := String.le_antisymm (String.not_lt.mp hle) (String.not_lt.mp hge)
          subst hk
          exact List.pairwise_cons.mpr ⟨hd, tl⟩

/-- A key above all others comes last. -/
theorem insert_eq_append {k : String} {v : α} :
    ∀ {pairs : List (String × α)}, (∀ p ∈ pairs, p.1 < k) → insert k v pairs = pairs ++ [(k, v)]
  | [], _ => rfl
  | (k', v') :: rest, h => by
      have hlt : k' < k := h _ List.mem_cons_self
      have hrest : ∀ p ∈ rest, p.1 < k := fun p hp => h p (List.mem_cons_of_mem _ hp)
      have hge : ¬k < k' := fun hgt => String.lt_irrefl k (String.lt_trans hgt hlt)
      rw [insert, if_neg hge, if_pos hlt, insert_eq_append hrest, List.cons_append]

/-- Leaving pairs out keeps the rest in order. -/
theorem ascending_filter (keep : String × α → Bool) {pairs : List (String × α)}
    (h : Ascending pairs) : Ascending (pairs.filter keep) :=
  List.Pairwise.filter keep h

/-- Changing what keys are bound to leaves the keys alone. -/
theorem ascending_map {β : Type} (f : String → α → β) {pairs : List (String × α)}
    (h : Ascending pairs) : Ascending (pairs.map fun p => (p.1, f p.1 p.2)) := by
  unfold Ascending at *
  rw [List.pairwise_map]
  exact h

/-- The first pair decides, if it has the key. -/
theorem lookup_cons (k x : String) (v : α) (rest : List (String × α)) :
    ((k, v) :: rest).lookup x = if x = k then some v else rest.lookup x := by
  by_cases h : x = k
  · simp [h]
  · have hb : (x == k) = false := by simp [h]
    rw [List.lookup_cons, hb, if_neg h]

/-- Putting a pair in binds its key and no other. -/
theorem lookup_insert (k x : String) (v : α) (pairs : List (String × α)) :
    (insert k v pairs).lookup x = if x = k then some v else pairs.lookup x := by
  induction pairs with
  | nil => exact lookup_cons k x v []
  | cons p rest ih =>
    obtain ⟨k', v'⟩ := p
    unfold insert
    split
    case isTrue => exact lookup_cons k x v _
    case isFalse hge =>
      split
      case isTrue hgt =>
        have hne : k' ≠ k := fun e => String.lt_irrefl k (e ▸ hgt)
        rw [lookup_cons, ih, lookup_cons]
        by_cases hx : x = k'
        · simp [hx, hne]
        · simp [hx]
      case isFalse hle =>
        have hk : k = k' := String.le_antisymm (String.not_lt.mp hle) (String.not_lt.mp hge)
        subst hk
        rw [lookup_cons, lookup_cons]
        by_cases hx : x = k <;> simp [hx]

/-- Changing what keys are bound to changes what is found under them. -/
theorem lookup_map {β : Type} (f : String → α → β) (x : String) (pairs : List (String × α)) :
    (pairs.map fun p => (p.1, f p.1 p.2)).lookup x = (pairs.lookup x).map (f x) := by
  induction pairs with
  | nil => rfl
  | cons p rest ih =>
      obtain ⟨k, v⟩ := p
      rw [List.map_cons, lookup_cons, lookup_cons, ih]
      split
      case isTrue hx => rw [hx]; rfl
      case isFalse => rfl

/-- Leaving a key out unbinds it and no other. -/
theorem lookup_filter_ne (k x : String) (pairs : List (String × α)) :
    (pairs.filter fun p => p.1 ≠ k).lookup x = if x = k then none else pairs.lookup x := by
  induction pairs with
  | nil => simp
  | cons p rest ih =>
    obtain ⟨k', v'⟩ := p
    by_cases hk : k' = k
    · rw [List.filter_cons_of_neg (by simpa using hk), ih, lookup_cons]
      by_cases hx : x = k <;> simp [hx, hk]
    · rw [List.filter_cons_of_pos (by simpa using hk), lookup_cons, lookup_cons, ih]
      by_cases hx : x = k'
      · simp [hx, hk]
      · simp [hx]

/-- Where no key occurs twice, each pair is what its key is bound to. -/
theorem lookup_of_mem {κ β : Type} [DecidableEq κ] {pairs : List (κ × β)} {k : κ} {v : β}
    (h : (pairs.map Prod.fst).Nodup) (hmem : (k, v) ∈ pairs) : pairs.lookup k = some v := by
  induction pairs with
  | nil => exact absurd hmem List.not_mem_nil
  | cons p rest ih =>
      obtain ⟨k', v'⟩ := p
      obtain ⟨hhead, hrest⟩ := List.nodup_cons.mp h
      rcases List.mem_cons.mp hmem with heq | hmem
      · cases heq
        exact List.lookup_cons_self
      · have hkey : k ∈ rest.map Prod.fst := List.mem_map.mpr ⟨_, hmem, rfl⟩
        have hne : k ≠ k' := fun heq => hhead (heq ▸ hkey)
        rw [List.lookup_cons, beq_false_of_ne hne]
        exact ih hrest hmem

theorem lookup_eq_some_iff_mem {κ β : Type} [DecidableEq κ] {pairs : List (κ × β)} {k : κ} {v : β}
    (h : (pairs.map Prod.fst).Nodup) : pairs.lookup k = some v ↔ (k, v) ∈ pairs := by
  constructor
  · intro hlookup
    obtain ⟨before, after, rfl, -⟩ := List.lookup_eq_some_iff.mp hlookup
    exact List.mem_append_right _ List.mem_cons_self
  · exact lookup_of_mem h

/-- Below all keys nothing is bound. -/
theorem lookup_eq_none_of_lt {x : String} {pairs : List (String × α)}
    (h : ∀ p ∈ pairs, x < p.1) : pairs.lookup x = none := by
  refine List.lookup_eq_none_iff.mpr ?_
  intro p hp
  simpa using fun heq : x = p.1 => String.lt_irrefl p.1 (heq ▸ h p hp)

/-- What is bound has a pair, and every pair is bound. -/
theorem lookup_eq_some_iff {k : String} {v : α} :
    ∀ {pairs : List (String × α)}, Ascending pairs → (pairs.lookup k = some v ↔ (k, v) ∈ pairs)
  | [], _ => by simp
  | (k', v') :: rest, h => by
      have ⟨hd, tl⟩ := List.pairwise_cons.mp h
      rw [lookup_cons, List.mem_cons]
      by_cases hk : k = k'
      · subst hk
        have hnot : (k, v) ∉ rest := fun hmem => String.lt_irrefl k (hd _ hmem)
        simp [hnot, eq_comm]
      · simp [hk, lookup_eq_some_iff tl]

/-- A key that is bound is not below the first. -/
theorem not_lt_of_lookup {x k : String} {v w : α} {rest : List (String × α)}
    (h : Ascending ((k, v) :: rest)) (hx : ((k, v) :: rest).lookup x = some w) : ¬x < k := by
  intro hlt
  have hall : ∀ p ∈ (k, v) :: rest, x < p.1 := by
    intro p hp
    rcases List.mem_cons.mp hp with rfl | hp
    · exact hlt
    · exact String.lt_trans hlt ((List.pairwise_cons.mp h).1 p hp)
  exact nomatch hx.symm.trans (lookup_eq_none_of_lt hall)

/-- Pairs in key order are known by what they bind. -/
theorem eq_of_lookup_eq :
    ∀ {pairs pairs' : List (String × α)}, Ascending pairs → Ascending pairs' →
      (∀ x, pairs.lookup x = pairs'.lookup x) → pairs = pairs'
  | [], [], _, _, _ => rfl
  | [], (k, v) :: _, _, _, h => by simpa using h k
  | (k, v) :: _, [], _, _, h => by simpa using h k
  | (k, v) :: rest, (k', v') :: rest', hp, hp', h => by
      have hge : ¬k < k' := not_lt_of_lookup hp' ((h k).symm.trans List.lookup_cons_self)
      have hle : ¬k' < k := not_lt_of_lookup hp ((h k').trans List.lookup_cons_self)
      have hk : k = k' := String.le_antisymm (String.not_lt.mp hle) (String.not_lt.mp hge)
      subst hk
      have hv : v = v' := by simpa using h k
      have ⟨hd, tl⟩ := List.pairwise_cons.mp hp
      have ⟨hd', tl'⟩ := List.pairwise_cons.mp hp'
      have hrest : rest = rest' := by
        refine eq_of_lookup_eq tl tl' fun x => ?_
        by_cases hx : x = k
        · rw [hx, lookup_eq_none_of_lt hd, lookup_eq_none_of_lt hd']
        · simpa [lookup_cons, hx] using h x
      rw [hv, hrest]

end Entries

/-- A finite map from strings, its entries in key order. -/
structure SortedMap (α : Type) where
  entries : List (String × α)
  ascending : Entries.Ascending entries
deriving DecidableEq

namespace SortedMap

variable {α : Type}

/-- The map without entries. -/
def empty : SortedMap α := ⟨[], List.Pairwise.nil⟩

instance : EmptyCollection (SortedMap α) := ⟨empty⟩
instance : Inhabited (SortedMap α) := ⟨empty⟩

def isEmpty (m : SortedMap α) : Bool := m.entries.isEmpty

/-- Binds a key, in place of what it was bound to before. -/
def insert (m : SortedMap α) (k : String) (v : α) : SortedMap α :=
  ⟨Entries.insert k v m.entries, Entries.ascending_insert k v m.ascending⟩

/-- What a key is bound to. -/
def get? (m : SortedMap α) (k : String) : Option α :=
  m.entries.lookup k

/-- Leaves out a key. -/
def erase (m : SortedMap α) (k : String) : SortedMap α :=
  ⟨m.entries.filter fun p => p.1 ≠ k, Entries.ascending_filter _ m.ascending⟩

/-- Binds the pairs one after the other, a later pair in place of an earlier one. -/
def insertAll (m : SortedMap α) (pairs : List (String × α)) : SortedMap α :=
  pairs.foldl (fun m p => m.insert p.1 p.2) m

/-- The map of a list of pairs, later ones winning. -/
def ofList (pairs : List (String × α)) : SortedMap α :=
  empty.insertAll pairs

/-- Changes what each key is bound to. -/
def mapValues {β : Type} (f : String → α → β) (m : SortedMap α) : SortedMap β :=
  ⟨m.entries.map fun p => (p.1, f p.1 p.2), Entries.ascending_map f m.ascending⟩

@[simp]
theorem get?_empty (x : String) : (∅ : SortedMap α).get? x = none := rfl

/-- Binding a key changes what that key is bound to and nothing else. -/
theorem get?_insert (m : SortedMap α) (k x : String) (v : α) :
    (m.insert k v).get? x = if x = k then some v else m.get? x :=
  Entries.lookup_insert k x v m.entries

theorem get?_erase (m : SortedMap α) (k x : String) :
    (m.erase k).get? x = if x = k then none else m.get? x :=
  Entries.lookup_filter_ne k x m.entries

theorem get?_mapValues {β : Type} (f : String → α → β) (m : SortedMap α) (x : String) :
    (m.mapValues f).get? x = (m.get? x).map (f x) :=
  Entries.lookup_map f x m.entries

/-- Of the pairs for a key the last one counts. -/
theorem get?_insertAll (pairs : List (String × α)) (m : SortedMap α) (x : String) :
    (m.insertAll pairs).get? x = (pairs.reverse.lookup x).or (m.get? x) := by
  induction pairs generalizing m with
  | nil => rfl
  | cons p rest ih =>
      obtain ⟨k, v⟩ := p
      show ((m.insert k v).insertAll rest).get? x = _
      rw [ih, get?_insert, List.reverse_cons, List.lookup_append, Option.or_assoc,
        Entries.lookup_cons]
      by_cases hx : x = k <;> simp [hx]

theorem get?_ofList (pairs : List (String × α)) (x : String) :
    (ofList pairs).get? x = pairs.reverse.lookup x := by
  refine (get?_insertAll pairs empty x).trans ?_
  exact Option.or_none

/-- Sorting pairs is making a map of them. -/
theorem entries_ofList (pairs : List (String × α)) : (ofList pairs).entries = Entries.sort pairs :=
  (List.foldl_hom entries fun _ _ => rfl).symm

/-- Where no key occurs twice, the order of the pairs does not matter. -/
theorem get?_ofList_of_nodup {pairs : List (String × α)} (h : (pairs.map Prod.fst).Nodup)
    (x : String) : (ofList pairs).get? x = pairs.lookup x := by
  have hrev : (pairs.reverse.map Prod.fst).Nodup := by
    rw [List.map_reverse]
    exact List.pairwise_reverse.mpr (h.imp Ne.symm)
  rw [get?_ofList]
  apply Option.ext
  intro v
  rw [Entries.lookup_eq_some_iff_mem hrev, Entries.lookup_eq_some_iff_mem h, List.mem_reverse]

theorem get?_eq_some_iff {m : SortedMap α} {k : String} {v : α} :
    m.get? k = some v ↔ (k, v) ∈ m.entries :=
  Entries.lookup_eq_some_iff m.ascending

/-- Maps are equal when they bind the same keys to the same values. -/
theorem ext_get? {m m' : SortedMap α} (h : ∀ x, m.get? x = m'.get? x) : m = m' := by
  obtain ⟨entries, ascending⟩ := m
  obtain ⟨entries', ascending'⟩ := m'
  have heq : entries = entries' := Entries.eq_of_lookup_eq ascending ascending' h
  subst heq
  rfl

/-- Changing what keys are bound to comes to the same before a key is bound and after. -/
theorem mapValues_insert {β : Type} (f : String → α → β) (m : SortedMap α) (k : String) (v : α) :
    (m.insert k v).mapValues f = (m.mapValues f).insert k (f k v) := by
  apply ext_get?
  intro x
  rw [get?_mapValues, get?_insert, get?_insert, get?_mapValues]
  split
  case isTrue hx => rw [hx]; rfl
  case isFalse => rfl

theorem mapValues_ofList {β : Type} (f : String → α → β) (pairs : List (String × α)) :
    (ofList pairs).mapValues f = ofList (pairs.map fun p => (p.1, f p.1 p.2)) := by
  apply ext_get?
  intro x
  rw [get?_mapValues, get?_ofList, get?_ofList, ← List.map_reverse, Entries.lookup_map]

theorem mapValues_id {f : String → α → α} (hf : ∀ k v, f k v = v) (m : SortedMap α) :
    m.mapValues f = m := by
  apply ext_get?
  intro x
  rw [get?_mapValues]
  cases m.get? x with
  | none => rfl
  | some v => exact congrArg some (hf x v)

/-- Of two values for one key the second stays. -/
theorem insert_insert (m : SortedMap α) (k : String) (v w : α) :
    (m.insert k v).insert k w = m.insert k w := by
  apply ext_get?
  intro x
  rw [get?_insert, get?_insert, get?_insert]
  split <;> rfl

/-- Binding a key to what it is bound to changes nothing. -/
theorem insert_eq_self {m : SortedMap α} {k : String} {v : α} (h : m.get? k = some v) :
    m.insert k v = m := by
  apply ext_get?
  intro x
  rw [get?_insert]
  split
  case isTrue hx => rw [hx, h]
  case isFalse => rfl

end SortedMap

end TableGateway
