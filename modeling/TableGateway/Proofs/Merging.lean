/-
Merging: the algebra of layers of options.

Merging is associative, and a list of layers may be merged in pieces and without its
absent layers.  Empty options change nothing but the spelling of names: whatever is
merged has its headers under lowercase names (`Options.lowercased`), of several
spellings of a name the greatest, which is the lowercase one if it is there
(`lowers_lowercased`).  Up to that, options under merging are a monoid in which every
element is idempotent (`merging_by_layers`).

Two options are equal when their headers are under lowercase names and no field that
layers overlay tells them apart (`eq_of_overlays`); so each law is a law of `Option.or`.
-/
import TableGateway.Proofs.Layers

namespace TableGateway

/-! ## The order of spellings -/

theorem le_toLower_char (c : Char) : c ≤ c.toLower := by
  unfold Char.toLower
  split
  case isTrue h =>
    have hbound : c.val.toNat ≤ 90 := UInt32.le_iff_toNat_le.mp h.2
    rw [Char.le_def, UInt32.le_iff_toNat_le, UInt32.toNat_add]
    show c.val.toNat ≤ (c.val.toNat + 32) % 4294967296
    omega
  case isFalse => exact le_refl c

theorem not_map_lt {f : Char → Char} (hf : ∀ c, c ≤ f c) : ∀ l : List Char, ¬l.map f < l
  | [] => List.not_lt_nil _
  | c :: rest => by
      rw [List.map_cons, List.cons_lt_cons_iff]
      rintro (h | ⟨-, h⟩)
      · exact absurd h (not_lt.mpr (hf c))
      · exact not_map_lt hf rest h

/-- Of all spellings of a name the lowercase one is the greatest. -/
theorem le_toLower (name : String) : name ≤ name.toLower := by
  refine String.not_lt.mp ?_
  rw [String.lt_iff_toList_lt, toList_toLower]
  exact not_map_lt le_toLower_char name.toList

namespace Options

/-! ## Options under lowercase names -/

/-- The options with their headers under lowercase names. -/
def lowercased (o : Options) : Options :=
  { o with headers := SortedMap.ofList (o.headers.entries.map fun p => (p.1.toLower, p.2)) }

/-- The second options are the first, but for the names of the headers: these are in
lowercase, and the greatest spelling of a name keeps its value. -/
structure Lowers (o n : Options) : Prop where
  fields : n = { o with headers := n.headers }
  greatest : ∀ k v, n.headers.get? k = some v ↔
    ∃ name, o.headers.get? name = some v ∧ name.toLower = k ∧
      ∀ other w, o.headers.get? other = some w → other.toLower = k → other ≤ name
  /-- A lowercase name is a greatest spelling. -/
  stored : ∀ k v, k.toLower = k → o.headers.get? k = some v → n.headers.get? k = some v

theorem get?_lowercased (o : Options) (k : String) :
    o.lowercased.headers.get? k = o.mention? k :=
  SortedMap.get?_ofList _ k

theorem lowercase_lowercased (o : Options) : o.lowercased.Lowercase := by
  intro k v h
  rw [get?_lowercased] at h
  exact toLower_of_mention? h

theorem mention?_of_lower {o : Options} {k v : String} (hk : k.toLower = k)
    (h : o.headers.get? k = some v) : o.mention? k = some v := by
  refine mention?_eq_some_iff.mpr ⟨k, h, hk, ?_⟩
  intro other w _ hother
  rw [← hother]
  exact le_toLower other

theorem lowers_lowercased (o : Options) : o.Lowers o.lowercased where
  fields := rfl
  greatest k v := by rw [get?_lowercased, mention?_eq_some_iff]
  stored k v hk h := by rw [get?_lowercased, mention?_of_lower hk h]

/-! ## Laws of merging -/

theorem eq_of_overlays {o o' : Options} (hnames : o.Lowercase) (hnames' : o'.Lowercase)
    (h : ∀ {α : Type} {field : Options → Option α}, Overlays field → field o = field o') :
    o = o' := by
  have hheaders : o.headers = o'.headers := by
    apply SortedMap.ext_get?
    intro k
    rw [← hnames.mention?, ← hnames'.mention?, h (overlays_mention? k)]
  have hfield : ∀ {α : Type} (field : Options → Option α), field {} = none →
      (∀ base later, field (base.merge later) = (field later).or (field base)) →
      field o = field o' := fun _ hunset hlater => h ⟨hunset, hlater⟩
  cases o
  cases o'
  rw [mk.injEq]
  exact ⟨hfield baseUrl rfl fun _ _ => rfl, hfield client rfl fun _ _ => rfl,
    hfield apiKey rfl fun _ _ => rfl, hfield stripNulls rfl fun _ _ => rfl,
    hfield supabaseUrl rfl fun _ _ => rfl, hfield supabaseKey rfl fun _ _ => rfl,
    hfield publishEvent rfl fun _ _ => rfl, hheaders, hfield userId rfl fun _ _ => rfl,
    hfield companyId rfl fun _ _ => rfl, hfield organizationId rfl fun _ _ => rfl,
    hfield count rfl fun _ _ => rfl, hfield head rfl fun _ _ => rfl,
    hfield defaultToNull rfl fun _ _ => rfl⟩

theorem merge_assoc (a b c : Options) : (a.merge b).merge c = a.merge (b.merge c) := by
  refine eq_of_overlays (lowercase_merge _ _) (lowercase_merge _ _) ?_
  intro α field h
  rw [h.later, h.later, h.later, h.later, Option.or_assoc]

theorem empty_merge (o : Options) : merge {} o = o.lowercased := by
  simp only [merge, lowercased, Option.or_none]
  rfl

theorem Overlays.lowercased {α : Type} {field : Options → Option α} (h : Overlays field)
    (o : Options) : field o.lowercased = field o := by
  rw [← empty_merge, h.later, h.unset, Option.or_none]

theorem merge_empty (o : Options) : o.merge {} = o.lowercased := by
  refine eq_of_overlays (lowercase_merge _ _) (lowercase_lowercased o) ?_
  intro α field h
  rw [h.later, h.unset, h.lowercased, Option.none_or]

theorem merge_self (o : Options) : o.merge o = o.lowercased := by
  refine eq_of_overlays (lowercase_merge _ _) (lowercase_lowercased o) ?_
  intro α field h
  rw [h.later, h.lowercased, Option.or_self]

theorem lowercased_of_lowercase {o : Options} (h : o.Lowercase) : o.lowercased = o :=
  eq_of_overlays (lowercase_lowercased o) h fun hfield => hfield.lowercased o

/-! ## Lists of layers -/

theorem Overlays.mergeAll {α : Type} {field : Options → Option α} (h : Overlays field)
    (layers : List (Option Options)) :
    field (mergeAll layers) = lastSet field (layers.filterMap id) :=
  h.foldl _

theorem lowercase_mergeAll (layers : List (Option Options)) : (mergeAll layers).Lowercase := by
  unfold Options.mergeAll
  cases layers.filterMap id with
  | nil => exact fun _ _ h => nomatch h
  | cons first rest => exact lowercase_foldl first rest

theorem mergeAll_append (xs ys : List (Option Options)) :
    mergeAll (xs ++ ys) = (mergeAll xs).merge (mergeAll ys) := by
  refine eq_of_overlays (lowercase_mergeAll _) (lowercase_merge _ _) ?_
  intro α field h
  rw [h.mergeAll, h.later, h.mergeAll, h.mergeAll, List.filterMap_append, lastSet_append]

theorem mergeAll_none (xs ys : List (Option Options)) :
    mergeAll (xs ++ none :: ys) = mergeAll (xs ++ ys) := by
  unfold Options.mergeAll
  rw [List.filterMap_append, List.filterMap_append, List.filterMap_cons_none rfl]

theorem mergeAll_filter (xs : List (Option Options)) :
    mergeAll (xs.filter Option.isSome) = mergeAll xs := by
  induction xs with
  | nil => rfl
  | cons layer rest ih =>
      cases layer with
      | none =>
          rw [List.filter_cons_of_neg (by decide), ih]
          exact (mergeAll_none [] rest).symm
      | some o =>
          rw [List.filter_cons_of_pos rfl, ← List.singleton_append, mergeAll_append, ih,
            ← mergeAll_append, List.singleton_append]

/-- Options merge associatively, and layers merge piece by piece, the absent ones
without effect.  Merged with nothing or with themselves, options have their headers
under lowercase names, the greatest spelling of a name keeps its value, and nothing
else changes; doing this twice is doing it once. -/
theorem merging_by_layers (a b c : Options) (xs ys : List (Option Options)) :
    (a.merge b).merge c = a.merge (b.merge c) ∧
    mergeAll (xs ++ ys) = (mergeAll xs).merge (mergeAll ys) ∧
    mergeAll (xs ++ none :: ys) = mergeAll (xs ++ ys) ∧
    mergeAll (xs.filter Option.isSome) = mergeAll xs ∧
    a.merge {} = a.lowercased ∧ merge {} a = a.lowercased ∧ a.merge a = a.lowercased ∧
    a.Lowers a.lowercased ∧ a.lowercased.lowercased = a.lowercased :=
  ⟨merge_assoc a b c, mergeAll_append xs ys, mergeAll_none xs ys, mergeAll_filter xs,
    merge_empty a, empty_merge a, merge_self a, lowers_lowercased a,
    lowercased_of_lowercase (lowercase_lowercased a)⟩

/-- Options with a header under two spellings. -/
def twiceTraced : Options :=
  { headers := (SortedMap.empty.insert "X-Trace" "first").insert "x-trace" "second" }

theorem merging_twiceTraced :
    (twiceTraced.merge {}).headers.get? "x-trace" = some "second" ∧
      (twiceTraced.merge twiceTraced).headers.get? "x-trace" = some "second" := by
  obtain ⟨-, -, -, -, hempty, -, hself, hlowers, -⟩ :=
    merging_by_layers twiceTraced {} {} [] []
  have hstored := hlowers.stored "x-trace" "second" (by decide +kernel) rfl
  rw [hempty, hself]
  exact ⟨hstored, hstored⟩

end Options

end TableGateway
