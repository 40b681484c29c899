/-
Layers of options: what merging leaves.

Options are merged field by field (`Options.Overlays`), and their headers name by
name, where a layer may spell a name in several ways: the greatest spelling
counts (`mention?_eq_some_iff`).  `Options.Layered` says of options that they are
what some layers come to; layers that were merged before stand for themselves in
it (`layered_merge`).
-/
import Mathlib.Data.List.Induction
import Mathlib.Data.String.Basic
import TableGateway.Options
import TableGateway.Proofs.LastSet

namespace TableGateway

/-! ## Names in lowercase -/

theorem toList_toLower (name : String) : name.toLower.toList = name.toList.map Char.toLower := by
  show (name.map Char.toLower).toList = name.toList.map Char.toLower
  rw [String.toList_map]

theorem toLower_toLower (name : String) : name.toLower.toLower = name.toLower := by
  show (name.map Char.toLower).map Char.toLower = name.map Char.toLower
  rw [String.map_map]
  congr 1
  funext c
  show c.toLower.toLower = c.toLower
  delta Char.toLower
  grind

namespace Entries

variable {α : Type}

/-- Where the names of a map are written in another way, the pair that comes last
is that of the greatest of the names that become one. -/
theorem lookup_reverse_map {f : String → String} {pairs : List (String × α)} {k : String} {v : α}
    (h : Ascending pairs) :
    (pairs.map fun p => (f p.1, p.2)).reverse.lookup k = some v
      ↔ ∃ name, (name, v) ∈ pairs ∧ f name = k ∧ ∀ p ∈ pairs, f p.1 = k → p.1 ≤ name := by
  induction pairs using List.reverseRecOn with
  | nil => simp
  | append_singleton pairs p ih =>
      obtain ⟨last, w⟩ := p
      obtain ⟨hpairs, -, hbelow⟩ := List.pairwise_append.mp h
      have hlast : ∀ q ∈ pairs, q.1 < last := fun q hq => hbelow q hq _ List.mem_cons_self
      rw [List.map_append, List.map_singleton, List.reverse_append, List.reverse_singleton,
        List.singleton_append, lookup_cons]
      by_cases hk : k = f last
      · rw [if_pos hk]
        constructor
        · intro hw
          cases hw
          refine ⟨last, List.mem_append_right _ List.mem_cons_self, hk.symm, ?_⟩
          intro q hq _
          rcases List.mem_append.mp hq with hq | hq
          · exact le_of_lt (hlast q hq)
          · rw [List.mem_singleton.mp hq]
        · rintro ⟨name, hname, -, hgreatest⟩
          rcases List.mem_append.mp hname with hname | hname
          · -- the last pair would have to be below a pair before it
            have hle := hgreatest _ (List.mem_append_right _ List.mem_cons_self) hk.symm
            exact absurd (hlast _ hname) (String.not_lt.mpr hle)
          · cases List.mem_singleton.mp hname
            rfl
      · rw [if_neg hk, ih hpairs]
        constructor
        · rintro ⟨name, hname, hf, hgreatest⟩
          refine ⟨name, List.mem_append_left _ hname, hf, ?_⟩
          intro q hq hqk
          rcases List.mem_append.mp hq with hq | hq
          · exact hgreatest q hq hqk
          · cases List.mem_singleton.mp hq
            exact absurd hqk.symm hk
        · rintro ⟨name, hname, hf, hgreatest⟩
          rcases List.mem_append.mp hname with hname | hname
          · exact ⟨name, hname, hf, fun q hq => hgreatest q (List.mem_append_left _ hq)⟩
          · cases List.mem_singleton.mp hname
            exact absurd hf.symm hk

end Entries

namespace Options

/-! ## Fields and headers of merged options -/

/-- A field that the merge takes from the later layer, if that sets it. -/
structure Overlays {α : Type} (field : Options → Option α) : Prop where
  unset : field {} = none
  later : ∀ base later, field (base.merge later) = (field later).or (field base)

/-- What a layer says of the header with this name in lowercase. -/
def mention? (k : String) (o : Options) : Option String :=
  (o.headers.entries.map fun p => (p.1.toLower, p.2)).reverse.lookup k

/-- The greatest of the spellings of a name counts. -/
theorem mention?_eq_some_iff {k v : String} {o : Options} :
    o.mention? k = some v ↔ ∃ name, o.headers.get? name = some v ∧ name.toLower = k ∧
      ∀ other w, o.headers.get? other = some w → other.toLower = k → other ≤ name := by
  simp only [mention?, Entries.lookup_reverse_map o.headers.ascending,
    SortedMap.get?_eq_some_iff, Prod.forall]

theorem mention?_eq_none_iff {k : String} {o : Options} :
    o.mention? k = none ↔ ∀ name w, o.headers.get? name = some w → name.toLower ≠ k := by
  rw [mention?, List.lookup_eq_none_iff]
  simp only [SortedMap.get?_eq_some_iff, List.mem_reverse, List.mem_map, Prod.exists]
  constructor
  · rintro h name w hmem rfl
    simpa using h _ ⟨name, w, hmem, rfl⟩
  · rintro h _ ⟨name, w, hmem, rfl⟩
    exact bne_iff_ne.mpr (Ne.symm (h name w hmem))

/-- All headers are under lowercase names. -/
def Lowercase (o : Options) : Prop :=
  ∀ name v, o.headers.get? name = some v → name.toLower = name

theorem Lowercase.mention? {o : Options} (h : o.Lowercase) (k : String) :
    o.mention? k = o.headers.get? k := by
  ext v
  rw [mention?_eq_some_iff]
  constructor
  · rintro ⟨name, hname, rfl, -⟩
    rwa [h name v hname]
  · intro hk
    refine ⟨k, hk, h k v hk, ?_⟩
    rintro other w hother rfl
    rw [h other w hother]

theorem get?_headers_merge (base later : Options) (k : String) :
    (base.merge later).headers.get? k = (later.mention? k).or (base.mention? k) := by
  show (mergeHeaders base.headers later.headers).get? k = _
  rw [mergeHeaders, SortedMap.get?_ofList, List.map_append, List.reverse_append,
    List.lookup_append]
  rfl

theorem toLower_of_mention? {k v : String} {o : Options} (h : o.mention? k = some v) :
    k.toLower = k := by
  obtain ⟨name, -, rfl, -⟩ := mention?_eq_some_iff.mp h
  exact toLower_toLower name

theorem lowercase_merge (base later : Options) : (base.merge later).Lowercase := by
  intro k v h
  rw [get?_headers_merge, Option.or_eq_some_iff] at h
  rcases h with h | ⟨-, h⟩
  · exact toLower_of_mention? h
  · exact toLower_of_mention? h

/-- However many layers there are, the last merge leaves lowercase names. -/
theorem lowercase_foldl (first : Options) (rest : List Options) :
    ((first :: rest).foldl merge {}).Lowercase := by
  cases rest using List.reverseRecOn with
  | nil => exact lowercase_merge _ _
  | append_singleton rest last _ =>
      rw [← List.cons_append, List.foldl_concat]
      exact lowercase_merge _ _

theorem overlays_mention? (k : String) : Overlays (mention? k) where
  unset := rfl
  later base later := by
    rw [(lowercase_merge base later).mention?, get?_headers_merge]

/-! ## Options in layers -/

/-- The value of a header after some layers: the last layer that mentions its
name in any spelling decides, and in that layer the greatest spelling. -/
def LastMention (layers : List Options) (k v : String) : Prop :=
  ∃ earlier layer later, layers = earlier ++ layer :: later ∧
    (∃ name, layer.headers.get? name = some v ∧ name.toLower = k ∧
      ∀ other w, layer.headers.get? other = some w → other.toLower = k → other ≤ name) ∧
    ∀ l ∈ later, ∀ name w, l.headers.get? name = some w → name.toLower ≠ k

/-- The options have of each field what the last of the layers that set it set it
to, and of each header the value of the last mention. -/
structure Layered (layers : List Options) (o : Options) : Prop where
  baseUrl : o.baseUrl = lastSet Options.baseUrl layers
  client : o.client = lastSet Options.client layers
  apiKey : o.apiKey = lastSet Options.apiKey layers
  stripNulls : o.stripNulls = lastSet Options.stripNulls layers
  supabaseUrl : o.supabaseUrl = lastSet Options.supabaseUrl layers
  supabaseKey : o.supabaseKey = lastSet Options.supabaseKey layers
  publishEvent : o.publishEvent = lastSet Options.publishEvent layers
  headers : ∀ k v, o.headers.get? k = some v ↔ LastMention layers k v
  userId : o.userId = lastSet Options.userId layers
  companyId : o.companyId = lastSet Options.companyId layers
  organizationId : o.organizationId = lastSet Options.organizationId layers
  count : o.count = lastSet Options.count layers
  head : o.head = lastSet Options.head layers
  defaultToNull : o.defaultToNull = lastSet Options.defaultToNull layers

theorem lastMention_iff {layers : List Options} {k v : String} :
    LastMention layers k v ↔ lastSet (mention? k) layers = some v := by
  simp only [lastSet_eq_some_iff, mention?_eq_some_iff, mention?_eq_none_iff]
  rfl

/-- It is enough that all fields that layers overlay are as the layers set them. -/
theorem layered_of_overlays {layers : List Options} {o : Options} (hnames : o.Lowercase)
    (h : ∀ {α : Type} {field : Options → Option α}, Overlays field →
      field o = lastSet field layers) :
    o.Layered layers where
  baseUrl := h ⟨rfl, fun _ _ => rfl⟩
  client := h ⟨rfl, fun _ _ => rfl⟩
  apiKey := h ⟨rfl, fun _ _ => rfl⟩
  stripNulls := h ⟨rfl, fun _ _ => rfl⟩
  supabaseUrl := h ⟨rfl, fun _ _ => rfl⟩
  supabaseKey := h ⟨rfl, fun _ _ => rfl⟩
  publishEvent := h ⟨rfl, fun _ _ => rfl⟩
  headers k v := by rw [← hnames.mention?, h (overlays_mention? k), lastMention_iff]
  userId := h ⟨rfl, fun _ _ => rfl⟩
  companyId := h ⟨rfl, fun _ _ => rfl⟩
  organizationId := h ⟨rfl, fun _ _ => rfl⟩
  count := h ⟨rfl, fun _ _ => rfl⟩
  head := h ⟨rfl, fun _ _ => rfl⟩
  defaultToNull := h ⟨rfl, fun _ _ => rfl⟩

theorem Overlays.foldl {α : Type} {field : Options → Option α} (h : Overlays field)
    (layers : List Options) : field (layers.foldl merge {}) = lastSet field layers := by
  rw [field_foldl h.later, h.unset, Option.or_none]

/-- Layers that were merged before go for the layers that they were merged of. -/
theorem layered_merge (first second : Options) (rest : List Options) :
    ((first.merge second :: rest).foldl merge {}).Layered (first :: second :: rest) := by
  refine layered_of_overlays (lowercase_foldl _ rest) ?_
  intro α field h
  rw [h.foldl, lastSet_cons, lastSet_cons, lastSet_cons, h.later, Option.or_assoc]

end Options

end TableGateway
