/-
The table of headers: which headers a request has, and with what values.

The options call for the headers of a table (`Headers.CalledFor`), and extra headers
take the place of those (`Headers.Added`).  Of several extra headers whose names are
one in lowercase the last in order counts that is not empty.  That is all there is
(`header_table`): each name is in lowercase and has one value, which is not empty, and
the content type and the mark of null fields are always there.
-/
import TableGateway.Headers
import TableGateway.Proofs.Layers

namespace TableGateway

namespace Headers

/-! ## Headers that are computed -/

/-- The names of the computed headers, each with what the options say for it. -/
def table : List (String × (Options → Option String)) :=
  [("content-type", fun _ => some "application/json"),
    ("x-user-id", Options.userId),
    ("x-company-id", Options.companyId),
    ("x-organization-id", Options.organizationId),
    ("x-athena-client", fun o => some (o.client.getD defaultClient)),
    ("x-strip-nulls", fun o => some (if o.stripNulls = some false then "false" else "true")),
    ("x-publish-event", Options.publishEvent),
    ("apikey", Options.apiKey),
    ("x-api-key", Options.apiKey),
    ("x-supabase-url", Options.supabaseUrl),
    ("x-supabase-key", Options.supabaseKey)]

/-- The options call for a header of the table with a value that is not empty. -/
def CalledFor (o : Options) (k v : String) : Prop :=
  ∃ said, (k, said) ∈ table ∧ said o = some v ∧ v ≠ ""

theorem nonEmpty_eq_some_iff {value : Option String} {v : String} :
    nonEmpty value = some v ↔ value = some v ∧ v ≠ "" := by
  rw [nonEmpty, Option.filter_eq_some_iff, decide_eq_true_eq]

theorem mem_whenSet {name k v : String} {value : Option String} :
    (k, v) ∈ whenSet name value ↔ k = name ∧ value = some v ∧ v ≠ "" := by
  rw [whenSet, Option.mem_toList, Option.map_eq_some_iff, ← nonEmpty_eq_some_iff]
  constructor
  · rintro ⟨w, hw, heq⟩
    cases heq
    exact ⟨rfl, hw⟩
  · rintro ⟨rfl, hv⟩
    exact ⟨v, hv, rfl⟩

theorem keys_whenSet_sublist (name : String) (value : Option String) :
    ((whenSet name value).map Prod.fst).Sublist [name] := by
  unfold whenSet
  cases nonEmpty value with
  | none => exact List.nil_sublist _
  | some v => exact List.Sublist.refl _

/-- What some rows of a table come to. -/
def ofRows (rows : List (String × (Options → Option String))) (o : Options) :
    List (String × String) :=
  rows.flatMap fun row => whenSet row.1 (row.2 o)

theorem keys_ofRows_sublist (rows : List (String × (Options → Option String))) (o : Options) :
    ((ofRows rows o).map Prod.fst).Sublist (rows.map Prod.fst) := by
  induction rows with
  | nil => exact List.Sublist.refl _
  | cons row rest ih =>
      rw [ofRows, List.flatMap_cons, List.map_append]
      exact (keys_whenSet_sublist row.1 (row.2 o)).append ih

theorem computed_eq (o : Options) : computed o = ofRows table o := by
  -- a row that is never empty, and so is not tested for it in the list
  have hnulls : whenSet "x-strip-nulls"
      (some (if o.stripNulls = some false then "false" else "true"))
        = [("x-strip-nulls", if o.stripsNulls then "true" else "false")] := by
    unfold Options.stripsNulls
    rcases o.stripNulls with _ | _ | _ <;> rfl
  simp only [computed, ofRows, table, List.flatMap_cons, List.flatMap_nil, hnulls,
    List.append_assoc, List.append_nil]
  rfl

theorem mem_computed {o : Options} {k v : String} : (k, v) ∈ computed o ↔ CalledFor o k v := by
  rw [computed_eq, ofRows, List.mem_flatMap]
  constructor
  · rintro ⟨row, hrow, hmem⟩
    obtain ⟨rfl, hsaid, hv⟩ := mem_whenSet.mp hmem
    exact ⟨row.2, hrow, hsaid, hv⟩
  · rintro ⟨said, hrow, hsaid, hv⟩
    exact ⟨(k, said), hrow, mem_whenSet.mpr ⟨rfl, hsaid, hv⟩⟩

theorem nodup_keys_computed (o : Options) : ((computed o).map Prod.fst).Nodup := by
  rw [computed_eq]
  exact (keys_ofRows_sublist table o).nodup (by decide)

/-- No header is computed twice, so the order of the table does not matter. -/
theorem lookup_computed_eq_some_iff {o : Options} {k v : String} :
    (computed o).reverse.lookup k = some v ↔ CalledFor o k v := by
  rw [← SortedMap.get?_ofList, SortedMap.get?_ofList_of_nodup (nodup_keys_computed o),
    Entries.lookup_eq_some_iff_mem (nodup_keys_computed o), mem_computed]

theorem toLower_of_mem_table : ∀ row ∈ table, row.1.toLower = row.1 := by decide +kernel

/-! ## Headers that are added -/

/-- The value of an extra header: of the names that are one in lowercase the greatest
counts that has a value. -/
def Added (o : Options) (k v : String) : Prop :=
  ∃ name, (o.headers.get? name = some v ∧ v ≠ "") ∧ name.toLower = k ∧
    ∀ other w, o.headers.get? other = some w ∧ w ≠ "" → other.toLower = k → other ≤ name

theorem lookup_extra_eq_some_iff {o : Options} {k v : String} :
    (extra o).reverse.lookup k = some v ↔ Added o k v := by
  rw [extra, Entries.lookup_reverse_map (Entries.ascending_filter _ o.headers.ascending), Added]
  simp only [List.mem_filter, decide_eq_true_eq, ← SortedMap.get?_eq_some_iff, Prod.forall]

theorem not_added_of_empty {o : Options} {k : String}
    (h : ∀ name v, o.headers.get? name = some v → name.toLower = k → v = "") (v : String) :
    ¬Added o k v := by
  rintro ⟨name, ⟨hname, hvalue⟩, hk, -⟩
  exact hvalue (h name v hname hk)

theorem added_of_lowercase {o : Options} (h : o.Lowercase) {name v : String}
    (hname : o.headers.get? name = some v) (hvalue : v ≠ "") : Added o name.toLower v := by
  refine ⟨name, ⟨hname, hvalue⟩, rfl, ?_⟩
  rintro other w ⟨hother, -⟩ hk
  rw [← h other w hother, hk, h name v hname]

/-! ## All headers -/

/-- Headers that are added go before those that are computed. -/
theorem get?_ofOptions (o : Options) (k : String) :
    (ofOptions o).get? k = ((extra o).reverse.lookup k).or ((computed o).reverse.lookup k) := by
  rw [ofOptions, SortedMap.get?_ofList, List.reverse_append, List.lookup_append]

theorem get?_ofOptions_eq_some_iff {o : Options} {k v : String} :
    (ofOptions o).get? k = some v ↔ Added o k v ∨ (∀ w, ¬Added o k w) ∧ CalledFor o k v := by
  rw [get?_ofOptions, Option.or_eq_some_iff, lookup_computed_eq_some_iff,
    Option.eq_none_iff_forall_ne_some]
  simp only [ne_eq, lookup_extra_eq_some_iff]

theorem toLower_of_added {o : Options} {k v : String} (h : Added o k v) : k.toLower = k := by
  obtain ⟨name, -, rfl, -⟩ := h
  exact toLower_toLower name

theorem toLower_of_calledFor {o : Options} {k v : String} (h : CalledFor o k v) :
    k.toLower = k := by
  obtain ⟨said, hrow, -⟩ := h
  exact toLower_of_mem_table _ hrow

theorem toLower_of_get? {o : Options} {k v : String} (h : (ofOptions o).get? k = some v) :
    k.toLower = k := by
  rcases get?_ofOptions_eq_some_iff.mp h with h | ⟨-, h⟩
  · exact toLower_of_added h
  · exact toLower_of_calledFor h

theorem ne_empty_of_get? {o : Options} {k v : String} (h : (ofOptions o).get? k = some v) :
    v ≠ "" := by
  rcases get?_ofOptions_eq_some_iff.mp h with ⟨name, ⟨-, hv⟩, -⟩ | ⟨-, said, -, -, hv⟩
  · exact hv
  · exact hv

/-- A header that is called for is there, with this value or another. -/
theorem exists_get?_of_calledFor {o : Options} {k v : String} (h : CalledFor o k v) :
    ∃ w, (ofOptions o).get? k = some w := by
  by_cases hadded : ∃ w, Added o k w
  · obtain ⟨w, hw⟩ := hadded
    exact ⟨w, get?_ofOptions_eq_some_iff.mpr (Or.inl hw)⟩
  · exact ⟨v, get?_ofOptions_eq_some_iff.mpr (Or.inr ⟨not_exists.mp hadded, h⟩)⟩

theorem calledFor_contentType (o : Options) : CalledFor o "content-type" "application/json" :=
  ⟨_, List.mem_cons_self, rfl, by decide⟩

theorem calledFor_nulls (o : Options) :
    CalledFor o "x-strip-nulls" (if o.stripsNulls then "true" else "false") := by
  refine mem_computed.mp ?_
  simp [computed]

/-- Of any options: a header has the value of the last extra header of its name that is
not empty, or, if there is none, the value that the options call for, and else it is
not there.  Names are in lowercase, so no two are alike but for their case; no value is
empty; and two headers are always there. -/
theorem header_table (o : Options) :
    (∀ k v, (ofOptions o).get? k = some v ↔
      Added o k v ∨ (∀ w, ¬Added o k w) ∧ CalledFor o k v) ∧
    (∀ k v, (ofOptions o).get? k = some v → k.toLower = k ∧ v ≠ "") ∧
    (∀ k k' v v', (ofOptions o).get? k = some v → (ofOptions o).get? k' = some v' →
      k.toLower = k'.toLower → k = k') ∧
    (∃ v, (ofOptions o).get? "content-type" = some v) ∧
    ∃ v, (ofOptions o).get? "x-strip-nulls" = some v := by
  refine ⟨fun k v => get?_ofOptions_eq_some_iff, ?_, ?_, ?_, ?_⟩
  · intro k v h
    exact ⟨toLower_of_get? h, ne_empty_of_get? h⟩
  · intro k k' v v' h h' heq
    rw [← toLower_of_get? h, heq, toLower_of_get? h']
  · exact exists_get?_of_calledFor (calledFor_contentType o)
  · exact exists_get?_of_calledFor (calledFor_nulls o)

/-- Options with a key, and a header in its place that is spelled in another way. -/
def overriddenKey : Options :=
  { apiKey := some "computed", headers := SortedMap.empty.insert "ApiKey" "custom" }

/-- The header takes the place of the key under one of its two names. -/
theorem header_table_overriddenKey :
    (ofOptions overriddenKey).get? "apikey" = some "custom" ∧
      (ofOptions overriddenKey).get? "x-api-key" = some "computed" := by
  obtain ⟨htable, -⟩ := header_table overriddenKey
  have honly : ∀ name v, overriddenKey.headers.get? name = some v → name = "ApiKey" := by
    intro name v hname
    exact (Prod.mk.inj (List.mem_singleton.mp (SortedMap.get?_eq_some_iff.mp hname))).1
  constructor
  · refine (htable "apikey" "custom").mpr (Or.inl ?_)
    refine ⟨"ApiKey", ⟨rfl, by decide⟩, by decide +kernel, ?_⟩
    rintro other w ⟨hother, -⟩ -
    exact le_of_eq (honly other w hother)
  · refine (htable "x-api-key" "computed").mpr (Or.inr ⟨?_, Options.apiKey, ?_, rfl, by decide⟩)
    · rintro w ⟨name, ⟨hname, -⟩, hk, -⟩
      rw [honly name w hname] at hk
      exact absurd hk (by decide +kernel)
    · simp [table]

end Headers

end TableGateway
