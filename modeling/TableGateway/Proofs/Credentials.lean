/-
Credentials: options that differ in their keys only.

The keys are the API key, the Supabase key and extra headers under the names
whose values are kept from monitors.  Two layers of options are alike when they
have their keys in the same places, not empty but perhaps different, and all else
in common (`Options.Alike`).  Alike layers are the same once a mark stands in
place of each key (`Options.masked_eq_iff`).  An empty key stays empty, since it
sets nothing.  The marks are a veil (`Veil.mask`), and the log of a call is the
same with the keys and with the marks (`CallLog.ofRequest_masked`): a key goes to
two headers, a header may be set over it in any spelling, and each of these is
blanked out.
-/
import TableGateway.Observe.CallLog
import TableGateway.Proofs.Layers
import TableGateway.Proofs.Veil

namespace TableGateway

/-! ## What is alike -/

/-- Two keys that are the same, or both set and not empty. -/
inductive AlikeKeys : Option String → Option String → Prop where
  | same (key : Option String) : AlikeKeys key key
  | other {key key' : String} : key ≠ "" → key' ≠ "" → AlikeKeys (some key) (some key')

/-- Layers of options that differ in keys only. -/
structure Options.Alike (o o' : Options) : Prop where
  apiKey : AlikeKeys o.apiKey o'.apiKey
  supabaseKey : AlikeKeys o.supabaseKey o'.supabaseKey
  secret : ∀ name, name.toLower ∈ CallLog.secretNames →
    AlikeKeys (o.headers.get? name) (o'.headers.get? name)
  plain : ∀ name, name.toLower ∉ CallLog.secretNames →
    o.headers.get? name = o'.headers.get? name
  rest : { o with apiKey := none, supabaseKey := none, headers := ∅ }
    = { o' with apiKey := none, supabaseKey := none, headers := ∅ }

/-- Refinements with the same columns and alike options. -/
structure Refinement.Alike (r r' : Refinement) : Prop where
  columns : r.columns = r'.columns
  options : Option.Rel Options.Alike r.options r'.options

/-- Writes of the same values with alike options. -/
inductive Writing.Alike : Writing → Writing → Prop where
  | insert (values : Datum) {o o' : Options} : o.Alike o' →
      Alike (.insert values o) (.insert values o')
  | upsert (values : Datum) (updateBody : Option Json) (onConflict : Option Columns)
      {o o' : Options} : o.Alike o' →
      Alike (.upsert values updateBody onConflict o) (.upsert values updateBody onConflict o')
  | update (values : Datum) {o o' : Options} : o.Alike o' →
      Alike (.update values o) (.update values o')
  | delete (resourceId : Option String) {o o' : Options} : o.Alike o' →
      Alike (.delete resourceId o) (.delete resourceId o')

/-- Operations that are the same but for keys in their options. -/
inductive Operation.Alike : Operation → Operation → Prop where
  | same (op : Operation) : Alike op op
  | fetch (name : String) (columns : Columns) (single : Bool) (keep : Option String)
      {o o' : Option Options} : Option.Rel Options.Alike o o' →
      Alike (.fetch name { columns, single, options := o } keep)
        (.fetch name { columns, single, options := o' } keep)
  | write (name handle : String) {w w' : Writing} : w.Alike w' →
      Alike (.write name w handle) (.write name w' handle)
  | refine (handle : String) {r r' : Refinement} : r.Alike r' →
      Alike (.refine handle r) (.refine handle r')
  | trigger (handle : String) (single : Bool) (keep : Option String)
      {r r' : Option Refinement} : Option.Rel Refinement.Alike r r' →
      Alike (.trigger handle { single, refinement := r } keep)
        (.trigger handle { single, refinement := r' } keep)

/-! ## Marks in place of keys -/

/-- The mark that stands in place of a key. -/
def concealed (key : String) : String := if key = "" then "" else CallLog.blank

theorem concealed_eq_empty_iff {key : String} : concealed key = "" ↔ key = "" := by
  have hblank : CallLog.blank ≠ "" := by decide
  unfold concealed
  split
  case isTrue h => exact iff_of_true rfl h
  case isFalse h => exact iff_of_false hblank h

theorem map_concealed_eq_iff {key key' : Option String} :
    key.map concealed = key'.map concealed ↔ AlikeKeys key key' := by
  constructor
  · intro h
    cases key with
    | none =>
        rw [Option.map_eq_none_iff.mp h.symm]
        exact .same none
    | some a =>
        obtain ⟨b, rfl, hb⟩ := Option.map_eq_some_iff.mp h.symm
        have hempty : b = "" ↔ a = "" := by
          rw [← concealed_eq_empty_iff, hb, concealed_eq_empty_iff]
        by_cases ha : a = ""
        · rw [ha, hempty.mpr ha]
          exact .same (some "")
        · exact .other ha (fun hb => ha (hempty.mp hb))
  · intro h
    cases h with
    | same => rfl
    | other ha hb => simp only [Option.map_some, concealed, if_neg ha, if_neg hb]

namespace Options

/-- The value of an extra header, with a mark if it is a key. -/
def shown (name value : String) : String :=
  if name.toLower ∈ CallLog.secretNames then concealed value else value

/-- The options with marks in place of keys. -/
def masked (o : Options) : Options :=
  { o with
    apiKey := o.apiKey.map concealed
    supabaseKey := o.supabaseKey.map concealed
    headers := o.headers.mapValues shown }

/-- Marks tell where keys are and nothing more. -/
theorem masked_eq_iff {o o' : Options} : o.masked = o'.masked ↔ o.Alike o' := by
  constructor
  · intro h
    have hheaders : ∀ name,
        (o.headers.get? name).map (shown name) = (o'.headers.get? name).map (shown name) := by
      intro name
      have hname := congrArg (fun o : Options => o.headers.get? name) h
      simpa only [masked, SortedMap.get?_mapValues] using hname
    constructor
    case apiKey => exact map_concealed_eq_iff.mp (congrArg apiKey h)
    case supabaseKey => exact map_concealed_eq_iff.mp (congrArg supabaseKey h)
    case secret =>
      intro name hname
      have hshown : shown name = concealed := funext fun _ => if_pos hname
      have hget := hheaders name
      rw [hshown] at hget
      exact map_concealed_eq_iff.mp hget
    case plain =>
      intro name hname
      have hshown : shown name = id := funext fun _ => if_neg hname
      have hget := hheaders name
      rwa [hshown, Option.map_id, id, id] at hget
    case rest =>
      exact congrArg (fun o : Options =>
        { o with apiKey := none, supabaseKey := none, headers := ∅ }) h
  · intro h
    have hheaders : o.headers.mapValues shown = o'.headers.mapValues shown := by
      apply SortedMap.ext_get?
      intro name
      rw [SortedMap.get?_mapValues, SortedMap.get?_mapValues]
      by_cases hname : name.toLower ∈ CallLog.secretNames
      · have hshown : shown name = concealed := funext fun _ => if_pos hname
        rw [hshown]
        exact map_concealed_eq_iff.mpr (h.secret name hname)
      · rw [h.plain name hname]
    have hrest := congrArg (fun o : Options =>
      { o with
        apiKey := o'.apiKey.map concealed
        supabaseKey := o'.supabaseKey.map concealed
        headers := o'.headers.mapValues shown }) h.rest
    rw [masked, map_concealed_eq_iff.mpr h.apiKey, map_concealed_eq_iff.mpr h.supabaseKey,
      hheaders]
    exact hrest

/-- Whether a header holds a key does not depend on the spelling of its name. -/
theorem shown_toLower (name value : String) : shown name.toLower value = shown name value := by
  rw [shown, toLower_toLower]
  rfl

theorem mergeHeaders_shown (base later : SortedMap String) :
    (mergeHeaders base later).mapValues shown
      = mergeHeaders (base.mapValues shown) (later.mapValues shown) := by
  have hpairs : ∀ pairs : List (String × String),
      (pairs.map fun p => (p.1.toLower, p.2)).map (fun p => (p.1, shown p.1 p.2))
        = (pairs.map fun p => (p.1, shown p.1 p.2)).map fun p => (p.1.toLower, p.2) := by
    intro pairs
    rw [List.map_map, List.map_map]
    refine List.map_congr_left fun p _ => ?_
    exact Prod.ext rfl (shown_toLower p.1 p.2)
  rw [mergeHeaders, SortedMap.mapValues_ofList, hpairs, List.map_append]
  rfl

theorem masked_merge (base later : Options) :
    (base.merge later).masked = base.masked.merge later.masked := by
  simp only [masked, merge, Option.map_or, mergeHeaders_shown]

/-- Merging keeps options alike. -/
theorem Alike.merge {base base' later later' : Options} (hbase : base.Alike base')
    (hlater : later.Alike later') : (base.merge later).Alike (base'.merge later') := by
  rw [← masked_eq_iff] at hbase hlater ⊢
  rw [masked_merge, masked_merge, hbase, hlater]

/-- The options that clients are created with for the same address. -/
theorem Alike.of_apiKey (url : String) {key key' : String}
    (h : AlikeKeys (some key) (some key')) :
    Alike { baseUrl := some url, apiKey := some key }
      { baseUrl := some url, apiKey := some key' } := by
  refine masked_eq_iff.mp ?_
  rw [masked, map_concealed_eq_iff.mpr h]
  rfl

end Options

/-- Keys are hidden behind marks. -/
def Veil.mask : Veil where
  hide := Options.masked
  hide_empty := rfl
  hide_merge := Options.masked_merge
  stripNulls _ := rfl
  count _ := rfl
  head _ := rfl
  defaultToNull _ := rfl

theorem map_masked_of_rel {o o' : Option Options} (h : Option.Rel Options.Alike o o') :
    o.map Options.masked = o'.map Options.masked := by
  cases h with
  | none => rfl
  | some h => exact congrArg some (Options.masked_eq_iff.mpr h)

theorem Refinement.Alike.masked {r r' : Refinement} (h : r.Alike r') :
    Veil.mask.refinement r = Veil.mask.refinement r' := by
  obtain ⟨columns, options⟩ := r
  obtain ⟨columns', options'⟩ := r'
  obtain ⟨rfl, hoptions⟩ := h
  exact congrArg (fun o : Option Options => ({ columns, options := o } : Refinement))
    (map_masked_of_rel hoptions)

theorem Writing.Alike.masked {w w' : Writing} (h : w.Alike w') :
    Veil.mask.writing w = Veil.mask.writing w' := by
  cases h with
  | insert values h => exact congrArg (Writing.insert values) (Options.masked_eq_iff.mpr h)
  | upsert values updateBody onConflict h =>
      exact congrArg (Writing.upsert values updateBody onConflict) (Options.masked_eq_iff.mpr h)
  | update values h => exact congrArg (Writing.update values) (Options.masked_eq_iff.mpr h)
  | delete resourceId h =>
      exact congrArg (Writing.delete resourceId) (Options.masked_eq_iff.mpr h)

/-- Alike operations are the same behind the marks. -/
theorem Operation.Alike.masked {op op' : Operation} (h : op.Alike op') :
    Veil.mask.operation op = Veil.mask.operation op' := by
  cases h with
  | same => rfl
  | fetch name columns single keep h =>
      exact congrArg (fun o => Operation.fetch name { columns, single, options := o } keep)
        (map_masked_of_rel h)
  | write name handle h => exact congrArg (Operation.write name · handle) h.masked
  | refine handle h => exact congrArg (Operation.refine handle) h.masked
  | trigger handle single keep h =>
      cases h with
      | none => rfl
      | some h =>
          exact congrArg (fun r => Operation.trigger handle { single, refinement := some r } keep)
            h.masked

theorem Operation.map_masked_of_forall₂ {ops ops' : List Operation}
    (h : List.Forall₂ Operation.Alike ops ops') :
    ops.map Veil.mask.operation = ops'.map Veil.mask.operation := by
  induction h with
  | nil => rfl
  | cons hop _ ih => rw [List.map_cons, List.map_cons, hop.masked, ih]

/-! ## Logs of calls -/

namespace CallLog

/-- A header as monitors get to see it. -/
def redacted (p : String × String) : String × String :=
  (p.1, if p.1.toLower ∈ secretNames then blank else p.2)

theorem redact_ofList (pairs : List (String × String)) :
    redact (.ofList pairs) = .ofList (pairs.map redacted) :=
  SortedMap.mapValues_ofList _ pairs

theorem nonEmpty_concealed (key : Option String) :
    Headers.nonEmpty (key.map concealed) = (Headers.nonEmpty key).map concealed := by
  cases key with
  | none => rfl
  | some key =>
      by_cases h : key = ""
      · subst h
        rfl
      · have hconcealed : concealed key ≠ "" := fun hc => h (concealed_eq_empty_iff.mp hc)
        have hkept : ∀ v : String, v ≠ "" → Headers.nonEmpty (some v) = some v := by
          intro v hv
          simp [Headers.nonEmpty, Option.filter, hv]
        rw [Option.map_some, hkept _ hconcealed, hkept key h, Option.map_some]

theorem toLower_mem_secretNames : ∀ name ∈ secretNames, name.toLower ∈ secretNames := by
  intro name hname
  have hlower : name.toLower = name := by
    rw [← String.toList_inj, toList_toLower]
    rcases List.mem_cons.mp hname with rfl | hname
    · rfl
    rcases List.mem_cons.mp hname with rfl | hname
    · rfl
    rw [List.mem_singleton.mp hname]
    rfl
  rwa [hlower]

/-- A key shows in its header only in that it is there. -/
theorem whenSet_concealed {name : String} (hname : name.toLower ∈ secretNames)
    (key : Option String) :
    (Headers.whenSet name (key.map concealed)).map redacted
      = (Headers.whenSet name key).map redacted := by
  rw [Headers.whenSet, Headers.whenSet, nonEmpty_concealed]
  cases Headers.nonEmpty key with
  | none => rfl
  | some key => simp only [Option.map_some, Option.toList_some, List.map_cons, redacted,
      if_pos hname, List.map_nil]

theorem computed_masked (o : Options) :
    (Headers.computed o.masked).map redacted = (Headers.computed o).map redacted := by
  have hapi := whenSet_concealed (toLower_mem_secretNames "apikey" (by decide)) o.apiKey
  have hxapi := whenSet_concealed (toLower_mem_secretNames "x-api-key" (by decide)) o.apiKey
  have hsupabase :=
    whenSet_concealed (toLower_mem_secretNames "x-supabase-key" (by decide)) o.supabaseKey
  simp only [Headers.computed, List.map_append, Options.masked, hapi, hxapi, hsupabase]
  rfl

theorem extra_masked (o : Options) :
    (Headers.extra o.masked).map redacted = (Headers.extra o).map redacted := by
  have hset : ∀ p : String × String,
      decide (Options.shown p.1 p.2 ≠ "") = decide (p.2 ≠ "") := by
    intro p
    refine decide_eq_decide.mpr ?_
    unfold Options.shown
    split
    case isTrue => exact not_congr concealed_eq_empty_iff
    case isFalse => exact Iff.rfl
  have hredacted : ∀ p : String × String,
      redacted (p.1.toLower, Options.shown p.1 p.2) = redacted (p.1.toLower, p.2) := by
    intro p
    unfold redacted Options.shown
    rw [toLower_toLower]
    split <;> rfl
  have hentries : o.masked.headers.entries
      = o.headers.entries.map fun p => (p.1, Options.shown p.1 p.2) := rfl
  have hfilter : o.masked.headers.entries.filter (fun p => p.2 ≠ "")
      = (o.headers.entries.filter fun p => p.2 ≠ "").map
          fun p => (p.1, Options.shown p.1 p.2) := by
    rw [hentries, List.filter_map]
    exact congrArg _ (List.filter_congr fun p _ => hset p)
  rw [Headers.extra, Headers.extra, hfilter, List.map_map, List.map_map, List.map_map]
  exact List.map_congr_left fun p _ => hredacted p

/-- The log of a call is the same with marks in place of the keys. -/
theorem ofRequest_masked (r : Request) (o : Options) :
    ofRequest r o.masked = ofRequest r o := by
  have hheaders : redact (.ofOptions o.masked) = redact (.ofOptions o) := by
    rw [Headers.ofOptions, Headers.ofOptions, redact_ofList, redact_ofList, List.map_append,
      List.map_append, computed_masked, extra_masked]
  rw [ofRequest, ofRequest, make, make, hheaders]

end CallLog

end TableGateway
