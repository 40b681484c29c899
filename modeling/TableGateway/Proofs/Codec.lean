/-
Codecs: JSON forms together with their decoders.

A `Codec` writes the values of a type as JSON and reads each of them back in its
canonical form.  The codec of a record comes from those of its fields: the pairs
that are written stand under names of the record in the order of its declaration,
and what is read from them is the value (`Record.Reads`).  That is shown field by
field, as the record lists them (`Reads.add`), and then holds of the object that
the pairs make (`Reads.decode`).
-/
import TableGateway.Payload
import TableGateway.Response

namespace TableGateway

/-- A JSON form for the values of a type, and a decoder that reads it. -/
structure Codec (α : Type) where
  encode : α → Json
  decode : Decoder α
  /-- What a value reads as. -/
  canonical : α → α
  decode_encode : ∀ a, decode (encode a) = .ok (canonical a)

namespace Codec

variable {α : Type}

/-- What a value reads as where null stands for no value. -/
def present (c : Codec α) (a : α) : Option α :=
  if (c.encode a).isNull then none else some (c.canonical a)

/-- No value is written as null. -/
def Solid (c : Codec α) : Prop := ∀ a, (c.encode a).isNull = false

/-- Every value is written as something and reads as itself. -/
structure Plain (c : Codec α) : Prop where
  solid : c.Solid
  same : ∀ a, c.canonical a = a

theorem nullable_encode (c : Codec α) (a : α) :
    Decode.nullable c.decode (c.encode a) = .ok (c.present a) := by
  have hread := c.decode_encode a
  unfold present
  cases hv : c.encode a with
  | null => rfl
  | _ =>
      rw [hv] at hread
      show (c.decode _).map some = _
      rw [hread]
      rfl

theorem Solid.bind {c : Codec α} (h : c.Solid) (value : Option α) :
    value.bind c.present = value.map c.canonical := by
  cases value with
  | none => rfl
  | some a =>
      show c.present a = some (c.canonical a)
      rw [present, h a]
      rfl

theorem Plain.bind {c : Codec α} (h : c.Plain) (value : Option α) :
    value.bind c.present = value := by
  rw [h.solid.bind]
  cases value with
  | none => rfl
  | some a => exact congrArg some (h.same a)

end Codec

/-! ## Records -/

namespace Record

variable {α β : Type}

def names (r : Record α) : List String := r.fields.map RecordField.name

/-- Read from these pairs, whatever else is given, the record makes this value. -/
structure Reads (r : Record α) (pairs : List (String × Json)) (a : α) : Prop where
  keys : (pairs.map Prod.fst).Sublist r.names
  check : r.names.Nodup → ∀ f ∈ r.fields, ∀ v, (f.name, v) ∈ pairs → f.check v = .ok ()
  build : r.names.Nodup → ∀ get : String → Option Json,
    (∀ name ∈ r.names, get name = pairs.lookup name) → r.build get = .ok a

theorem lookup_eq_none_of_not_mem {pairs : List (String × Json)} {name : String}
    (h : name ∉ pairs.map Prod.fst) : pairs.lookup name = none := by
  refine List.lookup_eq_none_iff.mpr ?_
  intro p hp
  exact bne_iff_ne.mpr fun heq => h (heq ▸ List.mem_map_of_mem hp)

theorem reads_pure (a : α) : (pure a).Reads [] a where
  keys := List.Sublist.slnil
  check _ _ hf := absurd hf List.not_mem_nil
  build _ _ _ := rfl

/-- The pairs of one more field come after those of the record. -/
theorem Reads.add {r : Record (α → β)} {field : Record α} {pairs pairs' : List (String × Json)}
    {g : α → β} {a : α} (hr : r.Reads pairs g) (hfield : field.Reads pairs' a) :
    (r.add field).Reads (pairs ++ pairs') (g a) := by
  have hnames : (r.add field).names = r.names ++ field.names := List.map_append
  have hkeys : ∀ {name}, name ∈ pairs.map Prod.fst → name ∈ r.names := fun h => hr.keys.subset h
  have hkeys' : ∀ {name}, name ∈ pairs'.map Prod.fst → name ∈ field.names :=
    fun h => hfield.keys.subset h
  constructor
  case keys =>
    rw [hnames, List.map_append]
    exact hr.keys.append hfield.keys
  case check =>
    intro hnodup f hf v hmem
    rw [hnames] at hnodup
    obtain ⟨hnodup, hnodup', hdisjoint⟩ := List.nodup_append.mp hnodup
    rcases List.mem_append.mp hf with hf | hf <;> rcases List.mem_append.mp hmem with hmem | hmem
    · exact hr.check hnodup f hf v hmem
    · exact absurd rfl (hdisjoint _ (List.mem_map_of_mem hf) _ (hkeys' (List.mem_map_of_mem hmem)))
    · exact absurd rfl (hdisjoint _ (hkeys (List.mem_map_of_mem hmem)) _ (List.mem_map_of_mem hf))
    · exact hfield.check hnodup' f hf v hmem
  case build =>
    intro hnodup get hget
    rw [hnames] at hnodup hget
    obtain ⟨hnodup, hnodup', hdisjoint⟩ := List.nodup_append.mp hnodup
    have hleft : ∀ name ∈ r.names, get name = pairs.lookup name := by
      intro name hname
      have hnot : name ∉ pairs'.map Prod.fst := fun h => hdisjoint _ hname _ (hkeys' h) rfl
      rw [hget name (List.mem_append_left _ hname), List.lookup_append,
        lookup_eq_none_of_not_mem hnot, Option.or_none]
    have hright : ∀ name ∈ field.names, get name = pairs'.lookup name := by
      intro name hname
      have hnot : name ∉ pairs.map Prod.fst := fun h => hdisjoint _ (hkeys h) _ hname rfl
      rw [hget name (List.mem_append_right _ hname), List.lookup_append,
        lookup_eq_none_of_not_mem hnot, Option.none_or]
    simp only [Record.add, hr.build hnodup get hleft, hfield.build hnodup' get hright]

theorem reads_required (c : Codec α) (name : String) (a : α) :
    (required name c.decode).Reads [(name, c.encode a)] (c.canonical a) := by
  constructor
  case keys => exact List.Sublist.refl _
  case check =>
    intro _ f hf v hmem
    cases List.mem_singleton.mp hf
    cases List.mem_singleton.mp hmem
    show (c.decode (c.encode a)).map _ = _
    rw [c.decode_encode]
    rfl
  case build =>
    intro _ get hget
    have hname := hget name List.mem_cons_self
    simp only [required, hname, List.lookup_cons_self, c.decode_encode]

theorem reads_absentOr {d : Decoder α} {v : Json} {a : Option α}
    (h : Decode.nullable d v = .ok a) (presence : Presence) (name : String) :
    (absentOr presence name d).Reads [(name, v)] a := by
  constructor
  case keys => exact List.Sublist.refl _
  case check =>
    intro _ f hf w hmem
    cases List.mem_singleton.mp hf
    cases List.mem_singleton.mp hmem
    show (Decode.nullable d v).map _ = _
    rw [h]
    rfl
  case build =>
    intro _ get hget
    have hname := hget name List.mem_cons_self
    simp only [absentOr, hname, List.lookup_cons_self, h]

theorem reads_given (c : Codec α) (presence : Presence) (name : String) :
    ∀ value : Option α, (absentOr presence name c.decode).Reads
      (Payload.given name c.encode value) (value.bind c.present)
  | some a => reads_absentOr (c.nullable_encode a) presence name
  | none =>
      { keys := List.nil_sublist _
        check := fun _ _ _ _ hmem => absurd hmem List.not_mem_nil
        build := fun _ get hget => by
          have hname : get name = none := hget name List.mem_cons_self
          simp only [absentOr, hname]
          rfl }

theorem checkFields_eq_ok {fields : List RecordField} {given : List (String × Json)}
    (h : ∀ f ∈ fields, ∀ v, (f.name, v) ∈ given → f.check v = .ok ()) :
    checkFields fields given = .ok () := by
  induction given with
  | nil => rfl
  | cons p rest ih =>
      obtain ⟨k, v⟩ := p
      have hrest : checkFields fields rest = .ok () :=
        ih fun f hf v hmem => h f hf v (List.mem_cons_of_mem _ hmem)
      unfold checkFields
      cases hfind : fields.find? (·.name = k) with
      | none => exact hrest
      | some f =>
          have hname : f.name = k := by simpa using List.find?_some hfind
          have hcheck : f.check v = .ok () :=
            h f (List.mem_of_find?_eq_some hfind) v (hname ▸ List.mem_cons_self)
          simp only [hcheck, hrest]

/-- The object of the pairs has them in key order, which makes no difference. -/
theorem Reads.decode {r : Record α} {pairs : List (String × Json)} {a : α} (h : r.Reads pairs a)
    (hnodup : r.names.Nodup) (name : String) : r.decode name (.ofFields pairs) = .ok a := by
  have hkeys : (pairs.map Prod.fst).Nodup := h.keys.nodup hnodup
  have hentries := SortedMap.entries_ofList pairs
  have hlookup : ∀ name, (Entries.sort pairs).lookup name = pairs.lookup name := by
    intro name
    rw [← hentries]
    exact SortedMap.get?_ofList_of_nodup hkeys name
  have hcheck : checkFields r.fields (Entries.sort pairs) = .ok () := by
    apply checkFields_eq_ok
    intro f hf v hmem
    rw [← hentries, ← SortedMap.get?_eq_some_iff, SortedMap.get?_ofList_of_nodup hkeys,
      Entries.lookup_eq_some_iff_mem hkeys] at hmem
    exact h.check hnodup f hf v hmem
  have hbuild := h.build hnodup _ fun name _ => hlookup name
  simp only [Record.decode, Json.ofFields, hcheck, hbuild]

/-- A value that is not written as null is there when it is read. -/
theorem reads_solid {c : Codec α} (h : c.Solid) (presence : Presence) (name : String)
    (value : Option α) : (absentOr presence name c.decode).Reads
      (Payload.given name c.encode value) (value.map c.canonical) :=
  h.bind value ▸ reads_given c presence name value

theorem reads_plain {c : Codec α} (h : c.Plain) (presence : Presence) (name : String)
    (value : Option α) : (absentOr presence name c.decode).Reads
      (Payload.given name c.encode value) value := by
  have hreads := reads_given c presence name value
  rwa [h.bind value] at hreads

/-- A field that is always written, as null when there is no value for it. -/
theorem reads_orNull (c : Codec α) (presence : Presence) (name : String) :
    ∀ value : Option α, (absentOr presence name c.decode).Reads
      [(name, Response.orNull (value.map c.encode))] (value.bind c.present)
  | some a => reads_absentOr (c.nullable_encode a) presence name
  | none => reads_absentOr (v := .null) rfl presence name

end Record

namespace Codec

variable {α : Type}

/-- The codec of a record that reads the pairs written for each value. -/
def ofRecord (r : Record α) (name : String) (pairs : α → List (String × Json))
    (canonical : α → α) (hnodup : r.names.Nodup) (h : ∀ a, r.Reads (pairs a) (canonical a)) :
    Codec α where
  encode a := .ofFields (pairs a)
  decode := r.decode name
  canonical := canonical
  decode_encode a := (h a).decode hnodup name

theorem items_map (c : Codec α) (as : List α) :
    Decode.items c.decode (as.map c.encode) = .ok (as.map c.canonical) := by
  induction as with
  | nil => rfl
  | cons a as ih =>
      simp only [List.map_cons, Decode.items, c.decode_encode, ih]

/-- Lists are arrays. -/
def list (c : Codec α) : Codec (List α) where
  encode as := .array (as.map c.encode)
  decode := Decode.list c.decode
  canonical as := as.map c.canonical
  decode_encode := c.items_map

end Codec

end TableGateway
