/-
Null fields: what the body and the headers of a request say of them.

A fetch and an update say in their body whether null fields are to be dropped
from rows, and every request says it in a header.  The body is put together by
the query or the handle and the headers by the transport, each from the options
that it has at hand.  These are the same options, and what they say is what the
innermost layer that says anything says (`null_fields_agree`); only a header that
the caller adds under this name takes the place of the one that is computed.
-/
import TableGateway.Proofs.HeaderTable
import TableGateway.Proofs.Precedence
import TableGateway.Proofs.RoundTrip

namespace TableGateway

variable {σ τ : Type}

/-! ## Bodies -/

namespace Request

/-- No body has two fields of one name. -/
theorem nodup_keys (r : Request) : (r.fields.map Prod.fst).Nodup := by
  cases r with
  | fetch p => exact p.reads.keys.nodup (by decide)
  | insert p => exact p.reads.keys.nodup (by decide)
  | update p => exact p.reads.keys.nodup (by decide)
  | delete p => exact p.reads.keys.nodup (by decide)

theorem field?_toJson {r : Request} {name : String} {v : Json} (h : (name, v) ∈ r.fields) :
    r.toJson.field? name = some v := by
  show (Entries.sort r.fields).lookup name = some v
  rw [← SortedMap.entries_ofList]
  exact (SortedMap.get?_ofList_of_nodup r.nodup_keys name).trans
    (Entries.lookup_of_mem r.nodup_keys h)

/-- A kind of request whose body says whether null fields are dropped. -/
def SaysNulls (r : Request) : Prop := r.endpoint = .fetch ∨ r.endpoint = .update

end Request

theorem Query.mem_fields_payload (q : Query) (columns : Columns) (merged : Options) :
    ("strip_nulls", Json.bool merged.stripsNulls) ∈ (q.payload columns merged).fields := by
  simp [Query.payload, Payload.Fetch.fields, Payload.given]

theorem Mutation.mem_fields_request {m : Mutation} {table : String} {columns : Columns}
    {o : Options} (h : (m.request table columns o).SaysNulls) :
    ("strip_nulls", Json.bool o.stripsNulls) ∈ (m.request table columns o).fields := by
  cases m with
  | update values conditions =>
      simp [Mutation.request, Request.fields, Payload.Update.fields, Payload.given]
  | insert values | upsert values updateBody onConflict | delete resourceId conditions =>
      rcases h with h | h <;> cases h

/-- What is due says in its body what the options say that go with it. -/
theorem Chronicle.mem_fields_of_sent {c : Chronicle} {defaults : Options} {o : Origin}
    {content : Request × Options} (h : c.sent defaults o = some content)
    (hkind : content.1.SaysNulls) :
    ("strip_nulls", Json.bool content.2.stripsNulls) ∈ content.1.fields := by
  cases o with
  | fetch n =>
      obtain ⟨f, -, rfl⟩ := Option.map_eq_some_iff.mp h
      exact Query.mem_fields_payload _ _ _
  | write n =>
      obtain ⟨d, -, hcontent⟩ := Option.bind_eq_some_iff.mp h
      obtain ⟨w, r, -, -, rfl⟩ := Chronicle.content_eq_some_iff.mp hcontent
      exact Mutation.mem_fields_request hkind

/-! ## Headers -/

namespace Headers

/-- Unless a header of this name was added with a value, it tells what the option says. -/
theorem get?_nulls_of_option {o : Options}
    (h : ∀ name v, o.headers.get? name = some v → name.toLower = "x-strip-nulls" → v = "") :
    (ofOptions o).get? "x-strip-nulls" = some (if o.stripsNulls then "true" else "false") :=
  get?_ofOptions_eq_some_iff.mpr (Or.inr ⟨not_added_of_empty h, calledFor_nulls o⟩)

/-- A header that was added with a value is there. -/
theorem get?_of_lowercase {o : Options} (h : o.Lowercase) {name v : String}
    (hname : o.headers.get? name = some v) (hvalue : v ≠ "") :
    (ofOptions o).get? name.toLower = some v :=
  get?_ofOptions_eq_some_iff.mpr (Or.inl (added_of_lowercase h hname hvalue))

end Headers

/-! ## Both of them -/

namespace Session

/-- Of every fetch and every update that a transport receives in any run: its body
says whether null fields are dropped, and says what the innermost layer says that
sets this option, or that they are if none does.  The options that come with it
say the same, and so does their header, unless they have a header of that name
with a value; that is then the header. -/
theorem null_fields_agree (t : Transport σ τ) (surroundings : σ) (defaults : Options)
    (ops : List Operation) :
    let c := (start t surroundings defaults).account ops
    let traffic := traffic t surroundings defaults ops
    ∀ content ∈ traffic.received, content.1.SaysNulls →
      ∃ origin layers, c.request? traffic origin = some content ∧
        c.layers? origin = some layers ∧
        let strips := (lastSet Options.stripNulls (defaults :: layers)).getD true
        content.1.toJson.field? "strip_nulls" = some (.bool strips) ∧
        content.2.stripsNulls = strips ∧
        ((∀ name v, content.2.headers.get? name = some v → name.toLower = "x-strip-nulls" →
            v = "") →
          (Headers.ofOptions content.2).get? "x-strip-nulls"
            = some (if strips then "true" else "false")) ∧
        ∀ name v, content.2.headers.get? name = some v → name.toLower = "x-strip-nulls" →
          v ≠ "" → (Headers.ofOptions content.2).get? "x-strip-nulls" = some v := by
  intro c traffic content hreceived hkind
  obtain ⟨owners, polls, h⟩ := exists_agrees_account t surroundings defaults ops
  obtain ⟨origin, hsent, hrequest⟩ := h.exists_origin hreceived
  rw [defaults_observed] at hsent
  obtain ⟨layers, hlayers, hcontent⟩ := Chronicle.options_of_sent hsent
  have hset : content.2.stripNulls = lastSet Options.stripNulls (defaults :: layers) := by
    rw [hcontent]
    exact Options.Overlays.foldl ⟨rfl, fun _ _ => rfl⟩ _
  have hstrips : content.2.stripsNulls
      = (lastSet Options.stripNulls (defaults :: layers)).getD true := by
    rw [Options.stripsNulls, hset]
  have hlowercase : content.2.Lowercase := hcontent ▸ Options.lowercase_foldl defaults layers
  refine ⟨origin, layers, hrequest, hlayers, ?_, hstrips, ?_, ?_⟩
  · rw [← hstrips]
    exact Request.field?_toJson (Chronicle.mem_fields_of_sent hsent hkind)
  · intro hempty
    rw [← hstrips]
    exact Headers.get?_nulls_of_option hempty
  · intro name v hname hk hvalue
    rw [← hk]
    exact Headers.get?_of_lowercase hlowercase hname hvalue

/-- An update with an option of its own, set off with an extra header that has no
value. -/
def keepingUpdate : List Operation :=
  [.openQuery "users" "users",
    .write "users" (.update (.map []) { stripNulls := some false }) "handle",
    .trigger "handle"
      { refinement := some
          { options := some { headers := SortedMap.empty.insert "X-Strip-Nulls" "" } } } none]

/-- The update keeps null fields, whatever the client says. -/
theorem null_fields_agree_keepingUpdate :
    ∃ content ∈ (traffic Script.transport {} { stripNulls := some true } keepingUpdate).received,
      content.1.SaysNulls ∧ content.1.toJson.field? "strip_nulls" = some (.bool false) ∧
        (Headers.ofOptions content.2).get? "x-strip-nulls" = some "false" := by
  obtain ⟨content, hcontent, hupdate, hkeeps, hadded⟩ :
      ∃ content ∈ (traffic Script.transport {} { stripNulls := some true } keepingUpdate).received,
        content.1.endpoint = .update ∧ content.2.stripsNulls = false ∧
          content.2.headers.entries = [("X-Strip-Nulls".toLower, "")] :=
    ⟨_, List.mem_of_getElem? (i := 0) rfl, rfl, rfl, rfl⟩
  obtain ⟨origin, layers, -, -, hbody, hstrips, hheader, -⟩ :=
    null_fields_agree Script.transport {} { stripNulls := some true } keepingUpdate content
      hcontent (Or.inr hupdate)
  rw [← hstrips, hkeeps] at hbody hheader
  refine ⟨content, hcontent, Or.inr hupdate, hbody, hheader ?_⟩
  intro name v hname _
  have hmem := SortedMap.get?_eq_some_iff.mp hname
  rw [hadded] at hmem
  exact (Prod.mk.inj (List.mem_singleton.mp hmem)).2

end Session

end TableGateway
