/-
Collapsing: one row, taken before or after the rows are decoded.

Who wants one typed row may decode all rows and take the first, or take the first item of
the data as it came and decode that alone.  Where rows are decoded one by one (`RowWise`)
the second way yields whatever the first yields (`Result.single_decode`).  It may yield
more, as it looks at no other row.  A failed result has no data: every decoder takes it, and
nothing that is made of it has data or another error (`collapse_decode`).
-/
import TableGateway.Proofs.FilterValues
import TableGateway.Proofs.Normalization

namespace TableGateway

/-- What is read as rows is an array, and each of its items is read as a row. -/
def RowWise {α : Type} (rows : Decoder (List α)) (row : Decoder α) : Prop :=
  ∀ v as, rows v = .ok as →
    ∃ items, v = .array items ∧ List.Forall₂ (fun item a => row item = .ok a) items as

theorem rowWise_list {α : Type} (d : Decoder α) : RowWise (Decode.list d) d := by
  intro v as h
  cases v with
  | array items => exact ⟨items, rfl, Decode.items_eq_ok_iff.mp h⟩
  | _ => cases h

namespace Result

variable {α : Type}

theorem decode_of_no_data {r : Result Json} (h : r.data = none) (d : Decoder α) :
    r.decode d = .ok { r with data := none } := by
  simp only [decode, h]

theorem decode_of_data {r : Result Json} {v : Json} (h : r.data = some v) {d : Decoder α} {a : α}
    (ha : d v = .ok a) : r.decode d = .ok { r with data := some a } := by
  simp only [decode, h, ha]

/-- The first row can be decoded alone if all rows can be decoded, and is the first of them. -/
theorem single_decode {rows : Decoder (List α)} {row : Decoder α} (h : RowWise rows row)
    {q : Result Json} {typed : Result (List α)} (hq : q.decode rows = .ok typed) :
    q.single.decode row = .ok { q with data := typed.data.bind List.head? } := by
  rcases decode_cases hq with ⟨hnone, rfl⟩ | ⟨v, as, hv, has, rfl⟩
  · have hsingle : q.single.data = none := by rw [single, hnone]; rfl
    exact decode_of_no_data hsingle row
  · obtain ⟨items, rfl, hitems⟩ := h v as has
    have hsingle : q.single.data = items.head? := by rw [single, hv]; rfl
    cases hitems with
    | nil => exact decode_of_no_data hsingle row
    | cons ha _ => exact decode_of_data hsingle ha

/-- The single row of a result may be decoded where the rows are not. -/
example :
    let q : Result Json :=
      { data := some (.array [.ofNat 7, .string "seven"]), error := none, status := 200
        raw := .null }
    (∃ one, q.single.decode Decode.int64 = .ok one ∧ one.data = some 7) ∧
      ∃ e, q.decode (Decode.list Decode.int64) = .error e :=
  ⟨⟨_, rfl, rfl⟩, _, rfl⟩

theorem ofResponse_of_not_ok {response : Response} (h : response.ok = false) :
    ∃ e, ofResponse response
      = { data := none, error := some e, status := response.status, raw := response.raw } :=
  ⟨_, if_neg (Bool.eq_false_iff.mp h)⟩

end Result

/-- If the rows of any result can be decoded one by one, then its single row can, and it is
the first of them; there is none if there are no data or no rows.  The rest of the result
stays.  The result of a response that is no success has an error and no data, and so has
whatever collapsing, mapping and decoding make of it, in any order; no decoder fails on it. -/
theorem collapse_decode :
    (∀ (α : Type) (rows : Decoder (List α)) (row : Decoder α), RowWise rows row →
      ∀ (q : Result Json) (typed : Result (List α)), q.decode rows = .ok typed →
        ∃ one, q.single.decode row = .ok one ∧ one.data = typed.data.bind List.head? ∧
          one.error = q.error ∧ one.status = q.status ∧ one.raw = q.raw) ∧
    ∀ response : Response, response.ok = false →
      let q := Result.ofResponse response
      ∃ e, q.error = some e ∧
        (∀ (β : Type) (r : Result β), q.Leads r →
          r.data = none ∧ r.error = some e ∧ r.status = response.status ∧
            r.raw = response.raw) ∧
        ∀ r : Result Json, q.Leads r → ∀ (β : Type) (d : Decoder β),
          ∃ r', r.decode d = .ok r' ∧ q.Leads r' := by
  refine ⟨?rows, ?failed⟩
  case rows =>
    intro α rows row h q typed hq
    exact ⟨_, Result.single_decode h hq, rfl, rfl, rfl, rfl⟩
  case failed =>
    intro response hfailed q
    obtain ⟨e, hq⟩ := Result.ofResponse_of_not_ok hfailed
    have hq : q = _ := hq
    have hkeeps : ∀ (β : Type) (r : Result β), q.Leads r →
        r.data = none ∧ r.error = some e ∧ r.status = response.status ∧ r.raw = response.raw := by
      intro β r hr
      obtain ⟨herror, hstatus, hraw, hdata⟩ := hr.keeps fun _ => congrArg Result.data hq
      have he : r.error = some e := herror.trans (congrArg Result.error hq)
      refine ⟨hdata ?_, he, hstatus.trans (congrArg Result.status hq),
        hraw.trans (congrArg Result.raw hq)⟩
      rw [he]
      exact nofun
    refine ⟨e, congrArg Result.error hq, hkeeps, ?_⟩
    intro r hr β d
    have hd := Result.decode_of_no_data (hkeeps Json r hr).1 d
    exact ⟨_, hd, .decode d hr hd⟩

/-- The first of two rows that are arrays themselves, and a failure without a message. -/
theorem collapse_decode_nested :
    let q : Result Json :=
      { data := some (.array [.array [.ofNat 7], .array []]), error := none, status := 200
        raw := .null }
    (∃ one, q.single.decode (Decode.list Decode.int64) = .ok one ∧ one.data = some [7]) ∧
    ∃ e r, (Result.ofResponse (.ofBody 500 .null)).single.decode Decode.int64 = .ok r ∧
      r.error = some e := by
  intro q
  obtain ⟨hrows, hfailed⟩ := collapse_decode
  obtain ⟨one, hone, hdata, -⟩ := hrows _ _ _ (rowWise_list (Decode.list Decode.int64)) q
    { q with data := some [[7], []] } rfl
  obtain ⟨e, -, hkeeps, hdecode⟩ := hfailed (.ofBody 500 .null) rfl
  obtain ⟨r, hr, hleads⟩ := hdecode _ (.single .refl) _ Decode.int64
  exact ⟨⟨one, hone, hdata⟩, e, r, hr, (hkeeps _ r hleads).2.1⟩

end TableGateway
