/-
Blank rows: deletes that name a row by the empty text.

An empty id that comes with a delete counts as none.  The value of a filter is not looked at
so: an equality on a row id whose value reads as the empty text makes the delete name the row
of the empty text.  Of all filter values four read so (`ConditionValue.display_eq_empty_iff`),
and a delete names the empty text exactly when no id comes with it and its first equality on
a row id has one of them (`blank_row_iff`).
-/
import TableGateway.Proofs.BoundedDelete
import TableGateway.Proofs.Printed

namespace TableGateway

open Session

variable {σ τ : Type}

/-! ## Values that read as nothing -/

/-- Of the scalars the empty text alone reads as nothing. -/
theorem Scalar.display_eq_empty_iff (s : Scalar) : s.display = "" ↔ s = .text "" := by
  cases s with
  | null => simp [display]
  | bool b => cases b <;> simp [display]
  | int n => simp [display, int_repr_ne_empty]
  | uint n => simp [display, Nat.repr_ne_empty]
  | float x => simp [display, Layout.write_ne_empty]
  | text s => simp [display]

namespace ConditionValue

/-- The values that read as the empty text: an empty text, an empty expression, and a list
without items or with an empty text alone. -/
inductive Blank : ConditionValue → Prop where
  | text : Blank (.scalar (.text ""))
  | expr : Blank (.expr "")
  | noItems : Blank (.list [])
  | emptyItem : Blank (.list [.text ""])

theorem display_eq_empty_iff (v : ConditionValue) : v.display = "" ↔ v.Blank := by
  constructor
  · intro h
    cases v with
    | scalar s =>
        cases (Scalar.display_eq_empty_iff s).mp h
        exact .text
    | expr e =>
        cases (h : e = "")
        exact .expr
    | list items =>
        cases items with
        | nil => exact .noItems
        | cons s rest =>
            cases rest with
            | nil =>
                rw [display, List.map_singleton, String.intercalate_singleton] at h
                cases (Scalar.display_eq_empty_iff s).mp h
                exact .emptyItem
            | cons s' rest =>
                -- the comma between two items shows
                simp [display] at h
  · intro h
    cases h <;> rfl

end ConditionValue

/-! ## Rows named by the empty text -/

/-- No id comes with the delete, and the value of the first equality on a row id reads as
the empty text. -/
def BlankRow (given : Option String) (cs : List Condition) : Prop :=
  (given = none ∨ given = some "") ∧
    ∃ earlier c later v, cs = earlier ++ c :: later ∧ (∀ e ∈ earlier, ¬e.OnRowId) ∧ c.OnRowId ∧
      c.value = some v ∧ v.Blank

theorem names_empty_iff (given : Option String) (cs : List Condition) :
    Names given cs (some "") ↔ BlankRow given cs := by
  constructor
  · intro h
    generalize hid : some "" = id at h
    cases h with
    | given h hne =>
        cases hid
        exact absurd rfl hne
    | first h hcs hearlier hc hv hne =>
        have hblank := (ConditionValue.display_eq_empty_iff _).mp (Option.some.inj hid).symm
        exact ⟨h, _, _, _, _, hcs, hearlier, hc, hv, hblank⟩
    | valueless | unnamed => cases hid
  · rintro ⟨h, earlier, c, later, v, hcs, hearlier, hc, hv, hblank⟩
    have hne : v ≠ .scalar .null := by
      rintro rfl
      cases hblank
    have hnames := Names.first h hcs hearlier hc hv hne
    rwa [(ConditionValue.display_eq_empty_iff v).mpr hblank] at hnames

namespace Session

/-- Of all deletes on queries of any run, under every refinement, and of all deletes that
the transport receives in it: a delete names no row or one by a text that is not empty,
unless no id comes with it and its first equality on a row id has a value that reads as the
empty text; then, and only then, it names the row of the empty text. -/
theorem blank_row_iff (t : Transport σ τ) (surroundings : σ) (defaults : Options)
    (ops : List Operation) :
    (∀ name q given o w, ((start t surroundings defaults).run ops).queries.get? name = some q →
      described q (.delete given o) = .ok w →
        ∀ r, ∃ p, w.requestFor r = .delete p ∧
          (p.resourceId = some "" ↔ BlankRow given q.conditions)) ∧
    ∀ p options, (.delete p, options) ∈ (traffic t surroundings defaults ops).received →
      let c := (start t surroundings defaults).account ops
      ∃ n d given o, c.writes[n]? = some d ∧ d.writing = .delete given o ∧
        c.request? (traffic t surroundings defaults ops) (.write n) = some (.delete p, options) ∧
        (p.resourceId = some "" ↔ BlankRow given (d.draft.query defaults).conditions) := by
  refine ⟨?described, ?received⟩
  case described =>
    intro name q given o w _ hw r
    obtain ⟨p, hp, hbounded⟩ := Query.bounded_of_delete hw r
    exact ⟨p, hp, (hbounded.row (some "")).trans (names_empty_iff given q.conditions)⟩
  case received =>
    intro p options hreceived c
    obtain ⟨n, d, given, o, w, r, hd, hwriting, hrequest, hw, hp⟩ :=
      exists_described_of_received t surroundings defaults ops hreceived
    obtain ⟨p', hp', hbounded⟩ := Query.bounded_of_delete hw r
    cases hp'.symm.trans hp
    exact ⟨n, d, given, o, hd, hwriting, hrequest,
      (hbounded.row (some "")).trans (names_empty_iff given _)⟩

/-- A delete of the user whose id is the empty text, by a filter. -/
def deleteBlankUser : List Operation :=
  [.openQuery "users" "users", .clause "users" (.filter (.eq "id" (.text ""))),
    .write "users" (.delete none {}) "handle", .trigger "handle" {} none]

/-- It names a row, by the empty text. -/
theorem not_nonEmpty_deleteBlankUser :
    ∃ p options,
      (traffic Script.transport {} {} deleteBlankUser).received = [(.delete p, options)] ∧
      p.resourceId = some "" :=
  ⟨_, _, rfl, rfl⟩

/-- So the row of its handle is blank; with an id given besides, it would not be. -/
theorem blank_row_deleteBlankUser :
    let c := (start Script.transport {} {}).account deleteBlankUser
    (∃ (n : Nat) (d : Described) (given : Option String), c.writes[n]? = some d ∧
      BlankRow given (d.draft.query {}).conditions) ∧
    ∃ q w, ((start Script.transport {} {}).run deleteBlankUser).queries.get? "users" = some q ∧
      described q (.delete (some "7") {}) = .ok w ∧
      ∀ r, ∃ p, w.requestFor r = .delete p ∧ p.resourceId ≠ some "" := by
  intro c
  obtain ⟨hdescribed, hreceived⟩ := blank_row_iff Script.transport {} {} deleteBlankUser
  obtain ⟨n, d, given, o, hd, -, -, hblank⟩ := hreceived _ _ (List.mem_singleton_self _)
  refine ⟨⟨n, d, given, hd, hblank.mp rfl⟩, _, _, rfl, rfl, ?_⟩
  intro r
  obtain ⟨p', hp', hblank'⟩ := hdescribed "users" _ (some "7") {} _ rfl rfl r
  refine ⟨p', hp', fun hempty => ?_⟩
  obtain ⟨hgiven, -⟩ := hblank'.mp hempty
  rcases hgiven with hnone | hempty
  · cases hnone
  · exact absurd (Option.some.inj hempty) (by decide)

end Session

end TableGateway
