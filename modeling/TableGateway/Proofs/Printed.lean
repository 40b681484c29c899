/-
Printed values: no number and no JSON value is printed as the empty text.

Every layout has digits or a word for each number (`Layout.write_ne_empty`), and JSON has
quotes, brackets or a word for what is not a number (`Json.text_ne_empty`).
-/
import TableGateway.Json.Printer

namespace TableGateway

/-! ## Numbers -/

namespace Layout

theorem digitsOf_ne_nil (n : Nat) : digitsOf n ≠ [] := by
  intro h
  exact Nat.repr_ne_empty (String.toList_eq_nil_iff.mp h)

theorem positionalText_ne_nil (point : Bool) (d : Decimal) : positionalText point d ≠ [] := by
  simp only [positionalText]
  split
  case isTrue =>
    rw [List.append_assoc]
    exact List.append_ne_nil_of_left_ne_nil (digitsOf_ne_nil d.digits) _
  case isFalse =>
    split
    case isTrue => exact List.append_ne_nil_of_right_ne_nil _ (List.cons_ne_nil _ _)
    case isFalse => exact nofun

theorem decimalText_ne_nil (l : Layout) (d : Decimal) : l.decimalText d ≠ [] := by
  simp only [decimalText]
  split
  · exact positionalText_ne_nil l.point d
  · split
    · exact positionalText_ne_nil l.point d
    · exact List.append_ne_nil_of_right_ne_nil _ (digitsOf_ne_nil _)

theorem magnitudeText_ne_nil (l : Layout) : ∀ m : Magnitude, l.magnitudeText m ≠ []
  | .infinite => nofun
  | .finite 0 _ => by
      simp only [magnitudeText]
      split <;> exact nofun
  | .finite (_ + 1) _ => decimalText_ne_nil l _

theorem write_ne_empty (l : Layout) (x : Binary64) : l.write x ≠ "" := by
  unfold write
  split
  case isTrue => decide
  case isFalse =>
    intro h
    have hnil := String.ofList_eq_empty_iff.mp h
    split at hnil
    · cases hnil
    · exact magnitudeText_ne_nil l _ hnil

end Layout

theorem int_repr_ne_empty (n : Int) : Int.repr n ≠ "" := by
  rw [Int.repr_eq_if]
  split
  · exact Nat.repr_ne_empty
  · intro h
    exact Nat.repr_ne_empty (String.append_eq_empty_iff.mp h).2

/-! ## JSON values -/

theorem Json.text_ne_empty (v : Json) : v.text ≠ "" := by
  cases v with
  | null => simp [text]
  | bool b => cases b <;> simp [text]
  | integer n => exact int_repr_ne_empty n.val
  | float x => exact Layout.json.write_ne_empty x.val
  | string s => simp [text, quote]
  | array items => simp [text]
  | object fields => simp [text]

end TableGateway
