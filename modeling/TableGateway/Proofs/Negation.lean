/-
Negations: what a composed expression tells.

The negation of a comparison is sent as one expression, the column, the operator and the
value with dots between them.  No operator has a dot in its name, so if the column has none
the first two dots of the expression are those two, whatever the value reads as
(`Negation.parts_expression`); and the items of a list are told apart if none of them has a
comma (`Negation.itemTexts_display`).  A string literal tells its text
(`Json.quote_injective`), so on the wire as well two negations are the same only if they
negate the same (`Condition.negation_unambiguous`).
-/
import Mathlib.Data.List.Forall2
import TableGateway.Payload

namespace TableGateway

/-! ## String literals -/

namespace Json

/-- The characters that are escaped. -/
def escaped : List Char := '"' :: '\\' :: (List.range 32).map Char.ofNat

/-- Any other character stands for itself. -/
theorem escape_of_not_mem {c : Char} (h : c ∉ escaped) : escape c = [c] := by
  have hcontrol : ¬c.toNat < 32 := by
    intro hlt
    refine h (List.mem_cons_of_mem _ (List.mem_cons_of_mem _ (List.mem_map.mpr ?_)))
    exact ⟨c.toNat, List.mem_range.mpr hlt, c.ofNat_toNat⟩
  have hne : ∀ d ∈ escaped, c ≠ d := fun d hd hcd => h (hcd ▸ hd)
  simp only [escape, if_neg hcontrol, if_neg (hne '"' (by decide)), if_neg (hne '\\' (by decide)),
    if_neg (hne '\x08' (by decide)), if_neg (hne '\t' (by decide)), if_neg (hne '\n' (by decide)),
    if_neg (hne '\x0c' (by decide)), if_neg (hne '\r' (by decide))]

/-- Of an escaped character the text begins with a backslash and goes on, and no such text is
the beginning of another one. -/
theorem escape_of_mem : ∀ c ∈ escaped,
    (∃ code more, escape c = '\\' :: code :: more) ∧
      ∀ d ∈ escaped, escape c <+: escape d → c = d := by
  -- checked item by item: a quantifier over characters would be decided for all of them
  have h : escaped.all fun c => (escape c).head? = some '\\' ∧ 2 ≤ (escape c).length ∧
      escaped.all fun d => escape c <+: escape d → c = d := by
    decide +kernel
  simp only [List.all_eq_true, decide_eq_true_eq] at h
  intro c hc
  obtain ⟨hhead, hlength, hprefix⟩ := h c hc
  refine ⟨?_, hprefix⟩
  cases htext : escape c with
  | nil => rw [htext] at hhead; cases hhead
  | cons first rest =>
      rw [htext] at hhead hlength
      cases hhead
      cases rest with
      | nil => exact absurd hlength (by decide)
      | cons code more => exact ⟨code, more, rfl⟩

/-- No character's text is the beginning of another one's. -/
theorem eq_of_prefix_escape {c d : Char} (h : escape c <+: escape d) : c = d := by
  by_cases hc : c ∈ escaped
  · obtain ⟨⟨code, more, hcode⟩, hprefix⟩ := escape_of_mem c hc
    by_cases hd : d ∈ escaped
    · exact hprefix d hd h
    · rw [hcode, escape_of_not_mem hd] at h
      exact absurd h.length_le (by simp)
  · rw [escape_of_not_mem hc] at h
    by_cases hd : d ∈ escaped
    · obtain ⟨⟨code, more, hcode⟩, -⟩ := escape_of_mem d hd
      rw [hcode, List.cons_prefix_cons] at h
      exact absurd (h.1 ▸ (by decide : '\\' ∈ escaped)) hc
    · rw [escape_of_not_mem hd, List.cons_prefix_cons] at h
      exact h.1

/-- The text of a character is told apart from what follows it. -/
theorem escape_append_inj {c d : Char} {s t : List Char} (h : escape c ++ s = escape d ++ t) :
    c = d ∧ s = t := by
  have heq : c = d := by
    rcases List.prefix_or_prefix_of_prefix (List.prefix_append (escape c) s)
        (h ▸ List.prefix_append (escape d) t) with hcd | hdc
    · exact eq_of_prefix_escape hcd
    · exact (eq_of_prefix_escape hdc).symm
  subst heq
  exact ⟨rfl, List.append_cancel_left h⟩

theorem escape_ne_nil (c : Char) : escape c ≠ [] := by
  by_cases hc : c ∈ escaped
  · obtain ⟨⟨code, more, hcode⟩, -⟩ := escape_of_mem c hc
    rw [hcode]
    exact nofun
  · rw [escape_of_not_mem hc]
    exact nofun

theorem flatMap_escape_injective : Function.Injective (List.flatMap escape) := by
  intro s
  induction s with
  | nil =>
      intro t h
      cases t with
      | nil => rfl
      | cons d t =>
          exact absurd (List.append_eq_nil_iff.mp h.symm).1 (escape_ne_nil d)
  | cons c s ih =>
      intro t h
      cases t with
      | nil => exact absurd (List.append_eq_nil_iff.mp h).1 (escape_ne_nil c)
      | cons d t =>
          obtain ⟨rfl, hrest⟩ := escape_append_inj h
          rw [ih hrest]

/-- A string literal tells its text. -/
theorem quote_injective : Function.Injective quote := by
  intro s t h
  have hchars := (List.cons.inj (String.ofList_inj.mp h)).2
  exact String.toList_inj.mp (flatMap_escape_injective (List.append_cancel_right hchars))

end Json

/-- Two entries that stand in key order stay as they are. -/
theorem Entries.sort_pair {α : Type} {k k' : String} {v v' : α} (h : k < k') :
    sort [(k, v), (k', v')] = [(k, v), (k', v')] := by
  rw [sort, List.foldl_cons, List.foldl_cons, List.foldl_nil, insert]
  rw [insert, if_neg (String.lt_asymm h), if_pos h, insert]

/-! ## Expressions and their parts -/

namespace Operator

/-- An operator is found by its name. -/
theorem lookup_name (op : Operator) :
    (all.map fun op => (op.name, op)).lookup op.name = some op := by
  cases op <;> decide

theorem name_injective : Function.Injective name := by
  intro op op' h
  have hfound := lookup_name op
  rw [h, lookup_name op'] at hfound
  exact (Option.some.inj hfound).symm

theorem dot_not_mem_name (op : Operator) : '.' ∉ op.name.toList := by
  cases op <;> decide

end Operator

namespace Negation

/-- The expression that negates a comparison. -/
def expression (column : String) (operator : Operator) (value : ConditionValue) : String :=
  column ++ "." ++ operator.name ++ "." ++ value.display

/-- What stands before the first dot, and what stands after it. -/
def cut (cs : List Char) : List Char × List Char :=
  (cs.takeWhile (· ≠ '.'), (cs.dropWhile (· ≠ '.')).tail)

/-- The three parts of an expression, which its first two dots divide. -/
def parts (e : String) : String × String × String :=
  let (column, rest) := cut e.toList
  let (operator, value) := cut rest
  (.ofList column, .ofList operator, .ofList value)

/-- The items of a list, which commas divide. -/
def itemTexts (text : String) : List String := (text.toList.splitOn ',').map .ofList

/-- The text of the list tells its items: there are some, and none of them has a comma. -/
def Divisible (items : List Scalar) : Prop :=
  items ≠ [] ∧ ∀ s ∈ items, ',' ∉ s.display.toList

theorem cut_append {before : List Char} (h : '.' ∉ before) (after : List Char) :
    cut (before ++ '.' :: after) = (before, after) := by
  have hall : ∀ c ∈ before, decide (c ≠ '.') = true := by
    intro c hc
    exact decide_eq_true fun hdot => h (hdot ▸ hc)
  rw [cut, List.takeWhile_append_of_pos hall, List.dropWhile_append_of_pos hall,
    List.takeWhile_cons_of_neg (by decide), List.dropWhile_cons_of_neg (by decide),
    List.append_nil, List.tail_cons]

/-- The parts of an expression are what it is composed of. -/
theorem parts_expression {column : String} (h : '.' ∉ column.toList) (operator : Operator)
    (value : ConditionValue) :
    parts (expression column operator value) = (column, operator.name, value.display) := by
  have hchars : (expression column operator value).toList
      = column.toList ++ '.' :: (operator.name.toList ++ '.' :: value.display.toList) := by
    simp [expression]
  simp only [parts, hchars, cut_append h, cut_append operator.dot_not_mem_name,
    String.ofList_toList]

theorem itemTexts_display {items : List Scalar} (h : Divisible items) :
    itemTexts (ConditionValue.list items).display = items.map Scalar.display := by
  have hchars : (ConditionValue.list items).display.toList
      = [','].intercalate (items.map fun s => s.display.toList) := by
    rw [ConditionValue.display, String.toList_intercalate, List.map_map]
    rfl
  have hcommas : ∀ cs ∈ items.map fun s => s.display.toList, ',' ∉ cs := by
    intro cs hcs
    obtain ⟨s, hs, rfl⟩ := List.mem_map.mp hcs
    exact h.2 s hs
  rw [itemTexts, hchars, List.splitOn_intercalate ',' hcommas (mt List.map_eq_nil_iff.mp h.1),
    List.map_map]
  exact List.map_congr_left fun s _ => String.ofList_toList

end Negation

namespace Condition

open Negation

theorem toJson_notExpr (e : String) :
    (notExpr e).toJson = .object [("operator", .string "not"), ("value", .string e)] := by
  have hfields : (notExpr e).fields = [("operator", .string "not"), ("value", .string e)] := rfl
  rw [toJson, hfields, Json.ofFields, Entries.sort_pair (by decide)]

/-- The wire form of a negation tells its expression. -/
theorem text_notExpr_inj {e e' : String} :
    (notExpr e).toJson.text = (notExpr e').toJson.text ↔ e = e' := by
  refine ⟨?_, fun h => h ▸ rfl⟩
  intro h
  simp only [toJson_notExpr, Json.text, Json.fieldsText, String.append_left_inj,
    String.append_right_inj] at h
  exact Json.quote_injective h

/-- The expression of a negated comparison divides at its first two dots into the column, the
name of the operator and the text of the value, if the column has no dot, and the text of a
list of some items without commas divides at its commas into those of the items.  So
negations with the same wire form negate the same comparison, but for how the value
is made up, and where both values are such lists these have as many items with the same
texts. -/
theorem negation_unambiguous :
    (∀ column operator value, '.' ∉ column.toList →
      ∃ e, Condition.not column operator value = .notExpr e ∧
        parts e = (column, operator.name, value.display)) ∧
    (∀ items, Divisible items →
      itemTexts (ConditionValue.list items).display = items.map Scalar.display) ∧
    ∀ column column' operator operator' value value', '.' ∉ column.toList →
      '.' ∉ column'.toList →
      (Condition.not column operator value).toJson.text
        = (Condition.not column' operator' value').toJson.text →
      column = column' ∧ operator = operator' ∧ value.display = value'.display ∧
        ∀ items items', value = .list items → value' = .list items' → Divisible items →
          Divisible items' → List.Forall₂ (fun s s' => s.display = s'.display) items items' := by
  refine ⟨?parts, fun items => itemTexts_display, ?unambiguous⟩
  case parts =>
    intro column operator value hdot
    exact ⟨_, rfl, parts_expression hdot operator value⟩
  case unambiguous =>
    intro column column' operator operator' value value' hdot hdot' h
    have hexpression : expression column operator value = expression column' operator' value' :=
      text_notExpr_inj.mp h
    have hparts := congrArg parts hexpression
    rw [parts_expression hdot, parts_expression hdot', Prod.mk.injEq, Prod.mk.injEq] at hparts
    obtain ⟨hcolumn, hname, hvalue⟩ := hparts
    refine ⟨hcolumn, Operator.name_injective hname, hvalue, ?_⟩
    rintro items items' rfl rfl hitems hitems'
    have htexts := congrArg itemTexts hvalue
    rw [itemTexts_display hitems, itemTexts_display hitems'] at htexts
    rwa [← List.forall₂_eq_eq_eq, List.forall₂_map_left_iff, List.forall₂_map_right_iff] at htexts

/-- Two lists that read alike, the first item of the one being a number and that of the other
a text. -/
theorem negation_unambiguous_lists :
    let items : List Scalar := [.int 1, .text "2.5"]
    let items' : List Scalar := [.text "1", .text "2.5"]
    (Condition.not "age" .isIn (.list items)).toJson.text
        = (Condition.not "age" .isIn (.list items')).toJson.text ∧
      items ≠ items' ∧ List.Forall₂ (fun s s' => s.display = s'.display) items items' := by
  intro items items'
  have hexpression :
      expression "age" .isIn (.list items) = expression "age" .isIn (.list items') := by
    decide
  have hwire := text_notExpr_inj.mpr hexpression
  obtain ⟨-, -, hunambiguous⟩ := negation_unambiguous
  obtain ⟨-, -, -, hlists⟩ :=
    hunambiguous "age" "age" .isIn .isIn _ _ (by decide) (by decide) hwire
  exact ⟨hwire, by decide, hlists _ _ rfl rfl ⟨nofun, by decide⟩ ⟨nofun, by decide⟩⟩

end Condition

end TableGateway
