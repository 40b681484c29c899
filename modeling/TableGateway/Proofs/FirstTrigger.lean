/-
The first trigger: it fixes what a handle sends.

What a handle is asked before its first trigger is recorded, each refinement in
place of the one before.  The first trigger settles columns and options for good
(`frozen_at_first_trigger`): whatever is asked of the handle or its clones
afterwards, and however its futures are awaited, the request that the transport
receives is the one that was settled, and the state of the handle only moves on.
-/
import TableGateway.Proofs.SingleFlight

namespace TableGateway

open Session

variable {σ τ : Type}

/-- How far a write has got: unrefined, refined or resolved. -/
def Stage.rank : Stage → Nat
  | .unrefined => 0
  | .refined _ => 1
  | .resolved _ => 2

namespace Plan

/-- The rank of the stage that shows a plan. -/
def rank : Plan → Nat
  | pending none => 0
  | pending (some _) => 1
  | settled _ => 2

theorem rank_le_after (call : HandleCall) : ∀ plan : Plan, plan.rank ≤ (plan.after call).rank
  | pending none => Nat.zero_le _
  | pending (some _) => by cases call <;> exact Nat.succ_le_succ (Nat.zero_le _)
  | settled _ => Nat.le_refl _

theorem rank_le_append (calls more : List HandleCall) :
    (ofCalls calls).rank ≤ (ofCalls (calls ++ more)).rank := by
  induction more using List.reverseRecOn with
  | nil => exact Nat.le_of_eq (by rw [List.append_nil])
  | append_singleton more call ih =>
      rw [← List.append_assoc, ofCalls_concat]
      exact Nat.le_trans ih (rank_le_after call _)

end Plan

namespace Session

theorem rank_of_shows {owners : List Origin} {i : Nat} :
    ∀ {plan : Plan} {stage : Stage}, Shows owners i plan stage → stage.rank = plan.rank
  | .pending none, _, h => by cases h; rfl
  | .pending (some _), _, h => by cases h; rfl
  | .settled _, _, ⟨_, h, _⟩ => by cases h; rfl

end Session

theorem Draft.query_table (d : Draft) (defaults : Options) : (d.query defaults).table = d.table :=
  Query.table_foldl_apply ..

theorem Draft.query_defaults (d : Draft) (defaults : Options) :
    (d.query defaults).defaults = defaults :=
  Query.defaults_foldl_apply ..

/-- What a settled handle sends, with its mutation. -/
theorem content_of_settled {d : Described} {defaults : Options} {r : Refinement}
    {content : Request × Options} (hplan : Plan.ofCalls d.calls = .settled r)
    (h : d.content defaults = some content) :
    let options := Options.mergeAll [some defaults, some d.writing.options, r.options]
    ∃ m, described (d.draft.query defaults) d.writing
        = .ok ((d.draft.query defaults).write m d.writing.options) ∧
      content = (m.request d.draft.table r.columns options, options) := by
  obtain ⟨w, r', hw, hplan', hcontent⟩ := Chronicle.content_eq_some_iff.mp h
  obtain ⟨m, rfl, -⟩ := exists_mutation_of_described hw
  cases hplan'.symm.trans hplan
  refine ⟨m, hw, hcontent.trans ?_⟩
  simp only [Write.requestFor, Write.options, Query.write, Draft.query_table,
    Draft.query_defaults]

namespace Session

theorem trace_append (ops more : List Operation) (s : Session σ τ) :
    s.trace (ops ++ more) = s.trace ops ++ (s.run ops).trace more := by
  induction ops generalizing s with
  | nil => rfl
  | cons op rest ih => exact congrArg (_ :: ·) (ih _)

theorem run_append (ops more : List Operation) (s : Session σ τ) :
    s.run (ops ++ more) = (s.run ops).run more :=
  List.foldl_append

theorem extends_account (s : Session σ τ) (ops more : List Operation) :
    (s.account ops).Extends (s.account (ops ++ more)) := by
  unfold account Chronicle.ofTrace
  rw [trace_append, List.foldl_append]
  exact Chronicle.extends_foldl _ _

theorem account_concat (s : Session σ τ) (ops : List Operation) (op : Operation) :
    s.account (ops ++ [op]) = (s.account ops).note op ((s.run ops).step op).2 := by
  unfold account Chronicle.ofTrace
  rw [trace_append, List.foldl_append]
  rfl

/-- Once a handle is set off, in whatever way and whatever it was asked before,
the one request for it is the request for the columns and options of that first
trigger, where those recorded last stand in for what it does not give.  What is
asked later changes nothing, and no state ever moves back. -/
theorem frozen_at_first_trigger (t : Transport σ τ) (surroundings : σ) (defaults : Options)
    (ops more : List Operation) :
    let c := (start t surroundings defaults).account ops
    let c' := (start t surroundings defaults).account (ops ++ more)
    let traffic := traffic t surroundings defaults (ops ++ more)
    (∀ (i : Nat) (draft : Draft) (writing : Writing) (rs : List Refinement)
        (given : Option Refinement) (later : List HandleCall),
      c.writes[i]? = some ⟨draft, writing, rs.map .refine ++ .trigger given :: later⟩ →
        .write i ∈ c'.polls →
        let columns :=
          ((given.map Refinement.columns).or (rs.getLast?.map Refinement.columns)).getD .all
        let options := Options.mergeAll [some defaults, some writing.options,
          (given.bind Refinement.options).or (rs.getLast?.bind Refinement.options)]
        c'.flights.count (.write i) = 1 ∧
          ∃ m, described (draft.query defaults) writing
              = .ok ((draft.query defaults).write m writing.options) ∧
            c'.request? traffic (.write i)
              = some (m.request draft.table columns options, options)) ∧
    ∀ (i : Nat) (w : Write), ((start t surroundings defaults).run ops).writes[i]? = some w →
      ∃ w', ((start t surroundings defaults).run (ops ++ more)).writes[i]? = some w' ∧
        w.stage.rank ≤ w'.stage.rank := by
  obtain ⟨owners, polls, h⟩ := exists_agrees_account t surroundings defaults ops
  obtain ⟨owners', polls', h'⟩ := exists_agrees_account t surroundings defaults (ops ++ more)
  have hext := extends_account (start t surroundings defaults) ops more
  refine ⟨?_, ?_⟩
  · intro i draft writing rs given later hwrite hpolled
    refine ⟨by rw [Chronicle.count_flights, if_pos hpolled], ?_⟩
    obtain ⟨more', hmore⟩ := hext.writes i _ hwrite
    have hplan := Plan.ofCalls_append (Plan.ofCalls_trigger rs given later) more'
    obtain ⟨content, hsent, hrequest⟩ := h'.exists_request hpolled
    rw [defaults_observed, Chronicle.sent, hmore, Option.bind_some] at hsent
    obtain ⟨m, hm, hcontent⟩ := content_of_settled hplan hsent
    exact ⟨m, hm, hrequest.trans (congrArg some hcontent)⟩
  · intro i w hw
    rw [run_observed] at hw ⊢
    obtain ⟨d, hd, hstands⟩ := exists_of_rel (h.writes i) hw
    obtain ⟨more', hmore⟩ := hext.writes i d hd
    obtain ⟨w', hw', hstands'⟩ := exists_of_rel_right (h'.writes i) hmore
    refine ⟨w', hw', ?_⟩
    rw [rank_of_shows hstands.stage, rank_of_shows hstands'.stage]
    exact Plan.rank_le_append d.calls more'

/-- An insert that is refined and set off, but not awaited. -/
def refinedInsert : List Operation :=
  [.openQuery "users" "users",
    .write "users" (.insert (.map [(.text "name", .text "Ada")]) {}) "handle",
    .refine "handle" { columns := .expr "id" }, .trigger "handle" {} (some "first")]

/-- A later refinement and a trigger of its own, which is awaited. -/
def laterSelect : List Operation :=
  [.refine "handle" { columns := .expr "name" },
    .trigger "handle" { refinement := some { columns := .expr "email" } } none]

/-- What is sent has the values of the insert and the columns recorded at its first trigger. -/
theorem frozen_refinedInsert :
    let q : Query := Draft.query ⟨"users", []⟩ {}
    let ada : Writing := .insert (.map [(.text "name", .text "Ada")]) {}
    let options := Options.mergeAll [some {}, some {}, none]
    let c := (start Script.transport {} {}).account (refinedInsert ++ laterSelect)
    let traffic := traffic Script.transport {} {} (refinedInsert ++ laterSelect)
    c.flights.count (.write 0) = 1 ∧
      ∃ m : Mutation, described q ada = .ok (q.write m {}) ∧
        m = .insert (.object [("name", .string "Ada")]) ∧
        c.request? traffic (.write 0) = some (m.request "users" (.expr "id") options, options) := by
  intro q ada options c traffic
  obtain ⟨hfrozen, -⟩ := frozen_at_first_trigger Script.transport {} {} refinedInsert laterSelect
  obtain ⟨hcount, m, hdescribed, hrequest⟩ :=
    hfrozen 0 ⟨"users", []⟩ ada [{ columns := .expr "id" }] none [] rfl (by decide)
  have hmutation : Except.ok (q.write (.insert (.object [("name", .string "Ada")])) {})
      = (Except.ok (q.write m {}) : Except Error Write) := hdescribed
  cases hmutation
  exact ⟨hcount, _, hdescribed, rfl, hrequest⟩

end Session

end TableGateway
