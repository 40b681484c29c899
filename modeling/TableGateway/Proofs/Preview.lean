/-
Previews: what a handle says that it sends, and what it sends.

Before its first trigger a handle previews the very request that its execution
would send.  A trigger takes what is recorded with it, and from then on the
preview is that of a handle without refinement: all columns and none of the
options of a refinement.  It is the request that was sent exactly when that one
asks for all columns and the options of the refinement do not show in its body
(`preview_eq_sent_iff`).
-/
import TableGateway.Proofs.FirstTrigger

namespace TableGateway

open Session

variable {σ τ : Type}

namespace Mutation

/-- Two sets of options that the body of the request does not tell apart. -/
def SameBody (m : Mutation) (o o' : Options) : Prop :=
  match m with
  | insert _ | upsert .. =>
      o.count = o'.count ∧ o.head.filter id = o'.head.filter id ∧
        o.defaultToNull = o'.defaultToNull
  | update .. => o.stripsNulls = o'.stripsNulls
  | delete .. => True

/-- The request shows the columns and so much of the options. -/
theorem request_eq_iff (m : Mutation) (table : String) (columns columns' : Columns)
    (o o' : Options) :
    m.request table columns o = m.request table columns' o'
      ↔ columns = columns' ∧ m.SameBody o o' := by
  cases m with
  | insert values | upsert values updateBody onConflict =>
      simp only [request, insertPayload, SameBody, Request.insert.injEq, Payload.Insert.mk.injEq,
        Option.some.injEq, true_and, and_true]
  | update values conditions =>
      simp only [request, SameBody, Request.update.injEq, Payload.Update.mk.injEq,
        Option.some.injEq, true_and]
  | delete resourceId conditions =>
      simp only [request, SameBody, Request.delete.injEq, Payload.Delete.mk.injEq,
        Option.some.injEq, true_and, and_true]

end Mutation

namespace Session

section

variable {s s' : Session (σ × Traffic) (τ × Nat)} {c c' : Chronicle} {owners owners' : List Origin}
  {polls polls' : List Nat}

/-- The first poll of an origin has one more request received. -/
theorem Agrees.received_concat {o : Origin} {content : Request × Options}
    (h : s.Agrees c owners polls) (h' : s'.Agrees c' owners' polls') (hext : c.Extends c')
    (hdefaults : s'.defaults = s.defaults) (hpolls : c'.polls = c.polls ++ [o])
    (hnew : o ∉ c.polls) (hsent : c'.sent s'.defaults o = some content) :
    s'.surroundings.2.received = s.surroundings.2.received ++ [content] := by
  have hflights : c'.flights = c.flights ++ [o] := by
    rw [Chronicle.flights, hpolls, eraseDups_concat, if_neg hnew]
    rfl
  have hkept : c.flights.map (c'.sent s.defaults) = c.flights.map (c.sent s.defaults) := by
    apply List.map_congr_left
    intro o' ho'
    obtain ⟨content', hcontent', -⟩ := h.exists_request (Chronicle.mem_flights.mp ho')
    rw [hcontent', Chronicle.sent_of_extends hext hcontent']
  have hmap : s'.surroundings.2.received.map some
      = (s.surroundings.2.received ++ [content]).map some := by
    rw [h'.received, hflights, List.map_append, List.map_append, h.received, ← hkept,
      ← hdefaults, List.map_singleton, List.map_singleton, hsent]
  exact List.map_injective_iff.mpr (fun _ _ => Option.some.inj) hmap

end

/-- A stage that no trigger has resolved shows a plan that is pending. -/
theorem exists_pending_of_shows {owners : List Origin} {i : Nat} {stage : Stage} :
    ∀ {plan : Plan}, Shows owners i plan stage → (∀ call, stage ≠ .resolved call) →
      ∃ recorded, plan = .pending recorded
  | .pending recorded, _, _ => ⟨recorded, rfl⟩
  | .settled _, ⟨call, h, _⟩, hne => absurd h (hne call)

theorem exists_settled_of_shows {owners : List Origin} {i call : Nat} :
    ∀ {plan : Plan}, Shows owners i plan (.resolved call) → ∃ r, plan = .settled r
  | .pending none, h => nomatch h
  | .pending (some _), h => nomatch h
  | .settled r, _ => ⟨r, rfl⟩

section

variable (t : Transport σ τ) (surroundings : σ) (defaults : Options) (ops : List Operation)

/-- The write of a handle is one that the account describes. -/
theorem exists_stands_of_write? {handle : String} {i : Nat} {w : Write}
    (hw : ((start t surroundings defaults).run ops).write? handle = some (i, w)) :
    ∃ owners d, ((start t surroundings defaults).account ops).handles.get? handle = some i ∧
      ((start t surroundings defaults).account ops).writes[i]? = some d ∧
      Stands defaults owners i w d := by
  obtain ⟨owners, polls, h⟩ := exists_agrees_account t surroundings defaults ops
  rw [run_observed] at hw
  have hwrite : ((observed t surroundings defaults).run ops).write? handle = some (i, w) := hw
  obtain ⟨hhandle, hwi⟩ := write?_eq_some hwrite
  obtain ⟨d, hd, hstands⟩ := exists_of_rel (h.writes i) hwi
  rw [defaults_observed] at hstands
  exact ⟨owners, d, h.handles ▸ hhandle, hd, hstands⟩

/-- What an execution sends when it is the first trigger of its handle. -/
theorem received_execute {handle : String} {i : Nat} {w : Write}
    (hw : ((start t surroundings defaults).run ops).write? handle = some (i, w))
    (hpending : ∀ call, w.stage ≠ .resolved call) :
    (traffic t surroundings defaults (ops ++ [.trigger handle {} none])).received
      = (traffic t surroundings defaults ops).received
        ++ [(w.request, w.options w.stage.recorded.options)] := by
  obtain ⟨_, d, hhandle, hd, hstands⟩ := exists_stands_of_write? t surroundings defaults ops hw
  have hstage := hstands.stage
  obtain ⟨recorded, hplan⟩ := exists_pending_of_shows hstage hpending
  rw [hplan] at hstage
  obtain ⟨owners, polls, h⟩ := exists_agrees_account t surroundings defaults ops
  obtain ⟨owners', polls', h'⟩ := exists_agrees_account t surroundings defaults
    (ops ++ [.trigger handle {} none])
  have hext := extends_account (start t surroundings defaults) ops [.trigger handle {} none]
  obtain ⟨hpolls, hwrites⟩ := Chronicle.note_execute hhandle
    (((start t surroundings defaults).run ops).step (.trigger handle {} none)).2
  rw [← account_concat] at hpolls hwrites
  have hnew : .write i ∉ ((start t surroundings defaults).account ops).polls := by
    intro hmem
    obtain ⟨content, hcontent, -⟩ := h.exists_request hmem
    rw [Chronicle.sent, hd, Option.bind_some, Chronicle.content_of_pending hplan] at hcontent
    cases hcontent
  refine h.received_concat h' hext ?_ hpolls hnew ?_
  · rw [defaults_observed, defaults_observed]
  · have hsettled : Plan.ofCalls (d.calls ++ [.trigger none]) = .settled w.stage.recorded := by
      rw [Plan.ofCalls_concat, hplan, recorded_of_shows hstage]
      exact congrArg Plan.settled (settle_getD recorded none).symm
    rw [defaults_observed, Chronicle.sent, hwrites, Chronicle.getElem?_ask hd]
    exact content_of_stands hstands hsettled

/-- What is due from a handle that was set off, and sent once it is polled. -/
theorem exists_sent_of_resolved {handle : String} {i call : Nat} {w : Write}
    (hw : ((start t surroundings defaults).run ops).write? handle = some (i, w))
    (hresolved : w.stage = .resolved call) :
    let c := (start t surroundings defaults).account ops
    ∃ r, c.sent defaults (.write i) = some (w.requestFor r, w.options r.options) ∧
      (.write i ∈ c.polls → c.request? (traffic t surroundings defaults ops) (.write i)
        = some (w.requestFor r, w.options r.options)) := by
  obtain ⟨_, d, -, hd, hstands⟩ := exists_stands_of_write? t surroundings defaults ops hw
  have hstage := hstands.stage
  rw [hresolved] at hstage
  obtain ⟨r, hplan⟩ := exists_settled_of_shows hstage
  have hsent : ((start t surroundings defaults).account ops).sent defaults (.write i)
      = some (w.requestFor r, w.options r.options) := by
    rw [Chronicle.sent, hd]
    exact content_of_stands hstands hplan
  refine ⟨r, hsent, ?_⟩
  intro hpolled
  obtain ⟨owners, polls, h⟩ := exists_agrees_account t surroundings defaults ops
  obtain ⟨content, hcontent, hrequest⟩ := h.exists_request hpolled
  rw [defaults_observed, hsent] at hcontent
  exact hrequest.trans hcontent.symm

end

/-- Of any handle at any time: until it is set off, its preview is the request
that its execution sends; once it is, the preview is that request exactly when
the request is for all columns and shows nothing of the refinement's options. -/
theorem preview_eq_sent_iff (t : Transport σ τ) (surroundings : σ) (defaults : Options)
    (ops : List Operation) (handle : String) (i : Nat) (w : Write)
    (hw : ((start t surroundings defaults).run ops).write? handle = some (i, w)) :
    let c := (start t surroundings defaults).account ops
    ((∀ call, w.stage ≠ .resolved call) →
      (traffic t surroundings defaults (ops ++ [.trigger handle {} none])).received
        = (traffic t surroundings defaults ops).received
          ++ [(w.request, w.options w.stage.recorded.options)]) ∧
    ∀ call, w.stage = .resolved call →
      ∃ r, c.sent defaults (.write i) = some (w.requestFor r, w.options r.options) ∧
        (.write i ∈ c.polls → c.request? (traffic t surroundings defaults ops) (.write i)
          = some (w.requestFor r, w.options r.options)) ∧
        (w.request = w.requestFor r
          ↔ r.columns = .all ∧ w.mutation.SameBody (w.options none) (w.options r.options)) := by
  refine ⟨received_execute t surroundings defaults ops hw, ?_⟩
  intro call hresolved
  obtain ⟨r, hsent, hrequest⟩ := exists_sent_of_resolved t surroundings defaults ops hw hresolved
  refine ⟨r, hsent, hrequest, ?_⟩
  rw [Write.request, hresolved, eq_comm (a := r.columns)]
  exact Mutation.request_eq_iff ..

/-- An insert that is set off with the columns `id` and awaited. -/
def selectedInsert : List Operation :=
  [.openQuery "users" "users",
    .write "users" (.insert (.map [(.text "name", .text "Ada")]) {}) "handle",
    .trigger "handle" { refinement := some { columns := .expr "id" } } none]

/-- There the preview is for all columns, and the request that was sent is not. -/
theorem preview_selectedInsert_ne :
    ∃ w content, ((start Script.transport {} {}).run selectedInsert).write? "handle" = some (0, w) ∧
      (traffic Script.transport {} {} selectedInsert).received = [content] ∧
        w.request ≠ content.1 := by
  refine ⟨_, _, rfl, rfl, ?_⟩
  intro h
  have hbody := Payload.Insert.mk.inj (Request.insert.inj h)
  exact absurd (Option.some.inj hbody.2.2.2.1) (by decide)

theorem preview_selectedInsert_eq_iff :
    ∃ w r, ((start Script.transport {} {}).run selectedInsert).write? "handle" = some (0, w) ∧
      (w.request = w.requestFor r
        ↔ r.columns = .all ∧ w.mutation.SameBody (w.options none) (w.options r.options)) := by
  obtain ⟨-, hsettled⟩ :=
    preview_eq_sent_iff Script.transport {} {} selectedInsert "handle" 0 _ rfl
  obtain ⟨r, -, -, hiff⟩ := hsettled 0 rfl
  exact ⟨_, r, rfl, hiff⟩

end Session

end TableGateway
