/-
Verdicts: what observers and callers make of one response.

An observer is shown a summary of a response, and the caller gets its result; the
two are computed apart.  They always say alike whether the call succeeded
(`ok_make`), and say the same of its error when the result took it over from the
response (`concur_of_error_eq`).  For a failure that the body does not explain
the result makes an error up from the status and the summary has none: its text
then reads like that of a success, and the latest call keeps no error
(`concur_iff`).
-/
import TableGateway.Observe.LastCall
import TableGateway.Proofs.Normalization

namespace TableGateway

/-- What a transport makes a response of: a status with a body, or a failure. -/
inductive Arrival where
  | answer (status : UInt16) (body : Json)
  | failure (message : String)

namespace Arrival

def response : Arrival → Response
  | answer status body => .ofBody status body
  | failure message => .networkFailure message

/-- A failure of which the body says nothing, under neither of the two names. -/
def Unreported : Arrival → Prop
  | answer status body => Response.isSuccess status = false ∧
      ∀ name ∈ ["error", "message"], ∀ s, ¬Reception.Member body name s
  | failure _ => False

end Arrival

/-! ## Texts of summaries -/

namespace ResponseLog

def successText (log : ResponseLog) : String := Nat.repr log.status.toNat ++ " ok"

def failureText (log : ResponseLog) (e : String) : String :=
  Nat.repr log.status.toNat ++ " error: " ++ e

theorem display_of_none {log : ResponseLog} (h : log.error = none) :
    log.display = log.successText := by
  simp only [display, h, successText]

theorem display_of_some {log : ResponseLog} {e : String} (h : log.error = some e) :
    log.display = log.failureText e := by
  simp only [display, h, failureText]

theorem failureText_ne_successText (log : ResponseLog) (e : String) :
    log.failureText e ≠ log.successText := by
  intro h
  have htail : " error: " ++ e = " ok" := by
    rw [failureText, successText, String.append_assoc] at h
    exact (String.append_right_inj _).mp h
  have hchars := congrArg (fun s : String => s.toList[1]?) htail
  simp at hchars

theorem display_eq_successText_iff (log : ResponseLog) :
    log.display = log.successText ↔ log.error = none := by
  constructor
  · intro h
    cases herror : log.error with
    | none => rfl
    | some e => exact absurd ((display_of_some herror).symm.trans h) (log.failureText_ne_successText e)
  · exact display_of_none

end ResponseLog

/-! ## Summaries and results -/

/-- A summary, and the latest call kept after it, say what a result says. -/
structure Concur (log : ResponseLog) (latest : LastCall) (result : Result Json) : Prop where
  ok : log.ok = result.isOk
  error : log.error = result.error.map (Text.abridge ResponseLog.maxErrorBytes)
  success : log.display = log.successText ↔ result.isOk = true
  failure : ∀ e, result.error = some e →
    log.display = log.failureText (Text.abridge ResponseLog.maxErrorBytes e)
  latest : latest.error ≠ none ↔ result.isOk = false

theorem Result.isOk_ofResponse (r : Response) : (Result.ofResponse r).isOk = r.ok := by
  cases hok : r.ok with
  | true => simp only [Result.ofResponse, hok]; rfl
  | false => simp only [Result.ofResponse, hok]; rfl

theorem Result.isOk_eq_true_iff {α : Type} (r : Result α) : r.isOk = true ↔ r.error = none :=
  Option.isNone_iff_eq_none

/-- The verdict is the same if there is no error beside a success. -/
theorem ResponseLog.ok_make {r : Response} (h : r.ok = true → r.error = none)
    (elapsed : Duration) : (ResponseLog.make r elapsed).ok = (Result.ofResponse r).isOk := by
  rw [Result.isOk_ofResponse]
  show (r.ok && r.error.isNone) = r.ok
  cases hok : r.ok with
  | true => rw [h hok]; rfl
  | false => rfl

/-- An error that the result took over from the response is all that is needed. -/
theorem concur_of_error_eq {r : Response} (h : (Result.ofResponse r).error = r.error)
    (elapsed : Duration) (latest : LastCall) :
    Concur (.make r elapsed) (latest.complete (.make r elapsed)) (.ofResponse r) := by
  have herror : (ResponseLog.make r elapsed).error
      = (Result.ofResponse r).error.map (Text.abridge ResponseLog.maxErrorBytes) := by
    rw [h]
    rfl
  have hnone : (ResponseLog.make r elapsed).error = none ↔ (Result.ofResponse r).isOk = true := by
    rw [herror, Option.map_eq_none_iff, Result.isOk_eq_true_iff]
  refine
  { ok := ResponseLog.ok_make ?_ elapsed
    error := herror
    success := (ResponseLog.display_eq_successText_iff _).trans hnone
    failure := ?_
    latest := (not_congr hnone).trans Bool.eq_false_iff.symm }
  · intro hok
    rw [← Result.isOk_ofResponse, Result.isOk_eq_true_iff] at hok
    exact h.symm.trans hok
  · intro e he
    exact ResponseLog.display_of_some (herror.trans (congrArg (Option.map _) he))

/-! ## Responses of transports -/

namespace Arrival

theorem reported_eq_none_iff (body : Json) :
    Response.reported body = none ↔
      ∀ name ∈ ["error", "message"], ∀ s, ¬Reception.Member body name s := by
  simp only [Response.reported, Option.or_eq_none_iff, Response.textField?_eq_none_iff,
    List.forall_mem_cons, List.not_mem_nil, false_imp_iff, implies_true, and_true]

theorem unreported_iff (a : Arrival) :
    a.Unreported ↔ a.response.ok = false ∧ a.response.error = none := by
  cases a with
  | answer status body =>
      show Response.isSuccess status = false ∧ _ ↔ _
      rw [← reported_eq_none_iff]
      refine and_congr_right fun hfailure => ?_
      simp only [response, Response.ofBody, hfailure, Bool.false_eq_true, if_false]
  | failure message =>
      constructor
      · exact False.elim
      · rintro ⟨-, herror⟩
        cases herror

/-- No error comes with a success. -/
theorem error_of_ok (a : Arrival) (h : a.response.ok = true) : a.response.error = none := by
  cases a with
  | answer status body =>
      have hsuccess : Response.isSuccess status = true := h
      simp only [response, Response.ofBody, hsuccess, if_true]
  | failure message => cases h

/-- The result takes the error of a response over, unless it has to make one up. -/
theorem error_ofResponse (a : Arrival) :
    (Result.ofResponse a.response).error
      = if a.response.ok = false ∧ a.response.error = none then
          some ("gateway request failed with status " ++ Nat.repr a.response.status.toNat)
        else a.response.error := by
  cases hok : a.response.ok with
  | true =>
      rw [if_neg (fun h => Bool.noConfusion h.1), a.error_of_ok hok]
      simp only [Result.ofResponse, hok, if_true]
  | false =>
      simp only [Result.ofResponse, hok, Bool.false_eq_true, if_false, true_and]
      cases herror : a.response.error with
      | none => rfl
      | some e => rfl

end Arrival

/-- An observer and the caller always agree whether a call succeeded, and on its
error, the text of the summary and the latest error just when the call was not an
unreported failure.  After such a failure the observer has no error, reads of a
success and keeps no latest error, while the result has an error with the status. -/
theorem concur_iff (a : Arrival) (elapsed : Duration) (latest : LastCall) :
    let log := ResponseLog.make a.response elapsed
    let result := Result.ofResponse a.response
    log.ok = result.isOk ∧
    (Concur log (latest.complete log) result ↔ ¬a.Unreported) ∧
    (a.Unreported →
      log.ok = false ∧ log.error = none ∧ log.display = log.successText ∧
        (latest.complete log).error = none ∧
        result.error = some ("gateway request failed with status " ++ Nat.repr log.status.toNat)) := by
  intro log result
  have hok : log.ok = result.isOk := ResponseLog.ok_make a.error_of_ok elapsed
  have hunreported : a.Unreported → log.error = none ∧
      result.error = some ("gateway request failed with status " ++ Nat.repr log.status.toNat) := by
    intro h
    have hnone := a.unreported_iff.mp h
    refine ⟨?_, a.error_ofResponse.trans (if_pos hnone)⟩
    show a.response.error.map _ = none
    rw [hnone.2]
    rfl
  refine ⟨hok, ⟨?_, ?_⟩, ?_⟩
  · intro hconcur h
    obtain ⟨hlog, hresult⟩ := hunreported h
    have hsame := hconcur.error
    rw [hlog, hresult] at hsame
    cases hsame
  · intro h
    rw [a.unreported_iff] at h
    exact concur_of_error_eq (a.error_ofResponse.trans (if_neg h)) elapsed latest
  · intro h
    obtain ⟨hlog, hresult⟩ := hunreported h
    refine ⟨?_, hlog, ResponseLog.display_of_none hlog, hlog, hresult⟩
    rw [hok, Result.isOk_ofResponse]
    exact (a.unreported_iff.mp h).1

/-- An answer of status 500 without a body: the caller has an error, and observers
read that all went well. -/
theorem not_concur_internalError :
    let log := ResponseLog.make (.ofBody 500 .null) .zero
    ¬Concur log (LastCall.complete {} log) (.ofResponse (.ofBody 500 .null)) ∧
      log.display = "500 ok" := by
  intro log
  refine ⟨fun h => ?_, by decide⟩
  have herror := h.error
  cases herror

/-- The caller reads the status in the error that observers do not have. -/
theorem concur_iff_internalError :
    let a := Arrival.answer 500 .null
    a.Unreported ∧ (ResponseLog.make a.response .zero).error = none ∧
      (Result.ofResponse a.response).error = some "gateway request failed with status 500" := by
  intro a
  have hunreported : a.Unreported := a.unreported_iff.mpr ⟨rfl, rfl⟩
  have htext : "gateway request failed with status " ++ Nat.repr 500
      = "gateway request failed with status 500" := by decide
  obtain ⟨-, -, hsilent⟩ := concur_iff a .zero {}
  obtain ⟨-, hlog, -, -, hresult⟩ := hsilent hunreported
  exact ⟨hunreported, hlog, hresult.trans (congrArg some htext)⟩

end TableGateway
