/-
Normalization: what callers get for what came over the network.

A call over HTTP comes to an answer with a status and a text, or to nothing
(`Reception`).  The result for it says which of the two happened, keeps the body,
and has data or an error and never both (`Result.Normalizes`); nothing that a
caller makes of a result afterwards changes the verdict (`Result.Leads.keeps`).
`normalized_results` says so of all results of all runs over any network.
-/
import TableGateway.Proofs.Provenance
import TableGateway.Proofs.Refusal

namespace TableGateway

open Session

/-! ## What comes over the network -/

namespace Reception

/-- The status, or 0 when nothing came back. -/
def status : Reception → UInt16
  | answered status _ => status
  | failed _ => 0

/-- The statuses of success are those from 200 to 299. -/
def Successful (r : Reception) : Prop := 200 ≤ r.status.toNat ∧ r.status.toNat < 300

/-- The body that a caller sees: no text and no answer are null, and what is not
JSON is a string. -/
inductive Body : Reception → Json → Prop where
  | empty (status : UInt16) : Body (answered status "") .null
  | json {text : String} {v : Json} (status : UInt16) (hne : text ≠ "")
      (hread : Json.read? text = some v) : Body (answered status text) v
  | text {text : String} (status : UInt16) (hne : text ≠ "")
      (hread : Json.read? text = none) : Body (answered status text) (.string text)
  | failed (message : String) : Body (failed message) .null

/-- The body has a member of this name that is a string and not empty. -/
def Member (body : Json) (name s : String) : Prop :=
  body.field? name = some (.string s) ∧ s ≠ ""

/-- The error for a failure: what the body has for one, under the first of two
names, or the status; without an answer, why there is none. -/
inductive Reports : Reception → Json → String → Prop where
  | error {body : Json} {s : String} (status : UInt16) (text : String)
      (h : Member body "error" s) : Reports (answered status text) body s
  | message {body : Json} {s : String} (status : UInt16) (text : String)
      (hno : ∀ e, ¬Member body "error" e) (h : Member body "message" s) :
      Reports (answered status text) body s
  | status {body : Json} (status : UInt16) (text : String)
      (hno : ∀ e, ¬Member body "error" e) (hno' : ∀ m, ¬Member body "message" m) :
      Reports (answered status text) body
        ("gateway request failed with status " ++ Nat.repr status.toNat)
  | failed {body : Json} (message : String) : Reports (failed message) body message

end Reception

/-! ## Results -/

namespace Result

/-- The result tells what came back: on success the body is data, unless it is
null, and there is no error whatever the body's members are; on failure there is
an error and no data. -/
structure Normalizes (r : Result Json) (reception : Reception) : Prop where
  status : r.status = reception.status
  body : ∀ v, r.raw = v ↔ reception.Body v
  ok : r.isOk = true ↔ reception.Successful
  success : reception.Successful →
    r.error = none ∧ ∀ v, r.data = some v ↔ r.raw = v ∧ v ≠ .null
  failure : ¬reception.Successful →
    r.data = none ∧ ∀ e, r.error = some e ↔ reception.Reports r.raw e

/-- What a caller can make of a result, step by step. -/
inductive Leads (r : Result Json) : {α : Type} → Result α → Prop where
  | refl : Leads r r
  | single {r' : Result Json} (h : Leads r r') : Leads r r'.single
  | map {α β : Type} {r' : Result α} (f : α → β) (h : Leads r r') : Leads r (r'.map f)
  | decode {α : Type} {r' : Result Json} {r'' : Result α} (d : Decoder α) (h : Leads r r')
      (hd : r'.decode d = .ok r'') : Leads r r''

/-- Decoding looks at data and at nothing else. -/
theorem decode_cases {α : Type} {d : Decoder α} {r : Result Json} {r' : Result α}
    (h : r.decode d = .ok r') :
    r.data = none ∧ r' = { r with data := none } ∨
      ∃ v a, r.data = some v ∧ d v = .ok a ∧ r' = { r with data := some a } := by
  unfold decode at h
  cases hdata : r.data with
  | none =>
      simp only [hdata] at h
      cases h
      exact Or.inl ⟨rfl, rfl⟩
  | some v =>
      simp only [hdata] at h
      cases hv : d v with
      | error e => simp only [hv] at h; cases h
      | ok a =>
          simp only [hv] at h
          cases h
          exact Or.inr ⟨v, a, rfl, hv, rfl⟩

theorem decode_eq_ok {α : Type} {d : Decoder α} {r : Result Json} {r' : Result α}
    (h : r.decode d = .ok r') :
    r'.error = r.error ∧ r'.status = r.status ∧ r'.raw = r.raw ∧
      (r.data = none → r'.data = none) := by
  rcases decode_cases h with ⟨-, rfl⟩ | ⟨v, a, hv, -, rfl⟩
  · exact ⟨rfl, rfl, rfl, fun _ => rfl⟩
  · exact ⟨rfl, rfl, rfl, fun hnone => nomatch hv.symm.trans hnone⟩

/-- The verdict stays, and so does the rule that there is no data beside an error. -/
theorem Leads.keeps {r : Result Json} {α : Type} {r' : Result α} (h : r.Leads r')
    (hr : r.error ≠ none → r.data = none) :
    r'.error = r.error ∧ r'.status = r.status ∧ r'.raw = r.raw ∧
      (r'.error ≠ none → r'.data = none) := by
  induction h with
  | refl => exact ⟨rfl, rfl, rfl, hr⟩
  | single _ ih =>
      obtain ⟨herror, hstatus, hraw, hdata⟩ := ih
      refine ⟨herror, hstatus, hraw, ?_⟩
      intro he
      rw [Result.single, hdata he]
      rfl
  | map f _ ih =>
      obtain ⟨herror, hstatus, hraw, hdata⟩ := ih
      refine ⟨herror, hstatus, hraw, ?_⟩
      intro he
      rw [Result.map, hdata he]
      rfl
  | decode d _ hd ih =>
      obtain ⟨herror, hstatus, hraw, hdata⟩ := ih
      obtain ⟨herror', hstatus', hraw', hdata'⟩ := decode_eq_ok hd
      refine ⟨herror'.trans herror, hstatus'.trans hstatus, hraw'.trans hraw, ?_⟩
      intro he
      exact hdata' (hdata (herror' ▸ he))

end Result

/-! ## The result of a response -/

namespace Response

theorem isSuccess_iff (status : UInt16) :
    isSuccess status = true ↔ 200 ≤ status.toNat ∧ status.toNat < 300 := by
  simp only [isSuccess, Bool.and_eq_true, decide_eq_true_eq]

theorem bodyOfText_iff (status : UInt16) (text : String) (v : Json) :
    bodyOfText text = v ↔ Reception.Body (.answered status text) v := by
  constructor
  · rintro rfl
    unfold bodyOfText
    split
    case isTrue hempty =>
      subst hempty
      exact .empty status
    case isFalse hne =>
      cases hread : Json.read? text with
      | some v => exact .json status hne hread
      | none => exact .text status hne hread
  · intro h
    cases h with
    | empty => rfl
    | json status hne hread => rw [bodyOfText, if_neg hne, hread, Option.getD_some]
    | text status hne hread => rw [bodyOfText, if_neg hne, hread, Option.getD_none]

theorem textField?_eq_some_iff {name s : String} {body : Json} :
    textField? name body = some s ↔ Reception.Member body name s := by
  have hstring : ∀ v : Json, v.string? = some s ↔ v = .string s := by
    intro v
    cases v <;> simp [Json.string?]
  simp only [textField?, Reception.Member, Option.filter_eq_some_iff, Option.bind_eq_some_iff,
    hstring, exists_eq_right, decide_eq_true_eq]

theorem textField?_eq_none_iff {name : String} {body : Json} :
    textField? name body = none ↔ ∀ s, ¬Reception.Member body name s := by
  simp only [Option.eq_none_iff_forall_ne_some, Ne, textField?_eq_some_iff]

/-- What is reported, or the status, is the error for a failure. -/
theorem reported_iff (status : UInt16) (text : String) (body : Json) (e : String) :
    (reported body).getD ("gateway request failed with status " ++ Nat.repr status.toNat) = e
      ↔ Reception.Reports (.answered status text) body e := by
  constructor
  · rintro rfl
    unfold reported
    cases herror : textField? "error" body with
    | some s => exact .error status text (textField?_eq_some_iff.mp herror)
    | none =>
        have hno := textField?_eq_none_iff.mp herror
        cases hmessage : textField? "message" body with
        | some s => exact .message status text hno (textField?_eq_some_iff.mp hmessage)
        | none => exact .status status text hno (textField?_eq_none_iff.mp hmessage)
  · intro h
    unfold reported
    cases h with
    | error status text h => rw [textField?_eq_some_iff.mpr h]; rfl
    | message status text hno h =>
        rw [textField?_eq_none_iff.mpr hno, textField?_eq_some_iff.mpr h]; rfl
    | status status text hno hno' =>
        rw [textField?_eq_none_iff.mpr hno, textField?_eq_none_iff.mpr hno']; rfl

theorem ofResponse_of_success {status : UInt16} (h : isSuccess status = true) (body : Json) :
    Result.ofResponse (.ofBody status body)
      = { data := if body.isNull then none else some body, error := none, status, raw := body } :=
  if_pos h

theorem ofResponse_of_failure {status : UInt16} (h : isSuccess status = false) (body : Json) :
    Result.ofResponse (.ofBody status body)
      = { data := none
          error := some ((reported body).getD
            ("gateway request failed with status " ++ Nat.repr status.toNat))
          status, raw := body } := by
  simp only [Result.ofResponse, ofBody, h]
  rfl

/-- Data is the body, unless that is null. -/
theorem data_iff (body v : Json) :
    (if body.isNull then none else some body) = some v ↔ body = v ∧ v ≠ .null := by
  cases body with
  | null =>
      constructor
      · intro h
        cases h
      · rintro ⟨rfl, hne⟩
        exact absurd rfl hne
  | _ =>
      simp only [Json.isNull, Bool.false_eq_true, if_false, Option.some.injEq, iff_self_and]
      rintro rfl
      exact nofun

end Response

theorem not_successful_failed (message : String) : ¬(Reception.failed message).Successful := by
  rintro ⟨hlower, -⟩
  have hzero : 200 ≤ (0 : UInt16).toNat := hlower
  exact absurd hzero (by decide)

theorem normalizes_failed (message : String) :
    (Result.ofResponse (.networkFailure message)).Normalizes (.failed message) where
  status := rfl
  body v := by
    constructor
    · rintro rfl
      exact .failed message
    · intro h
      cases h
      rfl
  ok := ⟨nofun, fun h => absurd h (not_successful_failed message)⟩
  success h := absurd h (not_successful_failed message)
  failure _ := by
    refine ⟨rfl, fun e => ⟨?_, ?_⟩⟩
    · intro h
      cases h
      exact .failed message
    · intro h
      cases h
      rfl

theorem normalizes_answered (status : UInt16) (text : String) :
    (Result.ofResponse (.ofBody status (Response.bodyOfText text))).Normalizes
      (.answered status text) := by
  have hbody := Response.bodyOfText_iff status text
  have hok := Response.isSuccess_iff status
  cases hs : Response.isSuccess status with
  | true =>
      have hsuccess : (Reception.answered status text).Successful := hok.mp hs
      rw [Response.ofResponse_of_success hs]
      exact
      { status := rfl
        body := hbody
        ok := ⟨fun _ => hsuccess, fun _ => rfl⟩
        success := fun _ => ⟨rfl, Response.data_iff _⟩
        failure := fun h => absurd hsuccess h }
  | false =>
      have hfailure : ¬(Reception.answered status text).Successful := by
        intro h
        exact Bool.false_ne_true (hs.symm.trans (hok.mpr h))
      rw [Response.ofResponse_of_failure hs]
      exact
      { status := rfl
        body := hbody
        ok := ⟨nofun, fun h => absurd h hfailure⟩
        success := fun h => absurd h hfailure
        failure := fun _ => ⟨rfl, fun e => by
          rw [Option.some.injEq]
          exact Response.reported_iff status text _ e⟩ }

/-- The result for what came back tells it, whatever it is. -/
theorem normalizes_response :
    ∀ reception : Reception, (Result.ofResponse reception.response).Normalizes reception
  | .answered status text => normalizes_answered status text
  | .failed message => normalizes_failed message

theorem Result.Normalizes.exclusive {r : Result Json} {reception : Reception}
    (h : r.Normalizes reception) (herror : r.error ≠ none) : r.data = none := by
  by_cases hs : reception.Successful
  · exact absurd (h.success hs).1 herror
  · exact (h.failure hs).1

theorem leads_view (h : Held) (r : Result Json) : r.Leads (h.view r) := by
  unfold Held.view
  split
  · exact .single .refl
  · exact .refl

/-! ## Calls over HTTP -/

namespace Http

variable {κ ν υ : Type}

/-- What holds of the network goes on to hold. -/
structure Network.Preserves (net : Network κ ν υ) (I : ν → Prop) : Prop where
  send : ∀ client out n, I n → I (net.send client out n).1
  finish : ∀ ticket n, I n → I (net.finish ticket n).1

namespace Carrier

/-- What a call comes to: what the network gives for its message, with all headers, or the
fault of the first header that cannot be sent. -/
inductive ComesTo (net : Network κ ν υ) (x : Carrier κ) (I : ν → Prop)
    (content : Request × Options) : Reception → Prop
  | given {sent given : ν} (hsent : I sent) (hgiven : I given)
      (hheaders : ∀ name value, (Headers.ofOptions content.2).get? name = some value →
        net.rules.Sendable name value)
      (out : Outgoing) (hout : out = x.outgoing content.1 content.2 (.ofOptions content.2)) :
      ComesTo net x I content (net.finish (net.send x.client out sent).2 given).2
  | refused {fault : FieldFault} (h : net.rules.FirstRefused (.ofOptions content.2) fault) :
      ComesTo net x I content (.failed (net.rules.message fault))

variable {net : Network κ ν υ} {x : Carrier κ} {I : ν → Prop}

theorem preserves_network (h : net.Preserves I) :
    (x.transport net).Preserves fun w => I w.network where
  dispatch r o w hw := by
    rw [dispatch_transport]
    rcases FieldRules.fieldsOf_cases net.rules o with ⟨fault, -, hfields⟩ | ⟨-, hfields⟩
    · rw [take_of_error net hfields]
      exact hw
    · rw [take_of_ok net hfields]
      exact h.send _ _ _ hw
  finish ticket w hw := by
    cases ticket with
    | refused fault => exact hw
    | sent e ticket => exact h.finish _ _ hw

/-- What the transport gives for a request is what its call comes to. -/
theorem exists_comesTo_of_gives {content : Request × Options} {response : Response}
    (h : (x.transport net).Gives (fun w => I w.network) content response) :
    ∃ reception, ComesTo net x I content reception ∧ response = reception.response := by
  obtain ⟨ticket, given, ⟨sent, hsent, rfl⟩, hgiven, rfl⟩ := h
  rw [dispatch_transport]
  rcases FieldRules.fieldsOf_cases net.rules content.2 with
    ⟨fault, hfault, hfields⟩ | ⟨hheaders, hfields⟩
  · rw [take_of_error net hfields]
    exact ⟨_, .refused hfault, rfl⟩
  · rw [take_of_ok net hfields]
    exact ⟨_, .given hsent hgiven hheaders _ rfl, rfl⟩

end Carrier

end Http

namespace Session

open Http

/-- Of all that callers get in any run over HTTP, whatever the network: it is the result of
the request of its origin, perhaps with the first row only, and tells what the network gave
for the message of that request, or that a header could not be sent; and whatever is made of
it keeps the verdict and the body and has no data beside an error.  There is such a result
for every status, every text and every failure. -/
theorem normalized_results {κ ν υ : Type} (net : Network κ ν υ) (x : Carrier κ) (w : World ν)
    (defaults : Options) (ops : List Operation) :
    let t := x.transport net
    let c := (start t w defaults).account ops
    let traffic := traffic t w defaults ops
    (∀ I, net.Preserves I → I w.network → ∀ y ∈ c.yields, ∃ content reception r,
      c.request? traffic y.1.origin = some content ∧
      x.ComesTo net I content reception ∧
      c.response? traffic y.1.origin = some reception.response ∧
      r.Normalizes reception ∧ y.2 = y.1.view r ∧
      ∀ (α : Type) (r' : Result α), y.2.Leads r' →
        r'.error = r.error ∧ r'.status = r.status ∧ r'.raw = r.raw ∧
          (r'.error ≠ none → r'.data = none)) ∧
    ∀ reception : Reception, (Result.ofResponse reception.response).Normalizes reception := by
  refine ⟨?_, normalizes_response⟩
  intro I hI hw y hy
  obtain ⟨content, response, hrequest, hresponse, hgives, hview⟩ :=
    exists_source_of_yield (Carrier.preserves_network hI) hw defaults ops hy
  obtain ⟨reception, hcomes, rfl⟩ := Carrier.exists_comesTo_of_gives hgives
  have hnormal := normalizes_response reception
  refine ⟨content, reception, _, hrequest, hcomes, hresponse, hnormal, hview, ?_⟩
  intro α r' hleads
  obtain ⟨herror, hstatus, hraw, hdata⟩ := (leads_view y.1 _).keeps hnormal.exclusive
  rw [hview] at hleads
  obtain ⟨herror', hstatus', hraw', hdata'⟩ := hleads.keeps hdata
  exact ⟨herror'.trans herror, hstatus'.trans hstatus, hraw'.trans hraw, hdata'⟩

/-- A network of which the first answer is that nothing was found, in a message. -/
def emptyHanded : World (List Reception) :=
  { network := [.answered 404 "\x7b\"error\":\"\",\"message\":\"no rows\"\x7d"] }

def fetchUsers : List Operation := [.openQuery "users" "users", .fetch "users" {} none]

/-- The fetch has the message for an error, and no data. -/
theorem normalized_fetchUsers :
    let x : Carrier Settings := { client := {}, config := {} }
    ∃ y ∈ ((start (x.transport .scripted) emptyHanded {}).account fetchUsers).yields,
      ∃ reception r, r.Normalizes reception ∧ y.2 = y.1.view r ∧
        r.error = some "no rows" ∧ y.2.status = 404 ∧ y.2.data = none := by
  intro x
  obtain ⟨hyields, -⟩ := normalized_results .scripted x emptyHanded {} fetchUsers
  have hall : ((start (x.transport .scripted) emptyHanded {}).account fetchUsers).yields.map
      (fun y => (y.2.error, y.2.status)) = [(some "no rows", 404)] := by
    decide +kernel
  obtain ⟨y, hy, hpair⟩ := List.mem_map.mp (hall ▸ List.mem_singleton_self _)
  obtain ⟨herror, hstatus⟩ := Prod.mk.inj hpair
  -- nothing need be known of the network
  obtain ⟨content, reception, r, -, -, -, hnormal, hview, hkeeps⟩ :=
    hyields (fun _ => True) ⟨fun _ _ _ _ => trivial, fun _ _ _ => trivial⟩ trivial y hy
  obtain ⟨hsame, -, -, hdata⟩ := hkeeps Json y.2 .refl
  refine ⟨y, hy, reception, r, hnormal, hview, hsame ▸ herror, hstatus, hdata ?_⟩
  rw [herror]
  exact nofun

end Session

end TableGateway
