/-
Refusal: headers that cannot be sent.

Before a request goes out over HTTP its headers are put into a message, in the order of
their names.  The first of them that cannot be sent ends the call: it comes to a failure
that names this header, and from its start to its end nothing is handed to the network
(`Http.Carrier.stops_iff`).  No other call is like that, since it hands a message over.

If all headers can be sent the message has each of them.  Their names are in lowercase
already, so each header comes to a place of its own (`Http.FieldRules.keeps_ofOptions`).

Which names and values can be sent, what is said of the others, and what becomes of a
message is all left open: it holds of every network.
-/
import TableGateway.Http.Carrier
import TableGateway.Proofs.HeaderTable

namespace TableGateway

theorem Response.networkFailure_injective {message message' : String}
    (h : networkFailure message = networkFailure message') : message = message' :=
  Option.some.inj (congrArg error h)

namespace Http

namespace FieldRules

/-! ## The texts of faults -/

variable (rules : FieldRules)

theorem message_name_ne_value (n m : String) :
    rules.message (.name n) ≠ rules.message (.value m) := by
  intro h
  have hchar := congrArg (fun s : String => s.toList[8]?) h
  simp [message_name, message_value] at hchar

theorem message_injective {f g : FieldFault} (h : rules.message f = rules.message g) : f = g := by
  cases f with
  | name n =>
      cases g with
      | name m =>
          simp only [message_name, String.append_left_inj, String.append_right_inj] at h
          rw [h]
      | value m => exact absurd h (rules.message_name_ne_value n m)
  | value n =>
      cases g with
      | name m => exact absurd h.symm (rules.message_name_ne_value m n)
      | value m =>
          simp only [message_value, String.append_left_inj, String.append_right_inj] at h
          rw [h]

/-! ## The first fault -/

/-- The header can be sent. -/
def Sendable (name value : String) : Prop :=
  rules.isName name = true ∧ rules.isValue value = true

instance (name value : String) : Decidable (rules.Sendable name value) :=
  inferInstanceAs (Decidable (_ ∧ _))

/-- What is wrong with a header: its name, or with an allowed name its value. -/
inductive Refuses : String → String → FieldFault → Prop where
  | name {name value : String} (h : rules.isName name = false) : Refuses name value (.name name)
  | value {name value : String} (hname : rules.isName name = true)
      (h : rules.isValue value = false) : Refuses name value (.value name)

/-- What is wrong with the first header, in the order of names, that cannot be sent. -/
def FirstRefused (headers : Headers) (fault : FieldFault) : Prop :=
  ∃ name value, headers.get? name = some value ∧ rules.Refuses name value fault ∧
    ∀ other w, headers.get? other = some w → other < name → rules.Sendable other w

/-- All headers come into the message: each is put where there is none of its name, and
in the end the message has them as they are. -/
structure Keeps (headers : Headers) : Prop where
  all : rules.fieldsOf headers = .ok headers
  apart : ∀ before p after, headers.entries = before ++ p :: after →
    ∃ fields, rules.putAll ∅ before = .ok fields ∧ fields.get? p.1.toLower = none

variable {rules} {headers : Headers} {fault : FieldFault}

theorem Refuses.not_sendable {name value : String} (h : rules.Refuses name value fault) :
    ¬rules.Sendable name value := by
  rintro ⟨hname, hvalue⟩
  cases h with
  | name h => exact Bool.false_ne_true (h.symm.trans hname)
  | value _ h => exact Bool.false_ne_true (h.symm.trans hvalue)

theorem faultOf_eq_none_iff {p : String × String} :
    rules.faultOf p = none ↔ rules.Sendable p.1 p.2 := by
  unfold faultOf Sendable
  cases rules.isName p.1 <;> cases rules.isValue p.2 <;> simp

theorem faultOf_eq_some_iff {p : String × String} :
    rules.faultOf p = some fault ↔ rules.Refuses p.1 p.2 fault := by
  constructor
  · intro h
    unfold faultOf at h
    cases hname : rules.isName p.1 with
    | false =>
        rw [hname] at h
        cases h
        exact .name hname
    | true =>
        cases hvalue : rules.isValue p.2 with
        | false =>
            rw [hname, hvalue] at h
            cases h
            exact .value hname hvalue
        | true =>
            rw [hname, hvalue] at h
            cases h
  · intro h
    unfold faultOf
    cases h with
    | name hname => rw [hname]; rfl
    | value hname hvalue => rw [hname, hvalue]; rfl

/-- First in the list is first in the order of names. -/
theorem fieldsOf_eq_error_iff_firstRefused :
    rules.fieldsOf headers = .error fault ↔ rules.FirstRefused headers fault := by
  rw [fieldsOf_eq_error_iff, List.findSome?_eq_some_iff]
  constructor
  · rintro ⟨before, ⟨name, value⟩, after, hsplit, hfault, hbefore⟩
    have hmem : (name, value) ∈ headers.entries :=
      hsplit ▸ List.mem_append_right _ List.mem_cons_self
    refine ⟨name, value, SortedMap.get?_eq_some_iff.mpr hmem, faultOf_eq_some_iff.mp hfault, ?_⟩
    intro other w hother hlt
    have hsorted := headers.ascending
    rw [hsplit] at hsorted
    obtain ⟨-, hrest, -⟩ := List.pairwise_append.mp hsorted
    have hafter := (List.pairwise_cons.mp hrest).1
    rw [SortedMap.get?_eq_some_iff, hsplit] at hother
    rcases List.mem_append.mp hother with hother | hother
    · exact faultOf_eq_none_iff.mp (hbefore _ hother)
    · rcases List.mem_cons.mp hother with heq | hother
      · exact absurd (Prod.mk.inj heq).1 (ne_of_lt hlt)
      · exact absurd hlt (lt_asymm (hafter _ hother))
  · rintro ⟨name, value, hget, hrefuses, hfirst⟩
    obtain ⟨before, after, hsplit⟩ := List.append_of_mem (SortedMap.get?_eq_some_iff.mp hget)
    refine ⟨before, (name, value), after, hsplit, faultOf_eq_some_iff.mpr hrefuses, ?_⟩
    intro p hp
    have hsorted := headers.ascending
    rw [hsplit] at hsorted
    obtain ⟨-, -, hbelow⟩ := List.pairwise_append.mp hsorted
    have hget' : headers.get? p.1 = some p.2 := by
      rw [SortedMap.get?_eq_some_iff, hsplit]
      exact List.mem_append_left _ hp
    exact faultOf_eq_none_iff.mpr (hfirst _ _ hget' (hbelow p hp _ List.mem_cons_self))

theorem exists_fieldsOf_eq_error_iff :
    (∃ fault, rules.fieldsOf headers = .error fault) ↔
      ∃ name value, headers.get? name = some value ∧ ¬rules.Sendable name value := by
  simp only [fieldsOf_eq_error_iff, ← Option.ne_none_iff_exists', ne_eq,
    List.findSome?_eq_none_iff, faultOf_eq_none_iff, SortedMap.get?_eq_some_iff, not_forall,
    Prod.exists, exists_prop]

/-! ## All headers -/

/-- Headers under lowercase names, put in after others in their order, come after them. -/
theorem exists_putAll_eq_ok (fields : Headers) {pairs : List (String × String)}
    (hsorted : Entries.Ascending (fields.entries ++ pairs))
    (hlower : ∀ p ∈ pairs, p.1.toLower = p.1) (hsend : ∀ p ∈ pairs, rules.Sendable p.1 p.2) :
    ∃ out, rules.putAll fields pairs = .ok out ∧ out.entries = fields.entries ++ pairs := by
  induction pairs generalizing fields with
  | nil => exact ⟨fields, rfl, (List.append_nil _).symm⟩
  | cons p rest ih =>
      have hp : p.1.toLower = p.1 := hlower p List.mem_cons_self
      have hbelow : ∀ q ∈ fields.entries, q.1 < p.1 := fun q hq =>
        (List.pairwise_append.mp hsorted).2.2 q hq p List.mem_cons_self
      have hentries : (fields.insert p.1.toLower p.2).entries = fields.entries ++ [p] := by
        rw [hp]
        exact Entries.insert_eq_append hbelow
      have hmore := ih (fields.insert p.1.toLower p.2)
        (by rwa [hentries, List.append_assoc, List.singleton_append])
        (fun q hq => hlower q (List.mem_cons_of_mem _ hq))
        (fun q hq => hsend q (List.mem_cons_of_mem _ hq))
      rw [hentries, List.append_assoc, List.singleton_append] at hmore
      rwa [putAll, faultOf_eq_none_iff.mpr (hsend p List.mem_cons_self)]

theorem keeps_of_lowercase (hlower : ∀ p ∈ headers.entries, p.1.toLower = p.1)
    (hsend : ∀ p ∈ headers.entries, rules.Sendable p.1 p.2) : rules.Keeps headers where
  all := by
    obtain ⟨out, hout, hentries⟩ := exists_putAll_eq_ok ∅ headers.ascending hlower hsend
    have hsame : out = headers := by
      cases out
      cases headers
      cases hentries
      rfl
    exact hout.trans (congrArg _ hsame)
  apart before p after hsplit := by
    have hsorted := headers.ascending
    rw [hsplit] at hsorted hlower hsend
    obtain ⟨hbefore, -, hbelow⟩ := List.pairwise_append.mp hsorted
    obtain ⟨fields, hfields, hentries⟩ := exists_putAll_eq_ok ∅ hbefore
      (fun q hq => hlower q (List.mem_append_left _ hq))
      (fun q hq => hsend q (List.mem_append_left _ hq))
    refine ⟨fields, hfields, Option.eq_none_iff_forall_ne_some.mpr fun v hv => ?_⟩
    -- all that the message has so far is below this header
    rw [hlower p (List.mem_append_right _ List.mem_cons_self), SortedMap.get?_eq_some_iff,
      hentries] at hv
    exact lt_irrefl p.1 (hbelow _ hv p List.mem_cons_self)

theorem keeps_ofOptions {o : Options}
    (h : ∀ name value, (Headers.ofOptions o).get? name = some value → rules.Sendable name value) :
    rules.Keeps (.ofOptions o) := by
  have hget : ∀ p ∈ (Headers.ofOptions o).entries, (Headers.ofOptions o).get? p.1 = some p.2 :=
    fun p hp => SortedMap.get?_eq_some_iff.mpr hp
  exact keeps_of_lowercase (fun p hp => Headers.toLower_of_get? (hget p hp))
    fun p hp => h p.1 p.2 (hget p hp)

/-- Either a header is refused, or all headers come into the message. -/
theorem fieldsOf_cases (rules : FieldRules) (o : Options) :
    (∃ fault, rules.FirstRefused (.ofOptions o) fault ∧
      rules.fieldsOf (.ofOptions o) = .error fault) ∨
    (∀ name value, (Headers.ofOptions o).get? name = some value → rules.Sendable name value) ∧
      rules.fieldsOf (.ofOptions o) = .ok (.ofOptions o) := by
  by_cases h : ∃ fault, rules.fieldsOf (.ofOptions o) = .error fault
  · obtain ⟨fault, hfault⟩ := h
    exact Or.inl ⟨fault, fieldsOf_eq_error_iff_firstRefused.mp hfault, hfault⟩
  · rw [exists_fieldsOf_eq_error_iff] at h
    have hsend : ∀ name value, (Headers.ofOptions o).get? name = some value →
        rules.Sendable name value :=
      fun name value hget => Classical.byContradiction fun hnot => h ⟨name, value, hget, hnot⟩
    exact Or.inr ⟨hsend, (keeps_ofOptions hsend).all⟩

end FieldRules

/-! ## Messages that are handed over -/

variable {κ ν υ : Type}

/-- The network with a list of all that was handed to it, first one first. -/
def Network.recorded (net : Network κ ν υ) : Network κ (ν × List (κ × Outgoing)) υ where
  rules := net.rules
  build := net.build
  send client out s :=
    let (network, ticket) := net.send client out s.1
    ((network, s.2 ++ [(client, out)]), ticket)
  polls := net.polls
  elapsed := net.elapsed
  finish ticket s :=
    let (network, reception) := net.finish ticket s.1
    ((network, s.2), reception)

namespace Carrier

variable {net : Network κ ν υ} {x : Carrier κ} {r : Request} {o : Options}

theorem dispatch_transport (net : Network κ ν υ) (x : Carrier κ) (r : Request) :
    (x.transport net).dispatch r = x.take net r :=
  Endpoints.dispatch_uniform (x.take net) r

theorem take_of_error (net : Network κ ν υ) {fault : FieldFault}
    (h : net.rules.fieldsOf (.ofOptions o) = .error fault) (s : World ν) :
    x.take net r o s = (s, .refused fault) := by
  rw [take, h]

theorem take_of_ok (net : Network κ ν υ) {fields : Headers}
    (h : net.rules.fieldsOf (.ofOptions o) = .ok fields) (s : World ν) :
    x.take net r o s
      = let out := x.outgoing r o fields
        let sending := s.traceSending r.endpoint out.url
        ({ sending with network := (net.send x.client out s.network).1 },
          .sent r.endpoint (net.send x.client out s.network).2) := by
  rw [take, h]
  rfl

/-- The call comes to the failure that this fault is.  It is over at its first poll, and
from its start to its end nothing is handed to the network and nothing traced. -/
def Stops (net : Network κ ν υ) (x : Carrier κ) (r : Request) (o : Options)
    (s : World (ν × List (κ × Outgoing))) (fault : FieldFault) : Prop :=
  let t := x.transport net.recorded
  let (s', ticket) := t.dispatch r o s
  s' = s ∧ t.polls ticket = 0 ∧ ∀ later, t.finish ticket later =
    (later, { ok := false, status := 0, data := none,
              error := some (net.rules.message fault), raw := .null })

theorem stops_iff {s : World (ν × List (κ × Outgoing))} {fault : FieldFault} :
    Stops net x r o s fault ↔ net.rules.fieldsOf (.ofOptions o) = .error fault := by
  simp only [Stops, dispatch_transport]
  constructor
  · rintro ⟨hstate, -, hfinish⟩
    cases hfields : net.rules.fieldsOf (.ofOptions o) with
    | error first =>
        rw [take_of_error net.recorded hfields] at hfinish
        have hresponse := Response.networkFailure_injective (Prod.mk.inj (hfinish s)).2
        rw [net.rules.message_injective hresponse]
    | ok fields =>
        -- a message that is handed over is in the list
        rw [take_of_ok net.recorded hfields] at hstate
        have hlist := congrArg (fun s => s.network.2.length) hstate
        simp [Network.recorded] at hlist
  · intro hfields
    rw [take_of_error net.recorded hfields]
    exact ⟨rfl, rfl, fun later => rfl⟩

/-- Over every network, of every request under any options: the call stops before anything
is handed over, with a failure that names a header, exactly when a header cannot be sent.
The one that is named is the first of those in the order of names, by its name if that is
not allowed and else by its value.  If all can be sent, the message has each of them with
its value, none was put in place of another, and with them it is handed over once. -/
theorem refusal (net : Network κ ν υ) (x : Carrier κ) (r : Request) (o : Options)
    (s : World (ν × List (κ × Outgoing))) :
    let headers := Headers.ofOptions o
    ((∃ fault, Stops net x r o s fault) ↔
      ∃ name value, headers.get? name = some value ∧ ¬net.rules.Sendable name value) ∧
    (∀ fault, Stops net x r o s fault ↔ net.rules.FirstRefused headers fault) ∧
    ((∀ name value, headers.get? name = some value → net.rules.Sendable name value) →
      net.rules.Keeps headers ∧
      ∃ out : Outgoing, out.headers = headers ∧
        ((x.transport net.recorded).dispatch r o s).1.network.2
          = s.network.2 ++ [(x.client, out)]) := by
  intro headers
  refine ⟨?_, ?_, ?_⟩
  · simp only [stops_iff]
    exact FieldRules.exists_fieldsOf_eq_error_iff
  · intro fault
    rw [stops_iff]
    exact FieldRules.fieldsOf_eq_error_iff_firstRefused
  · intro hsend
    have hkeeps := FieldRules.keeps_ofOptions hsend
    refine ⟨hkeeps, x.outgoing r o headers, rfl, ?_⟩
    rw [dispatch_transport, take_of_ok net.recorded hkeeps.all]
    rfl

/-- Options with two headers that cannot be sent: the name of one has a blank, the value of
the other a line break. -/
def unsendable : Options :=
  { headers := (SortedMap.empty.insert "X-Note" "two\nlines").insert "X Note" "one line" }

/-- The header with the blank comes first, and without both the message of the call is
handed over. -/
theorem refusal_unsendable :
    let x : Carrier Settings := { client := {}, config := {} }
    let s : World (List Reception × List (Settings × Outgoing)) := { network := ([], []) }
    Stops .scripted x (.fetch {}) unsendable s (.name "x note") ∧
      FieldRules.standard.Keeps (.ofOptions {}) ∧
      ((x.transport Network.scripted.recorded).dispatch (.fetch {}) {} s).1.network.2.length = 1 := by
  intro x s
  obtain ⟨-, hstops, -⟩ := refusal .scripted x (.fetch {}) unsendable s
  obtain ⟨-, -, hsent⟩ := refusal .scripted x (.fetch {}) {} s
  have hall : ∀ p ∈ (Headers.ofOptions {}).entries, FieldRules.standard.Sendable p.1 p.2 := by
    decide +kernel
  obtain ⟨hkeeps, out, -, hlist⟩ := hsent fun name value h => hall _ (SortedMap.get?_eq_some_iff.mp h)
  refine ⟨(hstops (.name "x note")).mpr ?_, hkeeps, ?_⟩
  · exact FieldRules.fieldsOf_eq_error_iff_firstRefused.mp (by decide +kernel)
  · rw [hlist]
    rfl

end Carrier

end Http

end TableGateway
