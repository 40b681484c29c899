/-
Precedence: whose options a call is made with.

Four layers of options come together in a call: the address and the key that a
client is created with, its other options, those given with the call or with the
write, and those of the refinement that the write was settled with.  On their way
they are merged in three places; what the transport receives is still what the
four layers come to, the strongest last (`Session.layered_run`).  So an address is
always among them: what goes out over HTTP goes there, and the transport has no use
for an address of its own (`Session.option_precedence`).
-/
import TableGateway.Client
import TableGateway.Proofs.FirstTrigger
import TableGateway.Proofs.Layers
import TableGateway.Proofs.Outbound

namespace TableGateway

open Session

variable {σ τ : Type}

/-! ## The layers of a call -/

/-- The options that a refinement adds once it is settled. -/
def Plan.layers : Plan → List Options
  | pending _ => []
  | settled r => r.options.toList

def Fetched.layers (f : Fetched) : List Options := f.fetch.options.toList

def Described.layers (d : Described) : List Options :=
  d.writing.options :: (Plan.ofCalls d.calls).layers

/-- The layers that a caller lays over the options of the client, weakest first. -/
def Chronicle.layers? (c : Chronicle) : Origin → Option (List Options)
  | .fetch n => c.fetches[n]?.map Fetched.layers
  | .write n => c.writes[n]?.map Described.layers

theorem mergeAll_cons (o : Options) (layers : List (Option Options)) :
    Options.mergeAll (some o :: layers) = (o :: layers.filterMap id).foldl Options.merge {} :=
  rfl

theorem filterMap_id_toList (o : Option Options) : [o].filterMap id = o.toList := by
  cases o <;> rfl

theorem Fetched.options_content (f : Fetched) (defaults : Options) :
    (f.content defaults).2 = (defaults :: f.layers).foldl Options.merge {} := by
  show Options.mergeAll [some (f.draft.query defaults).defaults, f.fetch.options] = _
  rw [Draft.query_defaults, mergeAll_cons, filterMap_id_toList]
  rfl

theorem Described.options_content {d : Described} {defaults : Options}
    {content : Request × Options} (h : d.content defaults = some content) :
    content.2 = (defaults :: d.layers).foldl Options.merge {} := by
  obtain ⟨w, r, -, hplan, -⟩ := Chronicle.content_eq_some_iff.mp h
  obtain ⟨m, -, rfl⟩ := content_of_settled hplan h
  show Options.mergeAll [some defaults, some d.writing.options, r.options] = _
  rw [Described.layers, hplan, Plan.layers, ← filterMap_id_toList]
  rfl

/-- What is due for an origin has the options of the client under its layers. -/
theorem Chronicle.options_of_sent {c : Chronicle} {defaults : Options} {o : Origin}
    {content : Request × Options} (h : c.sent defaults o = some content) :
    ∃ layers, c.layers? o = some layers ∧
      content.2 = (defaults :: layers).foldl Options.merge {} := by
  cases o with
  | fetch n =>
      obtain ⟨f, hf, rfl⟩ := Option.map_eq_some_iff.mp h
      exact ⟨f.layers, Option.map_eq_some_iff.mpr ⟨f, hf, rfl⟩, f.options_content defaults⟩
  | write n =>
      obtain ⟨d, hd, hcontent⟩ := Option.bind_eq_some_iff.mp h
      exact ⟨d.layers, Option.map_eq_some_iff.mpr ⟨d, hd, rfl⟩, d.options_content hcontent⟩

/-- A request that was received was due. -/
theorem Session.Agrees.sent_of_request {s : Session (σ × Traffic) (τ × Nat)} {c : Chronicle}
    {owners : List Origin} {polls : List Nat} {o : Origin} {content : Request × Options}
    (h : s.Agrees c owners polls) (hrequest : c.request? s.surroundings.2 o = some content) :
    c.sent s.defaults o = some content := by
  have hlength := congrArg List.length h.received
  rw [List.length_map, List.length_map] at hlength
  obtain ⟨hlt, -⟩ := List.getElem?_eq_some_iff.mp hrequest
  have hflight : o ∈ c.flights := List.idxOf_lt_length_iff.mp (hlength ▸ hlt)
  obtain ⟨content', hsent, hrequest'⟩ := h.exists_request (Chronicle.mem_flights.mp hflight)
  exact hsent.trans (hrequest'.symm.trans hrequest)

/-- Of any run of a client with an address and a key: each request that is received is one
that was due, with the options that the four layers come to. -/
theorem Session.layered_run (t : Transport σ τ) (surroundings : σ) (url key : String) (o : Options)
    (ops : List Operation) :
    let defaults := Options.merge { baseUrl := some url, apiKey := some key } o
    let c := (start t surroundings defaults).account ops
    let traffic := traffic t surroundings defaults ops
    (∀ content ∈ traffic.received, ∃ origin, c.request? traffic origin = some content) ∧
    ∀ origin content, c.request? traffic origin = some content →
      ∃ layers, c.layers? origin = some layers ∧
        content.2.Layered ({ baseUrl := some url, apiKey := some key } :: o :: layers) ∧
        ∃ base, content.2.baseUrl = some base := by
  intro defaults c traffic
  obtain ⟨owners, polls, h⟩ := exists_agrees_account t surroundings defaults ops
  refine ⟨?_, ?_⟩
  · intro content hcontent
    obtain ⟨origin, -, hrequest⟩ := h.exists_origin hcontent
    exact ⟨origin, hrequest⟩
  · intro origin content hrequest
    have hsent := h.sent_of_request hrequest
    rw [defaults_observed] at hsent
    obtain ⟨layers, hlayers, hcontent⟩ := Chronicle.options_of_sent hsent
    have hlayered := Options.layered_merge { baseUrl := some url, apiKey := some key } o layers
    rw [← hcontent] at hlayered
    have hbase := hlayered.baseUrl
    rw [lastSet_cons, Option.or_some] at hbase
    exact ⟨layers, hlayers, hlayered, _, hbase⟩

/-! ## The client -/

namespace Client

variable {κ ν υ : Type} {net : Http.Network κ ν υ}

/-- A client is created with the usual settings, whatever its options. -/
theorem create_of_ok {built : κ} (h : net.build {} = .ok built) (url key : String) (o : Options) :
    let defaults := Options.merge { baseUrl := some url, apiKey := some key } o
    create net url key o
      = .ok {
          defaults
          carrier := { client := built, config := { baseUrl := defaults.baseUrl.getD "" } } } := by
  simp only [create, Http.Carrier.create, h]
  rfl

theorem create_of_error {message : String} (h : net.build {} = .error message)
    (url key : String) (o : Options) : create net url key o = .error (.http message) := by
  simp only [create, Http.Carrier.create, h]
  rfl

theorem create_eq_ok_iff {url key : String} {o : Options} {client : Client κ} :
    create net url key o = .ok client ↔
      net.build {} = .ok client.carrier.client ∧
        client.defaults = Options.merge { baseUrl := some url, apiKey := some key } o ∧
        client.carrier.config = { baseUrl := client.defaults.baseUrl.getD "" } := by
  cases h : net.build {} with
  | error message =>
      rw [create_of_error h]
      exact ⟨nofun, fun h => nomatch h.1⟩
  | ok built =>
      rw [create_of_ok h]
      obtain ⟨defaults, built', config⟩ := client
      constructor
      · intro heq
        cases heq
        exact ⟨rfl, rfl, rfl⟩
      · rintro ⟨hbuilt, hdefaults, hconfig⟩
        cases hbuilt
        dsimp only at hdefaults hconfig
        rw [hconfig, hdefaults]

end Client

/-! ## The address -/

namespace Http.Carrier

variable {κ ν υ : Type}

/-- The carrier with another address for calls without one. -/
def withBase (x : Carrier κ) (base : String) : Carrier κ :=
  { x with config := { x.config with baseUrl := base } }

theorem take_withBase (net : Network κ ν υ) (x : Carrier κ) (fallback : String) {o : Options}
    {base : String} (h : o.baseUrl = some base) (r : Request) (s : World ν) :
    (x.withBase fallback).take net r o s = x.take net r o s := by
  have hout : (x.withBase fallback).outgoing r o = x.outgoing r o := by
    funext fields
    simp only [outgoing, withBase, Config.url, h, Option.getD_some]
  unfold take
  rw [hout]
  rfl

end Http.Carrier

namespace Session

/-- Over carriers that differ in the address for calls without one, a run in which no call is
without one goes the same. -/
theorem run_withBase {κ ν υ : Type} (net : Http.Network κ ν υ) (x : Http.Carrier κ)
    (fallback : String) {w : Http.World ν} {defaults : Options} {ops : List Operation}
    (h : ∀ content ∈ (traffic (x.transport net) w defaults ops).received,
      ∃ base, content.2.baseUrl = some base) :
    (start ((x.withBase fallback).transport net) w defaults).trace ops
        = (start (x.transport net) w defaults).trace ops ∧
      ((start ((x.withBase fallback).transport net) w defaults).run ops).surroundings
        = ((start (x.transport net) w defaults).run ops).surroundings := by
  apply run_of_received (P := fun content => ∃ base, content.2.baseUrl = some base)
  case hdispatch =>
    rintro r o s ⟨base, hbase⟩
    rw [Http.Carrier.dispatch_transport, Http.Carrier.dispatch_transport]
    exact Http.Carrier.take_withBase net x fallback hbase r s
  case hpolls => rfl
  case hfinish => rfl
  case hreceived => exact h

/-- A client can be created for every address and key with all options, as long as the
network builds a client at all.  Over whatever transport it works, its own or another, each
request that the transport receives comes with the options that the four layers come to,
field by field and header by header, and an address is among them.

Over its own transport the network is handed the messages of the requests received, in
their order, those left out of which a header cannot be sent.  Each has the headers of these
options and goes below their address, from whose end one slash is taken if there is one, and
where it goes is what is traced.  The address that the HTTP transport was set up with makes
no difference: with any other in its place the callers get the same and the network is left
the same. -/
theorem option_precedence {κ ν υ : Type} (net : Http.Network κ ν υ) (url key : String)
    (o : Options) :
    ((∃ client, Client.create net url key o = .ok client) ↔
      ∃ built, net.build {} = .ok built) ∧
    ∀ client, Client.create net url key o = .ok client →
      (∀ (σ τ : Type) (t : Transport σ τ) (surroundings : σ) (ops : List Operation),
        let c := (start t surroundings client.defaults).account ops
        let traffic := traffic t surroundings client.defaults ops
        (∀ content ∈ traffic.received, ∃ origin, c.request? traffic origin = some content) ∧
        ∀ origin content, c.request? traffic origin = some content →
          ∃ layers, c.layers? origin = some layers ∧
            content.2.Layered ({ baseUrl := some url, apiKey := some key } :: o :: layers) ∧
            ∃ base, content.2.baseUrl = some base) ∧
      ∀ (w : Http.World ν) (ops : List Operation),
        let x := client.carrier
        let s := start (x.transport net) w client.defaults
        let received := (traffic (x.transport net) w client.defaults ops).received
        let sent := handed net x w client.defaults ops
        List.Forall₂ (fun content sent => sent.1 = x.client ∧ sent.2.Carries content.1 content.2)
          (received.filter fun content => net.rules.sendsAll (.ofOptions content.2)) sent ∧
        (s.run ops).surroundings.sentTo = w.sentTo ++ sent.map (fun p => p.2.url) ∧
        ∀ fallback,
          let s' := start ((x.withBase fallback).transport net) w client.defaults
          s'.trace ops = s.trace ops ∧ (s'.run ops).surroundings = (s.run ops).surroundings := by
  refine ⟨?_, ?_⟩
  · constructor
    · rintro ⟨client, hclient⟩
      exact ⟨_, (Client.create_eq_ok_iff.mp hclient).1⟩
    · rintro ⟨built, hbuilt⟩
      exact ⟨_, Client.create_of_ok hbuilt url key o⟩
  intro client hclient
  obtain ⟨-, hdefaults, -⟩ := Client.create_eq_ok_iff.mp hclient
  have hlayers := fun (σ τ : Type) (t : Transport σ τ) (surroundings : σ) (ops : List Operation) =>
    layered_run t surroundings url key o ops
  rw [← hdefaults] at hlayers
  refine ⟨hlayers, ?_⟩
  intro w ops x s received sent
  have hbase : ∀ content ∈ received, ∃ base, content.2.baseUrl = some base := by
    intro content hcontent
    obtain ⟨horigins, hlayered⟩ := hlayers _ _ (x.transport net) w ops
    obtain ⟨origin, hrequest⟩ := horigins content hcontent
    obtain ⟨-, -, -, hbase⟩ := hlayered origin content hrequest
    exact hbase
  refine ⟨?_, traced_run net x w client.defaults ops, fun fallback => run_withBase net x fallback hbase⟩
  have hsent : sent = _ := handed_run net x w client.defaults ops
  rw [hsent, Http.Carrier.filterMap_message?, List.forall₂_map_right_iff]
  refine List.forall₂_same.mpr fun content hcontent => ⟨rfl, ?_⟩
  obtain ⟨base, hcontent⟩ := hbase content (List.mem_of_mem_filter hcontent)
  exact Http.Carrier.carries_outgoing hcontent

/-- An update with options of its own, set off with options that name another
gateway. -/
def movedUpdate : List Operation :=
  [.openQuery "users" "users",
    .write "users" (.update (.map []) { userId := some "ada", count := some .exact }) "handle",
    .trigger "handle"
      { refinement := some { options := some { baseUrl := some "https://other.example/" } } } none]

/-- A client over a scripted network, with a user and a header. -/
def movedClient : Client Http.Settings where
  defaults :=
    { baseUrl := some "https://gateway.example", apiKey := some "key", userId := some "bob"
      headers := SortedMap.empty.insert "x-trace" "on" }
  carrier := { client := {}, config := { baseUrl := "https://gateway.example" } }

/-- The address is that of the refinement, the user that of the write, the key
that of the client, and a header of the client is there in lowercase. -/
theorem option_precedence_movedUpdate :
    Client.create .scripted "https://gateway.example" "key"
        { userId := some "bob", headers := SortedMap.empty.insert "X-Trace" "on" }
      = .ok movedClient ∧
    ∃ content sent,
      (traffic (movedClient.carrier.transport .scripted) { network := [] } movedClient.defaults
        movedUpdate).received = [content] ∧
      handed .scripted movedClient.carrier { network := [] } movedClient.defaults movedUpdate
        = [sent] ∧
      sent.2.method = "POST" ∧ sent.2.url = "https://other.example" ++ "/gateway/update" ∧
      sent.2.headers = .ofOptions content.2 ∧
      content.2.userId = some "ada" ∧ content.2.apiKey = some "key" ∧
      content.2.headers.get? "x-trace" = some "on" := by
  have hclient : Client.create .scripted "https://gateway.example" "key"
      { userId := some "bob", headers := SortedMap.empty.insert "X-Trace" "on" }
        = .ok movedClient :=
    Client.create_eq_ok_iff.mpr ⟨rfl, by decide +kernel, rfl⟩
  have hreceived : ((traffic (movedClient.carrier.transport .scripted) { network := [] }
      movedClient.defaults movedUpdate).received.map fun content => content.1.endpoint)
        = [.update] := by
    decide +kernel
  have hhanded : (handed .scripted movedClient.carrier { network := [] } movedClient.defaults
      movedUpdate).length = 1 := by
    decide +kernel
  have haccount : let c := (start (movedClient.carrier.transport .scripted) { network := [] }
      movedClient.defaults).account movedUpdate
      c.flights.idxOf (.write 0) = 0 ∧ c.layers? (.write 0)
        = some [{ userId := some "ada", count := some .exact },
            { baseUrl := some "https://other.example/" }] := by
    decide +kernel
  obtain ⟨hplace, hgiven⟩ := haccount
  obtain ⟨content, hcontent, hendpoint⟩ := List.map_eq_singleton_iff.mp hreceived
  obtain ⟨sent, hsent⟩ := List.length_eq_one_iff.mp hhanded
  refine ⟨hclient, content, sent, hcontent, hsent, ?_⟩
  obtain ⟨-, hruns⟩ := option_precedence .scripted "https://gateway.example" "key"
    { userId := some "bob", headers := SortedMap.empty.insert "X-Trace" "on" }
  obtain ⟨hlayers, hnetwork⟩ := hruns movedClient hclient
  -- the one request received is that of the write, under its layers
  obtain ⟨-, hlayers⟩ := hlayers _ _ (movedClient.carrier.transport .scripted) { network := [] }
    movedUpdate
  obtain ⟨layers, hlaid, hlayered, base, hbase⟩ := hlayers (.write 0) content (by
    rw [Chronicle.request?, hplace, hcontent]
    rfl)
  cases hgiven.symm.trans hlaid
  -- and the one message handed over is its message
  obtain ⟨hmessages, -⟩ := hnetwork { network := [] } movedUpdate
  rw [hcontent, hsent] at hmessages
  obtain ⟨content', rest, ⟨-, hmessage⟩, -, hfilter⟩ := List.forall₂_cons_right_iff.mp hmessages
  have hmem : content' ∈ [content] := List.mem_of_mem_filter (hfilter ▸ List.mem_cons_self)
  cases List.mem_singleton.mp hmem
  obtain ⟨base', hbase', hurl⟩ := hmessage.url
  refine ⟨?_, ?_, hmessage.headers, hlayered.userId, hlayered.apiKey, ?_⟩
  · rw [hmessage.method, hendpoint]
    rfl
  · cases hbase'.symm.trans hlayered.baseUrl
    rw [Endpoint.below_iff.mp hurl, hendpoint]
    decide +kernel
  · exact (hlayered.headers "x-trace" "on").mpr (Options.lastMention_iff.mpr (by decide +kernel))

end Session

end TableGateway
