/-
Chronicles: what a caller knows of a run.

A caller sees the operations and their answers, and no call table, no stages and
no tickets.  A `Chronicle` is the account that can be kept from that alone: the
clauses that each query was put together from, what each handle was asked, which
future came from where, what was polled and what futures yielded.  From it one
can say what a run has to send (`Chronicle.sent`) and in which order
(`Chronicle.flights`), without a look at how a session does it.

An account only grows: a draft that was read by a fetch or a write is not
written to any more (`extends_note`), so what has been sent stays what is due
(`sent_of_extends`).
-/
import Mathlib.Data.List.Basic
import Mathlib.Data.List.Induction
import TableGateway.Session

namespace TableGateway

theorem getElem?_append_of_eq_some {α : Type} {l : List α} {i : Nat} {a : α} (h : l[i]? = some a)
    (more : List α) : (l ++ more)[i]? = some a := by
  rw [List.getElem?_append_left (List.getElem?_eq_some_iff.mp h).1, h]

/-! ## The parts of an account -/

/-- A query by the clauses that it was put together from. -/
structure Draft where
  table : String
  clauses : List Clause := []

/-- The query that comes of a draft. -/
def Draft.query (d : Draft) (defaults : Options) : Query :=
  d.clauses.foldl Query.apply (.fresh d.table defaults)

theorem query_concat (d : Draft) (c : Clause) (defaults : Options) :
    ({ d with clauses := d.clauses ++ [c] } : Draft).query defaults
      = (d.query defaults).apply c :=
  List.foldl_concat ..

/-- What a handle is asked.  Execution, selection and the collapsing forms are
triggers; they differ in the refinement that is given with them. -/
inductive HandleCall where
  | refine (r : Refinement)
  | trigger (given : Option Refinement)

/-- What a handle is going to send. -/
inductive Plan where
  /-- Nothing set it off yet; so much is recorded. -/
  | pending (recorded : Option Refinement)
  | settled (r : Refinement)
deriving DecidableEq

/-- The refinement that holds when a trigger finds one recorded: columns are the
trigger's, else those recorded, else all; options are the trigger's if it gives
any, else those recorded. -/
def Refinement.settledBy (recorded given : Option Refinement) : Refinement where
  columns := ((given.map Refinement.columns).or (recorded.map Refinement.columns)).getD .all
  options := (given.bind Refinement.options).or (recorded.bind Refinement.options)

namespace Plan

/-- The first trigger settles the plan; before it each refinement replaces the last. -/
def after : Plan → HandleCall → Plan
  | pending _, .refine r => pending (some r)
  | pending recorded, .trigger given => settled (.settledBy recorded given)
  | settled r, _ => settled r

/-- The plan after all that a handle was asked. -/
def ofCalls (calls : List HandleCall) : Plan := calls.foldl after (pending none)

theorem ofCalls_concat (calls : List HandleCall) (call : HandleCall) :
    ofCalls (calls ++ [call]) = (ofCalls calls).after call :=
  List.foldl_concat ..

theorem foldl_after_settled (r : Refinement) :
    ∀ calls : List HandleCall, calls.foldl after (settled r) = settled r
  | [] => rfl
  | _ :: rest => foldl_after_settled r rest

/-- A plan that is settled stays as it is. -/
theorem ofCalls_append {calls : List HandleCall} {r : Refinement} (h : ofCalls calls = settled r)
    (more : List HandleCall) : ofCalls (calls ++ more) = settled r := by
  unfold ofCalls at h ⊢
  rw [List.foldl_append, h, foldl_after_settled]

theorem ofCalls_refines (rs : List Refinement) :
    ofCalls (rs.map .refine) = pending rs.getLast? := by
  induction rs using List.reverseRecOn with
  | nil => rfl
  | append_singleton rs r ih =>
      rw [List.map_append, List.map_singleton, ofCalls_concat, ih, List.getLast?_concat]
      rfl

/-- Of what comes before the first trigger the last refinement counts, and
nothing that comes after it. -/
theorem ofCalls_trigger (rs : List Refinement) (given : Option Refinement)
    (later : List HandleCall) :
    ofCalls (rs.map .refine ++ .trigger given :: later)
      = settled (.settledBy rs.getLast? given) := by
  rw [List.append_cons]
  refine ofCalls_append ?_ later
  rw [ofCalls_concat, ofCalls_refines]
  rfl

end Plan

/-- A fetch, with its query as it was when the fetch was asked for. -/
structure Fetched where
  draft : Draft
  fetch : Fetch

/-- A write, with its query as it was when the handle was made, and all that the
handle and its clones were asked since. -/
structure Described where
  draft : Draft
  writing : Writing
  calls : List HandleCall := []

/-- What the call of a fetch sends. -/
def Fetched.content (f : Fetched) (defaults : Options) : Request × Options :=
  let q := f.draft.query defaults
  let merged := q.options f.fetch.options
  (.fetch (q.payload f.fetch.columns merged), merged)

/-- What the call of a write sends, once it is settled. -/
def Described.content (d : Described) (defaults : Options) : Option (Request × Options) :=
  match Session.described (d.draft.query defaults) d.writing, Plan.ofCalls d.calls with
  | .ok w, .settled r => some (w.requestFor r, w.options r.options)
  | _, _ => none

/-- What a future comes from: a fetch or a write, by number. -/
inductive Origin where
  | fetch (n : Nat)
  | write (n : Nat)
deriving DecidableEq

/-- A future as its owner knows it. -/
structure Held where
  origin : Origin
  single : Bool
  shared : Bool
deriving DecidableEq

/-- What the future makes of the result of its origin. -/
def Held.view (h : Held) (r : Result Json) : Result Json := if h.single then r.single else r

/-! ## The account -/

/-- The account of a run. -/
structure Chronicle where
  queries : SortedMap Draft := ∅
  fetches : List Fetched := []
  writes : List Described := []
  handles : SortedMap Nat := ∅
  futures : SortedMap Held := ∅
  /-- The origins of all futures that were polled, poll by poll. -/
  polls : List Origin := []
  /-- All that futures yielded. -/
  yields : List (Held × Result Json) := []

namespace Chronicle

/-- Notes what a future yielded, if the answer has it. -/
def yielded (c : Chronicle) (h : Held) : Except Refusal Outcome → Chronicle
  | .ok (.result r) => { c with yields := c.yields ++ [(h, r)] }
  | _ => c

/-- Notes polls. -/
def polled (c : Chronicle) (hs : List Held) : Chronicle :=
  { c with polls := c.polls ++ hs.map Held.origin }

/-- Notes a future that is put aside under a name or awaited at once. -/
def awaitOrKeep (c : Chronicle) (h : Held) (answer : Except Refusal Outcome) :
    Option String → Chronicle
  | some name => { c with futures := c.futures.insert name h }
  | none => (c.polled [h]).yielded h answer

/-- Notes what a handle is asked. -/
def ask (c : Chronicle) (i : Nat) (call : HandleCall) : Chronicle :=
  { c with writes := c.writes.modify i fun d => { d with calls := d.calls ++ [call] } }

/-- Takes futures out by their names, up to the first name that there is none for. -/
def take (c : Chronicle) : List String → Chronicle × Option (List Held)
  | [] => (c, some [])
  | name :: rest =>
      match c.futures.get? name with
      | none => (c, none)
      | some h =>
          let (c, hs) := { c with futures := c.futures.erase name }.take rest
          (c, hs.map (h :: ·))

/-- Notes what the futures of a join yielded. -/
def joined (c : Chronicle) (hs : List Held) : Except Refusal Outcome → Chronicle
  | .ok (.results rs) => { c with yields := c.yields ++ hs.zip rs }
  | _ => c

/-- Notes an operation and its answer. -/
def note (c : Chronicle) (op : Operation) (answer : Except Refusal Outcome) : Chronicle :=
  match op with
  | .openQuery name table => { c with queries := c.queries.insert name { table } }
  | .cloneQuery name copy =>
      match c.queries.get? name with
      | none => c
      | some d => { c with queries := c.queries.insert copy d }
  | .clause name clause =>
      match c.queries.get? name with
      | none => c
      | some d =>
          { c with queries := c.queries.insert name { d with clauses := d.clauses ++ [clause] } }
  | .fetch name f keep =>
      match c.queries.get? name with
      | none => c
      | some d =>
          awaitOrKeep { c with fetches := c.fetches ++ [⟨d, f⟩] }
            ⟨.fetch c.fetches.length, f.single, false⟩ answer keep
  | .write name w handle =>
      match c.queries.get? name, answer with
      | some d, .ok _ =>
          { c with
              writes := c.writes ++ [⟨d, w, []⟩]
              handles := c.handles.insert handle c.writes.length }
      | _, _ => c
  | .cloneHandle handle copy =>
      match c.handles.get? handle with
      | none => c
      | some i => { c with handles := c.handles.insert copy i }
  | .refine handle r =>
      match c.handles.get? handle with
      | none => c
      | some i => c.ask i (.refine r)
  | .trigger handle t keep =>
      match c.handles.get? handle with
      | none => c
      | some i =>
          (c.ask i (.trigger t.refinement)).awaitOrKeep ⟨.write i, t.single, !t.single⟩ answer keep
  | .cloneFuture name copy =>
      match c.futures.get? name with
      | none => c
      | some h => if h.shared then { c with futures := c.futures.insert copy h } else c
  | .await name =>
      match c.futures.get? name with
      | none => c
      | some h => awaitOrKeep { c with futures := c.futures.erase name } h answer none
  | .poll name =>
      match c.futures.get? name with
      | none => c
      | some h =>
          match answer with
          | .ok (.result _) =>
              ({ c with futures := c.futures.erase name }.polled [h]).yielded h answer
          | _ => c.polled [h]
  | .drop name =>
      match c.futures.get? name with
      | none => c
      | some _ => { c with futures := c.futures.erase name }
  | .join names =>
      match c.take names with
      | (c, none) => c
      | (c, some hs) => (c.polled hs).joined hs answer

/-- The account of operations with their answers. -/
def ofTrace (trace : List (Operation × Except Refusal Outcome)) : Chronicle :=
  trace.foldl (fun c e => c.note e.1 e.2) {}

/-- The origins that were polled, each once, in the order of their first polls. -/
def flights (c : Chronicle) : List Origin := c.polls.eraseDups

/-- What the call for an origin sends, by the account. -/
def sent (c : Chronicle) (defaults : Options) : Origin → Option (Request × Options)
  | .fetch n => c.fetches[n]?.map (·.content defaults)
  | .write n => c.writes[n]?.bind (·.content defaults)

/-! ## What stays in an account -/

/-- All fetches and writes of the one account are in the other, where handles may
have been asked more. -/
structure Extends (c c' : Chronicle) : Prop where
  fetches : c.fetches <+: c'.fetches
  writes : ∀ (i : Nat) (d : Described), c.writes[i]? = some d →
    ∃ more, c'.writes[i]? = some { d with calls := d.calls ++ more }

theorem Extends.of_eq {c c' : Chronicle} (hf : c'.fetches = c.fetches)
    (hw : c'.writes = c.writes) : c.Extends c' where
  fetches := hf ▸ List.prefix_rfl
  writes i d h := ⟨[], by rw [hw, h, List.append_nil]⟩

theorem Extends.refl (c : Chronicle) : c.Extends c := .of_eq rfl rfl

theorem Extends.trans {c c' c'' : Chronicle} (h : c.Extends c') (h' : c'.Extends c'') :
    c.Extends c'' where
  fetches := h.fetches.trans h'.fetches
  writes i d hd := by
    obtain ⟨more, hmore⟩ := h.writes i d hd
    obtain ⟨later, hlater⟩ := h'.writes i _ hmore
    exact ⟨more ++ later, by rw [hlater, List.append_assoc]⟩

theorem Extends.fetch {c c' : Chronicle} {n : Nat} {f : Fetched} (h : c.Extends c')
    (hf : c.fetches[n]? = some f) : c'.fetches[n]? = some f := by
  obtain ⟨later, hlater⟩ := h.fetches
  rw [← hlater]
  exact getElem?_append_of_eq_some hf later

theorem extends_awaitOrKeep (c : Chronicle) (h : Held) (answer : Except Refusal Outcome) :
    ∀ keep, c.Extends (c.awaitOrKeep h answer keep)
  | some _ => .of_eq rfl rfl
  | none => by
      show c.Extends ((c.polled [h]).yielded h answer)
      simp only [yielded]
      split <;> exact .of_eq rfl rfl

theorem getElem?_ask {c : Chronicle} {i : Nat} {d : Described} (hd : c.writes[i]? = some d)
    (call : HandleCall) :
    (c.ask i call).writes[i]? = some { d with calls := d.calls ++ [call] } := by
  rw [ask, List.getElem?_modify, hd]
  simp only [if_true]
  rfl

theorem extends_ask (c : Chronicle) (i : Nat) (call : HandleCall) : c.Extends (c.ask i call) where
  fetches := List.prefix_rfl
  writes j d hd := by
    by_cases hij : i = j
    · subst hij
      exact ⟨[call], getElem?_ask hd call⟩
    · refine ⟨[], ?_⟩
      rw [ask, List.getElem?_modify, hd, List.append_nil]
      simp only [if_neg hij]
      rfl

theorem extends_take : ∀ (names : List String) (c : Chronicle), c.Extends (c.take names).1
  | [], c => .refl c
  | name :: rest, c => by
      simp only [take]
      cases c.futures.get? name with
      | none => exact .refl c
      | some h =>
          refine .trans ?_ (extends_take rest { c with futures := c.futures.erase name })
          exact .of_eq rfl rfl

/-- An account is only added to. -/
theorem extends_note (c : Chronicle) (op : Operation) (answer : Except Refusal Outcome) :
    c.Extends (c.note op answer) := by
  cases op with
  | openQuery name table => exact .of_eq rfl rfl
  | cloneQuery name copy | clause name clause =>
      simp only [note]
      cases c.queries.get? name <;> exact .of_eq rfl rfl
  | fetch name f keep =>
      simp only [note]
      cases c.queries.get? name with
      | none => exact .refl c
      | some d =>
          refine .trans ?_ (extends_awaitOrKeep _ _ answer keep)
          exact ⟨List.prefix_append .., fun i d hd => ⟨[], by rw [hd, List.append_nil]⟩⟩
  | write name w handle =>
      simp only [note]
      split
      · refine ⟨List.prefix_rfl, fun i d hd => ⟨[], ?_⟩⟩
        rw [getElem?_append_of_eq_some hd, List.append_nil]
      · exact .refl c
  | cloneHandle handle copy =>
      simp only [note]
      cases c.handles.get? handle <;> exact .of_eq rfl rfl
  | refine handle r =>
      simp only [note]
      cases c.handles.get? handle with
      | none => exact .refl c
      | some i => exact extends_ask c i _
  | trigger handle t keep =>
      simp only [note]
      cases c.handles.get? handle with
      | none => exact .refl c
      | some i => exact (extends_ask c i _).trans (extends_awaitOrKeep _ _ answer keep)
  | cloneFuture name copy =>
      simp only [note]
      cases c.futures.get? name with
      | none => exact .refl c
      | some h =>
          dsimp only
          split <;> exact .of_eq rfl rfl
  | await name =>
      simp only [note]
      cases c.futures.get? name with
      | none => exact .refl c
      | some h =>
          refine .trans ?_ (extends_awaitOrKeep _ h answer none)
          exact .of_eq rfl rfl
  | poll name =>
      simp only [note]
      cases c.futures.get? name with
      | none => exact .refl c
      | some h =>
          dsimp only
          split <;> exact .of_eq rfl rfl
  | drop name =>
      simp only [note]
      cases c.futures.get? name <;> exact .of_eq rfl rfl
  | join names =>
      have htake := extends_take names c
      simp only [note]
      rcases hp : c.take names with ⟨c', _ | hs⟩
      · rw [hp] at htake
        exact htake
      · rw [hp] at htake
        refine htake.trans ?_
        show c'.Extends ((c'.polled hs).joined hs answer)
        simp only [joined]
        split <;> exact .of_eq rfl rfl

theorem extends_foldl (trace : List (Operation × Except Refusal Outcome)) (c : Chronicle) :
    c.Extends (trace.foldl (fun c e => c.note e.1 e.2) c) := by
  induction trace generalizing c with
  | nil => exact .refl c
  | cons e rest ih => exact (extends_note c e.1 e.2).trans (ih _)

/-- A handle has to send what its write makes of the refinement that was settled. -/
theorem content_eq_some_iff {d : Described} {defaults : Options} {content : Request × Options} :
    d.content defaults = some content ↔
      ∃ w r, Session.described (d.draft.query defaults) d.writing = .ok w ∧
        Plan.ofCalls d.calls = .settled r ∧ content = (w.requestFor r, w.options r.options) := by
  unfold Described.content
  constructor
  · intro h
    cases hw : Session.described (d.draft.query defaults) d.writing with
    | error e => rw [hw] at h; cases h
    | ok w =>
        cases hplan : Plan.ofCalls d.calls with
        | pending recorded => rw [hw, hplan] at h; cases h
        | settled r =>
            rw [hw, hplan] at h
            exact ⟨w, r, rfl, rfl, (Option.some.inj h).symm⟩
  · rintro ⟨w, r, hw, hplan, rfl⟩
    rw [hw, hplan]

theorem content_append {d : Described} {defaults : Options} {content : Request × Options}
    (h : d.content defaults = some content) (more : List HandleCall) :
    ({ d with calls := d.calls ++ more } : Described).content defaults = some content := by
  obtain ⟨w, r, hw, hplan, hcontent⟩ := content_eq_some_iff.mp h
  exact content_eq_some_iff.mpr ⟨w, r, hw, Plan.ofCalls_append hplan more, hcontent⟩

/-- What is due to be sent does not change any more. -/
theorem sent_of_extends {c c' : Chronicle} {defaults : Options} {o : Origin}
    {content : Request × Options} (hext : c.Extends c')
    (h : c.sent defaults o = some content) : c'.sent defaults o = some content := by
  cases o with
  | fetch n =>
      obtain ⟨f, hf, rfl⟩ := Option.map_eq_some_iff.mp h
      rw [sent, hext.fetch hf]
      rfl
  | write n =>
      obtain ⟨d, hd, hcontent⟩ := Option.bind_eq_some_iff.mp h
      obtain ⟨more, hmore⟩ := hext.writes n d hd
      rw [sent, hmore]
      exact content_append hcontent more

/-! ## Handles -/

/-- A handle that was not set off has nothing to send. -/
theorem content_of_pending {d : Described} {defaults : Options} {recorded : Option Refinement}
    (h : Plan.ofCalls d.calls = .pending recorded) : d.content defaults = none := by
  cases hcontent : d.content defaults with
  | none => rfl
  | some content =>
      obtain ⟨w, r, -, hplan, -⟩ := content_eq_some_iff.mp hcontent
      cases h.symm.trans hplan

theorem polls_yielded (c : Chronicle) (h : Held) (answer : Except Refusal Outcome) :
    (c.yielded h answer).polls = c.polls := by
  unfold yielded
  split <;> rfl

theorem writes_yielded (c : Chronicle) (h : Held) (answer : Except Refusal Outcome) :
    (c.yielded h answer).writes = c.writes := by
  unfold yielded
  split <;> rfl

/-- An execution that is awaited sets its handle off and polls it. -/
theorem note_execute {c : Chronicle} {handle : String} {i : Nat}
    (hi : c.handles.get? handle = some i) (answer : Except Refusal Outcome) :
    (c.note (.trigger handle {} none) answer).polls = c.polls ++ [.write i] ∧
      (c.note (.trigger handle {} none) answer).writes = (c.ask i (.trigger none)).writes := by
  simp only [note, hi, awaitOrKeep, polls_yielded, writes_yielded]
  exact ⟨rfl, rfl⟩

end Chronicle

end TableGateway
