/-
Sessions: runs of a client's operations over one transport.

A `Session` holds what callers hold: queries, writes and futures, each under a
name of the caller's choosing, with all calls that have been made.  Several
names may stand for one write, and several futures for one call, which is how
clones and repeated triggers share a call.  `Session.step` performs one
operation and answers it.
-/
import TableGateway.Datum
import TableGateway.Transport
import TableGateway.Write

namespace TableGateway

/-- How far a call has got. -/
inductive Progress (τ : Type) where
  /-- It has not been polled, and nothing has been sent. -/
  | unsent
  /-- The transport has taken it; so many more polls find it unfinished. -/
  | waiting (ticket : τ) (left : Nat)
  | finished (r : Result Json)

/-- A call: what it sends and how far it has got. -/
structure Call (τ : Type) where
  request : Request
  options : Options
  progress : Progress τ := .unsent

/-- A future: the call that it polls, whether it takes the first row only, and
whether it is shared, so that copies of it can be made. -/
structure Future where
  call : Nat
  single : Bool
  shared : Bool := false
deriving DecidableEq

namespace Future

/-- What the future makes of the result of its call. -/
def view (f : Future) (r : Result Json) : Result Json := if f.single then r.single else r

end Future

/-- The state of a run. -/
structure Session (σ τ : Type) where
  transport : Transport σ τ
  /-- The state that the transport works on. -/
  surroundings : σ
  /-- The default options of the client. -/
  defaults : Options
  queries : SortedMap Query := ∅
  /-- The writes by number; `handles` gives the number that a name stands for. -/
  writes : List Write := []
  handles : SortedMap Nat := ∅
  /-- The calls by number. -/
  calls : List (Call τ) := []
  futures : SortedMap Future := ∅

/-- The ways to read rows. -/
structure Fetch where
  columns : Columns := .all
  options : Option Options := none
  /-- Whether only the first row is wanted. -/
  single : Bool := false

/-- The ways to set off a write: with what was recorded, or with columns and
perhaps options. -/
structure Trigger where
  refinement : Option Refinement := none
  /-- Whether only the first row is wanted. -/
  single : Bool := false

/-- The writes that a query can describe. -/
inductive Writing where
  | insert (values : Datum) (o : Options)
  | upsert (values : Datum) (updateBody : Option Json) (onConflict : Option Columns) (o : Options)
  | update (values : Datum) (o : Options)
  | delete (resourceId : Option String) (o : Options)

/-- The operations of a session.  `keep` is the name under which a future is put
aside instead of being awaited.  Only the future of a trigger that keeps all rows
can be copied. -/
inductive Operation where
  | openQuery (name table : String)
  | cloneQuery (name copy : String)
  | clause (name : String) (c : Clause)
  | fetch (name : String) (f : Fetch) (keep : Option String)
  | write (name : String) (w : Writing) (handle : String)
  | cloneHandle (handle copy : String)
  | refine (handle : String) (r : Refinement)
  | trigger (handle : String) (t : Trigger) (keep : Option String)
  | cloneFuture (future copy : String)
  | await (future : String)
  | poll (future : String)
  | drop (future : String)
  | join (futures : List String)

/-- Why an operation is not performed. -/
inductive Refusal where
  | noSuchQuery
  | noSuchHandle
  | noSuchFuture
  /-- The client refuses it. -/
  | error (e : Error)
deriving DecidableEq

/-- What an operation is answered with. -/
inductive Outcome where
  | done
  /-- The future is put aside. -/
  | parked
  | result (r : Result Json)
  | results (rs : List (Result Json))
  /-- A poll found the call unfinished. -/
  | unfinished

namespace Session

variable {σ τ : Type}

/-- The session of a client without anything in it. -/
def start (t : Transport σ τ) (surroundings : σ) (defaults : Options) : Session σ τ :=
  { transport := t, surroundings, defaults }

/-! ## Calls -/

/-- Notes a call that is not sent yet; its number is returned. -/
def newCall (s : Session σ τ) (r : Request) (o : Options) : Session σ τ × Nat :=
  ({ s with calls := s.calls ++ [{ request := r, options := o }] }, s.calls.length)

/-- Notes how far a call has got. -/
def setProgress (s : Session σ τ) (i : Nat) (p : Progress τ) : Session σ τ :=
  { s with calls := s.calls.modify i fun c => { c with progress := p } }

/-- Sends a call, through the transport as it is shared among queries and writes. -/
def send (s : Session σ τ) (c : Call τ) : Session σ τ × τ :=
  let (surroundings, ticket) := s.transport.shared.send c.request c.options s.surroundings
  ({ s with surroundings }, ticket)

/-- A poll of a call that the transport has taken: it is finished unless polls
are left that find it unfinished. -/
def pollTaken (s : Session σ τ) (i : Nat) (ticket : τ) :
    Nat → Session σ τ × Option (Result Json)
  | 0 =>
      let (surroundings, response) := s.transport.finish ticket s.surroundings
      let r := Result.ofResponse response
      ({ s with surroundings }.setProgress i (.finished r), some r)
  | left + 1 => (s.setProgress i (.waiting ticket left), none)

/-- Polls a call once.  The first poll sends it. -/
def pollCall (s : Session σ τ) (i : Nat) : Session σ τ × Option (Result Json) :=
  match s.calls[i]? with
  | none => (s, none)
  | some c =>
      match c.progress with
      | .finished r => (s, some r)
      | .waiting ticket left => s.pollTaken i ticket left
      | .unsent =>
          let (s, ticket) := s.send c
          s.pollTaken i ticket (s.transport.polls ticket)

/-- Polls a call up to `n` times, until it is finished. -/
def pollUpTo (s : Session σ τ) (i : Nat) : Nat → Session σ τ × Option (Result Json)
  | 0 => (s, none)
  | n + 1 =>
      match s.pollCall i with
      | (s, some r) => (s, some r)
      | (s, none) => s.pollUpTo i n

/-- How many more polls a call that has been polled needs. -/
def pollsLeft (s : Session σ τ) (i : Nat) : Nat :=
  match s.calls[i]? with
  | some { progress := .waiting _ left, .. } => left + 1
  | _ => 0

/-- Polls a call until it is finished. -/
def awaitCall (s : Session σ τ) (i : Nat) : Session σ τ × Option (Result Json) :=
  match s.pollCall i with
  | (s, some r) => (s, some r)
  | (s, none) => s.pollUpTo i (s.pollsLeft i)

/-! ## Several calls at once -/

/-- Polls each future that has no result yet, from first to last. -/
def pollRound (s : Session σ τ) :
    List (Future × Option (Result Json)) → Session σ τ × List (Future × Option (Result Json))
  | [] => (s, [])
  | (f, some r) :: rest =>
      let (s, rest) := s.pollRound rest
      (s, (f, some r) :: rest)
  | (f, none) :: rest =>
      let (s, r) := s.pollCall f.call
      let (s, rest) := s.pollRound rest
      (s, (f, r) :: rest)

/-- Rounds of polls, at most so many. -/
def pollRounds (s : Session σ τ) (fs : List (Future × Option (Result Json))) :
    Nat → Session σ τ × List (Future × Option (Result Json))
  | 0 => (s, fs)
  | n + 1 =>
      let (s, fs) := s.pollRound fs
      if fs.all (·.2.isSome) then (s, fs) else s.pollRounds fs n

/-- A number of rounds after which all futures have their results.  Each round
polls an unfinished call at least once; a future that came before the poll that
finished its call finds the result in the round after. -/
def roundsLeft (s : Session σ τ) (fs : List (Future × Option (Result Json))) : Nat :=
  fs.foldr (fun f n => s.pollsLeft f.1.call + n) 1

/-- Polls all futures in turn until each has its result.  The first round sends
what is not sent yet, so the rounds after it are counted once it is over. -/
def joinCalls (s : Session σ τ) (fs : List Future) : Session σ τ × List (Result Json) :=
  let (s, found) := s.pollRound (fs.map fun f => (f, none))
  let (s, found) := s.pollRounds found (s.roundsLeft found)
  (s, found.filterMap fun (f, r) => r.map f.view)

/-! ## Operations -/

/-- Awaits a future, or puts it aside under a name. -/
def awaitOrKeep (s : Session σ τ) (f : Future) : Option String → Session σ τ × Outcome
  | some name => ({ s with futures := s.futures.insert name f }, .parked)
  | none =>
      match s.awaitCall f.call with
      | (s, some r) => (s, .result (f.view r))
      | (s, none) => (s, .unfinished)

/-- The write that a query is asked for. -/
def described (q : Query) : Writing → Except Error Write
  | .insert values o => do return q.insert (← json values) o
  | .upsert values updateBody onConflict o =>
      do return q.upsert (← json values) updateBody onConflict o
  | .update values o => do return q.update (← json values) o
  | .delete id o => q.delete id o
where
  /-- The JSON form of the values. -/
  json (values : Datum) : Except Error Json :=
    match values.toJson with
    | .ok v => .ok v
    | .error fault => .error (.serialization fault.message)

/-- The write of a handle, with its number. -/
def write? (s : Session σ τ) (handle : String) : Option (Nat × Write) := do
  let i ← s.handles.get? handle
  let w ← s.writes[i]?
  return (i, w)

/-- The call of a write.  The first trigger makes it; all others share it. -/
def resolve (s : Session σ τ) (i : Nat) (w : Write) (given : Option Refinement) :
    Session σ τ × Nat :=
  match w.stage with
  | .resolved call => (s, call)
  | _ =>
      let r := Write.settle w.stage.recorded given
      let (s, call) := s.newCall (w.requestFor r) (w.options r.options)
      ({ s with writes := s.writes.set i { w with stage := .resolved call } }, call)

/-- Takes futures out by their names, up to the first name that there is none for. -/
def takeFutures (s : Session σ τ) : List String → Session σ τ × Option (List Future)
  | [] => (s, some [])
  | name :: rest =>
      match s.futures.get? name with
      | none => (s, none)
      | some f =>
          let (s, fs) := { s with futures := s.futures.erase name }.takeFutures rest
          (s, fs.map (f :: ·))

/-- Performs an operation. -/
def step (s : Session σ τ) : Operation → Session σ τ × Except Refusal Outcome
  | .openQuery name table =>
      ({ s with queries := s.queries.insert name (.fresh table s.defaults) }, .ok .done)
  | .cloneQuery name copy =>
      match s.queries.get? name with
      | none => (s, .error .noSuchQuery)
      | some q => ({ s with queries := s.queries.insert copy q }, .ok .done)
  | .clause name c =>
      match s.queries.get? name with
      | none => (s, .error .noSuchQuery)
      | some q => ({ s with queries := s.queries.insert name (q.apply c) }, .ok .done)
  | .fetch name f keep =>
      match s.queries.get? name with
      | none => (s, .error .noSuchQuery)
      | some q =>
          let merged := q.options f.options
          let (s, call) := s.newCall (.fetch (q.payload f.columns merged)) merged
          let (s, outcome) := s.awaitOrKeep ⟨call, f.single, false⟩ keep
          (s, .ok outcome)
  | .write name w handle =>
      match s.queries.get? name with
      | none => (s, .error .noSuchQuery)
      | some q =>
          match described q w with
          | .error e => (s, .error (.error e))
          | .ok w =>
              ({ s with
                  writes := s.writes ++ [w]
                  handles := s.handles.insert handle s.writes.length }, .ok .done)
  | .cloneHandle handle copy =>
      match s.handles.get? handle with
      | none => (s, .error .noSuchHandle)
      | some i => ({ s with handles := s.handles.insert copy i }, .ok .done)
  | .refine handle r =>
      match s.write? handle with
      | none => (s, .error .noSuchHandle)
      | some (i, w) => ({ s with writes := s.writes.set i (w.refine r) }, .ok .done)
  | .trigger handle t keep =>
      match s.write? handle with
      | none => (s, .error .noSuchHandle)
      | some (i, w) =>
          let (s, call) := s.resolve i w t.refinement
          let (s, outcome) := s.awaitOrKeep ⟨call, t.single, !t.single⟩ keep
          (s, .ok outcome)
  | .cloneFuture name copy =>
      match s.futures.get? name with
      | none => (s, .error .noSuchFuture)
      | some f =>
          if f.shared then ({ s with futures := s.futures.insert copy f }, .ok .done)
          else (s, .error .noSuchFuture)
  | .await name =>
      match s.futures.get? name with
      | none => (s, .error .noSuchFuture)
      | some f =>
          let (s, outcome) := { s with futures := s.futures.erase name }.awaitOrKeep f none
          (s, .ok outcome)
  | .poll name =>
      match s.futures.get? name with
      | none => (s, .error .noSuchFuture)
      | some f =>
          match s.pollCall f.call with
          | (s, some r) =>
              ({ s with futures := s.futures.erase name }, .ok (.result (f.view r)))
          | (s, none) => (s, .ok .unfinished)
  | .drop name =>
      match s.futures.get? name with
      | none => (s, .error .noSuchFuture)
      | some _ => ({ s with futures := s.futures.erase name }, .ok .done)
  | .join names =>
      match s.takeFutures names with
      | (s, none) => (s, .error .noSuchFuture)
      | (s, some fs) =>
          let (s, rs) := s.joinCalls fs
          (s, .ok (.results rs))

/-- Performs operations one after the other. -/
def run (s : Session σ τ) (ops : List Operation) : Session σ τ :=
  ops.foldl (fun s op => (s.step op).1) s

/-- The operations of a run, each with what it is answered. -/
def trace (s : Session σ τ) : List Operation → List (Operation × Except Refusal Outcome)
  | [] => []
  | op :: ops => (op, (s.step op).2) :: (s.step op).1.trace ops

end Session

end TableGateway
