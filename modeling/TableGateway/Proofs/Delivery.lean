/-
Delivery: every leaf of a tree of receivers is told of every event once.

A leaf is where it stands, so that an observer which is named at several places is told
at each.  The places of a tree are addresses: the numbers of the members to take on the
way down.  `Receivers.places` lists all of them from left to right, and what receivers do
with some events is what their leaves do, one place after another and one event after
another.

An instrument is given its receivers one by one, and each one that is added is grouped
with all before it.  Told of an event are the one that was set last and those that were
added after it, in this order (`Instrument.fan_out`).
-/
import Mathlib.Data.List.Infix
import Mathlib.Logic.Function.Iterate
import TableGateway.Proofs.Watch

namespace TableGateway

variable {ι σ : Type}

/-! ## Places -/

namespace Receivers

/-- An observer is named by the leaf at this address. -/
inductive LeafAt : Receivers ι → List Nat → ι → Prop
  | one (i : ι) : LeafAt (.one i) [] i
  | member {members : List (Receivers ι)} {n : Nat} {r : Receivers ι} {path : List Nat} {i : ι} :
      members[n]? = some r → LeafAt r path i → LeafAt (.several members) (n :: path) i

mutual

/-- The addresses of all leaves, with the observers they name. -/
def places : Receivers ι → List (List Nat × ι)
  | nobody => []
  | one i => [([], i)]
  | several members => placesFrom 0 members

/-- The places in some members, of which the first has the given number. -/
def placesFrom (n : Nat) : List (Receivers ι) → List (List Nat × ι)
  | [] => []
  | r :: rest => (places r).map (fun p => (n :: p.1, p.2)) ++ placesFrom (n + 1) rest

end

mutual

theorem mem_places : ∀ (r : Receivers ι) (path : List Nat) (i : ι),
    (path, i) ∈ r.places ↔ r.LeafAt path i
  | nobody, path, i => by
      rw [places]
      exact ⟨fun h => absurd h List.not_mem_nil, fun h => nomatch h⟩
  | one j, path, i => by
      rw [places, List.mem_singleton, Prod.mk.injEq]
      constructor
      · rintro ⟨rfl, rfl⟩
        exact .one _
      · rintro ⟨⟩
        exact ⟨rfl, rfl⟩
  | several members, path, i => by
      rw [places, mem_placesFrom]
      constructor
      · rintro ⟨m, r, rest, rfl, hr, hleaf⟩
        rw [Nat.zero_add]
        exact .member hr hleaf
      · intro h
        cases h with
        | member hr hleaf => exact ⟨_, _, _, by rw [Nat.zero_add], hr, hleaf⟩

theorem mem_placesFrom : ∀ (n : Nat) (members : List (Receivers ι)) (path : List Nat) (i : ι),
    (path, i) ∈ placesFrom n members ↔
      ∃ m r rest, path = (n + m) :: rest ∧ members[m]? = some r ∧ r.LeafAt rest i
  | n, [], path, i => by
      rw [placesFrom]
      refine ⟨fun h => absurd h List.not_mem_nil, ?_⟩
      rintro ⟨m, r, rest, -, hr, -⟩
      rw [List.getElem?_nil] at hr
      cases hr
  | n, r :: members, path, i => by
      rw [placesFrom, List.mem_append, mem_placesFrom, List.mem_map]
      constructor
      · rintro (⟨⟨rest, j⟩, hmem, heq⟩ | ⟨m, r', rest, rfl, hr', hleaf⟩)
        · cases heq
          exact ⟨0, r, rest, rfl, rfl, (mem_places r rest _).mp hmem⟩
        · exact ⟨m + 1, r', rest, by rw [Nat.add_assoc, Nat.add_comm 1], hr', hleaf⟩
      · rintro ⟨m, r', rest, rfl, hr', hleaf⟩
        cases m with
        | zero =>
            cases hr'
            exact Or.inl ⟨(rest, i), (mem_places r rest i).mpr hleaf, rfl⟩
        | succ m => exact Or.inr ⟨m, r', rest, by rw [Nat.add_assoc, Nat.add_comm 1], hr', hleaf⟩

end

mutual

/-- No place is listed twice, and places to the left come first. -/
theorem pairwise_places : ∀ r : Receivers ι, r.places.Pairwise fun p q => p.1 < q.1
  | nobody => by
      rw [places]
      exact .nil
  | one i => by
      rw [places]
      exact List.pairwise_singleton _ _
  | several members => by
      rw [places]
      exact pairwise_placesFrom 0 members

theorem pairwise_placesFrom : ∀ (n : Nat) (members : List (Receivers ι)),
    (placesFrom n members).Pairwise fun p q => p.1 < q.1
  | n, [] => by
      rw [placesFrom]
      exact .nil
  | n, r :: members => by
      rw [placesFrom, List.pairwise_append, List.pairwise_map]
      refine ⟨(pairwise_places r).imp fun h => List.cons_lt_cons_iff.mpr (Or.inr ⟨rfl, h⟩),
        pairwise_placesFrom (n + 1) members, ?_⟩
      rintro p hp ⟨path, i⟩ hq
      obtain ⟨p, -, rfl⟩ := List.mem_map.mp hp
      obtain ⟨m, -, rest, rfl, -⟩ := (mem_placesFrom (n + 1) members path i).mp hq
      exact List.cons_lt_cons_iff.mpr (Or.inl (by omega))

end

mutual

theorem map_snd_places : ∀ r : Receivers ι, r.places.map Prod.snd = r.leaves
  | nobody => by rw [places, leaves, List.map_nil]
  | one i => by rw [places, leaves, List.map_singleton]
  | several members => by rw [places, leaves, map_snd_placesFrom]

theorem map_snd_placesFrom : ∀ (n : Nat) (members : List (Receivers ι)),
    (placesFrom n members).map Prod.snd = leavesAll members
  | n, [] => by rw [placesFrom, leavesAll, List.map_nil]
  | n, r :: members => by
      rw [placesFrom, leavesAll, List.map_append, List.map_map, map_snd_placesFrom,
        ← map_snd_places r]
      rfl

end

/-! ## Deliveries -/

/-- Which events are delivered where: the first one at all places, then the next. -/
def deliveries (places : List (List Nat × ι)) (es : List Event) : List (Event × List Nat × ι) :=
  es.flatMap fun e => places.map fun p => (e, p)

theorem deliver_eq_foldl_places (tell : ι → σ → σ) (r : Receivers ι) (s : σ) :
    r.deliver tell s = r.places.foldl (fun s p => tell p.2 s) s := by
  rw [deliver_eq, ← map_snd_places, List.foldl_map]

/-- What comes of some events is what comes of their deliveries. -/
theorem foldl_deliver (tell : Event → ι → σ → σ) (r : Receivers ι) (es : List Event) (s : σ) :
    es.foldl (fun s e => r.deliver (tell e) s) s
      = (deliveries r.places es).foldl (fun s d => tell d.1 d.2.2 s) s := by
  simp only [deliveries, List.foldl_flatMap, List.foldl_map, deliver_eq_foldl_places]

end Receivers

/-! ## Receivers of an instrument -/

/-- A way to say who observes the calls of a transport. -/
inductive Attachment (ι : Type) where
  /-- A receiver in place of all others. -/
  | set (r : Receivers ι)
  /-- One more, after the others. -/
  | add (r : Receivers ι)

namespace Instrument

def attach (i : Instrument ι) : Attachment ι → Instrument ι
  | .set r => i.withReceiver r
  | .add r => i.addReceiver r

/-- Of some attachments remain the last that sets a receiver and those after it; before
any is set there is nobody. -/
def Remain (attachments : List (Attachment ι)) (base : Receivers ι)
    (added : List (Receivers ι)) : Prop :=
  attachments = added.map .add ∧ base = .nobody ∨
    ∃ before, attachments = before ++ .set base :: added.map .add

/-- Each receiver that is added is grouped with all before it. -/
def grouped (base : Receivers ι) (added : List (Receivers ι)) : Receivers ι :=
  added.foldl (fun r next => .several [r, next]) base

theorem deliver_grouped (tell : ι → σ → σ) (base : Receivers ι) (added : List (Receivers ι))
    (s : σ) :
    (grouped base added).deliver tell s
      = (base :: added).foldl (fun s r => r.deliver tell s) s := by
  induction added generalizing base with
  | nil => rfl
  | cons r rest ih =>
      rw [grouped, List.foldl_cons, ← grouped, ih]
      simp only [List.foldl_cons, Receivers.deliver, Receivers.deliverAll]

theorem exists_remain (config : ObserveConfig) (attachments : List (Attachment ι)) :
    ∃ base added, Remain attachments base added ∧
      (attachments.foldl attach { config }).receivers = grouped base added := by
  induction attachments using List.reverseRecOn with
  | nil => exact ⟨.nobody, [], Or.inl ⟨rfl, rfl⟩, rfl⟩
  | append_singleton earlier a ih =>
      obtain ⟨base, added, hremain, hgrouped⟩ := ih
      rw [List.foldl_concat]
      cases a with
      | set r => exact ⟨r, [], Or.inr ⟨earlier, rfl⟩, rfl⟩
      | add r =>
          refine ⟨base, added ++ [r], ?_, ?_⟩
          · rw [Remain, List.map_append, List.map_singleton]
            rcases hremain with ⟨rfl, hbase⟩ | ⟨before, rfl⟩
            · exact Or.inl ⟨rfl, hbase⟩
            · exact Or.inr ⟨before, List.append_assoc ..⟩
          · rw [grouped, List.foldl_concat, ← grouped, ← hgrouped]
            rfl

/-- What any receivers do with any events is what their leaves do, each event at each
place once, from left to right, and one event after another.  Whatever receivers are set
and added on an instrument, told of an event are the one that was set last, or nobody,
and those that were added after it. -/
theorem fan_out :
    (∀ r : Receivers ι, ∃ places : List (List Nat × ι),
      (∀ path i, (path, i) ∈ places ↔ r.LeafAt path i) ∧
      (places.Pairwise fun p q => p.1 < q.1) ∧
      ∀ (σ : Type) (tell : Event → ι → σ → σ) (es : List Event) (s : σ),
        es.foldl (fun s e => r.deliver (tell e) s) s
          = (Receivers.deliveries places es).foldl (fun s d => tell d.1 d.2.2 s) s) ∧
    ∀ (config : ObserveConfig) (attachments : List (Attachment ι)), ∃ base added,
      Remain attachments base added ∧
      ∀ (σ : Type) (tell : ι → σ → σ) (s : σ),
        (attachments.foldl attach { config }).receivers.deliver tell s
          = (base :: added).foldl (fun s r => r.deliver tell s) s := by
  constructor
  · intro r
    exact ⟨r.places, r.mem_places, r.pairwise_places, fun _ tell => Receivers.foldl_deliver tell r⟩
  · intro config attachments
    obtain ⟨base, added, hremain, hgrouped⟩ := exists_remain config attachments
    refine ⟨base, added, hremain, ?_⟩
    intro σ tell s
    rw [hgrouped, deliver_grouped]

end Instrument

end TableGateway
