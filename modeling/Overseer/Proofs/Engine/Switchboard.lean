import Overseer.Engine.Switchboard
import Overseer.Proofs.Table

/-!
# What a switchboard hands out

A frame answers a request if it names it, is of a version that is spoken here, and is of one of the
two kinds that answer anything (`Envelope.answer?`).  Where everybody waits under a name of his own
(`Switchboard.Keyed`), such a frame reaches whoever waits under the name, and nobody else is touched
by it; all other frames touch nobody.

* `Switchboard.get?_routeAll` : the first frame that answers a request takes it off the switchboard.
* `Switchboard.Keyed.told_routeAll` : it is handed to whoever waits, and the later ones are not.
* `Switchboard.Keyed.told_failPending` : those who still wait at the end are told that no answer
  will come.
-/

namespace Overseer.Wire

/-- The message by which a frame answers the request `id`. -/
def Envelope.answer? (e : Envelope) (id : String) : Option Message :=
  if e.version ≤ currentVersion ∧ e.requestId = some id then
    match e.message with
    | .status _ | .commandResult _ => some e.message
    | _ => none
  else none

end Overseer.Wire

namespace Overseer.Engine

open Overseer.Wire Overseer.Batch

variable {W : Type}

/-- What a delivery tells `w`: a message, or that none will come. -/
def Delivery.told [DecidableEq W] (w : W) : Delivery W → Option (Option Message)
  | .answer v m => if v = w then some (some m) else none
  | .hungUp v => if v = w then some none else none
  | .log .. => none

namespace Switchboard

/-- Everybody waits under a name of his own. -/
def Keyed (name : W → String) (s : Switchboard W) : Prop :=
  ∀ id w, s.pending.get? id = some w → id = name w

/-- All that a frame can do. -/
inductive Routed (s : Switchboard W) (e : Envelope) :
    Switchboard W × List (Delivery W) → Prop where
  /-- It answers the request that it names. -/
  | answers {id m} (ha : ∀ id', e.answer? id' = if id = id' then some m else none) :
      Routed s e (s.resolve (some id) m)
  /-- It tells the sinks something. -/
  | dispatched {x : LogEvent} (hn : ∀ id, e.answer? id = none) : Routed s e (s.dispatch x)
  /-- It is passed over. -/
  | skipped (hn : ∀ id, e.answer? id = none) : Routed s e (s, [])

variable {name : W → String} {s : Switchboard W}

/-- **A frame does nothing else.** -/
theorem routed_route (s : Switchboard W) (e : Envelope) : s.Routed e (s.route e) := by
  unfold route
  by_cases hv : currentVersion < e.version
  · rw [if_pos hv]
    exact .skipped fun _ => if_neg fun h => Nat.not_le.2 hv h.1
  · rw [if_neg hv]
    have hle : e.version ≤ currentVersion := Nat.not_lt.1 hv
    cases hm : e.message with
    | status | commandResult =>
      cases hid : e.requestId with
      | none => exact .skipped fun _ => if_neg fun h => Option.some_ne_none _ (h.2.symm.trans hid)
      | some id => exact .answers fun id' => by simp [Envelope.answer?, hle, hid, hm]
    | log | runFinished => exact .dispatched fun _ => by simp [Envelope.answer?, hm]
    | hello | statusRequest | command => exact .skipped fun _ => by simp [Envelope.answer?, hm]

/-! ### Which requests stay -/

theorem get?_resolve (s : Switchboard W) (id id' : String) (m : Message) :
    (s.resolve (some id) m).1.pending.get? id' =
      if id = id' then none else s.pending.get? id' := by
  rw [resolve]
  split
  · exact Table.get?_erase ..
  · next hn =>
    split
    · next heq => rw [← heq, hn]
    · rfl

/-- A frame that answers a request takes it off the switchboard, and no other frame does. -/
theorem get?_route (s : Switchboard W) (e : Envelope) (id : String) :
    (s.route e).1.pending.get? id =
      if (e.answer? id).isSome then none else s.pending.get? id := by
  have hr := routed_route s e
  generalize s.route e = out at hr ⊢
  cases hr with
  | @answers id' m ha =>
    rw [get?_resolve, ha]
    by_cases hid : id' = id <;> simp [hid]
  | dispatched hn | skipped hn =>
    rw [hn]
    rfl

theorem get?_routeAll (s : Switchboard W) (es : List Envelope) (id : String) :
    (s.routeAll es).1.pending.get? id =
      if es.filterMap (·.answer? id) = [] then s.pending.get? id else none := by
  induction es generalizing s with
  | nil => rfl
  | cons e rest ih =>
    rw [routeAll, ih, get?_route, List.filterMap_cons]
    cases e.answer? id <;> simp

theorem connected_route (s : Switchboard W) (e : Envelope) :
    (s.route e).1.connected = s.connected := by
  have hr := routed_route s e
  generalize s.route e = out at hr ⊢
  cases hr with
  | answers =>
    rw [resolve]
    split <;> rfl
  | _ => rfl

theorem connected_routeAll (s : Switchboard W) (es : List Envelope) :
    (s.routeAll es).1.connected = s.connected := by
  induction es generalizing s with
  | nil => rfl
  | cons e rest ih => rw [routeAll, ih, connected_route]

theorem Keyed.route (h : s.Keyed name) (e : Envelope) : (s.route e).1.Keyed name := by
  intro id w hw
  rw [get?_route] at hw
  split at hw
  · cases hw
  · exact h id w hw

theorem Keyed.routeAll (h : s.Keyed name) (es : List Envelope) :
    (s.routeAll es).1.Keyed name := by
  induction es generalizing s with
  | nil => exact h
  | cons e rest ih => exact ih (h.route e)

/-! ### Who is told what -/

variable [DecidableEq W] {w : W}

theorem told_dispatch (s : Switchboard W) (e : LogEvent) (w : W) :
    (s.dispatch e).2.filterMap (Delivery.told w) = [] := by
  rw [dispatch, List.filterMap_map]
  exact List.filterMap_eq_nil_iff.2 fun _ _ => rfl

theorem Keyed.told_resolve (h : s.Keyed name) (id : String) (m : Message) (w : W) :
    (s.resolve (some id) m).2.filterMap (Delivery.told w) =
      if s.pending.get? (name w) = some w ∧ id = name w then [some m] else [] := by
  rw [resolve]
  cases hv : s.pending.get? id with
  | none =>
    rw [if_neg]
    · rfl
    · rintro ⟨hw, rfl⟩
      simp [hw] at hv
  | some v =>
    obtain rfl := h id v hv
    by_cases hvw : v = w
    · subst hvw
      simp [Delivery.told, hv]
    · rw [if_neg]
      · simp [Delivery.told, hvw]
      · rintro ⟨hw, heq⟩
        rw [heq, hw] at hv
        exact hvw (Option.some.inj hv).symm

/-- **A frame tells those who wait for it, and nobody else.** -/
theorem Keyed.told_route (h : s.Keyed name) (e : Envelope) (w : W) :
    (s.route e).2.filterMap (Delivery.told w) =
      if s.pending.get? (name w) = some w then ((e.answer? (name w)).map some).toList else [] := by
  have hr := routed_route s e
  generalize s.route e = out at hr ⊢
  cases hr with
  | @answers id m ha =>
    rw [h.told_resolve, ha]
    by_cases hw : s.pending.get? (name w) = some w <;> by_cases hid : id = name w <;> simp [hw, hid]
  | dispatched hn =>
    rw [told_dispatch, hn]
    simp
  | skipped hn =>
    rw [hn]
    simp

/-- **Whoever waits has the first frame that answers**, and no later one. -/
theorem Keyed.told_routeAll (h : s.Keyed name) (es : List Envelope) (w : W) :
    (s.routeAll es).2.filterMap (Delivery.told w) =
      if s.pending.get? (name w) = some w then
        ((es.filterMap (·.answer? (name w))).head?.map some).toList else [] := by
  induction es generalizing s with
  | nil => simp [Switchboard.routeAll]
  | cons e rest ih =>
    rw [Switchboard.routeAll, List.filterMap_append, h.told_route, ih (h.route e), get?_route,
      List.filterMap_cons]
    cases e.answer? (name w) <;> simp

/-- **Those who still wait are told that no answer will come.** -/
theorem Keyed.told_failPending (h : s.Keyed name) (w : W) :
    ((s.failPending).2.filterMap (Delivery.told w)).getLast? =
      if s.pending.get? (name w) = some w then some none else none := by
  -- all of them are told the same, so it is enough to see who is told anything
  have hsame : ∀ x ∈ (s.failPending).2.filterMap (Delivery.told w), x = none := by
    intro x hx
    obtain ⟨d, hd, htold⟩ := List.mem_filterMap.1 hx
    obtain ⟨y, -, rfl⟩ := List.mem_map.1 hd
    rw [Delivery.told] at htold
    split at htold
    · exact (Option.some.inj htold).symm
    · cases htold
  split
  · next hw =>
    have hmem : (none : Option Message) ∈ (s.failPending).2.filterMap (Delivery.told w) := by
      refine List.mem_filterMap.2 ⟨.hungUp w, List.mem_map.2 ⟨(name w, w), ?_, rfl⟩, if_pos rfl⟩
      exact Table.mem_entries_iff.2 hw
    rw [List.getLast?_eq_some_getLast (List.ne_nil_of_mem hmem),
      hsame _ (List.getLast_mem _)]
  · next hw =>
    rw [List.getLast?_eq_none_iff]
    refine List.filterMap_eq_nil_iff.2 fun d hd => ?_
    obtain ⟨⟨id, v⟩, hv, rfl⟩ := List.mem_map.1 hd
    refine if_neg ?_
    rintro rfl
    have hget := Table.mem_entries_iff.1 hv
    exact hw (h id v hget ▸ hget)

end Switchboard

end Overseer.Engine
