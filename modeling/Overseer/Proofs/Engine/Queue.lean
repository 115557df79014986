import Overseer.Proofs.Engine.Requests

/-!
# The queue of requests

The frame of a request gets into the queue at once if there is room for it, and waits in a line in
front of it otherwise.  The time of the request runs from the moment when its frame is in the queue.

* `Occurrence.line` : all that an event can do about the line.
* `Trace.lined` : the frames get into the queue in the order in which the requests were made, and
  what is outstanding got into the queue or is in the line.
-/

namespace Overseer.Engine

open Overseer.Time

variable {set : Settings} {origin : Moment} {ids : IdSource} {os : List Occurrence}
  {c : Client} {o : Occurrence} {n : Nat}

/-- When the frame of request `n` got into the queue. -/
def queuedAt? (n : Nat) (os : List Occurrence) : Option Nat :=
  os.findSome? fun o => if o.queues? = some n then some o.before.now else none

/-- The requests whose frames got into the queue, in order. -/
def queued (os : List Occurrence) : List Nat := os.filterMap (·.queues?)

theorem queuedAt?_append (n : Nat) (os : List Occurrence) (o : Occurrence) :
    queuedAt? n (os ++ [o]) =
      (queuedAt? n os).or (if o.queues? = some n then some o.before.now else none) := by
  unfold queuedAt?
  rw [List.findSome?_append]
  congr 1
  simp

theorem queued_append (os : List Occurrence) (o : Occurrence) :
    queued (os ++ [o]) = queued os ++ o.queues?.toList := by
  unfold queued
  rw [List.filterMap_append]
  cases h : o.queues? <;> simp [h]

theorem queuedAt?_eq_none_iff {os : List Occurrence} : queuedAt? n os = none ↔ n ∉ queued os := by
  unfold queuedAt? queued
  rw [List.findSome?_eq_none_iff, List.mem_filterMap]
  constructor
  · rintro h ⟨o, ho, hn⟩
    simpa [hn] using h o ho
  · intro h o ho
    exact if_neg fun hn => h ⟨o, ho, hn⟩

/-- What gets into the queue is taken from the front of the line, and a new request joins it at the
end. The line is given up when nobody needs it. -/
theorem Occurrence.line (hs : o.before.Stepped o.event o.after o.notices) :
    o.queues?.toList ++ o.after.behind.map (·.1) = o.before.behind.map (·.1) ++
        List.range' (o.before.issued + 1) (o.after.issued - o.before.issued) ∨
      o.queues? = none ∧ o.after.behind = [] ∧ o.after.issued = o.before.issued ∧
        ∀ n, o.after.outstanding? n = none := by
  obtain ⟨c, e, c', ns⟩ := o
  change c.Stepped e c' ns at hs
  have same : ∀ {q : Option Nat} {d : Client}, q = none → d.behind = c.behind →
      d.issued = c.issued → q.toList ++ d.behind.map (·.1) =
        c.behind.map (·.1) ++ List.range' (c.issued + 1) (d.issued - c.issued) := by
    rintro q d rfl hb hi
    rw [hb, hi, Nat.sub_self]
    simp
  cases hs with
  | @asked w q hh hc =>
    left
    dsimp only
    rw [Client.submit_issued, show (c.joined w q).issued - c.issued = 1 from
      Nat.add_sub_cancel_left ..]
    by_cases hroom : c.behind = [] ∧ c.queue.length < queueCapacity
    · simp [queues?, hc, hroom, Client.submit, Client.joined, Client.enqueue]
    · simp [queues?, hroom, Client.submit, Client.joined, Client.frameOf]
  | denied hh hc => exact .inl (same (by simp [queues?, hc]) rfl rfl)
  | movedUp hb hq => exact .inl (by simp [queues?, hb, Client.enqueue])
  | retired ha => exact .inr ⟨rfl, rfl, rfl, fun _ => c.outstanding?_of_unattended ha⟩
  | _ => exact .inl (same rfl rfl rfl)

/-- The requests get into the queue in order. -/
structure Lined (os : List Occurrence) (c : Client) : Prop where
  order : (queued os ++ c.behind.map (·.1)).Sublist (List.range' 1 c.issued)
  /-- What is outstanding got into the queue or is in the line in front of it. -/
  waits : ∀ n, c.outstanding? n ≠ none → n ∈ queued os ++ c.behind.map (·.1)

/-- **Every event leaves the line in order.** -/
theorem Lined.next (h : Lined os o.before) (hs : o.before.Stepped o.event o.after o.notices) :
    Lined (os ++ [o]) o.after := by
  rcases Occurrence.line hs with hline | ⟨hq, hb, hi, ho⟩
  · have hall : queued (os ++ [o]) ++ o.after.behind.map (·.1) =
        queued os ++ o.before.behind.map (·.1) ++
          List.range' (o.before.issued + 1) (o.after.issued - o.before.issued) := by
      rw [queued_append, List.append_assoc, hline, List.append_assoc]
    constructor
    · have hrange : List.range' 1 o.after.issued = List.range' 1 o.before.issued ++
          List.range' (o.before.issued + 1) (o.after.issued - o.before.issued) := by
        rw [Nat.add_comm, List.range'_append_1, Nat.add_sub_cancel' hs.issued_le]
      rw [hall, hrange]
      exact h.order.append (.refl _)
    · intro n hn
      rw [hall]
      by_cases hold : o.before.outstanding? n = none
      · -- it is the new request
        by_cases hnew : o.after.issued = o.before.issued + 1 ∧ n = o.before.issued + 1
        · simp [hnew]
        · exact absurd (hs.outstanding?_eq_none hold (by omega)) hn
      · exact List.mem_append_left _ (h.waits n hold)
  · have hsame : queued (os ++ [o]) = queued os := by
      rw [queued_append, hq]
      exact List.append_nil _
    refine ⟨?_, fun n hn => absurd (ho n) hn⟩
    rw [hsame, hb, hi, List.map_nil, List.append_nil]
    exact (List.sublist_append_left ..).trans h.order

namespace Trace

theorem lined (h : Trace set origin ids os c) : Lined os c := by
  induction h with
  | start => exact ⟨List.nil_sublist _, fun _ hn => absurd rfl hn⟩
  | @next os c e c' ns h hs ih =>
    exact ih.next (o := ⟨c, e, c', ns⟩) (Client.stepped_of_step h.sound.1.fresh hs)

/-- The frame of a request gets into the queue only once. -/
theorem queuedAt?_of_queues (h : Trace set origin ids (os ++ [o]) o.after)
    (hq : o.queues? = some n) : queuedAt? n os = none := by
  have hnodup := h.lined.order.nodup List.nodup_range'
  rw [queued_append, hq] at hnodup
  rw [queuedAt?_eq_none_iff]
  intro hn
  -- the number would be there twice
  exact (List.nodup_append.1 (List.nodup_append.1 hnodup).1).2.2 n hn n (by simp) rfl

end Trace

end Overseer.Engine
