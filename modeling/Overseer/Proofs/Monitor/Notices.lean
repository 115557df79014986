import Overseer.Proofs.Monitor.Moves

/-!
# What a station says

The log entries and the replies among the notices of a station.  Only an event that is handled can
bring a log entry or a view (`Station.Fires`): a call that returns, and a monitor that ends, tell
their callers at most that nothing will come any more.
-/

namespace Overseer.Monitor

open Overseer.Batch

/-- The log entry that is passed on. -/
def Effect.entry? : Effect → Option LogEntry
  | .entry e => some e
  | _ => none

/-- The log entry that is passed on. -/
def Notice.entry? : Notice → Option LogEntry
  | .logged e => some e
  | _ => none

/-- The log entry that an event becomes. -/
def Keeper.entry? (k : Keeper) : Event → Option LogEntry
  | .log x at_ => some (k.board.journal.entryOf x at_)
  | _ => none

/-- **Every log event that is handled is passed on once**, and nothing else is. -/
theorem Keeper.Step.entries {k k' : Keeper} {now : Nat} {e : Event} {l : List Effect}
    (hs : k.Step now e k' l) : l.filterMap Effect.entry? = (k.entry? e).toList := by
  have htell : ∀ r, (k.tell r).filterMap Effect.entry? = [] := by
    intro r
    rw [tell, List.filterMap_map]
    exact List.filterMap_eq_nil_iff.2 fun _ _ => rfl
  cases hs with
  | takenOver | refused | closed | expired | expiredIdle =>
    simp [Effect.entry?, entry?, List.filterMap_cons, htell]
  | _ => rfl

/-- No log entry and no view is among the notices. -/
structure Quiet (ns : List Notice) : Prop where
  entries : ns.filterMap Notice.entry? = []
  views : ∀ c v, Notice.replied c (.view v) ∉ ns

namespace Station

variable (s : Station) (l : List Effect)

theorem applyAll_entries :
    (s.applyAll l).2.filterMap Notice.entry? = l.filterMap Effect.entry? := by
  induction l generalizing s with
  | nil => rfl
  | cons x rest ih =>
    rw [applyAll, List.filterMap_cons, List.filterMap_cons, ih]
    cases x <;> rfl

theorem quiet_hangUp (cs : List Nat) : Quiet (s.hangUp cs).2 where
  entries := by
    rw [hangUp, applyAll_entries, List.filterMap_map]
    exact List.filterMap_eq_nil_iff.2 fun _ _ => rfl
  views c v hm := by
    have hreply : (c, Reply.view v) ∈ (s.hangUp cs).2.filterMap Notice.reply? :=
      List.mem_filterMap.2 ⟨_, hm, rfl⟩
    rw [hangUp_replies] at hreply
    simp at hreply

theorem quiet_finish : Quiet s.finish.2 where
  entries := by
    rw [finish, List.filterMap_append, (quiet_hangUp _ _).entries]
    rfl
  views c v hm := (List.mem_append.1 hm).elim ((quiet_hangUp _ _).views c v) (by simp)

/-- A call that returns puts no request into the queue, and nobody is told of an entry or a view. -/
theorem giveBack_quiet (r : Return) :
    (s.giveBack r).1.keeper = s.keeper ∧ (s.giveBack r).1.requests = s.requests ∧
      Quiet (s.giveBack r).2 := by
  unfold giveBack
  split
  · exact ⟨rfl, rfl, rfl, fun _ _ h => nomatch h⟩
  · exact ⟨hangUp_keeper .., by rw [hangUp, applyAll_requests], quiet_hangUp ..⟩

/-- All that comes of a branch. -/
inductive Fires (s : Station) (b : Branch) (s' : Station) (ns : List Notice) : Prop where
  | handled {e l} (he : s.event? b = some e) (hk : s.keeper.handle s.now e = (s'.keeper, l))
      (hr : s'.requests ⊆ s.requests)
      (entries : ns.filterMap Notice.entry? = l.filterMap Effect.entry?)
      (replies : ns.filterMap Notice.reply? = l.filterMap Effect.reply?)
  /-- The monitor ends. -/
  | finished (he : s.event? b = none) (hk : s'.keeper = s.keeper) (hr : s'.requests ⊆ s.requests)
      (hq : Quiet ns)

variable {s} {b : Branch} {s' : Station} {ns : List Notice}

theorem fires_of_fire (hf : s.fire b = some (s', ns)) : s.Fires b s' ns := by
  cases moved_of_move (m := .fire b) hf with
  | handled he =>
    refine .handled he (Prod.ext ?_ rfl) ?_ ?_ ?_
    · rw [handle_keeper, taken_keeper, taken_now]
    · rw [handle_requests]
      cases b with
      | request => exact (List.tail_sublist _).subset
      | _ => exact List.Subset.refl _
    · rw [handle, applyAll_entries, taken_keeper, taken_now]
    · rw [handle_replies, taken_keeper, taken_now]
  | finished _ he => exact .finished he (by simp) (by simp [finish, hangUp]) (quiet_finish _)

theorem Fires.log_entries (h : s.Fires b s' ns) (hk : s.keeper.Sound) :
    ns.filterMap Notice.entry? = ((s.event? b).bind s.keeper.entry?).toList := by
  cases h with
  | @handled e l he hkeep _ hns =>
    have hstep := Keeper.step_handle hk.gated s.now e
    rw [hkeep] at hstep
    rw [hns, hstep.entries, he]
    rfl
  | finished he _ _ hq =>
    rw [hq.entries, he]
    rfl

end Station

end Overseer.Monitor
