import Overseer.Proofs.Monitor.Calls
import Overseer.Proofs.Monitor.Reloads

/-!
# Loads of accounts

A load is checked against the run twice, when it is asked for and when the accounts come, since a
run may begin in between.

* `Keeper.Step.accounts` : only accounts that come while nothing runs change the list of accounts.
* `Course.accounts_frozen` : **the list of accounts is frozen during a run**, for any number of
  loads on their way; whoever asked for a load is told once what came of it.
-/

namespace Overseer.Monitor

open Overseer.Batch Overseer.Time

/-- What becomes of loads, and of the list of accounts. -/
structure AccountsFrozen (ps : List Passage) : Prop where
  /-- The list changes only by accounts that come while nothing runs, before and after. -/
  changed : ∀ p ∈ ps,
    p.after.keeper.board.roster.accounts ≠ p.before.keeper.board.roster.accounts →
      p.before.keeper.board.lifecycle = .idle ∧ p.after.keeper.board.lifecycle = .idle ∧
        ∃ w l, p.event? = some (.returned (.loaded w (.ok l)))
  /-- A load that is asked for during a run is denied. -/
  denied : ∀ p ∈ ps, ∀ w, p.event? = some (.request w .load) →
    p.before.keeper.board.lifecycle ≠ .idle → p.Idles ∧ p.Settles ps w (.error .alreadyRunning)
  /-- Otherwise the source is asked. -/
  asked : ∀ p ∈ ps, ∀ w, p.event? = some (.request w .load) →
    p.before.keeper.board.lifecycle = .idle →
      p.after.keeper = p.before.keeper ∧ p.calls = [.load w] ∧ p.replies = []
  /-- Accounts that come during a run are not taken. -/
  late : ∀ p ∈ ps, ∀ w l, p.event? = some (.returned (.loaded w (.ok l))) →
    p.before.keeper.board.lifecycle ≠ .idle → p.Idles ∧ p.Settles ps w (.error .alreadyRunning)
  /-- The source has failed. -/
  failed : ∀ p ∈ ps, ∀ w e, p.event? = some (.returned (.loaded w (.error e))) →
    p.Idles ∧ p.Settles ps w (.error (.sourceUnavailable e.message))
  /-- Accounts that come while nothing runs are taken, and the caller has the list as it is then.
  Whoever is still listed stands as before. -/
  taken : ∀ p ∈ ps, ∀ w l, p.event? = some (.returned (.loaded w (.ok l))) →
    p.before.keeper.board.lifecycle = .idle →
      p.after.keeper.board.roster = (p.before.keeper.board.roster.replace l).1 ∧ p.calls = [] ∧
        p.Settles ps w (.accounts p.after.keeper.board.roster.accounts) ∧
        ∀ id q, p.after.keeper.board.roster.contains id = true →
          p.before.keeper.board.roster.state? id = some q →
            p.after.keeper.board.roster.state? id = some q

namespace Keeper

variable {k k' : Keeper} {now : Nat} {e : Event} {l : List Effect}

/-- **Only accounts that come while nothing runs change the list of accounts.** -/
theorem Step.accounts (hs : k.Step now e k' l) :
    k'.board.roster.accounts = k.board.roster.accounts ∨
      k.board.lifecycle = .idle ∧ k'.board.lifecycle = .idle ∧
        ∃ w l, e = .returned (.loaded w (.ok l)) := by
  cases hs with
  | loaded hl => exact .inr ⟨hl, hl, _, _, rfl⟩
  | polled | polledSame => exact .inl (Roster.accounts_reconcile ..)
  | pollFailed | pollLate => exact .inl (congrArg (·.roster.accounts) (answeredPoll_board k _ _))
  | _ => exact .inl rfl

end Keeper

theorem Roster.state?_replace_of_contains {r : Roster} {l : List Account} {id : String}
    {q : Progress} (hc : (r.replace l).1.contains id = true) (hq : r.state? id = some q) :
    (r.replace l).1.state? id = some q := by
  rw [contains_eq_isSome, state?_replace] at hc
  rw [state?_replace, hq]
  split at hc
  · next hid => rw [if_pos hid, Option.getD_some]
  · cases hc

namespace Course

variable {set : Settings} {origin : Moment} {ps : List Passage} {s : Station} {p : Passage}

/-- **The list of accounts is frozen during a run.**  It changes only by accounts that come while
nothing runs, however many loads are on their way and in whichever order the source answers them. -/
theorem accounts_frozen (h : Course set origin ps s) : AccountsFrozen ps where
  changed p hp hne := by
    cases he : p.event? with
    | none =>
      exact absurd (congrArg (·.board.roster.accounts) (h.idles_of_mem hp he).1) hne
    | some e =>
      obtain ⟨l, hs, -⟩ := h.step_of_mem hp he
      obtain ⟨hl, hl', w, l, rfl⟩ := hs.accounts.resolve_left hne
      exact ⟨hl, hl', w, l, rfl⟩
  denied p hp w he hl := by
    have hw := h.ne_zero_of_request hp he (by simp)
    obtain ⟨l, hs, hr, hc⟩ := h.step_of_mem hp he
    generalize hk : p.after.keeper = k at hs
    cases hs with
    | load hidle => exact absurd hidle hl
    | loadDenied => exact ⟨⟨hk, hc⟩, h.settles hp hw hr⟩
  asked p hp w he hl := by
    obtain ⟨l, hs, hr, hc⟩ := h.step_of_mem hp he
    generalize p.after.keeper = k at hs ⊢
    cases hs with
    | load => exact ⟨rfl, hc, hr⟩
    | loadDenied hbusy => exact absurd hl hbusy
  late p hp w l he hl := by
    have hw := h.ne_zero_of_return hp he rfl
    obtain ⟨_, hs, hr, hc⟩ := h.step_of_mem hp he
    generalize hk : p.after.keeper = k at hs
    cases hs with
    | loadLate => exact ⟨⟨hk, hc⟩, h.settles hp hw hr⟩
    | loaded hidle => exact absurd hidle hl
  failed p hp w e he := by
    have hw := h.ne_zero_of_return hp he rfl
    obtain ⟨_, hs, hr, hc⟩ := h.step_of_mem hp he
    generalize hk : p.after.keeper = k at hs
    cases hs with
    | loadFailed => exact ⟨⟨hk, hc⟩, h.settles hp hw hr⟩
  taken p hp w l he hl := by
    have hw := h.ne_zero_of_return hp he rfl
    obtain ⟨_, hs, hr, hc⟩ := h.step_of_mem hp he
    generalize p.after.keeper = k at hs ⊢
    cases hs with
    | loadLate hbusy => exact absurd hl hbusy
    | loaded => exact ⟨rfl, hc, h.settles hp hw hr, fun _ _ => Roster.state?_replace_of_contains⟩

/-- Three loads on their way: one comes before a run, one during the run, and one after it. -/
def crossingLoads : List Move := [
  .ask 1 .load, .fire .request, .ask 2 .load, .fire .request, .ask 3 .load, .fire .request,
  .giveBack .load 2 (.loaded 2 (.ok [⟨"a", "A"⟩, ⟨"b", "B"⟩])), .fire .returned,
  .ask 4 (.start .empty), .fire .request,
  .giveBack .load 1 (.loaded 1 (.ok [⟨"c", "C"⟩])), .fire .returned,
  .giveBack .start 1 (.started 4 1 (.error (.transport "gone"))), .fire .returned,
  .giveBack .load 3 (.loaded 3 (.ok [⟨"d", "D"⟩, ⟨"b", "B2"⟩])), .fire .returned]

/-- The second is denied, and the third is taken: an account that it still lists stands as the run
has left it. -/
theorem accounts_frozen_of_crossing_loads :
    ∃ ps s p q, Course .default ⟨0, 0⟩ ps s ∧ p ∈ ps ∧
      p.before.keeper.board.lifecycle = .running ∧ p.Idles ∧
      p.Settles ps 1 (.error .alreadyRunning) ∧ q ∈ ps ∧
      q.Settles ps 3 (.accounts [⟨"d", "D"⟩, ⟨"b", "B2"⟩]) ∧
      q.after.keeper.board.roster.state? "b" =
        some ⟨.pending, "start failed: transport: gone", none⟩ := by
  obtain ⟨ps, s, hplay, ⟨p, hp, hlate, hrun⟩, ⟨q, hq, htaken, hidle, hlist, hc, hstate⟩⟩ :
      ∃ ps s, play .default ⟨0, 0⟩ crossingLoads = some (ps, s) ∧
        (∃ p, ps[11]? = some p ∧
          p.event? = some (.returned (.loaded 1 (.ok [⟨"c", "C"⟩]))) ∧
          p.before.keeper.board.lifecycle = .running) ∧
        ∃ q, ps[15]? = some q ∧
          q.event? = some (.returned (.loaded 3 (.ok [⟨"d", "D"⟩, ⟨"b", "B2"⟩]))) ∧
          q.before.keeper.board.lifecycle = .idle ∧
          q.after.keeper.board.roster.accounts = [⟨"d", "D"⟩, ⟨"b", "B2"⟩] ∧
          q.after.keeper.board.roster.contains "b" = true ∧
          q.before.keeper.board.roster.state? "b" =
            some ⟨.pending, "start failed: transport: gone", none⟩ :=
    ⟨_, _, rfl, ⟨_, rfl, rfl, rfl⟩, ⟨_, rfl, rfl, rfl, rfl, rfl, rfl⟩⟩
  have hcourse := of_play hplay
  obtain ⟨hidles, hdenied⟩ :=
    hcourse.accounts_frozen.late p (List.mem_of_getElem? hp) 1 _ hlate (by simp [hrun])
  obtain ⟨-, -, hsettled, hkept⟩ :=
    hcourse.accounts_frozen.taken q (List.mem_of_getElem? hq) 3 _ htaken hidle
  rw [hlist] at hsettled
  exact ⟨ps, s, p, q, hcourse, List.mem_of_getElem? hp, hrun, hidles, hdenied,
    List.mem_of_getElem? hq, hsettled, hkept _ _ hc hstate⟩

end Course

end Overseer.Monitor
