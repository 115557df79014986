import Overseer.Proofs.Monitor.Operations
import Overseer.Proofs.Monitor.Reloads

/-!
# Where a detail comes from

A detail is what came out of a success, and nobody but the account that earned it may be shown with
it.  Behind every progress stand outcomes that were merged for its account since the last run began
(`Board.standsAs_after`): a reload may have dropped the account and the outcomes before that with
it, but none is taken over from another account or another run.

* `Board.detail_earned` : **a detail is that of the last finished outcome**, a success of the
  account itself in the run.
-/

namespace Overseer.Monitor

open Overseer.Batch Overseer.Time

/-- Status and detail of a progress are those that outcomes come to.  Its message may be another
one, such as that of a start that was refused. -/
def StandsAs (p : Progress) (os : List Outcome) : Prop :=
  p.status = (standing os).status ∧ p.detail = (standing os).detail

/-- **An outcome that is merged** stands behind the progress from then on. -/
theorem StandsAs.mergeOptional {p : Progress} {os : List Outcome} (h : StandsAs p os)
    (o : Option Outcome) : StandsAs (Roster.mergeOptional p o) (os ++ o.toList) := by
  cases o with
  | none => rwa [Option.toList_none, List.append_nil, Roster.mergeOptional]
  | some o =>
    rw [Option.toList_some, StandsAs, standing_append, Roster.mergeOptional, merge_fst, merge_fst]
    -- whether the outcome is behind depends on the status alone
    have hb : behind p o = behind (standing os) o := by rw [behind, behind, h.1]
    rw [hb]
    split
    · exact h
    · exact ⟨rfl, rfl⟩

/-- Only a success has a detail, and it is that of the last finished outcome. -/
theorem StandsAs.detail_eq_some {p : Progress} {os : List Outcome} (h : StandsAs p os) {d : String}
    (hd : p.detail = some d) :
    p.status = .success ∧
      ∃ o, (os.filter (·.finished)).getLast? = some o ∧ o.success = true ∧ o.detail = some d := by
  obtain ⟨hstatus, hdetail⟩ := h
  rw [hd, standing] at hdetail
  rw [hstatus, standing]
  split at hdetail
  · next _ _ o ho =>
    cases hs : o.success with
    | true => exact ⟨by simp, o, ho, hs, by simpa [hs] using hdetail.symm⟩
    | false => simp [hs] at hdetail
  · cases hdetail
  · cases hdetail

namespace Board

/-- The outcome that an operation merges into the progress of an account: that of an answer to a
question of the current run, if the account is listed. -/
def merged? (b : Board) (id : String) : BoardOp → Option Outcome
  | .poll e s => if e = b.epoch ∧ b.roster.contains id = true then s.outcomes.get? id else none
  | _ => none

/-- Whether an operation begins a run. -/
def begins (b : Board) : BoardOp → Bool
  | .start => b.beginRun.toOption.isSome
  | _ => false

/-- The outcomes merged for an account since the last run began, in order. -/
def merges (b : Board) (id : String) (ops : List BoardOp) : List Outcome :=
  track (fun b os op => if b.begins op then [] else os ++ (b.merged? id op).toList) [] b ops

theorem merges_append (b : Board) (id : String) (ops : List BoardOp) (op : BoardOp) :
    b.merges id (ops ++ [op]) =
      if (b.after ops).begins op then []
      else b.merges id ops ++ ((b.after ops).merged? id op).toList := track_append ..

variable {b b' : Board} {op : BoardOp}

theorem begins_of_within (h : b.within op = some b') : b.begins op = false := by
  cases op with
  | start =>
    simp only [within] at h
    split at h
    · cases h
    · next hr => rw [begins, hr]; rfl
  | _ => rfl

theorem merged?_eq (b : Board) {id : String} (hc : b.roster.contains id = true) (op : BoardOp) :
    b.merged? id op = (op.answer? b.epoch).bind (·.outcomes.get? id) := by
  cases op with
  | poll e s => by_cases he : e = b.epoch <;> simp [merged?, BoardOp.answer?, he, hc]
  | _ => rfl

/-- **Behind every progress stand outcomes** that were merged for its account since the last run
began: all of them, or those since the account was listed again. -/
theorem standsAs_after (set : Settings) (ops : List BoardOp) {id : String} {p : Progress}
    (hp : ((initial set).after ops).roster.state? id = some p) :
    ∃ os, os <:+ (initial set).merges id ops ∧ StandsAs p os := by
  induction ops using List.reverseRecOn generalizing p with
  | nil => cases hp
  | append_singleton ops op ih =>
    have hg := gated_after (gated_initial set) ops
    rw [after_append] at hp
    rw [merges_append]
    generalize (initial set).after ops = b at *
    generalize (initial set).merges id ops = merged at *
    have hdid := did_next hg op
    generalize b.next op = b' at *
    cases hdid with
    | within hw =>
      rw [begins_of_within hw, if_neg Bool.false_ne_true]
      rw [(hg.within hw).2.2] at hp
      cases hs : op.answer? b.epoch with
      | none =>
        rw [hs, Option.elim_none] at hp
        obtain ⟨os, hos, hstands⟩ := ih hp
        rw [merged?_eq b (Roster.contains_iff.2 ⟨p, hp⟩), hs, Option.bind_none, Option.toList_none,
          List.append_nil]
        exact ⟨os, hos, hstands⟩
      | some s =>
        rw [hs, Option.elim_some, Roster.state?_reconcile] at hp
        obtain ⟨was, hwas, rfl⟩ := Option.map_eq_some_iff.1 hp
        obtain ⟨os, ⟨front, rfl⟩, hstands⟩ := ih hwas
        rw [merged?_eq b (Roster.contains_iff.2 ⟨was, hwas⟩), hs, Option.bind_some,
          List.append_assoc]
        exact ⟨_, List.suffix_append .., hstands.mergeOptional _⟩
    | began hl hs =>
      -- every account is pending again, and nothing is merged yet
      have hp : (b.roster.resetAll .pending).state? id = some p := hp
      rw [Roster.state?_resetAll] at hp
      obtain ⟨_, -, rfl⟩ := Option.map_eq_some_iff.1 hp
      exact ⟨[], List.nil_suffix, rfl, rfl⟩
    | loaded hl =>
      rw [onRoster_roster, Roster.state?_replace] at hp
      split at hp
      · cases hwas : b.roster.state? id with
        | some was =>
          rw [hwas, Option.getD_some] at hp
          obtain ⟨os, hos, hstands⟩ := ih (hwas.trans hp)
          exact ⟨os, by simpa [begins, merged?] using hos, hstands⟩
        | none =>
          -- an account that is new, or comes back, has nothing behind it
          rw [hwas, Option.getD_none] at hp
          obtain rfl := Option.some.inj hp
          exact ⟨[], List.nil_suffix, rfl, rfl⟩
      · cases hp
    | tookBack hl =>
      have hp : (b.roster.setMessages (refusalMessage _)).state? id = some p := hp
      rw [Roster.state?_setMessages] at hp
      obtain ⟨was, hwas, rfl⟩ := Option.map_eq_some_iff.1 hp
      obtain ⟨os, hos, hstands⟩ := ih hwas
      exact ⟨os, by simpa [begins, merged?] using hos, hstands⟩

/-- Of the outcomes merged for an account since the last run began, the last finished one is a
success with this detail. -/
def Earned (set : Settings) (ops : List BoardOp) (id d : String) : Prop :=
  ∃ o, (((initial set).merges id ops).filter (·.finished)).getLast? = some o ∧
    o.success = true ∧ o.detail = some d

/-- **A detail is that of the last finished outcome** of the account itself in the run, and that is
a success.  What a view shows is what the roster holds. -/
theorem detail_earned (set : Settings) (ops : List BoardOp) {d : String} :
    (∀ {id p}, ((initial set).after ops).roster.state? id = some p → p.detail = some d →
      p.status = .success ∧ Earned set ops id d) ∧
    ∀ r ∈ ((initial set).after ops).view.rows, r.detail = some d →
      r.status = .success ∧ Earned set ops r.id d := by
  have hearned : ∀ {id p}, ((initial set).after ops).roster.state? id = some p →
      p.detail = some d → p.status = .success ∧ Earned set ops id d := by
    intro id p hp hd
    obtain ⟨os, ⟨front, hfront⟩, hstands⟩ := standsAs_after set ops hp
    obtain ⟨hstatus, o, hlast, hsuccess, hdetail⟩ := hstands.detail_eq_some hd
    refine ⟨hstatus, o, ?_, hsuccess, hdetail⟩
    rw [← hfront, List.filter_append, List.getLast?_append, hlast, Option.some_or]
  refine ⟨hearned, fun r hr hd => ?_⟩
  obtain ⟨⟨a, p⟩, hrow, rfl⟩ := List.mem_map.1 hr
  obtain ⟨a', -, hstate⟩ := List.mem_filterMap.1 hrow
  obtain ⟨p', hp, heq⟩ := Option.map_eq_some_iff.1 hstate
  obtain ⟨rfl, rfl⟩ := Prod.mk.inj heq
  exact hearned hp hd

/-- An account succeeds before any run, in a run that was refused its start and in a run of which
the answer comes late; it is dropped and comes back; and then it succeeds in the run, but is said to
be worked on again, with a detail, while another account fails with one. -/
def detailsOnTheWay : List BoardOp :=
  let answer (a b : Outcome) : Snapshot := ⟨true, (Table.empty.insert "a" a).insert "b" b⟩
  let won (d : String) : Outcome := ⟨true, true, "done", some d⟩
  [.load [⟨"a", "A"⟩], .poll 0 (answer (won "early") (won "stranger")), .start,
    .poll 1 (answer (won "refused") (won "stranger")), .rollback 1 "no", .load [],
    .load [⟨"a", "A"⟩, ⟨"b", "B"⟩], .start, .acknowledge 2,
    .poll 1 (answer (won "late") (won "late")),
    .poll 2 (answer (won "x") ⟨true, false, "lost", some "y"⟩),
    .poll 2 (answer ⟨false, false, "again", some "z"⟩ ⟨false, false, "again", none⟩)]

/-- The detail that is shown in the end is the one that the account earned in this run. -/
theorem detail_earned_on_the_way :
    let b := (initial .default).after detailsOnTheWay
    b.view.rows.map (fun r => (r.id, r.status, r.detail)) =
        [("a", .success, some "x"), ("b", .failed, none)] ∧
      b.roster.state? "a" = some ⟨.success, "done", some "x"⟩ ∧
      Earned .default detailsOnTheWay "a" "x" := by
  have hstate : ((initial .default).after detailsOnTheWay).roster.state? "a" =
      some ⟨.success, "done", some "x"⟩ := by decide +kernel
  exact ⟨by decide +kernel, hstate, ((detail_earned .default detailsOnTheWay).1 hstate rfl).2⟩

end Board

end Overseer.Monitor
