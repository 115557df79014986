import Overseer.Proofs.Console.Bursts

/-!
# Whether the console tells of every log line

While a run is under way the console takes from the log what comes next, the news of missed lines
included.  What is left when it has seen the last view is taken entry by entry up to the first gap.

* `Chronicle.log_told_unless_behind` : every entry is told of, unless the console is behind when it
  takes what is left: then nothing is told of the gap and of what is behind it.
* `Chronicle.log_lost_when_behind` : this happens.
-/

namespace Overseer.Console

open Overseer.Batch Overseer.Monitor Overseer.Time

variable {filter : LogFilter}

theorem Told.eq_nil {es : List LogEntry} (h : Told [] es []) : es = [] := by
  cases h with
  | nil => rfl
  | rejected ha => cases ha

namespace Chronicle

variable {s t u : Session} {ps qs : List Episode}

/-- **Every run keeps the tally** as long as the console takes from the log. -/
theorem tally (h : Chronicle s ps t) (hk : s.station.keeper.Sound)
    (hs : s.stage.listens = true) (hr : s.Runs filter)
    (hacc : Tally filter [] [] s.follow.log) :
    t.stage.listens = true ∧ Tally filter (ingested ps) (tells ps) t.follow.log ∨
      t.stage.over = true := by
  induction h with
  | start => exact .inl ⟨hs, hacc⟩
  | @next ps t a u out h ha ih =>
    have hacted := Session.acted_of_act (h.runs hr) ha
    rw [ingested_concat, tells_concat]
    rcases ih with ⟨hlisten, hacc⟩ | hover
    · exact hacted.tally (h.sound hr hk) hlisten (h.runs hr) hacc
    · exact .inr (hacted.tells_nil hover).1

theorem tells_nil (h : Chronicle s ps t) (hr : s.Runs filter) (hs : s.stage.over = true) :
    t.stage.over = true ∧ tells ps = [] := by
  induction h with
  | start => exact ⟨hs, rfl⟩
  | @next ps t a u out h ha ih =>
    obtain ⟨hover, hnone⟩ := (Session.acted_of_act (h.runs hr) ha).tells_nil ih.1
    exact ⟨hover, by rw [tells_concat, ih.2, hnone]; rfl⟩

variable {c : Config} {wallets : Host.FileContent} {origin : Moment} {listening : Bool}
  {ids : Engine.IdSource}
  {before between after : List Episode} {p q : Episode}

theorem tally_since
    (h : Chronicle (Session.begin c wallets (.run filter) origin listening ids).1
      (before ++ p :: between) t)
    (hp : p.before.stage = .loading) (hp' : p.after.stage = .starting) :
    t.stage.listens = true ∧ Tally filter (ingested between) (tells between) t.follow.log ∨
      t.stage.over = true := by
  obtain ⟨hbefore, hact, hbetween⟩ := h.around
  have hpr := hbefore.runs begin_runs
  have hacted := Session.acted_of_act hpr hact
  refine hbetween.tally ((hbefore.next hact).sound begin_runs begin_sound) (by rw [hp']; rfl)
    (hacted.runs hpr) ⟨[], [], rfl, .nil, ?_⟩
  rw [hacted.log_fresh hp hp']
  exact Follower.owes_fresh

/-- **Every log entry is told of, unless the console is behind when it takes what is left.**  The
console is told of the log from `p` on, when the accounts are loaded.  When it has seen the last
view it takes one entry after the other, while the monitor may go on, and stops in `q`.  Up to there
every entry is told of if the console has missed none at that point; else neither those nor the ones
that wait are told of, then or later. -/
theorem log_told_unless_behind
    (h : Chronicle (Session.begin c wallets (.run filter) origin listening ids).1
      (before ++ p :: (between ++ q :: after)) s)
    (hp : p.before.stage = .loading) (hp' : p.after.stage = .starting)
    (hq : q.before.stage = .draining) (hq' : q.after.stage = .parting) :
    ∃ told lost, ingested between = told ++ lost ∧ Told filter told (tells between) ∧
      q.ingested? = none ∧ q.tells = [] ∧ tells after = [] ∧
      (q.before.follow.log.missed = 0 ∧ lost = [] ∨
        q.before.follow.log.missed ≠ 0 ∧
          lost.length = q.before.follow.log.missed + broadcastCapacity) := by
  have hwhole := h
  rw [← List.cons_append, ← List.append_assoc] at hwhole
  obtain ⟨hupto, hqact, hafter⟩ := hwhole.around
  have hqr := hupto.runs begin_runs
  have hqacted := Session.acted_of_act hqr hqact
  -- as long as the console takes from the log the tally is kept
  have hacc : Tally filter (ingested between) (tells between) q.before.follow.log := by
    rcases hupto.tally_since hp hp' with ⟨-, hacc⟩ | hover
    · exact hacc
    · rw [hq] at hover
      cases hover
  obtain ⟨told, owed, hall, htold, ⟨gap, rfl, hgap⟩, -, hfull⟩ := hacc
  obtain ⟨hingested, htells, hempty⟩ := hqacted.stops hq hq'
  have hnothing := (hafter.tells_nil (hqacted.runs hqr) (by rw [hq']; rfl)).2
  refine ⟨told, _, hall, htold, hingested, htells, hnothing, ?_⟩
  by_cases hmissed : q.before.follow.log.missed = 0
  · obtain rfl : gap = [] := List.length_eq_zero_iff.1 (hgap.trans hmissed)
    exact .inl ⟨hmissed, hempty hmissed⟩
  · refine .inr ⟨hmissed, ?_⟩
    rw [List.length_append, hgap, hfull hmissed]

/-- Of a run with one log line nothing is lost. -/
theorem log_told_unless_behind_of_small_batch :
    ∃ before p between q after s,
      Chronicle smallBatch (before ++ p :: (between ++ q :: after)) s ∧
      p.before.stage = .loading ∧ p.after.stage = .starting ∧
      q.before.stage = .draining ∧ q.after.stage = .parting ∧
      q.before.follow.log.missed = 0 ∧ (ingested between).length = 1 ∧
      ∃ told lost, ingested between = told ++ lost ∧ Told [] told (tells between) ∧
        q.ingested? = none ∧ q.tells = [] ∧ tells after = [] ∧
        (q.before.follow.log.missed = 0 ∧ lost = [] ∨
          q.before.follow.log.missed ≠ 0 ∧
            lost.length = q.before.follow.log.missed + broadcastCapacity) := by
  obtain ⟨before, p, rest, s, hrun, hp, hp', hone, -, hawaits, -⟩ := exists_awaitsStart
  obtain ⟨i, between, q, after, t, hend, -, -, hq, hq', -, hnone, -⟩ := hawaits.ends
  have hwhole : Chronicle smallBatch (before ++ p :: ((rest ++ i :: between) ++ q :: after)) t := by
    simpa using hrun.append hend
  have hlen : (ingested (rest ++ i :: between)).length = 1 := by
    rw [ingested, List.filterMap_append]
    exact (congrArg List.length (congrArg (ingested rest ++ ·) hnone)).trans (by simpa using hone)
  have htold := hwhole.log_told_unless_behind hp hp' hq hq'
  refine ⟨before, p, rest ++ i :: between, q, after, t, hwhole, hp, hp', hq, hq', ?_, hlen, htold⟩
  -- one entry is less than the broadcast keeps
  obtain ⟨told, lost, hall, -, -, -, -, hmissed | ⟨-, hlost⟩⟩ := htold
  · exact hmissed.1
  · have := congrArg List.length hall
    rw [List.length_append, hlen, hlost] at this
    exact absurd this (by unfold broadcastCapacity; omega)

/-- **A console that is behind when it sees the last view loses log lines without a word.**  In this
run there are more of them than the broadcast keeps, all of them before the run is over, the filter
allows every one, and nothing is told of any. -/
theorem log_lost_when_behind :
    ∃ before p burst i between q after s,
      Chronicle smallBatch (before ++ p :: (burst ++ i :: (between ++ q :: after))) s ∧
      p.before.stage = .loading ∧ p.after.stage = .starting ∧
      i.before.station.keeper.board.lifecycle ≠ .idle ∧
      i.after.station.keeper.board.lifecycle = .idle ∧
      q.before.stage = .draining ∧ q.after.stage = .parting ∧ s.stage = .ended .done ∧
      broadcastCapacity < (ingested burst).length ∧
      (∀ e ∈ ingested burst, q.before.follow.filter.allows e = true) ∧
      tells (burst ++ i :: (between ++ q :: after)) = [] := by
  obtain ⟨before, p, rest, s, hrun, hp, hp', -, htells, hawaits, hlogs, hx⟩ := exists_awaitsStart
  -- there is one log line more than the broadcast keeps, and the monitor takes the log first
  obtain ⟨ps₁, hps₁, -, htells₁⟩ := Session.receives hawaits.alive ⟨1, hx⟩ (broadcastCapacity + 1)
  obtain ⟨ps₂, u, hps₂, hawaits₂, hlen₂, htells₂⟩ :=
    (hawaits.withLogs (List.replicate (broadcastCapacity + 1) working)).ingests
      (by rw [Session.withLogs, hlogs, List.nil_append])
  have hburst : Chronicle smallBatch (before ++ p :: (rest ++ (ps₁ ++ ps₂))) u := by
    have hall := hrun.append (hps₁.append hps₂)
    rwa [List.append_assoc, List.cons_append] at hall
  have hsilent : tells (rest ++ (ps₁ ++ ps₂)) = [] := by
    simp only [tells, List.flatMap_append, List.append_eq_nil_iff] at *
    exact ⟨htells, htells₁, htells₂⟩
  have hlen : broadcastCapacity < (ingested (rest ++ (ps₁ ++ ps₂))).length := by
    simp only [ingested, List.filterMap_append, List.length_append] at *
    omega
  -- nothing is told of them so far, so the console is behind
  have hmissed : u.follow.log.missed ≠ 0 := by
    rcases hburst.tally_since hp hp' with ⟨-, told, owed, hall, htold, howed⟩ | hover
    · rw [hsilent] at htold
      obtain rfl := htold.eq_nil
      rw [List.nil_append] at hall
      exact howed.missed_ne_zero (hall ▸ hlen)
    · rw [hawaits₂.stage] at hover
      cases hover
  have hru := hburst.runs begin_runs
  obtain ⟨i, between, q, after, t, hend, hi, hi', hq, hq', ht, -, hnothing⟩ := hawaits₂.ends
  have hfilter : q.before.follow.filter = [] := by
    have hqr := (@Chronicle.around _ _ (i :: between) _ _ hend).1.runs hru
    rwa [Session.Runs, hq] at hqr
  have hwhole := hburst.append hend
  rw [List.append_assoc, List.cons_append] at hwhole
  refine ⟨before, p, rest ++ (ps₁ ++ ps₂), i, between, q, after, t, hwhole, hp, hp', hi, hi', hq,
    hq', ht, hlen, fun _ _ => by rw [hfilter]; rfl, ?_⟩
  exact List.flatMap_append.trans (by rw [← tells, hsilent]; exact hnothing hmissed)

end Chronicle

end Overseer.Console
