import Overseer.Proofs.Console.Chronicles

/-!
# What is told of the log

From the moment when the accounts are loaded the console is told of every log entry.  It takes them
one after the other, those that are left when it has seen the last view included.  An entry that it
takes is printed or does not pass the filter, and entries that it missed are counted (`Told`) until
it has seen that view.

* `Follower.Owes` : what a follower has yet to take is what was sent last, with a gap in front of it
  if it is behind.
* `Session.Acted.tally` : as long as the console takes from the log, what came is what was told and
  what the follower is owed.
* `Session.Acted.stops` : it takes all of the log, unless it is behind.
-/

namespace Overseer.Monitor

open Overseer.Batch

/-! ### Followers -/

/-- Of the entries `es`, in order, a follower was told nothing yet: the last ones wait, and those
before them are the ones that it missed. -/
structure Follower.Owes (f : Follower) (es : List LogEntry) : Prop where
  gap : ∃ gap, es = gap ++ f.waiting ∧ gap.length = f.missed
  bound : f.waiting.length ≤ broadcastCapacity
  /-- It misses nothing while there is room. -/
  full : f.missed ≠ 0 → f.waiting.length = broadcastCapacity

/-- What is heard stands for these entries. -/
def Heard.Covers (es : List LogEntry) : Heard → Prop
  | .entry e => es = [e]
  | .missed n => es ≠ [] ∧ es.length = n

namespace Follower

variable {f f' : Follower} {es : List LogEntry} {e : LogEntry} {x : Heard}

theorem owes_fresh : fresh.Owes [] := ⟨⟨[], rfl, rfl⟩, Nat.zero_le _, fun h => absurd rfl h⟩

theorem Owes.send (h : f.Owes es) (e : LogEntry) : (f.send e).Owes (es ++ [e]) := by
  obtain ⟨⟨gap, rfl, hgap⟩, hbound, hfull⟩ := h
  unfold Follower.send
  split
  · next hroom =>
    have hnone : f.missed = 0 := by
      by_contra hne
      exact Nat.ne_of_lt hroom (hfull hne)
    refine ⟨⟨gap, List.append_assoc .., hgap⟩, ?_, fun hne => absurd hnone hne⟩
    rw [List.length_append]
    exact hroom
  · next hroom =>
    -- the oldest one that waits joins the gap
    obtain ⟨old, rest, hw⟩ : ∃ old rest, f.waiting = old :: rest := by
      refine List.exists_cons_of_length_pos (Nat.lt_of_lt_of_le ?_ (Nat.le_of_not_lt hroom))
      decide
    rw [hw] at hbound hroom ⊢
    have hlen : rest.length + 1 = broadcastCapacity := by
      rw [List.length_cons] at hbound hroom
      omega
    refine ⟨⟨gap ++ [old], by simp, by simp [hgap]⟩, ?_, fun _ => ?_⟩ <;>
      simp [hlen]

/-- A follower that is owed more than the broadcast keeps has missed some. -/
theorem Owes.missed_ne_zero (h : f.Owes es) (hlen : broadcastCapacity < es.length) :
    f.missed ≠ 0 := by
  obtain ⟨⟨gap, rfl, hgap⟩, hbound, -⟩ := h
  rw [List.length_append] at hlen
  omega

theorem Owes.foldl_send (h : f.Owes es) (new : List LogEntry) :
    (new.foldl Follower.send f).Owes (es ++ new) := by
  induction new generalizing f es with
  | nil => rwa [List.append_nil]
  | cons e rest ih =>
    rw [← List.singleton_append, ← List.append_assoc]
    exact ih (h.send e)

theorem Owes.take (h : f.Owes es) (ht : f.take? = some (x, f')) :
    ∃ first rest, es = first ++ rest ∧ x.Covers first ∧ f'.Owes rest := by
  obtain ⟨⟨gap, rfl, hgap⟩, hbound, hfull⟩ := h
  unfold take? at ht
  split at ht
  · next hmissed =>
    obtain ⟨rfl, rfl⟩ := Prod.ext_iff.1 (Option.some.inj ht)
    refine ⟨gap, f.waiting, rfl, ⟨?_, hgap⟩, ⟨[], rfl, rfl⟩, hbound, fun h => absurd rfl h⟩
    rintro rfl
    exact hmissed hgap.symm
  · next hmissed =>
    split at ht
    · cases ht
    · next e rest hw =>
      obtain ⟨rfl, rfl⟩ := Prod.ext_iff.1 (Option.some.inj ht)
      have hnone : f.missed = 0 := not_not.1 hmissed
      obtain rfl : gap = [] := List.length_eq_zero_iff.1 (hgap.trans hnone)
      rw [hw] at hbound ⊢
      exact ⟨[e], rest, rfl, rfl, ⟨[], rfl, hnone.symm⟩, Nat.le_of_succ_le hbound,
        fun h => absurd hnone h⟩

/-- A follower that is not behind and takes no entry has none to take. -/
theorem waiting_eq_nil (ht : ∀ e f', f.take? ≠ some (.entry e, f')) (hm : f.missed = 0) :
    f.waiting = [] := by
  cases hw : f.waiting with
  | nil => rfl
  | cons e rest => exact absurd (by simp [take?, hm, hw]) (ht e { f with waiting := rest })

end Follower

end Overseer.Monitor

namespace Overseer.Console

open Overseer.Batch Overseer.Monitor Overseer.Time

/-! ### Lines -/

/-- The lines tell of the entries, in order: each one is printed, or does not pass the filter, or is
counted with others that were missed. -/
inductive Told (filter : LogFilter) : List LogEntry → List Line → Prop where
  | nil : Told filter [] []
  | printed {e es ls} (ha : filter.allows e = true) (h : Told filter es ls) :
      Told filter (e :: es) (.log e :: ls)
  | rejected {e es ls} (ha : filter.allows e = false) (h : Told filter es ls) :
      Told filter (e :: es) ls
  | skipped {gap es ls} (hg : gap ≠ []) (h : Told filter es ls) :
      Told filter (gap ++ es) (.text (missedText gap.length) :: ls)

variable {filter : LogFilter} {es es' : List LogEntry} {ls ls' : List Line}

theorem Told.append (h : Told filter es ls) (h' : Told filter es' ls') :
    Told filter (es ++ es') (ls ++ ls') := by
  induction h with
  | nil => exact h'
  | printed ha _ ih => exact .printed ha ih
  | rejected ha _ ih => exact .rejected ha ih
  | skipped hg _ ih =>
    rw [List.append_assoc]
    exact .skipped hg ih

theorem told_tell (f : Follow) {x : Heard} (h : x.Covers es) : Told f.filter es (f.tell x) := by
  cases x with
  | entry e =>
    obtain rfl : es = [e] := h
    rw [Follow.tell, Follow.entryLines]
    cases ha : f.filter.allows e with
    | true => exact .printed ha .nil
    | false => exact .rejected ha .nil
  | missed n =>
    obtain ⟨hg, rfl⟩ := h
    have htold := @Told.skipped f.filter _ _ _ hg .nil
    rwa [List.append_nil] at htold

theorem Follow.entryLines_logs (f : Follow) (e : LogEntry) :
    (((f.entryLines e).map Output.line).filterMap Output.log?).map Line.log = f.entryLines e := by
  rw [entryLines]
  cases f.filter.allows e <;> rfl

/-! ### Episodes -/

/-- The line that is printed. -/
def Output.line? : Output → Option Line
  | .line l => some l
  | .sight _ => none

namespace Episode

/-- What an episode tells of the log. -/
def tells (p : Episode) : List Line :=
  match p.act with
  | .move .hear => p.shown.filterMap Output.line?
  | _ => (p.shown.filterMap Output.log?).map .log

/-- The log entry that the monitor takes in and passes on. -/
def ingested? (p : Episode) : Option LogEntry := p.event?.bind p.before.station.keeper.entry?

variable {p : Episode}

theorem tells_eq (ha : p.act ≠ .move .hear) :
    p.tells = (p.shown.filterMap Output.log?).map .log := by
  unfold tells
  split
  · next h => exact absurd h ha
  · rfl

theorem tells_of_silent (ha : p.act ≠ .move .hear) (h : p.shown.filterMap Output.log? = []) :
    p.tells = [] := by
  rw [tells_eq ha, h]
  rfl

theorem ingested?_eq_none (ha : ∀ b, p.act ≠ .move (.monitor b)) : p.ingested? = none := by
  rw [ingested?, event?_eq_none ha]
  rfl

end Episode

/-- The log entries that the monitor takes in, in order. -/
def ingested (ps : List Episode) : List LogEntry := ps.filterMap Episode.ingested?

/-- All that is told of the log, in order. -/
def tells (ps : List Episode) : List Line := ps.flatMap Episode.tells

theorem ingested_concat (ps : List Episode) (p : Episode) :
    ingested (ps ++ [p]) = ingested ps ++ p.ingested?.toList := by
  rw [ingested, List.filterMap_append]
  cases h : p.ingested? <;> simp [ingested, h]

theorem tells_concat (ps : List Episode) (p : Episode) :
    tells (ps ++ [p]) = tells ps ++ p.tells := by simp [tells]

/-! ### While the console takes from the log -/

/-- The console is told of the log and has not taken all of it. -/
def Stage.listens : Stage → Bool
  | .starting | .following | .draining => true
  | _ => false

/-- The console takes no more from the log. -/
def Stage.over : Stage → Bool
  | .parting | .asking | .closing | .ended _ => true
  | _ => false

/-- Of the entries `es`, the lines `ls` tell of the first ones, and the follower has the others yet
to take. -/
def Tally (filter : LogFilter) (es : List LogEntry) (ls : List Line) (f : Follower) : Prop :=
  ∃ told owed, es = told ++ owed ∧ Told filter told ls ∧ f.Owes owed

theorem Tally.foldl_send {f : Follower} (h : Tally filter es ls f) (new : List LogEntry) :
    Tally filter (es ++ new) ls (new.foldl Follower.send f) := by
  obtain ⟨told, owed, rfl, htold, howed⟩ := h
  rw [List.append_assoc]
  exact ⟨told, _, rfl, htold, howed.foldl_send new⟩

/-- What the console takes from the log, it tells. -/
theorem Tally.tell {f : Follow} {x : Heard} {log : Follower} (h : Tally f.filter es ls f.log)
    (ht : f.log.take? = some (x, log)) : Tally f.filter es (ls ++ f.tell x) log := by
  obtain ⟨told, owed, rfl, htold, howed⟩ := h
  obtain ⟨first, rest, rfl, hx, hrest⟩ := howed.take ht
  rw [← List.append_assoc]
  exact ⟨_, rest, rfl, htold.append (told_tell f hx), hrest⟩

namespace Session.Acted

variable {s s' : Session} {a : Act} {out : List Output}

/-- **One act keeps the tally**, or is the last one for the console. -/
theorem tally (h : s.Acted a s' out) (hk : s.station.keeper.Sound) (hs : s.stage.listens = true)
    (hr : s.Runs filter) (hacc : Tally filter es ls s.follow.log) :
    s'.stage.listens = true ∧
        Tally filter (es ++ (Episode.mk s a s' out).ingested?.toList)
          (ls ++ (Episode.mk s a s' out).tells) s'.follow.log ∨
      s'.stage.over = true := by
  have hquiet : (∀ b, a ≠ .move (.monitor b)) → (Episode.mk s a s' out).ingested? = none :=
    Episode.ingested?_eq_none (p := ⟨s, a, s', out⟩)
  have hsilent : a ≠ .move .hear → out.filterMap Output.log? = [] →
      (Episode.mk s a s' out).tells = [] := Episode.tells_of_silent (p := ⟨s, a, s', out⟩)
  have hfilter : s.follow.filter = filter := by
    unfold Runs at hr
    split at hr <;> simp_all [Stage.listens]
  cases h with
  | aside ha h =>
    left
    rw [h.stage, hquiet ha.2, hsilent ha.1 h.silent, h.log, List.append_nil]
    simpa using ⟨hs, hacc⟩
  | @fired b st ns _ _ hf h =>
    left
    rw [h.stage, hsilent nofun h.silent, h.log, List.append_nil]
    -- the follower is told of what the monitor takes in, and of nothing else
    have hentries : ns.filterMap Notice.entry? =
        (Episode.mk s (.move (.monitor b)) s' out).ingested?.toList :=
      (Station.fires_of_fire hf).log_entries hk
    rw [hentries]
    exact ⟨hs, hacc.foldl_send _⟩
  | setOut hs' => simp [hs', Stage.listens] at hs
  | loaded hs' => simp [hs', Stage.listens] at hs
  | started =>
    left
    rw [hquiet nofun, hsilent nofun rfl, List.append_nil]
    simpa using ⟨rfl, hacc⟩
  | @heard x log hs' ht =>
    left
    have htells : (Episode.mk s (.move .hear)
        { s with follow := { s.follow with log := log } }
        ((s.follow.tell x).map .line)).tells = s.follow.tell x := by
      rw [Episode.tells, List.filterMap_map]
      exact List.filterMap_some
    subst hfilter
    rw [hquiet nofun, htells, Option.toList_none, List.append_nil]
    exact ⟨hs, hacc.tell ht⟩
  | lastSeen _ _ hsaid =>
    left
    rw [hquiet nofun, hsilent nofun hsaid, List.append_nil]
    simpa using ⟨rfl, hacc⟩
  | @drained e log hs' ht =>
    left
    have htells : (Episode.mk s (.move .drain)
        { s with follow := { s.follow with log := log } }
        ((s.follow.entryLines e).map .line)).tells = s.follow.entryLines e :=
      (Episode.tells_eq (by simp)).trans (s.follow.entryLines_logs e)
    subst hfilter
    rw [hquiet nofun, htells, Option.toList_none, List.append_nil]
    exact ⟨hs, hacc.tell ht⟩
  | dried => exact .inr rfl
  | parted hs' | concluded hs' => simp [hs', Stage.listens] at hs
  | ended _ hs' => exact .inr (by rw [hs']; rfl)

theorem tells_nil (h : s.Acted a s' out) (hs : s.stage.over = true) :
    s'.stage.over = true ∧ (Episode.mk s a s' out).tells = [] := by
  have hsilent : a ≠ .move .hear → out.filterMap Output.log? = [] →
      (Episode.mk s a s' out).tells = [] := Episode.tells_of_silent (p := ⟨s, a, s', out⟩)
  cases h with
  | aside ha h => exact ⟨by rwa [h.stage], hsilent ha.1 h.silent⟩
  | fired _ h => exact ⟨by rwa [h.stage], hsilent nofun h.silent⟩
  | parted _ _ hout => exact ⟨rfl, hsilent nofun hout⟩
  | concluded _ h => exact ⟨by rw [h.stage]; rfl, hsilent nofun h.silent⟩
  | ended _ hs' _ hout => exact ⟨by rw [hs']; rfl, hsilent nofun hout⟩
  | setOut hs' | loaded hs' | started hs' | heard hs' | lastSeen hs' | drained hs' | dried hs' =>
    simp [hs', Stage.over] at hs

theorem log_fresh (h : s.Acted a s' out) (hs : s.stage = .loading) (hs' : s'.stage = .starting) :
    s'.follow.log = .fresh := by
  cases h with
  | loaded _ _ h => exact h.log
  | aside _ h | fired _ h => exact absurd (h.stage.symm.trans hs') (by simp [hs])
  | ended _ he => exact absurd (he.symm.trans hs') nofun
  | setOut hs₁ | started hs₁ | heard hs₁ | lastSeen hs₁ | drained hs₁ | dried hs₁ | parted hs₁
  | concluded hs₁ => exact absurd (hs.symm.trans hs₁) nofun

/-- When the console takes no more from the log, it has taken everything, or it is behind. -/
theorem stops (h : s.Acted a s' out) (hs : s.stage = .draining) (hs' : s'.stage = .parting) :
    (Episode.mk s a s' out).ingested? = none ∧ (Episode.mk s a s' out).tells = [] ∧
      (s.follow.log.missed = 0 → s.follow.log.waiting = []) := by
  cases h with
  | dried _ _ ht => exact ⟨rfl, rfl, Follower.waiting_eq_nil ht⟩
  | aside _ h | fired _ h => exact absurd (h.stage.symm.trans hs') (by simp [hs])
  | ended _ he => exact absurd (he.symm.trans hs') nofun
  | drained => exact absurd (hs.symm.trans hs') nofun
  | setOut hs₁ | loaded hs₁ | started hs₁ | heard hs₁ | lastSeen hs₁ | parted hs₁ | concluded hs₁ =>
    exact absurd (hs.symm.trans hs₁) nofun

end Session.Acted

end Overseer.Console
