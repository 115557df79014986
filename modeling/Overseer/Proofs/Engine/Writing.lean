import Overseer.Proofs.Engine.Correlation

/-!
# Frames that are written, and one that cannot be

The next frame of the queue is written if it is within the limit and the connection takes it.  A
frame over the limit is never offered to the connection, and still does what a broken connection
does: it ends for everybody.

* `Trace.writes` : a frame within the limit that is taken leaves everything else as it was.
* `Trace.severs` : a frame over the limit ends the connection, for the requests that wait as well
  as for those behind it in the queue.
-/

namespace Overseer.Engine

open Overseer.Batch Overseer.Monitor Overseer.Time Overseer.Wire

/-- What a frame over the limit does, which is the first one in the queue. -/
structure Occurrence.Severs (os : List Occurrence) (o : Occurrence) (conn : Nat) (feed : Feed) :
    Prop where
  /-- It is as if the connection had ended by itself. -/
  lost : o.before.step .lose = some (o.after, o.notices)
  /-- Nothing is written. -/
  silent : ∀ k e, .wrote k e ∉ o.notices
  /-- The connection is down, and tried again after a pause. -/
  down : o.after.link = .down (o.before.now + Backoff.first)
    (Backoff.next Backoff.first o.before.limit) (some conn)
  /-- The frames that waited in the queue are gone, and those behind it are not. -/
  emptied : o.after.queue = [] ∧ o.after.behind = o.before.behind
  /-- No request waits for an answer any more. -/
  nobody : o.after.board.pending.entries = []
  /-- Every request that was not ruled upon is dropped, unless what came last answers it. -/
  ruled : ∀ n w q, (n, w, q) ∈ asks os → ruling? n os = none →
    ruling? n (os ++ [o]) = some ((((frames (feed.finish Envelope.read).2).filterMap
      (·.answer? (o.before.ids.id n))).head?.map .answered).getD .dropped)
  /-- Whoever asks now is turned away. -/
  denied : ∀ w q, o.after.held = true → o.after.step (.ask w q) =
    some (o.after, [.answered w (.error (notConnected o.before.settings.socket))])

namespace Client

variable {c : Client} {conn : Nat} {feed : Feed} {frame : Nat × Envelope}
  {rest : List (Nat × Envelope)}

theorem writable_iff (c : Client) (e : Envelope) :
    c.writable e = true ↔ e.toValue.write.length ≤ c.settings.frameLimit := by
  unfold writable encodeFrame
  by_cases h : c.settings.frameLimit < e.toValue.write.length
  · simp [h]
  · simp only [if_neg h, true_iff]
    exact Nat.not_lt.1 h

/-- **A frame over the limit ends the connection**, whether or not it would be taken. -/
theorem write_eq_lose (hl : c.link = .up conn feed) (hq : c.queue = frame :: rest)
    (hw : c.writable frame.2 = false) (taken : Bool) : c.write taken = c.lose := by
  have hlose : ({ c with queue := rest } : Client).lose = c.lose := by
    rw [lose_eq hl, lose_eq (c := { c with queue := rest }) hl]
    rfl
  unfold write
  split
  · next hl' hq' =>
    obtain ⟨rfl, rfl⟩ := Link.up.inj (hl'.symm.trans hl)
    obtain ⟨rfl, rfl⟩ := List.cons.inj (hq'.symm.trans hq)
    refine (if_neg fun hb => ?_).trans hlose
    exact Bool.false_ne_true (hw.symm.trans (Bool.and_eq_true_iff.1 hb).2)
  · next hno => exact absurd hq (hno _ _ _ _ hl)

theorem wrote_not_mem_logs (c : Client) (es : List Envelope) (k : Nat) (e : Envelope) :
    .wrote k e ∉ c.logs es := by
  unfold logs
  intro hmem
  obtain ⟨d, -, hd⟩ := List.mem_filterMap.1 hmem
  cases d <;> cases hd

end Client

namespace Trace

variable {set : Settings} {origin : Moment} {ids : IdSource} {os : List Occurrence}
  {c : Client} {conn : Nat} {feed : Feed} {frame : Nat × Envelope} {rest : List (Nat × Envelope)}

/-- **A frame within the limit is written**, and nothing else changes. -/
theorem writes (h : Trace set origin ids os c) (hl : c.link = .up conn feed)
    (hq : c.queue = frame :: rest) (hw : frame.2.toValue.write.length ≤ set.frameLimit) :
    c.step (.write true) = some ({ c with queue := rest }, [.wrote conn frame.2]) :=
  (Client.Stepped.wrote hl hq ((c.writable_iff _).2 (h.sound.2 ▸ hw))).step_eq h.sound.1.fresh

theorem severs_of_lose {o : Occurrence} (h : Trace set origin ids os o.before)
    (hl : o.before.link = .up conn feed) {taken : Bool} (he : o.event = .write taken)
    (hlost : o.before.step .lose = some (o.after, o.notices)) : o.Severs os conn feed := by
  obtain ⟨ha, hns⟩ := Prod.mk.inj (Option.some.inj (hlost.symm.trans (Client.lose_eq hl)))
  exact {
    lost := hlost
    silent := by
      rw [hns]
      intro k e hmem
      rcases List.mem_append.1 hmem with hmem | hmem
      · exact o.before.wrote_not_mem_logs _ k e hmem
      · simp at hmem
    down := by rw [ha, Client.cut]
    emptied := by simp [ha, Client.cut, Client.heard, Client.hearing]
    nobody := by simp [ha, Client.cut, Table.empty]
    ruled := by
      intro n w q hasked hr
      have hn : n ≤ o.before.issued := (h.mem_asks_iff.1 ⟨w, q, hasked⟩).2
      have hrulings := Occurrence.rulings_of_cut hn hl ha (by simp [he])
        (by simp [Occurrence.late?, he])
      rw [ruling?_append_of_unruled _ hr, hrulings, List.head?_append, List.head?_map]
      cases List.head? _ <;> rfl
    denied := by
      intro w q hh
      rw [ha] at hh ⊢
      exact (Client.Stepped.denied hh rfl).step_eq rfl }

/-- **A frame over the limit ends the connection for everybody.** -/
theorem severs (h : Trace set origin ids os c) (hl : c.link = .up conn feed)
    (hq : c.queue = frame :: rest) (hw : set.frameLimit < frame.2.toValue.write.length)
    (taken : Bool) :
    ∃ c' ns, c.step (.write taken) = some (c', ns) ∧
      Occurrence.Severs os ⟨c, .write taken, c', ns⟩ conn feed := by
  have hno : c.writable frame.2 = false := by
    rw [← Bool.not_eq_true, c.writable_iff, h.sound.2]
    exact Nat.not_le.2 hw
  have hlost := Client.lose_eq hl
  exact ⟨_, _, (Client.write_eq_lose hl hq hno taken).trans hlost,
    severs_of_lose (o := ⟨c, .write taken, _, _⟩) h hl rfl hlost⟩

/-- The settings of a client whose frames are short. -/
def shortFrames : Settings := { settings with frameLimit := 200 }

/-- Parameters that do not fit into a short frame. -/
def longParams : Params :=
  { Params.empty with inviteCode := some (String.ofList (List.replicate 100 'x')) }

/-- A request that is written, one that cannot be, and one behind it in the queue. -/
def longStart : List Event := [
  .dial (.accepted 1), .ask 7 (.status 1), .write true, .ask 8 (.start longParams), .ask 9 .stop]

/-- How it stands with them before the long frame is to be written, and afterwards. -/
theorem play_longStart :
    ∃ os c c' ns, play shortFrames ⟨0, 0⟩ .counted longStart = some (os, c) ∧
      c.board.connected = true ∧ c.board.pending.entries.map (·.2) = [1, 2, 3] ∧
      c.queue.map (fun f => (f.1, decide (shortFrames.frameLimit < f.2.toValue.write.length))) =
        [(2, true), (3, false)] ∧
      c.step (.write true) = some (c', ns) ∧ c'.board.connected = false ∧ c'.queue.length = 0 ∧
      c'.outstanding.map (fun x => (x.number, x.outcome?.map wording)) =
        [(1, some "transport: engine connection closed before reply"),
          (2, some "transport: engine connection closed before reply"),
          (3, some "transport: engine connection closed before reply")] := by
  have hpast : (play shortFrames ⟨0, 0⟩ .counted longStart).map (fun out =>
      (out.2.board.connected, out.2.board.pending.entries.map (·.2), out.2.queue.map fun f =>
        (f.1, decide (shortFrames.frameLimit < f.2.toValue.write.length)))) =
    some (true, [1, 2, 3], [(2, true), (3, false)]) := by decide +kernel
  have hthen : (play shortFrames ⟨0, 0⟩ .counted longStart).bind (fun out =>
      (out.2.step (.write true)).map fun after =>
        (after.1.board.connected, after.1.queue.length,
          after.1.outstanding.map fun x => (x.number, x.outcome?.map wording))) =
    some (false, 0, [(1, some "transport: engine connection closed before reply"),
      (2, some "transport: engine connection closed before reply"),
      (3, some "transport: engine connection closed before reply")]) := by decide +kernel
  obtain ⟨⟨os, c⟩, hplay, hnow⟩ := Option.map_eq_some_iff.1 hpast
  obtain ⟨hup, hnow⟩ := Prod.mk.inj hnow
  obtain ⟨hwait, hqueue⟩ := Prod.mk.inj hnow
  rw [hplay, Option.bind_some] at hthen
  obtain ⟨⟨c', ns⟩, hstep, hafter⟩ := Option.map_eq_some_iff.1 hthen
  obtain ⟨hdown, hafter⟩ := Prod.mk.inj hafter
  obtain ⟨hempty, htold⟩ := Prod.mk.inj hafter
  exact ⟨os, c, c', ns, hplay, hup, hwait, hqueue, hstep, hdown, hempty, htold⟩

/-- The connection ends though it would take any frame, and with it two requests that fit. -/
theorem severs_of_long_start :
    ∃ os c conn feed c' ns, Trace shortFrames ⟨0, 0⟩ .counted os c ∧
      c.board.pending.entries.map (·.2) = [1, 2, 3] ∧
      c.queue.map (fun f => (f.1, decide (shortFrames.frameLimit < f.2.toValue.write.length))) =
        [(2, true), (3, false)] ∧
      c.link = .up conn feed ∧ c.step (.write true) = some (c', ns) ∧
      Occurrence.Severs os ⟨c, .write true, c', ns⟩ conn feed := by
  obtain ⟨os, c, -, -, hplay, hup, hwait, hqueue, -⟩ := play_longStart
  have htrace := of_play hplay
  obtain ⟨conn, feed, hl⟩ := htrace.sound.1.linked.1 hup
  obtain ⟨frame, rest, hq, hframe, -⟩ := List.map_eq_cons_iff.1 hqueue
  have hlong := of_decide_eq_true (Prod.mk.inj hframe).2
  obtain ⟨c', ns, hstep, hsevers⟩ := htrace.severs hl hq hlong true
  exact ⟨os, c, conn, feed, c', ns, htrace, hwait, hqueue, hl, hstep, hsevers⟩

/-- A frame over the limit is not a matter of its own request: the one that was written before it
and the one whose frame comes next are told that the connection has closed. -/
theorem long_frame_fails_others :
    ∃ os c c' ns, Trace shortFrames ⟨0, 0⟩ .counted os c ∧
      c.queue.map (fun f => (f.1, decide (shortFrames.frameLimit < f.2.toValue.write.length))) =
        [(2, true), (3, false)] ∧
      c.board.pending.entries.map (·.2) = [1, 2, 3] ∧
      c.step (.write true) = some (c', ns) ∧ c'.board.connected = false ∧ c'.queue.length = 0 ∧
      c'.outstanding.map (fun x => (x.number, x.outcome?.map wording)) =
        [(1, some "transport: engine connection closed before reply"),
          (2, some "transport: engine connection closed before reply"),
          (3, some "transport: engine connection closed before reply")] := by
  obtain ⟨os, c, c', ns, hplay, -, hwait, hqueue, hstep, hdown, hempty, htold⟩ := play_longStart
  exact ⟨os, c, c', ns, of_play hplay, hqueue, hwait, hstep, hdown, hempty, htold⟩

end Trace

end Overseer.Engine
