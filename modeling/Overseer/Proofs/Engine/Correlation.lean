import Overseer.Proofs.Engine.Queue

/-!
# Requests and their answers

What becomes of the requests of a client, in every trace.  A request has one `Standing`: it waits
under its id, or it is ruled upon and its caller has yet to take the ruling, or it is completed, by
the first ruling that there was.

* `Standing.next` : the standing of a request after one more event.
* `Trace.standing` : every request has a standing after every trace.
* `Trace.correlation` : this, that nobody else waits or is told anything, and that rulings can be
  taken, and time runs out, when they should.
-/

namespace Overseer.Engine

open Overseer.Monitor Overseer.Time Overseer.Wire

/-- How request `n` of a caller stands. -/
inductive Standing (set : Settings) (ids : IdSource) (os : List Occurrence) (c : Client)
    (n w : Nat) (q : Request) : Prop where
  /-- Nothing is ruled, and it waits under its id. -/
  | waiting (hr : ruling? n os = none) (hp : c.board.pending.get? (ids.id n) = some n)
      (ho : c.outstanding? n =
        some ⟨n, w, q, (queuedAt? n os).map (· + set.patience), .empty⟩)
      (hc : completions n os = [])
  /-- It is ruled upon, and its caller will find the ruling. -/
  | ruled {r} (hr : ruling? n os = some r) (hl : r ≠ .late)
      (hp : c.board.pending.get? (ids.id n) = none)
      (ho : c.outstanding? n =
        some ⟨n, w, q, (queuedAt? n os).map (· + set.patience), r.slot⟩)
      (hc : completions n os = [])
  /-- Its caller has been told the ruling. -/
  | completed {r} (hr : ruling? n os = some r)
      (hp : c.board.pending.get? (ids.id n) = none) (ho : c.outstanding? n = none)
      (hc : completions n os = [(w, r.response set q)])

/-- How requests and answers belong together. -/
structure Correlation (set : Settings) (ids : IdSource) (os : List Occurrence) (c : Client) :
    Prop where
  /-- The requests have their numbers in order. -/
  numbers : (asks os).map (·.1) = List.range' 1 c.issued
  standing : ∀ n w q, (n, w, q) ∈ asks os → Standing set ids os c n w q
  /-- Every request is completed once at most. -/
  once : ∀ n, (completions n os).length ≤ 1
  /-- Nobody is told anything else, but that there is no connection, and nothing happens then. -/
  told : ∀ o ∈ os, ∀ w r, .answered w r ∈ o.notices → (∃ n, o.completions n = [(w, r)]) ∨
    o.before.board.connected = false ∧ (∃ q, o.event = .ask w q) ∧
      r = .error (notConnected set.socket) ∧ o.notices = [.answered w r] ∧ o.after = o.before
  /-- Nobody else waits for the engine. -/
  pending : ∀ id n, c.board.pending.get? id = some n →
    id = ids.id n ∧ ruling? n os = none ∧ ∃ w q, (n, w, q) ∈ asks os
  /-- Nobody waits for the engine when there is no connection. -/
  down : c.board.connected = false → c.board.pending.entries = []
  /-- As long as nothing is ruled about it, a request stays in place, whatever frames come. -/
  stays : ∀ o ∈ os, ∀ n, o.before.board.pending.get? (ids.id n) = some n → o.rulings n = [] →
    o.after.board.pending.get? (ids.id n) = some n ∧
      (o.after.outstanding? n).map (·.slot) = (o.before.outstanding? n).map (·.slot)
  /-- A request whose time does not run yet waits for room in the queue. -/
  lined : ∀ n w q, (n, w, q) ∈ asks os → completions n os = [] → queuedAt? n os = none →
    n ∈ c.behind.map (·.1)
  /-- What is ruled can be taken from then on, and the time does not matter any more. -/
  collect : ∀ n w q r t, (n, w, q) ∈ asks os → completions n os = [] → ruling? n os = some r →
    queuedAt? n os = some t →
      c.step (.collect n) = some (c.settled n, [.answered w (r.response set q)]) ∧
        c.step (.expire n) = none
  /-- Before that the time of a request is up as soon as it has waited long enough, and there is
  nothing to take. -/
  expire : ∀ n w q t, (n, w, q) ∈ asks os → ruling? n os = none → queuedAt? n os = some t →
    c.step (.collect n) = none ∧
      ((c.step (.expire n)).isSome = true ↔ t + set.patience ≤ c.now) ∧
        ∀ c' ns, c.step (.expire n) = some (c', ns) →
          ns = [.answered w (Ruling.late.response set q)]
  /-- The time of a request is up only if nothing was ruled about it and it has waited long enough.
  -/
  late : ∀ before o after, os = before ++ o :: after → ∀ n, o.late? = some n →
    ruling? n before = none ∧ ∃ t, queuedAt? n before = some t ∧ t + set.patience ≤ o.before.now

/-! ### The standing of a request -/

variable {set : Settings} {origin : Moment} {ids : IdSource} {os : List Occurrence}
  {c : Client} {o : Occurrence} {n w : Nat} {q : Request}

theorem queuedAt?_append_of_unqueued (h : o.queues? = none) :
    queuedAt? n (os ++ [o]) = queuedAt? n os := by
  rw [queuedAt?_append, h]
  exact Option.or_none

theorem completions_append_of_silent (h : o.completions n = []) :
    completions n (os ++ [o]) = completions n os := by
  rw [completions_append, h, List.append_nil]

/-- The deadline goes by the moment when the frame got into the queue. -/
theorem deadline_next (s : Slot) (hset : o.before.settings = set)
    (hq : o.queues? = some n → queuedAt? n os = none) :
    (if o.queues? = some n then
      { Outstanding.mk n w q ((queuedAt? n os).map (· + set.patience)) s with
        deadline := some (o.before.now + o.before.settings.patience) }
      else Outstanding.mk n w q ((queuedAt? n os).map (· + set.patience)) s) =
        Outstanding.mk n w q ((queuedAt? n (os ++ [o])).map (· + set.patience)) s := by
  rw [queuedAt?_append]
  split
  · next hin => rw [hq hin, hset, Option.none_or, Option.map_some]
  · rw [Option.or_none]

namespace Occurrence.Regards

theorem of_waiting (h : o.Regards n) (hset : o.before.settings = set)
    (hq : o.queues? = some n → queuedAt? n os = none) (hr₀ : ruling? n os = none)
    (hp₀ : o.before.board.pending.get? (o.before.ids.id n) = some n)
    (ho₀ : o.before.outstanding? n =
      some ⟨n, w, q, (queuedAt? n os).map (· + set.patience), .empty⟩)
    (hc₀ : Engine.completions n os = []) : Standing set o.before.ids (os ++ [o]) o.after n w q := by
  have hfirst := ruling?_append_of_unruled o hr₀
  cases h with
  | stays hr hp ho hc =>
    refine .waiting (by rw [hfirst, hr]; rfl) (hp.trans hp₀) ?_
      ((completions_append_of_silent hc).trans hc₀)
    rw [ho, ho₀, Option.map_some, deadline_next _ hset hq]
  | ruled hr hl hp ho hnot hc =>
    refine .ruled (by rw [hfirst, hr]; rfl) hl hp ?_
      ((completions_append_of_silent hc).trans hc₀)
    rw [ho, ho₀, Option.map_some, if_pos hp₀, queuedAt?_append_of_unqueued hnot]
  | collected ho hx =>
    -- there is nothing to take yet
    obtain rfl := Option.some.inj (ho₀.symm.trans ho)
    cases Outstanding.outcome?_of_empty.symm.trans hx
  | expired ho hs hd hle hr hp ho' hnot hc =>
    obtain rfl := Option.some.inj (ho₀.symm.trans ho)
    refine .completed (r := .late) (by rw [hfirst, hr]; rfl) hp ho' ?_
    rw [completions_append, hc₀, hc, hset]
    rfl

theorem of_ruled {r : Ruling} (h : o.Regards n) (hset : o.before.settings = set)
    (hq : o.queues? = some n → queuedAt? n os = none) (hr₀ : ruling? n os = some r)
    (hl₀ : r ≠ .late) (hp₀ : o.before.board.pending.get? (o.before.ids.id n) = none)
    (ho₀ : o.before.outstanding? n =
      some ⟨n, w, q, (queuedAt? n os).map (· + set.patience), r.slot⟩)
    (hc₀ : Engine.completions n os = []) : Standing set o.before.ids (os ++ [o]) o.after n w q := by
  have hstill := ruling?_append_of_ruled o hr₀
  cases h with
  | stays hr hp ho hc =>
    refine .ruled hstill hl₀ (hp.trans hp₀) ?_ ((completions_append_of_silent hc).trans hc₀)
    rw [ho, ho₀, Option.map_some, deadline_next _ hset hq]
  | ruled hr hl hp ho hnot hc =>
    refine .ruled hstill hl₀ hp ?_ ((completions_append_of_silent hc).trans hc₀)
    rw [ho, ho₀, Option.map_some, if_neg (by simp [hp₀]), queuedAt?_append_of_unqueued hnot]
  | @collected x resp ho hx hr hp ho' hnot hc =>
    obtain rfl := Option.some.inj (ho₀.symm.trans ho)
    rw [Outstanding.outcome?_of_slot set hl₀] at hx
    obtain ⟨-, -, rfl⟩ := Option.map_eq_some_iff.1 hx
    refine .completed hstill (hp.trans hp₀) ho' ?_
    rw [completions_append, hc₀, hc]
    rfl
  | expired ho hs =>
    obtain rfl := Option.some.inj (ho₀.symm.trans ho)
    exact absurd hs (Ruling.slot_ne_empty hl₀)

theorem of_completed {r : Ruling} (h : o.Regards n) (hr₀ : ruling? n os = some r)
    (hp₀ : o.before.board.pending.get? (o.before.ids.id n) = none)
    (ho₀ : o.before.outstanding? n = none)
    (hc₀ : Engine.completions n os = [(w, r.response set q)]) :
    Standing set o.before.ids (os ++ [o]) o.after n w q := by
  have hstill := ruling?_append_of_ruled o hr₀
  cases h with
  | stays hr hp ho hc =>
    exact .completed hstill (hp.trans hp₀) (by rw [ho, ho₀, Option.map_none])
      ((completions_append_of_silent hc).trans hc₀)
  | ruled hr hl hp ho hnot hc =>
    exact .completed hstill hp (by rw [ho, ho₀, Option.map_none])
      ((completions_append_of_silent hc).trans hc₀)
  | collected ho | expired ho => cases ho₀.symm.trans ho

end Occurrence.Regards

/-- **The standing of a request after one more event.**  The frame of a request gets into the queue
only once. -/
theorem Standing.next (h : Standing set ids os o.before n w q) (hr : o.Regards n)
    (hset : o.before.settings = set) (hids : o.before.ids = ids)
    (hq : o.queues? = some n → queuedAt? n os = none) :
    Standing set ids (os ++ [o]) o.after n w q := by
  subst hids
  cases h with
  | waiting hr₀ hp₀ ho₀ hc₀ => exact hr.of_waiting hset hq hr₀ hp₀ ho₀ hc₀
  | ruled hr₀ hl₀ hp₀ ho₀ hc₀ => exact hr.of_ruled hset hq hr₀ hl₀ hp₀ ho₀ hc₀
  | completed hr₀ hp₀ ho₀ hc₀ => exact hr.of_completed hr₀ hp₀ ho₀ hc₀

namespace Trace

theorem standing_of_ask (ho : Trace set origin ids os o.before)
    (hc : o.before.board.connected = true) (he : o.event = .ask w q)
    (ha : o.after = (o.before.joined w q).submit (o.before.frameOf q)) :
    Standing set ids (os ++ [o]) o.after (o.before.issued + 1) w q := by
  have hlt := Nat.lt_succ_self o.before.issued
  obtain ⟨hnone, hcomp⟩ := ho.of_unmade (n := o.before.issued + 1) (by omega)
  have hqueued : queuedAt? (o.before.issued + 1) os = none := by
    rw [queuedAt?_eq_none_iff]
    intro hn
    have := ho.lined.order.subset (List.mem_append_left _ hn)
    rw [List.mem_range'_1] at this
    omega
  refine .waiting ?_ ?_ ?_ ?_
  · rw [ruling?_append, ho.ruling?_of_unmade hlt, Occurrence.rulings, if_neg (Nat.not_le.2 hlt)]
    rfl
  · rw [ha, Client.submit_board, ← ho.ids_eq]
    exact (Table.get?_insert ..).trans (if_pos rfl)
  · rw [ha, Client.outstanding?_submit, Client.outstanding?_joined, hnone, queuedAt?_append,
      hqueued]
    simp only [Occurrence.queues?, he, hc]
    by_cases hroom : o.before.behind = [] ∧ o.before.queue.length < queueCapacity
    · simp [Client.joined, Client.frameOf, hroom, ho.sound.2]
    · simp [Client.joined, Client.frameOf, hroom]
  · rw [completions_append, hcomp, Occurrence.completions, he]
    rfl

/-- **Every request has a standing.** -/
theorem standing (h : Trace set origin ids os c) (ha : (n, w, q) ∈ asks os) :
    Standing set ids os c n w q := by
  induction h with
  | start => cases ha
  | @next os c e c' ns h hs ih =>
    have h' : Trace set origin ids (os ++ [⟨c, e, c', ns⟩]) c' := .next h hs
    have hst := Client.stepped_of_step h.sound.1.fresh hs
    rw [asks_append, List.mem_append] at ha
    rcases ha with ha | ha
    · have hn := (h.mem_asks_iff.1 ⟨w, q, ha⟩).2
      exact (ih ha).next (o := ⟨c, e, c', ns⟩) (Occurrence.regards hst h.sound.1 hn) h.sound.2
        h.ids_eq (h'.queuedAt?_of_queues (o := ⟨c, e, c', ns⟩))
    · rcases Occurrence.ask?_eq (o := ⟨c, e, c', ns⟩) hst with ⟨hask, -⟩ | ⟨v, x, hask, he, hc, hx⟩
      · rw [hask] at ha
        cases ha
      · rw [hask] at ha
        obtain ⟨rfl, rfl, rfl⟩ := by simpa using ha
        exact h.standing_of_ask (o := ⟨c, e, c', ns⟩) hc he hx

/-- What waits under its id is ruled upon by nobody yet. -/
theorem waiting_of_pending (h : Trace set origin ids os c) {id : String}
    (hp : c.board.pending.get? id = some n) :
    id = ids.id n ∧ ruling? n os = none ∧ ∃ w q, (n, w, q) ∈ asks os ∧ c.outstanding? n =
      some ⟨n, w, q, (queuedAt? n os).map (· + set.patience), .empty⟩ := by
  obtain rfl : id = ids.id n := h.ids_eq ▸ h.sound.1.keyed id n hp
  obtain ⟨w, q, ha⟩ := h.mem_asks_iff.2 (h.sound.1.made _ n hp)
  cases h.standing ha with
  | waiting hr _ ho => exact ⟨rfl, hr, w, q, ha, ho⟩
  | ruled _ _ hp' | completed _ hp' => cases hp.symm.trans hp'

/-- **Nobody waits for the engine when there is no connection.** -/
theorem entries_eq_nil (h : Trace set origin ids os c) (hd : c.board.connected = false) :
    c.board.pending.entries = [] := by
  induction h with
  | start => rfl
  | @next os c e c' ns h hs ih =>
    cases Client.stepped_of_step h.sound.1.fresh hs with
    | asked hh hc =>
      rw [Client.submit_board] at hd
      cases hc.symm.trans hd
    | @expired n x d =>
      have hnil := ih hd
      change c.board.pending.entries.filter _ = []
      rw [hnil]
      rfl
    | connected => cases hd
    | received hl =>
      have hup := h.sound.1.linked.2 ⟨_, _, hl⟩
      cases hup.symm.trans ((Switchboard.connected_routeAll ..).symm.trans hd)
    | lost | unwritten => rfl
    | retired ha =>
      -- nothing is outstanding any more
      refine List.eq_nil_iff_forall_not_mem.2 fun x hx => ?_
      obtain ⟨-, -, w, q, -, ho⟩ := h.waiting_of_pending (Table.mem_entries_iff.1 hx)
      cases (c.outstanding?_of_unattended ha).symm.trans ho
    | _ => exact ih hd

end Trace

/-! ### What can happen next -/

namespace Client

variable {d : Nat}

theorem step_of_ruled {r : Ruling} (hl : r ≠ .late)
    (ho : c.outstanding? n = some ⟨n, w, q, some d, r.slot⟩) :
    c.step (.collect n) = some (c.settled n, [.answered w (r.response set q)]) ∧
      c.step (.expire n) = none := by
  constructor
  · change c.collect n = _
    unfold collect
    rw [ho]
    cases r with
    | late => exact absurd rfl hl
    | answered | dropped => rfl
  · change c.expire n = _
    unfold expire
    rw [ho]
    cases r with
    | late => exact absurd rfl hl
    | answered | dropped => rfl

theorem step_of_waiting (ho : c.outstanding? n = some ⟨n, w, q, some d, .empty⟩)
    (hset : c.settings = set) :
    c.step (.collect n) = none ∧ ((c.step (.expire n)).isSome = true ↔ d ≤ c.now) ∧
      ∀ c' ns, c.step (.expire n) = some (c', ns) →
        ns = [.answered w (Ruling.late.response set q)] := by
  have hexpire : c.step (.expire n) = if d ≤ c.now then
      some ({ c with board := (c.board.forget (c.ids.id n)).1 }.settled n,
        [.answered w (Ruling.late.response set q)]) else none := by
    change c.expire n = _
    unfold expire
    rw [ho, ← hset]
    rfl
  refine ⟨?_, ?_, fun c' ns h => ?_⟩
  · change c.collect n = _
    unfold collect
    rw [ho]
  · rw [hexpire]
    split <;> simp_all
  · rw [hexpire] at h
    split at h
    · exact (Prod.mk.inj (Option.some.inj h)).2.symm
    · cases h

theorem not_answered_of_logs {es : List Envelope} {resp : Response} :
    .answered w resp ∉ c.logs es := by
  intro hmem
  obtain ⟨x, -, hx⟩ := List.mem_filterMap.1 hmem
  cases x <;> cases hx

/-- A caller is told something when a request is completed, or if there is no connection. -/
theorem Stepped.told (hs : o.before.Stepped o.event o.after o.notices) {resp : Response}
    (hmem : .answered w resp ∈ o.notices) : (∃ n, o.completions n = [(w, resp)]) ∨
      o.before.board.connected = false ∧ (∃ q, o.event = .ask w q) ∧
        resp = .error (notConnected o.before.settings.socket) ∧
        o.notices = [.answered w resp] ∧ o.after = o.before := by
  obtain ⟨c, e, c', ns⟩ := o
  change c.Stepped e c' ns at hs
  change .answered w resp ∈ ns at hmem
  cases hs with
  | denied hh hc =>
    obtain ⟨rfl, rfl⟩ := by simpa using hmem
    exact .inr ⟨hc, ⟨_, rfl⟩, rfl, rfl, rfl⟩
  | @collected m | @expired m =>
    obtain ⟨rfl, rfl⟩ := by simpa using hmem
    exact .inl ⟨m, if_pos rfl⟩
  | received => exact absurd hmem not_answered_of_logs
  | lost | unwritten =>
    rcases List.mem_append.1 hmem with hmem | hmem
    · exact absurd hmem not_answered_of_logs
    · simp at hmem
  | retired =>
    unfold farewell at hmem
    split at hmem <;> simp at hmem
  | _ => simp at hmem

end Client

namespace Trace

theorem of_late (h : Trace set origin ids os o.before)
    (hs : o.before.Stepped o.event o.after o.notices) (hl : o.late? = some n) :
    ruling? n os = none ∧ ∃ t, queuedAt? n os = some t ∧ t + set.patience ≤ o.before.now := by
  obtain ⟨c, e, c', ns⟩ := o
  change c.Stepped e c' ns at hs
  change Trace set origin ids os c at h
  cases hs with
  | @expired m x d ho hd hx hle =>
    obtain rfl := Option.some.inj hl
    have hmade : 1 ≤ m ∧ m ≤ c.issued :=
      Decidable.byContradiction fun hn => by simp [(h.of_unmade hn).1] at ho
    obtain ⟨w, q, ha⟩ := h.mem_asks_iff.2 hmade
    cases h.standing ha with
    | waiting hr _ ho' =>
      obtain rfl := Option.some.inj (ho'.symm.trans ho)
      obtain ⟨t, ht, rfl⟩ := Option.map_eq_some_iff.1 hd
      exact ⟨hr, t, ht, hle⟩
    | @ruled r _ hl' _ ho' =>
      obtain rfl := Option.some.inj (ho'.symm.trans ho)
      exact absurd hx (Ruling.slot_ne_empty hl')
    | completed _ _ ho' => cases ho'.symm.trans ho
  | _ => cases hl

/-- **Requests and answers belong together** after every trace. -/
theorem correlation (h : Trace set origin ids os c) : Correlation set ids os c where
  numbers := h.numbers
  standing n w q := h.standing
  once n := by
    by_cases hn : 1 ≤ n ∧ n ≤ c.issued
    · obtain ⟨w, q, ha⟩ := h.mem_asks_iff.2 hn
      cases h.standing ha with
      | waiting _ _ _ hc | ruled _ _ _ _ hc | completed _ _ _ hc => simp [hc]
    · rw [(h.of_unmade hn).2]
      exact Nat.zero_le _
  told o ho w r hmem := by
    obtain ⟨before, after, rfl⟩ := List.append_of_mem ho
    have htold := h.stepped.told hmem
    rwa [h.upTo.1.sound.2] at htold
  pending id n hp := by
    obtain ⟨hid, hr, w, q, ha, -⟩ := h.waiting_of_pending hp
    exact ⟨hid, hr, w, q, ha⟩
  down := h.entries_eq_nil
  stays o ho n hp hr := by
    obtain ⟨before, after, rfl⟩ := List.append_of_mem ho
    obtain ⟨hb, -⟩ := h.upTo
    obtain rfl := hb.ids_eq
    obtain ⟨-, -, w, q, -, hx⟩ := hb.waiting_of_pending hp
    cases Occurrence.regards h.stepped hb.sound.1 (hb.sound.1.made _ n hp).2 with
    | stays _ hp' ho' =>
      refine ⟨hp'.trans hp, ?_⟩
      rw [ho', Option.map_map]
      refine Option.map_congr fun x _ => ?_
      dsimp only [Function.comp]
      split <;> rfl
    | ruled hr' | expired _ _ _ _ hr' => cases hr.symm.trans hr'
    | collected ho' hout =>
      -- there is nothing to take yet
      obtain rfl := Option.some.inj (hx.symm.trans ho')
      cases Outstanding.outcome?_of_empty.symm.trans hout
  lined n w q ha hc hq := by
    have hout : c.outstanding? n ≠ none := by
      cases h.standing ha with
      | waiting _ _ ho | ruled _ _ _ ho => simp [ho]
      | completed _ _ _ hc' => cases hc.symm.trans hc'
    exact (List.mem_append.1 (h.lined.waits n hout)).resolve_left (queuedAt?_eq_none_iff.1 hq)
  collect n w q r t ha hc hr hq := by
    cases h.standing ha with
    | waiting hr' => cases hr.symm.trans hr'
    | ruled hr' hl _ ho =>
      obtain rfl := Option.some.inj (hr.symm.trans hr')
      rw [hq, Option.map_some] at ho
      exact Client.step_of_ruled hl ho
    | completed _ _ _ hc' => cases hc.symm.trans hc'
  expire n w q t ha hr hq := by
    cases h.standing ha with
    | waiting _ _ ho =>
      rw [hq, Option.map_some] at ho
      exact Client.step_of_waiting ho h.sound.2
    | ruled hr' | completed hr' => cases hr.symm.trans hr'
  late before o after hos n hlate := by
    subst hos
    exact h.upTo.1.of_late h.stepped hlate

/-- The settings of a client. -/
def settings : Settings := ⟨"engine.sock", "c", 100, 1000, 1000⟩

/-- A frame that takes the order of request `n`. -/
def acceptance (version n : Nat) : Envelope :=
  ⟨version, "e", "t", some (requestId n), .commandResult ⟨.stop, .accepted, none⟩⟩

/-- Three requests on one connection, answers to other requests and in other words, and an answer
that has no end of line when the connection drops; then a request that is answered too late. -/
def crossedAnswers : List Event := [
  .dial (.accepted 1), .ask 7 .stop, .ask 8 .stop, .ask 9 .stop,
  .receive ((acceptance 1 4).toValue.write ++ [lineFeed] ++ (acceptance 2 1).toValue.write ++
    [lineFeed] ++ (acceptance 1 2).toValue.write ++ [lineFeed]),
  .receive (acceptance 1 3).toValue.write, .lose, .collect 3, .collect 1, .collect 2,
  .pass 1000, .dial (.accepted 2), .ask 10 .stop, .pass 100, .expire 4,
  .receive ((acceptance 1 4).toValue.write ++ [lineFeed])]

/-- The wording of what a caller is told. -/
def wording : Response → String
  | .ok _ => "taken"
  | .error e => e.message

/-- Each request is answered by the frame that names it, or told why it is not. -/
theorem correlation_of_crossed_answers :
    ∃ os c, Trace settings ⟨0, 0⟩ .counted os c ∧ Correlation settings .counted os c ∧
      (completions 1 os).map (fun x => (x.1, wording x.2)) =
        [(7, "transport: engine connection closed before reply")] ∧
      (completions 2 os).map (fun x => (x.1, wording x.2)) = [(8, "taken")] ∧
      (completions 3 os).map (fun x => (x.1, wording x.2)) = [(9, "taken")] ∧
      (completions 4 os).map (fun x => (x.1, wording x.2)) =
        [(10, "no reply within 100ms")] := by
  have hpast : (play settings ⟨0, 0⟩ .counted crossedAnswers).map (fun out =>
      [1, 2, 3, 4].map fun n => (completions n out.1).map fun x => (x.1, wording x.2)) =
    some [[(7, "transport: engine connection closed before reply")], [(8, "taken")],
      [(9, "taken")], [(10, "no reply within 100ms")]] := by decide +kernel
  obtain ⟨⟨os, c⟩, hplay, htold⟩ := Option.map_eq_some_iff.1 hpast
  have htrace := of_play hplay
  exact ⟨os, c, htrace, htrace.correlation, by simpa using htold⟩

end Trace

end Overseer.Engine
