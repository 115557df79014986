import Overseer.Proofs.Engine.Correlation
import Overseer.Proofs.Json.Integers

/-!
# The pauses between attempts

A client pauses when nobody is found, when a connection is made and no introduction can be written,
and when a connection is lost.  Each of the three exits says how long it pauses and what the next
pause would be, so the closed form is followed through what others see of a client: the pauses and
the connections, in order.

* `Backoff.next_pause` : the closed form is what doubling up to a limit makes.
* `Client.Stepped.paced` : every event keeps to it.
* `Trace.backs_off` : **the `n`-th pause since a connection was last reached is `2 ^ (n - 1)`
  seconds**, up to the limit, and no attempt is made before it is over.
-/

namespace Overseer.Time

/-- The longest span that a clock can tell: a nanosecond less than `2 ^ 64` seconds. -/
def Span.longest : Span := ⟨Nat.pow 2 64 * 1000000000 - 1⟩

end Overseer.Time

namespace Overseer.Engine

open Overseer.Json Overseer.Time

/-! ### The closed form -/

namespace Backoff

/-- The pause that comes after so many others. -/
def pause (limit n : Nat) : Nat := min (Nat.pow 2 n * first) limit

variable {limit : Nat}

theorem pause_zero (h : first ≤ limit) : pause limit 0 = first := by
  show min (1 * first) limit = first
  rw [Nat.one_mul, Nat.min_eq_left h]

/-- **Doubling up to the limit** leads from one pause to the next. -/
theorem next_pause (limit n : Nat) : next (pause limit n) limit = pause limit (n + 1) := by
  have hdouble : Nat.pow 2 (n + 1) * first = Nat.pow 2 n * first + Nat.pow 2 n * first := by
    rw [← Nat.add_mul, ← Nat.mul_two]
    rfl
  rw [next, pause, pause, hdouble]
  omega

theorem pause_le (limit n : Nat) : pause limit n ≤ limit := Nat.min_le_right _ _

theorem pause_mono (limit : Nat) {m n : Nat} (h : m ≤ n) : pause limit m ≤ pause limit n := by
  have hpow : Nat.pow 2 m ≤ Nat.pow 2 n := Nat.pow_le_pow_right (by decide) h
  have := Nat.mul_le_mul_right first hpow
  rw [pause, pause]
  omega

theorem first_le_pause (h : first ≤ limit) (n : Nat) : first ≤ pause limit n := by
  rw [← pause_zero h]
  exact pause_mono limit (Nat.zero_le n)

/-- Twice a pause is no longer than the longest span, whatever limit of 64 bits there is. -/
theorem double_pause_le (h : Fits 64 limit) (n : Nat) :
    ((Span.ofMillis (pause limit n)).add (.ofMillis (pause limit n))).nanos ≤
      Span.longest.nanos := by
  have hle := pause_le limit n
  simp only [Fits, pow_64] at h
  simp only [Span.add, Span.ofMillis, Span.longest, pow_64]
  omega

end Backoff

/-! ### What others see -/

/-- How long the next attempt is put off. -/
def Notice.pause? : Notice → Option Nat
  | .resting ms => some ms
  | _ => none

/-- What others see of a client, in order. -/
def told (os : List Occurrence) : List Notice := os.flatMap (·.notices)

/-- How many pauses there were since a connection was last reached, if there were `n` before. -/
def pausesSince (n : Nat) : List Notice → Nat
  | [] => n
  | .resting _ :: rest => pausesSince (n + 1) rest
  | .reached _ :: rest => pausesSince 0 rest
  | _ :: rest => pausesSince n rest

/-- Every pause is as long as the number of those before it says, if there were `n` at first. -/
def Paced (limit : Nat) : Nat → List Notice → Prop
  | _, [] => True
  | n, .resting ms :: rest => ms = Backoff.pause limit n ∧ Paced limit (n + 1) rest
  | _, .reached _ :: rest => Paced limit 0 rest
  | n, _ :: rest => Paced limit n rest

variable {cap n : Nat} {ns : List Notice}

theorem told_append (os : List Occurrence) (o : Occurrence) :
    told (os ++ [o]) = told os ++ o.notices := by
  rw [told, List.flatMap_append, List.flatMap_singleton, told]

theorem pausesSince_append (n : Nat) (a b : List Notice) :
    pausesSince n (a ++ b) = pausesSince (pausesSince n a) b := by
  induction a generalizing n with
  | nil => rfl
  | cons x rest ih => cases x <;> exact ih _

theorem paced_append {a b : List Notice} :
    Paced cap n (a ++ b) ↔ Paced cap n a ∧ Paced cap (pausesSince n a) b := by
  induction a generalizing n with
  | nil => exact (iff_of_eq (true_and _)).symm
  | cons x rest ih =>
    cases x with
    | resting ms => exact (and_congr_right fun _ => ih).trans and_assoc.symm
    | _ => exact ih

theorem Paced.eq_pause {pre post : List Notice} {ms : Nat}
    (h : Paced cap n (pre ++ .resting ms :: post)) : ms = Backoff.pause cap (pausesSince n pre) :=
  (paced_append.1 h).2.1

/-- Pauses come one after the other as long as no connection is reached. -/
theorem le_pausesSince (n : Nat) (h : ∀ conn, .reached conn ∉ ns) : n ≤ pausesSince n ns := by
  induction ns generalizing n with
  | nil => exact Nat.le_refl _
  | cons x rest ih =>
    have hrest : ∀ conn, .reached conn ∉ rest := fun conn hc => h conn (List.mem_cons_of_mem _ hc)
    cases x with
    | resting ms => exact Nat.le_of_succ_le (ih _ hrest)
    | reached conn => exact absurd List.mem_cons_self (h conn)
    | _ => exact ih _ hrest

theorem pausesSince_zero (h : ∀ ms, .resting ms ∉ ns) : pausesSince 0 ns = 0 := by
  induction ns with
  | nil => rfl
  | cons x rest ih =>
    have hrest : ∀ ms, .resting ms ∉ rest := fun ms hc => h ms (List.mem_cons_of_mem _ hc)
    cases x with
    | resting ms => exact absurd List.mem_cons_self (h ms)
    | _ => exact ih hrest

/-- What is neither a pause nor a connection reached. -/
def Notice.quiet : Notice → Bool
  | .resting _ | .reached _ => false
  | _ => true

theorem paced_of_quiet (cap n : Nat) (h : ∀ x ∈ ns, x.quiet = true) :
    pausesSince n ns = n ∧ Paced cap n ns := by
  induction ns with
  | nil => exact ⟨rfl, trivial⟩
  | cons x rest ih =>
    obtain ⟨hx, hrest⟩ := List.forall_mem_cons.1 h
    cases x with
    | resting | reached => cases hx
    | _ => exact ih hrest

theorem pauses_of_quiet (h : ∀ x ∈ ns, x.quiet = true) : ns.filterMap Notice.pause? = [] := by
  refine List.filterMap_eq_nil_iff.2 fun x hx => ?_
  cases x with
  | resting => cases h _ hx
  | _ => rfl

theorem pauses_append_of_quiet {a : List Notice} (h : ∀ x ∈ a, x.quiet = true) (b : List Notice) :
    (a ++ b).filterMap Notice.pause? = b.filterMap Notice.pause? := by
  rw [List.filterMap_append, pauses_of_quiet h, List.nil_append]

theorem quiet_logs (c : Client) (es : List Wire.Envelope) : ∀ x ∈ c.logs es, x.quiet = true := by
  intro x hx
  obtain ⟨d, -, hd⟩ := List.mem_filterMap.1 hx
  cases d <;> cases hd
  rfl

theorem quiet_dropped (held : Option Nat) :
    ∀ x ∈ held.toList.map Notice.dropped, x.quiet = true := by
  intro x hx
  obtain ⟨conn, -, rfl⟩ := List.mem_map.1 hx
  rfl

theorem quiet_farewell (c : Client) : ∀ x ∈ c.farewell, x.quiet = true := by
  unfold Client.farewell
  split
  · exact quiet_dropped _
  · exact List.forall_mem_singleton.2 rfl
  · exact List.forall_mem_nil _

/-! ### One event -/

namespace Client

variable {c c' : Client} {e : Event}

/-- The pause that the next failure would bring, if there were `n` since a connection was last
reached. -/
def Due (c : Client) (n : Nat) : Prop :=
  match c.link with
  | .down _ pause _ => pause = Backoff.pause c.limit n
  | .up .. => n = 0
  | .stopped => True

theorem first_le_limit (c : Client) : Backoff.first ≤ c.limit := Nat.le_max_right _ _

theorem Stepped.limit (hs : c.Stepped e c' ns) : c'.limit = c.limit := by
  rw [Client.limit, Client.limit, hs.settings]

theorem Due.congr (hd : c.Due n) (hlink : c'.link = c.link) (hlimit : c'.limit = c.limit) :
    c'.Due n := by
  unfold Due at hd ⊢
  rwa [hlink, hlimit]

/-- **Every event keeps to the pace.** -/
theorem Stepped.paced (hs : c.Stepped e c' ns) (hd : c.Due n) :
    Paced c.limit n ns ∧ c'.Due (pausesSince n ns) := by
  have hlimit := hs.limit
  cases hs with
  | asked => exact ⟨trivial, hd.congr (submit_link ..) hlimit⟩
  | @refused retry pause held hl _ =>
    -- the pause is the one that was due, and the next one is twice as long
    have hp : pause = Backoff.pause c.limit n := by simpa [Due, hl] using hd
    obtain ⟨hsince, hpaced⟩ := paced_of_quiet c.limit n (quiet_dropped held)
    rw [paced_append, pausesSince_append, hsince]
    refine ⟨⟨hpaced, hp, trivial⟩, ?_⟩
    show Backoff.next pause c.limit = _
    rw [hp, Backoff.next_pause]
    rfl
  | @ungreeted _ _ held =>
    -- a connection was reached, so the pause is a first one
    obtain ⟨hsince, hpaced⟩ := paced_of_quiet c.limit n (quiet_dropped held)
    have hfirst := Backoff.pause_zero c.first_le_limit
    rw [paced_append, pausesSince_append, hsince]
    refine ⟨⟨hpaced, hfirst.symm, trivial⟩, ?_⟩
    show Backoff.next Backoff.first c.limit = Backoff.pause c.limit 1
    rw [← Backoff.next_pause, hfirst]
  | @connected _ _ held =>
    obtain ⟨hsince, hpaced⟩ := paced_of_quiet c.limit n (quiet_dropped held)
    rw [paced_append, pausesSince_append, hsince]
    exact ⟨⟨hpaced, trivial⟩, rfl⟩
  | received hl =>
    have hn : n = 0 := by simpa [Due, hl] using hd
    obtain ⟨hsince, hpaced⟩ := paced_of_quiet c.limit n (quiet_logs c _)
    rw [hsince]
    exact ⟨hpaced, hn⟩
  | lost hl | unwritten hl =>
    have hn : n = 0 := by simpa [Due, hl] using hd
    subst hn
    obtain ⟨hsince, hpaced⟩ := paced_of_quiet c.limit 0 (quiet_logs c _)
    have hfirst := Backoff.pause_zero c.first_le_limit
    rw [paced_append, pausesSince_append, hsince]
    refine ⟨⟨hpaced, hfirst.symm, trivial⟩, ?_⟩
    show Backoff.next Backoff.first c.limit = Backoff.pause c.limit 1
    rw [← Backoff.next_pause, hfirst]
  | retired => exact ⟨(paced_of_quiet c.limit n (quiet_farewell c)).2, trivial⟩
  | _ => exact ⟨trivial, hd.congr rfl hlimit⟩

end Client

namespace Occurrence

variable {o : Occurrence}

/-- Whether an attempt fails, or a connection drops. -/
def fails (o : Occurrence) : Bool :=
  match o.event, o.after.link with
  | .dial _, .down .. => true
  | _, _ => o.drops

/-- A pause begins, and the next attempt is put off until it is over. -/
structure Pauses (o : Occurrence) (ms : Nat) : Prop where
  /-- It is the only one. -/
  told : o.notices.filterMap Notice.pause? = [ms]
  now : o.after.now = o.before.now
  link : ∃ pause held, o.after.link = .down (o.before.now + ms) pause held

/-- **A failure brings one pause**, and nothing else brings any. -/
theorem pauses_of_stepped (hs : o.before.Stepped o.event o.after o.notices) :
    (o.fails = false ∧ o.notices.filterMap Notice.pause? = []) ∨
      (o.fails = true ∧ ∃ ms, o.Pauses ms) := by
  obtain ⟨c, e, c', ns⟩ := o
  change c.Stepped e c' ns at hs
  cases hs with
  | asked => exact .inl ⟨drops_of_link_eq (Client.submit_link ..), rfl⟩
  | refused | ungreeted =>
    exact .inr ⟨rfl, _, pauses_append_of_quiet (quiet_dropped _) _, rfl, _, _, rfl⟩
  | connected hl => exact .inl ⟨drops_of_down hl, pauses_append_of_quiet (quiet_dropped _) _⟩
  | received hl =>
    exact .inl ⟨by simp [fails, drops, hl], pauses_of_quiet (quiet_logs c _)⟩
  | lost hl | unwritten hl =>
    refine .inr ⟨by simp [fails, drops, hl, Client.cut], _, ?_, rfl, _, _, rfl⟩
    exact pauses_append_of_quiet (quiet_logs c _) _
  | retired => exact .inl ⟨drops_of_stopped rfl, pauses_of_quiet (quiet_farewell c)⟩
  | _ => exact .inl ⟨drops_of_link_eq rfl, rfl⟩

theorem mem_pauses {ms : Nat} :
    .resting ms ∈ o.notices ↔ ms ∈ o.notices.filterMap Notice.pause? := by
  rw [List.mem_filterMap]
  constructor
  · exact fun h => ⟨_, h, rfl⟩
  · rintro ⟨x, hx, hms⟩
    cases x <;> cases hms
    exact hx

theorem pauses_of_resting (hs : o.before.Stepped o.event o.after o.notices) {ms : Nat}
    (hms : .resting ms ∈ o.notices) : o.Pauses ms := by
  rw [mem_pauses] at hms
  rcases pauses_of_stepped hs with ⟨-, hnone⟩ | ⟨-, ms', hp⟩
  · rw [hnone] at hms
    cases hms
  · rw [hp.told, List.mem_singleton] at hms
    rwa [hms]

end Occurrence

/-! ### No attempt before its time -/

namespace Client

variable {c c' : Client} {e : Event} {t : Nat}

/-- No attempt is made before the time `t`. -/
def Keeps (c : Client) (t : Nat) : Prop :=
  match c.link with
  | .down retry _ _ => t ≤ retry
  | .up .. => t ≤ c.now
  | .stopped => True

theorem Keeps.congr (hk : c.Keeps t) (hlink : c'.link = c.link) (hnow : c.now ≤ c'.now) :
    c'.Keeps t := by
  unfold Keeps at hk ⊢
  rw [hlink]
  cases hl : c.link with
  | up =>
    rw [hl] at hk
    exact Nat.le_trans hk hnow
  | _ =>
    rw [hl] at hk
    exact hk

theorem Stepped.keeps (hs : c.Stepped e c' ns) (hk : c.Keeps t) : c'.Keeps t := by
  have dialled : ∀ {retry pause held}, c.link = .down retry pause held → retry ≤ c.now →
      t ≤ c.now := by
    intro retry pause held hl hn
    exact Nat.le_trans (by simpa [Keeps, hl] using hk) hn
  have up : ∀ {conn feed}, c.link = .up conn feed → t ≤ c.now := by
    intro conn feed hl
    simpa [Keeps, hl] using hk
  cases hs with
  | asked =>
    refine hk.congr (submit_link ..) (Nat.le_of_eq ?_)
    unfold submit
    split <;> rfl
  | refused hl hn | ungreeted hl hn => exact Nat.le_add_right_of_le (dialled hl hn)
  | connected hl hn => exact dialled hl hn
  | received hl => exact up hl
  | lost hl | unwritten hl => exact Nat.le_add_right_of_le (up hl)
  | retired => exact trivial
  | passed => exact hk.congr rfl (Nat.le_add_right _ _)
  | _ => exact hk.congr rfl (Nat.le_refl _)

theorem Stepped.le_now_of_dial {d : Dial} (hs : c.Stepped (.dial d) c' ns) (hk : c.Keeps t) :
    t ≤ c.now := by
  cases hs with
  | refused hl hn | ungreeted hl hn | connected hl hn =>
    exact Nat.le_trans (by simpa [Keeps, hl] using hk) hn

theorem exists_dial {retry pause : Nat} {held : Option Nat}
    (hl : c.link = .down retry pause held) (hn : retry ≤ c.now) (d : Dial) :
    ∃ out, c.step (.dial d) = some out := by
  change ∃ out, c.dial d = some out
  unfold dial
  rw [hl]
  simp only [if_neg (Nat.not_lt.2 hn)]
  cases d with
  | accepted conn =>
    simp only
    split <;> exact ⟨_, rfl⟩
  | _ => exact ⟨_, rfl⟩

end Client

/-! ### Whole traces -/

/-- The pauses of a client, from its beginning. -/
structure BacksOff (set : Settings) (os : List Occurrence) : Prop where
  /-- Each failure brings one pause, and nothing else brings any. -/
  once : ∀ o ∈ os, (o.notices.filterMap Notice.pause?).length = if o.fails then 1 else 0
  /-- The first pause since a connection was reached is a second, and then they double, up to the
  limit. -/
  length : ∀ {pre ms post}, told os = pre ++ .resting ms :: post →
    ms = min (Nat.pow 2 (pausesSince 0 pre) * 1000) (max set.reconnectLimit 1000)
  bounds : ∀ {ms}, .resting ms ∈ told os → 1000 ≤ ms ∧ ms ≤ max set.reconnectLimit 1000
  /-- They do not get shorter until a connection is reached. -/
  rising : ∀ {pre a mid b post}, told os = pre ++ .resting a :: (mid ++ .resting b :: post) →
    (∀ conn, .reached conn ∉ mid) → a ≤ b
  /-- The first one after that is a second again. -/
  reset : ∀ {pre conn mid ms post}, told os = pre ++ .reached conn :: (mid ++ .resting ms :: post) →
    (∀ a, .resting a ∉ mid) → ms = 1000
  /-- Doubling a pause never goes beyond the longest span. -/
  room : ∀ {ms}, .resting ms ∈ told os →
    ((Span.ofMillis ms).add (.ofMillis ms)).nanos ≤ Span.longest.nanos
  /-- No attempt is made before a pause is over. -/
  kept : ∀ {before o mid o' after ms d}, os = before ++ o :: (mid ++ o' :: after) →
    .resting ms ∈ o.notices → o'.event = .dial d → o.before.now + ms ≤ o'.before.now
  /-- When it is over, any attempt can be made. -/
  prompt : ∀ {o ms}, o ∈ os → .resting ms ∈ o.notices → ∀ d,
    ∃ out, ((o.after.step (.pass ms)).bind fun later => later.1.step (.dial d)) = some out

namespace Trace

variable {set : Settings} {origin : Moment} {ids : IdSource} {os : List Occurrence}
  {c : Client}

theorem limit_eq (h : Trace set origin ids os c) : c.limit = set.longestPause := by
  rw [Client.limit, h.sound.2]

/-- **The pauses are as long as the number of those before them says**, after every trace. -/
theorem paced (h : Trace set origin ids os c) :
    Paced set.longestPause 0 (told os) ∧ c.Due (pausesSince 0 (told os)) := by
  induction h with
  | start =>
    refine ⟨trivial, ?_⟩
    exact (Backoff.pause_zero (Nat.le_max_right _ _)).symm
  | @next os c e c' ns h hs ih =>
    obtain ⟨hpaced, hdue⟩ := (Client.stepped_of_step h.sound.1.fresh hs).paced ih.2
    rw [told_append, paced_append, pausesSince_append, ← h.limit_eq]
    exact ⟨⟨h.limit_eq ▸ ih.1, hpaced⟩, hdue⟩

/-- No attempt is made before any pause that has begun is over. -/
theorem keeps (h : Trace set origin ids os c) :
    ∀ o ∈ os, ∀ ms, .resting ms ∈ o.notices → c.Keeps (o.before.now + ms) := by
  induction h with
  | start => exact fun _ ho => nomatch ho
  | @next os c e c' ns h hs ih =>
    have hst := Client.stepped_of_step h.sound.1.fresh hs
    intro o ho ms hms
    rcases List.mem_append.1 ho with ho | ho
    · exact hst.keeps (ih o ho ms hms)
    · obtain rfl := List.mem_singleton.1 ho
      obtain ⟨pause, held, hl⟩ := (Occurrence.pauses_of_resting hst hms).link
      have hl : c'.link = _ := hl
      simp [Client.Keeps, hl]

theorem stepped_of_mem (h : Trace set origin ids os c) {o : Occurrence} (ho : o ∈ os) :
    o.before.Stepped o.event o.after o.notices := by
  obtain ⟨before, after, rfl⟩ := List.append_of_mem ho
  exact h.stepped

/-- **The pauses of a client double up to the limit and begin anew with every connection**, for any
limit of 64 bits and after every trace. -/
theorem backs_off (h : Trace set origin ids os c) (hcap : Fits 64 set.reconnectLimit) :
    BacksOff set os := by
  have hlimit : Fits 64 set.longestPause := by
    rw [Fits, pow_64] at hcap ⊢
    rw [Settings.longestPause]
    omega
  have hfirst : Backoff.first ≤ set.longestPause := Nat.le_max_right _ _
  have hlength : ∀ {pre ms post}, told os = pre ++ .resting ms :: post →
      ms = Backoff.pause set.longestPause (pausesSince 0 pre) :=
    fun hsplit => Paced.eq_pause (hsplit ▸ h.paced.1)
  have hmem : ∀ {ms}, .resting ms ∈ told os → ∃ k, ms = Backoff.pause set.longestPause k := by
    intro ms hms
    obtain ⟨pre, post, hsplit⟩ := List.append_of_mem hms
    exact ⟨_, hlength hsplit⟩
  exact {
    once := by
      intro o ho
      rcases Occurrence.pauses_of_stepped (h.stepped_of_mem ho) with ⟨hf, hp⟩ | ⟨hf, ms, hp⟩
      · simp [hf, hp]
      · simp [hf, hp.told]
    length := hlength
    bounds := by
      intro ms hms
      obtain ⟨k, rfl⟩ := hmem hms
      exact ⟨Backoff.first_le_pause hfirst k, Backoff.pause_le _ k⟩
    rising := by
      intro pre a mid b post hsplit hmid
      have hsplit' : told os = (pre ++ .resting a :: mid) ++ .resting b :: post := by simp [hsplit]
      have hb := hlength hsplit'
      rw [pausesSince_append] at hb
      rw [hlength hsplit, hb]
      -- one pause more is counted, and no connection sets the count back
      exact Backoff.pause_mono _ (Nat.le_of_succ_le (le_pausesSince _ hmid))
    reset := by
      intro pre conn mid ms post hsplit hmid
      have hsplit' : told os = (pre ++ .reached conn :: mid) ++ .resting ms :: post := by
        simp [hsplit]
      have hcount : pausesSince 0 (pre ++ .reached conn :: mid) = 0 := by
        rw [pausesSince_append]
        exact pausesSince_zero hmid
      rw [hlength hsplit', hcount]
      exact Backoff.pause_zero hfirst
    room := by
      intro ms hms
      obtain ⟨k, rfl⟩ := hmem hms
      exact Backoff.double_pause_le hlimit k
    kept := by
      rintro before o mid o' after ms d rfl hms he
      rw [← List.cons_append, ← List.append_assoc] at h
      have hkeeps := h.upTo.1.keeps o (by simp) ms hms
      have hs := h.stepped
      rw [he] at hs
      exact hs.le_now_of_dial hkeeps
    prompt := by
      intro o ms ho hms d
      have hp := Occurrence.pauses_of_resting (h.stepped_of_mem ho) hms
      obtain ⟨pause, held, hl⟩ := hp.link
      have hnow : o.before.now + ms ≤ o.after.now + ms := Nat.le_of_eq (by rw [hp.now])
      exact Client.exists_dial (c := { o.after with now := o.after.now + ms }) hl hnow d }

/-- A limit that is no power of two times a second. -/
def slowToReturn : Settings := { settings with reconnectLimit := 10000 }

/-- Nobody is found until the limit is reached, a connection takes no introduction, nobody is found,
a connection is lost, and nobody is found again. -/
def comingBack : List Event := [
  .dial .refused, .pass 1000, .dial .refused, .pass 2000, .dial .refused, .pass 4000,
  .dial .refused, .pass 8000, .dial .refused, .pass 10000, .dial .refused, .pass 10000,
  .dial (.broken 1), .pass 1000, .dial .refused, .pass 2000, .dial (.accepted 2), .ask 7 .stop,
  .write true, .lose, .pass 1000, .dial .refused]

/-- The pauses of such a client. -/
theorem backs_off_of_coming_back :
    ∃ os c, Trace slowToReturn ⟨0, 0⟩ .counted os c ∧ Fits 64 slowToReturn.reconnectLimit ∧
      (told os).filterMap Notice.pause? =
        [1000, 2000, 4000, 8000, 10000, 10000, 1000, 2000, 1000, 2000] ∧
      BacksOff slowToReturn os := by
  have hplay : (play slowToReturn ⟨0, 0⟩ .counted comingBack).map
      (fun out => (told out.1).filterMap Notice.pause?) =
    some [1000, 2000, 4000, 8000, 10000, 10000, 1000, 2000, 1000, 2000] := by decide +kernel
  obtain ⟨⟨os, c⟩, hplay, hpauses⟩ := Option.map_eq_some_iff.1 hplay
  have htrace := of_play hplay
  have hcap : Fits 64 slowToReturn.reconnectLimit := by decide
  exact ⟨os, c, htrace, hcap, hpauses, htrace.backs_off hcap⟩

end Trace

end Overseer.Engine
