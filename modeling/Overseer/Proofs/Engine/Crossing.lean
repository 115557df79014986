import Overseer.Proofs.Engine.Writing

/-!
# Frames and the connections that they are written on

Frames are written in the order in which their requests were made, each of them once at most.  What
is in the queue when a connection ends or begins is dropped, and what waits behind the queue is not:
only there can the frame of a request outlast the connection on which it was asked for.

* `Occurrence.flow` : all that an event can do about the frames that wait.
* `Trace.written_frames` : when a frame is written, and what it has lived through.
* `Trace.frame_crosses` : a frame that waits behind the queue when the connection ends can be
  written on the next one.
-/

namespace Overseer.Engine

open Overseer.Batch Overseer.Monitor Overseer.Time Overseer.Wire

/-- The request whose frame is written. -/
def Occurrence.writes? (o : Occurrence) : Option Nat :=
  match o.event, o.before.link, o.before.queue with
  | .write taken, .up .., frame :: _ =>
    if taken && o.before.writable frame.2 then some frame.1 else none
  | _, _, _ => none

/-- The requests whose frames were written, in order. -/
def written (os : List Occurrence) : List Nat := os.filterMap (·.writes?)

theorem written_append (os : List Occurrence) (o : Occurrence) :
    written (os ++ [o]) = written os ++ o.writes?.toList := by
  unfold written
  rw [List.filterMap_append]
  cases h : o.writes? <;> simp [h]

/-- The requests whose frames wait, first those in the queue. -/
def Client.frames (c : Client) : List Nat := c.queue.map (·.1) ++ c.behind.map (·.1)

/-- A frame is written from the front of the queue, and a new one comes in at the end. Otherwise the
queue is given up, and no frame behind it gets another place. -/
theorem Occurrence.flow {o : Occurrence} (hs : o.before.Stepped o.event o.after o.notices) :
    o.drops = false ∧ o.writes?.toList ++ o.after.frames = o.before.frames ++
        List.range' (o.before.issued + 1) (o.after.issued - o.before.issued) ∨
      o.writes? = none ∧ o.after.queue = [] ∧ o.after.behind.Sublist o.before.behind ∧
        o.after.issued = o.before.issued := by
  obtain ⟨c, e, c', ns⟩ := o
  change c.Stepped e c' ns at hs
  have same : ∀ {w : Option Nat} {d : Client}, w = none → d.frames = c.frames →
      d.issued = c.issued → w.toList ++ d.frames =
        c.frames ++ List.range' (c.issued + 1) (d.issued - c.issued) := by
    rintro w d rfl hf hi
    rw [hf, hi, Nat.sub_self]
    simp
  cases hs with
  | @asked w q hh hc =>
    refine .inl ⟨drops_of_link_eq (Client.submit_link ..), ?_⟩
    dsimp only
    rw [Client.submit_issued, show (c.joined w q).issued - c.issued = 1 from
      Nat.add_sub_cancel_left ..]
    by_cases hroom : c.behind = [] ∧ c.queue.length < queueCapacity
    · simp [writes?, hroom, Client.frames, Client.submit, Client.joined, Client.enqueue,
        Client.frameOf]
    · simp [writes?, hroom, Client.frames, Client.submit, Client.joined, Client.frameOf]
  | movedUp hb hq =>
    refine .inl ⟨drops_of_link_eq rfl, ?_⟩
    simp [writes?, hb, Client.frames, Client.enqueue]
  | wrote hl hq hw =>
    refine .inl ⟨drops_of_link_eq rfl, ?_⟩
    simp [writes?, hl, hq, hw, Client.frames]
  | refused | ungreeted | connected | lost => exact .inr ⟨rfl, rfl, .refl _, rfl⟩
  | unwritten hl hq hw => exact .inr ⟨by simp [writes?, hl, hq, hw], rfl, .refl _, rfl⟩
  | received hl => exact .inl ⟨by simp [drops, hl], same rfl rfl rfl⟩
  | retired => exact .inr ⟨rfl, rfl, List.nil_sublist _, rfl⟩
  | _ => exact .inl ⟨drops_of_link_eq rfl, same rfl rfl rfl⟩

/-- The frames that wait are in order, behind those that were written, and what waits was in the
queue at no drop of the connection. -/
structure Waits (os : List Occurrence) (c : Client) : Prop where
  order : (written os ++ c.frames).Sublist (List.range' 1 c.issued)
  behind : ∀ n ∈ c.frames, ∀ d ∈ os, d.drops = true → n ≤ d.before.issued →
    n ∈ d.after.behind.map (·.1)

/-- What is to be said of a frame that is written, and of what happened before. -/
structure Written (before : List Occurrence) (o : Occurrence) (n : Nat) : Prop where
  /-- Its request was made. -/
  asked : 1 ≤ n ∧ n ≤ o.before.issued
  /-- The frames that were written before are those of earlier requests. -/
  order : ∀ m ∈ written before, m < n
  /-- It waited behind the queue whenever a connection dropped. -/
  behind : ∀ d ∈ before, d.drops = true → n ≤ d.before.issued → n ∈ d.after.behind.map (·.1)
  /-- If no frame waited there, it was asked for on this connection. -/
  same : (∀ d ∈ before, d.drops = true → d.after.behind = []) →
    ∀ d ∈ before, d.drops = true → d.before.issued < n

namespace Trace

variable {set : Settings} {origin : Moment} {ids : IdSource} {os before after : List Occurrence}
  {c : Client} {o : Occurrence} {n : Nat}

theorem issued_le (h : Trace set origin ids os c) : ∀ d ∈ os, d.before.issued ≤ c.issued := by
  induction h with
  | start => exact fun _ hd => nomatch hd
  | @next os c e c' ns h hs ih =>
    have hle := (Client.stepped_of_step h.sound.1.fresh hs).issued_le
    intro d hd
    rcases List.mem_append.1 hd with hd | hd
    · exact Nat.le_trans (ih d hd) hle
    · rw [List.mem_singleton.1 hd]
      exact hle

theorem waits (h : Trace set origin ids os c) : Waits os c := by
  induction h with
  | start => exact ⟨List.nil_sublist _, fun _ hn => nomatch hn⟩
  | @next os c e c' ns h hs ih =>
    have hst := Client.stepped_of_step h.sound.1.fresh hs
    have hrange : List.range' 1 c'.issued =
        List.range' 1 c.issued ++ List.range' (c.issued + 1) (c'.issued - c.issued) := by
      rw [Nat.add_comm c.issued, List.range'_append_1, Nat.add_sub_cancel' hst.issued_le]
    rcases Occurrence.flow (o := ⟨c, e, c', ns⟩) hst with ⟨hd, hflow⟩ | ⟨hw, hq, hb, hi⟩
    · have hflow : Option.toList _ ++ c'.frames = c.frames ++ _ := hflow
      constructor
      · rw [written_append, List.append_assoc, hflow, ← List.append_assoc, hrange]
        exact ih.order.append (.refl _)
      · intro n hn d hmem hdrop hle
        rcases List.mem_append.1 hmem with hmem | hmem
        · -- the frame is not the new one
          have hold : n ∈ c.frames ++ List.range' (c.issued + 1) (c'.issued - c.issued) :=
            hflow ▸ List.mem_append_right _ hn
          rcases List.mem_append.1 hold with hold | hnew
          · exact ih.behind n hold d hmem hdrop hle
          · have := (List.mem_range'_1.1 hnew).1
            have := h.issued_le d hmem
            omega
        · rw [List.mem_singleton.1 hmem, hd] at hdrop
          cases hdrop
    · have hq : c'.queue = [] := hq
      have hb : c'.behind.Sublist c.behind := hb
      have hi : c'.issued = c.issued := hi
      have hframes : c'.frames = c'.behind.map (·.1) := by rw [Client.frames, hq]; rfl
      have hsub : c'.frames.Sublist c.frames :=
        hframes ▸ (hb.map _).trans (List.sublist_append_right ..)
      constructor
      · rw [written_append, hw, Option.toList_none, List.append_nil, hi]
        exact (hsub.append_left _).trans ih.order
      · intro n hn d hmem hdrop hle
        rcases List.mem_append.1 hmem with hmem | hmem
        · exact ih.behind n (hsub.subset hn) d hmem hdrop hle
        · rw [List.mem_singleton.1 hmem]
          exact hframes ▸ hn

/-- **Frames are written in order, and one that outlasts a connection was behind the queue.** -/
theorem written_frames (h : Trace set origin ids (before ++ o :: after) c)
    (hw : o.writes? = some n) : Written before o n := by
  have hwaits := h.upTo.1.waits
  have hfront : ∃ rest, o.before.frames = n :: rest := by
    unfold Occurrence.writes? at hw
    split at hw
    · next hq =>
      split at hw
      · obtain rfl := Option.some.inj hw
        exact ⟨_, by rw [Client.frames, hq]; rfl⟩
      · cases hw
    · cases hw
  obtain ⟨rest, hfront⟩ := hfront
  have horder := hwaits.order
  rw [hfront] at horder
  have hmem := List.mem_range'_1.1 (horder.subset (List.mem_append_right _ List.mem_cons_self))
  have hsorted := List.pairwise_append.1 (List.Pairwise.sublist horder List.pairwise_lt_range')
  have hbehind := hwaits.behind n (hfront ▸ List.mem_cons_self)
  exact {
    asked := by omega
    order := fun m hm => hsorted.2.2 m hm n List.mem_cons_self
    behind := hbehind
    same := by
      intro hnone d hd hdrop
      refine Nat.lt_of_not_le fun hle => ?_
      have := hbehind d hd hdrop hle
      simp [hnone d hd hdrop] at this }

/-- What waits behind the queue can be written as soon as there is a connection. -/
theorem frame_follows (h : Trace set origin ids os c) {retry pause : Nat} {held : Option Nat}
    (hl : c.link = .down retry pause held) (hn : retry ≤ c.now) {frame : Nat × Envelope}
    {rest : List (Nat × Envelope)} (hb : c.behind = frame :: rest)
    (hw : frame.2.toValue.write.length ≤ set.frameLimit)
    (hg : (greeting set.client c.moment).toValue.write.length ≤ set.frameLimit) (conn : Nat) :
    ∃ os' c', Trace set origin ids (os ++ os') c' ∧
      os'.map (·.event) = [.dial (.accepted conn), .moveUp, .write true] ∧
      (os'.flatMap (·.notices)).getLast? = some (.wrote conn frame.2) := by
  have hset := h.sound.2
  have hgreet : c.writable (greeting c.settings.client c.moment) = true :=
    (Client.writable_iff ..).2 (hset ▸ hg)
  have hfits : c.writable frame.2 = true := (Client.writable_iff ..).2 (hset ▸ hw)
  have hdial : c.Stepped (.dial (.accepted conn)) _ _ := .connected hl hn hgreet
  generalize hc₁ : ({ c with
    queue := []
    board := { c.board with connected := true }
    link := .up conn (.start c.settings.frameLimit) } : Client) = c₁ at hdial
  have h₁ := h.next (hdial.step_eq h.sound.1.fresh)
  have hmove : c₁.Stepped .moveUp ({ c₁ with behind := rest }.enqueue frame) [] := by
    refine .movedUp ?_ ?_
    · rw [← hc₁]
      exact hb
    · rw [← hc₁]
      exact Nat.zero_lt_succ _
  generalize hc₂ : ({ c₁ with behind := rest } : Client).enqueue frame = c₂ at hmove
  have h₂ := h₁.next (hmove.step_eq h₁.sound.1.fresh)
  have hwrite : c₂.Stepped (.write true) { c₂ with queue := [] } [.wrote conn frame.2] := by
    rw [← hc₂, ← hc₁]
    exact .wrote rfl rfl hfits
  have h₃ := h₂.next (hwrite.step_eq h₂.sound.1.fresh)
  rw [List.append_assoc, List.append_assoc] at h₃
  refine ⟨_, _, h₃, rfl, ?_⟩
  simp

/-- **A frame behind the queue can cross a reconnect**: the connection ends, the next one comes
after a pause, and only then does the frame get into the queue. -/
theorem frame_crosses (h : Trace set origin ids os c) {conn : Nat} {feed : Feed}
    (hl : c.link = .up conn feed) {frame : Nat × Envelope} {rest : List (Nat × Envelope)}
    (hb : c.behind = frame :: rest) (hw : frame.2.toValue.write.length ≤ set.frameLimit)
    (hg : (greeting set.client (c.origin.addMillis (c.now + Backoff.first))).toValue.write.length ≤
      set.frameLimit) (conn' : Nat) :
    ∃ os' c', Trace set origin ids (os ++ os') c' ∧
      os'.map (·.event) = [.lose, .pass Backoff.first, .dial (.accepted conn'), .moveUp,
        .write true] ∧
      (os'.flatMap (·.notices)).getLast? = some (.wrote conn' frame.2) := by
  have h₁ := h.next (e := .lose) (Client.lose_eq hl)
  have h₂ := h₁.next (e := .pass Backoff.first) rfl
  obtain ⟨os', c', h', hev, hlast⟩ := h₂.frame_follows rfl (Nat.le_refl _) hb hw hg conn'
  rw [List.append_assoc, List.append_assoc] at h'
  refine ⟨_, c', h', by simp [hev], ?_⟩
  rw [List.flatMap_append, List.flatMap_append, List.getLast?_append, List.getLast?_append, hlast]
  rfl

end Trace

end Overseer.Engine
