import Overseer.Proofs.Monitor.Debts

/-!
# Calls that are out

Every call that is out has a number of its own among those of its kind (`Station.Numbered`), so a
return takes exactly one call away.

* `Passage.expects_eq` : as long as the monitor is at work, no call that is out gets lost.
* `Course.exists_call_of_return` : a return that is handled belongs to a call that was made before.
* `Keeper.Step.request_of_call` : a call in the name of a caller is made when the request of this
  caller is taken, so no call is made in the name of nobody (`Course.ne_zero_of_return`).
-/

namespace Overseer.Monitor

open Overseer.Time

theorem Issued.of_add (i : Issued) (k k' : CallKind) :
    (i.add k).of k' = i.of k' + if k = k' then 1 else 0 := by
  cases k <;> cases k' <;> rfl

namespace Station

/-- Every call that is out has a number of its own among those of its kind. -/
structure Numbered (s : Station) : Prop where
  /-- No number is beyond those that were given. -/
  le_issued : ∀ x ∈ s.calls, x.1 ≤ s.issued.of x.2.kind
  distinct : s.calls.Pairwise fun a b => ¬(a.1 = b.1 ∧ a.2.kind = b.2.kind)

variable {s s' : Station} {m : Move} {ns : List Notice}

theorem Numbered.apply (h : s.Numbered) (x : Effect) : (s.apply x).1.Numbered := by
  cases x with
  | call c =>
    refine ⟨fun y hy => ?_, List.pairwise_append.2 ⟨h.distinct, List.pairwise_singleton .., ?_⟩⟩
    · have hadd := Issued.of_add s.issued c.kind y.2.kind
      rcases List.mem_append.1 hy with hy | hy
      · exact Nat.le_trans (h.le_issued y hy) (hadd ▸ Nat.le_add_right ..)
      · obtain rfl := List.mem_singleton.1 hy
        rw [if_pos rfl] at hadd
        exact Nat.le_of_eq hadd.symm
    · -- the new number is beyond those of its kind
      rintro y hy z hz ⟨hnum, hkind⟩
      obtain rfl := List.mem_singleton.1 hz
      have hle := h.le_issued y hy
      rw [hnum, hkind] at hle
      exact Nat.not_succ_le_self _ hle
  | _ => exact ⟨h.le_issued, h.distinct⟩

theorem Numbered.applyAll (h : s.Numbered) (l : List Effect) : (s.applyAll l).1.Numbered := by
  induction l generalizing s with
  | nil => exact h
  | cons x rest ih => exact ih (h.apply x)

theorem Numbered.handle (h : s.Numbered) (e : Event) : (s.handle e).1.Numbered :=
  Numbered.applyAll (s := { s with keeper := (s.keeper.handle s.now e).1 })
    ⟨h.le_issued, h.distinct⟩ _

theorem Numbered.finish (h : s.Numbered) : s.finish.1.Numbered :=
  Numbered.applyAll (s := { s with alive := false, requests := [], returns := [], logs := [] })
    ⟨h.le_issued, h.distinct⟩ _

theorem Numbered.withdraw (h : s.Numbered) (kind : CallKind) (n : Nat) :
    (s.withdraw kind n).Numbered :=
  ⟨fun x hx => h.le_issued x (List.mem_filter.1 hx).1, h.distinct.filter _⟩

theorem Moved.numbered (hm : s.Moved m s' ns) (h : s.Numbered) : s'.Numbered := by
  cases hm with
  | returned => exact ⟨(h.withdraw _ _).le_issued, (h.withdraw _ _).distinct⟩
  | returnedLate => exact (h.withdraw _ _).applyAll _
  | @handled b e _ =>
    have ht : (s.taken b).Numbered := by cases b <;> exact ⟨h.le_issued, h.distinct⟩
    exact ht.handle e
  | finished => exact Numbered.finish (s := s.taken .request) ⟨h.le_issued, h.distinct⟩
  | _ => exact ⟨h.le_issued, h.distinct⟩

theorem Numbered.countP_withdraw (h : s.Numbered) {kind : CallKind} {n : Nat} {c : Call}
    (ho : s.out? kind n = some c) (q : Call → Bool) :
    ((s.withdraw kind n).calls.map (·.2)).countP q + (if q c then 1 else 0) =
      (s.calls.map (·.2)).countP q := by
  obtain ⟨⟨n', c'⟩, hf, rfl⟩ := Option.map_eq_some_iff.1 ho
  obtain ⟨others, hall, hcount⟩ := countP_of_find? hf (q ∘ (·.2))
  -- no two calls of a kind have one number, so no other call is taken out
  have hnone : others = [] := by
    refine List.eq_nil_iff_forall_not_mem.2 fun x hx => ?_
    have hdistinct := hall ▸ h.distinct.filter _
    have hfirst := List.find?_some hf
    have hother := (List.mem_filter.1 (hall ▸ List.mem_cons_of_mem _ hx)).2
    simp only [Bool.and_eq_true, beq_iff_eq] at hfirst hother
    exact (List.pairwise_cons.1 hdistinct).1 x hx
      ⟨hfirst.1.trans hother.1.symm, hfirst.2.trans hother.2.symm⟩
  rw [hnone, List.countP_nil, Nat.add_zero] at hcount
  simp only [Station.withdraw, List.countP_map]
  exact hcount

end Station

/-! ### What is expected -/

namespace Passage

variable {p : Passage}

/-- **No call that is out gets lost** as long as the monitor is at work. -/
theorem expects_eq (hm : p.before.Moved p.move p.after p.notices) (hn : p.before.Numbered)
    (ha : p.after.alive = true) (q : Ticket → Bool) :
    p.after.expects q + (p.event?.bind Event.return?).toList.countP (q ·.ticket) =
      p.before.expects q + p.calls.countP (q ·.ticket) := by
  cases he : p.event? with
  | some e => exact expects_of_event hm he q
  | none =>
    rw [(quiet hm he).2, Option.bind_none, Option.toList_none, List.countP_nil, List.countP_nil]
    obtain ⟨s, m, s', ns⟩ := p
    change s.Moved m s' ns at hm
    change s.Numbered at hn
    cases hm with
    | @returned kind n r call _ ho ht =>
      -- the call is out no more, and its return waits
      have hw := hn.countP_withdraw ho (q ·.ticket)
      rw [← ht] at hw
      simp only [Station.expects, List.countP_append, List.countP_singleton]
      omega
    | returnedLate hd => simp [hd] at ha
    | handled he' => exact absurd (he'.symm.trans he) (by simp)
    | finished => simp at ha
    | _ => rfl

end Passage

namespace Keeper

variable {k k' : Keeper} {now : Nat} {e : Event} {l : List Effect}

/-- A call in the name of a caller is made for the request of this caller. -/
theorem Step.request_of_call (hs : k.Step now e k' l) {c : Call} {w : Nat}
    (hc : c ∈ l.filterMap Effect.call?) (hw : c.ticket.caller? = some w) :
    (e = .request w .load ∧ c = .load w) ∨
      ∃ x, e = .request w (.start x) ∧ c = .start w (k.board.epoch + 1) x := by
  cases hs with
  | load =>
    obtain rfl := by simpa [Effect.call?, List.filterMap_cons] using hc
    obtain rfl := Option.some.inj hw
    exact .inl ⟨rfl, rfl⟩
  | start =>
    obtain rfl := by simpa [Effect.call?, List.filterMap_cons] using hc
    obtain rfl := Option.some.inj hw
    exact .inr ⟨_, rfl, rfl⟩
  | stop | takenTwice | taken | takenOver | closed | tick | expired =>
    -- these calls are made in the name of the monitor
    obtain rfl := by simpa [Effect.call?, List.filterMap_cons] using hc
    cases hw
  | _ => simp [Effect.call?, List.filterMap_cons] at hc

end Keeper

namespace Course

variable {set : Settings} {origin : Moment} {ps : List Passage} {s : Station} {p : Passage}

theorem numbered (h : Course set origin ps s) : s.Numbered := by
  induction h with
  | start => exact ⟨fun _ hx => absurd hx List.not_mem_nil, .nil⟩
  | next _ _ hm ih => exact (Station.moved_of_move hm).numbered ih

theorem expects_le_calls (h : Course set origin ps s) (q : Ticket → Bool) :
    s.expects q ≤ (ps.flatMap (·.calls)).countP (q ·.ticket) := by
  induction h with
  | start => exact Nat.le_refl _
  | @next ps s m s' ns _ _ hm ih =>
    have hx := Passage.expects_le (Station.moved_of_move hm) q (p := ⟨s, m, s', ns⟩)
    rw [List.flatMap_append, List.countP_append, List.flatMap_singleton]
    exact Nat.le_trans (Nat.le_trans (Nat.le_add_right ..) hx) (Nat.add_le_add_right ih _)

/-- **A return that is handled belongs to a call that was made before.** -/
theorem exists_call_of_return (h : Course set origin ps p.before)
    (hm : p.before.Moved p.move p.after p.notices) {r : Return}
    (he : p.event? = some (.returned r)) : ∃ q ∈ ps, ∃ c ∈ q.calls, c.ticket = r.ticket := by
  have hpos := Passage.expects_pos hm he (q := (· == r.ticket)) (beq_self_eq_true _)
  have hle := h.expects_le_calls (· == r.ticket)
  obtain ⟨c, hc, ht⟩ := List.countP_pos_iff.1 (Nat.lt_of_lt_of_le hpos hle)
  obtain ⟨q, hq, hc⟩ := List.mem_flatMap.1 hc
  exact ⟨q, hq, c, hc, beq_iff_eq.1 ht⟩

theorem ne_zero_of_call {before after : List Passage}
    (h : Course set origin (before ++ p :: after) s) {c : Call} {w : Nat}
    (hc : c ∈ p.calls) (hw : c.ticket.caller? = some w) : w ≠ 0 := by
  obtain ⟨hb, -, -⟩ := h.upTo
  cases he : p.event? with
  | none =>
    rw [(Passage.quiet h.moved he).2] at hc
    cases hc
  | some e =>
    obtain ⟨l, hs, -, hcalls⟩ := Passage.step h.moved hb.sound.1 he
    rcases hs.request_of_call (hcalls ▸ hc) hw with ⟨rfl, -⟩ | ⟨x, rfl, -⟩
    · exact hb.ne_zero_of_mem_requests (Passage.mem_requests h.moved he) (by simp)
    · exact hb.ne_zero_of_mem_requests (Passage.mem_requests h.moved he) (by simp)

theorem ne_zero_of_return (h : Course set origin ps s) (hp : p ∈ ps) {r : Return} {w : Nat}
    (he : p.event? = some (.returned r)) (hw : Station.callerOf r = some w) : w ≠ 0 := by
  obtain ⟨before, after, rfl⟩ := List.append_of_mem hp
  obtain ⟨q, hq, c, hc, ht⟩ := h.upTo.1.exists_call_of_return h.moved he
  obtain ⟨front, back, rfl⟩ := List.append_of_mem hq
  rw [List.append_assoc, List.cons_append] at h
  exact h.ne_zero_of_call hc (by rw [ht, caller?_ticket, hw])

end Course

end Overseer.Monitor
