import Mathlib.Data.List.DropRight
import Mathlib.Data.List.Induction
import Overseer.Monitor.Journal

/-!
# The journal beside a log without bounds

A journal has room for so many entries, and drops the oldest one when another one comes.  Beside it
stands the record of everything that was ever put into it (`JournalOp.record`), each entry with its
place in the record as its number.  A journal holds the end of its record: as much of what came
since it was cleared as it has room for (`Journal.Keeps`).

* `Journal.Keeps.next` : every operation keeps it so.  Where the journal is full, the entry that
  goes is the first one of the end of the record, and the new one is behind its last.
* `Journal.refines_unbounded` : **what a journal holds after any operations**, for every capacity.
-/

namespace Overseer.Monitor

open Overseer.Batch Overseer.Time

/-- An operation on a journal. -/
inductive JournalOp where
  | append (e : LogEvent) (at_ : Moment)
  | clear
  /-- The newest entries are read. -/
  | tail (limit : Nat)

namespace JournalOp

/-- The event that is put into the journal, with the moment at which it came. -/
def line? : JournalOp → Option (LogEvent × Moment)
  | .append e at_ => some (e, at_)
  | _ => none

/-- The journal is cleared. -/
def isClear : JournalOp → Bool
  | .clear => true
  | _ => false

/-- All that was ever put into the journal, in order.  An entry has the number of those before
it. -/
def record (ops : List JournalOp) : List LogEntry :=
  (ops.filterMap line?).mapIdx fun i l => ⟨i, l.1, l.2⟩

/-- How many entries there were since the journal was cleared, or from the beginning. -/
def fresh (ops : List JournalOp) : Nat :=
  ((ops.rtakeWhile fun op => !op.isClear).filterMap line?).length

variable (ops : List JournalOp)

theorem record_of_line? {op : JournalOp} (h : op.line? = none) :
    record (ops ++ [op]) = record ops := by
  simp [record, h]

theorem record_append (e : LogEvent) (at_ : Moment) :
    record (ops ++ [.append e at_]) = record ops ++ [⟨(record ops).length, e, at_⟩] := by
  have hline : [append e at_].filterMap line? = [(e, at_)] := rfl
  rw [record, List.filterMap_append, hline, List.mapIdx_concat, record, List.length_mapIdx]

theorem fresh_clear : fresh (ops ++ [.clear]) = 0 := by
  rw [fresh, List.rtakeWhile_concat_neg _ _ _ (by simp [isClear]), List.filterMap_nil,
    List.length_nil]

theorem fresh_append (e : LogEvent) (at_ : Moment) :
    fresh (ops ++ [.append e at_]) = fresh ops + 1 := by
  rw [fresh, List.rtakeWhile_concat_pos _ _ _ rfl, List.filterMap_append, List.length_append]
  rfl

theorem fresh_tail (limit : Nat) : fresh (ops ++ [.tail limit]) = fresh ops := by
  rw [fresh, List.rtakeWhile_concat_pos _ _ _ rfl, List.filterMap_append, List.length_append]
  rfl

theorem fresh_le : fresh ops ≤ (record ops).length := by
  rw [fresh, record, List.length_mapIdx]
  exact ((List.rtakeWhile_suffix _ _).sublist.filterMap _).length_le

theorem seq_record : (record ops).map (·.seq) = List.range (record ops).length := by
  refine List.ext_getElem (by simp) ?_
  intro i h h'
  simp [record]

end JournalOp

namespace Journal

open JournalOp

/-- How many log lines of the run there were. -/
def count (j : Journal) : Nat := j.size + j.evicted

theorem count_append (j : Journal) (hc : 1 ≤ j.capacity) (e : LogEvent) (at_ : Moment) :
    (j.append e at_).count = j.count + 1 := by
  unfold append count size
  by_cases hf : j.entries.length = j.capacity
  · simp [hf]
    omega
  · simp [hf]
    omega

/-- Where an entry comes behind the last one, the first one goes if there is no room. -/
theorem entries_append (j : Journal) (hc : 1 ≤ j.capacity) (hle : j.size ≤ j.capacity)
    (e : LogEvent) (at_ : Moment) :
    (j.append e at_).entries = (j.entries ++ [j.entryOf e at_]).rtake j.capacity := by
  unfold size at hle
  unfold append
  by_cases hf : j.entries.length = j.capacity
  · have hne : j.entries ≠ [] := by
      intro hnil
      rw [hnil, List.length_nil] at hf
      omega
    simp [hf, List.rtake, List.tail_append_of_ne_nil hne]
  · have hroom : j.entries.length + 1 - j.capacity = 0 := by omega
    simp [hf, hroom, List.rtake]

/-- The journal after an operation. -/
def next (j : Journal) : JournalOp → Journal
  | .append e at_ => j.append e at_
  | .clear => j.clear
  | .tail _ => j

/-- The journal after operations in order. -/
def after (j : Journal) (ops : List JournalOp) : Journal := ops.foldl next j

theorem after_append (j : Journal) (ops : List JournalOp) (op : JournalOp) :
    j.after (ops ++ [op]) = (j.after ops).next op := List.foldl_concat ..

/-- A journal with room for `room` entries holds the end of the record of these operations. -/
structure Keeps (room : Nat) (ops : List JournalOp) (j : Journal) : Prop where
  capacity : j.capacity = room
  nextSeq : j.nextSeq = (record ops).length
  entries : j.entries = (record ops).rtake (min (fresh ops) room)
  count : j.count = fresh ops

variable {room : Nat} {ops : List JournalOp} {j : Journal}

theorem Keeps.size (h : j.Keeps room ops) : j.size = min (fresh ops) room := by
  have hle := fresh_le ops
  rw [Journal.size, h.entries, List.rtake, List.length_drop]
  omega

theorem rtake_rtake {α : Type} (l : List α) (m n : Nat) :
    (l.rtake m).rtake n = l.rtake (min n m) := by
  simp only [List.rtake_eq_reverse_take_reverse, List.reverse_reverse, List.take_take]

/-- **One entry more** stands behind the end of the record, of which as much stays as there is room
for. -/
theorem Keeps.append (h : j.Keeps room ops) (hroom : 1 ≤ room) (e : LogEvent) (at_ : Moment) :
    (j.append e at_).Keeps room (ops ++ [.append e at_]) := by
  have hcap : 1 ≤ j.capacity := h.capacity ▸ hroom
  have hle : j.size ≤ j.capacity := by
    rw [h.size, h.capacity]
    exact Nat.min_le_right ..
  refine ⟨h.capacity, ?_, ?_, ?_⟩
  · rw [record_append, List.length_append]
    exact congrArg (· + 1) h.nextSeq
  · rw [entries_append j hcap hle, record_append, fresh_append, entryOf, h.nextSeq, h.entries,
      h.capacity, ← List.rtake_concat_succ, rtake_rtake]
    congr 1
    omega
  · rw [count_append j hcap, h.count, fresh_append]

theorem Keeps.clear (h : j.Keeps room ops) : j.clear.Keeps room (ops ++ [.clear]) := by
  refine ⟨h.capacity, ?_, ?_, (fresh_clear ops).symm⟩
  · rw [record_of_line? ops rfl]
    exact h.nextSeq
  · rw [fresh_clear, Nat.zero_min, List.rtake_zero]
    rfl

/-- **Every operation keeps the end of the record in the journal.** -/
theorem Keeps.next (h : j.Keeps room ops) (hroom : 1 ≤ room) (op : JournalOp) :
    (j.next op).Keeps room (ops ++ [op]) := by
  cases op with
  | append e at_ => exact h.append hroom e at_
  | clear => exact h.clear
  | tail limit =>
    have hrecord : record (ops ++ [.tail limit]) = record ops := record_of_line? ops rfl
    have hfresh : fresh (ops ++ [.tail limit]) = fresh ops := fresh_tail ops limit
    exact ⟨h.capacity, hrecord ▸ h.nextSeq, hrecord ▸ hfresh ▸ h.entries, hfresh ▸ h.count⟩

theorem keeps_after (capacity : Nat) (ops : List JournalOp) :
    ((withCapacity capacity).after ops).Keeps (max capacity 1) ops := by
  induction ops using List.reverseRecOn with
  | nil => exact ⟨rfl, rfl, by simp [after, withCapacity, record], rfl⟩
  | append_singleton ops op ih =>
    rw [after_append]
    exact ih.next (Nat.le_max_right ..) op

/-- **A journal is an unbounded log of which only the end is kept.**  After any operations, for
every capacity:

* its entries are the newest of all that were ever put into it, in their order: as many as came
  since it was cleared, or as it has room for if these are more, and it has room for one at least;
* their numbers are their places among all that were ever put into it, one after the other;
* what was dropped is what came since it was cleared and is not kept;
* so many of its newest entries are its last ones, or all if there are not so many. -/
theorem refines_unbounded (capacity : Nat) (ops : List JournalOp) :
    let j := (withCapacity capacity).after ops
    j.entries = (record ops).rtake (min (fresh ops) (max capacity 1)) ∧
      j.size = min (fresh ops) (max capacity 1) ∧
      j.entries.map (·.seq) = List.range' ((record ops).length - j.size) j.size ∧
      j.evicted = fresh ops - j.size ∧
      ∀ k, j.tail k = j.entries.rtake (min k j.size) := by
  intro j
  have h : j.Keeps (max capacity 1) ops := keeps_after capacity ops
  have hsize := h.size
  refine ⟨h.entries, hsize, ?_, ?_, ?_⟩
  · have hle := fresh_le ops
    rw [h.entries, ← hsize, List.rtake, List.map_drop, seq_record, List.range_eq_range',
      List.drop_range']
    congr 1 <;> omega
  · have hcount := h.count
    rw [Journal.count] at hcount
    omega
  · intro k
    rw [tail, List.rtake, Journal.size]
    congr 1
    omega

/-- A journal with room for two entries, after three: the first one is dropped.  It is cleared, and
the next entry has the number three, though its own clock says that it is the oldest. -/
example :
    let line (s : String) (n : Int) : JournalOp := .append ⟨"a", s, .info, some n⟩ ⟨0, 0⟩
    let full := (withCapacity 2).after [line "one" 30, line "two" 20, line "three" 10]
    full.entries.map (·.event.message) = ["two", "three"] ∧ full.evicted = 1 ∧
      ((full.after [.clear, line "four" 0]).entries.map (·.seq)) = [3] := by decide +kernel

end Journal

end Overseer.Monitor
