import Mathlib.Data.List.Destutter
import Mathlib.Data.List.Nodup
import Overseer.Console.Render
import Overseer.Proofs.Table

/-!
# What a screen shows of views

A screen remembers the lifecycle of its last headline and, for each account, status and message of
its last line, and shows what differs from that.  So of the rows that come for an account it shows
the first one of every stretch that agrees on status and message, and of the views the first one of
every stretch that agrees on the lifecycle; `onsets` takes these out of a list.

The line of a row also says whether there is a detail, and the headline names the run.  Neither is
remembered, so they can be out of date.

* `Screen.told_rows`, `Screen.told_headlines` : what is shown, from any screen and over any views.
* `Screen.shows_remembered` : **what is shown is current as far as it is remembered**, and a view
  that comes again shows nothing.
* `Screen.misses_unremembered` : an account gets a detail in another run, and the screen shows
  nothing of it.
-/

namespace Overseer.Console

open Overseer.Batch Overseer.Monitor

/-! ### Stretches of a list -/

section Onsets

variable {α κ : Type} {key : α → κ} {last : Option κ}

/-- The last key of a list, or `last` if it is empty. -/
def lastKey (key : α → κ) (last : Option κ) (l : List α) : Option κ :=
  (l.getLast?.map key).or last

theorem lastKey_cons (x : α) (l : List α) :
    lastKey key last (x :: l) = lastKey key (some (key x)) l := by
  rw [lastKey, lastKey, List.getLast?_cons]
  cases l.getLast? <;> rfl

variable [DecidableEq κ]

/-- The first one of every stretch that agrees on a key.  A stretch may have begun before, with the
key `last`. -/
def onsets (key : α → κ) (last : Option κ) : List α → List α
  | [] => []
  | x :: rest =>
    if last = some (key x) then onsets key last rest else x :: onsets key (some (key x)) rest

theorem onsets_append (l m : List α) :
    onsets key last (l ++ m) = onsets key last l ++ onsets key (lastKey key last l) m := by
  induction l generalizing last with
  | nil => rfl
  | cons x rest ih =>
    rw [List.cons_append, onsets, onsets, lastKey_cons]
    split
    · next h => rw [ih, h]
    · rw [ih, List.cons_append]

/-- **The last onset has the last key.** -/
theorem lastKey_onsets (l : List α) :
    lastKey key last (onsets key last l) = lastKey key last l := by
  induction l generalizing last with
  | nil => rfl
  | cons x rest ih =>
    rw [onsets, lastKey_cons]
    split
    · next h => rw [ih, h]
    · rw [lastKey_cons, ih]

theorem exists_last_onset (key : α → κ) {l : List α} {x : α} (h : l.getLast? = some x) :
    ∃ y, (onsets key none l).getLast? = some y ∧ key y = key x := by
  have hkey : lastKey key none (onsets key none l) = lastKey key none l := lastKey_onsets l
  rw [lastKey, lastKey, h, Option.or_none, Option.or_none] at hkey
  exact Option.map_eq_some_iff.1 hkey

theorem onsets_destutter' (x : α) (l : List α) :
    x :: onsets key (some (key x)) l = l.destutter' (fun a b => key a ≠ key b) x := by
  induction l generalizing x with
  | nil => rfl
  | cons y rest ih =>
    rw [onsets, List.destutter'_cons]
    by_cases h : key x = key y
    · rw [if_pos (congrArg some h), if_neg (not_not.2 h), ih]
    · rw [if_neg (by simpa using h), if_pos h, ih]

/-- From the beginning, the onsets are the list without its stutter. -/
theorem onsets_none (l : List α) :
    onsets key none l = l.destutter fun a b => key a ≠ key b := by
  cases l with
  | nil => rfl
  | cons x rest =>
    rw [onsets, if_neg nofun, onsets_destutter']
    rfl

end Onsets

/-- What a line on the screen is about. -/
inductive Shown where
  | headline (v : View)
  | row (r : Row)
  | counters (c : Counters)

namespace Shown

/-- The line. -/
def text : Shown → String
  | .headline v => Screen.headline v
  | .row r => Screen.rowLine r
  | .counters c => countersLine c

/-- The row, if the line is about the account with this id. -/
def row? (id : String) : Shown → Option Row
  | .row r => if r.id = id then some r else none
  | _ => none

theorem id_of_row? {id : String} {x : Shown} {r : Row} (h : x.row? id = some r) : r.id = id := by
  cases x with
  | row q =>
    rw [row?] at h
    split at h
    · next hid => exact Option.some.inj h ▸ hid
    · cases h
  | _ => cases h

/-- The view whose headline it is. -/
def headline? : Shown → Option View
  | .headline v => some v
  | _ => none

end Shown

/-- What is remembered of a row. -/
def rowKey (r : Row) : Status × String := (r.status, r.message)

namespace Screen

variable {s : Screen} {v : View} {r : Row} {id : String}

/-! ### One view -/

/-- The rows that are shown, of rows in order. -/
def newRows (s : Screen) : List Row → List Row
  | [] => []
  | r :: rest =>
    if s.rows.get? r.id = some (rowKey r) then s.newRows rest
    else r :: (s.showRow r).1.newRows rest

/-- The rows of an account, of rows in order. -/
def rowsOf (id : String) (l : List Row) : List Row := l.filter (·.id == id)

theorem rowsOf_append (id : String) (l m : List Row) :
    rowsOf id (l ++ m) = rowsOf id l ++ rowsOf id m := List.filter_append ..

theorem showRow_known (h : s.rows.get? r.id = some (rowKey r)) : s.showRow r = (s, []) := if_pos h

theorem showRow_new (h : s.rows.get? r.id ≠ some (rowKey r)) :
    s.showRow r = ({ s with rows := s.rows.insert r.id (rowKey r) }, [rowLine r]) := if_neg h

theorem get?_showRow (s : Screen) (r : Row) (id : String) :
    (s.showRow r).1.rows.get? id = if r.id = id then some (rowKey r) else s.rows.get? id := by
  by_cases h : s.rows.get? r.id = some (rowKey r)
  · rw [showRow_known h]
    split
    · next hid => rw [← hid, h]
    · rfl
  · rw [showRow_new h]
    exact Table.get?_insert ..

theorem showRows_snd (s : Screen) (l : List Row) :
    (s.showRows l).2 = (s.newRows l).map rowLine := by
  induction l generalizing s with
  | nil => rfl
  | cons r rest ih =>
    rw [showRows, newRows]
    dsimp only
    split
    · next h => rw [showRow_known h, ih, List.nil_append]
    · next h => rw [ih, showRow_new h, List.map_cons, List.singleton_append]

theorem lifecycle_showRows (s : Screen) (l : List Row) :
    (s.showRows l).1.lifecycle = s.lifecycle := by
  induction l generalizing s with
  | nil => rfl
  | cons r rest ih =>
    refine (ih _).trans ?_
    unfold showRow
    split <;> rfl

/-- **Of each account the last row is remembered.** -/
theorem get?_showRows (s : Screen) (l : List Row) (id : String) :
    (s.showRows l).1.rows.get? id = lastKey rowKey (s.rows.get? id) (rowsOf id l) := by
  induction l generalizing s with
  | nil => rfl
  | cons r rest ih =>
    refine (ih _).trans ?_
    rw [get?_showRow, rowsOf, rowsOf]
    by_cases h : r.id = id
    · rw [if_pos h, List.filter_cons_of_pos (by simpa using h), lastKey_cons]
    · rw [if_neg h, List.filter_cons_of_neg (by simpa using h)]

/-- **Of each account the onsets are shown.** -/
theorem rowsOf_newRows (s : Screen) (l : List Row) (id : String) :
    rowsOf id (s.newRows l) = onsets rowKey (s.rows.get? id) (rowsOf id l) := by
  induction l generalizing s with
  | nil => rfl
  | cons r rest ih =>
    rw [newRows]
    by_cases hid : r.id = id
    · subst hid
      have hrows : ∀ l, rowsOf r.id (r :: l) = r :: rowsOf r.id l := by
        intro l
        exact List.filter_cons_of_pos (by simp)
      rw [hrows, onsets]
      split
      · rw [ih]
      · rw [hrows, ih, get?_showRow, if_pos rfl]
    · have hrows : ∀ l, rowsOf id (r :: l) = rowsOf id l := by
        intro l
        exact List.filter_cons_of_neg (by simpa using hid)
      -- shown or not, the row of another account leaves this one alone
      rw [hrows]
      split
      · rw [ih]
      · rw [hrows, ih, get?_showRow, if_neg hid]

/-- The headline and the rows that a view shows. -/
def fresh (s : Screen) (v : View) : List Shown :=
  (if s.lifecycle = some v.lifecycle then [] else [.headline v]) ++ (s.newRows v.rows).map .row

/-- All that a view shows, in order. -/
def shown (s : Screen) (v : View) : List Shown :=
  if (s.fresh v).isEmpty then [] else s.fresh v ++ [.counters v.counters]

theorem lifecycle_showHeadline (s : Screen) (v : View) :
    (s.showHeadline v).1.lifecycle = some v.lifecycle := by
  unfold showHeadline
  split
  · next h => exact h
  · rfl

theorem rows_showHeadline (s : Screen) (v : View) : (s.showHeadline v).1.rows = s.rows := by
  unfold showHeadline
  split <;> rfl

/-- What rows are shown has to do with the rows that are remembered, and not with the headline. -/
theorem newRows_congr {t : Screen} (h : t.rows = s.rows) (l : List Row) :
    t.newRows l = s.newRows l := by
  induction l generalizing s t with
  | nil => rfl
  | cons r rest ih =>
    have hrow : (t.showRow r).1.rows = (s.showRow r).1.rows := by
      unfold showRow
      rw [h]
      split
      · exact h
      · rfl
    rw [newRows, newRows, h, ih h, ih hrow]

theorem changes_snd (s : Screen) (v : View) : (s.changes v).2 = (s.shown v).map Shown.text := by
  have hbody : ((s.showHeadline v).1.showRows v.rows).2 = (s.newRows v.rows).map rowLine := by
    rw [showRows_snd, newRows_congr (rows_showHeadline s v)]
  have hlines : (s.showHeadline v).2 ++ ((s.showHeadline v).1.showRows v.rows).2 =
      (s.fresh v).map Shown.text := by
    rw [hbody, fresh, List.map_append, List.map_map, showHeadline]
    split <;> rfl
  rw [changes, shown]
  simp only [hlines, List.isEmpty_map]
  split
  · rfl
  · rw [List.map_append]
    rfl

theorem lifecycle_changes (s : Screen) (v : View) :
    (s.changes v).1.lifecycle = some v.lifecycle :=
  (lifecycle_showRows ..).trans (lifecycle_showHeadline s v)

theorem get?_changes (s : Screen) (v : View) (id : String) :
    (s.changes v).1.rows.get? id = lastKey rowKey (s.rows.get? id) (rowsOf id v.rows) := by
  rw [changes, get?_showRows, rows_showHeadline]

theorem filterMap_shown {β : Type} {g : Shown → Option β} (hg : ∀ c, g (.counters c) = none)
    (s : Screen) (v : View) : (s.shown v).filterMap g = (s.fresh v).filterMap g := by
  rw [shown]
  split
  · next h => rw [List.isEmpty_iff.1 h]
  · rw [List.filterMap_append, List.filterMap_cons_none (hg _), List.filterMap_nil, List.append_nil]

theorem rows_shown (s : Screen) (v : View) (id : String) :
    (s.shown v).filterMap (Shown.row? id) =
      onsets rowKey (s.rows.get? id) (rowsOf id v.rows) := by
  have hhead : (if s.lifecycle = some v.lifecycle then [] else [Shown.headline v]).filterMap
      (Shown.row? id) = [] := by split <;> rfl
  have hrow : Shown.row? id ∘ Shown.row = Option.guard fun r => r.id == id := by
    funext r
    simp [Shown.row?, Option.guard]
  rw [filterMap_shown (fun _ => rfl), fresh, List.filterMap_append, hhead, List.nil_append,
    List.filterMap_map, hrow, List.filterMap_eq_filter, ← rowsOf, rowsOf_newRows]

theorem headlines_shown (s : Screen) (v : View) :
    (s.shown v).filterMap Shown.headline? = onsets View.lifecycle s.lifecycle [v] := by
  have hbody : ((s.newRows v.rows).map Shown.row).filterMap Shown.headline? = [] := by
    rw [List.filterMap_map, List.filterMap_eq_nil_iff]
    intro r _
    rfl
  rw [filterMap_shown (fun _ => rfl), fresh, List.filterMap_append, hbody, List.append_nil, onsets]
  split <;> rfl

/-! ### Views in order -/

/-- The screen after views in order. -/
def after (s : Screen) (vs : List View) : Screen := vs.foldl (fun s v => (s.changes v).1) s

/-- All that is shown of views in order. -/
def told (s : Screen) : List View → List Shown
  | [] => []
  | v :: rest => s.shown v ++ (s.changes v).1.told rest

/-- What is printed for each of some views. -/
def printed (s : Screen) : List View → List (List String)
  | [] => []
  | v :: rest => (s.changes v).2 :: (s.changes v).1.printed rest

theorem flatten_printed (s : Screen) (vs : List View) :
    (s.printed vs).flatten = (s.told vs).map Shown.text := by
  induction vs generalizing s with
  | nil => rfl
  | cons v rest ih => rw [printed, told, List.flatten_cons, ih, changes_snd, List.map_append]

/-- **Of the rows of an account the onsets are shown**, over views in order. -/
theorem told_rows (s : Screen) (vs : List View) (id : String) :
    (s.told vs).filterMap (Shown.row? id) =
      onsets rowKey (s.rows.get? id) (rowsOf id (vs.flatMap (·.rows))) := by
  induction vs generalizing s with
  | nil => rfl
  | cons v rest ih =>
    rw [told, List.filterMap_append, rows_shown, ih, get?_changes, List.flatMap_cons, rowsOf_append,
      onsets_append]

/-- **Of the views the onsets get a headline.** -/
theorem told_headlines (s : Screen) (vs : List View) :
    (s.told vs).filterMap Shown.headline? = onsets View.lifecycle s.lifecycle vs := by
  induction vs generalizing s with
  | nil => rfl
  | cons v rest ih =>
    rw [told, List.filterMap_append, headlines_shown, ih, lifecycle_changes]
    exact (onsets_append [v] rest).symm

/-! ### What is current -/

theorem toString_inj {m n : Nat} : toString m = toString n ↔ m = n := by
  rw [Nat.toString_eq_ofList_toDigits, Nat.toString_eq_ofList_toDigits, String.ofList_inj]
  constructor
  · intro h
    rw [← Nat.ofDigitChars_ten_toDigits (n := m), h, Nat.ofDigitChars_ten_toDigits]
  · rintro rfl
    rfl

theorem headline_eq_iff {w : View} (h : w.lifecycle = v.lifecycle) :
    headline w = headline v ↔ w.epoch = v.epoch := by
  simp only [headline, h, String.append_left_inj, String.append_right_inj, toString_inj]

theorem rowLine_eq_iff {q : Row} (hid : q.id = r.id) (hkey : rowKey q = rowKey r) :
    rowLine q = rowLine r ↔ q.detail.isSome = r.detail.isSome := by
  obtain ⟨hstatus, hmessage⟩ := Prod.mk.injEq .. ▸ hkey
  simp only [rowLine, hid, hstatus, hmessage, String.append_right_inj]
  cases q.detail <;> cases r.detail <;> simp

/-- A row of a view with distinct ids is the only one of its account. -/
theorem getLast?_rowsOf {l : List Row} (hd : (l.map (·.id)).Nodup) (hr : r ∈ l) :
    (rowsOf r.id l).getLast? = some r := by
  have hmem : r ∈ rowsOf r.id l := List.mem_filter.2 ⟨hr, beq_self_eq_true _⟩
  obtain ⟨q, hq⟩ := Option.isSome_iff_exists.1 (List.getLast?_isSome.2 (List.ne_nil_of_mem hmem))
  obtain ⟨hql, hid⟩ := List.mem_filter.1 (List.mem_of_getLast? hq)
  rw [hq, List.inj_on_of_nodup_map hd hql hr (by simpa using hid)]

theorem changes_of_remembered (hl : s.lifecycle = some v.lifecycle)
    (hr : ∀ r ∈ v.rows, s.rows.get? r.id = some (rowKey r)) : s.changes v = (s, []) := by
  have hhead : s.showHeadline v = (s, []) := if_pos hl
  have hrows : ∀ l : List Row, (∀ r ∈ l, s.rows.get? r.id = some (rowKey r)) →
      s.showRows l = (s, []) := by
    intro l h
    induction l with
    | nil => rfl
    | cons r rest ih =>
      obtain ⟨hr, hrest⟩ := List.forall_mem_cons.1 h
      rw [showRows]
      simp only [showRow_known hr, ih hrest, List.nil_append]
  rw [changes]
  simp only [hhead, hrows v.rows hr, List.append_nil, List.isEmpty_nil, if_true]

/-- **A view that comes again shows nothing.** -/
theorem changes_changes (s : Screen) (hd : (v.rows.map (·.id)).Nodup) :
    (s.changes v).1.changes v = ((s.changes v).1, []) := by
  refine changes_of_remembered (lifecycle_changes s v) ?_
  intro r hr
  rw [get?_changes, lastKey, getLast?_rowsOf hd hr]
  rfl

/-- How what was shown stands to the view `v` that came last, after the views `vs`. -/
structure Current (vs : List View) (v : View) : Prop where
  /-- Each line that is printed is the one of something that is shown. -/
  lines : (empty.printed (vs ++ [v])).flatten = (empty.told (vs ++ [v])).map Shown.text
  /-- Of the rows of an account those are shown that differ in status or message from the one
  before. -/
  rows : ∀ id, (empty.told (vs ++ [v])).filterMap (Shown.row? id) =
    (rowsOf id ((vs ++ [v]).flatMap (·.rows))).destutter fun a b => rowKey a ≠ rowKey b
  /-- Of the views those get a headline that differ in the lifecycle from the one before. -/
  headlines : (empty.told (vs ++ [v])).filterMap Shown.headline? =
    (vs ++ [v]).destutter fun a b => a.lifecycle ≠ b.lifecycle
  /-- The last line about an account has its status and its message; it is the line of its row
  exactly if it also tells the truth about the detail. -/
  row : ∀ r ∈ v.rows, ∃ q,
    ((empty.told (vs ++ [v])).filterMap (Shown.row? r.id)).getLast? = some q ∧
    q.id = r.id ∧ q.status = r.status ∧ q.message = r.message ∧
    (rowLine q = rowLine r ↔ q.detail.isSome = r.detail.isSome)
  /-- The last headline has the lifecycle; it is the one of the view exactly if it also names the
  run. -/
  headline : ∃ w, ((empty.told (vs ++ [v])).filterMap Shown.headline?).getLast? = some w ∧
    w.lifecycle = v.lifecycle ∧ (headline w = headline v ↔ w.epoch = v.epoch)
  /-- The view shows nothing when it comes again. -/
  again : (empty.after (vs ++ [v])).changes v = (empty.after (vs ++ [v]), [])

/-- **What is shown is current as far as it is remembered.**  Over any views, in any order, whatever
was passed over between them: the last line about each account of the last view has its status and
its message, and the last headline its lifecycle.  Whether there is a detail and which run it is are
told with them, but not kept up to date. -/
theorem shows_remembered (vs : List View) {v : View} (hd : (v.rows.map (·.id)).Nodup) :
    Current vs v := by
  refine ⟨flatten_printed .., ?_, ?_, ?_, ?_, ?_⟩
  · intro id
    rw [told_rows, ← onsets_none]
    rfl
  · rw [told_headlines, ← onsets_none]
    rfl
  · intro r hr
    have hnow : (rowsOf r.id ((vs ++ [v]).flatMap (·.rows))).getLast? = some r := by
      rw [List.flatMap_append, rowsOf_append, List.flatMap_singleton, List.getLast?_append,
        getLast?_rowsOf hd hr]
      rfl
    obtain ⟨q, hq, hkey⟩ := exists_last_onset rowKey hnow
    have hq : ((empty.told (vs ++ [v])).filterMap (Shown.row? r.id)).getLast? = some q := by
      rw [told_rows]
      exact hq
    obtain ⟨x, -, hx⟩ := List.mem_filterMap.1 (List.mem_of_getLast? hq)
    have hid := Shown.id_of_row? hx
    exact ⟨q, hq, hid, congrArg Prod.fst hkey, congrArg Prod.snd hkey, rowLine_eq_iff hid hkey⟩
  · have hnow : (vs ++ [v]).getLast? = some v := List.getLast?_concat ..
    obtain ⟨w, hw, hkey⟩ := exists_last_onset View.lifecycle hnow
    refine ⟨w, ?_, hkey, headline_eq_iff hkey⟩
    rw [told_headlines]
    exact hw
  · have hafter : empty.after (vs ++ [v]) = ((empty.after vs).changes v).1 := List.foldl_concat ..
    rw [hafter]
    exact changes_changes _ hd

/-- A view of one account that is done, in a run that is over. -/
def doneView (epoch : Nat) (detail : Option String) : View :=
  let r : Row := ⟨"a", "A", .success, "done", detail⟩
  ⟨.idle, epoch, [r], .tally [r.status], [], 0, 0⟩

/-- The account gets a detail when it is done already: its last line has the right status and
message, without the word of the detail. -/
theorem shows_remembered_of_late_detail :
    ((doneView 1 (some "x")).rows.map (·.id)).Nodup ∧
      Current [doneView 1 none] (doneView 1 (some "x")) ∧
      ((empty.told [doneView 1 none, doneView 1 (some "x")]).filterMap
        (Shown.row? "a")).getLast?.map rowLine = some "a              success  done" := by
  have hd : ((doneView 1 (some "x")).rows.map (·.id)).Nodup := List.nodup_singleton _
  have h := shows_remembered [doneView 1 none] hd
  refine ⟨hd, h, ?_⟩
  rw [← List.singleton_append, h.rows "a"]
  decide +kernel

/-- **What is not remembered is missed.**  The next view is of another run, and the account has got
a detail in it.  Nothing is shown of that view, though the line of the account and the headline are
other ones now. -/
theorem misses_unremembered :
    empty.printed [doneView 1 none, doneView 2 (some "x")] =
        [["== run 1 is idle ==", "a              success  done",
          "processed 1/1 | running 0 | success 1 | failed 0 | pending 0"], []] ∧
      (doneView 2 (some "x")).rows.map rowLine =
        ["a              success  done (detail received)"] ∧
      headline (doneView 2 (some "x")) = "== run 2 is idle ==" := by
  decide +kernel

end Screen

end Overseer.Console
