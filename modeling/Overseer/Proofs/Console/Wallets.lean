import Overseer.Console.Wallets
import Overseer.Proofs.Batch.Accounts
import Overseer.Proofs.Json.Rendered
import Overseer.Proofs.Json.Whole

/-!
# What is taken from the wallet file

The file lists records, and a record is asked for an id and a name.  Nothing else in it has a say in
what comes of the file, be it accounts or a failure; and whatever the spelling of the records, the
accounts are in one normal form, which is written and read again without change.

* `read_eq` : what comes of a file depends on its records alone.
* `secrets_unread` : **what else there is in the records of two files makes no difference**.
* `read_written` : accounts in normal form read back.
* `normalises` : **reading puts the records into normal form**, one account for each, in order.
-/

namespace Overseer.Console.Wallets

open Batch Host Json Text

variable {file : FileContent} {records : List Node} {accounts : List Account}

/-! ### The records of a file -/

/-- A file lists records.  There are none without a file, and none in a file of blanks. -/
inductive Lists (file : FileContent) : List Node → Prop
  | missing (h : file.text = .ok none) : Lists file []
  | blank {text : String} (h : file.text = .ok (some text)) (hb : blank text = true) :
      Lists file []
  | list {text : String} {records : List Node} (h : file.text = .ok (some text))
      (hj : Json.read (Utf8.encode text) = ⟨.array records, true⟩) : Lists file records

theorem Lists.sound (h : Lists file records) : ∀ n ∈ records, n.sound = true := by
  cases h with
  | missing | blank => exact List.forall_mem_nil _
  | list _ hj =>
    have hsound := sound_of_closed (congrArg Document.closed hj)
    rw [hj, Node.sound, soundItems_iff] at hsound
    exact hsound

theorem Lists.sound_members {l : List (List (Option String × Node))}
    (h : Lists file (l.map .object)) : ∀ x ∈ l, ∀ z ∈ x, z.2.sound = true := by
  intro x hx
  have hobject := h.sound _ (List.mem_map_of_mem hx)
  rw [Node.sound, soundMembers_iff] at hobject
  exact hobject

/-- **What comes of a file depends on its records alone.** -/
theorem read_eq (h : Lists file records) :
    read file = ((readEach Account.read Mode.direct.inner records []).map (·.map named)).mapError
      .invalid := by
  cases h with
  | missing h =>
    rw [read, h]
    rfl
  | blank h hb =>
    rw [read, h]
    simp only [parse, if_pos hb]
    rfl
  | @list text _ h hj =>
    -- a text of blanks is no list
    have hcontent : ¬blank text = true := by
      intro hb
      have := closed_of_blank hb
      rw [hj] at this
      cases this
    have hlist : (readList Account.read).readDocument (Utf8.encode text) =
        readEach Account.read Mode.direct.inner records [] := by
      simp only [Decoder.readDocument, hj, readList]
      cases readEach Account.read Mode.direct.inner records [] <;> rfl
    rw [read, h]
    simp only [parse, if_neg hcontent, hlist]

theorem lists_write {items : List Value} (h : integralItems items) :
    Lists (.bytes (Value.array items).write) (nodes items) := by
  have whole : (Value.array items).integral := by
    rw [Value.integral]
    exact h
  have hread := read_write_of_ne_number (v := .array items) nofun whole
  rw [← encode_render] at hread
  have htext : FileContent.text (.bytes (Value.array items).write) =
      .ok (some (Value.array items).render) := by
    rw [FileContent.text, ← encode_render, Utf8.decode_encode]
  exact .list htext hread

theorem exists_lists (h : read file = .ok accounts) : ∃ records, Lists file records := by
  rw [read] at h
  split at h
  · cases h
  · next ht => exact ⟨[], .missing ht⟩
  · next text ht =>
    by_cases hb : blank text = true
    · exact ⟨[], .blank ht hb⟩
    have hparse := mapError_eq_ok h
    rw [parse, if_neg hb] at hparse
    obtain ⟨_, hdocument, -⟩ := map_eq_ok hparse
    obtain ⟨n, hn, hlist⟩ := readDocument_eq_ok hdocument
    obtain ⟨items, rfl, -⟩ := readList_eq_ok hlist
    exact ⟨items, .list ht hn⟩

/-! ### Secrets -/

/-- **What else there is in the records of two files makes no difference.**  The files list objects
that differ only in members that are foreign to accounts, and the same accounts come of both, or the
same failure.  A key that is no text is not foreign: with it the record cannot be read. -/
theorem secrets_unread {file' : FileContent} {a b : List (List (Option String × Node))}
    (ha : Lists file (a.map .object)) (hb : Lists file' (b.map .object))
    (same : List.Forall₂
      (fun x y => (x.filter fun z => !foreign z) = y.filter fun z => !foreign z) a b) :
    read file = read file' := by
  have hmembers : List.Forall₂ (fun m n => Account.read Mode.direct.inner m =
      Account.read Mode.direct.inner n) (a.map Node.object) (b.map Node.object) := by
    -- the induction goes over the records, so what is known of the files is put in terms of them
    replace ha := ha.sound_members
    replace hb := hb.sound_members
    induction same with
    | nil => exact .nil
    | cons hxy _ ih =>
      obtain ⟨hx, ha⟩ := List.forall_mem_cons.1 ha
      obtain ⟨hy, hb⟩ := List.forall_mem_cons.1 hb
      refine .cons (Shape.read_object_congr rfl hx hy ?_ _) (ih ha hb)
      simpa only [Account.ignores_eq] using hxy
  rw [read_eq ha, read_eq hb, readEach_congr hmembers]

/-- The members of a record with a key. -/
def keyed : List (String × Value) :=
  [("address", .text "0xA1"), ("key", .text "c2VjcmV0"), ("name", .text "Main")]

/-- The same with other secrets in other places. -/
def seeded : List (String × Value) :=
  [("key", .null), ("address", .text "0xA1"), ("seed", .array [.bool true]),
    ("name", .text "Main"), ("key", .object [])]

theorem secrets_unread_seeded :
    Lists (.bytes (Value.array [.object keyed]).write) ([memberNodes keyed].map .object) ∧
      Lists (.bytes (Value.array [.object seeded]).write) ([memberNodes seeded].map .object) ∧
      List.Forall₂ (fun x y => (x.filter fun z => !foreign z) = y.filter fun z => !foreign z)
        [memberNodes keyed] [memberNodes seeded] ∧
      read (.bytes (Value.array [.object keyed]).write) =
        read (.bytes (Value.array [.object seeded]).write) := by
  have ha : Lists (.bytes (Value.array [.object keyed]).write)
      ([memberNodes keyed].map .object) := lists_write (by decide)
  have hb : Lists (.bytes (Value.array [.object seeded]).write)
      ([memberNodes seeded].map .object) := lists_write (by decide)
  have same : List.Forall₂
      (fun x y => (x.filter fun z => !foreign z) = y.filter fun z => !foreign z)
      [memberNodes keyed] [memberNodes seeded] := .cons rfl .nil
  exact ⟨ha, hb, same, secrets_unread ha hb same⟩

/-! ### Normal form -/

/-- An account has an id with content and without blanks around it, and a name with content. -/
structure Normal (a : Account) : Prop where
  id : Trimmed a.id
  name : blank a.name = false

/-- An account shows a record: with the id and the name that it says, or with the id for a name if
there is nothing in the name. -/
def Shows (n : Node) (a : Account) : Prop :=
  ∃ given, Account.Says n ⟨a.id, given⟩ ∧ a.name = if blank given then a.id else given

/-- The bytes of accounts written as a list. -/
def written (accounts : List Account) : List UInt8 :=
  (Value.array (accounts.map Account.toValue)).write

theorem shows_named {n : Node} {a : Account} (h : Account.Says n a) : Shows n (named a) := by
  have hid : (named a).id = a.id := by
    rw [named]
    split <;> rfl
  refine ⟨a.name, by rw [hid]; exact h, ?_⟩
  rw [hid, named]
  split <;> rfl

theorem Shows.normal {n : Node} {a : Account} (h : Shows n a) : Normal a := by
  obtain ⟨given, ⟨id, name, -, hid, -⟩, hname⟩ := h
  refine ⟨hid.trimmed, ?_⟩
  rw [hname]
  split
  · exact hid.trimmed.not_blank
  · next hgiven => exact Bool.eq_false_iff.2 hgiven

/-- What comes of a file. -/
structure Normalised (file : FileContent) (accounts : List Account) : Prop where
  /-- There is one account for each record of the file, in order, and it shows the record. -/
  records : ∃ records, Lists file records ∧ List.Forall₂ Shows records accounts
  normal : ∀ a ∈ accounts, Normal a
  /-- Written and read again, the accounts are the same. -/
  again : read (.bytes (written accounts)) = .ok accounts

theorem normal_of_shown (h : List.Forall₂ Shows records accounts) : ∀ a ∈ accounts, Normal a := by
  induction h with
  | nil => exact List.forall_mem_nil _
  | cons ha _ ih => exact List.forall_mem_cons.2 ⟨ha.normal, ih⟩

theorem named_of_normal {a : Account} (h : Normal a) : named a = a := by
  rw [named, if_neg (by simp [h.name])]

/-- **Accounts in normal form read back.** -/
theorem read_written (h : ∀ a ∈ accounts, Normal a) :
    read (.bytes (written accounts)) = .ok accounts := by
  have whole : integralItems (accounts.map Account.toValue) := by
    rw [integralItems_iff]
    intro v hv
    obtain ⟨a, -, rfl⟩ := List.mem_map.1 hv
    rfl
  have again : readEach Account.read Mode.direct.inner (nodes (accounts.map Account.toValue)) [] =
      .ok accounts :=
    readEach_nodes (fun a ha => Account.read_toValue (h a ha).id (by decide)) []
  have same : accounts.map named = accounts :=
    (List.map_congr_left fun a ha => named_of_normal (h a ha)).trans (List.map_id _)
  rw [written, read_eq (lists_write whole), again]
  exact congrArg Except.ok same

/-- **Reading puts the records of a file into normal form.** -/
theorem normalises (h : read file = .ok accounts) : Normalised file accounts := by
  obtain ⟨records, hlists⟩ := exists_lists h
  rw [read_eq hlists] at h
  obtain ⟨given, hgiven, rfl⟩ := map_eq_ok (mapError_eq_ok h)
  obtain ⟨_, rfl, hrecords⟩ := readEach_eq_ok hgiven
  have shown : List.Forall₂ Shows records (given.map named) := by
    rw [List.forall₂_map_right_iff]
    exact hrecords.imp fun n a ha => shows_named (Account.says_of_read rfl ha)
  have normal := normal_of_shown shown
  exact ⟨⟨records, hlists, shown⟩, normal, read_written normal⟩

/-- Records as objects and arrays, with ids of all kinds under either key, blanks around an id and
for a name, and a secret. -/
def spellings : FileContent := .bytes <| Utf8.encode <|
  "[\x7b\"address\": \"\u00a00xA1 \", \"key\": 1e999, \"name\": \"Main\"\x7d, [7], " ++
  "\x7b\"display_name\": \"\u2003\", \"id\": -2.50\x7d, [\"b\", \"B\"]]"

theorem normalises_spellings :
    read spellings =
        .ok [⟨"0xA1", "Main"⟩, ⟨"7", "7"⟩, ⟨"-2.5", "-2.5"⟩, ⟨"b", "B"⟩] ∧
      Normalised spellings [⟨"0xA1", "Main"⟩, ⟨"7", "7"⟩, ⟨"-2.5", "-2.5"⟩, ⟨"b", "B"⟩] := by
  have h : read spellings =
      .ok [⟨"0xA1", "Main"⟩, ⟨"7", "7"⟩, ⟨"-2.5", "-2.5"⟩, ⟨"b", "B"⟩] := by
    decide +kernel
  exact ⟨h, normalises h⟩

end Overseer.Console.Wallets
