/-!
# Ids of requests

Every request carries an id of its own, by which its answer is told from the others.  Where the ids
come from is left open: all that a client relies on is that no two of them are the same.
-/

namespace Overseer.Engine

/-- Where a client takes the ids of its requests from. -/
structure IdSource where
  /-- The id of the `n`-th request. -/
  id : Nat → String
  /-- No two requests have the same id. -/
  distinct : ∀ {m n}, id m = id n → m = n

/-! ### Ids that count -/

/-- `n` in hexadecimal, with zeros in front up to a width. -/
def hexadecimal (width n : Nat) : List Char :=
  let digits := Nat.toDigits 16 n
  List.replicate (width - digits.length) '0' ++ digits

/-- The number `n` in the form of an id. -/
def requestId (n : Nat) : String :=
  String.ofList ("00000000-0000-4000-8000-".toList ++ hexadecimal 12 n)

/-- What a hexadecimal digit stands for. -/
def hexDigit (c : Char) : Nat := if c.toNat < 58 then c.toNat - 48 else c.toNat - 87

/-- What hexadecimal digits stand for. -/
def ofHexadecimal (l : List Char) : Nat := l.foldl (fun n c => 16 * n + hexDigit c) 0

theorem hexDigit_digitChar : ∀ d < 16, hexDigit (Nat.digitChar d) = d := by decide

theorem ofHexadecimal_toDigits (n : Nat) : ofHexadecimal (Nat.toDigits 16 n) = n := by
  induction n using Nat.strongRecOn with
  | ind n ih =>
    by_cases hn : n < 16
    · rw [Nat.toDigits_of_lt_base hn]
      change 16 * 0 + _ = n
      rw [hexDigit_digitChar n hn, Nat.mul_zero, Nat.zero_add]
    · have hle : 16 ≤ n := Nat.not_lt.1 hn
      have hlt : n / 16 < n := Nat.div_lt_self (by omega) (by decide)
      have hfront := ih _ hlt
      rw [ofHexadecimal] at hfront
      rw [Nat.toDigits_of_base_le (by decide) hle, ofHexadecimal, List.foldl_append, hfront]
      change 16 * (n / 16) + _ = n
      rw [hexDigit_digitChar _ (Nat.mod_lt _ (by decide)), Nat.div_add_mod]

theorem ofHexadecimal_zeros (k : Nat) (l : List Char) :
    ofHexadecimal (List.replicate k '0' ++ l) = ofHexadecimal l := by
  induction k with
  | zero => rfl
  | succ k ih => exact ih

theorem requestId_injective {m n : Nat} (h : requestId m = requestId n) : m = n := by
  have hdigits : hexadecimal 12 m = hexadecimal 12 n :=
    List.append_cancel_left (String.ofList_injective h)
  have hvalue := congrArg ofHexadecimal hdigits
  rwa [hexadecimal, hexadecimal, ofHexadecimal_zeros, ofHexadecimal_zeros, ofHexadecimal_toDigits,
    ofHexadecimal_toDigits] at hvalue

/-- The ids that count the requests. -/
def IdSource.counted : IdSource := ⟨requestId, requestId_injective⟩

end Overseer.Engine
