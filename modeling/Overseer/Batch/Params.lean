import Overseer.Batch.Progress
import Overseer.Text.Quoted

/-!
# Parameters of a run

What the engine is told when a run starts. Some parameters are known by name; all others are
passed on as they are.
-/

namespace Overseer.Batch

open Overseer.Json Overseer.Text

/-- The parameters of a run. -/
structure Params where
  /-- How many accounts to work on at once. -/
  concurrency : Option Nat
  retryCount : Option Nat
  /-- The shortest pause in milliseconds. -/
  delayMin : Option Nat
  /-- The longest pause in milliseconds. -/
  delayMax : Option Nat
  /-- The secret key of the service that solves captchas. -/
  captchaKey : Option String
  randomizeOrder : Option Bool
  inviteCode : Option String
  /-- All other parameters. -/
  extra : Table Value

namespace Params

/-- No parameter at all. -/
def empty : Params := ⟨none, none, none, none, none, none, none, .empty⟩

instance : Inhabited Params := ⟨empty⟩

/-- The known parameters. -/
def fields : List (Json.Field Params) := [
  field ["concurrency"] false (readOptional (readNat 32)) fun v r => { r with concurrency := v },
  field ["retry_count"] false (readOptional (readNat 32)) fun v r => { r with retryCount := v },
  field ["delay_min_ms"] false (readOptional (readNat 64)) fun v r => { r with delayMin := v },
  field ["delay_max_ms"] false (readOptional (readNat 64)) fun v r => { r with delayMax := v },
  field ["captcha_api_key"] false (readOptional readText) fun v r => { r with captchaKey := v },
  field ["randomize_order"] false (readOptional readBool)
    fun v r => { r with randomizeOrder := v },
  field ["invite_code"] false (readOptional readText) fun v r => { r with inviteCode := v }]

/-- The known parameters, and a place for all others. -/
def shape : Shape Params where
  fields := fields
  other := some fun m key n r =>
    (readValue m n).map fun v => { r with extra := r.extra.insert key v }

/-- Reads parameters. -/
def read : Decoder Params := shape.read empty

/-- Parameters as a value, with the other parameters as they are listed here. -/
def toValueIn (p : Params) (extra : List (String × Value)) : Value :=
  .object (optionalMember "concurrency" (p.concurrency.map .nat) ++
    optionalMember "retry_count" (p.retryCount.map .nat) ++
    optionalMember "delay_min_ms" (p.delayMin.map .nat) ++
    optionalMember "delay_max_ms" (p.delayMax.map .nat) ++
    optionalMember "captcha_api_key" (p.captchaKey.map .text) ++
    optionalMember "randomize_order" (p.randomizeOrder.map .bool) ++
    optionalMember "invite_code" (p.inviteCode.map .text) ++ extra)

/-- Parameters as a value, with the other parameters in ascending order. -/
def toValue (p : Params) : Value := p.toValueIn p.extra.entries

/-- The values that parameters may be written as. The known ones come first and in order; the others
come from a hash map, so in any order. -/
def WrittenAs (p : Params) (v : Value) : Prop :=
  ∃ extra : List (String × Value), extra.Perm p.extra.entries ∧ v = p.toValueIn extra

/-- An optional value as diagnostics show it. -/
def shown {α : Type} (f : α → String) : Option α → String
  | some v => "Some(" ++ f v ++ ")"
  | none => "None"

/-- A boolean's name. -/
def flag (b : Bool) : String := if b then "true" else "false"

/-- Parameters as diagnostics show them: the secret key and the values of other parameters are
kept back. -/
def diagnostic (p : Params) : String :=
  "StartParams \x7b concurrency: " ++ shown toString p.concurrency ++
    ", retry_count: " ++ shown toString p.retryCount ++
    ", delay_min_ms: " ++ shown toString p.delayMin ++
    ", delay_max_ms: " ++ shown toString p.delayMax ++
    ", captcha_api_key: " ++ shown (fun _ => Quoted.quote "<redacted>") p.captchaKey ++
    ", randomize_order: " ++ shown flag p.randomizeOrder ++
    ", invite_code: " ++ shown Quoted.quote p.inviteCode ++
    ", extra_keys: [" ++ ", ".intercalate (p.extra.keys.map Quoted.quote) ++ "] \x7d"

end Params

end Overseer.Batch
