import PgKinetic.Lib.Text

/-!
# Computations that fail with a message

Rust's `?` on a `Result` is the bind of `Except`. `orError` and `ensure` are the two ways in which a
computation fails by itself, and `bind_eq_ok_iff` takes one that has succeeded apart, step by step.
-/

namespace Fallible

/-- `anyhow::Context::context` on an option. -/
def orError {α : Type} (message : Text) : Option α → Except Text α
  | some value => .ok value
  | none => .error message

/-- `anyhow::ensure!`. -/
def ensure (condition : Bool) (message : Text) : Except Text Unit :=
  if condition then .ok () else .error message

theorem orError_eq_ok_iff {α : Type} {message : Text} {value : Option α} {a : α} :
    orError message value = .ok a ↔ value = some a := by
  cases value with
  | none => exact ⟨nofun, nofun⟩
  | some b => exact ⟨fun h => congrArg some (Except.ok.inj h), fun h => by cases h; rfl⟩

theorem ensure_eq_ok_iff {condition : Bool} {message : Text} {u : Unit} :
    ensure condition message = .ok u ↔ condition = true := by
  cases condition with
  | false => exact ⟨nofun, nofun⟩
  | true => exact ⟨fun _ => rfl, fun _ => rfl⟩

theorem bind_eq_ok_iff {ε α β : Type} {x : Except ε α} {f : α → Except ε β} {b : β} :
    (x >>= f) = .ok b ↔ ∃ a, x = .ok a ∧ f a = .ok b := by
  cases x with
  | error e => exact ⟨nofun, fun ⟨_, h, _⟩ => nomatch h⟩
  | ok a => exact ⟨fun h => ⟨a, rfl, h⟩, fun ⟨_, h, hb⟩ => by cases h; exact hb⟩

end Fallible
