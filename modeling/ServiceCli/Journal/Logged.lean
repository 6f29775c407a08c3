import ServiceCli.Journal

/-!
Computations that keep a log. What was logged before a computation stopped stays logged.
-/
namespace ServiceCli

structure Logged (α : Type) where
  entries : List Entry
  outcome : Except Stop α

namespace Logged

variable {α β : Type}

instance : Monad Logged where
  pure a := ⟨[], .ok a⟩
  bind x f :=
    match x.outcome with
    | .error s => ⟨x.entries, .error s⟩
    | .ok a => ⟨x.entries ++ (f a).entries, (f a).outcome⟩

/-- Logs events outside all services. -/
def log (events : List Event) : Logged Unit := ⟨events.map (⟨none, ·⟩), .ok ()⟩

/-- A computation without a log. -/
def ofExcept (x : Except Stop α) : Logged α := ⟨[], x⟩

/-- A computation that can only fail, without a log. -/
def ofFailing (x : Except Failure α) : Logged α := ofExcept (orStop x)

/-- A computation on behalf of a service. -/
def during (service : String) (x : Logged α) : Logged α where
  entries := x.entries.map fun e => { e with service := some service }
  outcome := x.outcome

@[simp] theorem outcome_pure (a : α) : (pure a : Logged α).outcome = .ok a := rfl

/-- What a computation yields does not depend on what it logs. -/
@[simp] theorem outcome_bind (x : Logged α) (f : α → Logged β) :
    (x >>= f).outcome = x.outcome >>= fun a => (f a).outcome := by
  show (match x.outcome with
    | .error s => (⟨x.entries, .error s⟩ : Logged β)
    | .ok a => ⟨x.entries ++ (f a).entries, (f a).outcome⟩).outcome = _
  cases x.outcome <;> rfl

@[simp] theorem outcome_log (events : List Event) : (log events).outcome = .ok () := rfl

@[simp] theorem outcome_ofExcept (x : Except Stop α) : (ofExcept x).outcome = x := rfl

@[simp] theorem outcome_ofFailing (x : Except Failure α) : (ofFailing x).outcome = orStop x := rfl

@[simp] theorem outcome_during (service : String) (x : Logged α) :
    (during service x).outcome = x.outcome := rfl

end Logged

end ServiceCli
