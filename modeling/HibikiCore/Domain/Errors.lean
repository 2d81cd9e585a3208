import Mathlib.Init

/-!
# Errors

A refused command carries the class of its error, the code that clients test and the message that
people read. Exceptions that the service does not define itself (a missing payload key, a violated
unique constraint, a query that finds no row) are `uncaught`: they end a transaction the same way.
-/

namespace HibikiCore

inductive ErrorKind
  | invalidTransition | authorization | precondition | conflict | idempotencyConflict | notFound
  | uncaught
  deriving DecidableEq, Repr

/-- An exception that ends a transaction. -/
structure Error where
  kind : ErrorKind
  code : String
  message : String
  deriving DecidableEq, Repr

namespace Error

def authorization (message : String) : Error :=
  ⟨.authorization, "authorization_denied", message⟩

def precondition (code message : String) : Error := ⟨.precondition, code, message⟩

def conflict (code message : String) : Error := ⟨.conflict, code, message⟩

def idempotencyConflict (code message : String) : Error := ⟨.idempotencyConflict, code, message⟩

def notFound (code message : String) : Error := ⟨.notFound, code, message⟩

/-- The key of a payload that a handler reads is absent. -/
def missingKey (key : String) : Error := ⟨.uncaught, "KeyError", key⟩

/-- A primary key or a unique constraint is taken. -/
def integrity (constraint : String) : Error := ⟨.uncaught, "IntegrityError", constraint⟩

/-- A query for exactly one row found none. -/
def noResult : Error := ⟨.uncaught, "NoResultFound", "No row was found when one was required"⟩

/-- An assertion of the service failed. -/
def assertion : Error := ⟨.uncaught, "AssertionError", ""⟩

/-- Recursion went deeper than the interpreter allows. -/
def recursion : Error := ⟨.uncaught, "RecursionError", "maximum recursion depth exceeded"⟩

/-- A value that the database cannot store. -/
def unstorable (reason : String) : Error := ⟨.uncaught, reason, ""⟩

end Error

/-- Running a check on each member of a list: all of them pass, or one of them fails. -/
theorem forM_cases {ε β : Type*} (f : β → Except ε Unit) (l : List β) :
    (l.forM f = .ok () ∧ ∀ b ∈ l, f b = .ok ()) ∨
      ∃ e, l.forM f = .error e ∧ ∃ b ∈ l, f b = .error e := by
  induction l with
  | nil => exact .inl ⟨rfl, fun _ h ↦ (nomatch h)⟩
  | cons b l ih =>
    have hcons : (b :: l).forM f = f b >>= fun _ ↦ l.forM f := rfl
    rw [hcons]
    cases hb : f b with
    | error e => exact .inr ⟨e, rfl, b, List.mem_cons_self, hb⟩
    | ok u =>
      rcases ih with ⟨hrest, hall⟩ | ⟨e, hrest, b', hb', he⟩
      · refine .inl ⟨hrest, fun b' hb' ↦ ?_⟩
        rcases List.mem_cons.mp hb' with rfl | hb'
        · exact hb
        · exact hall b' hb'
      · exact .inr ⟨e, hrest, b', List.mem_cons_of_mem _ hb', he⟩

end HibikiCore
