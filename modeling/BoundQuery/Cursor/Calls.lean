import BoundQuery.Event

/-!
# Calls on a cursor

A cursor is asked for rows and closed, and it has to be closed exactly once. A
metered computation is a logged one that also keeps the calls it makes on a
cursor, in order.
-/

namespace BoundQuery

inductive CursorCall where
  | next
  | close
  deriving DecidableEq, Repr

/-- A value, with the events and the calls on a cursor on the way to it. -/
structure Metered (α : Type) extends Logged α where
  calls : List CursorCall

namespace Metered

variable {α β : Type}

instance : Monad Metered where
  pure a := ⟨pure a, []⟩
  bind x f := ⟨x.toLogged >>= fun a => (f a).toLogged, x.calls ++ (f x.value).calls⟩

def call (c : CursorCall) : Metered Unit := ⟨pure (), [c]⟩

/-- A computation that calls no cursor. -/
def ofLogged (x : Logged α) : Metered α := ⟨x, []⟩

@[simp] theorem value_pure (a : α) : (pure a : Metered α).value = a := rfl

@[simp] theorem events_pure (a : α) : (pure a : Metered α).events = [] := rfl

@[simp] theorem calls_pure (a : α) : (pure a : Metered α).calls = [] := rfl

@[simp] theorem value_bind (x : Metered α) (f : α → Metered β) :
    (x >>= f).value = (f x.value).value := rfl

@[simp] theorem events_bind (x : Metered α) (f : α → Metered β) :
    (x >>= f).events = x.events ++ (f x.value).events := rfl

@[simp] theorem calls_bind (x : Metered α) (f : α → Metered β) :
    (x >>= f).calls = x.calls ++ (f x.value).calls := rfl

@[simp] theorem value_call (c : CursorCall) : (call c).value = () := rfl

@[simp] theorem events_call (c : CursorCall) : (call c).events = [] := rfl

@[simp] theorem calls_call (c : CursorCall) : (call c).calls = [c] := rfl

@[simp] theorem value_ofLogged (x : Logged α) : (ofLogged x).value = x.value := rfl

@[simp] theorem events_ofLogged (x : Logged α) : (ofLogged x).events = x.events := rfl

@[simp] theorem calls_ofLogged (x : Logged α) : (ofLogged x).calls = [] := rfl

end Metered
end BoundQuery
