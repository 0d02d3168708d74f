import StyleHost.Notice
import StyleHost.Panic

/-!
# Records

Besides its answer, a computation of the host has effects: it writes notices, asks the fetcher for
documents, and talks with the engine. A record keeps them in order.

* `Event` : one effect. What is exchanged with the engine is a parameter.
* `Recorded` : an answer with the record of how it came about; recorded computations are a monad.
* `HostM` : a recorded computation that can get stuck on a fetch that never settles.
* `WorkM` : a recorded computation that can also break down.
-/

namespace StyleHost

/-- An effect of a computation; `A` is what passes between the host and the engine. -/
inductive Event (A : Type) where
  | note (notice : Notice)
  /-- The fetcher was asked for the document at a URI. -/
  | fetched (uri : String)
  | exchanged (what : A)

namespace Event

variable {A : Type}

/-- The notice that an event writes. -/
def notice? : Event A → Option Notice
  | note n => some n
  | _ => none

/-- The URI that an event asks the fetcher for. -/
def uri? : Event A → Option String
  | fetched uri => some uri
  | _ => none

/-- What an event passes between the host and the engine. -/
def exchange? : Event A → Option A
  | exchanged a => some a
  | _ => none

end Event

/-- An answer and the events that led to it. -/
structure Recorded (E α : Type) where
  value : α
  events : List E

namespace Recorded

variable {E α β : Type}

@[ext]
theorem ext {x y : Recorded E α} (hv : x.value = y.value) (he : x.events = y.events) : x = y := by
  cases x
  cases y
  simp_all

instance : Monad (Recorded E) where
  pure a := ⟨a, []⟩
  bind x f := ⟨(f x.value).value, x.events ++ (f x.value).events⟩

@[simp]
theorem value_pure (a : α) : (pure a : Recorded E α).value = a := rfl

@[simp]
theorem events_pure (a : α) : (pure a : Recorded E α).events = [] := rfl

@[simp]
theorem value_bind (x : Recorded E α) (f : α → Recorded E β) :
    (x >>= f).value = (f x.value).value := rfl

@[simp]
theorem events_bind (x : Recorded E α) (f : α → Recorded E β) :
    (x >>= f).events = x.events ++ (f x.value).events := rfl

instance : LawfulMonad (Recorded E) := LawfulMonad.mk' (Recorded E)
  (fun x => by cases x; simp [Functor.map])
  (fun a f => by ext <;> simp [bind, pure])
  (fun x f g => by ext <;> simp)

/-- The record of a single event. -/
def single (e : E) : Recorded E Unit := ⟨(), [e]⟩

end Recorded

/-- A fetch that never settles, with nothing to cut it short. -/
structure Stalled where
  uri : String
deriving DecidableEq

/-- A recorded computation that can get stuck. -/
abbrev HostM (A : Type) := ExceptT Stalled (Recorded (Event A))

namespace HostM

variable {A α : Type}

/-- Leaves an event in the record. -/
def emit (e : Event A) : HostM A Unit := ExceptT.lift (.single e)

/-- Writes a notice. -/
def note (n : Notice) : HostM A Unit := emit (.note n)

/-- Records what passes between the host and the engine. -/
def exchange (a : A) : HostM A Unit := emit (.exchanged a)

/-- The notices of a computation. -/
def notices (x : HostM A α) : List Notice := x.run.events.filterMap Event.notice?

/-- The URIs that a computation asks the fetcher for. -/
def fetches (x : HostM A α) : List String := x.run.events.filterMap Event.uri?

/-- What passes between the host and the engine in a computation. -/
def exchanges (x : HostM A α) : List A := x.run.events.filterMap Event.exchange?

end HostM

/-- A recorded computation that can break down. -/
abbrev WorkM (A : Type) := ExceptT Panic (HostM A)

namespace WorkM

variable {A α : Type}

/-- Goes on with a result unless it is a breakdown. -/
def ofExcept (x : Except Panic α) : WorkM A α := ExceptT.mk (pure x)

/-- Writes a notice. -/
def note (n : Notice) : WorkM A Unit := ExceptT.lift (HostM.note n)

/-- Records what passes between the host and the engine. -/
def exchange (a : A) : WorkM A Unit := ExceptT.lift (HostM.exchange a)

end WorkM

end StyleHost
