import StyleHost.Record

/-!
# Reasoning about recorded computations

Four ways to judge a computation by its parts.

* `HostM.Asks P x Q` : all that `x` asks the fetcher for satisfies `P`, and what it returns
  satisfies `Q`.
* `HostM.Gives x uris a` : `x` asks the fetcher for just `uris`, and it returns `a`.
* `HostM.Tells x told r` : `x` exchanges just `told` with the engine, and it ends with `r`.
* `HostM.Alike R x y` : `x` and `y` ask the fetcher for the same, and either return values that `R`
  relates or get stuck on the same fetch. Their notices may differ, and what they exchange with the
  engine.

Each has one rule for each way to make a computation. For computations that can also fail
(`WorkM`, and whatever is built on it) the rules speak of their runs.
-/

namespace StyleHost

namespace HostM

variable {A α β γ δ : Type} {P : String → Prop} {Q : α → Prop}

/-- What a computation asks for before the rest, and what the rest asks for. -/
theorem fetches_bind (x : HostM A α) (f : α → HostM A β) :
    (x >>= f).fetches = x.fetches ++ match x.run.value with
      | .ok a => (f a).fetches
      | .error _ => [] := by
  unfold fetches
  rw [ExceptT.run_bind, Recorded.events_bind, List.filterMap_append]
  cases x.run.value <;> rfl

theorem value_bind (x : HostM A α) (f : α → HostM A β) :
    (x >>= f).run.value = match x.run.value with
      | .ok a => (f a).run.value
      | .error e => .error e := by
  rw [ExceptT.run_bind, Recorded.value_bind]
  cases x.run.value <;> rfl

theorem value_bind_eq_ok_iff {x : HostM A α} {f : α → HostM A β} {b : β} :
    (x >>= f).run.value = .ok b ↔ ∃ a, x.run.value = .ok a ∧ (f a).run.value = .ok b := by
  rw [value_bind]
  cases x.run.value with
  | ok a => simp
  | error e => simp

/-! ### What a computation asks for -/

/-- All that `x` asks the fetcher for satisfies `P`, and what it returns satisfies `Q`. -/
structure Asks (P : String → Prop) (x : HostM A α) (Q : α → Prop) : Prop where
  fetches : ∀ uri ∈ x.fetches, P uri
  returns : ∀ a, x.run.value = .ok a → Q a

theorem Asks.pure {a : α} (h : Q a) : Asks P (pure a : HostM A α) Q where
  fetches _ hu := absurd hu List.not_mem_nil
  returns _ ha := Except.ok.inj ha ▸ h

theorem Asks.throw {e : Stalled} : Asks P (throw e : HostM A α) Q where
  fetches _ hu := absurd hu List.not_mem_nil
  returns _ ha := nomatch ha

theorem Asks.note (n : Notice) : Asks P (note n : HostM A Unit) fun _ => True where
  fetches _ hu := absurd hu List.not_mem_nil
  returns _ _ := trivial

theorem Asks.exchange (a : A) : Asks P (exchange a) fun _ => True where
  fetches _ hu := absurd hu List.not_mem_nil
  returns _ _ := trivial

theorem Asks.fetched {uri : String} (h : P uri) :
    Asks P (emit (.fetched uri) : HostM A Unit) fun _ => True where
  fetches _ hu := List.mem_singleton.1 hu ▸ h
  returns _ _ := trivial

theorem Asks.bind {x : HostM A β} {f : β → HostM A α} {R : β → Prop} (hx : Asks P x R)
    (hf : ∀ b, R b → Asks P (f b) Q) : Asks P (x >>= f) Q := by
  constructor
  · intro uri hu
    rw [fetches_bind, List.mem_append] at hu
    rcases hu with hu | hu
    · exact hx.fetches uri hu
    · cases hv : x.run.value with
      | ok b =>
        rw [hv] at hu
        exact (hf b (hx.returns b hv)).fetches uri hu
      | error e =>
        rw [hv] at hu
        cases hu
  · intro a ha
    rw [value_bind] at ha
    cases hv : x.run.value with
    | ok b =>
      rw [hv] at ha
      exact (hf b (hx.returns b hv)).returns a ha
    | error e =>
      rw [hv] at ha
      cases ha

theorem Asks.imp {x : HostM A α} {R : α → Prop} (hx : Asks P x Q) (h : ∀ a, Q a → R a) :
    Asks P x R where
  fetches := hx.fetches
  returns a ha := h a (hx.returns a ha)

/-- A computation that may ask for nothing. -/
theorem Asks.fetches_eq_nil {x : HostM A α} (hx : Asks (fun _ => False) x Q) : x.fetches = [] :=
  List.eq_nil_iff_forall_not_mem.2 hx.fetches

theorem Asks.map {x : HostM A β} {f : β → α} (hx : Asks P x fun _ => True) :
    Asks P (f <$> x) fun _ => True := by
  rw [← bind_pure_comp]
  exact hx.bind fun _ _ => .pure trivial

/-! ### What a computation comes to -/

/-- `x` returns `a` after it has asked the fetcher for `uris`, in this order. -/
structure Gives (x : HostM A α) (uris : List String) (a : α) : Prop where
  fetches : x.fetches = uris
  returns : x.run.value = .ok a

theorem Gives.pure (a : α) : Gives (pure a : HostM A α) [] a := ⟨rfl, rfl⟩

theorem Gives.note (n : Notice) : Gives (note n : HostM A Unit) [] () := ⟨rfl, rfl⟩

theorem Gives.fetched (uri : String) : Gives (emit (.fetched uri) : HostM A Unit) [uri] () :=
  ⟨rfl, rfl⟩

theorem Gives.bind {x : HostM A α} {f : α → HostM A β} {us vs : List String} {a : α} {b : β}
    (hx : Gives x us a) (hf : Gives (f a) vs b) : Gives (x >>= f) (us ++ vs) b := by
  constructor
  · rw [fetches_bind, hx.fetches, hx.returns]
    exact congrArg (us ++ ·) hf.fetches
  · rw [value_bind, hx.returns]
    exact hf.returns

/-! ### What a computation exchanges -/

/-- What a computation exchanges before the rest, and what the rest exchanges. -/
theorem exchanges_bind (x : HostM A α) (f : α → HostM A β) :
    (x >>= f).exchanges = x.exchanges ++ match x.run.value with
      | .ok a => (f a).exchanges
      | .error _ => [] := by
  unfold exchanges
  rw [ExceptT.run_bind, Recorded.events_bind, List.filterMap_append]
  cases x.run.value <;> rfl

/-- `x` exchanges `told` with the engine, in this order, and then it returns or gets stuck. -/
structure Tells (x : HostM A α) (told : List A) (r : Except Stalled α) : Prop where
  exchanges : x.exchanges = told
  ends : x.run.value = r

theorem Tells.pure (a : α) : Tells (pure a : HostM A α) [] (.ok a) := ⟨rfl, rfl⟩

theorem Tells.throw (e : Stalled) : Tells (throw e : HostM A α) [] (.error e) := ⟨rfl, rfl⟩

theorem Tells.note (n : Notice) : Tells (note n : HostM A Unit) [] (.ok ()) := ⟨rfl, rfl⟩

theorem Tells.fetched (uri : String) :
    Tells (emit (.fetched uri) : HostM A Unit) [] (.ok ()) := ⟨rfl, rfl⟩

theorem Tells.exchange (a : A) : Tells (exchange a) [a] (.ok ()) := ⟨rfl, rfl⟩

theorem Tells.bind {x : HostM A α} {f : α → HostM A β} {told later : List A} {a : α}
    {r : Except Stalled β} (hx : Tells x told (.ok a)) (hf : Tells (f a) later r) :
    Tells (x >>= f) (told ++ later) r := by
  constructor
  · rw [exchanges_bind, hx.exchanges, hx.ends]
    exact congrArg (told ++ ·) hf.exchanges
  · rw [value_bind, hx.ends]
    exact hf.ends

theorem Tells.bind_stuck {x : HostM A α} {f : α → HostM A β} {told : List A} {e : Stalled}
    (hx : Tells x told (.error e)) : Tells (x >>= f) told (.error e) := by
  constructor
  · rw [exchanges_bind, hx.exchanges, hx.ends]
    exact List.append_nil told
  · rw [value_bind, hx.ends]

/-! ### Computations that only differ in notices -/

/-- Two results that `R` relates: both are values, or both got stuck on the same fetch. -/
inductive Related (R : α → β → Prop) : Except Stalled α → Except Stalled β → Prop
  | value {a : α} {b : β} (h : R a b) : Related R (.ok a) (.ok b)
  | stuck (e : Stalled) : Related R (.error e) (.error e)

/-- `x` and `y` ask the fetcher for the same, and `R` relates their results. -/
structure Alike (R : α → β → Prop) (x : HostM A α) (y : HostM A β) : Prop where
  fetches : x.fetches = y.fetches
  returns : Related R x.run.value y.run.value

theorem Alike.pure {R : α → β → Prop} {a : α} {b : β} (h : R a b) :
    Alike R (pure a : HostM A α) (pure b) := ⟨rfl, .value h⟩

theorem Alike.refl {x : HostM A α} (h : Asks P x Q) : Alike (fun a b => a = b ∧ Q a) x x := by
  refine ⟨rfl, ?_⟩
  cases hv : x.run.value with
  | ok a => exact .value ⟨rfl, h.returns a hv⟩
  | error e => exact .stuck e

theorem Alike.bind {R : α → β → Prop} {R' : γ → δ → Prop} {x : HostM A α} {y : HostM A β}
    {f : α → HostM A γ} {g : β → HostM A δ} (h : Alike R x y)
    (hf : ∀ a b, R a b → Alike R' (f a) (g b)) : Alike R' (x >>= f) (y >>= g) := by
  obtain ⟨hfetches, hret⟩ := h
  constructor
  · rw [fetches_bind, fetches_bind, hfetches]
    generalize x.run.value = v, y.run.value = w at hret ⊢
    cases hret with
    | value hab => exact congrArg (y.fetches ++ ·) (hf _ _ hab).fetches
    | stuck e => rfl
  · rw [value_bind, value_bind]
    generalize x.run.value = v, y.run.value = w at hret ⊢
    cases hret with
    | value hab => exact (hf _ _ hab).returns
    | stuck e => exact .stuck e

/-- Two computations that begin in the same way. -/
theorem Alike.bind_same {R : γ → δ → Prop} {x : HostM A α} {f : α → HostM A γ} {g : α → HostM A δ}
    (hf : ∀ a, Alike R (f a) (g a)) : Alike R (x >>= f) (x >>= g) := by
  have hx : Asks (fun _ => True) x fun _ => True := ⟨fun _ _ => trivial, fun _ _ => trivial⟩
  refine (Alike.refl hx).bind ?_
  rintro a _ ⟨rfl, -⟩
  exact hf a

/-- A computation that asks for nothing only passes its value on. -/
theorem Alike.bind_left {R : γ → δ → Prop} {x : HostM A α} {f : α → HostM A γ} {y : HostM A δ}
    {a : α} (hv : x.run.value = .ok a) (he : x.fetches = []) (h : Alike R (f a) y) :
    Alike R (x >>= f) y := by
  constructor
  · rw [fetches_bind, hv, he]
    exact h.fetches
  · rw [value_bind, hv]
    exact h.returns

theorem Alike.value_eq {x : HostM A α} {y : HostM A β} {f : β → α}
    (h : Alike (fun a b => a = f b) x y) : x.run.value = y.run.value.map f := by
  obtain ⟨-, hret⟩ := h
  generalize x.run.value = v, y.run.value = w at hret ⊢
  cases hret with
  | value hab =>
    rw [hab]
    rfl
  | stuck e => rfl

end HostM

namespace WorkM

open HostM

variable {A α β : Type} {P : String → Prop}

theorem asks_bind {x : WorkM A α} {f : α → WorkM A β} (hx : Asks P x.run fun _ => True)
    (hf : ∀ a, Asks P (f a).run fun _ => True) : Asks P (x >>= f).run fun _ => True := by
  rw [ExceptT.run_bind]
  refine hx.bind fun r _ => ?_
  cases r with
  | ok a => exact hf a
  | error e => exact .pure trivial

theorem value_ofExcept_bind (x : Except Panic α) (f : α → WorkM A β) :
    (ofExcept x >>= f).run.run.value = match x with
      | .ok a => (f a).run.run.value
      | .error panic => .ok (.error panic) := by
  cases x <;> rfl

theorem value_note_bind (n : Notice) (f : Unit → WorkM A β) :
    (note n >>= f).run.run.value = (f ()).run.run.value := rfl

theorem value_exchange_bind (a : A) (f : Unit → WorkM A β) :
    (exchange a >>= f).run.run.value = (f ()).run.run.value := rfl

/-- What is exchanged is exchanged by the first part, or by the rest if the first part returns. -/
theorem mem_exchanges_bind {x : WorkM A α} {f : α → WorkM A β} {told : A} :
    told ∈ (x >>= f).run.exchanges ↔ told ∈ x.run.exchanges ∨
      ∃ a, x.run.run.value = .ok (.ok a) ∧ told ∈ (f a).run.exchanges := by
  rw [ExceptT.run_bind, HostM.exchanges_bind, List.mem_append]
  rcases x.run.run.value with stalled | panic | a
  · simp
  · simp [HostM.exchanges, Event.exchange?]
  · simp

end WorkM

end StyleHost
