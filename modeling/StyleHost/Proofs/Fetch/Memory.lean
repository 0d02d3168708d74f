import StyleHost.Fetch.Bridge

/-!
# What a fetcher remembers

A fetcher that was asked for some documents is a fetcher again, and what it gives may be something
else than before. Retrievals that are made one after another can be taken together. A fetcher
without a memory stays the same.

* `Fetcher.Forgetful` : a fetcher without a memory.
* `Fetcher.Calm` : a fetcher that never breaks down, whatever it was asked for before.
* `Fetcher.Follows` : what may be left of a fetcher.
-/

namespace StyleHost

namespace Fetcher

/-- How a retrieval ends only depends on the URI. -/
def Forgetful (f : Fetcher) : Prop := ∀ before uri, f.outcomeAfter before uri = f.fetch uri

/-- A fetcher that does not break down. -/
def Calm (f : Fetcher) : Prop := ∀ before uri panic, f.outcomeAfter before uri ≠ .panics panic

/-- A fetcher that is left by retrievals of another one. -/
def Follows (later f : Fetcher) : Prop := ∃ uris, later = f.after uris

variable {f g later : Fetcher} {uri : String}

/-! ### Fetchers without a memory -/

theorem forgetful_ofOutcomes (name : String) (outcome : String → Outcome) :
    (ofOutcomes name outcome).Forgetful := fun _ _ => rfl

theorem Forgetful.after_eq (h : f.Forgetful) (uris : List String) : f.after uris = f := by
  have hsame : (fun later => f.outcomeAfter (uris ++ later)) = f.outcomeAfter := by
    funext later uri
    rw [h, h]
  rw [after, hsame]

/-! ### What is left of a fetcher -/

theorem Follows.refl (f : Fetcher) : f.Follows f := ⟨[], rfl⟩

theorem follows_after (f : Fetcher) (uris : List String) : (f.after uris).Follows f := ⟨uris, rfl⟩

theorem Follows.trans (h : later.Follows g) (hg : g.Follows f) : later.Follows f := by
  obtain ⟨vs, rfl⟩ := h
  obtain ⟨us, rfl⟩ := hg
  exact ⟨us ++ vs, f.after_after us vs⟩

theorem Calm.of_follows (hf : f.Calm) (h : later.Follows f) : later.Calm := by
  obtain ⟨uris, rfl⟩ := h
  exact fun before => hf (uris ++ before)

theorem Calm.fetch_ne (hf : f.Calm) (uri : String) (panic : Panic) : f.fetch uri ≠ .panics panic :=
  hf [] uri panic

theorem calm_ofOutcomes {name : String} {outcome : String → Outcome}
    (h : ∀ uri panic, outcome uri ≠ .panics panic) : (ofOutcomes name outcome).Calm :=
  fun _ => h

end Fetcher

end StyleHost
