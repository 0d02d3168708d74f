import StyleHost.Fetch.Fetcher

/-!
# Documents in memory

A store holds documents under their URIs. A URI can also be given a status, with which every fetch
of it fails. A URI has one entry, the last that was put there.

* `Store.put`, `Store.remove`, `Store.find?` : replace, take out and look up an entry.
* `Store.fetcher` : the store as a fetcher.
-/

namespace StyleHost

/-- What a store holds under a URI. -/
inductive Store.Entry where
  | body (content : Bytes)
  | status (code : Nat)
deriving DecidableEq

/-- Documents under their URIs. -/
structure Store where
  entries : List (String × Store.Entry) := []

namespace Store

/-- The store without any entry for a URI. -/
def erase (s : Store) (uri : String) : Store := ⟨s.entries.filter (·.1 != uri)⟩

/-- The store with an entry put under a URI, in place of any earlier one. -/
def put (s : Store) (uri : String) (entry : Entry) : Store :=
  ⟨(s.erase uri).entries ++ [(uri, entry)]⟩

/-- The entry under a URI. -/
def find? (s : Store) (uri : String) : Option Entry := s.entries.lookup uri

/-- Whether there is an entry under a URI. -/
def contains (s : Store) (uri : String) : Bool := (s.find? uri).isSome

/-- The number of entries. -/
def size (s : Store) : Nat := s.entries.length

/-- Whether there is no entry. -/
def isEmpty (s : Store) : Bool := s.size == 0

/-- What fetching a URI from the store gives. -/
def fetch (s : Store) (uri : String) : Except FetchError Bytes :=
  match s.find? uri with
  | some (.body content) => .ok content
  | some (.status code) => .error (.status uri code)
  | none => .error (.notFound uri)

/-- The store as a fetcher. -/
def fetcher (s : Store) : Fetcher :=
  .ofOutcomes "InMemoryFetcher" fun uri => .ofExcept (s.fetch uri)

theorem find?_erase (s : Store) (uri other : String) :
    (s.erase uri).find? other = if other = uri then none else s.find? other := by
  obtain ⟨entries⟩ := s
  simp only [erase, find?]
  induction entries with
  | nil => simp
  | cons e es ih =>
    obtain ⟨k, v⟩ := e
    grind

theorem find?_put (s : Store) (uri other : String) (entry : Entry) :
    (s.put uri entry).find? other = if other = uri then some entry else s.find? other := by
  have h := find?_erase s uri other
  simp only [put, find?, List.lookup_append] at *
  grind

end Store

end StyleHost
