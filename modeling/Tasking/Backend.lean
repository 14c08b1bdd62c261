/-
# Tasking backends

A backend is one of the three ways a compiled program can run its tasks. Reading a name is
exact: no case is folded and no blank is dropped, and a text that is refused is kept whole
in the refusal.
-/

namespace Tasking

inductive Backend where
  /-- One thread of the operating system for each task. -/
  | fifo
  /-- Lightweight threads; what most targets use. -/
  | qthreads
  /-- User-level threads multiplexed by the vendor's runtime. -/
  | muxed
  deriving DecidableEq, Repr

namespace Backend

/-- Every backend, in the order in which they are listed to a user. -/
def all : List Backend := [.fifo, .qthreads, .muxed]

def name : Backend → String
  | .fifo => "fifo"
  | .qthreads => "qthreads"
  | .muxed => "muxed"

@[simp]
theorem mem_all (backend : Backend) : backend ∈ all := by
  cases backend <;> simp [all]

theorem name_injective {first second : Backend} (sameName : first.name = second.name) :
    first = second := by
  cases first <;> cases second <;> simp_all [name]

end Backend

/-- A text that names no backend, kept as it was given. -/
structure UnknownBackend where
  name : String
  deriving DecidableEq, Repr

def UnknownBackend.message (unknown : UnknownBackend) : String :=
  "unknown tasking backend '" ++ unknown.name ++ "' (expected fifo, qthreads or muxed)"

namespace Backend

/-- The backend that a text names, compared with every name exactly. -/
def ofName (text : String) : Except UnknownBackend Backend :=
  match all.find? (fun backend => backend.name == text) with
  | some backend => .ok backend
  | none => .error ⟨text⟩

@[simp]
theorem ofName_name (backend : Backend) : ofName backend.name = .ok backend := by
  cases search : all.find? (fun other => other.name == backend.name) with
  | none =>
      have passed := List.find?_eq_none.mp search backend backend.mem_all
      exact absurd (beq_self_eq_true backend.name) passed
  | some other =>
      have found := List.find?_some search
      obtain rfl := name_injective (beq_iff_eq.mp found)
      rw [ofName, search]

/-- What reading can come to: the text is a backend's name, or it is refused and kept. -/
theorem ofName_cases (text : String) :
    (∃ backend : Backend, text = backend.name ∧ ofName text = .ok backend) ∨
      (∀ backend : Backend, text ≠ backend.name) ∧ ofName text = .error ⟨text⟩ := by
  by_cases named : ∃ backend : Backend, text = backend.name
  · obtain ⟨backend, rfl⟩ := named
    exact Or.inl ⟨backend, rfl, ofName_name backend⟩
  · have unnamed : ∀ backend : Backend, text ≠ backend.name := not_exists.mp named
    have search : all.find? (fun backend => backend.name == text) = none := by
      rw [List.find?_eq_none]
      intro backend _ found
      exact unnamed backend (beq_iff_eq.mp found).symm
    refine Or.inr ⟨unnamed, ?_⟩
    rw [ofName, search]

theorem ofName_eq_ok_iff {text : String} {backend : Backend} :
    ofName text = .ok backend ↔ text = backend.name := by
  rcases ofName_cases text with ⟨named, rfl, accepted⟩ | ⟨unnamed, refused⟩
  · rw [accepted, Except.ok.injEq]
    exact ⟨congrArg name, name_injective⟩
  · rw [refused]
    exact iff_of_false nofun (unnamed backend)

/-- Reading refuses exactly the texts that are no backend's name, and keeps what it refused. -/
theorem ofName_eq_error_iff {text : String} {unknown : UnknownBackend} :
    ofName text = .error unknown ↔
      unknown.name = text ∧ ∀ backend : Backend, text ≠ backend.name := by
  rcases ofName_cases text with ⟨named, same, accepted⟩ | ⟨unnamed, refused⟩
  · rw [accepted]
    exact iff_of_false nofun (fun refused => refused.2 named same)
  · rw [refused, Except.error.injEq]
    constructor
    · rintro rfl
      exact ⟨rfl, unnamed⟩
    · rintro ⟨rfl, -⟩
      rfl

theorem ofName_inj {first second : String} : ofName first = ofName second ↔ first = second := by
  constructor
  · intro same
    rcases ofName_cases second with ⟨backend, rfl, accepted⟩ | ⟨-, refused⟩
    · rw [accepted] at same
      exact ofName_eq_ok_iff.mp same
    · rw [refused] at same
      exact (ofName_eq_error_iff.mp same).1.symm
  · exact congrArg ofName

end Backend

end Tasking
