/-
# Environments

The values of a finite table of variables are texts in a session and raw bytes in a
process. An absent name is not the same as a name with an empty value: whoever reads the
table decides what the difference means.
-/

import Tasking.Setting

namespace Tasking

structure Environment (α : Type) where
  /-- The first entry of a name counts. -/
  entries : List (String × α)

namespace Environment

variable {α β : Type}

def empty : Environment α := ⟨[]⟩

instance : Inhabited (Environment α) := ⟨empty⟩

def get? (environment : Environment α) (name : String) : Option α :=
  environment.entries.lookup name

def erase (environment : Environment α) (name : String) : Environment α :=
  ⟨environment.entries.filter (fun entry => name != entry.1)⟩

def insert (environment : Environment α) (name : String) (value : α) : Environment α :=
  ⟨(name, value) :: (environment.erase name).entries⟩

/-- Of two entries for one name the later one counts. -/
def ofList (pairs : List (String × α)) : Environment α :=
  pairs.foldl (fun environment entry => environment.insert entry.1 entry.2) empty

def map (image : α → β) (environment : Environment α) : Environment β :=
  ⟨environment.entries.map (fun entry => (entry.1, image entry.2))⟩

@[simp]
theorem get?_empty (name : String) : (empty : Environment α).get? name = none := rfl

/-- The first entry decides about its own name and about no other. -/
private theorem lookup_entry (key other : String) (value : α) (rest : List (String × α)) :
    ((key, value) :: rest).lookup other = if other = key then some value else rest.lookup other := by
  by_cases asked : other = key
  · simp [asked]
  · simp [List.lookup_cons, asked, beq_eq_false_iff_ne.mpr asked]

theorem get?_erase (environment : Environment α) (name other : String) :
    (environment.erase name).get? other =
      if other = name then none else environment.get? other := by
  obtain ⟨entries⟩ := environment
  simp only [erase, get?]
  induction entries with
  | nil => simp
  | cons entry rest ih =>
      obtain ⟨key, value⟩ := entry
      by_cases erased : name = key
      · subst erased
        by_cases asked : other = name <;> simp_all [lookup_entry]
      · by_cases asked : other = key
        · subst asked
          have kept : ¬ other = name := fun same => erased same.symm
          simp [erased, kept]
        · simp [erased, asked, lookup_entry, ih]

theorem get?_insert (environment : Environment α) (name other : String) (value : α) :
    (environment.insert name value).get? other =
      if other = name then some value else environment.get? other := by
  have apart := environment.get?_erase name other
  simp only [get?] at apart
  by_cases asked : other = name <;> simp_all [insert, get?, lookup_entry]

@[simp]
theorem get?_map (image : α → β) (environment : Environment α) (name : String) :
    (environment.map image).get? name = (environment.get? name).map image := by
  obtain ⟨entries⟩ := environment
  simp only [map, get?]
  induction entries with
  | nil => rfl
  | cons entry rest ih =>
      obtain ⟨key, value⟩ := entry
      by_cases asked : name = key <;> simp_all [lookup_entry]

end Environment

/-- A way to look settings up. The answer is raw: an empty text is an answer. -/
abbrev Source := Setting → Option String

namespace Environment

def source (environment : Environment String) : Source :=
  fun setting => environment.get? setting.name

end Environment

structure Variable where
  name : String
  value : Option String
  /-- The answer with the empty text counted as none. -/
  presentValue : Option String
  deriving DecidableEq, Repr

def Variable.ofAnswer (name : String) (value : Option String) : Variable :=
  ⟨name, value, present value⟩

def Environment.lookUpAll (environment : Environment String) (names : List String) :
    List Variable :=
  names.map (fun name => .ofAnswer name (environment.get? name))

end Tasking
