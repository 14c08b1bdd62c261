/-
# Paths behind paths

A path behind another one is followed from where the other one leads. Paths are in one
directory exactly if following them leads to the same place from everywhere, so what is
in one directory can be exchanged on either side of a separator, and no normal form has
to be looked at.

Two conditions are needed. The first path must not be empty, or else the separator would
come first and start at the root. The second must be relative to be exchanged, because
behind a separator it no longer starts at the root.
-/

import Tasking.Proofs.Path.Separation

namespace Tasking.Path

variable {above : String}

theorem segments_join (above below : String) :
    segments (above ++ "/" ++ below) = segments above ++ segments below := by
  rw [segments, String.toList_append, String.toList_append, List.append_assoc]
  exact List.splitOn_append_cons_self above.toList below.toList

theorem isAbsolute_append (filled : above ≠ "") (below : String) :
    isAbsolute (above ++ below) = isAbsolute above := by
  have letters : above.toList ≠ [] := fun empty => filled (String.toList_eq_nil_iff.mp empty)
  obtain ⟨letter, rest, front⟩ := List.exists_cons_of_ne_nil letters
  rw [isAbsolute, isAbsolute, String.toList_append, front]
  rfl

/-- The second path is followed from where the first one leads. -/
theorem resolve_join (start : Location) (filled : above ≠ "") (below : String) :
    resolve start (above ++ "/" ++ below) =
      (segments below).foldl Location.follow (resolve start above) := by
  rw [resolve, resolve, segments_join, List.foldl_append, String.append_assoc,
    isAbsolute_append filled]

theorem resolve_of_relative (start : Location) {path : String}
    (relative : ¬ isAbsolute path = true) :
    resolve start path = (segments path).foldl Location.follow start := by
  rw [resolve, if_neg relative]

theorem resolve_join_of_relative (start : Location) (filled : above ≠ "") {below : String}
    (relative : ¬ isAbsolute below = true) :
    resolve start (above ++ "/" ++ below) = resolve (resolve start above) below := by
  rw [resolve_join start filled, resolve_of_relative _ relative]

theorem segments_of_not_mem {name : String} (plain : '/' ∉ name.toList) :
    segments name = [name.toList] :=
  List.splitOn_eq_singleton plain

theorem Location.follow_of_isOrdinaryName (location : Location) {name : List Char}
    (ordinary : IsOrdinaryName name) : location.follow name = location ++ [name] := by
  rw [Location.follow, if_neg (not_or.mpr ⟨ordinary.1, ordinary.2.2.1⟩), if_neg ordinary.2.2.2]

/-- A name leads to the entry of that name. -/
theorem resolve_join_name (start : Location) (filled : above ≠ "") {name : String}
    (ordinary : IsOrdinaryName name.toList) :
    resolve start (above ++ "/" ++ name) = resolve start above ++ [name.toList] := by
  rw [resolve_join start filled, segments_of_not_mem ordinary.2.1, List.foldl_cons,
    Location.follow_of_isOrdinaryName _ ordinary]
  rfl

/-- A parent behind a name leads back to where the name was entered. -/
theorem resolve_join_name_parent (start : Location) (filled : above ≠ "") {name : String}
    (ordinary : IsOrdinaryName name.toList) :
    resolve start (above ++ "/" ++ name ++ "/..") = resolve start above := by
  have apart : "/.." = "/" ++ ".." := by decide
  have filledName : above ++ "/" ++ name ≠ "" := by
    intro empty
    rw [String.append_assoc] at empty
    exact filled (String.append_eq_empty_iff.mp empty).1
  rw [apart, ← String.append_assoc, resolve_join start filledName,
    resolve_join_name start filled ordinary]
  exact List.dropLast_concat

/-- Joining respects directories. Exchanging the first path never matters, and exchanging
a relative second path does not either. Behind a name nothing is confused: the names must
be the same and the directories too. And going back from a name undoes entering it. -/
theorem joining_respects_directories {first second : String} (filledFirst : first ≠ "")
    (filledSecond : second ≠ "") :
    (∀ below, sameDirectory first second = true →
      sameDirectory (first ++ "/" ++ below) (second ++ "/" ++ below) = true) ∧
    (∀ below other, ¬ isAbsolute below = true → ¬ isAbsolute other = true →
      sameDirectory below other = true →
        sameDirectory (first ++ "/" ++ below) (first ++ "/" ++ other) = true) ∧
    (∀ name other : String, IsOrdinaryName name.toList → IsOrdinaryName other.toList →
      (sameDirectory (first ++ "/" ++ name) (second ++ "/" ++ other) = true ↔
        sameDirectory first second = true ∧ name = other)) ∧
    ∀ name : String, IsOrdinaryName name.toList →
      sameDirectory (first ++ "/" ++ name ++ "/..") first = true := by
  simp only [sameDirectory_iff_resolve_eq]
  refine ⟨?_, ?_, ?_, ?_⟩
  · intro below same start
    rw [resolve_join start filledFirst, resolve_join start filledSecond, same]
  · intro below other relative relativeOther same start
    rw [resolve_join_of_relative start filledFirst relative,
      resolve_join_of_relative start filledFirst relativeOther, same]
  · intro name other ordinary ordinaryOther
    have ends (start : Location) :
        resolve start (first ++ "/" ++ name) = resolve start (second ++ "/" ++ other) ↔
          resolve start first = resolve start second ∧ name = other := by
      rw [resolve_join_name start filledFirst ordinary,
        resolve_join_name start filledSecond ordinaryOther, List.append_singleton_inj,
        String.toList_inj]
    simp only [ends, forall_and, forall_const]
  · intro name ordinary start
    exact resolve_join_name_parent start filledFirst ordinary

/-- Two ways to write one directory, with more behind them. -/
theorem joining_respects_directories_by_detour :
    "/opt" ≠ "" ∧ "/opt/x/.." ≠ "" ∧ sameDirectory "/opt" "/opt/x/.." = true ∧
      sameDirectory ("/opt" ++ "/" ++ "../usr") ("/opt/x/.." ++ "/" ++ "../usr") = true ∧
      ¬ isAbsolute ".." = true ∧ ¬ isAbsolute "a/../.." = true ∧
      sameDirectory ".." "a/../.." = true ∧
      sameDirectory ("/opt" ++ "/" ++ "..") ("/opt" ++ "/" ++ "a/../..") = true ∧
      IsOrdinaryName "lib".toList ∧ IsOrdinaryName "bin".toList ∧
      (sameDirectory ("/opt" ++ "/" ++ "lib") ("/opt/x/.." ++ "/" ++ "bin") = true ↔
        sameDirectory "/opt" "/opt/x/.." = true ∧ "lib" = "bin") ∧
      sameDirectory ("/opt" ++ "/" ++ "lib" ++ "/..") "/opt" = true := by
  have filled : "/opt" ≠ "" := by decide
  have filledDetour : "/opt/x/.." ≠ "" := by decide
  have same : sameDirectory "/opt" "/opt/x/.." = true := by decide
  have relative : ¬ isAbsolute ".." = true := by decide
  have relativeDetour : ¬ isAbsolute "a/../.." = true := by decide
  have above : sameDirectory ".." "a/../.." = true := by decide
  have lib : IsOrdinaryName "lib".toList := ⟨by decide, by decide, by decide, by decide⟩
  have bin : IsOrdinaryName "bin".toList := ⟨by decide, by decide, by decide, by decide⟩
  obtain ⟨first, second, names, back⟩ := joining_respects_directories filled filledDetour
  exact ⟨filled, filledDetour, same, first _ same, relative, relativeDetour, above,
    second _ _ relative relativeDetour above, lib, bin, names _ _ lib bin, back _ lib⟩

end Tasking.Path
