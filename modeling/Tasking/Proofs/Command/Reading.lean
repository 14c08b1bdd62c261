/-
# How arguments are read

Arguments are read one after another, so reading can be taken up where a front of them
ends, and where a front cannot be read to its end nothing behind it is looked at. Two
dashes are the one thing that changes what is behind them.

Letters behind one dash are read as though each had a dash of its own. A single argument
can be read to its end in three spellings only.
-/

import Tasking.Command.Options

namespace Tasking.Command.Options

variable {options final : Options}

theorem readArgument_short {letter : Char} (plain : letter ≠ '-') (options : Options)
    (rest : List Char) :
    options.readArgument ('-' :: letter :: rest) = options.readLetters (letter :: rest) := by
  rw [readArgument]
  exact plain

/-- A switch with a letter can be spelled with its letter. -/
theorem readArgument_verbose (options : Options) :
    options.readArgument "-v".toList = options.readArgument "--verbose".toList := by
  have long : options.readArgument "--verbose".toList = options.turnOn .verbose := rfl
  have short : options.readArgument "-v".toList = options.readLetters ['v'] := rfl
  have named : Switch.ofLetter? 'v' = some .verbose := rfl
  rw [long, short, readLetters, named]
  cases turned : options.turnOn .verbose with
  | error stop => simp only [turned]
  | ok later =>
      simp only [turned]
      rfl

/-- Two dashes let the reading end there, if nothing is behind them. -/
theorem readAll_dashes_eq_ok_iff {rest : List (List Char)} :
    options.readAll (['-', '-'] :: rest) = .ok final ↔ rest = [] ∧ final = options := by
  constructor
  · intro read
    cases rest with
    | nil =>
        cases read
        exact ⟨rfl, rfl⟩
    | cons extra others => cases read
  · rintro ⟨rfl, rfl⟩
    rfl

theorem readAll_cons {argument : List Char} (plain : argument ≠ ['-', '-']) (options : Options)
    (rest : List (List Char)) :
    options.readAll (argument :: rest) =
      (options.readArgument argument >>= fun options => options.readAll rest) := by
  rw [readAll.eq_def]
  refine (if_neg plain).trans ?_
  cases options.readArgument argument with
  | error stop => rfl
  | ok options => rfl

theorem readAll_cons_eq_ok_iff {argument : List Char} (plain : argument ≠ ['-', '-'])
    {rest : List (List Char)} :
    options.readAll (argument :: rest) = .ok final ↔
      ∃ later, options.readArgument argument = .ok later ∧ later.readAll rest = .ok final := by
  rw [readAll_cons plain]
  cases options.readArgument argument with
  | error stop =>
      constructor
      · intro read
        cases read
      · rintro ⟨later, read, -⟩
        cases read
  | ok later =>
      constructor
      · exact fun read => ⟨later, rfl, read⟩
      · rintro ⟨_, ⟨⟩, read⟩
        exact read

/-- Without two dashes in front, reading is taken up where the front ends. -/
theorem readAll_append {front : List (List Char)} (plain : ['-', '-'] ∉ front)
    (options : Options) (back : List (List Char)) :
    options.readAll (front ++ back) =
      (options.readAll front >>= fun options => options.readAll back) := by
  induction front generalizing options with
  | nil => rfl
  | cons argument rest ih =>
      have here : argument ≠ ['-', '-'] := fun same => plain (same ▸ List.mem_cons_self)
      have there : ['-', '-'] ∉ rest := fun among => plain (List.mem_cons_of_mem _ among)
      rw [List.cons_append, readAll_cons here, readAll_cons here]
      cases options.readArgument argument with
      | error stop => rfl
      | ok options => exact ih there options

/-- What stops the reading of some arguments stops it whatever follows them. -/
theorem readAll_append_of_error {front : List (List Char)} {stop : Stop}
    (stopped : options.readAll front = .error stop) (more : List (List Char)) :
    options.readAll (front ++ more) = .error stop := by
  induction front generalizing options with
  | nil => cases stopped
  | cons argument rest ih =>
      by_cases dashes : argument = ['-', '-']
      · subst dashes
        cases rest with
        | nil => cases stopped
        | cons extra others => exact stopped
      · rw [readAll_cons dashes] at stopped
        rw [List.cons_append, readAll_cons dashes]
        cases read : options.readArgument argument with
        | error other =>
            rw [read] at stopped
            exact stopped
        | ok options =>
            rw [read] at stopped
            exact ih stopped

/-- Letters behind one dash are read as though each had a dash of its own. -/
theorem readLetters_bind_readAll {letters : List Char} (plain : '-' ∉ letters)
    (options : Options) (back : List (List Char)) :
    (options.readLetters letters >>= fun options => options.readAll back) =
      options.readAll (letters.map (fun letter => ['-', letter]) ++ back) := by
  induction letters generalizing options with
  | nil => rfl
  | cons letter rest ih =>
      have here : letter ≠ '-' := fun same => plain (same ▸ List.mem_cons_self)
      have there : '-' ∉ rest := fun among => plain (List.mem_cons_of_mem _ among)
      have apart : ['-', letter] ≠ ['-', '-'] :=
        fun same => here (List.cons.inj (List.cons.inj same).2).1
      rw [List.map_cons, List.cons_append, readAll_cons apart, readArgument_short here,
        readLetters, readLetters]
      cases Switch.ofLetter? letter with
      | none => rfl
      | some switch =>
          cases turned : options.turnOn switch with
          | error stop => simp only [turned]; rfl
          | ok options =>
              simp only [turned]
              exact ih there options

theorem readAll_cluster {letters : List Char} (some : letters ≠ []) (plain : '-' ∉ letters)
    (options : Options) (back : List (List Char)) :
    options.readAll (('-' :: letters) :: back) =
      options.readAll (letters.map (fun letter => ['-', letter]) ++ back) := by
  cases letters with
  | nil => exact absurd rfl some
  | cons letter rest =>
      have here : letter ≠ '-' := fun same => plain (same ▸ List.mem_cons_self)
      have apart : '-' :: letter :: rest ≠ ['-', '-'] :=
        fun same => here (List.cons.inj (List.cons.inj same).2).1
      rw [readAll_cons apart, readArgument_short here]
      exact readLetters_bind_readAll plain options back

/-- Only two of the switches let the reading go on, and each of them once. -/
theorem turnOn_eq_ok_iff {switch : Switch} :
    options.turnOn switch = .ok final ↔
      switch = .explain ∧ options.explain = false ∧ final = { options with explain := true } ∨
        switch = .verbose ∧ options.verbose = false ∧
          final = { options with verbose := true } := by
  constructor
  · intro turned
    cases switch with
    | explain =>
        cases on : options.explain with
        | true => simp [turnOn, on] at turned
        | false =>
            simp only [turnOn, on, Bool.false_eq_true, if_false, Except.ok.injEq] at turned
            exact Or.inl ⟨rfl, rfl, turned.symm⟩
    | verbose =>
        cases on : options.verbose with
        | true => simp [turnOn, on] at turned
        | false =>
            simp only [turnOn, on, Bool.false_eq_true, if_false, Except.ok.injEq] at turned
            exact Or.inr ⟨rfl, rfl, turned.symm⟩
    | help | version => cases turned
  · rintro (⟨rfl, off, rfl⟩ | ⟨rfl, off, rfl⟩)
    · simp [turnOn, off]
    · simp [turnOn, off]

theorem ofLongName?_eq_some {name : List Char} {switch : Switch}
    (found : Switch.ofLongName? name = some switch) : name = switch.longName := by
  rw [Switch.ofLongName?] at found
  have named := List.find?_some found
  exact (beq_iff_eq.mp named).symm

theorem ofLetter?_eq_some {letter : Char} {switch : Switch}
    (found : Switch.ofLetter? letter = some switch) : switch.letter? = some letter := by
  rw [Switch.ofLetter?] at found
  have named := List.find?_some found
  exact beq_iff_eq.mp named

/-- Behind two dashes stands the name of a switch, and nothing behind the name. -/
theorem readLong_eq_ok_iff {text : List Char} :
    options.readLong text = .ok final ↔
      ∃ switch : Switch, text = switch.longName ∧ options.turnOn switch = .ok final := by
  constructor
  · intro read
    have whole := @List.takeWhile_append_dropWhile _ (fun letter => letter != '=') text
    rw [readLong] at read
    cases named : Switch.ofLongName? (text.takeWhile fun letter => letter != '=') with
    | none => simp [named] at read
    | some switch =>
        cases behind : text.dropWhile (fun letter => letter != '=') with
        | cons mark value => simp [named, behind] at read
        | nil =>
            simp only [named, behind] at read
            rw [behind, List.append_nil, ofLongName?_eq_some named] at whole
            exact ⟨switch, whole.symm, read⟩
  · rintro ⟨switch, rfl, turned⟩
    cases switch <;> exact turned

/-- Of the letters only one lets the reading go on, and only once. -/
theorem readLetters_eq_ok_iff {letters : List Char} :
    options.readLetters letters = .ok final ↔
      letters = [] ∧ final = options ∨
        letters = ['v'] ∧ options.verbose = false ∧
          final = { options with verbose := true } := by
  constructor
  · intro read
    induction letters generalizing options with
    | nil =>
        cases read
        exact Or.inl ⟨rfl, rfl⟩
    | cons letter rest ih =>
        rw [readLetters] at read
        cases named : Switch.ofLetter? letter with
        | none => simp [named] at read
        | some switch =>
            simp only [named] at read
            have lettered := ofLetter?_eq_some named
            cases turned : options.turnOn switch with
            | error stop => simp [turned] at read
            | ok later =>
                simp only [turned] at read
                rcases turnOn_eq_ok_iff.mp turned with ⟨rfl, -, -⟩ | ⟨rfl, off, rfl⟩
                · cases lettered
                · cases lettered
                  rcases ih read with ⟨rfl, rfl⟩ | ⟨-, on, -⟩
                  · exact Or.inr ⟨rfl, off, rfl⟩
                  · cases on
  · rintro (⟨rfl, rfl⟩ | ⟨rfl, off, rfl⟩)
    · rfl
    · have turned : options.turnOn .verbose = .ok { options with verbose := true } :=
        turnOn_eq_ok_iff.mpr (Or.inr ⟨rfl, off, rfl⟩)
      have named : Switch.ofLetter? 'v' = some .verbose := rfl
      rw [readLetters, named]
      simp only [turned]
      rfl

/-- A single argument lets the reading go on in three spellings only. -/
theorem readArgument_eq_ok_iff {argument : List Char} :
    options.readArgument argument = .ok final ↔
      argument = "--explain".toList ∧ options.explain = false ∧
          final = { options with explain := true } ∨
        (argument = "--verbose".toList ∨ argument = "-v".toList) ∧ options.verbose = false ∧
          final = { options with verbose := true } := by
  constructor
  · intro read
    rw [readArgument.eq_def] at read
    split at read
    · next text =>
        obtain ⟨switch, rfl, turned⟩ := readLong_eq_ok_iff.mp read
        rcases turnOn_eq_ok_iff.mp turned with ⟨rfl, off, rfl⟩ | ⟨rfl, off, rfl⟩
        · exact Or.inl ⟨rfl, off, rfl⟩
        · exact Or.inr ⟨Or.inl rfl, off, rfl⟩
    · next letter rest _ =>
        rcases readLetters_eq_ok_iff.mp read with ⟨empty, -⟩ | ⟨single, off, rfl⟩
        · cases empty
        · cases single
          exact Or.inr ⟨Or.inr rfl, off, rfl⟩
    · cases read
  · rintro (⟨rfl, off, rfl⟩ | ⟨rfl | rfl, off, rfl⟩)
    · exact readLong_eq_ok_iff.mpr
        ⟨.explain, rfl, turnOn_eq_ok_iff.mpr (Or.inl ⟨rfl, off, rfl⟩)⟩
    · exact readLong_eq_ok_iff.mpr
        ⟨.verbose, rfl, turnOn_eq_ok_iff.mpr (Or.inr ⟨rfl, off, rfl⟩)⟩
    · exact readLetters_eq_ok_iff.mpr (Or.inr ⟨rfl, off, rfl⟩)

end Tasking.Command.Options
