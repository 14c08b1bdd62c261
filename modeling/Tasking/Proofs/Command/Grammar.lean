/-
# What the command line may say

The command takes a list of switches, none of them twice in whatever spelling, and two
dashes at the end if one likes. Anything else stops the reading at some argument, and
the run is over with that argument: what follows it is not looked at, and the
environment is not looked at either. So there is a shortest front of the arguments that
stops the reading, and the front alone says what is written. A run that goes on prints what
is selected in its environment, and only such a run does so in every environment.

`TurnInto` describes the switches by counting them, so that the order and the place of a
switch cannot matter, and neither can the arguments around it.
-/

import Mathlib.Data.Nat.Find
import Tasking.Proofs.Command.Reading
import Tasking.Proofs.Command.Streams
import Tasking.Proofs.Text.Decoding

namespace Tasking.Command

/-- Switches in the spellings that a command can go on with, none of them twice. -/
structure IsSwitchList (switches : List String) : Prop where
  known : ∀ switch ∈ switches, switch ∈ ["--explain", "--verbose", "-v"]
  explain : switches.count "--explain" ≤ 1
  verbose : switches.count "--verbose" + switches.count "-v" ≤ 1

/-- Arguments that a command can go on with: switches, and perhaps two dashes at the end. -/
def WellFormed (arguments : List String) : Prop :=
  ∃ switches, IsSwitchList switches ∧ (arguments = switches ∨ arguments = switches ++ ["--"])

/-- Leaving out switches makes none of them be given twice. -/
theorem IsSwitchList.sublist {switches fewer : List String} (once : IsSwitchList switches)
    (left : fewer.Sublist switches) : IsSwitchList fewer where
  known switch among := once.known switch (left.subset among)
  explain := Nat.le_trans (left.count_le _) once.explain
  verbose := Nat.le_trans (Nat.add_le_add (left.count_le _) (left.count_le _)) once.verbose

/-- Whatever is left out of well-formed arguments, the rest is well-formed. -/
theorem WellFormed.sublist {arguments fewer : List String} (fitting : WellFormed arguments)
    (left : fewer.Sublist arguments) : WellFormed fewer := by
  obtain ⟨switches, once, rfl | rfl⟩ := fitting
  · exact ⟨fewer, once.sublist left, Or.inl rfl⟩
  · obtain ⟨front, back, rfl, inFront, inBack⟩ := List.sublist_append_iff.mp left
    refine ⟨front, once.sublist inFront, ?_⟩
    rcases List.sublist_cons_iff.mp inBack with nothing | ⟨more, rfl, nothing⟩
    · obtain rfl := List.sublist_nil.mp nothing
      exact Or.inl (List.append_nil front)
    · obtain rfl := List.sublist_nil.mp nothing
      exact Or.inr rfl

theorem WellFormed.count_explain_le {arguments : List String} (fitting : WellFormed arguments) :
    arguments.count "--explain" ≤ 1 := by
  obtain ⟨switches, once, rfl | rfl⟩ := fitting
  · exact once.explain
  · rw [List.count_append, List.count_singleton, if_neg (by decide)]
    exact once.explain

namespace Options

/-- The options that well-formed arguments ask for. -/
def given (arguments : List String) : Options where
  explain := decide ("--explain" ∈ arguments)
  verbose := decide ("--verbose" ∈ arguments ∨ "-v" ∈ arguments)

/-- The switches turn the options into others. Each of them was off before, and is given at
most once, or the sums would be too great. -/
structure TurnInto (options : Options) (switches : List String) (final : Options) : Prop where
  known : ∀ switch ∈ switches, switch ∈ ["--explain", "--verbose", "-v"]
  explain : final.explain.toNat = options.explain.toNat + switches.count "--explain"
  verbose : final.verbose.toNat =
    options.verbose.toNat + (switches.count "--verbose" + switches.count "-v")

variable {options final : Options} {arguments switches : List String}

theorem turnInto_nil_iff : options.TurnInto [] final ↔ final = options := by
  have same : ∀ first second : Bool, first.toNat = second.toNat → first = second := by decide
  constructor
  · rintro ⟨-, explain, verbose⟩
    exact Options.mk.injEq .. ▸ ⟨same _ _ explain, same _ _ verbose⟩
  · rintro rfl
    exact ⟨fun _ among => absurd among List.not_mem_nil, rfl, rfl⟩

/-- A switch that adds to a count of at most one was off. -/
theorem eq_false_of_toNat_eq {before after : Bool} {count : Nat}
    (counted : after.toNat = before.toNat + (count + 1)) : before = false := by
  have most := after.toNat_le
  cases before with
  | false => rfl
  | true =>
      rw [Bool.toNat_true] at counted
      omega

theorem true_toNat_add (count : Nat) : true.toNat + count = false.toNat + (count + 1) := by
  rw [Bool.toNat_true, Bool.toNat_false]
  omega

theorem count_cons_explain (rest : List String) :
    ("--explain" :: rest).count "--explain" = rest.count "--explain" + 1 ∧
      ("--explain" :: rest).count "--verbose" + ("--explain" :: rest).count "-v" =
        rest.count "--verbose" + rest.count "-v" := by
  rw [List.count_cons_self, List.count_cons_of_ne (by decide), List.count_cons_of_ne (by decide)]
  exact ⟨rfl, rfl⟩

theorem count_cons_verbose {switch : String} (spelled : switch = "--verbose" ∨ switch = "-v")
    (rest : List String) :
    (switch :: rest).count "--explain" = rest.count "--explain" ∧
      (switch :: rest).count "--verbose" + (switch :: rest).count "-v" =
        rest.count "--verbose" + rest.count "-v" + 1 := by
  rcases spelled with rfl | rfl
  · rw [List.count_cons_self, List.count_cons_of_ne (by decide), List.count_cons_of_ne (by decide)]
    exact ⟨rfl, Nat.add_right_comm _ _ _⟩
  · rw [List.count_cons_self, List.count_cons_of_ne (by decide), List.count_cons_of_ne (by decide)]
    exact ⟨rfl, rfl⟩

/-- A switch must be off where it is given, and then it is on for what follows. -/
theorem turnInto_cons_iff {argument : String} {rest : List String} :
    options.TurnInto (argument :: rest) final ↔
      ∃ later : Options, options.readArgument argument.toList = .ok later ∧
        later.TurnInto rest final := by
  constructor
  · rintro ⟨known, explain, verbose⟩
    have others : ∀ switch ∈ rest, switch ∈ ["--explain", "--verbose", "-v"] :=
      fun switch among => known switch (List.mem_cons_of_mem _ among)
    have first := known argument List.mem_cons_self
    simp only [List.mem_cons, List.not_mem_nil, or_false] at first
    rcases first with rfl | spelled
    · rw [(count_cons_explain rest).1] at explain
      rw [(count_cons_explain rest).2] at verbose
      have off := eq_false_of_toNat_eq explain
      refine ⟨{ options with explain := true },
        readArgument_eq_ok_iff.mpr (Or.inl ⟨rfl, off, rfl⟩), others, ?_, verbose⟩
      rw [explain, off]
      exact (true_toNat_add _).symm
    · rw [(count_cons_verbose spelled rest).1] at explain
      rw [(count_cons_verbose spelled rest).2] at verbose
      have off := eq_false_of_toNat_eq verbose
      have letters := spelled.imp (congrArg String.toList) (congrArg String.toList)
      refine ⟨{ options with verbose := true },
        readArgument_eq_ok_iff.mpr (Or.inr ⟨letters, off, rfl⟩), others, explain, ?_⟩
      rw [verbose, off]
      exact (true_toNat_add _).symm
  · rintro ⟨later, read, known, explain, verbose⟩
    rcases readArgument_eq_ok_iff.mp read with ⟨letters, off, rfl⟩ | ⟨letters, off, rfl⟩
    · obtain rfl := String.toList_inj.mp letters
      refine ⟨List.forall_mem_cons.mpr ⟨by decide, known⟩, ?_, ?_⟩
      · rw [explain, off, (count_cons_explain rest).1]
        exact true_toNat_add _
      · rw [verbose, (count_cons_explain rest).2]
    · have spelled := letters.imp String.toList_inj.mp String.toList_inj.mp
      refine ⟨List.forall_mem_cons.mpr ⟨?_, known⟩, ?_, ?_⟩
      · rcases spelled with rfl | rfl <;> decide
      · rw [explain, (count_cons_verbose spelled rest).1]
      · rw [verbose, off, (count_cons_verbose spelled rest).2]
        exact true_toNat_add _

/-- Where the first argument is a switch, the others are the other switches. -/
theorem exists_eq_cons_of_spelled {argument : String} {rest switches : List String}
    (switch : argument ≠ "--")
    (spelled : argument :: rest = switches ∨ argument :: rest = switches ++ ["--"]) :
    ∃ others, switches = argument :: others ∧ (rest = others ∨ rest = others ++ ["--"]) := by
  rcases spelled with rfl | same
  · exact ⟨rest, rfl, Or.inl rfl⟩
  · cases switches with
    | nil => exact absurd (List.cons.inj same).1 switch
    | cons first others =>
        obtain ⟨rfl, behind⟩ := List.cons.inj same
        exact ⟨others, rfl, Or.inr behind⟩

/-- Arguments are read to their end just if they are switches that can be turned on, and
perhaps two dashes. -/
theorem readAll_eq_ok_iff :
    options.readAll (arguments.map String.toList) = .ok final ↔
      ∃ switches, options.TurnInto switches final ∧
        (arguments = switches ∨ arguments = switches ++ ["--"]) := by
  -- One switch at a time is taken off both sides, so the options that the rest is read
  -- with vary.
  induction arguments generalizing options with
  | nil =>
      constructor
      · intro read
        cases read
        exact ⟨[], turnInto_nil_iff.mpr rfl, Or.inl rfl⟩
      · rintro ⟨switches, turned, rfl | same⟩
        · rw [turnInto_nil_iff.mp turned]
          rfl
        · exact absurd same.symm (List.append_ne_nil_of_right_ne_nil _ (List.cons_ne_nil _ _))
  | cons argument rest ih =>
      by_cases dashes : argument = "--"
      · subst dashes
        have letters : "--".toList = ['-', '-'] := rfl
        have undashed : ∀ others, ¬ options.TurnInto ("--" :: others) final :=
          fun others turned => absurd (turned.known "--" List.mem_cons_self) (by decide)
        rw [List.map_cons, letters, readAll_dashes_eq_ok_iff, List.map_eq_nil_iff]
        constructor
        · rintro ⟨rfl, rfl⟩
          exact ⟨[], turnInto_nil_iff.mpr rfl, Or.inr rfl⟩
        · rintro ⟨switches, turned, spelled⟩
          cases switches with
          | nil =>
              rcases spelled with same | same
              · cases same
              · exact ⟨(List.cons.inj same).2, turnInto_nil_iff.mp turned⟩
          | cons first others =>
              obtain rfl : "--" = first :=
                spelled.elim (fun same => (List.cons.inj same).1) fun same => (List.cons.inj same).1
              exact absurd turned (undashed others)
      · have plain : argument.toList ≠ ['-', '-'] := fun same => dashes (String.toList_inj.mp same)
        rw [List.map_cons, readAll_cons_eq_ok_iff plain]
        constructor
        · rintro ⟨later, here, read⟩
          obtain ⟨switches, turned, spelled⟩ := ih.mp read
          exact ⟨argument :: switches, turnInto_cons_iff.mpr ⟨later, here, turned⟩,
            spelled.imp (congrArg _) (congrArg _)⟩
        · rintro ⟨switches, turned, spelled⟩
          obtain ⟨others, rfl, behind⟩ := exists_eq_cons_of_spelled dashes spelled
          obtain ⟨later, here, onward⟩ := turnInto_cons_iff.mp turned
          exact ⟨later, here, ih.mpr ⟨others, onward, behind⟩⟩

/-- A count of at most one, as the bit that says whether there is something to count. -/
theorem toNat_eq_count_iff {bit : Bool} {count : Nat} :
    bit.toNat = count ↔ count ≤ 1 ∧ bit = decide (0 < count) := by
  cases bit with
  | false =>
      rw [Bool.toNat_false, eq_comm (a := false), decide_eq_false_iff_not]
      omega
  | true =>
      rw [Bool.toNat_true, eq_comm (a := true), decide_eq_true_iff]
      omega

/-- Where nothing was on before, switches can be turned on just if none of them is given
twice, and then just they are on. -/
theorem turnInto_default_iff :
    TurnInto {} switches final ↔ IsSwitchList switches ∧ final = given switches := by
  have asked : given switches =
      ⟨decide (0 < switches.count "--explain"),
        decide (0 < switches.count "--verbose" + switches.count "-v")⟩ := by
    simp only [given, Nat.add_pos_iff_pos_or_pos, List.count_pos_iff]
  rw [asked]
  constructor
  · rintro ⟨known, explain, verbose⟩
    rw [Bool.toNat_false, Nat.zero_add] at explain verbose
    have explained := toNat_eq_count_iff.mp explain
    have shown := toNat_eq_count_iff.mp verbose
    exact ⟨⟨known, explained.1, shown.1⟩, Options.mk.injEq .. ▸ ⟨explained.2, shown.2⟩⟩
  · rintro ⟨⟨known, explain, verbose⟩, rfl⟩
    refine ⟨known, ?_, ?_⟩
    · rw [Bool.toNat_false, Nat.zero_add]
      exact toNat_eq_count_iff.mpr ⟨explain, rfl⟩
    · rw [Bool.toNat_false, Nat.zero_add]
      exact toNat_eq_count_iff.mpr ⟨verbose, rfl⟩

theorem given_append_dashes (switches : List String) :
    given (switches ++ ["--"]) = given switches := by
  have explain : "--explain" ≠ "--" := by decide
  have verbose : "--verbose" ≠ "--" := by decide
  have letter : "-v" ≠ "--" := by decide
  simp [given, explain, verbose, letter]

end Options

open Options

variable {arguments : List String} {options : Options} {stop : Stop}

/-- The arguments that can be read are the well-formed ones, and they are read as what they
ask for. -/
theorem readArguments_eq_ok_iff :
    readArguments arguments = .ok options ↔
      WellFormed arguments ∧ options = given arguments := by
  rw [readArguments, readAll_eq_ok_iff]
  constructor
  · rintro ⟨switches, turned, spelled⟩
    obtain ⟨once, rfl⟩ := turnInto_default_iff.mp turned
    refine ⟨⟨switches, once, spelled⟩, ?_⟩
    rcases spelled with rfl | rfl
    · rfl
    · exact (given_append_dashes switches).symm
  · rintro ⟨⟨switches, once, spelled⟩, rfl⟩
    refine ⟨switches, turnInto_default_iff.mpr ⟨once, ?_⟩, spelled⟩
    rcases spelled with rfl | rfl
    · rfl
    · exact given_append_dashes switches

theorem readArguments_append_of_error (stopped : readArguments arguments = .error stop)
    (more : List String) : readArguments (arguments ++ more) = .error stop := by
  rw [readArguments, List.map_append]
  exact readAll_append_of_error stopped _

/-- Arguments behind a front without two dashes are read as though they were alone, with
the switches of the front turned on. -/
theorem readArguments_congr_back {front : List String} (plain : "--" ∉ front)
    {first second : List String}
    (same : ∀ options : Options, options.readAll (first.map String.toList) =
      options.readAll (second.map String.toList)) :
    readArguments (front ++ first) = readArguments (front ++ second) := by
  have letters : ['-', '-'] ∉ front.map String.toList := by
    intro among
    obtain ⟨argument, there, dashes⟩ := List.mem_map.mp among
    obtain rfl : argument = "--" := String.toList_inj.mp dashes
    exact plain there
  rw [readArguments, readArguments, List.map_append, List.map_append, readAll_append letters,
    readAll_append letters]
  simp only [same]

/-- Where the reading of arguments stops, it stops at the end of a shortest front. -/
theorem exists_shortest_stopped (illFormed : ¬ WellFormed arguments) :
    ∃ stopped stop, stopped <+: arguments ∧ readArguments stopped = .error stop ∧
      ∀ shorter, shorter <+: stopped → shorter ≠ stopped → WellFormed shorter := by
  classical
  have reaches : ∃ count, ¬ WellFormed (arguments.take count) :=
    ⟨arguments.length, by rwa [List.take_length]⟩
  -- Of the fronts that are ill-formed this is the shortest, and so all before it are not.
  refine ⟨arguments.take (Nat.find reaches), ?_⟩
  cases read : readArguments (arguments.take (Nat.find reaches)) with
  | ok options =>
      exact absurd (readArguments_eq_ok_iff.mp read).1 (Nat.find_spec reaches)
  | error stop =>
      refine ⟨stop, List.take_prefix _ _, rfl, fun shorter front apart => ?_⟩
      have earlier : shorter.length < Nat.find reaches := by
        refine Nat.lt_of_lt_of_le (Nat.lt_of_le_of_ne front.length_le ?_)
          (List.length_take_le _ _)
        exact fun same => apart (front.eq_of_length same)
      have fitting := Nat.find_min reaches earlier
      rw [not_not] at fitting
      rwa [← List.prefix_iff_eq_take.mp (front.trans (List.take_prefix _ _))] at fitting

/-- What a run leaves behind that was stopped, on streams that work. -/
inductive Ends : Stop → Completion → Prop where
  | help : Ends .help ⟨succeeded, Health.works.after (Utf8.encode helpText), Health.works.stream⟩
  | version :
      Ends .version ⟨succeeded, Health.works.after (Utf8.encode versionText), Health.works.stream⟩
  | usage (error : UsageError) :
      Ends (.usage error)
        ⟨misused, Health.works.stream, Health.works.after (Utf8.encode (refusalLine error))⟩

theorem ends_finish (stop : Stop) :
    Ends stop (finish stop ⟨Health.works.stream, Health.works.stream⟩) := by
  cases stop with
  | help =>
      rw [finish, Health.stream, Health.writeTextIfPossible_after, List.nil_append]
      exact .help
  | version =>
      rw [finish, Health.stream, Health.writeTextIfPossible_after, List.nil_append]
      exact .version
  | usage error =>
      rw [finish, Health.stream, Health.writeTextIfPossible_after, List.nil_append]
      exact .usage error

/-- A run, on streams that work, that selects and prints as the options ask. -/
structure Performs (arguments : List String) (options : Options)
    (environment : Environment Bytes) : Prop where
  performs : ∀ streams, run arguments environment streams = perform options environment streams
  /-- The shared selector selects, and its identifier is printed alone on its line. Behind the
  log stands the explanation, if that was asked for. -/
  prints : ∃ selection,
    ((RawSession.start environment).act (.askShared .selection)).answer =
        .answer (.selection selection) ∧
      ((RawSession.start environment).act (.askShared .get)).answer =
        .answer (.text selection.choice.name) ∧
      (runUnhindered arguments environment).code = 0 ∧
      (runUnhindered arguments environment).streams.out.taken =
        Utf8.encode (selection.choice.name ++ "\n") ∧
      (runUnhindered arguments environment).streams.diag.taken =
        Utf8.encodeAll (Log.lines (logFilter options environment) (selectFor environment).2) ++
          if options.explain then Utf8.encodeAll selection.explanation else []

theorem performs_of_ok (read : readArguments arguments = .ok options)
    (environment : Environment Bytes) : Performs arguments options environment where
  performs := run_of_ok read environment
  prints := by
    refine ⟨_, act_start_askShared_selection environment, act_start_askShared_get environment, ?_⟩
    rw [runUnhindered_eq read]
    exact ⟨rfl, rfl, rfl⟩

/-- Only a run that was not stopped prints the answer of every environment. In a single one the
answer may well be the text of the help. -/
theorem wellFormed_of_printsAnswer
    (prints : ∀ environment, PrintsAnswer arguments environment) : WellFormed arguments := by
  cases read : readArguments arguments with
  | ok options => exact (readArguments_eq_ok_iff.mp read).1
  | error stop =>
      have first := (prints (.insert .empty "CHPL_TASKS" (Utf8.encode "a"))).taken_insert (by decide)
      have second := (prints (.insert .empty "CHPL_TASKS" (Utf8.encode "b"))).taken_insert (by decide)
      rw [runUnhindered, run_of_error read] at first second
      exact absurd (Utf8.encode_inj (first.symm.trans second)) (by decide)

/-- How a list of arguments is read. -/
structure ReadsItsGrammar (arguments : List String) : Prop where
  /-- The run goes on to select and print just with well-formed arguments, and does what
  they ask for. -/
  goesOn : WellFormed arguments ↔
    ∃ options, readArguments arguments = .ok options ∧ options = given arguments ∧
      ∀ environment, Performs arguments options environment
  /-- The same by what is to be seen: the answer is printed, whatever it is. -/
  answers : WellFormed arguments ↔ ∀ environment, PrintsAnswer arguments environment
  /-- With other arguments a shortest front ends the run, whatever stands behind it and
  whatever the environment is. -/
  ends : ¬ WellFormed arguments →
    ∃ stopped stop completion, stopped <+: arguments ∧
      (∀ more, readArguments (stopped ++ more) = .error stop) ∧
      (∀ shorter, shorter <+: stopped → shorter ≠ stopped → WellFormed shorter) ∧
      Ends stop completion ∧
      ∀ more environment,
        run (stopped ++ more) environment ⟨Health.works.stream, Health.works.stream⟩ = completion
  /-- Letters behind one dash could each have a dash of their own. -/
  apart : ∀ front letters back, "--" ∉ front → letters ≠ [] → '-' ∉ letters →
    arguments = front ++ String.ofList ('-' :: letters) :: back →
    run arguments =
      run (front ++ (letters.map fun letter => String.ofList ['-', letter]) ++ back)
  /-- The short spelling of a switch could be the long one. -/
  spelled : ∀ front back, "--" ∉ front → arguments = front ++ "-v" :: back →
    run arguments = run (front ++ "--verbose" :: back)

/-- The command line accepts its grammar and nothing else, and is not read beyond the
argument that stops the reading. -/
theorem reads_its_grammar (arguments : List String) : ReadsItsGrammar arguments := by
  constructor
  case goesOn =>
    constructor
    · intro fitting
      have read := readArguments_eq_ok_iff.mpr ⟨fitting, rfl⟩
      exact ⟨given arguments, read, rfl, performs_of_ok read⟩
    · rintro ⟨options, read, -⟩
      exact (readArguments_eq_ok_iff.mp read).1
  case answers =>
    constructor
    · intro fitting
      exact printsAnswer_of_ok (readArguments_eq_ok_iff.mpr ⟨fitting, rfl⟩)
    · exact wellFormed_of_printsAnswer
  case ends =>
    intro illFormed
    obtain ⟨stopped, stop, front, read, shortest⟩ := exists_shortest_stopped illFormed
    have always := readArguments_append_of_error read
    exact ⟨stopped, stop, finish stop ⟨Health.works.stream, Health.works.stream⟩, front, always,
      shortest, ends_finish stop, fun more environment => run_of_error (always more) environment _⟩
  case apart =>
    rintro front letters back plain some undashed rfl
    apply run_congr
    rw [List.append_assoc]
    apply readArguments_congr_back plain
    intro options
    rw [List.map_cons, String.toList_ofList, readAll_cluster some undashed, List.map_append,
      List.map_map]
    simp only [Function.comp_def, String.toList_ofList]
  case spelled =>
    rintro front back plain rfl
    apply run_congr
    apply readArguments_congr_back plain
    intro options
    have short : "-v".toList ≠ ['-', '-'] := by decide
    have long : "--verbose".toList ≠ ['-', '-'] := by decide
    rw [List.map_cons, List.map_cons, readAll_cons short, readAll_cons long, readArgument_verbose]

/-- Letters are read one by one, so help can come before a repeated switch or behind it. -/
example : readArguments ["-vhv"] = .error .help ∧
    readArguments ["-vvh"] = .error (.usage (.repeated .verbose)) := by decide

end Tasking.Command
