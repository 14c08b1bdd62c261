/-
# An explanation tells what it explains

An explanation puts texts next to each other without a mark around them, and a text that the
user gave may hold anything: line ends, parentheses, the reason of another rule, or a whole
explanation. All the same nobody can be taken in by it. The explanation of the user's own
text ends in a parenthesis and that of a decision in a truth value, so the last letters tell
the two apart. What stands around the user's text is always the same, so the text is what is
left. And a decision is told by its backend's name, then by the facts, which are four words
as long as no blank is in them.

The selections meant are all that can be made: over any probe, and whatever is answered to
its lookups.
-/

import Tasking.Proofs.Probe.Answers
import Tasking.Proofs.Probe.Soundness
import Tasking.Proofs.Report.Calls
import Tasking.Proofs.Text.Decoding

namespace Tasking

/-- Different backends have names that differ in the first letter, whatever stands behind. -/
theorem Backend.eq_of_name_append {first second : Backend} {rest rest' : List Char}
    (same : first.name.toList ++ rest = second.name.toList ++ rest') : first = second := by
  have letter := congrArg List.head? same
  revert letter
  cases first <;> cases second <;> simp [name]

namespace Facts

/-- There is no blank in what is known of the target. -/
structure IsPlain (facts : Facts) : Prop where
  arch : ' ' ∉ facts.arch.toList
  platform : ' ' ∉ facts.platform.toList
  compiler : ' ' ∉ facts.compiler.toList

/-- What stands between the blanks of the line that shows the facts. -/
def words (facts : Facts) : List (List Char) :=
  ["arch=".toList ++ facts.arch.toList, "platform=".toList ++ facts.platform.toList,
    "compiler=".toList ++ facts.compiler.toList,
    "module=".toList ++ (flagText facts.usingVendorModule).toList]

variable {facts first second : Facts}

theorem toList_text (facts : Facts) : facts.text.toList = [' '].intercalate facts.words := by
  simp only [text, words, String.toList_append, List.intercalate_cons_cons,
    List.intercalate_singleton, List.append_assoc]
  rfl

theorem not_mem_of_mem_words (plain : facts.IsPlain) : ∀ word ∈ facts.words, ' ' ∉ word := by
  have flag : ' ' ∉ (flagText facts.usingVendorModule).toList := by
    cases facts.usingVendorModule <;> decide
  simp only [words, List.forall_mem_cons, List.mem_append, not_or]
  refine ⟨⟨by decide, plain.arch⟩, ⟨by decide, plain.platform⟩, ⟨by decide, plain.compiler⟩,
    ⟨by decide, flag⟩, ?_⟩
  exact List.forall_mem_nil _

theorem splitOn_text (plain : facts.IsPlain) : facts.text.toList.splitOn ' ' = facts.words := by
  rw [toList_text, List.splitOn_intercalate ' ' (not_mem_of_mem_words plain)]
  exact List.cons_ne_nil _ _

theorem flagText_inj {flag flag' : Bool} (same : flagText flag = flagText flag') :
    flag = flag' := by
  revert same
  cases flag <;> cases flag' <;> decide

theorem words_inj (same : first.words = second.words) : first = second := by
  simp only [words, List.cons.injEq, List.append_cancel_left_eq, String.toList_inj, and_true] at same
  obtain ⟨arch, platform, compiler, flag⟩ := same
  cases first
  cases second
  rw [mk.injEq]
  exact ⟨arch, platform, compiler, flagText_inj flag⟩

/-- Facts without blanks are read off the line that shows them. -/
theorem text_inj (plain : first.IsPlain) (plain' : second.IsPlain)
    (same : first.text = second.text) : first = second := by
  apply words_inj
  rw [← splitOn_text plain, ← splitOn_text plain', same]

/-- Whatever the facts are, the line that shows them ends in a truth value. -/
theorem exists_toList_text (facts : Facts) : ∃ shown, facts.text.toList = shown ++ ['e'] := by
  have ends : ∃ letters, (flagText facts.usingVendorModule).toList = letters ++ ['e'] := by
    cases facts.usingVendorModule with
    | false => exact ⟨['f', 'a', 'l', 's'], by decide⟩
    | true => exact ⟨['t', 'r', 'u'], by decide⟩
  obtain ⟨letters, flag⟩ := ends
  rw [text, String.toList_append, flag, ← List.append_assoc]
  exact ⟨_, rfl⟩

end Facts

namespace Selection

variable {selection first second : Selection}

section Making

/-- Some selector can make the selection: over some probe, with some answer to each lookup. -/
def CanBeMade (selection : Selection) : Prop :=
  ∃ (probe : Probe) (lookups : List Setting),
    Query.Unfolds (fun _ _ => True) probe.select (.done selection) lookups

theorem canBeMade_value (probe : Probe) (source : Source) :
    (probe.select.value source).CanBeMade :=
  ⟨probe, Query.Unfolds.exists_done (fun _ => trivial) .start⟩

theorem IsUsersOwn.exists_eq (own : selection.IsUsersOwn) :
    ∃ text, text ≠ "" ∧ selection = .ofOverride text := by
  obtain ⟨choice, rule, facts⟩ := selection
  obtain ⟨text, filled, rfl, rfl, rfl⟩ := own
  exact ⟨text, filled, rfl⟩

theorem IsFromTable.exists_eq (fromTable : selection.IsFromTable) :
    ∃ facts, selection = .ofFacts facts := by
  obtain ⟨choice, rule, found⟩ := selection
  obtain ⟨backend, facts, rfl, rfl, decided, -⟩ := fromTable
  exact ⟨facts, by rw [ofFacts, decided]⟩

/-- These are the selections that can be made. -/
theorem canBeMade_iff :
    selection.CanBeMade ↔
      (∃ text, text ≠ "" ∧ selection = .ofOverride text) ∨ ∃ facts, selection = .ofFacts facts := by
  constructor
  · rintro ⟨probe, lookups, unfolds⟩
    have sound : selection.IsSound :=
      (unfolds.ensures (Probe.ensures_select probe.targetFacts.ensures_true)).1
    rcases sound.one_kind with ⟨own, -⟩ | ⟨-, fromTable⟩
    · exact Or.inl own.exists_eq
    · exact Or.inr fromTable.exists_eq
  · rintro (⟨text, filled, rfl⟩ | ⟨facts, rfl⟩)
    · have made := canBeMade_value (.ofFacts .unknown) (fun _ => some text)
      rwa [Probe.value_select, present_some filled] at made
    · exact canBeMade_value (.ofFacts facts) (fun _ => none)

end Making

section Telling

/-- What an explanation says, from its first letter to its last. -/
def told (selection : Selection) : String :=
  "CHPL_TASKS=" ++ selection.choice.name ++ " (" ++ selection.rule.reason ++ ")\n" ++
    match selection.facts with
    | none => ""
    | some facts => "  " ++ facts.text ++ "\n"

theorem toList_told_ofOverride (text : String) :
    (ofOverride text).told.toList =
      "CHPL_TASKS=".toList ++ (text.toList ++ " (CHPL_TASKS override)\n".toList) := by
  simp only [told, ofOverride, Choice.name, Rule.reason, String.toList_append, List.append_assoc]
  rfl

theorem toList_told_ofFacts (facts : Facts) :
    (ofFacts facts).told.toList =
      "CHPL_TASKS=".toList ++ (facts.decision.backend.name.toList ++
        ((" (" ++ facts.decision.rule.reason ++ ")\n  ").toList ++
          (facts.text.toList ++ ['\n']))) := by
  simp only [told, ofFacts, Choice.name, String.toList_append, List.append_assoc]
  rfl

theorem told_ofOverride_inj {text text' : String}
    (same : (ofOverride text).told = (ofOverride text').told) : text = text' := by
  have letters := congrArg String.toList same
  rw [toList_told_ofOverride, toList_told_ofOverride] at letters
  exact String.toList_injective (List.append_cancel_right (List.append_cancel_left letters))

/-- The user's own text stands in front of a parenthesis, and facts end in a truth value. -/
theorem told_ofOverride_ne (text : String) (facts : Facts) :
    (ofOverride text).told ≠ (ofFacts facts).told := by
  intro same
  obtain ⟨shown, ends⟩ := facts.exists_toList_text
  have letters := congrArg String.toList same
  rw [toList_told_ofOverride, toList_told_ofFacts, ends] at letters
  -- The line end stands last in both, so the letter before it has to tell them apart.
  have last := congrArg (fun letters => letters.reverse.take 2) letters
  simp at last

/-- A decision is told by its backend, and then its facts are. -/
theorem told_ofFacts_inj {facts facts' : Facts} (plain : facts.IsPlain) (plain' : facts'.IsPlain)
    (same : (ofFacts facts).told = (ofFacts facts').told) : facts = facts' := by
  have letters := congrArg String.toList same
  rw [toList_told_ofFacts, toList_told_ofFacts] at letters
  have names := List.append_cancel_left letters
  have backend := Backend.eq_of_name_append names
  rw [Facts.decision_eq_of_backend_eq backend] at names
  have shown := List.append_cancel_left (List.append_cancel_left names)
  exact Facts.text_inj plain plain' (String.toList_injective (List.append_cancel_right shown))

end Telling

section Reporting

/-- A report that was explained and met with no failure added this to the second sink. -/
def IsExplainedBy (selection : Selection) (text : Bytes) : Prop :=
  ∃ streams : Streams, (selection.report true streams).2 = none ∧
    (selection.report true streams).1.diag.taken = streams.diag.taken ++ text

/-- Such a report adds all that it has to say. -/
theorem IsExplainedBy.eq_encode_told {text : Bytes} (explained : selection.IsExplainedBy text) :
    text = Utf8.encode selection.told := by
  obtain ⟨streams, worked, added⟩ := explained
  have whole := (taken_of_report worked).1
  exact List.append_cancel_left (added.symm.trans whole)

/-- A sink that takes everything takes it. -/
theorem isExplainedBy_encode_told (selection : Selection) :
    selection.IsExplainedBy (Utf8.encode selection.told) := by
  have takes (bytes : Bytes) : Sink.unlimited.writeAll bytes = ({ taken := bytes }, none) :=
    Sink.writeAll_of_unlimited rfl bytes
  have written : selection.report true ⟨.unlimited, .unlimited⟩ =
      (⟨{ taken := Utf8.encode selection.line }, { taken := Utf8.encode selection.told }⟩, none) := by
    rw [report, Sink.writeTexts_eq, ← said_eq, takes]
    simp only [Sink.writeText, takes]
    rfl
  refine ⟨⟨.unlimited, .unlimited⟩, ?_, ?_⟩
  · rw [written]
  · rw [written]
    rfl

/-- There are no blanks in the facts, if the selection has any. -/
def HasPlainFacts (selection : Selection) : Prop :=
  ∀ facts, selection.facts = some facts → facts.IsPlain

end Reporting

/-- Selections with one explanation are one selection, as long as no facts hold a blank. For a
text of the user's own this is so without any condition, and so it never passes for a
decision or for another text. -/
theorem explanation_identifies {text : Bytes} (made : first.CanBeMade) (made' : second.CanBeMade)
    (explained : first.IsExplainedBy text) (explained' : second.IsExplainedBy text) :
    (first.HasPlainFacts → second.HasPlainFacts → first = second) ∧
      ∀ own, first.choice = .override own → first = second := by
  have same : first.told = second.told :=
    Utf8.encode_inj (explained.eq_encode_told.symm.trans explained'.eq_encode_told)
  rcases canBeMade_iff.mp made with ⟨own, -, rfl⟩ | ⟨facts, rfl⟩
  · have alike : ofOverride own = second := by
      rcases canBeMade_iff.mp made' with ⟨own', -, rfl⟩ | ⟨facts, rfl⟩
      · rw [told_ofOverride_inj same]
      · exact absurd same (told_ofOverride_ne own facts)
    exact ⟨fun _ _ => alike, fun _ _ => alike⟩
  · refine ⟨fun plain plain' => ?_, fun own chosen => nomatch chosen⟩
    rcases canBeMade_iff.mp made' with ⟨own, -, rfl⟩ | ⟨facts', rfl⟩
    · exact absurd same.symm (told_ofOverride_ne own facts)
    · rw [told_ofFacts_inj (plain facts rfl) (plain' facts' rfl) same]

/-- The architecture of the machine at hand counts as none in particular, so it is explained as
that, and there is no other selection with this explanation. -/
theorem explanation_identifies_on_native :
    ∃ first second : Selection, ∃ text : Bytes,
      first = Probe.ofSettings.select.value
        (Environment.empty.insert "CHPL_TARGET_ARCH" "native").source ∧
      second = Probe.ofSettings.select.value
        (Environment.empty.insert "CHPL_TARGET_ARCH" "none").source ∧
      (first.CanBeMade ∧ first.HasPlainFacts ∧ first.IsExplainedBy text) ∧
      (second.CanBeMade ∧ second.HasPlainFacts ∧ second.IsExplainedBy text) ∧ first = second := by
  have made (arch : String) := canBeMade_value .ofSettings
    (Environment.empty.insert "CHPL_TARGET_ARCH" arch).source
  have explained (arch : String) := isExplainedBy_encode_told (Probe.ofSettings.select.value
    (Environment.empty.insert "CHPL_TARGET_ARCH" arch).source)
  have plain : (Probe.ofSettings.select.value
      (Environment.empty.insert "CHPL_TARGET_ARCH" "native").source).HasPlainFacts := by
    intro facts found
    cases found
    exact ⟨by decide, by decide, by decide⟩
  have plain' : (Probe.ofSettings.select.value
      (Environment.empty.insert "CHPL_TARGET_ARCH" "none").source).HasPlainFacts := by
    intro facts found
    cases found
    exact ⟨by decide, by decide, by decide⟩
  obtain ⟨same, -⟩ := explanation_identifies (made "native") (made "none") (explained "native")
    (explained "none")
  exact ⟨_, _, _, rfl, rfl, ⟨made _, plain, explained _⟩, ⟨made _, plain', explained _⟩,
    same plain plain'⟩

end Selection

end Tasking
