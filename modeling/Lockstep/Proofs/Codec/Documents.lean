import Lockstep.Proofs.Codec.Run
import Lockstep.Proofs.Codec.Table
import Lockstep.Scenario.Export

/-!
Exports, tables and programs are read back as they were written.

What is kept is restored from its JSON and from either text of it (`Kept.restored`). An export is
kept (`RunExport.kept`) if its counts are words and it has no fitness, which would be a float. What
it leaves out is no member of its document, and comes back as missing.
-/
namespace Lockstep

open Json

namespace Json

variable {α : Type} {write : α → Json} {read : Json → Option α} {value : α}

/-- The value is read back from what is written of it, as JSON and as either text. -/
def Restored (write : α → Json) (read : Json → Option α) (value : α) : Prop :=
  read (write value) = some value ∧
    ∀ text ∈ [(write value).compact, (write value).pretty],
      (Json.parse? text).bind read = some value

theorem Kept.restored (kept : Kept write read value) : Restored write read value := by
  refine ⟨kept.back, ?_⟩
  intro text among
  rcases List.mem_pair.mp among with rfl | rfl
  · exact kept.parse Style.spaced_compact
  · exact kept.parse Style.spaced_pretty

end Json

namespace RunExport

variable {document : RunExport}

/-- Every count in the document is a word. -/
structure InWords (document : RunExport) : Prop where
  config : document.config.InWords
  maxTicks : document.maxTicks < wordCount
  result : ∀ result ∈ document.result, result.InWords

theorem plain_memberIf {α : Type} {encode : α → Json} {value : Option α} (name : String)
    (each : ∀ known ∈ value, (encode known).Plain) : (obj (memberIf name encode value)).Plain := by
  cases value with
  | none => exact plain_empty
  | some known => exact plain_member (each known rfl) plain_empty

/-- What has no value is not a member of the document. -/
theorem field?_toJson (unscored : document.fitness = none) :
    document.toJson.field? 5 "failure_reason" = some (document.failureReason.map .str) ∧
      document.toJson.field? 6 "fitness" = some none ∧
        document.toJson.field? 7 "result" = some (document.result.map RunResult.toJson) := by
  rw [toJson, unscored]
  cases document.failureReason <;> cases document.result <;> exact ⟨rfl, rfl, rfl⟩

theorem kept (words : document.InWords) (unscored : document.fitness = none) :
    Kept toJson ofJson? document := by
  have scenario := kept_str document.scenario
  have seed := kept_nat document.seed.toNat_lt
  have config := NetworkConfig.kept words.config
  have maxTicks := kept_nat words.maxTicks
  have passed := kept_bool document.passed
  have reason : ∀ known ∈ document.failureReason, Kept .str str? known :=
    fun known _ => kept_str known
  have result : ∀ known ∈ document.result,
      Kept RunResult.toJson (RunResult.ofJson? .namedOrListed) known :=
    fun known given => RunResult.kept (words.result known given) _
  refine ⟨?_, ?_⟩
  · rw [toJson, unscored]
    refine plain_append (plain_append (plain_append ?_ ?_) plain_empty) ?_
    · exact plain_member scenario.plain <| plain_member seed.plain <| plain_member config.plain <|
        plain_member maxTicks.plain <| plain_member passed.plain plain_empty
    · exact plain_memberIf _ fun known given => (reason known given).plain
    · exact plain_memberIf _ fun known given => (result known given).plain
  · have fitness : ∀ known ∈ (none : Option Float), Kept float float? known := nofun
    rw [toJson, unscored, ofJson?]
    refine made_of_form rfl <| made_of_required scenario ?_ <| made_of_required seed ?_ <|
      made_of_required config ?_ <| made_of_required maxTicks ?_ <| made_of_required passed ?_ <|
        made_of_optional reason (fun _ _ => nofun) ?_ <| made_of_optional fitness nofun ?_ <|
          made_of_optional result (fun _ _ => nofun) ?_ ?made
    case made =>
      rw [UInt64.ofNat_toNat, ← unscored]
      rfl
    -- Where a member stands depends on those that are left out before it.
    all_goals cases document.failureReason <;> cases document.result <;> rfl

end RunExport

/-- Every export without a fitness, every table and every program is read back from its JSON and
from its text, given that the counts in it are words. The reason, the fitness and the result are
members of an export only if it has them, and come back as missing otherwise. -/
theorem documents_restored :
    (∀ document : RunExport, document.InWords → document.fitness = none →
      Restored RunExport.toJson RunExport.ofJson? document ∧
        RunExport.parse? document.render = some document ∧
        document.toJson.field? 5 "failure_reason" = some (document.failureReason.map .str) ∧
        document.toJson.field? 6 "fitness" = some none ∧
        document.toJson.field? 7 "result" = some (document.result.map RunResult.toJson)) ∧
      (∀ table : SymbolTable, table.InWords →
        Restored SymbolTable.toJson SymbolTable.ofJson? table) ∧
      ∀ program : Bytecode, program.InWords →
        Restored Bytecode.toJson Bytecode.ofJson? program := by
  refine ⟨fun document words unscored => ?_, fun table words => ?_, fun program words => ?_⟩
  · have kept := RunExport.kept words unscored
    exact ⟨kept.restored, kept.parse Style.spaced_pretty, RunExport.field?_toJson unscored⟩
  · exact (SymbolTable.kept words).restored
  · exact (Bytecode.kept words).restored

/-- The least and the greatest words, a text with a quote, a backslash and control characters, and
an export without a reason. -/
theorem documents_restored_extremes :
    ∃ (document : RunExport) (table : SymbolTable) (program : Bytecode),
      document.seed = 18446744073709551615 ∧ document.failureReason = none ∧
        document.result.bind RunResult.failureCause =
          some (.programFault (.custom "\"\\\n\x01")) ∧
        table.symbols.map Symbol.id = [0, 18446744073709551615] ∧
        program.code.toList = [.push (-9223372036854775808), .jump 18446744073709551615] ∧
        RunExport.parse? document.render = some document ∧
        Restored SymbolTable.toJson SymbolTable.ofJson? table ∧
        Restored Bytecode.toJson Bytecode.ofJson? program := by
  have greatest : 18446744073709551615 < wordCount := by decide
  have least : 0 < wordCount := by decide
  let result : RunResult := {
    outcome := .failed 18446744073709551615 0 (.programFault (.custom "\"\\\n\x01"))
    ticksRun := 18446744073709551615
    nodes := [⟨0, #[-9223372036854775808, 9223372036854775807], 0, 0, 0, true⟩]
    stats := ⟨18446744073709551615, 0, 0, 0, 0, 0⟩ }
  have resultWords : result.InWords := by
    refine ⟨⟨greatest, least, trivial⟩, greatest, ?_, ⟨greatest, least, least, least, least, least⟩⟩
    exact List.forall_mem_singleton.mpr ⟨least, least, least, least⟩
  let document : RunExport := {
    scenario := "", seed := 18446744073709551615, config := {}, maxTicks := 18446744073709551615
    result := some result }
  have documentWords : document.InWords := by
    refine ⟨⟨by decide, by decide, by decide, by decide, nofun⟩, greatest, ?_⟩
    rintro _ ⟨⟩
    exact resultWords
  let symbol : Symbol := ⟨0, "", .constant, true, true, .constant (-9223372036854775808)⟩
  let span : Span := ⟨0, 18446744073709551615⟩
  have spanWords : span.InWords := ⟨least, greatest⟩
  let table : SymbolTable := {
    symbols := [symbol, { symbol with id := 18446744073709551615 }]
    constants := span, send := span, receive := span, incoming := 0, nodeId := 0, vars := span
    copyPolicy := #[], protection := #[true] }
  have tableWords : table.InWords :=
    ⟨List.forall_mem_cons.mpr ⟨least, List.forall_mem_singleton.mpr greatest⟩, spanWords, spanWords,
      spanWords, least, least, spanWords⟩
  let program : Bytecode := ⟨#[.push (-9223372036854775808), .jump 18446744073709551615], 0⟩
  have programWords : program.InWords := by
    refine ⟨?_, least⟩
    intro instr among
    rcases List.mem_pair.mp (Array.mem_toList_iff.mpr among) with rfl | rfl
    · trivial
    · exact greatest
  obtain ⟨exports, tables, programs⟩ := documents_restored
  exact ⟨document, table, program, rfl, rfl, rfl, rfl, rfl, (exports _ documentWords rfl).2.1,
    tables _ tableWords, programs _ programWords⟩

end Lockstep
