import Lockstep.Codec.Program
import Lockstep.Proofs.Json.Kept

/-!
Faults and programs are kept by their documents, given that their counts are words.
-/
namespace Lockstep

open Json

/-- Every count that the fault names is a word. -/
def Fault.InWords : Fault → Prop
  | .writeProtected symbol | .unknownSymbol symbol => symbol < wordCount
  | .invalidJump target => target < wordCount
  | .budgetExhausted budget => budget < wordCount
  | _ => True

theorem Fault.kept {fault : Fault} (words : fault.InWords) : Kept toJson ofJson? fault := by
  cases fault with
  | writeProtected | unknownSymbol | invalidJump | budgetExhausted =>
    exact kept_variant (kept_nat words) rfl (fun _ => rfl) rfl
  | custom reason => exact kept_variant (kept_str reason) rfl (fun _ => rfl) rfl
  | stackUnderflow | stackOverflow | divisionByZero => exact ⟨.str _, rfl⟩

/-- Every symbol and target that the instruction names is a word. -/
def Instr.InWords : Instr → Prop
  | .load symbol | .loadNext symbol | .store symbol => symbol < wordCount
  | .jump target | .jumpIfZero target => target < wordCount
  | _ => True

theorem Instr.kept {instr : Instr} (words : instr.InWords) : Kept toJson ofJson? instr := by
  cases instr with
  | push word => exact kept_variant (kept_cell word) rfl (fun _ => rfl) rfl
  | load | loadNext | store | jump | jumpIfZero =>
    exact kept_variant (kept_nat words) rfl (fun _ => rfl) rfl
  | nodeIndex | dup | pop | swap | add | sub | mul | div | mod | max | min | eq | lt | not | send
  | halt => exact ⟨.str _, rfl⟩

/-- Every count in the program is a word. -/
structure Bytecode.InWords (program : Bytecode) : Prop where
  code : ∀ instr ∈ program.code, instr.InWords
  budget : program.budget < wordCount

theorem Bytecode.kept {program : Bytecode} (words : program.InWords) :
    Kept toJson ofJson? program := by
  have code : Kept (list Instr.toJson) (list? Instr.ofJson?) program.code.toList :=
    kept_list fun instr member => Instr.kept (words.code instr (Array.mem_toList_iff.mp member))
  have budget := kept_nat words.budget
  refine ⟨plain_member code.plain (plain_member budget.plain plain_empty), ?_⟩
  rw [toJson, ofJson?]
  exact made_of_form rfl (made_of_required code rfl (made_of_required budget rfl rfl))

end Lockstep
