import Lockstep.Program.Interaction

/-!
What an interaction does, written down.

`Interaction.recorded` is an interaction that also answers with all that it did, in order. Keeping
the record changes nothing else (`run_recorded`), and the record of one interaction after another is
that of the first followed by that of the second (`recorded_bind`).
-/
namespace Lockstep

/-- One use of a node's memory, with its answer. -/
inductive Effect where
  | read (symbol : SymbolId) (word : Cell)
  | readNext (symbol : SymbolId) (word : Cell)
  | write (symbol : SymbolId) (word : Cell) (refused : Option Fault)
  | requestSend
  deriving DecidableEq

namespace Interaction

variable {α β γ : Type} {table : SymbolTable} {memory : Memory} {requested : Bool}

/-- Puts what was done before in front of a record. -/
def noting (effects : List Effect) (interaction : Interaction (α × List Effect)) :
    Interaction (α × List Effect) :=
  interaction.bind fun (result, later) => .done (result, effects ++ later)

/-- The interaction with a record of its effects. -/
def recorded : Interaction α → Interaction (α × List Effect)
  | .done result => .done (result, [])
  | .read symbol next => .read symbol fun word => (next word).recorded.noting [.read symbol word]
  | .readNext symbol next =>
    .readNext symbol fun word => (next word).recorded.noting [.readNext symbol word]
  | .write symbol word next =>
    .write symbol word fun refused => (next refused).recorded.noting [.write symbol word refused]
  | .requestSend next => .requestSend fun answer => (next answer).recorded.noting [.requestSend]

theorem bind_assoc (first : Interaction α) (second : α → Interaction β)
    (third : β → Interaction γ) :
    (first.bind second).bind third = first.bind fun result => (second result).bind third := by
  induction first with
  | done result => rfl
  | read symbol next ih => exact congrArg (Interaction.read symbol) (funext ih)
  | readNext symbol next ih => exact congrArg (Interaction.readNext symbol) (funext ih)
  | write symbol word next ih => exact congrArg (Interaction.write symbol word) (funext ih)
  | requestSend next ih => exact congrArg Interaction.requestSend (funext ih)

theorem bind_done (interaction : Interaction α) : interaction.bind .done = interaction := by
  induction interaction with
  | done result => rfl
  | read symbol next ih => exact congrArg (Interaction.read symbol) (funext ih)
  | readNext symbol next ih => exact congrArg (Interaction.readNext symbol) (funext ih)
  | write symbol word next ih => exact congrArg (Interaction.write symbol word) (funext ih)
  | requestSend next ih => exact congrArg Interaction.requestSend (funext ih)

/-- One interaction after another is played on what the first leaves. -/
theorem run_bind (first : Interaction α) (second : α → Interaction β) :
    (first.bind second).run table memory requested =
      (first.run table memory requested) >>= fun (result, memory, requested) =>
        (second result).run table memory requested := by
  induction first generalizing memory requested with
  | done result => rfl
  | read symbol next ih => exact ih _
  | readNext symbol next ih => exact ih _
  | write symbol word next ih =>
    simp only [Interaction.bind, run]
    cases memory.write table symbol word with
    | error breach => rfl
    | ok answer =>
      cases answer with
      | ok after => exact ih _
      | error fault => exact ih _
  | requestSend next ih => exact ih _

theorem noting_nil (interaction : Interaction (α × List Effect)) :
    interaction.noting [] = interaction :=
  bind_done interaction

/-- What was done before both of two interactions was done before the first. -/
theorem noting_bind (effects : List Effect) (first : Interaction (α × List Effect))
    (second : α → Interaction (β × List Effect)) :
    (first.bind fun (result, past) => (second result).noting past).noting effects =
      (first.noting effects).bind fun (result, past) => (second result).noting past := by
  simp only [noting, bind_assoc, Interaction.bind, List.append_assoc]

theorem recorded_bind (first : Interaction α) (second : α → Interaction β) :
    (first.bind second).recorded =
      first.recorded.bind fun (result, past) => (second result).recorded.noting past := by
  have step : ∀ (effect : Effect) (next : Interaction α),
      (next.bind second).recorded =
        next.recorded.bind (fun (result, past) => (second result).recorded.noting past) →
      (next.bind second).recorded.noting [effect] =
        (next.recorded.noting [effect]).bind
          fun (result, past) => (second result).recorded.noting past := by
    intro effect next known
    rw [known]
    exact noting_bind [effect] next.recorded fun result => (second result).recorded
  induction first with
  | done result => exact (noting_nil _).symm
  | read symbol next ih =>
    exact congrArg (Interaction.read symbol) (funext fun word => step _ _ (ih word))
  | readNext symbol next ih =>
    exact congrArg (Interaction.readNext symbol) (funext fun word => step _ _ (ih word))
  | write symbol word next ih =>
    exact congrArg (Interaction.write symbol word) (funext fun refused => step _ _ (ih refused))
  | requestSend next ih =>
    exact congrArg Interaction.requestSend (funext fun answer => step _ _ (ih answer))

/-- A record changes nothing of what it is kept of. -/
theorem recorded_forgotten (interaction : Interaction α) :
    (interaction.recorded.bind fun (result, _) => .done result) = interaction := by
  induction interaction with
  | done result => rfl
  | read symbol next ih =>
    refine congrArg (Interaction.read symbol) (funext fun word => ?_)
    exact (bind_assoc ..).trans (ih word)
  | readNext symbol next ih =>
    refine congrArg (Interaction.readNext symbol) (funext fun word => ?_)
    exact (bind_assoc ..).trans (ih word)
  | write symbol word next ih =>
    refine congrArg (Interaction.write symbol word) (funext fun refused => ?_)
    exact (bind_assoc ..).trans (ih refused)
  | requestSend next ih =>
    refine congrArg Interaction.requestSend (funext fun answer => ?_)
    exact (bind_assoc ..).trans (ih answer)

/-- Playing with a record and without comes to the same. -/
theorem run_recorded (interaction : Interaction α) :
    (interaction.recorded.run table memory requested).map (fun left => (left.1.1, left.2)) =
      interaction.run table memory requested := by
  conv => rhs; rw [← recorded_forgotten interaction, run_bind]
  cases interaction.recorded.run table memory requested <;> rfl

/-- The result with what was done before in front of its record. -/
def after (past : List Effect) (left : (α × List Effect) × Memory × Bool) :
    (α × List Effect) × Memory × Bool :=
  ((left.1.1, past ++ left.1.2), left.2)

theorem run_noting (past : List Effect) (interaction : Interaction (α × List Effect)) :
    (interaction.noting past).run table memory requested =
      (interaction.run table memory requested).map (after past) := by
  rw [noting, run_bind]
  cases interaction.run table memory requested <;> rfl

/-- Played with a record, the second of two interactions adds to the record of the first. -/
theorem run_recorded_bind (first : Interaction α) (second : α → Interaction β) :
    (first.bind second).recorded.run table memory requested =
      first.recorded.run table memory requested >>= fun ((result, past), memory, requested) =>
        ((second result).recorded.run table memory requested).map (after past) := by
  simp only [recorded_bind, run_bind, run_noting]

end Interaction

end Lockstep
