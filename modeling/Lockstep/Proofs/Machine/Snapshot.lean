import Lockstep.Machine.Call
import Lockstep.Proofs.Node.Halting
import Lockstep.Proofs.Node.Ledger
import Lockstep.Proofs.Program.Trace

/-!
A call works on a snapshot.

`Bytecode.narrate` is a call that also answers with its deeds: every instruction it has carried out,
with the frame and the memory that it found and left. What one instruction does to a node's memory is
told once (`Deed.Lawful`), with a case for each instruction that touches it, and holds along the whole
course of a call by induction (`Course`). So what a call reads in this tick stays as it was, what it
prepares is the last it has stored, and a refused store is the last thing it does
(`snapshot_frozen`).
-/
namespace Lockstep

namespace Machine

/-- An instruction carried out on a node's memory: what it found, and what it left. -/
structure Deed where
  instr : Instr
  frame : Frame
  memory : Memory
  progress : Progress
  after : Memory

namespace Deed

/-- The word that the instruction has stored in a cell. A refused store has stored none. -/
def stored (symbol : SymbolId) (deed : Deed) : Option Cell :=
  match deed.instr, deed.progress with
  | .store target, .running _ => if target = symbol then deed.frame.stack.head? else none
  | _, _ => none

/-- The last word that was stored in a cell. -/
def lastStored (symbol : SymbolId) (deeds : List Deed) : Option Cell :=
  (deeds.filterMap (stored symbol)).getLast?

/-- A deed that stops the call is the last, and the call stops with its signal. -/
def StopsLast (deeds : List Deed) (signal : Signal) : Prop :=
  ∀ earlier deed later reason, deeds = earlier ++ deed :: later → deed.progress = .stopped reason →
    later = [] ∧ signal = reason

/-- What an instruction does to the memory it finds, and to the request for a send. -/
structure Lawful (table : SymbolTable) (requested : Bool) (deed : Deed) (asked : Bool) : Prop where
  fits : deed.after.Fits table
  current : deed.after.current = deed.memory.current
  next : ∀ symbol,
    deed.after.readNext symbol = (deed.stored symbol).getD (deed.memory.readNext symbol)
  unguarded : ∀ symbol word, deed.stored symbol = some word → table.protection[symbol]? = some false
  load : ∀ symbol, deed.instr = .load symbol →
    deed.progress = deed.frame.proceed (push (deed.memory.read symbol) deed.frame.stack)
  loadNext : ∀ symbol, deed.instr = .loadNext symbol →
    deed.progress = deed.frame.proceed (push (deed.memory.readNext symbol) deed.frame.stack)
  stores : ∀ symbol, deed.instr = .store symbol →
    (∃ word rest, deed.frame.stack = word :: rest ∧ deed.stored symbol = some word) ∨
      ∃ fault, deed.progress = .stopped (.fault fault)
  /-- An instruction that stops the call changes no cell. -/
  stopped : ∀ signal, deed.progress = .stopped signal → deed.after = deed.memory
  asked : asked = true ↔ requested = true ∨ deed.instr = .send

variable {table : SymbolTable} {memory after : Memory} {requested asked : Bool} {place : Place}
  {length : Nat} {instr : Instr} {frame : Frame} {progress : Progress} {symbol : SymbolId}

theorem lastStored_cons (deed : Deed) (later : List Deed) :
    lastStored symbol (deed :: later) = (lastStored symbol later).or (deed.stored symbol) := by
  unfold lastStored
  cases here : deed.stored symbol with
  | none => rw [List.filterMap_cons_none here, Option.or_none]
  | some word =>
    rw [List.filterMap_cons_some here, List.getLast?_cons]
    cases (later.filterMap (stored symbol)).getLast? <;> rfl

theorem mem_of_lastStored {deeds : List Deed} {word : Cell}
    (last : lastStored symbol deeds = some word) : ∃ deed ∈ deeds, deed.stored symbol = some word :=
  List.mem_filterMap.mp (List.mem_of_getLast? last)

theorem instr_of_stored {deed : Deed} {word : Cell} (stored : deed.stored symbol = some word) :
    deed.instr = .store symbol := by
  unfold Deed.stored at stored
  split at stored
  · split at stored
    · rename_i same _ here
      exact here ▸ same
    · cases stored
  · cases stored

theorem stopsLast_nil (signal : Signal) : StopsLast [] signal :=
  fun _ _ _ _ same => absurd same
    (List.append_ne_nil_of_right_ne_nil _ (List.cons_ne_nil _ _)).symm

theorem StopsLast.cons {deed : Deed} {later : List Deed} {signal : Signal}
    (first : ∀ reason, deed.progress = .stopped reason → later = [] ∧ signal = reason)
    (stops : StopsLast later signal) : StopsLast (deed :: later) signal := by
  intro earlier probe rest reason same stopped
  cases earlier with
  | nil =>
    cases same
    exact first reason stopped
  | cons _ others =>
    obtain ⟨-, same⟩ := List.cons.inj same
    exact stops others probe rest reason same stopped

/-- An instruction that uses neither memory nor the network. -/
theorem Lawful.quiet (fits : memory.Fits table)
    (untouched : ∀ symbol, instr ≠ .load symbol ∧ instr ≠ .loadNext symbol ∧ instr ≠ .store symbol)
    (silent : instr ≠ .send) :
    Lawful table requested ⟨instr, frame, memory, progress, memory⟩ requested := by
  have nothing : ∀ symbol, stored symbol ⟨instr, frame, memory, progress, memory⟩ = none := by
    intro symbol
    unfold stored
    split
    · rename_i target _ same _
      exact absurd same (untouched target).2.2
    · rfl
  refine ⟨fits, rfl, fun symbol => ?_, fun symbol word known => ?_, fun symbol same => ?_,
    fun symbol same => ?_, fun symbol same => ?_, fun _ _ => rfl, .inl,
    fun either => either.resolve_right silent⟩
  · rw [nothing]
    rfl
  · rw [nothing] at known
    cases known
  · exact absurd same (untouched symbol).1
  · exact absurd same (untouched symbol).2.1
  · exact absurd same (untouched symbol).2.2

/-- A store that is carried out sets its own cell. -/
theorem Lawful.store (valid : table.Valid) (fits : memory.Fits table) {word : Cell}
    {rest : List Cell} {pc : Nat} {sent : Bool} {running : Frame}
    (staged : memory.stage table symbol word = .ok after) :
    Lawful table requested
      ⟨.store symbol, ⟨pc, word :: rest, sent⟩, memory, .running running, after⟩ requested := by
  obtain ⟨unguarded, same⟩ := Memory.stage_eq_ok staged
  have sets : ∀ probe, stored probe ⟨.store symbol, ⟨pc, word :: rest, sent⟩, memory,
      .running running, after⟩ = if symbol = probe then some word else none := fun _ => rfl
  refine ⟨fits.stage staged, by rw [same], fun probe => ?_, fun probe other known => ?_, nofun, nofun,
    fun probe here => ?_, nofun, .inl, fun either => either.resolve_right nofun⟩
  · rw [Memory.readNext_stage valid fits staged, sets]
    by_cases here : symbol = probe
    · rw [if_pos here, if_pos here.symm]
      rfl
    · rw [if_neg here, if_neg (Ne.symm here)]
      rfl
  · rw [sets] at known
    split at known
    · rename_i here
      exact here ▸ unguarded
    · cases known
  · cases here
    exact .inl ⟨word, rest, rfl, if_pos rfl⟩

/-- A store that is refused, or finds no word on the stack. -/
theorem Lawful.refused (fits : memory.Fits table) (fault : Fault) :
    Lawful table requested ⟨.store symbol, frame, memory, .stopped (.fault fault), memory⟩
      requested :=
  ⟨fits, rfl, fun _ => rfl, nofun, nofun, nofun, fun _ _ => .inr ⟨fault, rfl⟩, fun _ _ => rfl, .inl,
    fun either => either.resolve_right nofun⟩

/-- Every instruction that is carried out on memory of the table's size is lawful. -/
theorem execute_lawful (valid : table.Valid) (fits : memory.Fits table)
    (ran : (execute place length instr frame).run table memory requested =
      .ok (progress, after, asked)) :
    Lawful table requested ⟨instr, frame, memory, progress, after⟩ asked := by
  cases instr with
  | load symbol =>
    cases ran
    refine ⟨fits, rfl, fun _ => rfl, by simp [stored], fun probe same => ?_, by simp, by simp,
      fun _ _ => rfl, by simp⟩
    cases same
    rfl
  | loadNext symbol =>
    cases ran
    refine ⟨fits, rfl, fun _ => rfl, by simp [stored], by simp, fun probe same => ?_, by simp,
      fun _ _ => rfl, by simp⟩
    cases same
    rfl
  | store symbol =>
    obtain ⟨pc, stack, sent⟩ := frame
    cases stack with
    | nil =>
      cases ran
      exact .refused fits _
    | cons word rest =>
      simp only [execute, Interaction.run, Memory.write_eq valid fits] at ran
      cases staged : memory.stage table symbol word with
      | ok left =>
        rw [staged] at ran
        cases ran
        exact .store valid fits staged
      | error fault =>
        rw [staged] at ran
        cases ran
        exact .refused fits _
  | send =>
    cases ran
    exact ⟨fits, rfl, fun _ => rfl, by simp [stored], by simp, by simp, by simp, fun _ _ => rfl,
      by simp⟩
  | jumpIfZero target =>
    obtain ⟨pc, stack, sent⟩ := frame
    cases stack <;> cases ran <;> exact .quiet fits (by simp) (by simp)
  | _ =>
    cases ran
    exact .quiet fits (by simp) (by simp)

end Deed

/-! ### The course of a call -/

/-- Deeds one after another, each on what the one before has left. -/
inductive Course (table : SymbolTable) : Memory → Bool → List Deed → Memory → Bool → Prop where
  | ended (memory : Memory) (requested : Bool) : Course table memory requested [] memory requested
  | deed {deed : Deed} {later : List Deed} {after : Memory} {requested asked still : Bool} :
      deed.Lawful table requested asked → Course table deed.after asked later after still →
      Course table deed.memory requested (deed :: later) after still

namespace Course

open Deed (lastStored)

variable {table : SymbolTable} {memory after : Memory} {requested asked : Bool}
  {deeds earlier later : List Deed} {symbol : SymbolId}

theorem nothing (course : Course table memory requested [] after asked) : after = memory := by
  cases course
  rfl

theorem current (course : Course table memory requested deeds after asked) :
    after.current = memory.current := by
  induction course with
  | ended memory requested => rfl
  | deed lawful rest ih => exact ih.trans lawful.current

theorem fits (course : Course table memory requested deeds after asked)
    (fits : memory.Fits table) : after.Fits table := by
  induction course with
  | ended memory requested => exact fits
  | deed lawful rest ih => exact ih lawful.fits

/-- The last word stored in a cell is what is prepared for it. -/
theorem next (course : Course table memory requested deeds after asked) (symbol : SymbolId) :
    after.readNext symbol = (lastStored symbol deeds).getD (memory.readNext symbol) := by
  induction course with
  | ended memory requested => rfl
  | deed lawful rest ih =>
    rw [ih, lawful.next, Deed.lastStored_cons]
    cases lastStored symbol _ <;> rfl

theorem asked_iff (course : Course table memory requested deeds after asked) :
    asked = true ↔ requested = true ∨ ∃ deed ∈ deeds, deed.instr = .send := by
  induction course with
  | ended memory requested => simp
  | deed lawful rest ih =>
    simp only [ih, lawful.asked, List.mem_cons, exists_eq_or_imp, or_assoc]

/-- What comes before a deed is a course that leads to what the deed finds. -/
theorem split {deed : Deed}
    (course : Course table memory requested (earlier ++ deed :: later) after asked) :
    ∃ before between, Course table memory requested earlier deed.memory before ∧
      deed.Lawful table before between ∧ Course table deed.after between later after asked := by
  induction earlier generalizing memory requested with
  | nil =>
    cases course with
    | deed lawful rest => exact ⟨_, _, .ended _ _, lawful, rest⟩
  | cons first others ih =>
    cases course with
    | deed lawful rest =>
      obtain ⟨before, between, past, here, rest⟩ := ih rest
      exact ⟨before, between, .deed lawful past, here, rest⟩

theorem lawful {deed : Deed} (course : Course table memory requested deeds after asked)
    (member : deed ∈ deeds) :
    ∃ before between, deed.Lawful table before between ∧
      deed.memory.current = memory.current := by
  obtain ⟨earlier, later, rfl⟩ := List.append_of_mem member
  obtain ⟨before, between, past, lawful, -⟩ := course.split
  exact ⟨before, between, lawful, past.current⟩

end Course

end Machine

namespace Bytecode

open Machine (Frame Progress Deed Course)

variable {program : Bytecode} {place : Place} {table : SymbolTable} {memory after : Memory}
  {requested asked : Bool} {fuel : Nat} {frame : Frame} {deeds : List Deed} {signal : Signal}

/-- Goes on from a frame as `continueFrom` does, and answers also with every instruction that is
carried out. -/
def narrate (program : Bytecode) (place : Place) (table : SymbolTable) :
    (fuel : Nat) → Frame → Memory → (requested : Bool) →
      Except Breach ((Signal × List Deed) × Memory × Bool)
  | fuel, frame, memory, requested =>
    match program.code[frame.pc]? with
    | none => .ok ((frame.finish, []), memory, requested)
    | some instr =>
      match fuel with
      | 0 => .ok ((.fault (.budgetExhausted program.budget), []), memory, requested)
      | fuel + 1 => do
        let (progress, after, asked) ←
          (Machine.execute place program.code.size instr frame).run table memory requested
        let deed := ⟨instr, frame, memory, progress, after⟩
        match progress with
        | .running frame =>
          let ((signal, later), left) ← narrate program place table fuel frame after asked
          return ((signal, deed :: later), left)
        | .stopped signal => return ((signal, [deed]), after, asked)

/-- Answering with the deeds changes nothing else. -/
theorem narrate_forgotten (fuel : Nat) (frame : Frame) (memory : Memory) (requested : Bool) :
    (program.narrate place table fuel frame memory requested).map
        (fun left => (left.1.1, left.2)) =
      (program.continueFrom place fuel frame).run table memory requested := by
  induction fuel generalizing frame memory requested with
  | zero =>
    unfold narrate continueFrom
    cases program.code[frame.pc]? <;> rfl
  | succ fuel ih =>
    unfold narrate continueFrom
    cases program.code[frame.pc]? with
    | none => rfl
    | some instr =>
      simp only [Interaction.run_bind]
      cases (Machine.execute place program.code.size instr frame).run table memory requested with
      | error breach => rfl
      | ok carried =>
        obtain ⟨progress, after, asked⟩ := carried
        cases progress with
        | stopped signal => rfl
        | running frame =>
          refine Eq.trans ?_ (ih frame after asked)
          simp only [bind, Except.bind]
          cases program.narrate place table fuel frame after asked <;> rfl

/-- A call follows a course, and stops with the first deed that stops it. -/
theorem narrate_course (valid : table.Valid) (fits : memory.Fits table)
    (ran : program.narrate place table fuel frame memory requested =
      .ok ((signal, deeds), after, asked)) :
    Course table memory requested deeds after asked ∧ Deed.StopsLast deeds signal := by
  induction fuel generalizing frame memory requested deeds with
  | zero =>
    unfold narrate at ran
    split at ran <;> cases ran <;> exact ⟨.ended _ _, Deed.stopsLast_nil _⟩
  | succ fuel ih =>
    unfold narrate at ran
    split at ran
    · cases ran
      exact ⟨.ended _ _, Deed.stopsLast_nil _⟩
    · rename_i instr next
      obtain ⟨⟨progress, left, between⟩, carried, ran⟩ := bind_eq_ok ran
      have lawful := Deed.execute_lawful valid fits carried
      cases progress with
      | stopped reason =>
        cases ran
        refine ⟨.deed lawful (.ended _ _), .cons (fun reason stopped => ?_) (Deed.stopsLast_nil _)⟩
        cases stopped
        exact ⟨rfl, rfl⟩
      | running frame =>
        obtain ⟨⟨⟨last, others⟩, rest⟩, went, ran⟩ := bind_eq_ok ran
        cases ran
        obtain ⟨course, stops⟩ := ih lawful.fits went
        exact ⟨.deed lawful course, .cons nofun stops⟩

end Bytecode

namespace Node

variable {σ : Type} {table : SymbolTable} {program : Program σ} {node fed : Node}
  {pool left after : Pool} {shared : σ} {consumed : StepOutcome}

/-- A step leaves behind the memory that its program has left. -/
theorem step_memory {stepped : Stepped σ} (ready : node.state = .ready)
    (taken : node.consume table pool = .ok (consumed, fed, left))
    (ran : node.step table program pool shared = .ok stepped) :
    ∃ result requested, (program node.place shared).run table (fed.memory.roll table) false =
      .ok (result, stepped.node.memory, requested) := by
  simp only [step, ready] at ran
  obtain ⟨first, took, ran⟩ := bind_eq_ok ran
  cases Except.ok.inj (taken.symm.trans took)
  rw [← (consume_kept taken).2.2]
  obtain ⟨⟨⟨state, signal⟩, memory, requested⟩, played, ran⟩ := bind_eq_ok ran
  refine ⟨(state, signal), requested, ?_⟩
  cases signal with
  | fault fault =>
    cases ran
    exact played
  | «continue» | send | halt =>
    obtain ⟨⟨outcome, last, rest⟩, concluded, ran⟩ := bind_eq_ok ran
    cases ran
    rw [played, conclude_memory concluded]

end Node

namespace Bytecode

open Machine (Deed)

/-- How a call has treated the memory that it was given. -/
structure Frozen (table : SymbolTable) (memory : Memory) (deeds : List Deed) (signal : Signal)
    (after : Memory) (asked : Bool) : Prop where
  /-- What is read in this tick stays as it was, before and after every instruction. -/
  current : after.current = memory.current ∧
    ∀ deed ∈ deeds, deed.memory.current = memory.current ∧ deed.after.current = memory.current
  /-- So all reads of a cell push one word, whatever was stored between them, -/
  load : ∀ deed ∈ deeds, ∀ symbol, deed.instr = .load symbol →
    deed.progress = deed.frame.proceed (Machine.push (memory.read symbol) deed.frame.stack)
  /-- and those of a prepared cell push the last word stored, or else the one that was given. -/
  loadNext : ∀ earlier deed later symbol, deeds = earlier ++ deed :: later →
    deed.instr = .loadNext symbol →
      deed.progress = deed.frame.proceed (Machine.push
        ((Deed.lastStored symbol earlier).getD (memory.readNext symbol)) deed.frame.stack)
  /-- In the end too the last word stored in a cell is the one that is prepared, -/
  next : after.Fits table ∧ ∀ symbol,
    after.readNext symbol = (Deed.lastStored symbol deeds).getD (memory.readNext symbol)
  /-- and only unguarded cells are stored in. -/
  unguarded : ∀ symbol, Deed.lastStored symbol deeds ≠ none →
    (symbol < table.size ∧ ¬ table.Guards symbol) ∧ ∃ deed ∈ deeds, deed.instr = .store symbol
  /-- A store puts the top of the stack into its cell, or it faults. -/
  store : ∀ deed ∈ deeds, ∀ symbol, deed.instr = .store symbol →
    (∃ word rest, deed.frame.stack = word :: rest ∧ deed.stored symbol = some word) ∨
      ∃ fault, deed.progress = .stopped (.fault fault)
  /-- One that faults is the last thing done. It changes no cell, and what was stored before it
  stays. -/
  refused : ∀ earlier deed later symbol fault, deeds = earlier ++ deed :: later →
    deed.instr = .store symbol → deed.progress = .stopped (.fault fault) →
      later = [] ∧ signal = .fault fault ∧ after = deed.memory ∧ ∀ probe,
        after.readNext probe = (Deed.lastStored probe earlier).getD (memory.readNext probe)
  asked : asked = true ↔ ∃ deed ∈ deeds, deed.instr = .send

variable {program : Bytecode} {place : Place} {table : SymbolTable} {memory after : Memory}
  {asked : Bool} {fuel : Nat} {frame : Machine.Frame} {deeds : List Deed} {signal : Signal}

theorem narrate_frozen (valid : table.Valid) (fits : memory.Fits table)
    (ran : program.narrate place table fuel frame memory false =
      .ok ((signal, deeds), after, asked)) : Frozen table memory deeds signal after asked := by
  obtain ⟨course, stops⟩ := narrate_course valid fits ran
  refine ⟨⟨course.current, ?current⟩, ?load, ?loadNext, ⟨course.fits fits, course.next⟩, ?unguarded,
    ?store, ?refused, by simpa using course.asked_iff⟩
  case current =>
    intro deed member
    obtain ⟨before, between, lawful, same⟩ := course.lawful member
    exact ⟨same, lawful.current.trans same⟩
  case load =>
    intro deed member symbol here
    obtain ⟨before, between, lawful, same⟩ := course.lawful member
    rw [lawful.load symbol here, Memory.read, same, Memory.read]
  case loadNext =>
    rintro earlier deed later symbol rfl here
    obtain ⟨before, between, past, lawful, -⟩ := course.split
    rw [lawful.loadNext symbol here, past.next]
  case unguarded =>
    intro symbol written
    obtain ⟨word, last⟩ := Option.ne_none_iff_exists'.mp written
    obtain ⟨deed, member, stored⟩ := Deed.mem_of_lastStored last
    obtain ⟨before, between, lawful, -⟩ := course.lawful member
    exact ⟨(Memory.protection_eq_some_false valid).mp (lawful.unguarded symbol word stored), deed,
      member, Deed.instr_of_stored stored⟩
  case store =>
    intro deed member symbol here
    obtain ⟨before, between, lawful, -⟩ := course.lawful member
    exact lawful.stores symbol here
  case refused =>
    rintro earlier deed later symbol fault rfl - stopped
    obtain ⟨rfl, known⟩ := stops earlier deed later _ rfl stopped
    obtain ⟨before, between, past, lawful, rest⟩ := course.split
    have same := rest.nothing.trans (lawful.stopped _ stopped)
    exact ⟨rfl, known, same, fun probe => by rw [same, past.next]⟩

/-- A program works on a snapshot of its node's memory. In every call, and in the step of every node
that makes it, what is read stays as it was while the words that are stored wait for the next tick. -/
theorem snapshot_frozen (program : Bytecode) (place : Place) (valid : table.validate = .ok ())
    (fits : memory.Fits table) :
    ∃ signal deeds after asked,
      program.narrate place table program.budget .initial memory false =
        .ok ((signal, deeds), after, asked) ∧
      (program.call place).run table memory false = .ok (signal, after, asked) ∧
      Frozen table memory deeds signal after asked ∧
      ∀ (σ : Type) (node fed : Node) (pool left : Pool) (shared : σ) (consumed : StepOutcome)
        (stepped : Node.Stepped σ), node.state = .ready → node.place = place →
          node.consume table pool = .ok (consumed, fed, left) →
            fed.memory.roll table = memory →
              node.step table program.program pool shared = .ok stepped →
                stepped.node.memory = after := by
  have valid := SymbolTable.validate_eq_ok.mp valid
  have played := Interaction.run_eq valid (program.call place) fits false
  have forgotten : _ = (program.call place).run table memory false :=
    narrate_forgotten program.budget .initial memory false
  rw [played] at forgotten
  cases narrated : program.narrate place table program.budget .initial memory false with
  | error breach =>
    rw [narrated] at forgotten
    cases forgotten
  | ok told =>
    obtain ⟨⟨signal, deeds⟩, after, asked⟩ := told
    rw [narrated] at forgotten
    have same := Except.ok.inj forgotten
    rw [← same] at played
    refine ⟨signal, deeds, after, asked, rfl, played, narrate_frozen valid fits narrated, ?_⟩
    rintro σ node fed pool left shared consumed stepped ready rfl taken rfl ran
    obtain ⟨result, requested, went⟩ := Node.step_memory ready taken ran
    rw [Bytecode.program, Program.ofView, Interaction.run_bind, played] at went
    cases went
    rfl

/-- A program that stores its number in a variable, reads it both ways, asks for a send, stores what it
has read and then tries to write to a constant. -/
theorem snapshot_frozen_refused :
    SymbolTable.standard.validate = .ok () ∧ (Memory.seeded .standard 3 4).Fits .standard ∧
      ∃ signal deeds after asked,
        (Bytecode.call (.ofCode #[.nodeIndex, .store 7, .load 7, .loadNext 7, .send, .store 8, .store 0,
          .store 7]) ⟨3, 4⟩).run .standard (.seeded .standard 3 4) false =
            .ok (signal, after, asked) ∧
        Frozen .standard (.seeded .standard 3 4) deeds signal after asked ∧
        signal = .fault (.writeProtected 0) ∧ asked = true ∧ deeds.length = 7 ∧
        [7, 8, 0].map after.readNext = [3, 3, 0] ∧ [7, 8, 0].map after.read = [0, 0, 0] := by
  have valid : SymbolTable.standard.validate = .ok () :=
    SymbolTable.validate_eq_ok.mpr (SymbolTable.valid_create {} [])
  have fits := Memory.fits_seeded .standard 3 4
  let program : Bytecode := .ofCode #[.nodeIndex, .store 7, .load 7, .loadNext 7, .send, .store 8,
    .store 0, .store 7]
  have evaluated : (program.narrate ⟨3, 4⟩ .standard program.budget .initial
      (.seeded .standard 3 4) false).toOption.map (fun ((signal, deeds), after, asked) =>
        (signal, asked, deeds.length, [7, 8, 0].map after.readNext, [7, 8, 0].map after.read)) =
      some (.fault (.writeProtected 0), true, 7, [3, 3, 0], [0, 0, 0]) := by
    decide +kernel
  obtain ⟨signal, deeds, after, asked, told, ran, frozen, -⟩ :=
    snapshot_frozen program ⟨3, 4⟩ valid fits
  rw [told] at evaluated
  obtain ⟨rfl, rfl, count, prepared, shown⟩ := by
    simpa only [Except.toOption, Option.map_some, Option.some.injEq, Prod.mk.injEq] using evaluated
  exact ⟨valid, fits, _, deeds, after, _, ran, frozen, rfl, rfl, count, prepared, shown⟩

end Bytecode

end Lockstep
