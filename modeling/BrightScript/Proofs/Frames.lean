import BrightScript.Proofs.Sessions
set_option autoImplicit false

namespace BrightScript

def Noted (limit : Nat) (old new : List Event) : Prop :=
  ∃ events, new = events ++ old ∧
    ∀ name depth, Event.entered name depth ∈ events → depth < limit

theorem noted_refl (limit : Nat) (old : List Event) : Noted limit old old :=
  ⟨[], rfl, fun _ _ member => absurd member List.not_mem_nil⟩

theorem noted_cons {limit : Nat} {old new : List Event} (event : Event)
    (noted : Noted limit old new)
    (below : ∀ name depth, event = .entered name depth → depth < limit) :
    Noted limit old (event :: new) := by
  obtain ⟨events, rfl, bounded⟩ := noted
  refine ⟨event :: events, rfl, ?_⟩
  intro name depth member
  rcases List.mem_cons.1 member with first | later
  · exact below name depth first.symm
  · exact bounded name depth later

theorem noted_trans {limit : Nat} {first second third : List Event} (old : Noted limit first second)
    (new : Noted limit second third) : Noted limit first third := by
  obtain ⟨events, rfl, bounded⟩ := old
  obtain ⟨later, rfl, laterBounded⟩ := new
  refine ⟨later ++ events, by simp, ?_⟩
  intro name depth member
  rcases List.mem_append.1 member with inside | before
  · exact laterBounded name depth inside
  · exact bounded name depth before

structure Restored (limit : Nat) (base s : State) : Prop where
  frame : s.frame = base.frame
  root : s.root = base.root
  depth : s.depth = base.depth
  noted : Noted limit base.journal s.journal

structure Within (limit root depth : Nat) (old : List Event) (s : State) : Prop where
  root : s.root = root
  depth : s.depth = depth
  noted : Noted limit old s.journal

theorem vetted_any (h : Heap) : h.Vetted passAll Any := by
  refine ⟨?_, fun _ _ _ _ _ _ => trivial⟩
  intro callable _ overload _
  cases overload.code with
  | native own => cases own <;> trivial
  | user function => exact function.every_function_pass_all

theorem classes_any (classes : Table ComponentClass) : ClassesVetted Any classes :=
  fun _ _ _ _ _ _ _ => trivial

theorem restored_durable (limit : Nat) (base : State) :
    Durable (Restored limit base) Any Any passAll where
  vetted s _ := vetted_any s.heap
  heap _ _ holds _ _ := ⟨holds.frame, holds.root, holds.depth, holds.noted⟩
  ordinary _ _ := trivial
  fault _ _ := trivial

theorem within_lasting (limit root depth : Nat) (old : List Event) :
    Lasting (Within limit root depth old) Any Any passAll where
  vetted s _ := vetted_any s.heap
  heap _ _ holds _ _ := ⟨holds.root, holds.depth, holds.noted⟩
  ordinary _ _ := trivial
  fault _ _ := trivial
  locals _ _ _ holds := ⟨holds.root, holds.depth, holds.noted⟩
  module _ _ _ holds := ⟨holds.root, holds.depth, holds.noted⟩
  write _ _ holds := ⟨holds.root, holds.depth, holds.noted⟩
  caught _ _ holds _ :=
  ⟨holds.root, holds.depth, noted_cons _ holds.noted fun _ _ same => nomatch same⟩
  ended _ _ _ holds :=
  ⟨holds.root, holds.depth, noted_cons _ holds.noted fun _ _ same => nomatch same⟩
  finish := trivial
  bodies _ _ := .inr trivial

theorem restored_opening (limit : Nat) (base : State) (below : base.depth < limit) :
    Opening (Restored limit base) (Within limit base.root (base.depth + 1) base.journal) where
  entered s t name outer holds := by
    refine ⟨holds.frame, holds.root, holds.depth, noted_cons _ holds.noted ?_⟩
    intro other depth same
    cases same
    exact outer.depth ▸ below
  opens s frame holds := ⟨holds.root, congrArg (· + 1) holds.depth, holds.noted⟩
  closes s t outer holds := by
    refine ⟨outer.frame, holds.root, ?_, holds.noted⟩
    change t.depth - 1 = base.depth
    rw [holds.depth, Nat.add_sub_cancel]

theorem settled_any {setting : Setting} {call : Call} (function : Function)
    (_ : function.everyFunction passAll = true) :
    Returns (Signal.Settled Any) (executeBlock setting call function.body) :=
  fun _ _ _ _ _ _ => trivial

theorem calls_within {limit root depth : Nat} {old : List Event} {call other : Call}
    (agree : ∀ base, base.depth = depth → CallsAgree (Restored limit base) Any call other) :
    CallsAgree (Within limit root depth old) Any call other := by
  intro ref arguments receiver location s holds
  have started : Restored limit s s := ⟨rfl, rfl, rfl, noted_refl limit s.journal⟩
  obtain ⟨same, ends⟩ := agree s holds.depth ref arguments receiver location s started
  refine ⟨same, ?_⟩
  have back : ∀ t, Restored limit s t → Within limit root depth old t := fun t restored =>
    ⟨restored.root.trans holds.root, restored.depth.trans holds.depth,
      noted_trans holds.noted restored.noted⟩
  cases outcome : call ref arguments receiver location s with
  | ok a t =>
    rw [outcome] at ends
    exact ⟨back t ends.1, ends.2⟩
  | error halt t =>
    rw [outcome] at ends
    exact ⟨back t ends.1, ends.2⟩

theorem call_within_restores (setting : Setting) (remaining : Nat) (base : State)
    (enough : remaining ≤ setting.options.maxCallDepth - base.depth) :
    CallsAgree (Restored setting.options.maxCallDepth base) Any (callWithin setting remaining)
      (callWithin setting remaining) := by
  induction remaining generalizing base with
  | zero => exact fun _ _ _ _ => keeps_throw _ trivial
  | succ remaining ih =>
    -- The callee runs one call deeper and has one call less to open.
    have inside : CallsAgree
        (Within setting.options.maxCallDepth base.root (base.depth + 1) base.journal) Any
        (callWithin setting remaining) (callWithin setting remaining) :=
      calls_within fun callee deeper => ih callee (by omega)
    exact enter_agree (within_lasting _ _ _ _) (restored_durable _ base)
      (restored_opening _ base (by omega)) (counterparts_refl _ _) inside
        (classes_any _) settled_any

theorem call_function_restores (setting : Setting) (base : State) :
    CallsAgree (Restored setting.options.maxCallDepth base) Any (callFunction setting)
      (callFunction setting) := by
  intro ref arguments receiver location s holds
  refine ⟨rfl, ?_⟩
  have enough : setting.options.maxCallDepth - s.depth ≤
      setting.options.maxCallDepth - base.depth :=
    Nat.le_of_eq (by rw [holds.depth])
  exact (call_within_restores setting _ base enough ref arguments receiver location s holds).2

-- The limit is on the count of open calls: a call is refused when they are as many as may be, and
-- otherwise entered, with the calls of its callee made in the same way.
theorem call_function_eq (setting : Setting) (ref : Nat) (arguments : List Value)
    (receiver : Option Nat) (location : Location) (s : State) :
    callFunction setting ref arguments receiver location s =
      if setting.options.maxCallDepth ≤ s.depth then
        .error (.error ⟨.stackOverflow setting.options.maxCallDepth, location⟩) s
      else enter setting (callFunction setting) ref arguments receiver location s := by
  unfold callFunction
  split
  · rename_i full
    rw [Nat.sub_eq_zero_of_le full]
    rfl
  · rename_i free
    obtain ⟨remaining, rest⟩ : ∃ remaining,
        setting.options.maxCallDepth - s.depth = remaining + 1 :=
      ⟨setting.options.maxCallDepth - s.depth - 1, by omega⟩
    rw [rest]
    -- In every state that the callee passes through, one more call is open than in `s`.
    have same : CallsAgree
        (Within setting.options.maxCallDepth s.root (s.depth + 1) s.journal) Any
        (callWithin setting remaining) (callFunction setting) := by
      refine calls_within fun callee deeper => ?_
      intro ref arguments receiver location t holds
      have left : setting.options.maxCallDepth - t.depth = remaining := by
        rw [holds.depth]
        omega
      have kept := call_within_restores setting remaining callee (by omega) ref arguments receiver
        location t holds
      refine ⟨?_, kept.2⟩
      unfold callFunction
      rw [left]
    have started : Restored setting.options.maxCallDepth s s :=
      ⟨rfl, rfl, rfl, noted_refl _ s.journal⟩
    exact (enter_agree (within_lasting _ _ _ _) (restored_durable _ s)
      (restored_opening _ s (by omega)) (counterparts_refl _ _) same (classes_any _) settled_any
      ref arguments receiver location s started).1

def withFrame {α : Type} (frame : Frame) :
    EStateM.Result Halt State α → EStateM.Result Halt State α
  | .ok a s => .ok a { s with frame }
  | .error halt s => .error halt { s with frame }

theorem enter_eq (setting : Setting) (call : Call) (ref : Nat) (arguments : List Value)
    (receiver : Option Nat) (location : Location) (s : State) :
    enter setting call ref arguments receiver location s =
      match resolveCall ref arguments s.heap with
      | .ok choice heap =>
        Exec.inCall ⟨.empty, receiver.getD s.root⟩
          (runCode setting call choice.code choice.arguments location)
          { s with heap, journal := .entered (heap.function ref).displayName s.depth :: s.journal }
      | .error fault heap => .error (.error ⟨fault, location⟩) { s with heap } := by
  simp only [enter, bind, EStateM.bind, Exec.onHeap]
  cases resolveCall ref arguments s.heap <;> rfl

theorem in_call_ignores_frame {α : Type} (inner : Frame) (body : Exec α) (s : State)
    (frame : Frame) :
    Exec.inCall inner body { s with frame } = withFrame frame (Exec.inCall inner body s) := by
  unfold Exec.inCall
  dsimp only
  cases body { s with frame := inner, depth := s.depth + 1 } <;> rfl

theorem enter_ignores_frame (setting : Setting) (call : Call) (ref : Nat) (arguments : List Value)
    (receiver : Option Nat) (location : Location) (s : State) (frame : Frame) :
    enter setting call ref arguments receiver location { s with frame } =
      withFrame frame (enter setting call ref arguments receiver location s) := by
  rw [enter_eq, enter_eq]
  dsimp only
  cases resolveCall ref arguments s.heap with
  | ok choice heap => exact in_call_ignores_frame _ _ { s with heap, journal := _ } frame
  | error fault heap => rfl

/-- A call sees nothing of the frame it is made from: from two states that differ in nothing else it
comes to the same value or halt, in states that differ in nothing else again. -/
theorem call_ignores_caller_frame (setting : Setting) (ref : Nat) (arguments : List Value)
    (receiver : Option Nat) (location : Location) (s : State) (frame : Frame) :
    callFunction setting ref arguments receiver location { s with frame } =
      withFrame frame (callFunction setting ref arguments receiver location s) := by
  rw [call_function_eq, call_function_eq]
  split
  · rfl
  · exact enter_ignores_frame setting _ ref arguments receiver location s frame

def Fault.isOverflow : Fault → Bool
  | .stackOverflow _ => true
  | _ => false

def NoOverflow (fault : Fault) : Prop :=
  fault.isOverflow = false

theorem ordinary_no_overflow (fault : Fault) (ordinary : fault.isOrdinary = true) :
    NoOverflow fault := by
  cases fault
  case stackOverflow => cases ordinary
  all_goals rfl

theorem enter_no_overflow {setting : Setting}
    (classes : ClassesVetted NoOverflow setting.components) {call : Call}
    (calls : CallsAgree (Calm passAll NoOverflow) (Halt.Expected NoOverflow) call call) :
    CallsAgree (Calm passAll NoOverflow) (Halt.Expected NoOverflow) (enter setting call)
      (enter setting call) := by
  have lasting : Lasting (Calm passAll NoOverflow) NoOverflow _ passAll :=
    calm_lasting ordinary_no_overflow
  refine enter_agree lasting lasting.toDurable calm_opening (counterparts_refl _ _) calls classes ?_
  intro function _ s signal t _ error stray
  cases signal <;> cases stray <;> rfl

theorem call_function_within (setting : Setting) (root depth : Nat) (old : List Event) :
    CallsAgree (Within setting.options.maxCallDepth root depth old) Any (callFunction setting)
      (callFunction setting) :=
  calls_within fun base _ => call_function_restores setting base

theorem command_within (setting : Setting) (root depth : Nat) (old : List Event)
    (command : Session.Command) :
    Keeps (Within setting.options.maxCallDepth root depth old) Any Any (command.run setting) :=
  Session.command_keeps (within_lasting _ root depth old)
    (call_function_within setting root depth old) command

theorem session_call_frame (s : Session) (name : String) (arguments : List Value) :
    (s.call name arguments).2.state.frame = s.state.frame := by
  have started : Restored s.setting.options.maxCallDepth s.state s.state :=
    ⟨rfl, rfl, rfl, noted_refl _ _⟩
  have kept := s.conclude_keeps (runNamed · name arguments)
    (run_named_agree (restored_durable _ s.state) (call_function_restores s.setting s.state) name
      arguments) started
  exact kept.2.1.frame

/-- Evaluation leaves frame, root and number of open calls as they were, however it ends. Every
function that it enters finds fewer calls open than the limit, so that there are never more. A call
overflows by itself exactly at the limit. So no call is open after any commands, and to call a
function by name changes no variable outside of calls. -/
theorem evaluation_restores_caller (setting : Setting) :
    (∀ (e : Expr) (s : State), Restored setting.options.maxCallDepth s
      (finalState (evaluate (callFunction setting) e s))) ∧
    (∀ (ref : Nat) (arguments : List Value) (receiver : Option Nat) (location : Location)
      (s : State), callFunction setting ref arguments receiver location s =
        if setting.options.maxCallDepth ≤ s.depth then
          .error (.error ⟨.stackOverflow setting.options.maxCallDepth, location⟩) s
        else enter setting (callFunction setting) ref arguments receiver location s) ∧
    (ClassesVetted NoOverflow setting.components → ∀ call : Call,
      CallsAgree (Calm passAll NoOverflow) (Halt.Expected NoOverflow) call call →
        CallsAgree (Calm passAll NoOverflow) (Halt.Expected NoOverflow) (enter setting call)
          (enter setting call)) ∧
    (∀ (outputLimit errorLimit : Option Nat) (commands : List Session.Command),
      let s := ((Session.start setting.options outputLimit errorLimit).performAll commands).2
      s.state.depth = 0 ∧
        (∀ name depth, .entered name depth ∈ s.state.journal →
          depth < setting.options.maxCallDepth) ∧
        ∀ name arguments, (s.call name arguments).2.state.frame = s.state.frame) := by
  refine ⟨?_, call_function_eq setting, fun classes call => enter_no_overflow classes, ?_⟩
  · intro e s
    have started : Restored setting.options.maxCallDepth s s := ⟨rfl, rfl, rfl, noted_refl _ _⟩
    exact ends_final_state
      (evaluate_agree (restored_durable _ s) (call_function_restores setting s) e
      e.every_function_pass_all s started).2
  · intro outputLimit errorLimit commands
    have started : Within setting.options.maxCallDepth 0 0 []
        (Session.start setting.options outputLimit errorLimit).state :=
      ⟨rfl, rfl, noted_refl _ _⟩
    have kept := (Session.perform_all_keeps commands
      (Session.start setting.options outputLimit errorLimit)
      (fun command _ => command_within _ 0 0 [] command) started).1
    refine ⟨kept.depth, ?_, fun name arguments => session_call_frame _ name arguments⟩
    intro name depth member
    obtain ⟨events, journal, bounded⟩ := kept.noted
    rw [journal, List.append_nil] at member
    exact bounded name depth member

end BrightScript
