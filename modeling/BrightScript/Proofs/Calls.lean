import BrightScript.Proofs.Execution
set_option autoImplicit false

namespace BrightScript

-- How the invariant of a caller and that of its callee hang together.
structure Opening (outer inner : State → Prop) : Prop where
  entered : ∀ s t name, outer s → outer t →
    outer { t with journal := .entered name s.depth :: t.journal }
  opens : ∀ s frame, outer s → inner { s with frame := frame, depth := s.depth + 1 }
  closes : ∀ s t, outer s → inner t → outer { t with frame := s.frame, depth := t.depth - 1 }

def Signal.Settled (halts : Halt → Prop) (signal : Signal) : Prop :=
  ∀ error, signal.result = .error error → halts (.error error)

variable {α : Type} {outer inner : State → Prop} {faults : Fault → Prop} {halts : Halt → Prop}
  {check : Function → Bool} {call other : Call} {setting twinSetting : Setting}

theorem in_call_agree (opening : Opening outer inner) (frame : Frame) {body twin : Exec α}
    (agree : Agree inner halts Any body twin) :
    Agree outer halts Any (Exec.inCall frame body) (Exec.inCall frame twin) := by
  intro s holds
  obtain ⟨same, ends⟩ := agree _ (opening.opens s frame holds)
  unfold Exec.inCall
  dsimp only
  rw [← same]
  cases outcome : body { s with frame := frame, depth := s.depth + 1 } with
  | ok a t =>
    rw [outcome] at ends
    exact ⟨rfl, opening.closes s t holds ends.1, trivial⟩
  | error halt t =>
    rw [outcome] at ends
    exact ⟨rfl, opening.closes s t holds ends.1, ends.2⟩

section

variable (lasting : Lasting inner faults halts check)
include lasting

theorem default_value_agree (calls : CallsAgree inner halts call other) (function : String)
    (parameter : Parameter) (passed : everyOptionalFunction check parameter.default = true) :
    Agree inner halts Any (defaultValue call function parameter)
      (defaultValue other function parameter) := by
  unfold defaultValue
  cases default : parameter.default with
  | none => exact keeps_pure _ trivial
  | some expression =>
    rw [default] at passed
    refine agree_bind (evaluate_agree lasting.toDurable calls expression passed) fun value _ => ?_
    refine agree_bind (lasting.convert value _) fun converted _ => ?_
    exact lasting.or_fail _ _ _ rfl

theorem bind_parameters_agree (calls : CallsAgree inner halts call other) (function : String)
    (parameters : List Parameter) (arguments : List Value)
    (passed : everyDefaultFunction check parameters = true) :
    Agree inner halts Any (bindParameters call function parameters arguments)
      (bindParameters other function parameters arguments) := by
  induction parameters generalizing arguments with
  | nil => exact keeps_pure _ trivial
  | cons parameter rest ih =>
    rw [every_default_function_cons] at passed
    have parts := Bool.and_eq_true_iff.1 passed
    cases arguments with
    | nil =>
      refine agree_bind (default_value_agree lasting calls function parameter parts.1)
        fun value _ => ?_
      exact agree_bind (define_keeps lasting parameter.name value) fun _ _ => ih [] parts.2
    | cons argument arguments =>
      exact agree_bind (define_keeps lasting parameter.name argument) fun _ _ =>
        ih arguments parts.2

theorem give_back_keeps (function : Function) (value : Value) (location : Location) :
    Keeps inner halts Any (giveBack function value location) := by
  unfold giveBack
  split
  · exact keeps_pure _ trivial
  · exact agree_bind (lasting.convert value _) fun _ _ => lasting.or_fail _ _ _ rfl

theorem run_function_agree (counterparts : Counterparts halts setting twinSetting)
    (calls : CallsAgree inner halts call other) (function : Function)
    (passed : function.everyFunction check = true)
    (settled : Returns (Signal.Settled halts) (executeBlock setting call function.body))
    (arguments : List Value) (location : Location) :
    Agree inner halts Any (runFunction setting call function arguments location)
      (runFunction twinSetting other function arguments location) := by
  obtain ⟨own, defaults, body⟩ := (function.every_function_iff check).1 passed
  refine agree_bind (bind_parameters_agree lasting calls _ _ arguments defaults) fun _ _ => ?_
  refine agree_bind (agree_of_returns
    (execute_block_agree lasting counterparts calls _ body (lasting.bodies function own)) settled)
    fun signal ends => ?_
  cases result : signal.result with
  | ok value =>
    cases value with
    | none => exact keeps_pure _ trivial
    | some value => exact give_back_keeps lasting function value location
  | error error => exact keeps_throw _ (ends error result)

theorem run_code_agree (counterparts : Counterparts halts setting twinSetting)
    (calls : CallsAgree inner halts call other)
    (classes : ClassesVetted faults setting.components)
    (settled : ∀ function : Function, function.everyFunction check = true →
      Returns (Signal.Settled halts) (executeBlock setting call function.body))
    (code : Code) (passed : code.Vetted check faults) (arguments : List Value)
    (location : Location) :
    Agree inner halts Any (runCode setting call code arguments location)
      (runCode twinSetting other code arguments location) := by
  cases code with
  | native own =>
    unfold runCode
    rw [counterparts.components]
    exact agree_get_bind fun s _ =>
      lasting.on_heap location _
        (safe_native lasting.ordinary ⟨_, s.root⟩ classes own passed arguments)
        (native_gains _ own arguments)
  | user function =>
    exact run_function_agree lasting counterparts calls function passed (settled function passed)
      arguments location

theorem enter_agree (durable : Durable outer faults halts check) (opening : Opening outer inner)
    (counterparts : Counterparts halts setting twinSetting)
    (calls : CallsAgree inner halts call other) (classes : ClassesVetted faults setting.components)
    (settled : ∀ function : Function, function.everyFunction check = true →
      Returns (Signal.Settled halts) (executeBlock setting call function.body)) :
    CallsAgree outer halts (enter setting call) (enter twinSetting other) := by
  intro ref arguments receiver location
  refine agree_bind (durable.on_heap location _ (safe_resolve_call durable.ordinary ref arguments)
    (resolve_call_gains ref arguments)) fun choice passed => ?_
  refine agree_get_bind fun s holds => ?_
  refine agree_bind (keeps_modify _ fun t => opening.entered s t _ holds) fun _ _ => ?_
  exact in_call_agree opening _
    (run_code_agree lasting counterparts calls classes settled choice.code passed _ _)

end

theorem call_function_keeps {inv : State → Prop} (lasting : Lasting inv Any Any check)
    (opening : Opening inv inv) :
    CallsAgree inv Any (callFunction setting) (callFunction setting) := by
  have within : ∀ remaining, CallsAgree inv Any (callWithin setting remaining)
      (callWithin setting remaining) := by
    intro remaining
    induction remaining with
    | zero => exact fun _ _ _ _ => keeps_throw _ trivial
    | succ remaining ih =>
      exact enter_agree lasting lasting.toDurable opening (counterparts_refl _ _) ih
        (fun _ _ _ _ _ _ _ => trivial)
        fun _ _ _ _ _ _ _ _ => trivial
  exact fun ref arguments receiver location s => within _ ref arguments receiver location s

def Halt.Expected (faults : Fault → Prop) : Halt → Prop
  | .error failure => faults failure.cause
  | .finish | .exhausted => True

-- No unexpected fault was met so far, and none is laid up in the heap.
structure Calm (check : Function → Bool) (faults : Fault → Prop) (s : State) : Prop where
  heap : s.heap.Vetted check faults
  caught : ∀ error, Event.caught error ∈ s.journal → faults error.cause

theorem caught_before {p : RuntimeError → Prop} {journal : List Event} {event : Event}
    (caught : ∀ error, Event.caught error ∈ journal → p error)
    (other : ∀ error, event ≠ .caught error) :
    ∀ error, Event.caught error ∈ event :: journal → p error := by
  intro error member
  rcases List.mem_cons.1 member with same | old
  · exact absurd same.symm (other error)
  · exact caught error old

theorem calm_lasting (ordinary : ∀ fault : Fault, fault.isOrdinary = true → faults fault) :
    Lasting (Calm check faults) faults (Halt.Expected faults) check where
  vetted _ holds := holds.heap
  heap _ _ holds vetted _ := ⟨vetted, holds.caught⟩
  ordinary := ordinary
  fault _ expected := expected
  locals _ _ _ holds := ⟨holds.heap, holds.caught⟩
  module _ _ _ holds := ⟨holds.heap, holds.caught⟩
  write _ _ holds := ⟨holds.heap, holds.caught⟩
  caught s error holds expected := by
    refine ⟨holds.heap, ?_⟩
    intro other member
    rcases List.mem_cons.1 member with same | old
    · cases same
      exact expected
    · exact holds.caught other old
  ended _ _ _ holds := ⟨holds.heap, caught_before holds.caught fun _ => Event.noConfusion⟩
  finish := trivial
  bodies _ _ := .inr trivial

theorem calm_opening : Opening (Calm check faults) (Calm check faults) where
  entered _ _ _ _ holds := ⟨holds.heap, caught_before holds.caught fun _ => Event.noConfusion⟩
  opens _ _ holds := ⟨holds.heap, holds.caught⟩
  closes _ _ _ holds := ⟨holds.heap, holds.caught⟩

end BrightScript
