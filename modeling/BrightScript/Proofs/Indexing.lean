import BrightScript.Proofs.Overloads
set_option autoImplicit false

/-!
What native functions are given. The body of a native function takes its arguments by their places
and trusts its declaration that they are there and of the right kinds. Since a call goes to an
overload that takes its arguments, and every native function a program can get hold of goes by its
own declaration, no call ever fails that trust.
-/

namespace BrightScript

namespace Native

def parameters : Native → List Argument
  | .builtin function => function.signature.arguments
  | .arrayMethod _ method => method.arguments
  | .tableMethod _ method => method.arguments
  | .fieldCount _ | .constant _ | .collect | .fail _ => []

def indexed : Native → Nat
  | .builtin .getGlobalAA => 0
  | .builtin .valRadix | .builtin .getInterface => 2
  | .builtin _ => 1
  | .arrayMethod _ .push | .arrayMethod _ .unshift | .arrayMethod _ .append => 1
  | .arrayMethod _ _ => 0
  | .tableMethod _ .addReplace => 2
  | .tableMethod _ .doesExist | .tableMethod _ .delete | .tableMethod _ .lookup
  | .tableMethod _ .append => 1
  | .tableMethod _ _ => 0
  | .fieldCount _ | .constant _ | .collect | .fail _ => 0

-- All that the body reads of its arguments: those that it takes by their places, and, in a base for
-- `StrI` or a list of all of them, what it does without where it is missing.
def read (native : Native) (arguments : List Value) : List Value :=
  match native with
  | .builtin .strI => arguments.take 2
  | .collect => arguments
  | native => arguments.take native.indexed

def Served (native : Native) (arguments : List Value) : Prop :=
  ∀ i < max native.indexed (min arguments.length native.parameters.length),
    ∃ argument ∈ native.parameters[i]?, ∃ value ∈ arguments[i]?, argument.kind.Admits value

instance (kind : Kind) (value : Value) : Decidable (kind.Admits value) :=
  inferInstanceAs (Decidable (_ ∨ _ ∨ _ ∧ _))

instance (native : Native) (arguments : List Value) : Decidable (native.Served arguments) :=
  inferInstanceAs (Decidable (∀ i < _, ∃ argument ∈ _, ∃ value ∈ _, _))

theorem indexed_required (native : Native) (returns : Kind) :
    native.indexed ≤ (Signature.mk native.parameters returns).required := by
  cases native with
  | builtin function => cases function <;> exact Nat.le_refl _
  | arrayMethod ref method => cases method <;> exact Nat.le_refl _
  | tableMethod ref method => cases method <;> exact Nat.le_refl _
  | fieldCount | constant | collect | fail => exact Nat.le_refl _

theorem builtin_run_read (around : Surroundings) (function : Builtin) (arguments : List Value) :
    function.run around arguments = function.run around ((builtin function).read arguments) := by
  rcases arguments with _ | ⟨first, _ | ⟨second, rest⟩⟩ <;> cases function <;> rfl

theorem array_run_read (ref : Nat) (method : ArrayMethod) (arguments : List Value) :
    method.run ref arguments = method.run ref ((arrayMethod ref method).read arguments) := by
  rcases arguments with _ | ⟨first, rest⟩ <;> cases method <;> rfl

theorem table_run_read (ref : Nat) (method : TableMethod) (arguments : List Value) :
    method.run ref arguments = method.run ref ((tableMethod ref method).read arguments) := by
  rcases arguments with _ | ⟨first, _ | ⟨second, rest⟩⟩ <;> cases method <;> rfl

theorem run_read (around : Surroundings) (native : Native) (arguments : List Value) :
    native.run around arguments = native.run around (native.read arguments) := by
  cases native with
  | builtin function => exact builtin_run_read around function arguments
  | arrayMethod ref method => exact array_run_read ref method arguments
  | tableMethod ref method => exact table_run_read ref method arguments
  | fieldCount | constant | collect | fail => rfl

end Native

section Declarations

def Overload.Declared (o : Overload) : Prop :=
  ∀ native, o.code = .native native → native.parameters ≠ [] →
    o.signature.arguments = native.parameters

def Callable.Declared (c : Callable) : Prop :=
  ∀ overload ∈ c.overloads, overload.Declared

def Heap.Declared (h : Heap) : Prop :=
  ∀ callable ∈ h.functions, callable.Declared

theorem Overload.Declared.serves {o : Overload} (declared : o.Declared) {native : Native}
    {fresh : Nat} {values converted : List Value} (own : o.code = .native native)
    (takes : o.signature.Takes values) (made : o.signature.Converted fresh values converted) :
    native.Served converted := by
  intro i below
  have enough := native.indexed_required o.signature.returns
  have declares : native.parameters ≠ [] := by
    intro none
    rw [none] at below enough
    exact Nat.not_lt_zero i (Nat.lt_of_lt_of_le below (Nat.max_le.2 ⟨enough, Nat.min_le_right _ _⟩))
  have same := declared native own declares
  rw [← same] at enough
  have given : i < values.length := by
    refine Nat.lt_of_lt_of_le below (Nat.max_le.2 ⟨Nat.le_trans enough takes.enough, ?_⟩)
    exact made.length ▸ Nat.min_le_left _ _
  have room : i < o.signature.arguments.length := Nat.lt_of_lt_of_le given takes.room
  have there : o.signature.arguments[i]? = some o.signature.arguments[i] :=
    List.getElem?_eq_getElem room
  obtain ⟨value, supplied, coerced⟩ := made.each i _ _ (List.getElem?_eq_getElem given) there
  exact ⟨_, same ▸ there, value, supplied, coerce_admits coerced⟩

theorem native_declared (name : String) (returns : Kind) (native : Native) :
    (Callable.native name native.parameters returns native).Declared := by
  intro overload member other own _
  obtain rfl := List.mem_singleton.1 member
  cases own
  rfl

theorem undemanding_declared {native : Native} (none : native.parameters = []) (name : String)
    (arguments : List Argument) (returns : Kind) :
    (Callable.native name arguments returns native).Declared := by
  intro overload member other own declares
  obtain rfl := List.mem_singleton.1 member
  cases own
  exact absurd none declares

theorem user_declared (function : Function) : (Callable.user function).Declared := by
  intro overload member native own
  obtain rfl := List.mem_singleton.1 member
  cases own

theorem box_method_declared {content : Scalar} {name : String} {callable : Callable}
    (found : content.boxMethod? name = some callable) : callable.Declared := by
  unfold Scalar.boxMethod? Scalar.getter at found
  split at found <;> cases found <;> exact undemanding_declared rfl _ _ _

theorem method_declared {h : Heap} {object : Object} {name : String} {callable : Callable}
    (found : h.method? object name = some callable) : callable.Declared := by
  cases object with
  | array ref =>
    obtain ⟨method, _, rfl⟩ := Option.map_eq_some_iff.1 found
    exact native_declared _ _ (.arrayMethod ref method)
  | table ref =>
    obtain ⟨method, _, rfl⟩ := Option.map_eq_some_iff.1 found
    exact native_declared _ _ (.tableMethod ref method)
  | box mark content => exact box_method_declared found
  | component ref =>
    obtain ⟨member, _, rfl⟩ := Option.map_eq_some_iff.1 found
    unfold ComponentMember.callable
    cases member.method <;> exact undemanding_declared rfl _ _ _

theorem arises_declared {callable : Callable} (arises : callable.Arises) : callable.Declared := by
  cases arises with
  | user function => exact user_declared function
  | method found => exact method_declared found

theorem builtins_declared (callable : Callable) (member : callable ∈ Builtin.callables) :
    callable.Declared := by
  obtain ⟨builtins, _, rfl⟩ := List.mem_map.1 member
  intro overload among native own _
  obtain ⟨builtin, _, rfl⟩ := List.mem_map.1 among
  cases own
  rfl

theorem Heap.Declared.new_function {h : Heap} (declared : h.Declared) {callable : Callable}
    (own : callable.Declared) : (h.newFunction callable).2.Declared := by
  intro other member
  rcases Array.mem_push.1 member with old | new
  · exact declared other old
  · exact new ▸ own

theorem declared_define (callables : List Callable)
    (each : ∀ callable ∈ callables, callable.Declared) (names : Table Value) (heap : Heap)
    (declared : heap.Declared) : (callables.foldl
      (fun (names, heap) callable =>
        let (value, heap) := heap.newFunction callable
        (names.insert callable.displayName value, heap))
      (names, heap)).2.Declared := by
  induction callables generalizing names heap with
  | nil => exact declared
  | cons callable rest ih =>
    exact ih (fun other member => each other (List.mem_cons_of_mem _ member)) _ _
      (declared.new_function (each callable List.mem_cons_self))

theorem fresh_declared (sink : Sink) : (State.fresh sink).heap.Declared := by
  have bare : (Heap.empty.newTable .empty).2.Declared :=
    fun _ member => absurd member (by simp [Heap.newTable, Heap.empty])
  exact declared_define Builtin.callables builtins_declared .empty _ bare

theorem Heap.Declared.function {h : Heap} (declared : h.Declared) (ref : Nat) :
    (h.function ref).Declared := by
  unfold Heap.function
  by_cases inside : ref < h.functions.size
  · rw [Array.getD_eq_getD_getElem?, Array.getElem?_eq_getElem inside]
    exact declared _ (Array.getElem_mem inside)
  · rw [Array.getD_eq_getD_getElem?, Array.getElem?_eq_none (Nat.le_of_not_lt inside)]
    intro overload member
    cases member

def Callable.Choice.Served (choice : Callable.Choice) : Prop :=
  ∀ native, choice.code = .native native → native.Served choice.arguments

theorem Heap.Declared.resolve {h later : Heap} {ref : Nat} {arguments : List Value}
    {choice : Callable.Choice} (declared : h.Declared)
    (resolves : resolveCall ref arguments h = .ok choice later) : choice.Served := by
  intro native own
  simp only [resolveCall, get_bind_apply] at resolves
  cases resolved : (h.function ref).resolve h.boxes arguments with
  | error fault =>
    rw [resolved] at resolves
    cases resolves
  | ok found =>
    rw [resolved] at resolves
    cases resolves
    obtain ⟨_, overload, there, code, takes, made⟩ := Callable.resolve_chosen resolved
    have listed := declared.function ref overload (List.mem_of_getElem? there)
    exact listed.serves (code ▸ own) takes made

end Declarations

section Checking

def enterBy (run : Call → Code → List Value → Location → Exec Value) (call : Call) : Call :=
  fun ref arguments receiver location => do
    let choice ← Exec.onHeap location (resolveCall ref arguments)
    let s ← get
    Exec.note (.entered (s.heap.function ref).displayName s.depth)
    Exec.inCall ⟨.empty, receiver.getD s.root⟩ (run call choice.code choice.arguments location)

def withinBy (setting : Setting) (run : Call → Code → List Value → Location → Exec Value) :
    Nat → Call
  | 0, _, _, _, location => Exec.fail (.stackOverflow setting.options.maxCallDepth) location
  | remaining + 1, ref, arguments, receiver, location =>
    enterBy run (withinBy setting run remaining) ref arguments receiver location

def callBy (setting : Setting) (run : Call → Code → List Value → Location → Exec Value) : Call :=
  fun ref arguments receiver location s =>
    withinBy setting run (setting.options.maxCallDepth - s.depth) ref arguments receiver location s

-- The code of a function, with what is done instead when an argument that a body relies on is
-- missing or of another kind. Nothing else of the arguments is handed on.
def checkedCode (setting : Setting) (panics : Exec Value) (call : Call) (code : Code)
    (arguments : List Value) (location : Location) : Exec Value :=
  match code with
  | .native native =>
    if native.Served arguments then runCode setting call code
      (native.read arguments) location else panics
  | .user _ => runCode setting call code arguments location

variable {setting : Setting} {panics : Exec Value} {call other : Call}

theorem within_by_run_code (setting : Setting) (remaining : Nat) :
    withinBy setting (runCode setting) remaining = callWithin setting remaining := by
  induction remaining with
  | zero => rfl
  | succ remaining ih =>
    funext ref arguments receiver location
    simp only [withinBy, callWithin, ih]
    rfl

theorem call_by_run_code (setting : Setting) :
    callBy setting (runCode setting) = callFunction setting := by
  funext ref arguments receiver location s
  simp only [callBy, callFunction, within_by_run_code]

abbrev State.Declared (s : State) : Prop :=
  s.heap.Declared

theorem declared_lasting : Lasting State.Declared Any Any passAll where
  vetted s _ := vetted_any s.heap
  heap s h declared _ gains := by
    intro callable member
    rcases gains callable member with old | arises
    · exact declared callable old
    · exact arises_declared arises
  ordinary _ _ := trivial
  fault _ _ := trivial
  locals _ _ _ declared := declared
  module _ _ _ declared := declared
  write _ _ declared := declared
  caught _ _ declared _ := declared
  ended _ _ _ declared := declared
  finish := trivial
  bodies _ _ := .inr trivial

theorem declared_opening : Opening State.Declared State.Declared where
  entered _ _ _ _ declared := declared
  opens _ _ declared := declared
  closes _ _ _ declared := declared

theorem resolve_call_served (ref : Nat) (arguments : List Value) (location : Location) :
    Keeps State.Declared Any Callable.Choice.Served
      (Exec.onHeap location (resolveCall ref arguments)) := by
  refine keeps_of_ends fun s declared => ?_
  have gained := resolve_call_gains ref arguments s.heap
  unfold Exec.onHeap
  dsimp only
  cases outcome : resolveCall ref arguments s.heap with
  | ok choice h =>
    rw [outcome] at gained
    exact ⟨declared_lasting.heap s h declared (vetted_any h) gained, declared.resolve outcome⟩
  | error fault h =>
    rw [outcome] at gained
    exact ⟨declared_lasting.heap s h declared (vetted_any h) gained, trivial⟩

theorem native_checked {native : Native} {arguments : List Value} (served : native.Served arguments)
    (location : Location) :
    checkedCode setting panics call (.native native) arguments location =
      runCode setting call (.native native) arguments location := by
  simp only [checkedCode, if_pos served, runCode]
  refine congrArg (get >>= ·) (funext fun s => ?_)
  rw [← native.run_read]

theorem checked_code_agree (calls : CallsAgree State.Declared Any call other)
    {choice : Callable.Choice} (served : choice.Served) (location : Location) :
    Agree State.Declared Any Any (runCode setting call choice.code choice.arguments location)
      (checkedCode setting panics other choice.code choice.arguments location) := by
  have same : checkedCode setting panics other choice.code choice.arguments location =
      runCode setting other choice.code choice.arguments location := by
    cases own : choice.code with
    | native native => exact native_checked (served native own) location
    | user function => rfl
  rw [same]
  refine run_code_agree declared_lasting (counterparts_refl _ _) calls
    (classes_any _) settled_any choice.code ?_ _ _
  cases choice.code with
  | native own => cases own <;> trivial
  | user function => exact function.every_function_pass_all

-- By induction on the calls that may still be opened: in no state that is passed through does a
-- check fail.
theorem checked_within_agree (setting : Setting) (panics : Exec Value) (remaining : Nat) :
    CallsAgree State.Declared Any (withinBy setting (runCode setting) remaining)
      (withinBy setting (checkedCode setting panics) remaining) := by
  induction remaining with
  | zero => exact fun _ _ _ _ => keeps_throw _ trivial
  | succ remaining ih =>
    intro ref arguments receiver location
    refine agree_bind (resolve_call_served ref arguments location) fun choice served => ?_
    refine agree_get_bind fun s declared => ?_
    refine agree_bind (keeps_modify _ fun t inside => inside) fun _ _ => ?_
    exact in_call_agree declared_opening _ (checked_code_agree ih served location)

def checkedCall (panics : Exec Value) (setting : Setting) : Call :=
  callBy setting (checkedCode setting panics)

theorem checked_call_agree (setting : Setting) (panics : Exec Value) :
    CallsAgree State.Declared Any (callFunction setting) (checkedCall panics setting) := by
  rw [← call_by_run_code]
  exact fun ref arguments receiver location s declared =>
    checked_within_agree setting panics _ ref arguments receiver location s declared

end Checking

namespace Session

def Command.runBy (call : Call) : Command → Setting → Exec Value
  | .exec statements, setting => do
    hoist statements
    match (← executeAll setting call statements).result with
    | .ok value => pure (value.getD .invalid)
    | .error error => throw (.error error)
  | .call name arguments, _ => do
    match (← get).lookup? name with
    | some (.function ref) => call ref arguments none .internal
    | some other => Exec.fail (.notCallable other.kind) .internal
    | none => Exec.fail (.undefinedFunction name) .internal

def performAllBy (calls : Setting → Call) (s : Session) : List Command → List Conclusion × Session
  | [] => ([], s)
  | command :: rest =>
    let (conclusion, next) := s.conclude fun setting => command.runBy (calls setting) setting
    let (conclusions, last) := performAllBy calls next rest
    (conclusion :: conclusions, last)

theorem command_run_by_agree (setting : Setting) (panics : Exec Value) (command : Command) :
    Agree State.Declared Any Any (command.run setting)
      (command.runBy (checkedCall panics setting) setting) := by
  have calls := checked_call_agree setting panics
  cases command with
  | exec statements =>
    refine agree_bind (hoist_keeps declared_lasting statements
      (every_statement_function_pass_all statements))
      fun _ _ => ?_
    refine agree_bind (execute_all_agree declared_lasting (counterparts_refl _ _) calls statements
      (every_statement_function_pass_all statements) (.inr trivial)) fun signal _ => ?_
    cases signal.result with
    | ok value => exact keeps_pure _ trivial
    | error error => exact keeps_throw _ trivial
  | call name arguments =>
    refine agree_get_bind fun s _ => ?_
    rcases s.lookup? name with _ | value
    · exact declared_lasting.fail _ _ rfl
    · cases value with
      | function ref => exact calls ref arguments none .internal
      | _ => exact declared_lasting.fail _ _ rfl

theorem conclude_by_agree (s : Session) (panics : Exec Value) (command : Command)
    (declared : s.state.Declared) :
    (s.conclude fun setting => command.runBy (checkedCall panics setting) setting) =
      s.conclude command.run := by
  obtain ⟨setting, state, errors⟩ := s
  have same := (command_run_by_agree setting panics command state declared).1
  unfold conclude
  dsimp only
  rw [← same]

theorem perform_all_checked (commands : List Command) (s : Session) (panics : Exec Value)
    (declared : s.state.Declared) :
    s.performAllBy (checkedCall panics) commands = s.performAll commands ∧
      (s.performAll commands).2.state.Declared := by
  induction commands generalizing s with
  | nil => exact ⟨rfl, declared⟩
  | cons command rest ih =>
    have keeps : Keeps State.Declared Any Any (command.run s.setting) :=
      fun t inside => ⟨rfl, (command_run_by_agree s.setting panics command t inside).2⟩
    obtain ⟨_, held, _⟩ := s.conclude_keeps command.run keeps declared
    obtain ⟨same, last⟩ := ih (s.conclude command.run).2 held
    simp only [performAllBy, performAll, perform_eq,
      conclude_by_agree s panics command declared, same]
    exact ⟨trivial, last⟩

end Session

/-- A function is resolved to the first of its overloads that takes the arguments, by their number
and by what each converts to, with each argument converted to the kind declared for its place; it is
refused just where no overload takes them. Which overload it is depends on the shapes of the
arguments alone. The body of a native function reads nothing of its arguments but those that it
takes by their places and what it looks for besides; and these are there, of the kinds declared for
them, whenever it is run: in a session whose native functions go by their own declarations, as those
of a new session do, all goes as if each call was checked for that first, whatever a failed check
led to. -/
theorem resolution_serves_natives :
    (∀ (c : Callable) (fresh : Nat) (values : List Value),
      (∀ place, (∃ choice, c.resolve fresh values = .ok choice ∧ choice.index = place) ↔
        c.FirstTaking values place) ∧
      (∀ choice, c.resolve fresh values = .ok choice →
        ∃ overload, c.overloads[choice.index]? = some overload ∧ choice.code = overload.code ∧
          overload.signature.Converted fresh values choice.arguments) ∧
      (∀ fault, c.resolve fresh values = .error fault ↔
        (∀ overload ∈ c.overloads, ¬ overload.signature.Takes values) ∧
          fault = .argumentMismatch c.displayName (c.misfit values)) ∧
      ∀ (later : Nat) (others : List Value), values.map Value.shape = others.map Value.shape →
        c.chosenPlace fresh values = c.chosenPlace later others) ∧
    (∀ (around : Surroundings) (native : Native) (arguments : List Value),
      native.run around arguments = native.run around (native.read arguments)) ∧
    (∀ (h later : Heap) (ref : Nat) (arguments : List Value) (choice : Callable.Choice)
      (native : Native), h.Declared →
      resolveCall ref arguments h = .ok choice later → choice.code = .native native →
        native.Served choice.arguments) ∧
    (∀ (options : Options) (output errors : Sink),
      (Session.startOn options output errors).state.Declared) ∧
    ∀ (s : Session) (panics : Exec Value) (commands : List Session.Command), s.state.Declared →
      s.performAllBy (checkedCall panics) commands = s.performAll commands ∧
        (s.performAll commands).2.state.Declared := by
  refine ⟨fun c fresh values =>
    ⟨fun place => Callable.resolve_index, fun choice resolves => ?_, fun fault =>
    Callable.resolve_error, fun later others same => c.chosen_place_shapes fresh later same⟩,
    Native.run_read, ?_, ?_, ?_⟩
  · obtain ⟨_, overload, there, code, _, made⟩ := Callable.resolve_chosen resolves
    exact ⟨overload, there, code, made⟩
  · exact fun h later ref arguments choice native declared resolves =>
      declared.resolve resolves native
  · exact fun _ output _ => fresh_declared output
  · exact fun s panics commands => s.perform_all_checked commands panics

end BrightScript
