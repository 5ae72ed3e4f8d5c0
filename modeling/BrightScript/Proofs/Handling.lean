import BrightScript.Proofs.Contents
set_option autoImplicit false

namespace BrightScript

variable {α β : Type} {setting : Setting}

theorem bind_failed {x : Exec α} {k : α → Exec β} {s t : State} {halt : Halt}
    (failed : x s = .error halt t) : (x >>= k) s = .error halt t := by
  change EStateM.bind x k s = _
  simp only [EStateM.bind, failed]

section Places

structure Outside (base s : State) : Prop where
  root : s.root = base.root
  globals : s.globals = base.globals
  mocks : s.mocks = base.mocks

-- `s` is in the same call as `base`, with the same things around it; the variables are those of
-- `base`, as they are after some stores.
structure Placed (base s : State) : Prop extends Outside base s where
  receiver : s.frame.receiver = base.frame.receiver
  depth : s.depth = base.depth
  locals : ∃ stores, s.frame.locals = base.frame.locals.insertAll stores

theorem insert_all_insert (table : Table α) (stores : List (String × α)) (name : String)
    (value : α) :
    (table.insertAll stores).insert name value = table.insertAll (stores ++ [(name, value)]) := by
  simp only [Table.insertAll, List.foldl_append, List.foldl_cons, List.foldl_nil]

theorem outside_lasting (base : State) : Lasting (Outside base) Any Any passAll where
  vetted s _ := vetted_any s.heap
  heap _ _ holds _ _ := ⟨holds.root, holds.globals, holds.mocks⟩
  ordinary _ _ := trivial
  fault _ _ := trivial
  locals _ _ _ holds := ⟨holds.root, holds.globals, holds.mocks⟩
  module _ _ _ holds := ⟨holds.root, holds.globals, holds.mocks⟩
  write _ _ holds := ⟨holds.root, holds.globals, holds.mocks⟩
  caught _ _ holds _ := ⟨holds.root, holds.globals, holds.mocks⟩
  ended _ _ _ holds := ⟨holds.root, holds.globals, holds.mocks⟩
  finish := trivial
  bodies _ _ := .inr trivial

theorem outside_opening (base : State) : Opening (Outside base) (Outside base) where
  entered _ _ _ _ holds := ⟨holds.root, holds.globals, holds.mocks⟩
  opens _ _ holds := ⟨holds.root, holds.globals, holds.mocks⟩
  closes _ _ _ holds := ⟨holds.root, holds.globals, holds.mocks⟩

theorem Placed.elsewhere {base s t : State} (placed : Placed base s) (outside : Outside base t)
    (frame : t.frame = s.frame) (depth : t.depth = s.depth) : Placed base t :=
  ⟨outside, frame ▸ placed.receiver, depth ▸ placed.depth, frame ▸ placed.locals⟩

theorem Placed.define {base s : State} (placed : Placed base s) (name : String) (value : Value) :
    Placed base (s.define .function name value) := by
  obtain ⟨stores, same⟩ := placed.locals
  refine ⟨⟨placed.root, placed.globals, placed.mocks⟩, placed.receiver, placed.depth,
    stores ++ [(name, value)], ?_⟩
  rw [← insert_all_insert, ← same]
  rfl

theorem placed_lasting (base : State) : Lasting (Placed base) Any Any passAll where
  vetted s _ := vetted_any s.heap
  heap s h holds vetted gains :=
    holds.elsewhere ((outside_lasting base).heap s h holds.toOutside vetted gains) rfl rfl
  ordinary _ _ := trivial
  fault _ _ := trivial
  locals _ name value holds := holds.define name value
  module s name value holds :=
  holds.elsewhere ((outside_lasting base).module s name value holds.toOutside) rfl rfl
  write s text holds :=
  holds.elsewhere ((outside_lasting base).write s text holds.toOutside) rfl rfl
  caught s error holds _ :=
  holds.elsewhere ((outside_lasting base).caught s error holds.toOutside trivial) rfl rfl
  ended s depth scene holds :=
  holds.elsewhere ((outside_lasting base).ended s depth scene holds.toOutside) rfl rfl
  finish := trivial
  bodies _ _ := .inr trivial

theorem calls_placed (setting : Setting) (base : State) :
    CallsAgree (Placed base) Any (callFunction setting) (callFunction setting) := by
  intro ref arguments receiver location
  refine keeps_of_ends fun s placed => ?_
  have started : Restored setting.options.maxCallDepth s s := ⟨rfl, rfl, rfl, noted_refl _ _⟩
  have restored := ends_final_state
      (call_function_restores setting s ref arguments receiver location s started).2
  have shared : CallsAgree (Outside base) Any (callFunction setting) (callFunction setting) :=
    call_function_keeps (outside_lasting base) (outside_opening base)
  have outside := ends_final_state (shared ref arguments receiver location s placed.toOutside).2
  have back : Placed base (finalState (callFunction setting ref arguments receiver location s)) :=
    placed.elsewhere outside restored.frame restored.depth
  cases outcome : callFunction setting ref arguments receiver location s with
  | ok value t | error halt t =>
    rw [outcome] at back
    exact ⟨back, trivial⟩

theorem block_placed (setting : Setting) (block : Block) (s : State) :
    Placed s (finalState (executeBlock setting (callFunction setting) block s)) :=
  ends_final_state (execute_block_agree (placed_lasting s) (counterparts_refl _ _)
    (calls_placed setting s) block
    block.every_function_pass_all (.inr trivial) s ⟨⟨rfl, rfl, rfl⟩, rfl, rfl, [], rfl⟩).2

end Places

section Handlers

def State.handling (t : State) (name : String) (error : RuntimeError) : State :=
  { t with
    heap := (t.heap.newTable error.cause.entries).2
    frame := { t.frame with locals := t.frame.locals.insert name (.table t.heap.tables.size) }
    journal := .caught error :: t.journal }

theorem try_catch_eq (body : Exec Signal) (name : String) (handler : Exec Signal) (s : State) :
    tryCatch body name handler s =
      match body s with
      | .error (.error error) t => handler (t.handling name error)
      | outcome => outcome := by
  unfold tryCatch
  cases body s with
  | ok signal t => rfl
  | error halt t => cases halt <;> rfl

def Fault.contents (fault : Fault) : Contents :=
  fun key =>
    if key = "message" then some (.string fault.message)
    else if key = "number" then some (.integer fault.code)
    else none

theorem entries_contents (fault : Fault) : fault.entries.contents = fault.contents := by
  have message : fold "message" = "message" := by decide
  have number : fold "number" = "number" := by decide
  funext key
  simp only [Fault.entries, Table.ofList, Table.contents_insert_all, Table.contents_empty,
    List.map_cons, List.map_nil, List.foldl_cons, List.foldl_nil, Update.apply, Fault.contents,
      message, number]
  by_cases first : key = "message"
  · subst first
    simp
  · simp [first]

theorem thrown_number_integer (number : Int32) :
    thrownNumber (some (.integer number)) = number := by
  have bounds : Int32.minValue.toInt ≤ number.toInt64.toInt ∧
      number.toInt64.toInt ≤ Int32.maxValue.toInt := by
    rw [number.toInt_toInt64]
    exact ⟨number.minValue_le_toInt, number.toInt_le⟩
  change (if _ then _ else _) = _
  rw [if_pos bounds, Int32.toInt32_toInt64]

theorem thrown_contents {h : Heap} {ref : Nat} {fault : Fault}
    (held : h.contents ref = fault.contents) :
    h.thrown (.table ref) = .thrown fault.message fault.code := by
  have message : (h.table ref).get? "message" = some (.string fault.message) :=
    congrFun held (fold "message")
  have number : (h.table ref).get? "number" = some (.integer fault.code) :=
    congrFun held (fold "number")
  change Fault.thrown _ _ = _
  rw [message, number, thrown_number_integer]
  rfl

def State.Holds (u : State) (name : String) (fault : Fault) : Prop :=
  ∃ ref, u.lookup? name = some (.table ref) ∧ u.heap.contents ref = fault.contents

def State.Plain (s : State) (name : String) : Prop :=
  sameName name "m" = false ∧ s.mocks.get? name = none

theorem handling_holds {t : State} {name : String} (plain : t.Plain name) (error : RuntimeError) :
    (t.handling name error).Holds name error.cause := by
  refine ⟨t.heap.tables.size, ?_, ?_⟩
  · simp only [State.lookup?, plain.1, State.handling, plain.2, Table.get_insert]
    rfl
  · simp only [Heap.contents, State.handling, Heap.new_table_table, entries_contents]

theorem raise_held {u : State} {name : String} {fault : Fault} (held : u.Holds name fault)
    (setting : Setting) (call : Call) (place location : Location) :
    execute setting call (.raise (.variable name place) location) u =
      .error (.error ⟨.thrown fault.message fault.code, location⟩) u := by
  obtain ⟨ref, found, contents⟩ := held
  have read : evaluate call (.variable name place) u = .ok (.table ref) u := by
    change EStateM.Result.ok ((u.lookup? name).getD .uninitialized) u = _
    rw [found]
    rfl
  unfold execute
  rw [bind_ran read]
  change Exec.fail (u.heap.thrown (.table ref)) location u = _
  rw [thrown_contents contents]
  rfl

end Handlers

section Layers

theorem steps_append (call : Call) (first second : List Stmt) :
    steps setting call (first ++ second) = steps setting call first ++
      steps setting call second := by
  induction first with
  | nil => rfl
  | cons statement rest ih => simp only [List.cons_append, steps, ih]

theorem run_straight_failed {step : Step} {s t : State} {halt : Halt}
    (failed : step.action s = .error halt t) (rest : List Step) :
    Step.runStraight (step :: rest) s = .error halt t :=
  bind_failed failed

theorem run_straight_completed {steps : List Step} {s t : State}
    (completed : Step.runStraight steps s = .ok .completed t) (rest : List Step) :
    Step.runStraight (steps ++ rest) s = Step.runStraight rest t := by
  induction steps generalizing s with
  | nil =>
    cases completed
    rfl
  | cons step behind ih =>
    simp only [List.cons_append, Step.runStraight] at completed ⊢
    cases outcome : step.action s with
    | error halt u =>
      rw [bind_failed outcome] at completed
      cases completed
    | ok signal u =>
      rw [bind_ran outcome] at completed ⊢
      cases signal with
      | completed => exact ih completed
      | returned | exitFor | exitWhile | goto => cases completed

theorem block_failed {call : Call} {block : Block} {s t : State} {halt : Halt}
    (failed : Step.runStraight (steps setting call block.statements) s = .error halt t) :
    executeBlock setting call block s = .error halt t := by
  cases block
  unfold executeBlock Step.runBlock Step.runFrom
  exact bind_failed failed

def State.entering (s : State) (ref : Nat) (heap : Heap) (receiver : Option Nat) : State :=
  { s with
    heap
    frame := ⟨.empty, receiver.getD s.root⟩
    depth := s.depth + 1
    journal := .entered (heap.function ref).displayName s.depth :: s.journal }

structure Enters (setting : Setting) (ref : Nat) (arguments : List Value)
    (receiver : Option Nat) (s : State) (function : Function) (u : State) : Prop where
  room : s.depth < setting.options.maxCallDepth
  bound : ∃ index converted heap,
    resolveCall ref arguments s.heap = .ok ⟨index, .user function, converted⟩ heap ∧
    bindParameters (callFunction setting) function.displayName function.parameters converted
      (s.entering ref heap receiver) = .ok () u

theorem call_failed {ref : Nat} {arguments : List Value} {receiver : Option Nat} {s u v : State}
    {function : Function} {error : RuntimeError}
    (enters : Enters setting ref arguments receiver s function u)
    (failed : executeBlock setting (callFunction setting) function.body u = .error (.error error) v)
    (location : Location) : callFunction setting ref arguments receiver location s =
      .error (.error error) { v with frame := s.frame, depth := v.depth - 1 } := by
  obtain ⟨index, converted, heap, resolved, binds⟩ := enters.bound
  have ran : runFunction setting (callFunction setting)
      function converted location (s.entering ref heap receiver) =
      .error (.error error) v := by
    unfold runFunction
    rw [bind_ran binds]
    exact bind_failed failed
  rw [call_function_eq, if_neg (Nat.not_le.2 enters.room), enter_eq, resolved]
  change Exec.inCall _ (runFunction setting (callFunction setting) function converted location) _ =
    _
  unfold State.entering at ran
  unfold Exec.inCall
  simp only [ran]

-- Running some statements from one state comes to running `inner` in `u`, where all that stands
-- between the two are statements that complete, statements that pass on the errors of others, calls
-- of functions, and handlers that throw again what they catch.
inductive Relays (setting : Setting) (inner : Stmt) (u : State) : List Stmt → State → Prop
  | here (behind : List Stmt) : Relays setting inner u (inner :: behind) u
  | later {first : Stmt} {rest : List Stmt} {s w : State} :
    execute setting (callFunction setting) first s = .ok .completed w →
      Relays setting inner u rest w →
      Relays setting inner u (first :: rest) s
  | inside {statement : Stmt} {body : List Stmt} {s w : State} (behind : List Stmt) :
    (∀ error t, Step.runStraight (steps setting (callFunction setting) body) w =
      .error (.error error) t →
      execute setting (callFunction setting) statement s = .error (.error error) t) →
    Relays setting inner u body w → Relays setting inner u (statement :: behind) s
  | called {statement : Stmt} {s before w : State} {ref : Nat} {arguments : List Value}
      {receiver : Option Nat} {function : Function} {location : Location} (behind : List Stmt) :
    -- The statement fails where the call that it makes does.
    (∀ error t, callFunction setting ref arguments receiver location before =
      .error (.error error) t →
      execute setting (callFunction setting) statement s = .error (.error error) t) →
    Enters setting ref arguments receiver before function w →
      Relays setting inner u function.body.statements w →
      Relays setting inner u (statement :: behind) s
  | rethrown {body : List Stmt} {s : State} {name : String} {before : List Stmt}
      (tail behind : List Stmt) (l₁ l₂ l₃ l₄ l₅ : Location) :
    s.Plain name →
    -- What the handler does before it throws completes and leaves the error in the variable.
    (∀ error t, Step.runStraight (steps setting (callFunction setting) body) s =
      .error (.error error) t →
      (t.handling name error).Holds name error.cause →
        ∃ w, Step.runStraight (steps setting (callFunction setting) before)
          (t.handling name error) =
          .ok .completed w ∧ w.Holds name error.cause) →
    Relays setting inner u body s →
      Relays setting inner u
        (.tryCatch ⟨body, l₁⟩ name ⟨before ++ .raise (.variable name l₂) l₃ :: tail, l₄⟩ l₅ ::
          behind) s

theorem rethrow_failed {u w : State} {name : String} {fault : Fault} {before : List Stmt}
    (ran : Step.runStraight (steps setting (callFunction setting) before) u = .ok .completed w)
    (held : w.Holds name fault) (tail : List Stmt) (place location around : Location) :
    executeBlock setting (callFunction setting)
      ⟨before ++ .raise (.variable name place) location :: tail, around⟩ u =
      .error (.error ⟨.thrown fault.message fault.code, location⟩) w := by
  refine block_failed ?_
  rw [steps_append, run_straight_completed ran, steps]
  exact run_straight_failed (raise_held held setting _ place location) _

theorem relayed {inner : Stmt} {outer : List Stmt} {u s v : State} {error : RuntimeError}
    (relays : Relays setting inner u outer s)
    (failed : execute setting (callFunction setting) inner u = .error (.error error) v) :
    ∃ other t, Step.runStraight (steps setting (callFunction setting) outer) s =
      .error (.error other) t ∧
      other.cause.message = error.cause.message ∧ other.cause.code = error.cause.code := by
  induction relays with
  | here behind => exact ⟨error, v, run_straight_failed failed _, rfl, rfl⟩
  | later completed _ ih =>
    obtain ⟨other, t, ran, same⟩ := ih
    exact ⟨other, t, (bind_ran completed).trans ran, same⟩
  | inside behind passes _ ih =>
    obtain ⟨other, t, ran, same⟩ := ih
    exact ⟨other, t, run_straight_failed (passes other t ran) _, same⟩
  | called behind passes enters _ ih =>
    obtain ⟨other, t, ran, same⟩ := ih
    have left := call_failed enters (block_failed ran)
    exact ⟨other, _, run_straight_failed (passes _ _ (left _)) _, same⟩
  | @rethrown body s name before tail behind l₁ l₂ l₃ l₄ l₅ plain completes _ ih =>
    obtain ⟨other, t, ran, same⟩ := ih
    have failing : executeBlock setting (callFunction setting) ⟨body, l₁⟩ s =
        .error (.error other) t :=
      block_failed ran
    have placed := block_placed setting ⟨body, l₁⟩ s
    rw [failing] at placed
    -- The stand-ins are those from before the block, so the variable is read from the frame.
    have held : (t.handling name other).Holds name other.cause :=
      handling_holds ⟨plain.1, (congrArg (Table.get? · name) placed.mocks).trans plain.2⟩ other
    obtain ⟨w, completed, still⟩ := completes other t ran held
    refine ⟨⟨.thrown other.cause.message other.cause.code, l₃⟩, w, run_straight_failed ?_ _, same⟩
    change execute setting (callFunction setting) _ s = _
    unfold execute
    rw [try_catch_eq, failing]
    exact rethrow_failed completed still tail l₂ l₃ l₄

end Layers

/-- A `try` whose block completes, gives a signal or ends the program ends that way, whatever the
handler. Where the block fails, the handler runs in the state that the error left, in the call of
the `try` with its variables, and with the variable standing for a new associative array of just the
message and the number. To throw that variable fails with that message and that number again,
through any layers of handlers that do so, of calls and of other statements. -/
theorem handlers_lose_nothing (setting : Setting) :
    (∀ (body handler : Block) (name : String) (location : Location) (s : State),
      let attempt := executeBlock setting (callFunction setting) body s
      let whole := execute setting (callFunction setting) (.tryCatch body name handler location) s
      (∀ signal t, attempt = .ok signal t → whole = .ok signal t) ∧
      (∀ t, attempt = .error .finish t → whole = .error .finish t) ∧
      (∀ t, attempt = .error .exhausted t → whole = .error .exhausted t) ∧
      ∀ error t, attempt = .error (.error error) t →
        Placed s t ∧ whole = executeBlock setting (callFunction setting) handler
          (t.handling name error)) ∧
    (∀ (t : State) (name : String) (error : RuntimeError),
      let caught := t.handling name error
      let ref := t.heap.tables.size
      caught = { t with
        heap := { t.heap with tables := t.heap.tables.push (caught.heap.table ref) }
        frame := { t.frame with locals := t.frame.locals.insert name (.table ref) }
        journal := .caught error :: t.journal } ∧
      caught.heap.contents ref = error.cause.contents ∧
      (t.Plain name → ∀ place location,
        ∃ fault, execute setting (callFunction setting)
            (.raise (.variable name place) location) caught =
            .error (.error ⟨fault, location⟩) caught ∧
          fault.message = error.cause.message ∧ fault.code = error.cause.code)) ∧
    ∀ (inner : Stmt) (outer : Block) (u s v : State) (error : RuntimeError),
      Relays setting inner u outer.statements s →
      execute setting (callFunction setting) inner u = .error (.error error) v →
        ∃ other t, executeBlock setting (callFunction setting) outer s = .error (.error other) t ∧
          other.cause.message = error.cause.message ∧ other.cause.code = error.cause.code := by
  refine ⟨?_, ?_, ?_⟩
  · intro body handler name location s attempt whole
    have unfolded : whole = match attempt with
        | .error (.error error) t =>
          executeBlock setting (callFunction setting) handler (t.handling name error)
        | outcome => outcome := by
      unfold whole execute
      exact try_catch_eq _ name _ s
    refine ⟨fun signal t ended => ?_, fun t ended => ?_, fun t ended => ?_, fun error t ended => ?_⟩
    · rw [unfolded, ended]
    · rw [unfolded, ended]
    · rw [unfolded, ended]
    · have placed := block_placed setting body s
      rw [show executeBlock setting (callFunction setting) body s = _ from ended] at placed
      refine ⟨placed, ?_⟩
      rw [unfolded, ended]
  · intro t name error caught ref
    have made : caught.heap.table ref = error.cause.entries := Heap.new_table_table _ _
    refine ⟨?_, ?_, fun plain place location => ?_⟩
    · rw [made]
      rfl
    · rw [Heap.contents, made, entries_contents]
    · exact ⟨_, raise_held (handling_holds plain error) setting _ place location, rfl, rfl⟩
  · intro inner outer u s v error relays failed
    obtain ⟨other, t, ran, same⟩ := relayed relays failed
    exact ⟨other, t, block_failed ran, same⟩

theorem division_thrown_on :
    let place := Location.internal
    let setting : Setting := ⟨{}, .empty⟩
    let thrownOn (body : List Stmt) : Block :=
      ⟨[.tryCatch ⟨body, place⟩ "e" ⟨[.raise (.variable "e" place) place], place⟩ place], place⟩
    let division : Stmt := .assign "x"
      (.binary (.literal (.integer 1) place) .integerDivide (.literal (.integer 0) place) place)
        place
    let divide : Function := ⟨some "divide", [], .dynamic, thrownOn [division], false, place⟩
    let call : Stmt := .expression (.call (.variable "divide" place) [] place) place
    ∃ other t, executeBlock setting (callFunction setting) (thrownOn [call])
        (finalState (Exec.declare "divide" divide (.initial none))) = .error (.error other) t ∧
      other.cause.message = Fault.divideByZero.message ∧
        other.cause.code = Fault.divideByZero.code := by
  intro place setting thrownOn division divide call
  let start := finalState (Exec.declare "divide" divide (.initial none))
  let ref := (State.initial none).heap.functions.size
  let entered := start.entering ref start.heap none
  have enters : Enters setting ref [] none start divide entered := ⟨by decide, 0, [], _, rfl, rfl⟩
  have passes (error : RuntimeError) (t : State)
      (failed : callFunction setting ref [] none place start = .error (.error error) t) :
      execute setting (callFunction setting) call start = .error (.error error) t := by
    simp only [call, execute, evaluate, evaluateAll]
    exact bind_failed failed
  have thrown (body : List Stmt) (s : State) (unmocked : s.mocks = .empty)
      (relays : Relays setting division entered body s) :
      Relays setting division entered (thrownOn body).statements s :=
    @Relays.rethrown setting division entered body s "e" [] [] [] place place place place place
      ⟨by decide, by rw [unmocked]; rfl⟩ (fun _ _ _ held => ⟨_, rfl, held⟩) relays
  have inside : Relays setting division entered divide.body.statements entered :=
    thrown [division] entered rfl (.here [])
  have whole : Relays setting division entered (thrownOn [call]).statements start :=
    thrown [call] start rfl (.called [] passes enters inside)
  have failed : execute setting (callFunction setting) division entered =
      .error (.error ⟨.divideByZero, place⟩) entered := rfl
  exact (handlers_lose_nothing setting).2.2 division _ _ start _ _ whole failed

end BrightScript
