import BrightScript.Proofs.Evaluation
set_option autoImplicit false

namespace BrightScript

mutual

-- Whether nothing repeats without a bound of its own. Functions in a statement are bodies of their
-- own and not looked into.
def Stmt.loopFree : Stmt → Bool
  | .forTo _ _ _ _ _ _ | .whileDo _ _ _ | .goto _ _ => false
  | .ifThen _ body elseIfs otherwise _ =>
    body.loopFree && elseIfsLoopFree elseIfs && otherwiseLoopFree otherwise
  | .forEach _ _ body _ => body.loopFree
  | .tryCatch body _ handler _ => body.loopFree && handler.loopFree
  | .block block => block.loopFree
  | _ => true

def Block.loopFree : Block → Bool
  | ⟨statements, _⟩ => statementsLoopFree statements

def statementsLoopFree : List Stmt → Bool
  | [] => true
  | statement :: rest => statement.loopFree && statementsLoopFree rest

def elseIfsLoopFree : List ElseIf → Bool
  | [] => true
  | ⟨_, body⟩ :: rest => body.loopFree && elseIfsLoopFree rest

def otherwiseLoopFree : Option Block → Bool
  | none => true
  | some block => block.loopFree

end

structure Lasting (inv : State → Prop) (faults : Fault → Prop) (halts : Halt → Prop)
    (check : Function → Bool) : Prop extends Durable inv faults halts check where
  locals : ∀ s name value, inv s → inv (s.define .function name value)
  module : ∀ s name value, inv s → inv (s.define .module name value)
  write : ∀ s text, inv s → inv { s with output := s.output.write text }
  caught : ∀ s error, inv s → halts (.error error) →
    inv { s with journal := .caught error :: s.journal }
  ended : ∀ s depth scene, inv s → inv { s with journal := .ended depth scene :: s.journal }
  finish : halts .finish
  -- Where running out of rounds is not expected, functions have no loops.
  bodies : ∀ function : Function, check function = true →
    function.body.loopFree = true ∨ halts .exhausted

-- Two settings that differ at most in how often loops may go round, and in that only where running
-- out of rounds is not expected.
structure Counterparts (halts : Halt → Prop) (setting twin : Setting) : Prop where
  components : twin.components = setting.components
  width : twin.options.printWidth = setting.options.printWidth
  depth : twin.options.maxCallDepth = setting.options.maxCallDepth
  rounds : halts .exhausted → twin.options.maxRounds = setting.options.maxRounds

theorem counterparts_refl (halts : Halt → Prop) (setting : Setting) :
    Counterparts halts setting setting :=
  ⟨rfl, rfl, rfl, fun _ => rfl⟩

variable {inv : State → Prop} {faults : Fault → Prop} {halts : Halt → Prop}
  {check : Function → Bool} {call other : Call} {setting twinSetting : Setting}

def StepsRelated (related : Exec Signal → Exec Signal → Prop) : List Step → List Step → Prop
  | [], [] => True
  | a :: as, b :: bs => a.label = b.label ∧ related a.action b.action ∧ StepsRelated related as bs
  | _, _ => False

-- Only where running out of rounds is expected may a statement jump.
def Signal.Bounded (halts : Halt → Prop) : Signal → Prop
  | .goto _ _ => halts .exhausted
  | _ => True

theorem bounded_of_exhausted (exhausted : halts .exhausted) (signal : Signal) :
    signal.Bounded halts := by
  cases signal with
  | goto _ _ => exact exhausted
  | completed | returned _ | exitFor _ | exitWhile _ => trivial

theorem free_and {a b : Bool} {p : Prop} (free : (a && b) = true ∨ p) :
    (a = true ∨ p) ∧ (b = true ∨ p) := by
  rcases free with both | p
  · have parts := Bool.and_eq_true_iff.1 both
    exact ⟨.inl parts.1, .inl parts.2⟩
  · exact ⟨.inr p, .inr p⟩

abbrev StepsAgree (inv : State → Prop) (halts : Halt → Prop) : List Step → List Step → Prop :=
  StepsRelated (Agree inv halts (Signal.Bounded halts))

theorem after_related {related : Exec Signal → Exec Signal → Prop} (label : String)
    {block twin : List Step} (relation : StepsRelated related block twin) :
    (Step.after? label block = none ∧ Step.after? label twin = none) ∨
      ∃ rest twinRest, Step.after? label block = some rest ∧
        Step.after? label twin = some twinRest ∧ StepsRelated related rest twinRest := by
  induction block generalizing twin with
  | nil =>
    cases twin with
    | nil => exact .inl ⟨rfl, rfl⟩
    | cons _ _ => exact relation.elim
  | cons step rest ih =>
    cases twin with
    | nil => exact relation.elim
    | cons twinStep twinRest =>
      have sameLabel : twinStep.isLabelled label = step.isLabelled label := by
        rw [Step.isLabelled, Step.isLabelled, relation.1]
      cases found : step.isLabelled label with
      | true =>
        refine .inr ⟨rest, twinRest, ?_, ?_, relation.2.2⟩
        · simp [Step.after?, List.dropWhile, found]
        · simp [Step.after?, List.dropWhile, sameLabel, found]
      | false =>
        have later := ih relation.2.2
        simpa [Step.after?, List.dropWhile, sameLabel, found] using later

theorem run_straight_agree {block twin : List Step} (agree : StepsAgree inv halts block twin) :
    Agree inv halts (Signal.Bounded halts) (Step.runStraight block) (Step.runStraight twin) := by
  induction block generalizing twin with
  | nil =>
    cases twin with
    | nil => exact keeps_pure _ trivial
    | cons _ _ => exact agree.elim
  | cons step rest ih =>
    cases twin with
    | nil => exact agree.elim
    | cons _ _ =>
      refine agree_bind agree.2.1 fun signal bounded => ?_
      cases signal with
      | completed => exact ih agree.2.2
      | returned _ | exitFor _ | exitWhile _ | goto _ _ => exact keeps_pure _ bounded

theorem print_eq (text : String) (location : Location) (s : State) :
    Exec.print text location s =
      match s.output.refusal? text with
      | none => .ok () { s with output := s.output.write text }
      | some reason =>
        .error (.error ⟨.output reason, location⟩) { s with output := s.output.write text } := by
  change (match s.output.refusal? text with | none => _ | some reason => _ : Exec Unit) _ = _
  cases s.output.refusal? text <;> rfl

section

variable (lasting : Lasting inv faults halts check)
include lasting

omit lasting in
theorem run_from_agree {block twin : List Step} (agree : StepsAgree inv halts block twin)
    {rounds twinRounds : Nat} (sameRounds : halts .exhausted → twinRounds = rounds)
    {rest twinRest : List Step} (restAgree : StepsAgree inv halts rest twinRest) :
    Agree inv halts (Signal.Bounded halts) (Step.runFrom block rounds rest)
      (Step.runFrom twin twinRounds twinRest) := by
  unfold Step.runFrom
  refine agree_bind (run_straight_agree restAgree) fun signal bounded => ?_
  cases signal with
  | goto label location =>
    rcases after_related label agree with ⟨gone, twinGone⟩ | ⟨_, _, found, twinFound, behind⟩
    · simp only [gone, twinGone]
      exact keeps_pure _ bounded
    · simp only [found, twinFound, sameRounds bounded]
      cases rounds with
      | zero => exact keeps_throw _ bounded
      | succ rounds => exact run_from_agree agree (fun _ => rfl) behind
  | completed | returned _ | exitFor _ | exitWhile _ => exact keeps_pure _ bounded

omit lasting in
theorem go_round_agree (exhausted : halts .exhausted) {round twin : Exec (Option Signal)}
    (agree : Agree inv halts Any round twin) {rounds twinRounds : Nat}
    (sameRounds : twinRounds = rounds) :
    Agree inv halts (Signal.Bounded halts) (goRound round rounds) (goRound twin twinRounds) := by
  subst sameRounds
  unfold goRound
  refine agree_bind agree fun signal _ => ?_
  cases signal with
  | some signal => exact keeps_pure _ (bounded_of_exhausted exhausted signal)
  | none =>
    cases twinRounds with
    | zero => exact keeps_throw _ exhausted
    | succ rounds => exact go_round_agree exhausted agree rfl

omit lasting in
theorem while_loop_agree (exhausted : halts .exhausted) {condition twin : Exec Bool}
    {body twinBody : Exec Signal} (test : Agree inv halts Any condition twin)
    (agree : Agree inv halts (Signal.Bounded halts) body twinBody) {rounds twinRounds : Nat}
    (sameRounds : twinRounds = rounds) :
    Agree inv halts (Signal.Bounded halts) (whileLoop condition body rounds)
      (whileLoop twin twinBody twinRounds) := by
  refine go_round_agree exhausted (agree_bind test fun holds _ => ?_) sameRounds
  cases holds with
  | false => exact keeps_pure _ trivial
  | true =>
    refine agree_bind agree fun signal _ => ?_
    cases signal with
    | completed | returned _ | exitFor _ | exitWhile _ | goto _ _ => exact keeps_pure _ trivial

theorem define_keeps (name : String) (value : Value) :
    Keeps inv halts Any (Exec.define .function name value) :=
  keeps_modify _ fun s holds => lasting.locals s name value holds

theorem declare_keeps (name : String) (function : Function)
    (passed : function.everyFunction check = true) :
    Keeps inv halts Any (Exec.declare name function) :=
  agree_bind (lasting.new_function function passed) fun value _ =>
    keeps_modify _ fun s holds => lasting.module s name value holds

theorem assign_keeps (name : String) (value : Value) (location : Location) :
    Keeps inv halts Any (Exec.assign name value location) := by
  unfold Exec.assign
  split
  · refine agree_bind (lasting.convert _ _) fun converted _ => ?_
    cases converted with
    | some value => exact define_keeps lasting name value
    | none => exact lasting.fail _ _ rfl
  · exact define_keeps lasting name value

theorem print_keeps (text : String) (location : Location) :
    Keeps inv halts Any (Exec.print text location) := by
  refine keeps_of_ends fun s holds => ?_
  rw [print_eq]
  have written := lasting.write s text holds
  split
  · exact ⟨written, trivial⟩
  · exact ⟨written, lasting.fault _ (lasting.ordinary _ rfl)⟩

theorem print_zone_keeps (width : Nat) (location : Location) :
    Keeps inv halts Any (Exec.printZone width location) :=
  agree_get_bind fun _ _ => print_keeps lasting _ location

theorem for_each_loop_agree (item : String) {body twin : Exec Signal}
    (agree : Agree inv halts (Signal.Bounded halts) body twin) (elements : List Value) :
    Agree inv halts (Signal.Bounded halts) (forEachLoop item body elements)
      (forEachLoop item twin elements) := by
  induction elements with
  | nil => exact keeps_pure _ trivial
  | cons element rest ih =>
    refine agree_bind (define_keeps lasting item element) fun _ _ => ?_
    refine agree_bind agree fun signal bounded => ?_
    cases signal with
    | completed => exact ih
    | exitFor _ => exact keeps_pure _ trivial
    | returned _ | exitWhile _ | goto _ _ => exact keeps_pure _ bounded

theorem for_loop_agree (exhausted : halts .exhausted) (counter : String)
    {stop twinStop step twinStep : Exec Value} {body twin : Exec Signal}
    (stops : Agree inv halts Any stop twinStop) (steps : Agree inv halts Any step twinStep)
    (agree : Agree inv halts (Signal.Bounded halts) body twin) (location : Location)
    {rounds twinRounds : Nat} (sameRounds : twinRounds = rounds) :
    Agree inv halts (Signal.Bounded halts) (forLoop counter stop step body location rounds)
      (forLoop counter twinStop twinStep twin location twinRounds) := by
  refine go_round_agree exhausted (agree_bind stops fun stopValue _ => ?_) sameRounds
  refine agree_bind steps fun stepValue _ => ?_
  refine agree_bind (Durable.lookup counter) fun current _ => ?_
  refine agree_bind (lasting.or_fail _ _ _ rfl) fun direction _ => ?_
  split
  · refine agree_bind agree fun signal _ => ?_
    cases signal with
    | completed =>
      refine agree_bind (Durable.lookup counter) fun reached _ => ?_
      refine agree_bind (lasting.of_except _ _ (plain_apply_binary _ _ _)) fun next _ => ?_
      exact agree_bind (assign_keeps lasting counter next location) fun _ _ => keeps_pure _ trivial
    | returned _ | exitFor _ | exitWhile _ | goto _ _ => exact keeps_pure _ trivial
  · exact keeps_pure _ trivial

theorem try_catch_agree {body twin : Exec Signal} (name : String)
    {handler twinHandler : Exec Signal} (agree : Agree inv halts (Signal.Bounded halts) body twin)
    (handles : Agree inv halts (Signal.Bounded halts) handler twinHandler) :
    Agree inv halts (Signal.Bounded halts) (tryCatch body name handler)
      (tryCatch twin name twinHandler) := by
  intro s holds
  obtain ⟨same, ends⟩ := agree s holds
  unfold tryCatch
  rw [← same]
  cases outcome : body s with
  | ok signal s' =>
    rw [outcome] at ends
    exact ⟨rfl, ends⟩
  | error halt s' =>
    rw [outcome] at ends
    cases halt with
    | finish | exhausted => exact ⟨rfl, ends⟩
    | error error =>
      -- Only here is the note of the error due, so the handler starts from the noted state.
      have noted := lasting.caught s' error ends.1 ends.2
      have handled : Agree inv halts (Signal.Bounded halts)
          (do
            let caught ← Exec.allocate (·.newTable error.cause.entries)
            Exec.define .function name caught
            handler)
          (do
            let caught ← Exec.allocate (·.newTable error.cause.entries)
            Exec.define .function name caught
            twinHandler) :=
        agree_bind (lasting.allocate _ (fun _ vetted => ⟨vetted.functions, vetted.components⟩)
          fun _ => gains_of_same rfl)
          fun value _ => agree_bind (define_keeps lasting name value) fun _ _ => handles
      exact handled _ noted

theorem print_items_agree (calls : CallsAgree inv halts call other) (width : Nat)
    (location : Location) (items : List PrintItem)
    (passed : everyPrintFunction check items = true) :
    Agree inv halts Any (printItems call width location items)
      (printItems other width location items) := by
  induction items with
  | nil => exact keeps_pure _ trivial
  | cons item rest ih =>
    cases item with
    | expression expression =>
      have parts := Bool.and_eq_true_iff.1 passed
      have written : Agree inv halts Any (printItem call width location (.expression expression))
          (printItem other width location (.expression expression)) :=
        agree_bind (evaluate_agree lasting.toDurable calls expression parts.1) fun _ _ =>
          agree_get_bind fun _ _ => print_keeps lasting _ location
      exact agree_bind written fun _ _ => ih parts.2
    | zone => exact agree_bind (print_zone_keeps lasting width location) fun _ _ => ih passed
    | join =>
      have nothing : Keeps inv halts Any (pure () : Exec Unit) := keeps_pure () trivial
      exact agree_bind nothing fun _ _ => ih passed

omit lasting in
theorem plain_dimension_lengths (total : Nat) (sizes : List Int64) :
    FailsPlainly (dimensionLengths total sizes) := by
  induction sizes generalizing total with
  | nil => exact plain_ok _
  | cons size rest ih =>
    unfold dimensionLengths
    dsimp only
    split
    · exact plain_error _ rfl
    · exact plain_map _ _ (ih _)

theorem evaluate_sizes_agree (calls : CallsAgree inv halts call other) (dimensions : List Expr)
    (passed : everyFunctionIn check dimensions = true) :
    Agree inv halts Any (evaluateSizes call dimensions) (evaluateSizes other dimensions) := by
  induction dimensions with
  | nil => exact keeps_pure _ trivial
  | cons dimension rest ih =>
    have parts := Bool.and_eq_true_iff.1 passed
    refine agree_bind (evaluate_agree lasting.toDurable calls dimension parts.1) fun value _ => ?_
    refine agree_bind (lasting.or_fail _ _ _ rfl) fun size _ => ?_
    exact agree_bind (ih parts.2) fun _ _ => keeps_pure _ trivial

theorem execute_dim_agree (calls : CallsAgree inv halts call other) (name : String)
    (dimensions : List Expr) (location : Location)
    (passed : everyFunctionIn check dimensions = true) :
    Agree inv halts Any (executeDim call name dimensions location)
      (executeDim other name dimensions location) := by
  refine agree_bind (evaluate_sizes_agree lasting calls dimensions passed) fun sizes _ => ?_
  refine agree_bind (lasting.of_except _ _ (plain_dimension_lengths 1 sizes)) fun lengths _ => ?_
  refine agree_bind (lasting.allocate _ (fun _ => Heap.vetted_new_grid lengths) fun h =>
    gains_of_same (new_grid_functions lengths h)) fun grid _ => ?_
  exact assign_keeps lasting name grid location

theorem stepped_keeps (op : StepOp) (value : Value) (location : Location) :
    Keeps inv halts Any (stepped op value location) :=
  lasting.of_except _ _ (plain_apply_binary _ _ _)

omit lasting in
theorem thrown_ordinary (h : Heap) (value : Value) : (h.thrown value).isOrdinary = true := by
  unfold Heap.thrown
  split <;> rfl

theorem execute_step_agree (calls : CallsAgree inv halts call other) (target : Expr) (op : StepOp)
    (location : Location) (passed : target.everyFunction check = true) :
    Agree inv halts Any (executeStep call target op location)
      (executeStep other target op location) := by
  have whole : Agree inv halts Any
      (do
        let value ← evaluate call target
        Exec.fail (.typeMismatch "++" value.kind none) location : Exec Unit)
      (do
        let value ← evaluate other target
        Exec.fail (.typeMismatch "++" value.kind none) location) :=
    agree_bind (evaluate_agree lasting.toDurable calls target passed) fun _ _ =>
      lasting.fail _ _ rfl
  cases target with
  | «variable» name _ =>
    refine agree_bind (Durable.lookup name) fun current _ => ?_
    refine agree_bind (stepped_keeps lasting op current location) fun next _ => ?_
    exact assign_keeps lasting name next location
  | member object name _ =>
    refine agree_bind (evaluate_agree lasting.toDurable calls object passed) fun target _ => ?_
    refine agree_bind (lasting.on_heap location _
      (Value.safe_get_member lasting.ordinary target name) (target.get_member_gains name))
        fun current _ => ?_
    refine agree_bind (stepped_keeps lasting op current location) fun next _ => ?_
    exact lasting.on_heap location _ (Value.safe_set_member lasting.ordinary target name next)
      (target.set_member_gains name next)
  | index object index _ =>
    have parts := Bool.and_eq_true_iff.1 passed
    refine agree_bind (evaluate_agree lasting.toDurable calls object parts.1) fun target _ => ?_
    refine agree_bind (evaluate_agree lasting.toDurable calls index parts.2) fun place _ => ?_
    refine agree_bind (lasting.on_heap location _
      (Value.safe_get_index lasting.ordinary target place) (target.get_index_gains place))
        fun current _ => ?_
    refine agree_bind (stepped_keeps lasting op current location) fun next _ => ?_
    exact lasting.on_heap location _ (Value.safe_set_index lasting.ordinary target place next)
      (target.set_index_gains place next)
  | literal | binary | unary | grouping | call | array | table | function => exact whole

end

mutual

theorem execute_agree (lasting : Lasting inv faults halts check)
    (counterparts : Counterparts halts setting twinSetting)
    (calls : CallsAgree inv halts call other) :
    (statement : Stmt) → statement.everyFunction check = true →
      statement.loopFree = true ∨ halts .exhausted →
      Agree inv halts (Signal.Bounded halts) (execute setting call statement)
        (execute twinSetting other statement)
  | .expression expression _, passed, _ =>
    agree_bind (evaluate_agree lasting.toDurable calls expression passed) fun _ _ =>
      keeps_pure _ trivial
  | .print items location, passed, _ => by
    unfold execute
    rw [counterparts.width]
    refine agree_bind (print_items_agree lasting calls _ location items passed) fun _ _ => ?_
    split
    · exact agree_bind (print_keeps lasting "\n" location) fun _ _ => keeps_pure _ trivial
    · exact keeps_pure _ trivial
  | .assign name value location, passed, _ =>
    agree_bind (evaluate_agree lasting.toDurable calls value passed) fun value _ =>
      agree_bind (assign_keeps lasting name value location) fun _ _ => keeps_pure _ trivial
  | .dim name dimensions location, passed, _ =>
    agree_bind (execute_dim_agree lasting calls name dimensions location passed) fun _ _ =>
      keeps_pure _ trivial
  | .ifThen condition body elseIfs otherwise _, passed, free => by
    simp only [Stmt.everyFunction, Bool.and_eq_true] at passed
    obtain ⟨⟨⟨test, main⟩, others⟩, last⟩ := passed
    obtain ⟨firstFree, lastFree⟩ := free_and free
    obtain ⟨mainFree, othersFree⟩ := free_and firstFree
    refine agree_bind (evaluate_condition_agree lasting.toDurable calls condition test)
      fun holds _ => ?_
    cases holds with
    | true => exact execute_block_agree lasting counterparts calls body main mainFree
    | false =>
      exact execute_else_agree lasting counterparts calls
        (execute_otherwise_agree lasting counterparts calls otherwise last lastFree) elseIfs
          others othersFree
  | .forTo counter start stop step body location, passed, free => by
    simp only [Stmt.everyFunction, Bool.and_eq_true] at passed
    obtain ⟨⟨⟨starts, stops⟩, steps⟩, main⟩ := passed
    have exhausted : halts .exhausted := free.resolve_left Bool.false_ne_true
    refine agree_bind (evaluate_agree lasting.toDurable calls start starts) fun first _ => ?_
    refine agree_bind (assign_keeps lasting counter first location) fun _ _ => ?_
    exact for_loop_agree lasting exhausted counter
      (evaluate_agree lasting.toDurable calls stop stops)
      (evaluate_agree lasting.toDurable calls step steps)
      (execute_block_agree lasting counterparts calls body main (.inr exhausted)) location
      (counterparts.rounds exhausted)
  | .forEach item target body _, passed, free => by
    have parts := Bool.and_eq_true_iff.1 passed
    refine agree_bind (evaluate_agree lasting.toDurable calls target parts.1) fun collection _ => ?_
    refine agree_get_bind fun s _ => ?_
    refine agree_bind (lasting.or_fail _ _ _ rfl) fun elements _ => ?_
    exact for_each_loop_agree lasting item
      (execute_block_agree lasting counterparts calls body parts.2 free)
      elements
  | .whileDo condition body _, passed, free => by
    have parts := Bool.and_eq_true_iff.1 passed
    have exhausted : halts .exhausted := free.resolve_left Bool.false_ne_true
    exact while_loop_agree exhausted
      (evaluate_condition_agree lasting.toDurable calls condition parts.1)
      (execute_block_agree lasting counterparts calls body parts.2 (.inr exhausted))
      (counterparts.rounds exhausted)
  | .declare name function _, passed, _ =>
    agree_bind (declare_keeps lasting name function passed) fun _ _ => keeps_pure _ trivial
  | .giveBack none _, _, _ => keeps_pure _ trivial
  | .giveBack (some value) _, passed, _ =>
    agree_bind (evaluate_agree lasting.toDurable calls value passed) fun _ _ => keeps_pure _ trivial
  | .setMember object name value location, passed, _ => by
    have parts := Bool.and_eq_true_iff.1 passed
    refine agree_bind (evaluate_agree lasting.toDurable calls object parts.1) fun target _ => ?_
    refine agree_bind (evaluate_agree lasting.toDurable calls value parts.2) fun value _ => ?_
    exact agree_bind (lasting.on_heap location _
      (Value.safe_set_member lasting.ordinary target name value)
        (target.set_member_gains name value)) fun _ _ =>
        keeps_pure _ trivial
  | .setIndex object index value location, passed, _ => by
    simp only [Stmt.everyFunction, Bool.and_eq_true] at passed
    obtain ⟨⟨objects, places⟩, values⟩ := passed
    refine agree_bind (evaluate_agree lasting.toDurable calls object objects) fun target _ => ?_
    refine agree_bind (evaluate_agree lasting.toDurable calls index places) fun place _ => ?_
    refine agree_bind (evaluate_agree lasting.toDurable calls value values) fun value _ => ?_
    exact agree_bind (lasting.on_heap location _
      (Value.safe_set_index lasting.ordinary target place value)
        (target.set_index_gains place value)) fun _ _ =>
        keeps_pure _ trivial
  | .step target op location, passed, _ =>
    agree_bind (execute_step_agree lasting calls target op location passed) fun _ _ =>
      keeps_pure _ trivial
  | .tryCatch body name handler _, passed, free => by
    have parts := Bool.and_eq_true_iff.1 passed
    obtain ⟨bodyFree, handlerFree⟩ := free_and free
    exact try_catch_agree lasting name
      (execute_block_agree lasting counterparts calls body parts.1 bodyFree)
      (execute_block_agree lasting counterparts calls handler parts.2 handlerFree)
  | .raise value location, passed, _ => by
    refine agree_bind (evaluate_agree lasting.toDurable calls value passed) fun value _ => ?_
    exact agree_get_bind fun s _ => lasting.fail _ location (thrown_ordinary s.heap value)
  | .goto _ _, _, free => keeps_pure _ (free.resolve_left Bool.false_ne_true)
  | .library _ _, _, _ | .label _ _, _, _ | .exitFor _, _, _ | .exitWhile _, _, _ | .stop _, _, _ =>
    keeps_pure _ trivial
  | .endProgram _, _, _ => keeps_of_ends fun s holds =>
    ⟨lasting.ended s s.depth s.scene holds, lasting.finish⟩
  | .block block, passed, free => execute_block_agree lasting counterparts calls block passed free

theorem execute_block_agree (lasting : Lasting inv faults halts check)
    (counterparts : Counterparts halts setting twinSetting)
    (calls : CallsAgree inv halts call other) :
    (block : Block) → block.everyFunction check = true →
      block.loopFree = true ∨ halts .exhausted →
      Agree inv halts (Signal.Bounded halts) (executeBlock setting call block)
        (executeBlock twinSetting other block)
  | ⟨statements, _⟩, passed, free =>
    have agree := steps_agree lasting counterparts calls statements passed free
    run_from_agree agree counterparts.rounds agree

theorem steps_agree (lasting : Lasting inv faults halts check)
    (counterparts : Counterparts halts setting twinSetting)
    (calls : CallsAgree inv halts call other) :
    (statements : List Stmt) → everyStatementFunction check statements = true →
      statementsLoopFree statements = true ∨ halts .exhausted →
      StepsAgree inv halts (steps setting call statements) (steps twinSetting other statements)
  | [], _, _ => trivial
  | statement :: rest, passed, free =>
    have parts := Bool.and_eq_true_iff.1 passed
    have freeParts := free_and free
    ⟨rfl, execute_agree lasting counterparts calls statement parts.1 freeParts.1,
      steps_agree lasting counterparts calls rest parts.2 freeParts.2⟩

theorem execute_else_agree (lasting : Lasting inv faults halts check)
    (counterparts : Counterparts halts setting twinSetting)
    (calls : CallsAgree inv halts call other) {otherwise twin : Exec Signal}
    (last : Agree inv halts (Signal.Bounded halts) otherwise twin) :
    (elseIfs : List ElseIf) → everyElseIfFunction check elseIfs = true →
      elseIfsLoopFree elseIfs = true ∨ halts .exhausted →
      Agree inv halts (Signal.Bounded halts) (executeElse setting call otherwise elseIfs)
        (executeElse twinSetting other twin elseIfs)
  | [], _, _ => last
  | ⟨condition, body⟩ :: rest, passed, free => by
    simp only [everyElseIfFunction, Bool.and_eq_true] at passed
    obtain ⟨⟨test, main⟩, others⟩ := passed
    obtain ⟨mainFree, othersFree⟩ := free_and free
    refine agree_bind (evaluate_condition_agree lasting.toDurable calls condition test)
      fun holds _ => ?_
    cases holds with
    | true => exact execute_block_agree lasting counterparts calls body main mainFree
    | false => exact execute_else_agree lasting counterparts calls last rest others othersFree

theorem execute_otherwise_agree (lasting : Lasting inv faults halts check)
    (counterparts : Counterparts halts setting twinSetting)
    (calls : CallsAgree inv halts call other) :
    (otherwise : Option Block) → everyOtherwiseFunction check otherwise = true →
      otherwiseLoopFree otherwise = true ∨ halts .exhausted →
      Agree inv halts (Signal.Bounded halts) (executeOtherwise setting call otherwise)
        (executeOtherwise twinSetting other otherwise)
  | none, _, _ => keeps_pure _ trivial
  | some block, passed, free => execute_block_agree lasting counterparts calls block passed free

end

theorem execute_all_agree (lasting : Lasting inv faults halts check)
    (counterparts : Counterparts halts setting twinSetting)
    (calls : CallsAgree inv halts call other) (statements : List Stmt)
    (passed : everyStatementFunction check statements = true)
    (free : statementsLoopFree statements = true ∨ halts .exhausted) :
    Agree inv halts (Signal.Bounded halts) (executeAll setting call statements)
      (executeAll twinSetting other statements) :=
  have agree := steps_agree lasting counterparts calls statements passed free
  run_from_agree agree counterparts.rounds agree

end BrightScript
