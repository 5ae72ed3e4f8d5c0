import Mathlib.Algebra.Group.Int.Defs
import Mathlib.Data.List.Iterate
import BrightScript.Proofs.Calls
import BrightScript.Proofs.Designators
set_option autoImplicit false

/-!
Counted loops. The end and the step of a loop are fixed here, and its body leaves the counter alone,
so that the values of the counter are those of an arithmetic progression: one lap for each of them
up to the end. The counter is then advanced once more. Where that takes it over the end of its range
it starts anew from the other end, and the loop goes on.
-/

namespace BrightScript

inductive Expr.Denotes : Expr → Int32 → Prop
  | literal (v : Int32) (location : Location) : Denotes (.literal (.integer v) location) v
  | negated (v : Int32) (inner location : Location) :
      Denotes (.unary .negate (.literal (.integer v) inner) location) (-v)

theorem evaluate_denoted {e : Expr} {v : Int32} (denotes : e.Denotes v) (call : Call) :
    evaluate call e = pure (.integer v) := by
  cases denotes with
  | literal v location => simp only [evaluate]; rfl
  | negated v inner location => simp only [evaluate]; rfl

def passes (a b s : Int) : Nat :=
  if s = 0 then 0 else ((b - a).fdiv s + 1).toNat

def ShortOf (current stop step : Int) : Prop :=
  (0 < step ∧ current ≤ stop) ∨ (step < 0 ∧ stop ≤ current)

theorem short_iff_lt_passes (a b s : Int) (k : Nat) :
    ShortOf (a + k * s) b s ↔ k < passes a b s := by
  have under : ∀ {gap size : Int}, 0 < size →
      ((k : Int) * size ≤ gap ↔ k < (gap / size + 1).toNat) := by
    intro gap size positive
    rw [← Int.le_ediv_iff_mul_le positive]
    omega
  unfold ShortOf passes
  rcases Int.lt_trichotomy s 0 with down | still | up
  · have flipped : (b - a).fdiv s = (a - b) / -s := by
      rw [← Int.neg_fdiv_neg, Int.neg_sub, Int.fdiv_eq_ediv_of_nonneg _ (by omega)]
    rw [if_neg (by omega), flipped, ← under (by omega), Int.mul_neg]
    omega
  · simp [still]
  · rw [if_neg (by omega), Int.fdiv_eq_ediv_of_nonneg _ (by omega), ← under up]
    omega

def InRange (n : Int) : Prop :=
  -2 ^ 31 ≤ n ∧ n < 2 ^ 31

instance (n : Int) : Decidable (InRange n) :=
  inferInstanceAs (Decidable (_ ∧ _))

theorem counter_in_range (v : Int32) : InRange v.toInt :=
  ⟨v.le_toInt, v.toInt_lt⟩

theorem short_in_range {a b s : Int32} {k : Nat}
    (short : ShortOf (a.toInt + k * s.toInt) b.toInt s.toInt) :
    InRange (a.toInt + k * s.toInt) := by
  have low := counter_in_range a
  have high := counter_in_range b
  unfold InRange at *
  rcases short with ⟨up, before⟩ | ⟨down, before⟩
  · have grown : 0 ≤ (k : Int) * s.toInt := Int.mul_nonneg (by omega) (by omega)
    omega
  · have shrunk : 0 ≤ (k : Int) * -s.toInt := Int.mul_nonneg (by omega) (by omega)
    rw [Int.mul_neg] at shrunk
    omega

theorem passes_le (a b s : Int32) : passes a.toInt b.toInt s.toInt ≤ 2 ^ 32 := by
  by_contra more
  have short := (short_iff_lt_passes _ _ _ _).2 (Nat.lt_of_not_le more)
  have low := counter_in_range a
  have high := counter_in_range b
  unfold InRange at low high
  have whole : ((2 ^ 32 : Nat) : Int) = 4294967296 := rfl
  rw [whole] at short
  unfold ShortOf at short
  omega

theorem counter_after (a s : Int32) (k : Nat) : (· + s)^[k] a = .ofInt (a.toInt + k * s.toInt) := by
  induction k with
  | zero => simp
  | succ k ih =>
    rw [Function.iterate_succ_apply', ih, Int.natCast_succ, Int.add_mul, Int.one_mul,
      ← Int.add_assoc, Int32.ofInt_add _ s.toInt, Int32.ofInt_toInt]

theorem wrapped_short {a b s : Int32}
    (beyond : ¬ InRange (a.toInt + passes a.toInt b.toInt s.toInt * s.toInt)) :
    ShortOf (Int32.ofInt (a.toInt + passes a.toInt b.toInt s.toInt * s.toInt)).toInt b.toInt
      s.toInt := by
  have low := counter_in_range a
  have high := counter_in_range b
  have size := counter_in_range s
  cases count : passes a.toInt b.toInt s.toInt with
  | zero => simp [count, low] at beyond
  | succ k =>
    have short : ShortOf (a.toInt + k * s.toInt) b.toInt s.toInt :=
      (short_iff_lt_passes _ _ _ _).2 (by omega)
    have before := short_in_range short
    rw [count] at beyond
    have next : a.toInt + ((k + 1 : Nat) : Int) * s.toInt = a.toInt + k * s.toInt + s.toInt := by
      rw [Int.natCast_succ, Int.add_mul, Int.one_mul, ← Int.add_assoc]
    rw [next] at beyond ⊢
    rw [Int32.toInt_ofInt]
    generalize a.toInt + k * s.toInt = last at *
    unfold InRange ShortOf at *
    have whole : (Int32.size : Int) = 4294967296 := rfl
    rw [Int.bmod_def, whole]
    split <;> omega

theorem order_of_integers (a b : Int32) :
    compareValues .lessEqual (.integer a) (.integer b) = decide (a.toInt ≤ b.toInt) ∧
      compareValues .greaterEqual (.integer a) (.integer b) = decide (b.toInt ≤ a.toInt) := by
  change ((orderOf a b != .gt) = _) ∧ ((orderOf a b != .lt) = _)
  unfold orderOf
  simp only [Int32.lt_iff_toInt_lt, ← Int32.toInt_inj]
  rcases Int.lt_trichotomy a.toInt b.toInt with less | same | more
  · simp [less, Int.le_of_lt less, Int.not_le.2 less]
  · simp [same]
  · simp [Int.not_lt.2 (Int.le_of_lt more), Int.ne_of_gt more, Int.le_of_lt more, Int.not_le.2 more]

theorem direction_of_integers (current stop step : Int32) :
    ∃ direction, direction? (.integer current) (.integer stop) (.integer step) = some direction ∧
      (direction.continues (.integer current) (.integer stop) = true ↔
        ShortOf current.toInt stop.toInt step.toInt) := by
  refine ⟨if step = 0 then .still else if 0 < step then .up else .down, rfl, ?_⟩
  obtain ⟨upward, downward⟩ := order_of_integers current stop
  simp only [ShortOf, ← Int32.toInt_inj, Int32.lt_iff_toInt_lt, Int32.toInt_zero]
  rcases Int.lt_trichotomy step.toInt 0 with down | still | up
  · simp [down, Int.ne_of_lt down, Int.not_lt.2 (Int.le_of_lt down), Direction.continues, downward]
  · simp [still, Direction.continues]
  · simp [up, Int.ne_of_gt up, Int.not_lt.2 (Int.le_of_lt up), Direction.continues, upward]

section

variable {counter : String} {body : Exec Signal} {inv : State → Prop}

-- Whether a name can be a counter that nothing hides.
structure Countable (counter : String) (s : State) : Prop where
  notReceiver : sameName counter "m" = false
  notMocked : s.mocks.get? counter = none

theorem counter_found {s : State} (countable : Countable counter s) {value : Value}
    (stored : s.frame.locals.get? counter = some value) : s.lookup? counter = some value := by
  unfold State.lookup?
  rw [if_neg (by simp [countable.notReceiver]), countable.notMocked, stored]
  rfl

theorem counter_read {s : State} (countable : Countable counter s) {value : Value}
    (stored : s.frame.locals.get? counter = some value) : Exec.lookup counter s = .ok value s := by
  change EStateM.Result.ok ((s.lookup? counter).getD .uninitialized) s = _
  rw [counter_found countable stored]
  rfl

theorem counter_stored (s : State) (counter : String) (value : Value) :
    (s.define .function counter value).frame.locals.get? counter = some value :=
  (Table.get_insert _ _ _ _).trans (if_pos rfl)

theorem other_stored (s : State) (name : String) {counter : String}
    (differs : fold counter ≠ fold name) (value : Value) :
    (s.define .function name value).frame.locals.get? counter = s.frame.locals.get? counter :=
  (Table.get_insert _ _ _ _).trans (if_neg differs)

theorem countable_defined {s : State} (countable : Countable counter s) (name : String)
    (value : Value) : Countable counter (s.define .function name value) :=
  ⟨countable.notReceiver, countable.notMocked⟩

inductive Laps (counter : String) (body : Exec Signal) : State → List Int32 → State → Prop
  | done (s : State) : Laps counter body s [] s
  | lap {s t u : State} {v : Int32} {values : List Int32}
      (counted : (s.define .function counter (.integer v)).lookup? counter = some (.integer v))
      (ran : body (s.define .function counter (.integer v)) = .ok .completed t)
      (rest : Laps counter body t values u) : Laps counter body s (v :: values) u

-- A body that always completes normally and never assigns the counter, as long as `inv` holds;
-- which value the counter has makes no difference to `inv`.
structure Regular (counter : String) (body : Exec Signal) (inv : State → Prop) : Prop where
  counted : ∀ s v, inv s → inv (s.define .function counter (.integer v))
  completes : ∀ s, inv s → ∃ t, body s = .ok .completed t ∧ inv t ∧
    t.frame.locals.get? counter = s.frame.locals.get? counter

variable {s t u : State} {v stop step : Int32}

theorem for_round_over (countable : Countable counter s)
    (stored : s.frame.locals.get? counter = some (.integer v))
    (isOver : ¬ ShortOf v.toInt stop.toInt step.toInt) (location : Location) :
    forRound counter (pure (.integer stop)) (pure (.integer step)) body location s =
      .ok (some .completed) s := by
  obtain ⟨direction, found, continues⟩ := direction_of_integers v stop step
  unfold forRound
  rw [pure_bind, pure_bind, bind_ran (counter_read countable stored), found]
  change (if direction.continues (.integer v) (.integer stop) = true then _
    else _ : Exec (Option Signal)) s = _
  rw [if_neg fun goesOn => isOver (continues.1 goesOn)]
  rfl

theorem for_loop_over (countable : Countable counter s)
    (stored : s.frame.locals.get? counter = some (.integer v))
    (isOver : ¬ ShortOf v.toInt stop.toInt step.toInt) (location : Location) (rounds : Nat) :
    forLoop counter (pure (.integer stop)) (pure (.integer step)) body location rounds s =
      .ok .completed s := by
  unfold forLoop goRound
  rw [bind_ran (for_round_over countable stored isOver location)]
  rfl

theorem for_round_lap (countable : Countable counter s)
    (stored : s.frame.locals.get? counter = some (.integer v))
    (short : ShortOf v.toInt stop.toInt step.toInt) (plain : Kind.ofDesignator? counter = none)
    (ran : body s = .ok .completed t) (still : Countable counter t)
    (kept : t.frame.locals.get? counter = some (.integer v)) (location : Location) :
    forRound counter (pure (.integer stop)) (pure (.integer step)) body location s =
      .ok none (t.define .function counter (.integer (v + step))) := by
  obtain ⟨direction, found, continues⟩ := direction_of_integers v stop step
  unfold forRound
  rw [pure_bind, pure_bind, bind_ran (counter_read countable stored), found]
  change (if direction.continues (.integer v) (.integer stop) = true then _
    else _ : Exec (Option Signal)) s = _
  rw [if_pos (continues.2 short), bind_ran ran]
  change (Exec.lookup counter >>= _ : Exec (Option Signal)) t = _
  rw [bind_ran (counter_read still kept)]
  change (Exec.assign counter (.integer (v + step)) location >>= _ : Exec (Option Signal)) t = _
  unfold Exec.assign
  rw [plain]
  rfl

-- One lap for each term as long as all terms are short of the end, by induction on their number;
-- the rounds that are left for later laps are the same for all of them.
theorem laps_run (regular : Regular counter body inv) (plain : Kind.ofDesignator? counter = none)
    (stays : ∀ s t, Countable counter s → body s = .ok .completed t → Countable counter t)
    (location : Location) (count : Nat)
    (holds : inv s) (countable : Countable counter s)
    (short : ∀ k, k < count → ShortOf ((· + step)^[k] v).toInt stop.toInt step.toInt) :
    ∃ last, inv last ∧ Countable counter last ∧
      Laps counter body s (List.iterate (· + step) v count) last ∧
      ∀ rounds, forLoop counter (pure (.integer stop)) (pure (.integer step)) body location
        (rounds + count)
          (s.define .function counter (.integer v)) =
        forLoop counter (pure (.integer stop)) (pure (.integer step)) body location rounds
          (last.define .function counter (.integer ((· + step)^[count] v))) := by
  induction count generalizing s v with
  | zero => exact ⟨s, holds, countable, .done s, fun _ => rfl⟩
  | succ count ih =>
    have ready := countable_defined countable counter (.integer v)
    have stored := counter_stored s counter (.integer v)
    obtain ⟨t, ran, again, kept⟩ := regular.completes _ (regular.counted s v holds)
    have still := stays _ _ ready ran
    obtain ⟨last, lastHolds, lastCountable, laps, goesOn⟩ :=
      ih again still (v := v + step) fun k below => short (k + 1) (Nat.succ_lt_succ below)
    refine ⟨last, lastHolds, lastCountable, .lap (counter_found ready stored) ran laps,
      fun rounds => ?_⟩
    have lap := for_round_lap ready stored (short 0 (Nat.succ_pos count)) plain ran still
        (kept.trans stored) location
    rw [Function.iterate_succ_apply, ← goesOn, ← Nat.add_assoc]
    unfold forLoop
    rw [goRound, bind_ran lap]

end

theorem mocks_lasting (mocks : Table Value) :
    Lasting (fun s => s.mocks = mocks) Any Any passAll where
  vetted s _ := vetted_any s.heap
  heap _ _ holds _ _ := holds
  ordinary _ _ := trivial
  fault _ _ := trivial
  locals _ _ _ holds := holds
  module _ _ _ holds := holds
  write _ _ holds := holds
  caught _ _ holds _ := holds
  ended _ _ _ holds := holds
  finish := trivial
  bodies _ _ := .inr trivial

theorem block_keeps_mocks (setting : Setting) (block : Block) (s : State) :
    (finalState (executeBlock setting (callFunction setting) block s)).mocks = s.mocks := by
  have calls : CallsAgree (fun t => t.mocks = s.mocks) Any (callFunction setting)
      (callFunction setting) :=
    call_function_keeps (mocks_lasting s.mocks)
      ⟨fun _ _ _ _ holds => holds, fun _ _ holds => holds, fun _ _ _ holds => holds⟩
  exact ends_final_state
    (execute_block_agree (mocks_lasting s.mocks) (counterparts_refl _ _) calls block
    block.every_function_pass_all (.inr trivial) s rfl).2

theorem block_keeps_countable (counter : String) (setting : Setting) (block : Block) (s t : State)
    (countable : Countable counter s)
    (ran : executeBlock setting (callFunction setting) block s = .ok .completed t) :
    Countable counter t := by
  have kept := block_keeps_mocks setting block s
  rw [ran] at kept
  exact ⟨countable.notReceiver, (congrArg (Table.get? · counter) kept).trans countable.notMocked⟩

theorem counted_loop_eq (setting : Setting) (call : Call) {counter : String}
    {start stop step : Expr} {a b s : Int32} (starts : start.Denotes a) (stops : stop.Denotes b)
    (steps : step.Denotes s) (plain : Kind.ofDesignator? counter = none) (block : Block)
    (location : Location) (state : State) :
    execute setting call (.forTo counter start stop step block location) state =
      forLoop counter (pure (.integer b)) (pure (.integer s))
        (executeBlock setting call block) location
        setting.options.maxRounds (state.define .function counter (.integer a)) := by
  simp only [execute, evaluate_denoted starts, evaluate_denoted stops,
    evaluate_denoted steps, pure_bind]
  unfold Exec.assign
  rw [plain]
  rfl

/-- A loop whose bounds are literals runs a body that completes normally and leaves the counter
alone once for each of `a`, `a + s`, `a + 2 * s`, … up to `b`, with the counter at that number, and
none of them has been wrapped. If the counter can hold the number behind the last of them, the loop
ends there. If it cannot, the loop goes on: the counter starts anew from the other end of its range,
and the body is run with it again. -/
theorem counted_loop_laps (setting : Setting) {counter : String} {start stop step : Expr}
    {a b s : Int32} (starts : start.Denotes a) (stops : stop.Denotes b) (steps : step.Denotes s)
    (notReceiver : sameName counter "m" = false) (plain : Kind.ofDesignator? counter = none)
    {block : Block} {inv : State → Prop}
    (regular : Regular counter (executeBlock setting (callFunction setting) block) inv)
    {state : State} (notMocked : state.mocks.get? counter = none) (holds : inv state)
    (enough : passes a.toInt b.toInt s.toInt < setting.options.maxRounds) (location : Location) :
    let body := executeBlock setting (callFunction setting) block
    let run := execute setting (callFunction setting)
        (.forTo counter start stop step block location) state
    let count := passes a.toInt b.toInt s.toInt
    let behind := a.toInt + count * s.toInt
    ∃ values last, values.map Int32.toInt = (List.range count).map
    (fun k : Nat => a.toInt + k * s.toInt) ∧
      Laps counter body state values last ∧
      (InRange behind → run = .ok .completed
        (last.define .function counter (.integer (.ofInt behind)))) ∧
      (¬ InRange behind → ∃ next, Laps counter body last [.ofInt behind] next ∧
        run = forLoop counter (pure (.integer b)) (pure (.integer s)) body location
          (setting.options.maxRounds - (count + 1))
          (next.define .function counter (.integer (.ofInt behind + s)))) := by
  intro body run count behind
  have countable : Countable counter state := ⟨notReceiver, notMocked⟩
  have short : ∀ k, k < count → ShortOf (a.toInt + k * s.toInt) b.toInt s.toInt :=
    fun k => (short_iff_lt_passes _ _ _ k).2
  have term : ∀ k, k < count → ((· + s)^[k] a).toInt = a.toInt + k * s.toInt := by
    intro k below
    obtain ⟨low, high⟩ := short_in_range (short k below)
    rw [counter_after, Int32.toInt_ofInt_of_le low high]
  have stays := block_keeps_countable counter setting block
  obtain ⟨last, lastHolds, lastCountable, laps, goesOn⟩ :=
    laps_run regular plain stays location count holds countable
    fun k below => (term k below).symm ▸ short k below
  have reached : run = forLoop counter (pure (.integer b)) (pure (.integer s)) body location
      (setting.options.maxRounds - count)
        (last.define .function counter (.integer (.ofInt behind))) := by
    have rounds : setting.options.maxRounds = setting.options.maxRounds - count + count := by omega
    rw [← counter_after a s count, ← goesOn, ← rounds]
    exact counted_loop_eq setting _ starts stops steps plain block location state
  refine ⟨_, last, ?_, laps, ?_, ?_⟩
  · rw [← List.range_map_iterate, List.map_map]
    exact List.map_congr_left fun k member => term k (List.mem_range.1 member)
  · rintro ⟨low, high⟩
    have isOver : ¬ ShortOf (Int32.ofInt behind).toInt b.toInt s.toInt := by
      rw [Int32.toInt_ofInt_of_le low high]
      exact fun short => Nat.lt_irrefl _ ((short_iff_lt_passes _ _ _ count).1 short)
    rw [reached]
    exact for_loop_over (countable_defined lastCountable _ _)
      (counter_stored _ _ _) isOver location _
  · intro beyond
    obtain ⟨next, _, _, lap, goesOn⟩ :=
      laps_run regular plain stays location 1 (v := .ofInt behind) lastHolds
      lastCountable fun k below => by
        obtain rfl : k = 0 := by omega
        exact wrapped_short beyond
    refine ⟨next, lap, ?_⟩
    have rounds : setting.options.maxRounds - count =
        setting.options.maxRounds - (count + 1) + 1 := by omega
    rw [reached, rounds]
    exact goesOn _

-- The body `seen = i`, which notes the last value of the counter.
def noting : Block :=
  ⟨[.assign "seen" (.variable "i" .internal) .internal], .internal⟩

theorem noting_run (setting : Setting) (call : Call) (s : State) :
    executeBlock setting call noting s =
      .ok .completed (s.define .function "seen" ((s.lookup? "i").getD .uninitialized)) := by
  have stores : execute setting call (.assign "seen" (.variable "i" .internal) .internal) s =
      .ok .completed (s.define .function "seen" ((s.lookup? "i").getD .uninitialized)) := rfl
  have straight : Step.runStraight (steps setting call noting.statements) s =
      .ok .completed (s.define .function "seen" ((s.lookup? "i").getD .uninitialized)) := by
    simp only [noting, steps, Step.runStraight, bind_ran stores]
    rfl
  unfold noting executeBlock Step.runBlock Step.runFrom
  exact bind_ran straight

theorem noting_regular (setting : Setting) (call : Call) :
    Regular "i" (executeBlock setting call noting) Any where
  counted _ _ _ := trivial
  completes s _ := ⟨_, noting_run setting call s, trivial, other_stored s "seen" (by decide) _⟩

theorem noted_downward :
    let place := Location.internal
    let setting : Setting := ⟨{}, .empty⟩
    let loop : Stmt := .forTo "i" (.literal (.integer 5) place) (.literal (.integer 0) place)
      (.unary .negate (.literal (.integer 2) place) place) noting place
    ∃ values last, values.map Int32.toInt = [5, 3, 1] ∧
      Laps "i" (executeBlock setting (callFunction setting) noting)
      (State.initial none) values last ∧
      execute setting (callFunction setting) loop (State.initial none) =
        .ok .completed (last.define .function "i" (.integer (-1))) := by
  intro place setting loop
  have notMocked : (State.initial none).mocks.get? "i" = none := rfl
  have enough : passes (5 : Int32).toInt
      (0 : Int32).toInt (-2 : Int32).toInt < setting.options.maxRounds :=
    Nat.lt_of_le_of_lt (passes_le 5 0 (-2)) (by decide)
  obtain ⟨values, last, counted, laps, ends, _⟩ :=
    counted_loop_laps setting (.literal 5 place) (.literal 0 place)
    (.negated 2 place place) (by decide) (by decide)
      (noting_regular _ _) notMocked trivial enough place
  exact ⟨values, last, counted, laps, ends (by decide)⟩

-- One lap is due, with the counter at 1500000000, but the loop does not end with it: the last of
-- its laps has the counter at 205032704.
theorem counter_over_the_top :
    let place := Location.internal
    let setting : Setting := ⟨{}, .empty⟩
    let bound : Expr := .literal (.integer 1500000000) place
    let body := executeBlock setting (callFunction setting) noting
    let run := execute setting (callFunction setting) (.forTo "i" bound bound bound noting place)
        (State.initial none)
    passes 1500000000 1500000000 1500000000 = 1 ∧ Regular "i" body Any ∧
      (finalState run).lookup? "seen" = some (.integer 205032704) ∧
      ¬ ∃ last value, Laps "i" body (State.initial none) [1500000000] last ∧
        run = .ok .completed (last.define .function "i" value) := by
  intro place setting bound body run
  have seen : (finalState run).lookup? "seen" = some (.integer 205032704) := by decide +kernel
  refine ⟨by decide, noting_regular _ _, seen, ?_⟩
  rintro ⟨last, value, laps, ran⟩
  cases laps with
  | lap counted first rest =>
    cases rest with
    | done =>
      obtain ⟨_, same⟩ := EStateM.Result.ok.inj ((noting_run _ _ _).symm.trans first)
      have noted : last.frame.locals.get? "seen" = some (.integer 1500000000) := by
        rw [← same, counted]
        exact counter_stored _ _ _
      have kept := (other_stored last "i" (by decide) value).trans noted
      rw [ran] at seen
      cases (counter_found ⟨by decide, same ▸ rfl⟩ kept).symm.trans seen

end BrightScript
