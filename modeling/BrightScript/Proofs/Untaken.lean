import BrightScript.Proofs.Selection
set_option autoImplicit false

namespace BrightScript

def Branch.condition : Branch → Token
  | .mk condition _ => condition

namespace Chunk

-- A place in a tree of chunks that the selection from `constants` comes to, with the constants
-- `now`. The tree is `place chunk` when `chunk` stands there.
inductive Reached : Constants → (Chunk → List Chunk) → Constants → Prop
  | here (constants : Constants) (rest : List Chunk) : Reached constants (· :: rest) constants
  | later {constants after now : Constants} {first : Chunk} {tokens : List Token}
      {place : Chunk → List Chunk} (passes : select constants first = .ok (tokens, after))
      (reached : Reached after place now) :
      Reached constants (fun chunk => first :: place chunk) now
  | inBody {constants now : Constants} {condition : Token} {place : Chunk → List Chunk}
      (elseIfs : List Branch) (otherwise : Option (List Chunk)) (location : Location)
      (rest : List Chunk) (holds : truth constants condition = .ok true)
      (reached : Reached constants place now) :
      Reached constants (fun chunk =>
        .conditional condition (place chunk) elseIfs otherwise location :: rest) now
  | inElseIf {constants now : Constants} {condition test : Token} {before : List Branch}
      {place : Chunk → List Chunk} (body : List Chunk) (behind : List Branch)
      (otherwise : Option (List Chunk)) (location : Location) (rest : List Chunk)
      (fails : truth constants condition = .ok false)
      (passed : ∀ branch ∈ before, truth constants branch.condition = .ok false)
      (holds : truth constants test = .ok true) (reached : Reached constants place now) :
      Reached constants (fun chunk =>
        .conditional condition body (before ++ .mk test (place chunk) :: behind) otherwise
          location :: rest) now
  | inElse {constants now : Constants} {condition : Token} {elseIfs : List Branch}
      {place : Chunk → List Chunk} (body : List Chunk) (location : Location) (rest : List Chunk)
      (fails : truth constants condition = .ok false)
      (passed : ∀ branch ∈ elseIfs, truth constants branch.condition = .ok false)
      (reached : Reached constants place now) :
      Reached constants (fun chunk =>
        .conditional condition body elseIfs (some (place chunk)) location :: rest) now

-- The branches of two `#if` constructs, the first one among them, each time with the `#else` behind
-- them. The two agree on the tests that are made, on the branch that is taken, and on nothing else.
inductive TakenAlike (now : Constants) :
    List Branch → Option (List Chunk) → List Branch → Option (List Chunk) → Prop
  | taken {condition : Token} (holds : truth now condition = .ok true) (body : List Chunk)
      (behind behind' : List Branch) (otherwise otherwise' : Option (List Chunk)) :
      TakenAlike now (.mk condition body :: behind) otherwise
        (.mk condition body :: behind') otherwise'
  | passed {condition : Token} {behind behind' : List Branch}
      {otherwise otherwise' : Option (List Chunk)} (fails : truth now condition = .ok false)
      (body body' : List Chunk) (later : TakenAlike now behind otherwise behind' otherwise') :
      TakenAlike now (.mk condition body :: behind) otherwise
        (.mk condition body' :: behind') otherwise'
  -- A test without a value ends the selection, and no branch is taken.
  | undefined {condition : Token} {fault : DirectiveError}
      (fails : truth now condition = .error fault) (body body' : List Chunk)
      (behind behind' : List Branch) (otherwise otherwise' : Option (List Chunk)) :
      TakenAlike now (.mk condition body :: behind) otherwise
        (.mk condition body' :: behind') otherwise'
  | otherwise (body : Option (List Chunk)) : TakenAlike now [] body [] body

section

variable {constants : Constants} {test : Token}

theorem select_others_taken (holds : truth constants test = .ok true) (body : List Chunk)
    (behind : List Branch) (otherwise : Option (List Chunk)) :
    Stream.selectOthers (.mk test body :: behind) otherwise constants =
      selectAll constants body := by
  simp only [Stream.selectOthers, selectBranch, holds]
  cases selectAll constants body <;> rfl

theorem select_others_passed (fails : truth constants test = .ok false) (body : List Chunk)
    (behind : List Branch) (otherwise : Option (List Chunk)) :
    Stream.selectOthers (.mk test body :: behind) otherwise constants =
      Stream.selectOthers behind otherwise constants := by
  simp only [Stream.selectOthers, selectBranch, fails]
  rfl

theorem select_others_undefined {fault : DirectiveError}
    (fails : truth constants test = .error fault) (body : List Chunk) (behind : List Branch)
    (otherwise : Option (List Chunk)) :
    Stream.selectOthers (.mk test body :: behind) otherwise constants = .error fault := by
  simp only [Stream.selectOthers, selectBranch, fails]
  rfl

theorem select_others_all_passed {before : List Branch}
    (passed : ∀ branch ∈ before, truth constants branch.condition = .ok false)
    (behind : List Branch) (otherwise : Option (List Chunk)) :
    Stream.selectOthers (before ++ behind) otherwise constants =
      Stream.selectOthers behind otherwise constants := by
  induction before with
  | nil => rfl
  | cons branch before ih =>
    obtain ⟨condition, body⟩ := branch
    obtain ⟨fails, later⟩ := List.forall_mem_cons.1 passed
    have fails : truth constants condition = .ok false := fails
    rw [List.cons_append, select_others_passed fails, ih later]

theorem select_conditional_others (condition : Token) (body : List Chunk) (elseIfs : List Branch)
    (otherwise : Option (List Chunk)) (location : Location) :
    select constants (.conditional condition body elseIfs otherwise location) =
      Stream.selectOthers (.mk condition body :: elseIfs) otherwise constants := by
  cases tested : truth constants condition with
  | error fault =>
    rw [select_others_undefined tested]
    simp [select, tested, bind, Except.bind]
  | ok holds =>
    cases holds with
    | true =>
      rw [select_others_taken tested]
      simp [select, tested, bind, Except.bind]
    | false =>
      rw [select_others_passed tested]
      simp only [select, tested]
      rfl

def selectBehind (rest : List Chunk) (selected : List Token × Constants) :
    Except DirectiveError (List Token × Constants) :=
  (selectAll selected.2 rest).map fun (later, after) => (selected.1 ++ later, after)

theorem select_all_cons (chunk : Chunk) (rest : List Chunk) :
    selectAll constants (chunk :: rest) = select constants chunk >>= selectBehind rest := by
  simp only [selectAll]
  apply bind_congr
  intro selected
  unfold selectBehind
  cases selectAll selected.2 rest <;> rfl

end

theorem reached_selects {constants now : Constants} {place : Chunk → List Chunk}
    (reached : Reached constants place now) :
    ∃ go : List Token × Constants → Except DirectiveError (List Token × Constants),
      ∀ chunk, selectAll constants (place chunk) = select now chunk >>= go := by
  induction reached with
  | here constants rest => exact ⟨selectBehind rest, fun chunk => select_all_cons chunk rest⟩
  | @later constants after now first tokens place passes reached ih =>
    obtain ⟨go, selects⟩ := ih
    refine ⟨fun selected => (go selected).map fun (later, final) => (tokens ++ later, final),
      fun chunk => ?_⟩
    rw [select_all_cons, passes]
    change (selectAll after (place chunk)).map _ = _
    rw [selects]
    cases select now chunk <;> rfl
  | inBody elseIfs otherwise location rest holds reached ih =>
    obtain ⟨go, selects⟩ := ih
    refine ⟨fun selected => go selected >>= selectBehind rest, fun chunk => ?_⟩
    rw [select_all_cons, select_conditional_others, select_others_taken holds, selects, bind_assoc]
  | inElseIf body behind otherwise location rest fails passed holds reached ih =>
    obtain ⟨go, selects⟩ := ih
    refine ⟨fun selected => go selected >>= selectBehind rest, fun chunk => ?_⟩
    rw [select_all_cons, select_conditional_others, select_others_passed fails,
      select_others_all_passed passed, select_others_taken holds, selects, bind_assoc]
  | @inElse constants now condition elseIfs place body location rest fails passed reached ih =>
    obtain ⟨go, selects⟩ := ih
    refine ⟨fun selected => go selected >>= selectBehind rest, fun chunk => ?_⟩
    have none := select_others_all_passed passed [] (some (place chunk))
    rw [List.append_nil] at none
    have last : Stream.selectOthers [] (some (place chunk)) constants =
        selectAll constants (place chunk) := rfl
    rw [select_all_cons, select_conditional_others, select_others_passed fails, none, last,
      selects, bind_assoc]

theorem taken_alike_selects {now : Constants} {branches branches' : List Branch}
    {otherwise otherwise' : Option (List Chunk)}
    (alike : TakenAlike now branches otherwise branches' otherwise') :
    Stream.selectOthers branches otherwise now = Stream.selectOthers branches' otherwise' now := by
  induction alike with
  | taken holds body behind behind' otherwise otherwise' =>
    rw [select_others_taken holds, select_others_taken holds]
  | passed fails body body' later ih =>
    rw [select_others_passed fails, select_others_passed fails, ih]
  | undefined fails body body' behind behind' otherwise otherwise' =>
    rw [select_others_undefined fails, select_others_undefined fails]
  | otherwise body => rfl

/-- Take an `#if` that the selection comes to, anywhere in a tree of chunks, and put anything in
place of the branches that it does not take and of all that stands behind the one that it takes. The
same tokens and the same errors come out, and what is selected behind the tree starts from the same
constants. -/
theorem untaken_branches_have_no_effect {constants now : Constants} {place : Chunk → List Chunk}
    (reached : Reached constants place now) {condition condition' : Token} {body body' : List Chunk}
    {elseIfs elseIfs' : List Branch} {otherwise otherwise' : Option (List Chunk)}
    (alike : TakenAlike now (.mk condition body :: elseIfs) otherwise
      (.mk condition' body' :: elseIfs') otherwise')
    (location : Location) :
    let written := place (.conditional condition body elseIfs otherwise location)
    let replaced := place (.conditional condition' body' elseIfs' otherwise' location)
    filterChunks replaced constants = filterChunks written constants ∧
      selectAll constants replaced = selectAll constants written := by
  intro written replaced
  obtain ⟨go, selects⟩ := reached_selects reached
  have same : selectAll constants replaced = selectAll constants written := by
    rw [selects, selects, select_conditional_others, select_conditional_others,
      taken_alike_selects alike]
  exact ⟨by simp only [filterChunks, same], same⟩

theorem error_in_untaken_branch :
    let spot := Location.internal
    let yes : Token := ⟨.word .true, "true", none, spot⟩
    let no : Token := ⟨.word .false, "false", none, spot⟩
    let debug : Token := ⟨.identifier, "debug", none, spot⟩
    let unknown : Token := ⟨.identifier, "unknown", none, spot⟩
    let kept := Chunk.text [⟨.identifier, "kept", none, spot⟩]
    let place := fun chunk : Chunk =>
      [.declaration debug no, .conditional no [] []
        (some [chunk, .conditional debug [] [] none spot]) spot]
    filterChunks (place (.conditional debug [.declaration debug yes] [.mk yes [kept]] none spot))
      .empty =
      filterChunks
        (place (.conditional debug [.failure "untaken" spot] [.mk yes [kept], .mk unknown []]
        (some [.failure "last" spot]) spot)) .empty := by
  intro spot yes no debug unknown kept place
  have declared : select Table.empty (.declaration debug no) =
      .ok ([], Table.empty.insert "debug" false) := rfl
  have fails : truth (Table.empty.insert "debug" false) debug = .ok false := by
    simp [truth, debug, Table.get?, Table.insert, Table.empty, Entries.put, Entries.find?]
  have reached : Reached .empty place (Table.empty.insert "debug" false) :=
    .later declared (.inElse [] spot [] rfl (by simp) (.here _ _))
  have taken : TakenAlike (Table.empty.insert "debug" false) [.mk yes [kept], .mk unknown []]
      (some [.failure "last" spot]) [.mk yes [kept]] none :=
    .taken rfl [kept] [.mk unknown []] [] _ none
  have alike := TakenAlike.passed fails [.failure "untaken" spot] [.declaration debug yes] taken
  exact (untaken_branches_have_no_effect reached alike spot).1

end Chunk

end BrightScript
