import BrightScript.Machine.Evaluate
import BrightScript.Machine.Flow
set_option autoImplicit false

namespace BrightScript

def PrintItem.endsLine : List PrintItem → Bool
  | [] => true
  | [.expression _] => true
  | [.zone] => false
  | [.join] => false
  | _ :: rest => endsLine rest

def printItem (call : Call) (width : Nat) (location : Location) : PrintItem → Exec Unit
  | .expression expression => do
    let value ← evaluate call expression
    Exec.print ((← get).heap.text value) location
  | .zone => Exec.printZone width location
  | .join => pure ()

def printItems (call : Call) (width : Nat) (location : Location) : List PrintItem → Exec Unit
  | [] => pure ()
  | item :: rest => do
    printItem call width location item
    printItems call width location rest

-- How long the arrays along a dimension are: one more than its greatest index, none for an index
-- below zero.
def dimensionLength (size : Int64) : Nat :=
  (min (size.toInt + 1) Int64.maxValue.toInt).toNat

def dimensionLengths (total : Nat) : List Int64 → Except Fault (List Nat)
  | [] => .ok []
  | size :: rest =>
    let length := dimensionLength size
    let total := total * length
    if maxArrayLength < length ∨ maxArrayLength < total then .error (.indexOutOfRange size)
    else (length :: ·) <$> dimensionLengths total rest

def Heap.newMany (make : Heap → Value × Heap) : Nat → Array Value → Heap → Array Value × Heap
  | 0, made, heap => (made, heap)
  | count + 1, made, heap =>
    let (value, heap) := make heap
    newMany make count (made.push value) heap

def Heap.newGrid : List Nat → Heap → Value × Heap
  | [], heap => (.invalid, heap)
  | length :: rest, heap =>
    let (elements, heap) := heap.newMany (newGrid rest) length #[]
    heap.newArray elements

def evaluateSizes (call : Call) : List Expr → Exec (List Int64)
  | [] => pure []
  | dimension :: rest => do
    let value ← evaluate call dimension
    let size ← Exec.orFail value.toInt64? (.typeMismatch "dim" value.kind none) dimension.location
    let sizes ← evaluateSizes call rest
    pure (size :: sizes)

def executeDim (call : Call) (name : String) (dimensions : List Expr) (location : Location) :
    Exec Unit := do
  let sizes ← evaluateSizes call dimensions
  let lengths ← Exec.ofExcept location (dimensionLengths 1 sizes)
  let grid ← Exec.allocate (Heap.newGrid lengths)
  Exec.assign name grid location

def Heap.visited? (h : Heap) : Value → Option (List Value)
  | .object o | .interface _ o => h.elements? o
  | _ => none

def StepOp.asBinary : StepOp → BinaryOp
  | .increment => .add
  | .decrement => .subtract

def stepped (op : StepOp) (value : Value) (location : Location) : Exec Value :=
  Exec.ofExcept location (applyBinary op.asBinary value (.integer 1))

-- Steps a variable, member or element; its object and index are evaluated once.
def executeStep (call : Call) (target : Expr) (op : StepOp) (location : Location) : Exec Unit := do
  match target with
  | .variable name _ =>
    let current ← Exec.lookup name
    let next ← stepped op current location
    Exec.assign name next location
  | .member object name _ =>
    let target ← evaluate call object
    let current ← Exec.onHeap location (target.getMember name)
    let next ← stepped op current location
    Exec.onHeap location (target.setMember name next)
  | .index object index _ =>
    let target ← evaluate call object
    let index ← evaluate call index
    let current ← Exec.onHeap location (target.getIndex index)
    let next ← stepped op current location
    Exec.onHeap location (target.setIndex index next)
  | other =>
    let value ← evaluate call other
    Exec.fail (.typeMismatch "++" value.kind none) location

def thrownNumber (value : Option Value) : Int32 :=
  match value.bind Value.toInt64? with
  | some number =>
    if Int32.minValue.toInt ≤ number.toInt ∧ number.toInt ≤ Int32.maxValue.toInt then number.toInt32
    else Fault.userNumber
  | none => Fault.userNumber

def Heap.thrown (h : Heap) (value : Value) : Fault :=
  match value.unboxed with
  | .scalar (.string message) => .thrown message Fault.userNumber
  | .object (.table ref) =>
    let entries := h.table ref
    let message := (entries.get? "message").elim "" fun message => h.text message.unboxed
    .thrown message (thrownNumber (entries.get? "number"))
  | other => .typeMismatch "throw" other.kind none

def Fault.entries (fault : Fault) : Table Value :=
  .ofList [("message", .string fault.message), ("number", .integer fault.code)]

def tryCatch (body : Exec Signal) (name : String) (handler : Exec Signal) : Exec Signal := fun s =>
  match body s with
  | .error (.error error) s =>
    (do
      Exec.note (.caught error)
      let caught ← Exec.allocate (·.newTable error.cause.entries)
      Exec.define .function name caught
      handler) s
  | outcome => outcome

def Stmt.labelName? : Stmt → Option String
  | .label name _ => some name
  | _ => none

mutual

def execute (setting : Setting) (call : Call) : Stmt → Exec Signal
  | .expression expression _ => do
    let _ ← evaluate call expression
    pure .completed
  | .print items location => do
    printItems call setting.options.printWidth location items
    if PrintItem.endsLine items then Exec.print "\n" location
    pure .completed
  | .assign name value location => do
    let value ← evaluate call value
    Exec.assign name value location
    pure .completed
  | .dim name dimensions location => do
    executeDim call name dimensions location
    pure .completed
  | .ifThen condition body elseIfs otherwise _ => do
    if ← evaluateCondition call condition then executeBlock setting call body
    else executeElse setting call (executeOtherwise setting call otherwise) elseIfs
  | .forTo counter start stop step body location => do
    let first ← evaluate call start
    Exec.assign counter first location
    forLoop counter (evaluate call stop) (evaluate call step) (executeBlock setting call body)
      location setting.options.maxRounds
  | .forEach item target body _ => do
    let collection ← evaluate call target
    let elements ← Exec.orFail ((← get).heap.visited? collection) (.notIterable collection.kind)
      target.location
    forEachLoop item (executeBlock setting call body) elements
  | .whileDo condition body _ =>
    whileLoop (evaluateCondition call condition) (executeBlock setting call body)
      setting.options.maxRounds
  | .declare name function _ => do
    Exec.declare name function
    pure .completed
  | .giveBack none _ => pure (.returned .invalid)
  | .giveBack (some value) _ => do
    let value ← evaluate call value
    pure (.returned value)
  | .setMember object name value location => do
    let target ← evaluate call object
    let value ← evaluate call value
    Exec.onHeap location (target.setMember name value)
    pure .completed
  | .setIndex object index value location => do
    let target ← evaluate call object
    let index ← evaluate call index
    let value ← evaluate call value
    Exec.onHeap location (target.setIndex index value)
    pure .completed
  | .step target op location => do
    executeStep call target op location
    pure .completed
  | .library _ _ => pure .completed
  | .goto label location => pure (.goto label location)
  | .label _ _ => pure .completed
  | .exitFor location => pure (.exitFor location)
  | .exitWhile location => pure (.exitWhile location)
  | .tryCatch body name handler _ =>
    tryCatch (executeBlock setting call body) name (executeBlock setting call handler)
  | .raise value location => do
    let value ← evaluate call value
    Exec.fail ((← get).heap.thrown value) location
  | .endProgram _ => Exec.finish
  | .stop _ => pure .completed
  | .block block => executeBlock setting call block

def executeBlock (setting : Setting) (call : Call) : Block → Exec Signal
  | ⟨statements, _⟩ => Step.runBlock setting.options.maxRounds (steps setting call statements)

def steps (setting : Setting) (call : Call) : List Stmt → List Step
  | [] => []
  | statement :: rest =>
    ⟨statement.labelName?, execute setting call statement⟩ :: steps setting call rest

def executeElse (setting : Setting) (call : Call) (otherwise : Exec Signal) :
    List ElseIf → Exec Signal
  | [] => otherwise
  | ⟨condition, body⟩ :: rest => do
    if ← evaluateCondition call condition then executeBlock setting call body
    else executeElse setting call otherwise rest

def executeOtherwise (setting : Setting) (call : Call) : Option Block → Exec Signal
  | none => pure .completed
  | some block => executeBlock setting call block

end

def executeAll (setting : Setting) (call : Call) (statements : List Stmt) : Exec Signal :=
  Step.runBlock setting.options.maxRounds (steps setting call statements)

end BrightScript
