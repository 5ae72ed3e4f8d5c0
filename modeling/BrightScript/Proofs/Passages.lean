import BrightScript.Proofs.Canonical
import BrightScript.Proofs.Spelling
set_option autoImplicit false

/-!
Programs as passages of a token stream. What is said here of an expression and some tokens is that
it was read from exactly these tokens, and so were its parts from parts of them, in their order. The
location of each expression on the way spans its tokens, with one exception: an access by index does
not reach its closing bracket, nor does an operation that ends in such an access.
-/

namespace BrightScript

open BrightScript.Parser (binaryOp?)

abbrev Passage := List Token → Prop

def Location.StartsAt (l : Location) (tokens : List Token) : Prop :=
  ∃ first, tokens.head? = some first ∧ l.file = first.location.file ∧ l.start = first.location.start

def Location.StopsAt (l : Location) (tokens : List Token) : Prop :=
  ∃ last, tokens.getLast? = some last ∧ l.stop = last.location.stop

structure Location.Spans (l : Location) (tokens : List Token) : Prop where
  starts : l.StartsAt tokens
  stops : l.StopsAt tokens

def Apart (between : Lexeme → Prop) : List Passage → Passage
  | [], tokens => ∀ token ∈ tokens, between token.kind
  | first :: rest, tokens => ∃ gap own later, tokens = gap ++ (own ++ later) ∧
      (∀ token ∈ gap, between token.kind) ∧
      first own ∧ Apart between rest later

-- Plus signs in front belong to no expression.
def BehindPlus (passage : Passage) : Passage := fun tokens =>
  ∃ signs own, tokens = signs ++ own ∧ (∀ sign ∈ signs, sign.kind = .symbol .plus) ∧ passage own

def Enclosed (opening closing : Lexeme) (passage : Passage) : Passage := fun tokens =>
  ∃ first inner last, tokens = first :: (inner ++ [last]) ∧ first.kind = opening ∧
    last.kind = closing ∧ passage inner

def Indexing (closed opened index : Passage) : Passage := fun tokens =>
  ∃ head sign place, tokens = head ++ sign :: place ∧ BehindPlus index place ∧
    (sign.kind = .symbol .leftSquare ∧ closed head ∨ sign.kind = .symbol .comma ∧ opened head)

def Keyed (name : String) (value : Passage) : Passage := fun tokens =>
  ∃ key colon rest, tokens = key :: colon :: rest ∧ Parser.memberKey? key = some name ∧
    colon.kind = .symbol .colon ∧ value rest

def Bounding (stop step implied : Passage) : Passage := fun tokens =>
  Apart Any [stop, step] tokens ∨ stop tokens ∧ implied tokens

def isComma (kind : Lexeme) : Prop :=
  kind = .symbol .comma

def isCommaOrLineEnd (kind : Lexeme) : Prop :=
  kind = .symbol .comma ∨ kind = .newline

def compoundOp? (kind : Lexeme) : Option BinaryOp :=
  (Parser.assignmentSign? kind).join

def functionWord (isSub : Bool) : Keyword :=
  if isSub then .sub else .function

def functionTerminator (isSub : Bool) : Keyword :=
  if isSub then .endSub else .endFunction

namespace Expr

def endsIndexed : Expr → Bool
  | .index _ _ _ => true
  | .binary _ _ right _ => right.endsIndexed
  | .unary _ operand _ => operand.endsIndexed
  | _ => false

-- Those of its tokens that the location of an expression spans.
def spanned (e : Expr) (tokens : List Token) : List Token :=
  if e.endsIndexed then tokens.dropLast else tokens

def IsUnitStep (e : Expr) (tokens : List Token) : Prop :=
  ∃ last, tokens.getLast? = some last ∧ e = .literal (.integer 1) last.location

def Updates (e : Expr) (target : Location → Expr) : Prop :=
  ∃ place op value location, e = .binary (target place) op value location

end Expr

mutual

def Expr.ReadFrom : Expr → (Lexeme → Option BinaryOp) → Passage
  | .literal value location, _ => fun tokens =>
    ∃ token, tokens = [token] ∧ Parser.isLiteral token.kind = true ∧
      value = token.literal.getD .invalid ∧
      location.Spans tokens
  | .variable name location, _ => fun tokens =>
    ∃ token, tokens = [token] ∧ token.kind = .identifier ∧ token.text = name ∧ location.Spans tokens
  | .binary left op right location, op? => fun tokens =>
    location.Spans ((Expr.binary left op right location).spanned tokens) ∧
      ∃ before sign after, tokens = before ++ sign :: after ∧ op? sign.kind = some op ∧
        left.ReadFrom binaryOp? before ∧ BehindPlus (right.ReadFrom binaryOp?) after
  | .unary op operand location, _ => fun tokens =>
    location.Spans ((Expr.unary op operand location).spanned tokens) ∧
      ∃ sign after, tokens = sign :: after ∧ sign.kind = op.lexeme ∧
        BehindPlus (operand.ReadFrom binaryOp?) after
  | .grouping inner location, _ => fun tokens =>
    location.Spans tokens ∧
      Enclosed (.symbol .leftParen) (.symbol .rightParen)
        (BehindPlus (inner.ReadFrom binaryOp?)) tokens
  | .call callee arguments location, _ => fun tokens =>
    location.Spans tokens ∧ ∃ head given, tokens = head ++ given ∧ callee.ReadFrom binaryOp? head ∧
      Enclosed (.symbol .leftParen) (.symbol .rightParen) (Apart isComma (passages arguments)) given
  | .member object name location, _ => fun tokens =>
    location.Spans tokens ∧ ∃ head dot word, tokens = head ++ [dot, word] ∧
      dot.kind = .symbol .dot ∧
      word.NamesMember name ∧ object.ReadFrom binaryOp? head
  | .index object index location, _ => fun tokens =>
    ∃ inner closing, tokens = inner ++ [closing] ∧ closing.kind = .symbol .rightSquare ∧
      location.Spans inner ∧
      Indexing (object.ReadFrom binaryOp?) object.OpenFrom (index.ReadFrom binaryOp?) inner
  | .array elements location, _ => fun tokens =>
    location.Spans tokens ∧
      Enclosed (.symbol .leftSquare) (.symbol .rightSquare)
        (Apart isCommaOrLineEnd (passages elements)) tokens
  | .table members location, _ => fun tokens =>
    location.Spans tokens ∧
      Enclosed (.symbol .leftBrace) (.symbol .rightBrace)
        (Apart isCommaOrLineEnd (memberPassages members)) tokens
  | .function function, _ => fun tokens =>
    function.location.Spans tokens ∧
      Enclosed (.word (functionWord function.isSub)) (.word (functionTerminator function.isSub))
        (Apart Any function.passages) tokens

def Expr.OpenFrom : Expr → Passage
  | .index object index location => fun tokens =>
    location.Spans tokens ∧
      Indexing (object.ReadFrom binaryOp?) object.OpenFrom (index.ReadFrom binaryOp?) tokens
  | _ => fun _ => False

def passages : List Expr → List Passage
  | [] => []
  | first :: rest => BehindPlus (first.ReadFrom binaryOp?) :: passages rest

def memberPassages : List Member → List Passage
  | [] => []
  | ⟨name, value, _⟩ :: rest =>
    Keyed name (BehindPlus (value.ReadFrom binaryOp?)) :: memberPassages rest

def optionalPassages : Option Expr → List Passage
  | none => []
  | some value => [BehindPlus (value.ReadFrom binaryOp?)]

def defaultPassages : List Parameter → List Passage
  | [] => []
  | ⟨_, _, default, _⟩ :: rest => optionalPassages default ++ defaultPassages rest

def Function.passages : Function → List Passage
  | ⟨_, parameters, _, body, _, _⟩ => defaultPassages parameters ++ body.passages

def Block.passages : Block → List Passage
  | ⟨statements, _⟩ => statementPassages statements

def statementPassages : List Stmt → List Passage
  | [] => []
  | first :: rest => first.passages ++ statementPassages rest

def elseIfPassages : List ElseIf → List Passage
  | [] => []
  | ⟨condition, body⟩ :: rest =>
    BehindPlus (condition.ReadFrom binaryOp?) :: (body.passages ++ elseIfPassages rest)

def otherwisePassages : Option Block → List Passage
  | none => []
  | some block => block.passages

def printPassages : List PrintItem → List Passage
  | [] => []
  | .expression value :: rest => BehindPlus (value.ReadFrom binaryOp?) :: printPassages rest
  | .zone :: rest | .join :: rest => printPassages rest

-- The passages of a statement's expressions in their order. A compound assignment has its target as
-- part of what it stores.
def Stmt.passages : Stmt → List Passage
  | .expression value _ | .raise value _ | .step value _ _ =>
    [BehindPlus (value.ReadFrom binaryOp?)]
  | .print items _ => printPassages items
  | .assign _ value _ => [fun tokens => BehindPlus (value.ReadFrom binaryOp?) tokens ∨
      value.ReadFrom compoundOp? tokens]
  | .dim _ dimensions _ => BrightScript.passages dimensions
  | .ifThen condition body elseIfs otherwise _ =>
    BehindPlus (condition.ReadFrom binaryOp?) ::
      (body.passages ++ (elseIfPassages elseIfs ++ otherwisePassages otherwise))
  | .forTo _ start stop step body _ =>
    BehindPlus (start.ReadFrom binaryOp?) ::
      Bounding (BehindPlus (stop.ReadFrom binaryOp?))
        (BehindPlus (step.ReadFrom binaryOp?)) step.IsUnitStep ::
      body.passages
  | .forEach _ value body _ | .whileDo value body _ =>
    BehindPlus (value.ReadFrom binaryOp?) :: body.passages
  | .declare _ function _ => function.passages
  | .giveBack value _ => optionalPassages value
  | .setMember object name value _ => [fun tokens =>
      Apart Any [object.ReadFrom binaryOp?, BehindPlus (value.ReadFrom binaryOp?)] tokens ∨
        value.ReadFrom compoundOp? tokens ∧ value.Updates (.member object name)]
  | .setIndex object index value _ => [fun tokens =>
      Apart Any [fun head => object.ReadFrom binaryOp? head ∨ object.OpenFrom head,
        BehindPlus (index.ReadFrom binaryOp?), BehindPlus (value.ReadFrom binaryOp?)] tokens ∨
        value.ReadFrom compoundOp? tokens ∧ value.Updates (.index object index)]
  | .tryCatch body _ handler _ => body.passages ++ handler.passages
  | .block block => block.passages
  | .library _ _ | .goto _ _ | .label _ _ | .exitFor _ | .exitWhile _ | .endProgram _
  | .stop _ => []

end

abbrev Expr.StandsIn (e : Expr) : Passage :=
  BehindPlus (e.ReadFrom binaryOp?)

theorem passages_eq_map (es : List Expr) : passages es = es.map Expr.StandsIn := by
  induction es with
  | nil => rfl
  | cons first rest ih =>
    rw [passages, ih]
    rfl

theorem member_passages_eq_map (ms : List Member) :
    memberPassages ms = ms.map fun m => Keyed m.name m.value.StandsIn := by
  induction ms with
  | nil => rfl
  | cons first rest ih =>
    cases first
    rw [memberPassages, ih]
    rfl

theorem default_passages_eq_flat_map (ps : List Parameter) :
    defaultPassages ps = ps.flatMap fun p => optionalPassages p.default := by
  induction ps with
  | nil => rfl
  | cons first rest ih =>
    cases first
    rw [defaultPassages, ih]
    rfl

section

variable {l : Location} {tokens more gap : List Token}

theorem starts_append (starts : l.StartsAt tokens) (more : List Token) :
    l.StartsAt (tokens ++ more) := by
  obtain ⟨first, found, same⟩ := starts
  exact ⟨first, by rw [List.head?_append, found]; rfl, same⟩

theorem stops_append (stops : l.StopsAt tokens) (more : List Token) :
    l.StopsAt (more ++ tokens) := by
  obtain ⟨last, found, same⟩ := stops
  exact ⟨last, by rw [List.getLast?_append, found]; rfl, same⟩

theorem spans_nonempty (spans : l.Spans tokens) : tokens ≠ [] := by
  obtain ⟨first, found, _⟩ := spans.starts
  rintro rfl
  cases found

theorem spans_token (token : Token) : token.location.Spans [token] :=
  ⟨⟨token, rfl, rfl, rfl⟩, ⟨token, rfl, rfl⟩⟩

theorem spans_through {start : Location} {last : Token} (starts : start.StartsAt tokens)
    (ends : tokens.getLast? = some last) : (start.through last.location).Spans tokens :=
  ⟨starts, last, ends, rfl⟩

variable {between : Lexeme → Prop} {ps qs : List Passage}

theorem apart_gap (apart : Apart between ps tokens) (among : ∀ token ∈ gap, between token.kind) :
    Apart between ps (gap ++ tokens) := by
  cases ps with
  | nil => exact List.forall_mem_append.2 ⟨among, apart⟩
  | cons first rest =>
    obtain ⟨before, own, later, rfl, outside, reads, apart⟩ := apart
    exact ⟨gap ++ before, own, later, by simp, List.forall_mem_append.2 ⟨among, outside⟩,
      reads, apart⟩

theorem apart_behind (gap : List Token) (apart : Apart Any ps tokens) :
    Apart Any ps (gap ++ tokens) :=
  apart_gap apart fun _ _ => trivial

theorem apart_append (first : Apart between ps tokens) (second : Apart between qs more) :
    Apart between (ps ++ qs) (tokens ++ more) := by
  induction ps generalizing tokens with
  | nil => exact apart_gap second first
  | cons passage rest ih =>
    obtain ⟨gap, own, later, rfl, outside, reads, apart⟩ := first
    exact ⟨gap, own, later ++ more, by simp, outside, reads, ih apart⟩

theorem apart_cons {passage : Passage} (reads : passage tokens) (rest : Apart between ps more) :
    Apart between (passage :: ps) (tokens ++ more) :=
  ⟨[], tokens, more, rfl, by simp, reads, rest⟩

theorem apart_trail (apart : Apart between ps tokens) (among : ∀ token ∈ gap, between token.kind) :
    Apart between ps (tokens ++ gap) := by
  have longer := apart_append apart (show Apart between [] gap from among)
  rwa [List.append_nil] at longer

theorem apart_single {passage : Passage} (reads : passage tokens) :
    Apart between [passage] tokens :=
  ⟨[], tokens, [], by simp, by simp, reads, by simp [Apart]⟩

theorem apart_flatten {ι : Type} {parts : ι → List Passage} {items : List ι}
    (apart : Apart between (items.map fun item => Apart Any (parts item)) tokens) :
    Apart Any (items.flatMap parts) tokens := by
  induction items generalizing tokens with
  | nil => exact fun _ _ => trivial
  | cons item rest ih =>
    obtain ⟨gap, own, later, rfl, _, first, apart⟩ := apart
    exact apart_gap (apart_append first (ih apart)) fun _ _ => trivial

theorem apart_mono {wider : Lexeme → Prop} (apart : Apart between ps tokens)
    (wide : ∀ kind, between kind → wider kind) : Apart wider ps tokens := by
  induction ps generalizing tokens with
  | nil => exact fun token member => wide _ (apart token member)
  | cons passage rest ih =>
    obtain ⟨gap, own, later, rfl, outside, reads, apart⟩ := apart
    exact ⟨gap, own, later, rfl, fun token member => wide _ (outside token member), reads, ih apart⟩

theorem apart_split (apart : Apart between (ps ++ qs) tokens) :
    ∃ before after, tokens = before ++ after ∧ Apart between ps before ∧
      Apart between qs after := by
  induction ps generalizing tokens with
  | nil => exact ⟨[], tokens, rfl, by simp [Apart], apart⟩
  | cons passage rest ih =>
    obtain ⟨gap, own, later, rfl, outside, reads, apart⟩ := apart
    obtain ⟨before, after, rfl, first, second⟩ := ih apart
    exact ⟨gap ++ (own ++ before), after, by simp,
      ⟨gap, own, before, rfl, outside, reads, first⟩, second⟩

end

section

variable {e : Expr} {op? : Lexeme → Option BinaryOp} {tokens : List Token}

theorem spanned_within (e : Expr) (tokens : List Token) : e.spanned tokens <+: tokens := by
  unfold Expr.spanned
  split
  · exact List.dropLast_prefix tokens
  · exact List.prefix_refl tokens

theorem spanned_append (e : Expr) (before : List Token) (some : tokens ≠ []) :
    e.spanned (before ++ tokens) = before ++ e.spanned tokens := by
  unfold Expr.spanned
  split
  · exact List.dropLast_append_of_ne_nil some
  · rfl

theorem read_spans (reads : e.ReadFrom op? tokens) : e.location.Spans (e.spanned tokens) := by
  cases e with
  | literal value location | «variable» name location =>
    obtain ⟨_, _, _, _, spans⟩ := reads
    exact spans
  | index object index location =>
    obtain ⟨inner, closing, rfl, _, spans, _⟩ := reads
    change location.Spans (inner ++ [closing]).dropLast
    rwa [List.dropLast_concat]
  | binary | unary | grouping | call | member | array | table | function => exact reads.1

theorem read_nonempty (reads : e.ReadFrom op? tokens) : tokens ≠ [] := by
  rintro rfl
  exact spans_nonempty (read_spans reads) (List.prefix_nil.1 (spanned_within e []))

theorem read_starts (reads : e.ReadFrom op? tokens) : e.location.StartsAt tokens := by
  obtain ⟨rest, shape⟩ := spanned_within e tokens
  have starts := starts_append (read_spans reads).starts rest
  rwa [shape] at starts

theorem open_spans (opens : e.OpenFrom tokens) : e.location.Spans tokens := by
  cases e with
  | index object index location => exact opens.1
  | _ => exact opens.elim

theorem index_open {object index : Expr} {head place : List Token} {sign last : Token}
    (accessed : sign.kind = .symbol .leftSquare ∧ object.ReadFrom binaryOp? head ∨
      sign.kind = .symbol .comma ∧ object.OpenFrom head)
    (stands : index.StandsIn place) (ends : (head ++ sign :: place).getLast? = some last) :
    (Expr.index object index (object.location.through last.location)).OpenFrom
      (head ++ sign :: place) := by
  have starts : object.location.StartsAt head := by
    rcases accessed with ⟨_, closed⟩ | ⟨_, opened⟩
    · exact read_starts closed
    · exact (open_spans opened).starts
  exact ⟨spans_through (starts_append starts _) ends, head, sign, place, rfl, stands, accessed⟩

theorem open_closed (opens : e.OpenFrom tokens) {closing : Token}
    (closes : closing.kind = .symbol .rightSquare) : e.ReadFrom op? (tokens ++ [closing]) := by
  cases e with
  | index object index location => exact ⟨tokens, closing, rfl, closes, opens.1, opens.2⟩
  | _ => exact opens.elim

end

section

variable {left right operand callee object e : Expr} {op : BinaryOp}
  {op? : Lexeme → Option BinaryOp} {before after given tokens : List Token} {sign : Token}

theorem read_stands (reads : e.ReadFrom binaryOp? tokens) : e.StandsIn tokens :=
  ⟨[], tokens, rfl, by simp, reads⟩

theorem unary_read {op : UnaryOp} (found : sign.kind = op.lexeme) (inner : operand.StandsIn after) :
    (Expr.unary op operand (sign.location.through operand.location)).ReadFrom op?
    (sign :: after) := by
  refine ⟨⟨⟨sign, ?_, rfl, rfl⟩, ?_⟩, sign, after, rfl, found, inner⟩
  all_goals
    obtain ⟨signs, own, rfl, _, reads⟩ := inner
    have spanned : (Expr.unary op operand (sign.location.through operand.location)).spanned
        (sign :: (signs ++ own)) =
        sign :: signs ++ operand.spanned own := by
      rw [← List.cons_append]
      exact spanned_append operand _ (read_nonempty reads)
    rw [spanned]
  · rfl
  · exact stops_append (read_spans reads).stops _

theorem binary_read (first : left.ReadFrom binaryOp? before) (found : op? sign.kind = some op)
    (second : right.StandsIn after) :
    (Expr.binary left op right (left.location.through right.location)).ReadFrom op?
      (before ++ sign :: after) := by
  refine ⟨⟨?_, ?_⟩, before, sign, after, rfl, found, first, second⟩
  all_goals
    obtain ⟨signs, own, rfl, _, reads⟩ := second
    have spanned : (Expr.binary left op right (left.location.through right.location)).spanned
        (before ++ sign :: (signs ++ own)) = before ++ (sign :: signs ++ right.spanned own) := by
      rw [← List.cons_append, ← List.append_assoc]
      exact (spanned_append right _ (read_nonempty reads)).trans (List.append_assoc _ _ _)
    rw [spanned]
  · exact starts_append (read_starts first) _
  · rw [← List.append_assoc]
    exact stops_append (read_spans reads).stops _

theorem binary_stands (first : left.StandsIn before) (found : binaryOp? sign.kind = some op)
    (second : right.StandsIn after) :
    (Expr.binary left op right (left.location.through right.location)).StandsIn
      (before ++ sign :: after) := by
  obtain ⟨signs, own, rfl, plus, reads⟩ := first
  exact ⟨signs, own ++ sign :: after, List.append_assoc _ _ _, plus, binary_read reads found second⟩

end

-- What holds of every expression in a passage, because it holds of those that were read from parts
-- of it.
structure Pervades (fine : List Token → Prop) (check : Expr → Prop) : Prop where
  narrower : ∀ part whole, part <:+: whole → fine whole → fine part
  closed : ∀ (e : Expr) op? tokens, e.ReadFrom op? tokens → fine (e.spanned tokens) → check e
  opened : ∀ (e : Expr) tokens, e.OpenFrom tokens → fine tokens → check e
  implied : ∀ token, fine [token] → check (.literal (.integer 1) token.location)

section

variable {fine : List Token → Prop} {check : Expr → Prop} (pervades : Pervades fine check)

include pervades

theorem spanned_fine (e : Expr) {part whole : List Token} (among : part <:+: whole)
    (good : fine whole) : fine (e.spanned part) :=
  pervades.narrower _ _ ((spanned_within e part).isInfix.trans among) good

theorem behind_plus_fine {e : Expr} {op? : Lexeme → Option BinaryOp} {tokens : List Token}
    (stands : BehindPlus (e.ReadFrom op?) tokens) (whole : fine tokens) :
    ∃ own, e.ReadFrom op? own ∧ fine (e.spanned own) := by
  obtain ⟨signs, own, rfl, _, reads⟩ := stands
  exact ⟨own, reads, spanned_fine pervades e ⟨signs, [], by simp⟩ whole⟩

theorem apart_fine {between : Lexeme → Prop} {first : Passage} {rest : List Passage}
    {tokens : List Token} (apart : Apart between (first :: rest) tokens) (whole : fine tokens) :
    (∃ own, first own ∧ fine own) ∧ ∃ later, Apart between rest later ∧ fine later := by
  obtain ⟨gap, own, later, rfl, _, reads, apart⟩ := apart
  exact ⟨⟨own, reads, pervades.narrower _ _ ⟨gap, later, by simp⟩ whole⟩,
    later, apart, pervades.narrower _ _ ⟨gap ++ own, [], by simp⟩ whole⟩

theorem first_fine {between : Lexeme → Prop} {e : Expr} {op? : Lexeme → Option BinaryOp}
    {rest : List Passage} {tokens : List Token}
    (apart : Apart between (BehindPlus (e.ReadFrom op?) :: rest) tokens) (whole : fine tokens) :
    (∃ own, e.ReadFrom op? own ∧ fine (e.spanned own)) ∧ ∃ later, Apart between rest later ∧
      fine later := by
  obtain ⟨⟨own, stands, good⟩, later⟩ := apart_fine pervades apart whole
  exact ⟨behind_plus_fine pervades stands good, later⟩

theorem apart_split_fine {between : Lexeme → Prop} {ps qs : List Passage} {tokens : List Token}
    (apart : Apart between (ps ++ qs) tokens) (whole : fine tokens) :
    (∃ before, Apart between ps before ∧ fine before) ∧ ∃ after, Apart between qs after ∧
      fine after := by
  obtain ⟨before, after, rfl, first, second⟩ := apart_split apart
  exact ⟨⟨before, first, pervades.narrower _ _ ⟨[], after, by simp⟩ whole⟩,
    after, second, pervades.narrower _ _ ⟨before, [], by simp⟩ whole⟩

theorem enclosed_fine {opening closing : Lexeme} {passage : Passage} {tokens : List Token}
    (enclosed : Enclosed opening closing passage tokens) (whole : fine tokens) :
    ∃ inner, passage inner ∧ fine inner := by
  obtain ⟨first, inner, last, rfl, _, _, reads⟩ := enclosed
  exact ⟨inner, reads, pervades.narrower _ _ ⟨[first], [last], by simp⟩ whole⟩

theorem indexing_fine {object index : Expr} {tokens : List Token}
    (indexing : Indexing (object.ReadFrom binaryOp?) object.OpenFrom
      (index.ReadFrom binaryOp?) tokens)
    (whole : fine tokens) :
    (∃ place, index.ReadFrom binaryOp? place ∧ fine (index.spanned place)) ∧
      ((∃ head, object.ReadFrom binaryOp? head ∧ fine (object.spanned head)) ∨
        ∃ head, object.OpenFrom head ∧ fine head) := by
  obtain ⟨head, sign, place, rfl, stands, accessed⟩ := indexing
  refine ⟨behind_plus_fine pervades stands
    (pervades.narrower _ _ ⟨head ++ [sign], [], by simp⟩ whole), ?_⟩
  rcases accessed with ⟨_, closed⟩ | ⟨_, opened⟩
  · exact .inl ⟨head, closed, spanned_fine pervades object ⟨[], sign :: place, rfl⟩ whole⟩
  · exact .inr ⟨head, opened, pervades.narrower _ _ ⟨[], sign :: place, rfl⟩ whole⟩

theorem binary_fine {left right : Expr} {op : BinaryOp} {location : Location}
    {op? : Lexeme → Option BinaryOp} {tokens : List Token}
    (reads : (Expr.binary left op right location).ReadFrom op? tokens)
    (whole : fine ((Expr.binary left op right location).spanned tokens)) :
    (∃ before, left.ReadFrom binaryOp? before ∧ fine (left.spanned before)) ∧
      ∃ after, right.ReadFrom binaryOp? after ∧ fine (right.spanned after) := by
  obtain ⟨_, before, sign, after, rfl, _, first, signs, own, rfl, _, second⟩ := reads
  change fine (right.spanned _) at whole
  have shape : before ++ sign :: (signs ++ own) = (before ++ sign :: signs) ++ own := by simp
  rw [shape, spanned_append right _ (read_nonempty second)] at whole
  exact ⟨⟨before, first, spanned_fine pervades left
    ⟨[], sign :: signs ++ right.spanned own, by simp⟩ whole⟩,
    own, second, pervades.narrower _ _ ⟨before ++ sign :: signs, [], by simp⟩ whole⟩

theorem unary_fine {operand : Expr} {op : UnaryOp} {location : Location}
    {op? : Lexeme → Option BinaryOp} {tokens : List Token}
    (reads : (Expr.unary op operand location).ReadFrom op? tokens)
    (whole : fine ((Expr.unary op operand location).spanned tokens)) :
    ∃ after, operand.ReadFrom binaryOp? after ∧ fine (operand.spanned after) := by
  obtain ⟨_, sign, after, rfl, _, signs, own, rfl, _, inner⟩ := reads
  change fine (operand.spanned ((sign :: signs) ++ own)) at whole
  rw [spanned_append operand _ (read_nonempty inner)] at whole
  exact ⟨own, inner, pervades.narrower _ _ ⟨sign :: signs, [], by simp⟩ whole⟩

theorem call_fine {callee : Expr} {arguments : List Expr} {location : Location}
    {op? : Lexeme → Option BinaryOp} {tokens : List Token}
    (reads : (Expr.call callee arguments location).ReadFrom op? tokens) (whole : fine tokens) :
    (∃ head, callee.ReadFrom binaryOp? head ∧ fine (callee.spanned head)) ∧
      ∃ inner, Apart isComma (passages arguments) inner ∧ fine inner := by
  obtain ⟨_, head, given, rfl, called, enclosed⟩ := reads
  exact ⟨⟨head, called, spanned_fine pervades callee ⟨[], given, rfl⟩ whole⟩,
    enclosed_fine pervades enclosed (pervades.narrower _ _ ⟨head, [], by simp⟩ whole)⟩

theorem index_fine {object index : Expr} {location : Location} {op? : Lexeme → Option BinaryOp}
    {tokens : List Token} (reads : (Expr.index object index location).ReadFrom op? tokens)
    (whole : fine ((Expr.index object index location).spanned tokens)) :
    (∃ place, index.ReadFrom binaryOp? place ∧ fine (index.spanned place)) ∧
      ((∃ head, object.ReadFrom binaryOp? head ∧ fine (object.spanned head)) ∨
        ∃ head, object.OpenFrom head ∧ fine head) := by
  obtain ⟨inner, closing, rfl, _, _, indexing⟩ := reads
  change fine (inner ++ [closing]).dropLast at whole
  rw [List.dropLast_concat] at whole
  exact indexing_fine pervades indexing whole

end

section

variable {fine : List Token → Prop} {check : Expr → Prop}

mutual

theorem read_every_node (all : Pervades fine check) :
    (e : Expr) → (op? : Lexeme → Option BinaryOp) → (tokens : List Token) →
    e.ReadFrom op? tokens → fine (e.spanned tokens) →
      ∀ target, e.EveryNode (fun _ node => check node) target
  | .literal value location, _, _, reads, good, _ => all.closed _ _ _ reads good
  | .variable name location, _, _, reads, good, _ => all.closed _ _ _ reads good
  | .binary left op right location, _, _, reads, good, _ => by
    obtain ⟨⟨before, first, leftGood⟩, after, second, rightGood⟩ := binary_fine all reads good
    exact ⟨all.closed _ _ _ reads good, read_every_node all left _ before first leftGood none,
      read_every_node all right _ after second rightGood none⟩
  | .unary op operand location, _, _, reads, good, _ => by
    obtain ⟨after, inner, innerGood⟩ := unary_fine all reads good
    exact ⟨all.closed _ _ _ reads good, read_every_node all operand _ after inner innerGood none⟩
  | .grouping inner location, _, _, reads, good, _ => by
    obtain ⟨tokens, stands, inside⟩ := enclosed_fine all reads.2 good
    obtain ⟨own, read, ownGood⟩ := behind_plus_fine all stands inside
    exact ⟨all.closed _ _ _ reads good, read_every_node all inner _ own read ownGood none⟩
  | .call callee arguments location, _, _, reads, good, _ => by
    obtain ⟨⟨head, called, headGood⟩, inner, apart, inside⟩ := call_fine all reads good
    exact ⟨all.closed _ _ _ reads good, read_every_node all callee _ head called headGood none,
      expressions_every_node all arguments _ inner apart inside⟩
  | .member object name location, _, _, reads, good, _ => by
    have own := all.closed _ _ _ reads good
    obtain ⟨_, head, dot, word, rfl, _, _, accessed⟩ := reads
    have headGood := spanned_fine all object ⟨[], [dot, word], rfl⟩ good
    exact ⟨own, read_every_node all object _ head accessed headGood none⟩
  | .index object index location, _, _, reads, good, _ => by
    obtain ⟨⟨place, read, placeGood⟩, ⟨head, closed, headGood⟩ | ⟨head, opened, headGood⟩⟩ :=
      index_fine all reads good
    · exact ⟨all.closed _ _ _ reads good, read_every_node all object _ head closed headGood none,
        read_every_node all index _ place read placeGood none⟩
    · exact ⟨all.closed _ _ _ reads good, open_every_node all object head opened headGood,
        read_every_node all index _ place read placeGood none⟩
  | .array elements location, _, _, reads, good, _ => by
    obtain ⟨inner, apart, inside⟩ := enclosed_fine all reads.2 good
    exact ⟨all.closed _ _ _ reads good, expressions_every_node all elements _ inner apart inside⟩
  | .table members location, _, _, reads, good, _ => by
    obtain ⟨inner, apart, inside⟩ := enclosed_fine all reads.2 good
    exact ⟨all.closed _ _ _ reads good, members_every_node all members _ inner apart inside⟩
  | .function function, _, _, reads, good, _ => by
    obtain ⟨inner, apart, inside⟩ := enclosed_fine all reads.2 good
    exact ⟨all.closed _ _ _ reads good, function_every_node all function inner apart inside⟩

theorem open_every_node (all : Pervades fine check) :
    (e : Expr) → (tokens : List Token) → e.OpenFrom tokens → fine tokens →
    e.EveryNode (fun _ node => check node) none
  | .index object index location, tokens, opens, good => by
    obtain ⟨⟨place, read, placeGood⟩, ⟨head, closed, headGood⟩ | ⟨head, opened, headGood⟩⟩ :=
      indexing_fine all opens.2 good
    · exact ⟨all.opened _ _ opens good, read_every_node all object _ head closed headGood none,
        read_every_node all index _ place read placeGood none⟩
    · exact ⟨all.opened _ _ opens good, open_every_node all object head opened headGood,
        read_every_node all index _ place read placeGood none⟩

theorem expressions_every_node (all : Pervades fine check) :
    (es : List Expr) → (between : Lexeme → Prop) → (tokens : List Token) →
    Apart between (passages es) tokens → fine tokens → everyNodeIn (fun _ node => check node) es
  | [], _, _, _, _ => trivial
  | first :: rest, _, _, apart, good => by
    obtain ⟨⟨own, reads, ownGood⟩, later, others, laterGood⟩ := first_fine all apart good
    exact ⟨read_every_node all first _ own reads ownGood none,
      expressions_every_node all rest _ later others laterGood⟩

theorem members_every_node (all : Pervades fine check) :
    (ms : List Member) → (between : Lexeme → Prop) → (tokens : List Token) →
    Apart between (memberPassages ms) tokens → fine tokens →
      everyMemberNode (fun _ node => check node) ms
  | [], _, _, _, _ => trivial
  | ⟨name, value, _⟩ :: rest, _, _, apart, good => by
    obtain ⟨⟨own, keyed, ownGood⟩, later, others, laterGood⟩ := apart_fine all apart good
    obtain ⟨key, colon, tokens, rfl, _, _, stands⟩ := keyed
    obtain ⟨own, reads, ownGood⟩ := behind_plus_fine all stands
      (all.narrower _ _ ⟨[key, colon], [], by simp⟩ ownGood)
    exact ⟨read_every_node all value _ own reads ownGood none,
      members_every_node all rest _ later others laterGood⟩

theorem optional_every_node (all : Pervades fine check) :
    (value : Option Expr) → (tokens : List Token) →
    Apart Any (optionalPassages value) tokens → fine tokens →
      everyOptionalNode (fun _ node => check node) value
  | none, _, _, _ => trivial
  | some value, _, apart, good => by
    obtain ⟨own, reads, ownGood⟩ := (first_fine all apart good).1
    exact read_every_node all value _ own reads ownGood none

theorem defaults_every_node (all : Pervades fine check) :
    (ps : List Parameter) → (tokens : List Token) →
    Apart Any (defaultPassages ps) tokens → fine tokens →
      everyDefaultNode (fun _ node => check node) ps
  | [], _, _, _ => trivial
  | ⟨_, _, default, _⟩ :: rest, _, apart, good => by
    obtain ⟨⟨own, first, ownGood⟩, later, others, laterGood⟩ := apart_split_fine all apart good
    exact ⟨optional_every_node all default own first ownGood,
      defaults_every_node all rest later others laterGood⟩

theorem function_every_node (all : Pervades fine check) :
    (f : Function) → (tokens : List Token) → Apart Any f.passages tokens → fine tokens →
    f.EveryNode (fun _ node => check node)
  | ⟨_, parameters, _, body, _, _⟩, _, apart, good => by
    obtain ⟨⟨own, first, ownGood⟩, later, others, laterGood⟩ := apart_split_fine all apart good
    exact ⟨defaults_every_node all parameters own first ownGood,
      block_every_node all body later others laterGood⟩

theorem block_every_node (all : Pervades fine check) :
    (b : Block) → (tokens : List Token) → Apart Any b.passages tokens → fine tokens →
    b.EveryNode (fun _ node => check node)
  | ⟨statements, _⟩, tokens, apart, good => statements_every_node all statements tokens apart good

theorem statements_every_node (all : Pervades fine check) :
    (ss : List Stmt) → (tokens : List Token) → Apart Any (statementPassages ss) tokens →
    fine tokens → everyStatementNode (fun _ node => check node) ss
  | [], _, _, _ => trivial
  | first :: rest, _, apart, good => by
    obtain ⟨⟨own, reads, ownGood⟩, later, others, laterGood⟩ := apart_split_fine all apart good
    exact ⟨statement_every_node all first own reads ownGood,
      statements_every_node all rest later others laterGood⟩

theorem else_ifs_every_node (all : Pervades fine check) :
    (bs : List ElseIf) → (tokens : List Token) → Apart Any (elseIfPassages bs) tokens →
    fine tokens → everyElseIfNode (fun _ node => check node) bs
  | [], _, _, _ => trivial
  | ⟨condition, body⟩ :: rest, _, apart, good => by
    obtain ⟨⟨test, reads, testGood⟩, later, others, laterGood⟩ := first_fine all apart good
    obtain ⟨⟨own, main, ownGood⟩, later, others, laterGood⟩ := apart_split_fine all others laterGood
    exact ⟨read_every_node all condition _ test reads testGood none,
      block_every_node all body own main ownGood,
        else_ifs_every_node all rest later others laterGood⟩

theorem otherwise_every_node (all : Pervades fine check) :
    (b : Option Block) → (tokens : List Token) → Apart Any (otherwisePassages b) tokens →
    fine tokens → everyOtherwiseNode (fun _ node => check node) b
  | none, _, _, _ => trivial
  | some block, tokens, apart, good => block_every_node all block tokens apart good

theorem print_every_node (all : Pervades fine check) :
    (items : List PrintItem) → (tokens : List Token) → Apart Any (printPassages items) tokens →
    fine tokens → everyPrintNode (fun _ node => check node) items
  | [], _, _, _ => trivial
  | .expression value :: rest, _, apart, good => by
    obtain ⟨⟨own, reads, ownGood⟩, later, others, laterGood⟩ := first_fine all apart good
    exact ⟨read_every_node all value _ own reads ownGood none,
      print_every_node all rest later others laterGood⟩
  | .zone :: rest, tokens, apart, good => print_every_node all rest tokens apart good
  | .join :: rest, tokens, apart, good => print_every_node all rest tokens apart good

theorem statement_every_node (all : Pervades fine check) :
    (s : Stmt) → (tokens : List Token) → Apart Any s.passages tokens → fine tokens →
    s.EveryNode (fun _ node => check node)
  | .expression value _, _, apart, good | .raise value _, _, apart, good
  | .step value _ _, _, apart, good => by
    obtain ⟨own, reads, ownGood⟩ := (first_fine all apart good).1
    exact read_every_node all value _ own reads ownGood none
  | .print items _, tokens, apart, good => print_every_node all items tokens apart good
  | .assign name value location, _, apart, good => by
    obtain ⟨own, plain | compound, ownGood⟩ := (apart_fine all apart good).1
    · obtain ⟨own, reads, ownGood⟩ := behind_plus_fine all plain ownGood
      exact read_every_node all value _ own reads ownGood _
    · exact read_every_node all value _ own compound
        (spanned_fine all value (List.infix_refl own) ownGood) _
  | .dim _ dimensions _, tokens, apart, good =>
    expressions_every_node all dimensions _ tokens apart good
  | .ifThen condition body elseIfs otherwise _, _, apart, good => by
    obtain ⟨⟨test, reads, testGood⟩, later, others, laterGood⟩ := first_fine all apart good
    obtain ⟨⟨own, main, ownGood⟩, later, others, laterGood⟩ := apart_split_fine all others laterGood
    obtain ⟨⟨branches, first, branchesGood⟩, last, second, lastGood⟩ :=
      apart_split_fine all others laterGood
    exact ⟨read_every_node all condition _ test reads testGood none,
      block_every_node all body own main ownGood,
      else_ifs_every_node all elseIfs branches first branchesGood,
        otherwise_every_node all otherwise last second lastGood⟩
  | .forTo counter start stop step body _, _, apart, good => by
    obtain ⟨⟨own, starts, ownGood⟩, later, others, laterGood⟩ := first_fine all apart good
    obtain ⟨⟨limits, bounds, limitsGood⟩, rest, main, restGood⟩ := apart_fine all others laterGood
    rcases bounds with both | ⟨plain, last, found, rfl⟩
    · obtain ⟨⟨upTo, stops, upToGood⟩, behind, single, behindGood⟩ := first_fine all both limitsGood
      obtain ⟨by_, steps, byGood⟩ := (first_fine all single behindGood).1
      exact ⟨read_every_node all start _ own starts ownGood none,
        read_every_node all stop _ upTo stops upToGood none,
          read_every_node all step _ by_ steps byGood none,
            block_every_node all body rest main restGood⟩
    · obtain ⟨upTo, stops, upToGood⟩ := behind_plus_fine all plain limitsGood
      obtain ⟨before, rfl⟩ := List.getLast?_eq_some_iff.1 found
      have lastGood : fine [last] := all.narrower _ _ ⟨before, [], by simp⟩ limitsGood
      exact ⟨read_every_node all start _ own starts ownGood none,
        read_every_node all stop _ upTo stops upToGood none, all.implied last lastGood,
          block_every_node all body rest main restGood⟩
  | .forEach _ value body _, _, apart, good | .whileDo value body _, _, apart, good => by
    obtain ⟨⟨own, reads, ownGood⟩, later, main, laterGood⟩ := first_fine all apart good
    exact ⟨read_every_node all value _ own reads ownGood none,
      block_every_node all body later main laterGood⟩
  | .declare _ function _, tokens, apart, good => function_every_node all function tokens apart good
  | .giveBack value _, tokens, apart, good => optional_every_node all value tokens apart good
  | .setMember object name value location, _, apart, good => by
    obtain ⟨own, plain | ⟨compound, place, op, right, _, shape⟩, ownGood⟩ :=
      (apart_fine all apart good).1
    · obtain ⟨⟨head, accessed, headGood⟩, later, others, laterGood⟩ := apart_fine all plain ownGood
      obtain ⟨last, reads, lastGood⟩ := (first_fine all others laterGood).1
      exact ⟨read_every_node all object _ head accessed
        (spanned_fine all object (List.infix_refl head) headGood) none,
          read_every_node all value _ last reads lastGood _⟩
    · have every := read_every_node all value _ own compound
          (spanned_fine all value (List.infix_refl own) ownGood)
      have target := every none
      rw [shape] at target
      exact ⟨target.2.1.2, every _⟩
  | .setIndex object index value location, _, apart, good => by
    obtain ⟨own, plain | ⟨compound, place, op, right, _, shape⟩, ownGood⟩ :=
      (apart_fine all apart good).1
    · obtain ⟨⟨head, accessed, headGood⟩, later, others, laterGood⟩ := apart_fine all plain ownGood
      obtain ⟨⟨place, given, placeGood⟩, later, others, laterGood⟩ :=
        first_fine all others laterGood
      obtain ⟨last, reads, lastGood⟩ := (first_fine all others laterGood).1
      have first : object.EveryNode (fun _ node => check node) none := by
        rcases accessed with closed | opened
        · exact read_every_node all object _ head closed
            (spanned_fine all object (List.infix_refl head) headGood) none
        · exact open_every_node all object head opened headGood
      exact ⟨first, read_every_node all index _ place given placeGood none,
        read_every_node all value _ last reads lastGood _⟩
    · have every := read_every_node all value _ own compound
          (spanned_fine all value (List.infix_refl own) ownGood)
      have target := every none
      rw [shape] at target
      exact ⟨target.2.1.2.1, target.2.1.2.2, every _⟩
  | .tryCatch body _ handler _, _, apart, good => by
    obtain ⟨⟨own, first, ownGood⟩, later, second, laterGood⟩ := apart_split_fine all apart good
    exact ⟨block_every_node all body own first ownGood,
      block_every_node all handler later second laterGood⟩
  | .block block, tokens, apart, good => block_every_node all block tokens apart good
  | .library _ _, _, _, _ | .goto _ _, _, _, _ | .label _ _, _, _, _ | .exitFor _, _, _, _
  | .exitWhile _, _, _, _
  | .endProgram _, _, _, _ | .stop _, _, _, _ => trivial

end

end

end BrightScript
