import BrightScript.Token
import BrightScript.Proofs.Functions
set_option autoImplicit false

namespace BrightScript

def BinaryOp.lexeme : BinaryOp → Lexeme
  | .or => .word .or
  | .and => .word .and
  | .equal => .symbol .equal
  | .notEqual => .symbol .lessGreater
  | .less => .symbol .less
  | .lessEqual => .symbol .lessEqual
  | .greater => .symbol .greater
  | .greaterEqual => .symbol .greaterEqual
  | .leftShift => .symbol .leftShift
  | .rightShift => .symbol .rightShift
  | .add => .symbol .plus
  | .subtract => .symbol .minus
  | .multiply => .symbol .star
  | .divide => .symbol .slash
  | .integerDivide => .symbol .backslash
  | .modulo => .word .mod
  | .power => .symbol .caret

def UnaryOp.lexeme : UnaryOp → Lexeme
  | .negate => .symbol .minus
  | .not => .word .not

def Scalar.lexeme : Scalar → Lexeme
  | .invalid => .word .invalid
  | .boolean true => .word .true
  | .boolean false => .word .false
  | .string _ => .string
  | .integer _ => .integer
  | .longInteger _ => .longInteger
  | .float _ => .float
  | .double _ => .double

def Token.NamesMember (token : Token) (name : String) : Prop :=
  (token.kind = .identifier ∨ token.kind.isKeyword = true) ∧ token.text = name

def Token.NamesKey (token : Token) (name : String) : Prop :=
  token.NamesMember name ∨ token.kind = .string ∧ token.literal = some (.string name)

inductive Separated {γ : Type} (spelled : γ → List Token → Prop) : List γ → List Token → Prop
  | none : Separated spelled [] []
  | last {c : γ} {tokens : List Token} (item : spelled c tokens) : Separated spelled [c] tokens
  | more {c d : γ} {rest : List γ} {first others : List Token} {comma : Token}
      (item : spelled c first) (between : comma.kind = .symbol .comma)
      (later : Separated spelled (d :: rest) others) :
      Separated spelled (c :: d :: rest) (first ++ comma :: others)

mutual

inductive Expr.SpelledBy : Expr → List Token → Prop
  | literal {value : Scalar} {location : Location} {token : Token}
      (kind : token.kind = value.lexeme) (denotes : token.literal = some value) :
      Expr.SpelledBy (.literal value location) [token]
  | «variable» {name : String} {location : Location} {token : Token}
      (kind : token.kind = .identifier) (named : token.text = name) :
      Expr.SpelledBy (.variable name location) [token]
  | binary {left right : Expr} {op : BinaryOp} {location : Location} {before after : List Token}
      {sign : Token} (first : Expr.SpelledBy left before) (kind : sign.kind = op.lexeme)
      (second : Expr.SpelledBy right after) :
      Expr.SpelledBy (.binary left op right location) (before ++ sign :: after)
  | unary {op : UnaryOp} {operand : Expr} {location : Location} {sign : Token} {tokens : List Token}
      (kind : sign.kind = op.lexeme) (inner : Expr.SpelledBy operand tokens) :
      Expr.SpelledBy (.unary op operand location) (sign :: tokens)
  | grouping {inner : Expr} {location : Location} {opening closing : Token} {tokens : List Token}
      (opens : opening.kind = .symbol .leftParen) (spelled : Expr.SpelledBy inner tokens)
      (closes : closing.kind = .symbol .rightParen) :
      Expr.SpelledBy (.grouping inner location) (opening :: (tokens ++ [closing]))
  | call {callee : Expr} {arguments : List Expr} {location : Location} {opening closing : Token}
      {head tokens : List Token} (called : Expr.SpelledBy callee head)
      (opens : opening.kind = .symbol .leftParen)
      (given : Separated Expr.SpelledBy arguments tokens)
      (closes : closing.kind = .symbol .rightParen) :
      Expr.SpelledBy (.call callee arguments location) (head ++ opening :: (tokens ++ [closing]))
  | member {object : Expr} {name : String} {location : Location} {dot word : Token}
      {head : List Token} (accessed : Expr.SpelledBy object head) (kind : dot.kind = .symbol .dot)
      (named : word.NamesMember name) :
      Expr.SpelledBy (.member object name location) (head ++ [dot, word])
  | index {object index : Expr} {location : Location} {opening closing : Token}
      {head tokens : List Token} (accessed : Expr.SpelledBy object head)
      (opens : opening.kind = .symbol .leftSquare) (place : Expr.SpelledBy index tokens)
      (closes : closing.kind = .symbol .rightSquare) :
      Expr.SpelledBy (.index object index location) (head ++ opening :: (tokens ++ [closing]))
  | array {elements : List Expr} {location : Location} {opening closing : Token}
      {tokens : List Token} (opens : opening.kind = .symbol .leftSquare)
      (items : Separated Expr.SpelledBy elements tokens)
      (closes : closing.kind = .symbol .rightSquare) :
      Expr.SpelledBy (.array elements location) (opening :: (tokens ++ [closing]))
  | table {members : List Member} {location : Location} {opening closing : Token}
      {tokens : List Token} (opens : opening.kind = .symbol .leftBrace)
      (items : Separated Member.SpelledBy members tokens)
      (closes : closing.kind = .symbol .rightBrace) :
      Expr.SpelledBy (.table members location) (opening :: (tokens ++ [closing]))

inductive Member.SpelledBy : Member → List Token → Prop
  | mk {name : String} {value : Expr} {location : Location} {key colon : Token}
      {tokens : List Token} (named : key.NamesKey name) (kind : colon.kind = .symbol .colon)
      (spelled : Expr.SpelledBy value tokens) :
      Member.SpelledBy ⟨name, value, location⟩ (key :: colon :: tokens)

end

def Lexeme.token (kind : Lexeme) : Token :=
  ⟨kind, "", none, .internal⟩

def nameToken (name : String) : Token :=
  ⟨.identifier, name, none, .internal⟩

def enclosed (opening closing : Symbol) (inner : List Token) : List Token :=
  (Lexeme.symbol opening).token :: (inner ++ [(Lexeme.symbol closing).token])

mutual

def Expr.rendered : Expr → List Token
  | .literal value _ => [⟨value.lexeme, "", some value, .internal⟩]
  | .variable name _ => [nameToken name]
  | .binary left op right _ => left.rendered ++ op.lexeme.token :: right.rendered
  | .unary op operand _ => op.lexeme.token :: operand.rendered
  | .grouping inner _ => enclosed .leftParen .rightParen inner.rendered
  | .call callee arguments _ =>
    callee.rendered ++ enclosed .leftParen .rightParen (renderedAll arguments)
  | .member object name _ => object.rendered ++ [(Lexeme.symbol .dot).token, nameToken name]
  | .index object index _ => object.rendered ++ enclosed .leftSquare .rightSquare index.rendered
  | .array elements _ => enclosed .leftSquare .rightSquare (renderedAll elements)
  | .table members _ => enclosed .leftBrace .rightBrace (renderedMembers members)
  | .function _ => []

def renderedAll : List Expr → List Token
  | [] => []
  | [last] => last.rendered
  | first :: next :: rest =>
    first.rendered ++ (Lexeme.symbol .comma).token :: renderedAll (next :: rest)

def renderedMembers : List Member → List Token
  | [] => []
  | [last] => last.rendered
  | first :: next :: rest =>
    first.rendered ++ (Lexeme.symbol .comma).token :: renderedMembers (next :: rest)

def Member.rendered : Member → List Token
  | ⟨name, value, _⟩ => nameToken name :: (Lexeme.symbol .colon).token :: value.rendered

end

def passNone (_ : Function) : Bool := false

theorem name_token_names (name : String) : (nameToken name).NamesMember name :=
  ⟨.inl rfl, rfl⟩

mutual

theorem rendered_spells : (e : Expr) → e.everyFunction passNone = true → e.SpelledBy e.rendered
  | .literal _ _, _ => .literal rfl rfl
  | .variable _ _, _ => .variable rfl rfl
  | .binary left _ right _, free => by
    simp only [Expr.everyFunction, Bool.and_eq_true] at free
    exact .binary (rendered_spells left free.1) rfl (rendered_spells right free.2)
  | .unary _ operand _, free => .unary rfl (rendered_spells operand free)
  | .grouping inner _, free => .grouping rfl (rendered_spells inner free) rfl
  | .call callee arguments _, free => by
    simp only [Expr.everyFunction, Bool.and_eq_true] at free
    exact .call (rendered_spells callee free.1) rfl (rendered_all_spells arguments free.2) rfl
  | .member object name _, free => .member (rendered_spells object free) rfl (name_token_names name)
  | .index object index _, free => by
    simp only [Expr.everyFunction, Bool.and_eq_true] at free
    exact .index (rendered_spells object free.1) rfl (rendered_spells index free.2) rfl
  | .array elements _, free => .array rfl (rendered_all_spells elements free) rfl
  | .table members _, free => .table rfl (rendered_members_spells members free) rfl
  | .function function, free => by
    simp [Expr.everyFunction, Function.every_function_iff, passNone] at free

theorem rendered_all_spells : (es : List Expr) → everyFunctionIn passNone es = true →
    Separated Expr.SpelledBy es (renderedAll es)
  | [], _ => .none
  | [last], free => by
    simp only [everyFunctionIn, Bool.and_eq_true] at free
    exact .last (rendered_spells last free.1)
  | first :: next :: rest, free => by
    rw [everyFunctionIn, Bool.and_eq_true] at free
    exact .more (rendered_spells first free.1) rfl (rendered_all_spells (next :: rest) free.2)

theorem rendered_members_spells : (ms : List Member) → everyMemberFunction passNone ms = true →
    Separated Member.SpelledBy ms (renderedMembers ms)
  | [], _ => .none
  | [⟨name, value, _⟩], free => by
    simp only [everyMemberFunction, Bool.and_eq_true] at free
    exact .last (.mk (.inl (name_token_names name)) rfl (rendered_spells value free.1))
  | ⟨name, value, _⟩ :: next :: rest, free => by
    rw [everyMemberFunction, Bool.and_eq_true] at free
    exact .more (.mk (.inl (name_token_names name)) rfl (rendered_spells value free.1)) rfl
      (rendered_members_spells (next :: rest) free.2)

end

end BrightScript
