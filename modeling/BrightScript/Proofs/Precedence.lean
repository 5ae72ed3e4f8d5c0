import BrightScript.Proofs.Canonical
import BrightScript.Proofs.Reading
set_option autoImplicit false

/-!
Reading expressions back. From any spelling of a canonical tree, with nothing behind it that an
expression could go on with, the rules for expressions read that tree and stop right behind the
spelling. Each level of operators is a loop over operands, and so is a chain of accesses. A loop
that has read a whole expression may still go on, so the lemmas say in which state of the loop an
expression leaves it; only before a token that the loop does not take is that state's expression
what it returns.
-/

namespace BrightScript

def Lexeme.beginsPrimary : Lexeme → Bool
  | .identifier | .symbol .leftParen | .symbol .leftSquare | .symbol .leftBrace => true
  | kind => Parser.isLiteral kind

def Lexeme.beginsExpression : Lexeme → Bool
  | .symbol .minus | .word .not => true
  | kind => kind.beginsPrimary

def Lexeme.beginsAccess : Lexeme → Bool
  | .symbol .leftParen | .symbol .dot | .symbol .leftSquare => true
  | _ => false

def Lexeme.Continues (kind : Lexeme) : Prop :=
  kind.beginsAccess = true ∨ ∃ op : BinaryOp, kind = op.lexeme

theorem Expr.looseness_le (e : Expr) : e.looseness ≤ 7 := by
  cases e with
  | binary => exact Nat.sub_le 7 _
  | _ => exact Nat.zero_le 7

namespace Parser

theorem binary_op_lexeme (op : BinaryOp) : binaryOp? op.lexeme = some op := by
  cases op <;> rfl

theorem lexeme_of_binary_op {kind : Lexeme} {op : BinaryOp} (found : binaryOp? kind = some op) :
    kind = op.lexeme := by
  unfold binaryOp? at found
  split at found <;> cases found <;> rfl

structure Stops (n : Nat) (kind : Lexeme) : Prop where
  access : kind.beginsAccess = false
  operator : ∀ op, binaryOp? kind = some op → n < op.looseness

theorem stops_mono {n m : Nat} (tighter : n ≤ m) {kind : Lexeme} (stops : Stops m kind) :
    Stops n kind :=
  ⟨stops.access, fun op found => Nat.lt_of_le_of_lt tighter (stops.operator op found)⟩

theorem stops_operator {op : BinaryOp} {n : Nat} (looser : n < op.looseness) :
    Stops n op.lexeme := by
  refine ⟨by cases op <;> rfl, fun other found => ?_⟩
  rw [binary_op_lexeme] at found
  cases found
  exact looser

theorem stops_end {kind : Lexeme} (ends : ¬ kind.Continues) (n : Nat) : Stops n kind :=
  ⟨Bool.eq_false_iff.2 fun access => ends (.inl access),
    fun op found => absurd (.inr ⟨op, lexeme_of_binary_op found⟩) ends⟩

theorem stops_plain {kind : Lexeme} (access : kind.beginsAccess = false)
    (operator : binaryOp? kind = none) (n : Nat) : Stops n kind :=
  ⟨access, fun _ found => nomatch operator.symm.trans found⟩

def levelAt : Nat → Level
  | 0 => .power
  | 1 => .multiplicative
  | 2 => .additive
  | 3 => .shift
  | 4 => .relational
  | 5 => .and
  | _ => .or

def tier (g : Grammar) : Nat → Parse Expr
  | 0 => signed (chain g) g.bound
  | n + 1 => atLevel (levelAt n) g.bound (tier g n)

theorem expression_eq_tier (g : Grammar) : expression g = tier g 7 := rfl

theorem level_at_rank {n : Nat} (low : n < 7) : 7 - (levelAt n).rank = n + 1 := by
  revert n
  decide

theorem operator_at_own_level {op : BinaryOp} {n : Nat} (loose : op.looseness = n + 1) :
    operatorAt? (levelAt n) op.lexeme = some op := by
  have level : op.level = levelAt n := by
    obtain rfl : n = op.looseness - 1 := by omega
    cases op <;> rfl
  rw [operatorAt?, binary_op_lexeme, Option.filter_some, level, beq_self_eq_true, if_pos rfl]

theorem no_operator_at {n : Nat} (low : n < 7) {kind : Lexeme} (stops : Stops (n + 1) kind) :
    operatorAt? (levelAt n) kind = none := by
  cases found : operatorAt? (levelAt n) kind with
  | none => rfl
  | some op =>
    have loose := stops.operator op (Option.filter_eq_some_iff.1 found).1
    rw [BinaryOp.looseness, operator_at_level found, level_at_rank low] at loose
    exact absurd loose (Nat.lt_irrefl _)

-- What a loop has made of `tokens`: the expression so far, and how often it may still go round.
def Partway (g : Grammar) (e : Expr) (tokens : List Token) (state : Expr × Nat) : Prop :=
  state.1.unplaced = e.unplaced ∧ g.bound ≤ state.2 + tokens.length

abbrev AtAccess (g : Grammar) (state : Expr × Nat) : Parse Expr :=
  accesses g state.2 state.1

abbrev AtOperator (g : Grammar) (n : Nat) (state : Expr × Nat) : Parse Expr :=
  operands (levelAt n) (tier g n) state.2 state.1

variable {g : Grammar} {e : Expr} {tokens : List Token}

theorem operands_stop {n : Nat} (low : n < 7) (state : Expr × Nat) :
    Reads (AtOperator g n state) [] (Stops (n + 1)) (· = state.1) := by
  obtain ⟨left, rest⟩ := state
  cases rest with
  | zero => exact reads_pure left rfl
  | succ rest =>
    refine leads_peek_behind fun kind stops => ?_
    rw [no_operator_at low stops]
    exact reads_pure left rfl

theorem accesses_stop {n : Nat} (state : Expr × Nat) :
    Reads (AtAccess g state) [] (Stops n) (· = state.1) := by
  obtain ⟨head, rest⟩ := state
  cases rest with
  | zero => exact reads_pure head rfl
  | succ rest =>
    refine leads_peek_behind fun kind stops => ?_
    split
    · exact nomatch stops.access
    · exact nomatch stops.access
    · exact nomatch stops.access
    · exact reads_pure head rfl

theorem tier_enters {n : Nat}
    (reads : Reads (tier g n) tokens (Stops n) (·.unplaced = e.unplaced)) :
    Leads (tier g (n + 1)) tokens (Stops n) (AtOperator g n) (Partway g e tokens) := by
  refine leads_bind_end reads (fun first same => ?_) fun _ stops => stops
  exact leads_here (first, g.bound) rfl ⟨same, Nat.le_add_right _ _⟩

theorem tier_leaves {n : Nat} (low : n < 7)
    (leads : Leads (tier g (n + 1)) tokens (Stops n) (AtOperator g n) (Partway g e tokens)) :
    Reads (tier g (n + 1)) tokens (Stops (n + 1)) (·.unplaced = e.unplaced) := by
  refine leads_end leads (fun state partway => ?_) fun _ => stops_mono (Nat.le_succ n)
  exact leads_mono (operands_stop low state) fun read same => same ▸ partway.1

theorem tier_climbs {k : Nat} (reads : Reads (tier g k) tokens (Stops k) (·.unplaced = e.unplaced))
    (n : Nat) (looser : k ≤ n) (low : n ≤ 7) :
    Reads (tier g n) tokens (Stops n) (·.unplaced = e.unplaced) := by
  induction looser with
  | refl => exact reads
  | step _ ih => exact tier_leaves low (tier_enters (ih (Nat.le_of_lt low)))

structure Readable (g : Grammar) (e : Expr) (tokens : List Token) : Prop where
  starts : ∃ token rest, tokens = token :: rest ∧ token.kind.beginsExpression = true ∧
    (e.isChain = true → token.kind.beginsPrimary = true)
  inChain : e.isChain = true →
    Leads (chain g) tokens (fun _ => True) (AtAccess g) (Partway g e tokens)
  inSigned : e.looseness = 0 → ∀ bound, tokens.length ≤ bound →
    Reads (signed (chain g) bound) tokens (Stops 0) (·.unplaced = e.unplaced)
  inLevel : ∀ n, e.looseness ≤ n + 1 → n < 7 →
    Leads (tier g (n + 1)) tokens (Stops n) (AtOperator g n) (Partway g e tokens)
  inTier : ∀ n, e.looseness ≤ n → n ≤ 7 →
    Reads (tier g n) tokens (Stops n) (·.unplaced = e.unplaced)

theorem readable_of_signed (short : tokens.length ≤ g.bound)
    (starts : ∃ token rest, tokens = token :: rest ∧ token.kind.beginsExpression = true ∧
      (e.isChain = true → token.kind.beginsPrimary = true))
    (inChain : e.isChain = true →
      Leads (chain g) tokens (fun _ => True) (AtAccess g) (Partway g e tokens))
    (inSigned : ∀ bound, tokens.length ≤ bound →
      Reads (signed (chain g) bound) tokens (Stops 0) (·.unplaced = e.unplaced)) :
    Readable g e tokens := by
  have base : Reads (tier g 0) tokens (Stops 0) (·.unplaced = e.unplaced) := inSigned g.bound short
  exact
    { starts := starts
      inChain := inChain
      inSigned := fun _ => inSigned
      inLevel := fun n _ low => tier_enters (tier_climbs base n (Nat.zero_le n) (Nat.le_of_lt low))
      inTier := fun n _ low => tier_climbs base n (Nat.zero_le n) low }

theorem begins_expression {kind : Lexeme} (begins : kind.beginsPrimary = true) :
    kind.beginsExpression = true := by
  unfold Lexeme.beginsExpression
  split
  · rfl
  · rfl
  · exact begins

theorem signed_skips {operand : Parse Expr} {token : Token} {follows : Lexeme → Prop}
    {gives : Expr → Prop} (begins : token.kind.beginsPrimary = true) (bound : Nat)
    (reads : Reads operand (token :: tokens) follows gives) :
    Reads (signed operand bound) (token :: tokens) follows gives := by
  cases bound with
  | zero => exact reads
  | succ bound =>
    refine leads_peek_kind ?_
    generalize token.kind = kind at begins
    split
    · cases begins
    · cases begins
    · cases begins
    · exact reads

theorem readable_of_chain (short : tokens.length ≤ g.bound)
    (starts : ∃ token rest, tokens = token :: rest ∧ token.kind.beginsPrimary = true)
    (inChain : Leads (chain g) tokens (fun _ => True) (AtAccess g) (Partway g e tokens)) :
    Readable g e tokens := by
  obtain ⟨token, rest, rfl, begins⟩ := starts
  have reads : Reads (chain g) (token :: rest) (Stops 0) (·.unplaced = e.unplaced) := by
    refine leads_end inChain (fun state partway => ?_) fun _ _ => trivial
    exact leads_mono (accesses_stop state) fun read same => same ▸ partway.1
  exact readable_of_signed short
    ⟨token, rest, rfl, begins_expression begins, fun _ => begins⟩ (fun _ => inChain)
    fun bound _ => signed_skips begins bound reads

theorem readable_unary {op : UnaryOp} {operand : Expr} {location : Location} {sign : Token}
    (kind : sign.kind = op.lexeme) (tight : operand.looseness = 0)
    (short : (sign :: tokens).length ≤ g.bound) (inner : Readable g operand tokens) :
    Readable g (.unary op operand location) (sign :: tokens) := by
  have starts : sign.kind.beginsExpression = true := by
    rw [kind]
    cases op <;> rfl
  refine readable_of_signed short ⟨sign, tokens, rfl, starts, nofun⟩ nofun fun bound enough => ?_
  obtain ⟨bound, rfl⟩ : ∃ less, bound = less + 1 := ⟨bound - 1, by simp at enough; omega⟩
  have reads := inner.inSigned tight bound (by simpa using enough)
  refine leads_peek_kind ?_
  rw [kind]
  cases op with
  | negate =>
    refine leads_advance (leads_bind_end reads (fun read same => ?_) fun _ stops => stops)
    exact reads_pure _ (by simp only [Expr.unplaced, same])
  | not =>
    refine leads_advance (leads_bind_end reads (fun read same => ?_) fun _ stops => stops)
    exact reads_pure _ (by simp only [Expr.unplaced, same])

theorem operands_step {op : BinaryOp} {n : Nat} (loose : op.looseness = n + 1) {sign : Token}
    (kind : sign.kind = op.lexeme) {right : Expr}
    (reads : Reads (tier g n) tokens (Stops n) (·.unplaced = right.unplaced)) (left : Expr)
    (rest : Nat) :
    Leads (AtOperator g n (left, rest + 1)) (sign :: tokens) (Stops n) (AtOperator g n)
      fun state => ∃ read, read.unplaced = right.unplaced ∧
        state = (makeBinary left op read, rest) := by
  refine leads_peek_kind ?_
  rw [kind, operator_at_own_level loose]
  refine leads_advance (leads_bind_end reads (fun read same => ?_) fun _ stops => stops)
  exact leads_here (makeBinary left op read, rest) rfl ⟨read, same, rfl⟩

theorem readable_binary {left right : Expr} {op : BinaryOp} {location : Location}
    {before after : List Token} {sign : Token} (kind : sign.kind = op.lexeme)
    (grouped : left.looseness ≤ op.looseness ∧ right.looseness < op.looseness)
    (short : (before ++ sign :: after).length ≤ g.bound)
    (first : Readable g left before) (second : Readable g right after) :
    Readable g (.binary left op right location) (before ++ sign :: after) := by
  obtain ⟨n, loose, low⟩ : ∃ n, op.looseness = n + 1 ∧ n < 7 := by
    cases op <;> exact ⟨_, rfl, by decide⟩
  -- The left operand, even one of the same level, leaves the loop in front of the operator, which
  -- the loop takes; the right operand binds tighter, so the rule below reads all of it.
  have inLevel : Leads (tier g (n + 1)) (before ++ sign :: after) (Stops n) (AtOperator g n)
      (Partway g (.binary left op right location) (before ++ sign :: after)) := by
    have reads := second.inTier n (by omega) (Nat.le_of_lt low)
    refine leads_trans (first.inLevel n (by omega) low) (fun state partway => ?_)
      (ahead_cons (kind ▸ stops_operator (by omega)))
    obtain ⟨read, rest⟩ := state
    obtain ⟨same, enough⟩ := partway
    simp only [List.length_append, List.length_cons] at short enough
    obtain ⟨rest, rfl⟩ : ∃ less, rest = less + 1 := ⟨rest - 1, by omega⟩
    refine leads_mono (operands_step loose kind reads read rest) ?_
    rintro _ ⟨last, like, rfl⟩
    refine ⟨?_, ?_⟩
    · simp only [makeBinary, Expr.unplaced, same, like]
    · simp only [List.length_append, List.length_cons]
      omega
  have base := tier_leaves low inLevel
  obtain ⟨token, rest, rfl, begins, _⟩ := first.starts
  refine ⟨⟨token, _, rfl, begins, nofun⟩, nofun, fun tight => ?_, fun m loosest lower => ?_,
    fun m loosest lower => ?_⟩
  · exact absurd (loose.symm.trans tight) (Nat.succ_ne_zero n)
  · rw [Expr.looseness, loose] at loosest
    rcases Nat.eq_or_lt_of_le (Nat.le_of_succ_le_succ loosest) with rfl | looser
    · exact inLevel
    · exact tier_enters (tier_climbs base m looser (Nat.le_of_lt lower))
  · rw [Expr.looseness, loose] at loosest
    exact tier_climbs base m loosest lower

theorem readable_of_primary (short : tokens.length ≤ g.bound)
    (starts : ∃ token rest, tokens = token :: rest ∧ token.kind.beginsPrimary = true)
    (reads : Reads (primary g) tokens (fun _ => True) (·.unplaced = e.unplaced)) :
    Readable g e tokens := by
  refine readable_of_chain short starts
    (leads_bind_end reads (fun head same => ?_) fun _ _ => trivial)
  exact leads_here (head, g.bound) rfl ⟨same, Nat.le_add_right _ _⟩

theorem readable_access {object : Expr} {head access : List Token}
    (short : (head ++ access).length ≤ g.bound) (first : Readable g object head)
    (chained : object.isChain = true) (some : access ≠ [])
    (step : ∀ read rest, read.unplaced = object.unplaced →
      Leads (accesses g (rest + 1) read) access (fun _ => True) (AtAccess g)
        fun state => state.1.unplaced = e.unplaced ∧ state.2 = rest) :
    Readable g e (head ++ access) := by
  have starts : ∃ token rest, head ++ access = token :: rest ∧ token.kind.beginsPrimary = true := by
    obtain ⟨token, rest, rfl, _, primary⟩ := first.starts
    exact ⟨token, rest ++ access, rfl, primary chained⟩
  refine readable_of_chain short starts
    (leads_trans (first.inChain chained) (fun state partway => ?_) fun _ _ _ => trivial)
  obtain ⟨read, rest⟩ := state
  obtain ⟨same, enough⟩ := partway
  have taken := List.length_pos_iff.2 some
  simp only [List.length_append] at short enough
  obtain ⟨rest, rfl⟩ : ∃ less, rest = less + 1 := ⟨rest - 1, by omega⟩
  refine leads_mono (step read rest same) fun state reached => ⟨reached.1, ?_⟩
  rw [reached.2, List.length_append]
  omega

theorem readable_literal {value : Scalar} {location : Location} {token : Token} (room : 1 ≤ g.bound)
    (kind : token.kind = value.lexeme) (denotes : token.literal = some value) :
    Readable g (.literal value location) [token] := by
  have literal : Reads
      (do let _ ← advance; pure (.literal (token.literal.getD .invalid) token.location))
      [token] (fun _ => True) (Expr.unplaced · = .literal value .internal) :=
    leads_advance (reads_pure _ (by rw [denotes]; rfl))
  have begins : token.kind.beginsPrimary = true := by
    rw [kind]
    rcases value with _ | (_ | _) | _ | _ | _ | _ | _ <;> rfl
  refine readable_of_primary room ⟨token, [], rfl, begins⟩ (leads_peek ?_)
  rw [kind]
  rcases value with _ | (_ | _) | _ | _ | _ | _ | _ <;> exact literal

theorem readable_variable {name : String} {location : Location} {token : Token} (room : 1 ≤ g.bound)
    (kind : token.kind = .identifier) (named : token.text = name) :
    Readable g (.variable name location) [token] := by
  refine readable_of_primary room ⟨token, [], rfl, by rw [kind]; rfl⟩ (leads_peek ?_)
  rw [kind]
  exact leads_advance (reads_pure _ (by rw [named]; rfl))

def Recoverable (e : Expr) (tokens : List Token) : Prop :=
  ∀ bound depth, tokens.length ≤ bound → tokens.length ≤ depth →
    Readable (grammar bound depth) e tokens

def Grammar.Recovers (g : Grammar) (limit : Nat) : Prop :=
  ∀ e tokens, Recoverable e tokens → tokens.length ≤ limit →
    Reads g.expression tokens (Stops 7) (·.unplaced = e.unplaced)

theorem grammar_recovers {bound depth limit : Nat} (wide : limit ≤ bound) (deep : limit ≤ depth) :
    (grammar bound (depth + 1)).Recovers limit := by
  intro e tokens recoverable short
  have readable := recoverable bound depth (Nat.le_trans short wide) (Nat.le_trans short deep)
  exact readable.inTier 7 e.looseness_le (Nat.le_refl 7)

theorem recoverable_starts (recoverable : Recoverable e tokens) :
    ∃ token rest, tokens = token :: rest ∧ token.kind.beginsExpression = true := by
  obtain ⟨token, rest, shape, begins, _⟩ := (recoverable _ _ (Nat.le_refl _) (Nat.le_refl _)).starts
  exact ⟨token, rest, shape, begins⟩

variable {limit : Nat}

theorem readable_grouping {inner : Expr} {location : Location} {opening closing : Token}
    (recovers : g.Recovers limit) (short : (opening :: (tokens ++ [closing])).length ≤ g.bound)
    (opens : opening.kind = .symbol .leftParen) (nested : Recoverable inner tokens)
    (few : tokens.length ≤ limit) (closes : closing.kind = .symbol .rightParen) :
    Readable g (.grouping inner location) (opening :: (tokens ++ [closing])) := by
  refine readable_of_primary short ⟨opening, _, rfl, by rw [opens]; rfl⟩ (leads_peek ?_)
  rw [opens]
  refine leads_advance (leads_bind (recovers inner tokens nested few) (fun read same => ?_)
    (ahead_cons (closes ▸ stops_plain rfl rfl 7)))
  refine leads_consume closes (leads_span fun location => ?_)
  exact reads_pure _ (by simp only [Expr.unplaced, same])

theorem member_name_reads {name : String} {word : Token} (named : word.NamesMember name) :
    Reads memberName [word] (fun _ => True) (· = name) := by
  refine leads_peek ?_
  have word : (word.kind == .identifier || word.kind.isKeyword) = true := by
    simpa using named.1
  rw [if_pos word]
  exact leads_advance (reads_pure _ named.2)

theorem readable_member {object : Expr} {name : String} {location : Location} {dot word : Token}
    {head : List Token} (short : (head ++ [dot, word]).length ≤ g.bound)
    (first : Readable g object head) (chained : object.isChain = true)
    (kind : dot.kind = .symbol .dot) (named : word.NamesMember name) :
    Readable g (.member object name location) (head ++ [dot, word]) := by
  refine readable_access short first chained (List.cons_ne_nil _ _) fun read rest same => ?_
  refine leads_peek_kind ?_
  rw [kind]
  refine leads_advance
    (leads_bind_end (member_name_reads named) (fun text like => ?_) fun _ _ => trivial)
  refine leads_span fun location => leads_here (.member read text location, rest) rfl ⟨?_, rfl⟩
  simp only [Expr.unplaced, same, like]

theorem readable_index {object index : Expr} {location : Location} {opening closing : Token}
    {head : List Token} (recovers : g.Recovers limit)
    (short : (head ++ opening :: (tokens ++ [closing])).length ≤ g.bound)
    (first : Readable g object head) (chained : object.isChain = true)
    (opens : opening.kind = .symbol .leftSquare) (place : Recoverable index tokens)
    (few : tokens.length ≤ limit) (closes : closing.kind = .symbol .rightSquare) :
    Readable g (.index object index location) (head ++ opening :: (tokens ++ [closing])) := by
  refine readable_access short first chained (List.cons_ne_nil _ _) fun read rest same => ?_
  obtain ⟨bound, more⟩ : ∃ less, g.bound = less + 1 := ⟨g.bound - 1, by simp at short; omega⟩
  have once : Reads (indices g g.bound read) tokens (· = .symbol .rightSquare)
      fun indexed => ∃ value location, value.unplaced = index.unplaced ∧
        indexed = .index read value location := by
    rw [more]
    refine leads_bind_end (recovers index tokens place few) (fun value like => ?_)
      fun kind closing => closing ▸ stops_plain rfl rfl 7
    refine leads_span fun location => leads_accept_fails (ahead_nil fun kind closing => ?_) ?_
    · rw [closing]
      exact nofun
    · exact reads_pure _ ⟨value, location, like, rfl⟩
  refine leads_peek_kind ?_
  rw [opens]
  refine leads_advance (leads_bind once (fun indexed made => ?_) (ahead_cons closes))
  obtain ⟨value, location, like, rfl⟩ := made
  refine leads_consume closes (leads_here (.index read value location, rest) rfl ⟨?_, rfl⟩)
  simp only [Expr.unplaced, same, like]

theorem begins_open {kind : Lexeme} (begins : kind.beginsExpression = true) :
    kind ≠ .symbol .rightParen ∧ kind ≠ .symbol .rightSquare ∧ kind ≠ .newline := by
  refine ⟨?_, ?_, ?_⟩ <;> rintro rfl <;> cases begins

theorem recoverable_not_empty (e : Expr) (tokens : List Token)
    (recoverable : Recoverable e tokens) : tokens ≠ [] := by
  obtain ⟨token, rest, rfl, _⟩ := recoverable_starts recoverable
  exact List.cons_ne_nil token rest

theorem arguments_read {values : List Expr} {closing : Token} (recovers : g.Recovers limit)
    (given : Separated Recoverable values tokens) (few : tokens.length ≤ limit)
    (short : tokens.length ≤ g.bound) (closes : closing.kind = .symbol .rightParen) :
    Reads (arguments g) (tokens ++ [closing]) (fun _ => True)
      (·.map Expr.unplaced = values.map Expr.unplaced) := by
  have ending (read : List Expr) (same : read.map Expr.unplaced = values.map Expr.unplaced) :
      Reads (do let _ ← consume (.symbol .rightParen) "')' after arguments"; pure read : Parse _)
        [closing] (fun _ => True) (·.map Expr.unplaced = values.map Expr.unplaced) :=
    leads_consume closes (reads_pure read same)
  cases values with
  | nil =>
    cases given
    exact leads_check_passes (ahead_cons closes) (ending [] rfl)
  | cons first rest =>
    have enough := Nat.le_trans (separated_length recoverable_not_empty given) short
    have listed : Reads (commaList g.expression g.bound) tokens (· = .symbol .rightParen)
        (·.map Expr.unplaced = (first :: rest).map Expr.unplaced) := by
      refine comma_list_reads recovers (stops_plain rfl rfl 7) (fun kind closing => ?_) given
        (List.cons_ne_nil _ _) few g.bound enough
      rw [closing]
      exact ⟨stops_plain rfl rfl 7, nofun⟩
    obtain ⟨token, others, rfl, begins⟩ := separated_starts
      (p := fun kind => kind.beginsExpression = true) (fun _ _ => recoverable_starts) given
    refine leads_check_fails (ahead_cons (begins_open begins).1) ?_
    exact leads_bind listed ending (ahead_cons closes)

theorem readable_call {callee : Expr} {values : List Expr} {location : Location}
    {opening closing : Token} {head : List Token} (recovers : g.Recovers limit)
    (short : (head ++ opening :: (tokens ++ [closing])).length ≤ g.bound)
    (first : Readable g callee head) (chained : callee.isChain = true)
    (opens : opening.kind = .symbol .leftParen) (given : Separated Recoverable values tokens)
    (few : tokens.length ≤ limit) (closes : closing.kind = .symbol .rightParen) :
    Readable g (.call callee values location) (head ++ opening :: (tokens ++ [closing])) := by
  refine readable_access short first chained (List.cons_ne_nil _ _) fun read rest same => ?_
  simp only [List.length_append, List.length_cons] at short
  refine leads_peek_kind ?_
  rw [opens]
  refine leads_advance (leads_bind_end (arguments_read recovers given few (by omega) closes)
    (fun passed like => ?_) fun _ _ => trivial)
  refine leads_span fun location => leads_here (.call read passed location, rest) rfl ⟨?_, rfl⟩
  simp only [Expr.unplaced, unplaced_all_eq, same, like]

theorem literal_items_read {γ : Type} {spelled : γ → List Token → Prop} {item : Parse γ} {f : γ → γ}
    {items : List γ} {close : Symbol} {what : String} {start : Location} {closing : Token}
    (make : List γ → Location → Expr) (ends : Stops 7 (.symbol close)) (closable : close ≠ .comma)
    (reads : ∀ c tokens, spelled c tokens → tokens.length ≤ limit →
      Reads item tokens (Stops 7) (f · = f c))
    (starts : ∀ c tokens, spelled c tokens → ∃ token rest, tokens = token :: rest ∧
      token.kind ≠ .symbol close ∧ token.kind ≠ .newline)
    (listed : Separated spelled items tokens) (few : tokens.length ≤ limit)
    (closes : closing.kind = .symbol close) (bound : Nat) (short : tokens.length ≤ bound) :
    Reads
      (do
        skipNewlines
        let values ← itemsUntil close item bound
        let _ ← consume (.symbol close) what
        let location ← spanFrom start
        pure (make values location))
      (tokens ++ [closing]) (fun _ => True)
      fun e => ∃ values location, values.map f = items.map f ∧ e = make values location := by
  have nonempty (c : γ) (part : List Token) (spelledPart : spelled c part) : part ≠ [] := by
    obtain ⟨token, rest, rfl, _⟩ := starts c part spelledPart
    exact List.cons_ne_nil token rest
  have sameLine : Ahead (tokens ++ [closing]) (fun _ => True) (· ≠ .newline) := by
    cases items with
    | nil =>
      cases listed
      exact ahead_cons (by rw [closes]; exact nofun)
    | cons first rest =>
      obtain ⟨token, others, rfl, _, sameLine⟩ := separated_starts
        (p := fun kind => kind ≠ .symbol close ∧ kind ≠ .newline) starts listed
      exact ahead_cons sameLine
  have enough := Nat.le_trans (separated_length nonempty listed) short
  refine leads_skip_newlines sameLine (leads_bind (items_until_reads reads starts
    (stops_plain rfl rfl 7) ends closable listed few bound enough) (fun values same => ?_)
    (ahead_cons closes))
  refine leads_consume closes (leads_span fun location => ?_)
  exact reads_pure _ ⟨values, location, same, rfl⟩

theorem readable_array {elements : List Expr} {location : Location} {opening closing : Token}
    (recovers : g.Recovers limit) (short : (opening :: (tokens ++ [closing])).length ≤ g.bound)
    (opens : opening.kind = .symbol .leftSquare) (listed : Separated Recoverable elements tokens)
    (few : tokens.length ≤ limit) (closes : closing.kind = .symbol .rightSquare) :
    Readable g (.array elements location) (opening :: (tokens ++ [closing])) := by
  have starts (e : Expr) (part : List Token) (recoverable : Recoverable e part) : ∃ token rest,
      part = token :: rest ∧ token.kind ≠ .symbol .rightSquare ∧ token.kind ≠ .newline := by
    obtain ⟨token, rest, shape, begins⟩ := recoverable_starts recoverable
    exact ⟨token, rest, shape, (begins_open begins).2⟩
  refine readable_of_primary short ⟨opening, _, rfl, by rw [opens]; rfl⟩ (leads_peek ?_)
  rw [opens]
  have ends : Stops 7 (.symbol .rightSquare) := stops_plain rfl rfl 7
  refine leads_advance
    (leads_mono (literal_items_read .array ends nofun recovers starts listed few closes
    g.bound ?_) ?_)
  · simp only [List.length_append, List.length_cons] at short
    omega
  · rintro _ ⟨values, location, same, rfl⟩
    simp only [Expr.unplaced, unplaced_all_eq, same]

inductive RecoverableMember : Member → List Token → Prop
  | mk {name : String} {value : Expr} {location : Location} {key colon : Token}
      {tokens : List Token} (named : key.NamesKey name) (kind : colon.kind = .symbol .colon)
      (recoverable : Recoverable value tokens) :
      RecoverableMember ⟨name, value, location⟩ (key :: colon :: tokens)

theorem member_key_names {key : Token} {name : String} (named : key.NamesKey name) :
    memberKey? key = some name := by
  obtain ⟨kind, text, literal, location⟩ := key
  rcases named with ⟨word, rfl⟩ | ⟨rfl, rfl⟩
  · rcases word with rfl | word
    · rfl
    · cases kind with
      | word => rfl
      | _ => cases word
  · rfl

theorem member_key_open {key : Token} {name : String} (named : key.NamesKey name) :
    key.kind ≠ .symbol .rightBrace ∧ key.kind ≠ .newline := by
  rcases named with ⟨same | word, _⟩ | ⟨same, _⟩
  · rw [same]
    exact ⟨nofun, nofun⟩
  · refine ⟨?_, ?_⟩ <;> intro same <;> rw [same] at word <;> cases word
  · rw [same]
    exact ⟨nofun, nofun⟩

theorem table_member_reads (recovers : g.Recovers limit) (m : Member) (tokens : List Token)
    (recoverable : RecoverableMember m tokens) (few : tokens.length ≤ limit) :
    Reads (tableMember g) tokens (Stops 7) (Member.unplaced · = m.unplaced) := by
  obtain ⟨named, kind, nested⟩ := recoverable
  simp only [List.length_cons] at few
  refine leads_peek ?_
  rw [member_key_names named]
  refine leads_advance (leads_consume kind ?_)
  refine leads_bind_end (recovers _ _ nested (by omega)) (fun read same => ?_) fun _ stops => stops
  exact leads_span fun location => reads_pure _ (by simp only [Member.unplaced, same])

theorem readable_table {members : List Member} {location : Location} {opening closing : Token}
    (recovers : g.Recovers limit) (short : (opening :: (tokens ++ [closing])).length ≤ g.bound)
    (opens : opening.kind = .symbol .leftBrace)
    (listed : Separated RecoverableMember members tokens) (few : tokens.length ≤ limit)
    (closes : closing.kind = .symbol .rightBrace) :
    Readable g (.table members location) (opening :: (tokens ++ [closing])) := by
  have starts (m : Member) (part : List Token) (recoverable : RecoverableMember m part) :
      ∃ token rest, part = token :: rest ∧ token.kind ≠ .symbol .rightBrace ∧
        token.kind ≠ .newline := by
    obtain ⟨named, _, _⟩ := recoverable
    exact ⟨_, _, rfl, member_key_open named⟩
  refine readable_of_primary short ⟨opening, _, rfl, by rw [opens]; rfl⟩ (leads_peek ?_)
  rw [opens]
  have ends : Stops 7 (.symbol .rightBrace) := stops_plain rfl rfl 7
  refine leads_advance
    (leads_mono (literal_items_read .table ends nofun (table_member_reads recovers)
    starts listed few closes g.bound ?_) ?_)
  · simp only [List.length_append, List.length_cons] at short
    omega
  · rintro _ ⟨values, location, same, rfl⟩
    simp only [Expr.unplaced, unplaced_members_eq, same]

theorem grammar_wide {bound limit : Nat} (wide : limit ≤ bound) (depth : Nat) :
    limit ≤ (grammar bound depth).bound := by
  cases depth <;> exact wide

theorem recoverable_inside
    (inside : ∀ bound depth, tokens.length ≤ bound → tokens.length ≤ depth + 1 →
    (grammar bound (depth + 1)).Recovers (tokens.length - 1) →
    Readable (grammar bound (depth + 1)) e tokens) (some : tokens ≠ []) : Recoverable e tokens := by
  intro bound depth wide deep
  have taken := List.length_pos_iff.2 some
  obtain ⟨depth, rfl⟩ : ∃ less, depth = less + 1 := ⟨depth - 1, by omega⟩
  exact inside bound depth wide deep (grammar_recovers (by omega) (by omega))

mutual

-- By recursion on the spelling. Each case asks of the node only what being canonical says of it.
theorem spelled_recoverable {e : Expr} {tokens : List Token} :
    e.SpelledBy tokens → e.Canonical → Recoverable e tokens
  | .literal kind denotes, _ => fun _ depth wide _ =>
    readable_literal (grammar_wide wide depth) kind denotes
  | .variable kind named, _ => fun _ depth wide _ =>
    readable_variable (grammar_wide wide depth) kind named
  | .unary kind inner, canonical => fun bound depth wide deep => by
    have nested := spelled_recoverable inner canonical.2 bound depth (Nat.le_of_succ_le wide)
      (Nat.le_of_succ_le deep)
    exact readable_unary kind canonical.1 (grammar_wide wide depth) nested
  | .binary first kind second, canonical => fun bound depth wide deep => by
    simp only [List.length_append, List.length_cons] at wide deep
    have left := spelled_recoverable first canonical.2.1 bound depth (by omega) (by omega)
    have right := spelled_recoverable second canonical.2.2 bound depth (by omega) (by omega)
    refine readable_binary kind canonical.1 (grammar_wide ?_ depth) left right
    simp only [List.length_append, List.length_cons]
    omega
  | .grouping opens spelled closes, canonical => by
    have nested := spelled_recoverable spelled canonical.2
    refine recoverable_inside (fun bound depth wide deep recovers => ?_) (List.cons_ne_nil _ _)
    exact readable_grouping recovers wide opens nested (by simp) closes
  | .member accessed kind named, canonical => fun bound depth wide deep => by
    simp only [List.length_append, List.length_cons] at wide deep
    have head := spelled_recoverable accessed canonical.2 bound depth (by omega) (by omega)
    refine readable_member (grammar_wide ?_ depth) head canonical.1 kind named
    simp only [List.length_append, List.length_cons]
    omega
  | .call called opens given closes, canonical => by
    have head := spelled_recoverable called canonical.2.1
    have nested := separated_recoverable given canonical.2.2
    refine recoverable_inside (fun bound depth wide deep recovers => ?_) (by simp)
    refine readable_call recovers wide (head bound _ ?_ ?_) canonical.1 opens nested ?_ closes
    all_goals
      simp only [List.length_append, List.length_cons] at wide deep ⊢
      omega
  | .index accessed opens place closes, canonical => by
    have head := spelled_recoverable accessed canonical.2.1
    have nested := spelled_recoverable place canonical.2.2
    refine recoverable_inside (fun bound depth wide deep recovers => ?_) (by simp)
    refine readable_index recovers wide (head bound _ ?_ ?_) canonical.1 opens nested ?_ closes
    all_goals
      simp only [List.length_append, List.length_cons] at wide deep ⊢
      omega
  | .array opens items closes, canonical => by
    have nested := separated_recoverable items canonical.2
    refine recoverable_inside (fun bound depth wide deep recovers => ?_) (List.cons_ne_nil _ _)
    exact readable_array recovers wide opens nested (by simp) closes
  | .table opens items closes, canonical => by
    have nested := separated_recoverable_members items (every_member_node.1 canonical.2)
    refine recoverable_inside (fun bound depth wide deep recovers => ?_) (List.cons_ne_nil _ _)
    exact readable_table recovers wide opens nested (by simp) closes

theorem separated_recoverable {es : List Expr} {tokens : List Token} :
    Separated Expr.SpelledBy es tokens → everyNodeIn (fun _ node => node.Grouped) es →
      Separated Recoverable es tokens
  | .none, _ => .none
  | .last item, canonical => .last (spelled_recoverable item canonical.1)
  | .more item between later, canonical =>
    .more (spelled_recoverable item canonical.1) between (separated_recoverable later canonical.2)

theorem separated_recoverable_members {ms : List Member} {tokens : List Token} :
    Separated Member.SpelledBy ms tokens → (∀ m ∈ ms, m.value.Canonical) →
      Separated RecoverableMember ms tokens
  | .none, _ => .none
  | .last item, canonical => .last (member_recoverable item (canonical _ List.mem_cons_self))
  | .more item between later, canonical =>
    .more (member_recoverable item (canonical _ List.mem_cons_self)) between
      (separated_recoverable_members later fun m among =>
        canonical m (List.mem_cons_of_mem _ among))

theorem member_recoverable {m : Member} {tokens : List Token} :
    m.SpelledBy tokens → m.value.Canonical → RecoverableMember m tokens
  | .mk named kind spelled, canonical => .mk named kind (spelled_recoverable spelled canonical)

end

end Parser

/-- The operator grammar is realised exactly. Every tree without functions has a spelling. From any
spelling of a canonical tree, followed by a token that no expression goes on with, the tree is read
back up to locations, and reading stops right before that token. Conversely every tree that is read
is canonical at every node, but for the values that compound assignments in the bodies of functions
store. A plain assignment stores what was read behind its sign. -/
theorem expressions_follow_precedence :
    (∀ e : Expr, e.everyFunction passNone = true → e.SpelledBy e.rendered) ∧
    (∀ (e : Expr) (tokens : List Token), e.Canonical → e.SpelledBy tokens →
      ∀ bound depth, tokens.length ≤ bound → tokens.length ≤ depth →
      ∀ behind previous finish errors, ¬ (behind.headD finish).kind.Continues →
        ∃ read, read.unplaced = e.unplaced ∧
          Parser.expression (Parser.grammar bound depth)
            ⟨tokens ++ behind, previous, finish, errors⟩ =
            .ok read ⟨behind, tokens.getLastD previous, finish, errors⟩) ∧
    (∀ bound depth cursor e after,
      Parser.expression (Parser.grammar bound depth) cursor = .ok e after →
        e.CanonicalBeforeCompounds) ∧
    ∀ bound depth cursor target atSign sign rest statement after,
      let g := Parser.grammar bound depth
      Parser.chain g cursor = .ok target atSign → atSign.rest = sign :: rest →
        sign.kind = .symbol .equal →
        Parser.expressionStatement g cursor = .ok statement after →
          ∃ value, Parser.expression g { atSign with rest := rest, previous := sign } =
            .ok value after ∧
            statement.stored? = some value ∧ value.CanonicalBeforeCompounds := by
  refine ⟨rendered_spells, ?_, ?_, ?_⟩
  · intro e tokens canonical spelled bound depth wide deep behind previous finish errors ends
    have readable := Parser.spelled_recoverable spelled canonical bound depth wide deep
    have reads := readable.inTier 7 e.looseness_le (Nat.le_refl 7)
    rw [← Parser.expression_eq_tier] at reads
    exact reads behind previous finish errors (Parser.stops_end ends 7)
  · intro bound depth cursor e after read
    exact Parser.expression_sound (Parser.grammar_sound bound depth) cursor e after read
  · intro bound depth cursor target atSign sign rest statement after g chained ahead plain read
    obtain ⟨value, valued, stored⟩ := Parser.plain_assignment_reads chained ahead plain read
    exact ⟨value, valued, stored, Parser.expression_sound
      (Parser.grammar_sound bound depth) _ _ _ valued⟩

-- `-x[0] ^ 2 - (1 - n) * m.print(y, [])`
def mixedOperators : Expr :=
  .binary
    (.binary
      (.unary .negate (.index (.variable "x" .internal) (.literal (.integer 0) .internal) .internal)
      .internal) .power (.literal (.integer 2) .internal) .internal)
    .subtract
    (.binary
      (.grouping (.binary (.literal (.integer 1) .internal) .subtract (.variable "n" .internal)
      .internal) .internal) .multiply
      (.call (.member (.variable "m" .internal) "print" .internal)
        [.variable "y" .internal, .array [] .internal] .internal) .internal)
    .internal

-- `x = x - 1`
def plainAssignment : List Token :=
  [nameToken "x", (Lexeme.symbol .equal).token, nameToken "x", (Lexeme.symbol .minus).token,
    ⟨.integer, "1", some (.integer 1), .internal⟩]

theorem mixed_operators_read_back :
    mixedOperators.everyFunction passNone = true ∧ mixedOperators.Canonical ∧
      ∃ read, read.unplaced = mixedOperators.unplaced ∧ read.CanonicalBeforeCompounds ∧
        Parser.expression (Parser.grammar 30 30)
            ⟨mixedOperators.rendered ++ [(Lexeme.word .then_).token], default, default, []⟩ =
          .ok read ⟨[(Lexeme.word .then_).token], (Lexeme.symbol .rightParen).token, default, []⟩ ∧
      ∃ statement after value,
        Parser.expressionStatement (Parser.grammar 5 5) (.start plainAssignment) =
          .ok statement after ∧
          statement.stored? = some value ∧ value.CanonicalBeforeCompounds := by
  have canonical : mixedOperators.Canonical := by
    simp [mixedOperators, Expr.Canonical, Expr.EveryNode, everyNodeIn, Expr.Grouped, Expr.isChain,
      Expr.looseness, BinaryOp.looseness, BinaryOp.level, Level.rank]
  obtain ⟨spells, reads, sound, plain⟩ := expressions_follow_precedence
  have ends : ¬ (Lexeme.word .then_).Continues := by
    rintro (access | ⟨op, same⟩)
    · cases access
    · cases op <;> cases same
  obtain ⟨read, same, reached⟩ := reads mixedOperators _ canonical (spells _ rfl) 30 30 (by decide)
    (by decide) [(Lexeme.word .then_).token] default default [] ends
  obtain ⟨statement, after, stored⟩ : ∃ statement after,
      Parser.expressionStatement (Parser.grammar 5 5) (.start plainAssignment) =
        .ok statement after := ⟨_, _, rfl⟩
  obtain ⟨value, -, kept, valueSound⟩ := plain 5 5 _ _ _ _ _ _ _ rfl rfl rfl stored
  exact ⟨rfl, canonical, read, same, sound _ _ _ _ _ reached, reached, statement, after, value,
    stored, kept, valueSound⟩

-- A function whose body is `x -= 1 - 2`.
def compoundBody : List Token :=
  [(Lexeme.word .function).token, (Lexeme.symbol .leftParen).token,
    (Lexeme.symbol .rightParen).token, Lexeme.newline.token, nameToken "x",
    (Lexeme.symbol .minusEqual).token, ⟨.integer, "1", some (.integer 1), .internal⟩,
    (Lexeme.symbol .minus).token, ⟨.integer, "2", some (.integer 2), .internal⟩,
    Lexeme.newline.token, (Lexeme.word .endFunction).token]

theorem compound_body_not_canonical : ∃ read after,
    Parser.expression (Parser.grammar 11 11) (.start compoundBody) = .ok read after ∧
      ¬ read.Canonical := by
  refine ⟨_, _, rfl, ?_⟩
  rintro ⟨_, _, ⟨⟨_, tighter⟩, _⟩, _⟩
  exact absurd tighter (by decide)

end BrightScript
