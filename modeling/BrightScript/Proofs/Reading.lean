import BrightScript.Tree.Cursor
import BrightScript.Proofs.Spelling
set_option autoImplicit false

namespace BrightScript

namespace Parser

variable {α β γ : Type}

-- Reading `tokens`, the rule `x` comes to `next` with an expected value, where `follows` is said of
-- the token behind.
def Leads (x : Parse α) (tokens : List Token) (follows : Lexeme → Prop) (next : β → Parse α)
    (gives : β → Prop) : Prop :=
  ∀ behind previous finish errors, follows (behind.headD finish).kind →
    ∃ b, gives b ∧ x ⟨tokens ++ behind, previous, finish, errors⟩ =
      next b ⟨behind, tokens.getLastD previous, finish, errors⟩

abbrev Reads (x : Parse α) (tokens : List Token) (follows : Lexeme → Prop) (gives : α → Prop) :
    Prop :=
  Leads x tokens follows pure gives

-- What holds of the first token, be it one of these or the one behind them.
def Ahead (tokens : List Token) (follows ahead : Lexeme → Prop) : Prop :=
  ∀ behind finish, follows (List.headD behind finish).kind →
    ahead ((tokens ++ behind).headD finish).kind

variable {x : Parse α} {follows ahead : Lexeme → Prop} {tokens later : List Token} {token : Token}
  {next : β → Parse α} {gives : β → Prop}

theorem ahead_nil (weaker : ∀ kind, follows kind → ahead kind) : Ahead [] follows ahead :=
  fun _ _ fits => weaker _ fits

theorem ahead_cons (holds : ahead token.kind) : Ahead (token :: tokens) follows ahead :=
  fun _ _ _ => holds

theorem leads_here (b : β) (reached : x = next b) (expected : gives b) :
    Leads x [] follows next gives :=
  fun _ _ _ _ _ => ⟨b, expected, by rw [reached]; rfl⟩

theorem reads_pure {gives : α → Prop} (a : α) (expected : gives a) :
    Reads (pure a) [] follows gives :=
  leads_here a rfl expected

theorem leads_mono {passes : β → Prop} (leads : Leads x tokens follows next passes)
    (weaker : ∀ b, passes b → gives b) : Leads x tokens follows next gives := by
  intro behind previous finish errors holds
  obtain ⟨b, passed, reached⟩ := leads behind previous finish errors holds
  exact ⟨b, weaker b passed, reached⟩

theorem leads_trans {middle : γ → Parse α} {passes : γ → Prop}
    (first : Leads x tokens ahead middle passes)
    (rest : ∀ c, passes c → Leads (middle c) later follows next gives)
    (fits : Ahead later follows ahead) : Leads x (tokens ++ later) follows next gives := by
  intro behind previous finish errors holds
  obtain ⟨c, passed, reached⟩ :=
    first (later ++ behind) previous finish errors (fits behind finish holds)
  obtain ⟨b, given, ended⟩ := rest c passed behind (tokens.getLastD previous) finish errors holds
  refine ⟨b, given, ?_⟩
  rw [List.append_assoc, reached, ended]
  cases later with
  | nil => simp
  | cons token later => simp [List.getLastD_eq_getLast?, List.getLast?_append]

theorem leads_end {middle : γ → Parse α} {passes : γ → Prop}
    (first : Leads x tokens ahead middle passes)
    (rest : ∀ c, passes c → Leads (middle c) [] follows next gives)
    (weaker : ∀ kind, follows kind → ahead kind) : Leads x tokens follows next gives := by
  have whole := leads_trans first rest (ahead_nil weaker)
  rwa [List.append_nil] at whole

theorem leads_of_reads {y : Parse γ} {f : γ → Parse α} {passes : γ → Prop}
    (reads : Reads y tokens follows passes) : Leads (y >>= f) tokens follows f passes := by
  intro behind previous finish errors holds
  obtain ⟨c, passed, reached⟩ := reads behind previous finish errors holds
  refine ⟨c, passed, ?_⟩
  change EStateM.bind y f _ = _
  unfold EStateM.bind
  rw [reached]
  rfl

theorem leads_bind {y : Parse γ} {f : γ → Parse α} {passes : γ → Prop}
    (first : Reads y tokens ahead passes)
    (rest : ∀ c, passes c → Leads (f c) later follows next gives)
    (fits : Ahead later follows ahead) : Leads (y >>= f) (tokens ++ later) follows next gives :=
  leads_trans (leads_of_reads first) rest fits

theorem leads_bind_end {y : Parse γ} {f : γ → Parse α} {passes : γ → Prop}
    (first : Reads y tokens ahead passes) (rest : ∀ c, passes c → Leads (f c) [] follows next gives)
    (weaker : ∀ kind, follows kind → ahead kind) : Leads (y >>= f) tokens follows next gives :=
  leads_end (leads_of_reads first) rest weaker

theorem leads_advance {f : Token → Parse α} (rest : Leads (f token) tokens follows next gives) :
    Leads (advance >>= f) (token :: tokens) follows next gives := by
  intro behind previous finish errors holds
  obtain ⟨b, given, ended⟩ := rest behind token finish errors holds
  refine ⟨b, given, ?_⟩
  rw [List.getLastD_cons, ← ended]
  rfl

theorem leads_look {y : Parse γ} {f : γ → Parse α} (looks : ∀ cursor, ∃ c, y cursor = .ok c cursor)
    (rest : ∀ c, Leads (f c) tokens follows next gives) :
    Leads (y >>= f) tokens follows next gives := by
  intro behind previous finish errors holds
  obtain ⟨c, looked⟩ := looks ⟨tokens ++ behind, previous, finish, errors⟩
  obtain ⟨b, given, ended⟩ := rest c behind previous finish errors holds
  refine ⟨b, given, ?_⟩
  change EStateM.bind y f _ = _
  unfold EStateM.bind
  rw [looked]
  exact ended

theorem leads_span {start : Location} {f : Location → Parse α}
    (rest : ∀ location, Leads (f location) tokens follows next gives) :
    Leads (spanFrom start >>= f) tokens follows next gives :=
  leads_look (fun _ => ⟨_, rfl⟩) rest

theorem leads_peek {f : Token → Parse α}
    (rest : Leads (f token) (token :: tokens) follows next gives) :
    Leads (peek >>= f) (token :: tokens) follows next gives :=
  rest

theorem leads_peek_kind {f : Lexeme → Parse α}
    (rest : Leads (f token.kind) (token :: tokens) follows next gives) :
    Leads (peekKind >>= f) (token :: tokens) follows next gives :=
  rest

theorem leads_peek_behind {f : Lexeme → Parse α}
    (rest : ∀ kind, follows kind → Leads (f kind) [] (· = kind) next gives) :
    Leads (peekKind >>= f) [] follows next gives :=
  fun behind previous finish errors holds => rest _ holds behind previous finish errors rfl

theorem leads_check_passes {kind : Lexeme} {f : Bool → Parse α}
    (same : Ahead tokens follows (· = kind)) (rest : Leads (f true) tokens follows next gives) :
    Leads (check kind >>= f) tokens follows next gives := by
  intro behind previous finish errors holds
  obtain ⟨b, given, ended⟩ := rest behind previous finish errors holds
  refine ⟨b, given, ?_⟩
  rw [← ended]
  change f (((tokens ++ behind).headD finish).kind == kind) _ = _
  rw [same behind finish holds, beq_self_eq_true]

theorem leads_check_fails {kind : Lexeme} {f : Bool → Parse α}
    (differs : Ahead tokens follows (· ≠ kind)) (rest : Leads (f false) tokens follows next gives) :
    Leads (check kind >>= f) tokens follows next gives := by
  intro behind previous finish errors holds
  obtain ⟨b, given, ended⟩ := rest behind previous finish errors holds
  refine ⟨b, given, ?_⟩
  rw [← ended]
  change f (((tokens ++ behind).headD finish).kind == kind) _ = _
  rw [beq_false_of_ne (differs behind finish holds)]

theorem accept_bind (kind : Lexeme) (f : Bool → Parse α) :
    accept kind >>= f = check kind >>= fun found =>
      if found = true then advance >>= fun _ => f true else f false := by
  simp only [accept, bind_assoc]
  congr 1
  funext found
  cases found <;> simp

theorem leads_accept_passes {kind : Lexeme} {f : Bool → Parse α} (same : token.kind = kind)
    (rest : Leads (f true) tokens follows next gives) :
    Leads (accept kind >>= f) (token :: tokens) follows next gives := by
  rw [accept_bind]
  exact leads_check_passes (ahead_cons same) (leads_advance rest)

theorem leads_accept_fails {kind : Lexeme} {f : Bool → Parse α}
    (differs : Ahead tokens follows (· ≠ kind)) (rest : Leads (f false) tokens follows next gives) :
    Leads (accept kind >>= f) tokens follows next gives := by
  rw [accept_bind]
  exact leads_check_fails differs rest

theorem leads_consume {kind : Lexeme} {what : String} {f : Token → Parse α}
    (same : token.kind = kind) (rest : Leads (f token) tokens follows next gives) :
    Leads (consume kind what >>= f) (token :: tokens) follows next gives := by
  have whole : Leads (check kind >>= fun found =>
      (if found = true then advance else failExpected what) >>= f)
      (token :: tokens) follows next gives :=
    leads_check_passes (ahead_cons same) (leads_advance rest)
  rwa [← bind_assoc] at whole

theorem leads_skip_newlines {f : Unit → Parse α} (none : Ahead tokens follows (· ≠ .newline))
    (rest : Leads (f ()) tokens follows next gives) :
    Leads (skipNewlines >>= f) tokens follows next gives := by
  intro behind previous finish errors holds
  obtain ⟨b, given, ended⟩ := rest behind previous finish errors holds
  refine ⟨b, given, ?_⟩
  rw [← ended]
  have stays : (tokens ++ behind).takeWhile (fun token => token.kind == .newline) = [] := by
    have first := none behind finish holds
    generalize tokens ++ behind = ahead at first
    cases ahead with
    | nil => rfl
    | cons head rest => exact List.takeWhile_cons_of_neg (by simpa using first)
  change f () ⟨(tokens ++ behind).drop (List.takeWhile _ _).length, _, finish, errors⟩ = _
  rw [stays]
  rfl

section

variable {spelled : γ → List Token → Prop} {item : Parse γ} {f : γ → γ} {items : List γ}
  {limit : Nat} {close : Symbol}

theorem separated_starts {c : γ} {p : Lexeme → Prop}
    (starts : ∀ c tokens, spelled c tokens → ∃ token rest, tokens = token :: rest ∧ p token.kind)
    (separated : Separated spelled (c :: items) tokens) :
    ∃ token rest, tokens = token :: rest ∧ p token.kind := by
  cases separated with
  | last item => exact starts c tokens item
  | more item _ _ =>
    obtain ⟨token, rest, rfl, holds⟩ := starts c _ item
    exact ⟨token, rest ++ _, rfl, holds⟩

theorem separated_length (starts : ∀ c tokens, spelled c tokens → tokens ≠ [])
    (separated : Separated spelled items tokens) : items.length ≤ tokens.length := by
  induction separated with
  | none => exact Nat.le_refl 0
  | last item => exact List.length_pos_iff.2 (starts _ _ item)
  | more _ _ _ ih =>
    simp only [List.length_append, List.length_cons] at ih ⊢
    omega

theorem comma_list_reads
    (reads : ∀ c tokens, spelled c tokens → tokens.length ≤ limit →
      Reads item tokens ahead (f · = f c))
    (atComma : ahead (.symbol .comma))
    (behind : ∀ kind, follows kind → ahead kind ∧ kind ≠ .symbol .comma)
    (separated : Separated spelled items tokens) (some : items ≠ []) (short : tokens.length ≤ limit)
    (bound : Nat) (enough : items.length ≤ bound) :
    Reads (commaList item bound) tokens follows (·.map f = items.map f) := by
  induction separated generalizing bound with
  | none => exact absurd rfl some
  | @last c tokens spelledLast =>
    obtain ⟨bound, rfl⟩ : ∃ less, bound = less + 1 := ⟨bound - 1, by simp at enough; omega⟩
    refine leads_bind_end (reads c tokens spelledLast short) (fun value same => ?_)
      fun kind fits => (behind kind fits).1
    refine leads_accept_fails (ahead_nil fun kind fits => (behind kind fits).2) ?_
    exact reads_pure [value] (by simpa using same)
  | @more c d rest first others comma spelledFirst isComma _ ih =>
    obtain ⟨bound, rfl⟩ : ∃ less, bound = less + 1 := ⟨bound - 1, by simp at enough; omega⟩
    simp only [List.length_append, List.length_cons] at short
    refine leads_bind (reads c first spelledFirst (by omega)) (fun value same => ?_)
      (ahead_cons (isComma ▸ atComma))
    refine leads_accept_passes isComma ?_
    have whole := ih (List.cons_ne_nil d rest) (by omega) bound (by simpa using enough)
    refine leads_bind_end whole (fun values like => ?_) fun _ fits => fits
    exact reads_pure (value :: values) (by simp [same, like])

theorem items_until_closed (bound : Nat) :
    Reads (itemsUntil close item bound) [] (· = .symbol close) (· = []) := by
  cases bound with
  | zero => exact reads_pure [] rfl
  | succ bound =>
    refine leads_check_passes (ahead_nil fun _ same => same) ?_
    exact reads_pure [] rfl

theorem items_until_reads
    (reads : ∀ c tokens, spelled c tokens → tokens.length ≤ limit →
      Reads item tokens ahead (f · = f c))
    (starts : ∀ c tokens, spelled c tokens → ∃ token rest, tokens = token :: rest ∧
      token.kind ≠ .symbol close ∧ token.kind ≠ .newline)
    (atComma : ahead (.symbol .comma)) (atClose : ahead (.symbol close)) (closes : close ≠ .comma)
    (separated : Separated spelled items tokens) (short : tokens.length ≤ limit) (bound : Nat)
    (enough : items.length ≤ bound) :
    Reads (itemsUntil close item bound) tokens (· = .symbol close) (·.map f = items.map f) := by
  induction separated generalizing bound with
  | none => exact leads_mono (items_until_closed bound) fun _ none => by rw [none]
  | @last c tokens spelledLast =>
    obtain ⟨bound, rfl⟩ : ∃ less, bound = less + 1 := ⟨bound - 1, by simp at enough; omega⟩
    obtain ⟨token, others, rfl, open_, _⟩ := starts c tokens spelledLast
    refine leads_check_fails (ahead_cons open_) ?_
    refine leads_bind_end (reads c _ spelledLast short) (fun value same => ?_)
      fun kind closing => closing ▸ atClose
    refine leads_accept_fails (ahead_nil fun kind closing => by simp [closing, closes]) ?_
    refine leads_skip_newlines (ahead_nil fun kind closing => by simp [closing]) ?_
    refine leads_look (fun _ => ⟨_, rfl⟩) fun last => ?_
    split
    · refine leads_bind_end (items_until_closed bound) (fun values none => ?_) fun _ fits => fits
      exact reads_pure (value :: values) (by simp [none, same])
    · exact reads_pure [value] (by simpa using same)
  | @more c d rest first others comma spelledFirst isComma later ih =>
    obtain ⟨bound, rfl⟩ : ∃ less, bound = less + 1 := ⟨bound - 1, by simp at enough; omega⟩
    simp only [List.length_append, List.length_cons] at short
    have whole := ih (by omega) bound (by simpa using enough)
    obtain ⟨token, firstRest, rfl, open_, _⟩ := starts c first spelledFirst
    obtain ⟨start, laterRest, rfl, _, sameLine⟩ :=
      separated_starts (p := fun kind => kind ≠ .symbol close ∧ kind ≠ .newline) starts later
    refine leads_check_fails (ahead_cons open_) ?_
    refine leads_bind (reads c _ spelledFirst (by omega)) (fun value same => ?_)
      (ahead_cons (isComma ▸ atComma))
    refine leads_accept_passes isComma ?_
    refine leads_skip_newlines (ahead_cons sameLine) ?_
    refine leads_look (fun _ => ⟨_, rfl⟩) fun last => ?_
    refine leads_bind_end whole (fun values like => ?_) fun _ fits => fits
    exact reads_pure (value :: values) (by simp [same, like])

end

end Parser

end BrightScript
