import BrightScript.Proofs.Passages
import BrightScript.Proofs.Progress
import BrightScript.Proofs.Recovery
set_option autoImplicit false

namespace BrightScript

namespace Parser

variable {α β : Type}

structure Cursor.Took (c : Cursor) (taken : List Token) (next : Cursor) : Prop where
  reads : c.rest = taken ++ next.rest
  previous : next.previous = taken.getLastD c.previous
  finish : next.finish = c.finish

-- Behind the tokens `before` and with fewer than `limit` tokens ahead, of which `ahead` says what
-- comes first, the rule returns what `gives` says of all tokens read by then.
def Takes (limit : Nat) (ahead : Token → Prop) (before : List Token) (x : Parse α)
    (gives : α → Passage) : Prop :=
  ∀ c a next, c.rest.length < limit → c.finish.kind = .eof → ahead c.next →
    before.getLastD c.previous = c.previous →
    x c = .ok a next → ∃ taken, c.Took taken next ∧ gives a (before ++ taken)

abbrev Finds (limit : Nat) (x : Parse α) (parts : α → List Passage) : Prop :=
  Takes limit Any [] x fun a tokens => Apart Any (parts a) tokens

def Found (before : List Token) (ps : List Passage) : Passage := fun tokens =>
  ∃ inner, tokens = before ++ inner ∧ Apart Any ps inner

theorem found_nothing (before : List Token) : Found before [] before :=
  ⟨[], by simp, fun _ _ => trivial⟩

theorem Found.apart {ps : List Passage} {tokens : List Token} (found : Found [] ps tokens) :
    Apart Any ps tokens := by
  obtain ⟨inner, rfl, apart⟩ := found
  exact apart

theorem Found.append {before own tokens : List Token} {ps qs : List Passage}
    (found : Found before ps tokens) (apart : Apart Any qs own) :
    Found before (ps ++ qs) (tokens ++ own) := by
  obtain ⟨inner, rfl, first⟩ := found
  exact ⟨inner ++ own, List.append_assoc _ _ _, apart_append first apart⟩

theorem Cursor.Took.refl (c : Cursor) : c.Took [] c :=
  ⟨rfl, rfl, rfl⟩

theorem get_last_append (before taken : List Token) (token : Token) :
    (before ++ taken).getLastD token = taken.getLastD (before.getLastD token) := by
  simp only [List.getLastD_eq_getLast?, List.getLast?_append]
  cases taken.getLast? <;> simp

theorem Cursor.Took.trans {c middle next : Cursor} {taken more : List Token}
    (first : c.Took taken middle) (second : middle.Took more next) :
    c.Took (taken ++ more) next where
  reads := by rw [first.reads, second.reads, List.append_assoc]
  previous := by rw [second.previous, first.previous, get_last_append]
  finish := second.finish.trans first.finish

theorem Cursor.Took.onward {c next : Cursor} (onward : Onward c next) :
    ∃ taken, c.Took taken next := by
  obtain ⟨taken, reads, previous⟩ := onward.reads
  exact ⟨taken, reads, previous, onward.finish⟩

theorem Cursor.Took.last {c next : Cursor} {before taken : List Token} (took : c.Took taken next)
    (behind : before.getLastD c.previous = c.previous) :
    (before ++ taken).getLastD next.previous = next.previous := by
  rw [get_last_append, took.previous]
  cases taken with
  | nil => exact behind
  | cons token rest => rw [List.getLastD_cons, List.getLastD_cons]

theorem skip_while_took (accepted : Lexeme → Bool) (c : Cursor) :
    ∃ gap, c.Took gap (finalState (skipWhile accepted c)) ∧
      ∀ token ∈ gap, accepted token.kind = true := by
  obtain ⟨rest, previous, finish, errors⟩ := c
  induction rest generalizing previous with
  | nil => exact ⟨[], .refl _, fun _ member => absurd member List.not_mem_nil⟩
  | cons token rest ih =>
    rw [skip_while_cons]
    split
    · rename_i admitted
      obtain ⟨gap, took, skipped⟩ := ih token
      have first : Cursor.Took ⟨token :: rest, previous, finish, errors⟩ [token]
          ⟨rest, token, finish, errors⟩ :=
        ⟨rfl, rfl, rfl⟩
      exact ⟨token :: gap, first.trans took, List.forall_mem_cons.2 ⟨admitted, skipped⟩⟩
    · exact ⟨[], .refl _, fun _ member => absurd member List.not_mem_nil⟩

namespace Takes

variable {limit : Nat} {ahead : Token → Prop} {before : List Token} {x : Parse α} {k : α → Parse β}
  {gives gave : α → Passage} {ends : β → Passage}

theorem mono {less : Nat} {narrower : Token → Prop} (takes : Takes limit ahead before x gave)
    (fewer : less ≤ limit) (narrow : ∀ token, narrower token → ahead token)
    (weaker : ∀ a tokens, gave a tokens → gives a tokens) : Takes less narrower before x gives := by
  intro c a next short isEnd fits behind ran
  obtain ⟨taken, took, given⟩ :=
    takes c a next (Nat.lt_of_lt_of_le short fewer) isEnd (narrow _ fits) behind ran
  exact ⟨taken, took, weaker a _ given⟩

theorem anywhere (takes : Takes limit Any before x gives) : Takes limit ahead before x gives :=
  takes.mono (Nat.le_refl _) (fun _ _ => trivial) fun _ _ given => given

theorem gives_mono (takes : Takes limit ahead before x gave)
    (weaker : ∀ a tokens, gave a tokens → gives a tokens) : Takes limit ahead before x gives :=
  takes.mono (Nat.le_refl _) (fun _ fits => fits) weaker

theorem frame (takes : Takes limit ahead [] x gives) (before : List Token) :
    Takes limit ahead before x fun a tokens => ∃ own, tokens = before ++ own ∧ gives a own := by
  intro c a next short isEnd fits _ ran
  obtain ⟨taken, took, given⟩ := takes c a next short isEnd fits rfl ran
  exact ⟨taken, took, taken, rfl, given⟩

protected theorem pure (a : α) (given : gives a before) :
    Takes limit ahead before (pure a) gives := by
  intro c b next _ _ _ _ ran
  cases ran
  exact ⟨[], .refl c, by simpa using given⟩

theorem bind_within (first : Takes limit ahead before x gave)
    (rest : ∀ a taken, gave a (before ++ taken) →
      Takes (limit - taken.length) Any (before ++ taken) (k a) ends) :
    Takes limit ahead before (x >>= k) ends := by
  intro c b last short isEnd fits behind ran
  rw [bind_run] at ran
  cases middle : x c with
  | error e next => simp [middle] at ran
  | ok a next =>
    rw [middle] at ran
    obtain ⟨taken, took, given⟩ := first c a next short isEnd fits behind middle
    have shorter : next.rest.length < limit - taken.length := by
      have length := congrArg List.length took.reads
      rw [List.length_append] at length
      omega
    obtain ⟨more, tookMore, ended⟩ :=
      rest a taken given next b last shorter (took.finish ▸ isEnd) trivial (took.last behind) ran
    exact ⟨taken ++ more, took.trans tookMore, by rwa [← List.append_assoc]⟩

theorem bind (first : Takes limit ahead before x gave)
    (rest : ∀ a tokens, gave a tokens → Takes limit Any tokens (k a) ends) :
    Takes limit ahead before (x >>= k) ends :=
  first.bind_within fun a _ given =>
    (rest a _ given).mono (Nat.sub_le _ _) (fun _ fits => fits) fun _ _ given => given

theorem map {f : α → β} (takes : Takes limit ahead before x gave)
    (turns : ∀ a tokens, gave a tokens → ends (f a) tokens) :
    Takes limit ahead before (f <$> x) ends := by
  rw [← bind_pure_comp]
  exact takes.bind fun a _ given => .pure _ (turns a _ given)

theorem look {see : Parse α} (sight : Cursor → α) (seen : α → Token → Prop)
    (looks : ∀ c, see c = .ok (sight c) c) (shown : ∀ c, ahead c.next → seen (sight c) c.next)
    (rest : ∀ a, Takes limit (seen a) before (k a) ends) :
    Takes limit ahead before (see >>= k) ends := by
  intro c b next short isEnd fits behind ran
  rw [bind_run, looks] at ran
  exact rest (sight c) c b next short isEnd (shown c fits) behind ran

theorem peek {k : Token → Parse β} (rest : ∀ token, Takes limit (· = token) before (k token) ends) :
    Takes limit ahead before (Parser.peek >>= k) ends :=
  look Cursor.next (fun shown token => token = shown) (fun _ => rfl) (fun _ _ => rfl) rest

theorem peek_kind {k : Lexeme → Parse β}
    (rest : ∀ kind, Takes limit (·.kind = kind) before (k kind) ends) :
    Takes limit ahead before (Parser.peekKind >>= k) ends :=
  look Cursor.nextKind (fun shown token => token.kind = shown) (fun _ => rfl) (fun _ _ => rfl) rest

theorem second_kind {k : Lexeme → Parse β} (rest : ∀ kind, Takes limit ahead before (k kind) ends) :
    Takes limit ahead before (Parser.secondKind >>= k) ends :=
  look (fun c => ((c.rest.drop 1).headD c.finish).kind) (fun _ => ahead) (fun _ => rfl)
    (fun _ fits => fits) rest

theorem previous {k : Token → Parse β} (rest : ∀ token, Takes limit ahead before (k token) ends) :
    Takes limit ahead before (Parser.previous >>= k) ends :=
  look Cursor.previous (fun _ => ahead) (fun _ => rfl) (fun _ fits => fits) rest

theorem check {kind : Lexeme} {k : Bool → Parse β}
    (found : Takes limit (·.kind = kind) before (k true) ends)
    (missing : Takes limit ahead before (k false) ends) :
    Takes limit ahead before (Parser.check kind >>= k) ends := by
  refine look (fun c => c.nextKind == kind)
    (fun same token => ahead token ∧ (same = true → token.kind = kind))
    (fun _ => rfl) (fun _ fits => ⟨fits, fun same => eq_of_beq same⟩) fun same => ?_
  cases same with
  | true => exact found.mono (Nat.le_refl _) (fun _ fits => fits.2 rfl) fun _ _ given => given
  | false => exact missing.mono (Nat.le_refl _) (fun _ fits => fits.1) fun _ _ given => given

theorem last {k : Token → Parse β} (nonempty : before ≠ [])
    (rest : ∀ last, before.getLast? = some last → Takes limit ahead before (k last) ends) :
    Takes limit ahead before (Parser.previous >>= k) ends := by
  intro c b next short isEnd fits behind ran
  have last : before.getLast? = some c.previous := by
    rw [List.getLastD_eq_getLast?, List.getLast?_eq_some_getLast nonempty] at behind
    rw [List.getLast?_eq_some_getLast nonempty]
    exact congrArg some behind
  exact rest c.previous last c b next short isEnd fits behind ran

theorem span_from {start : Location} {k : Location → Parse β} (nonempty : before ≠ [])
    (rest : ∀ last, before.getLast? = some last →
      Takes limit ahead before (k (start.through last.location)) ends) :
    Takes limit ahead before (Parser.spanFrom start >>= k) ends :=
  last (k := fun token => k (start.through token.location)) nonempty rest

theorem fail_at (cause : ParseFault) (location : Location) :
    Takes limit ahead before (failAt cause location) gives :=
  fun _ _ _ _ _ _ _ ran => nomatch ran

theorem fail (cause : ParseFault) : Takes limit ahead before (Parser.fail cause) gives :=
  fun _ _ _ _ _ _ _ ran => nomatch ran

theorem fail_expected (what : String) : Takes limit ahead before (failExpected what) gives :=
  fun _ _ _ _ _ _ _ ran => nomatch ran

theorem advance (inside : ∀ token, ahead token → token.kind ≠ .eof) :
    Takes limit ahead before Parser.advance fun token tokens => ahead token ∧
      tokens = before ++ [token] := by
  intro c token next _ isEnd fits _ ran
  obtain ⟨rest, shape⟩ := next_of_kind isEnd (inside _ fits)
  rw [advance_run shape] at ran
  cases ran
  exact ⟨[c.next], ⟨shape, rfl, rfl⟩, fits, rfl⟩

theorem advance_at {kind : Lexeme} (inside : kind ≠ .eof) :
    Takes limit (·.kind = kind) before Parser.advance fun token tokens =>
      token.kind = kind ∧ tokens = before ++ [token] :=
  advance fun _ same => same ▸ inside

theorem consume {kind : Lexeme} {what : String} (inside : kind ≠ .eof) :
    Takes limit ahead before (Parser.consume kind what) fun token tokens =>
      token.kind = kind ∧ tokens = before ++ [token] :=
  check (advance_at inside) (fail_expected what)

theorem accept {kind : Lexeme} (inside : kind ≠ .eof) :
    Takes limit ahead before (Parser.accept kind) fun found tokens =>
      if found = true then ∃ token, token.kind = kind ∧
        tokens = before ++ [token] else tokens = before := by
  refine check ?_ (.pure false rfl)
  exact (advance_at inside).bind fun token tokens taken => .pure true ⟨token, taken⟩

theorem skip_while (accepted : Lexeme → Bool) :
    Takes limit ahead before (skipWhile accepted) fun _ tokens =>
      ∃ gap, tokens = before ++ gap ∧ ∀ token ∈ gap, accepted token.kind = true := by
  intro c _ next _ _ _ _ ran
  obtain ⟨gap, took, skipped⟩ := skip_while_took accepted c
  rw [ran] at took
  exact ⟨gap, took, gap, rfl, skipped⟩

theorem ite {condition : Bool} {x' : Parse α}
    (yes : condition = true → Takes limit ahead before x gives)
    (no : condition = false → Takes limit ahead before x' gives) :
    Takes limit ahead before (if condition = true then x else x') gives := by
  cases condition with
  | true => exact yes rfl
  | false => exact no rfl

theorem pass {ps : List Passage} {tokens : List Token} (onward : ∀ c, Onward c (finalState (x c)))
    (found : Found before ps tokens) :
    Takes limit ahead tokens x fun _ later => Found before ps later := by
  intro c a next _ _ _ _ ran
  have moved := onward c
  rw [ran] at moved
  obtain ⟨taken, took⟩ := Cursor.Took.onward moved
  refine ⟨taken, took, ?_⟩
  simpa using found.append (show Apart Any [] taken from fun _ _ => trivial)

theorem skip {ps : List Passage} {tokens : List Token} (onward : ∀ c, Onward c (finalState (x c)))
    (found : Found before ps tokens)
    (rest : ∀ a later, Found before ps later → Takes limit Any later (k a) ends) :
    Takes limit ahead tokens (x >>= k) ends :=
  (pass onward found).bind rest

theorem skip_ite {condition : Bool} {x' : Parse α} {ps : List Passage} {tokens : List Token}
    (yes : ∀ c, Onward c (finalState (x c))) (no : ∀ c, Onward c (finalState (x' c)))
    (found : Found before ps tokens)
    (rest : ∀ a later, Found before ps later → Takes limit Any later (k a) ends) :
    Takes limit ahead tokens (if condition = true then x >>= k else x' >>= k) ends :=
  .ite (fun _ => skip yes found rest) fun _ => skip no found rest

theorem next {ps : List Passage} {qs : α → List Passage} {tokens : List Token}
    (finds : Finds limit x qs) (found : Found before ps tokens) :
    Takes limit ahead tokens x fun a later => Found before (ps ++ qs a) later :=
  (finds.anywhere.frame tokens).gives_mono fun _ _ ⟨_, shape, apart⟩ => shape ▸ found.append apart

theorem find {ps : List Passage} {qs : α → List Passage} {tokens : List Token}
    (finds : Finds limit x qs) (found : Found before ps tokens)
    (rest : ∀ a later, Found before (ps ++ qs a) later → Takes limit Any later (k a) ends) :
    Takes limit ahead tokens (x >>= k) ends :=
  (next finds found).bind rest

theorem find_ite {condition : Bool} {x' : Parse α} {ps : List Passage} {qs : α → List Passage}
    {tokens : List Token} (yes : Finds limit x qs) (no : Finds limit x' qs)
    (found : Found before ps tokens)
    (rest : ∀ a later, Found before (ps ++ qs a) later → Takes limit Any later (k a) ends) :
    Takes limit ahead tokens (if condition = true then x >>= k else x' >>= k) ends :=
  .ite (fun _ => find yes found rest) fun _ => find no found rest

theorem finish {start : Location} {make : Location → α} {parts : α → List Passage}
    {ps : List Passage} {tokens : List Token} (found : Found [] ps tokens)
    (parted : ∀ location, parts (make location) = ps) : Takes limit ahead tokens
      (do
        let location ← spanFrom start
        pure (make location))
      fun a later => Apart Any (parts a) later :=
  .skip (fun c => .refl c) found fun location _ found =>
    .pure _ (by simpa only [parted] using found.apart)

theorem recover {qs : α → List Passage} (finds : Finds limit x qs)
    (onward : ∀ c, Onward c (finalState (x c))) :
    Finds limit (Parser.recover x) fun result => (result.map qs).getD [] := by
  intro c result next short isEnd fits behind ran
  rw [recover_run] at ran
  cases done : x c with
  | ok a middle =>
    obtain ⟨rfl, rfl⟩ : some a = result ∧ middle = next := by simpa [done] using ran
    exact finds c a middle short isEnd fits behind done
  | error e middle =>
    obtain ⟨rfl, rfl⟩ : none = result ∧ finalState (synchronize (middle.note e)) = next := by
      simpa [done] using ran
    have moved := onward c
    rw [done] at moved
    obtain ⟨taken, took⟩ :=
      Cursor.Took.onward ((moved.trans (onward_note middle e)).trans (synchronize_onward _))
    exact ⟨taken, took, fun _ _ => trivial⟩

end Takes

section

variable {limit : Nat} {before : List Token}

theorem operands_takes {level : Level} {operand : Parse Expr}
    (reads : Takes limit Any [] operand Expr.StandsIn) (bound : Nat) {left : Expr}
    (first : left.StandsIn before) :
    Takes limit Any before (operands level operand bound left) Expr.StandsIn := by
  induction bound generalizing left before with
  | zero => exact .pure left first
  | succ bound ih =>
    refine .peek_kind fun kind => ?_
    split
    · exact .pure left first
    · rename_i op found
      have sort : binaryOp? kind = some op := (Option.filter_eq_some_iff.1 found).1
      refine .bind (.advance_at ?_) fun sign _ ⟨isSign, shape⟩ => ?_
      · rintro rfl
        cases sort
      subst shape
      refine .bind (reads.frame _) fun right _ ⟨own, shape, second⟩ => ?_
      subst shape
      rw [List.append_assoc]
      exact ih (binary_stands first (isSign ▸ sort) second)

theorem at_level_takes {level : Level} {operand : Parse Expr}
    (reads : Takes limit Any [] operand Expr.StandsIn) (bound : Nat) :
    Takes limit Any [] (atLevel level bound operand) Expr.StandsIn :=
  reads.bind fun _ _ first => operands_takes reads bound first

theorem signed_takes {operand : Parse Expr}
    (reads : Takes limit Any [] operand (Expr.ReadFrom · binaryOp?)) (bound : Nat) :
    Takes limit Any [] (signed operand bound) Expr.StandsIn := by
  have plain : ∀ {ahead}, Takes limit ahead [] operand Expr.StandsIn :=
    reads.anywhere.gives_mono fun _ _ => read_stands
  induction bound with
  | zero => exact plain
  | succ bound ih =>
    have inner (sign : Token) (op : UnaryOp) (isSign : sign.kind = op.lexeme) :
        Takes limit Any [sign] (do
          let inner ← signed operand bound
          pure (.unary op inner (sign.location.through inner.location)) :
            Parse Expr) Expr.StandsIn := by
      refine (ih.frame _).bind fun operand _ ⟨own, shape, stands⟩ => .pure _ ?_
      exact shape ▸ read_stands (unary_read isSign stands)
    refine .peek_kind fun kind => ?_
    split
    · exact .bind (.advance_at (by decide)) fun sign _ ⟨isSign, shape⟩ =>
        shape ▸ inner sign .not isSign
    · exact .bind (.advance_at (by decide)) fun sign _ ⟨isSign, shape⟩ =>
        shape ▸ inner sign .negate isSign
    · refine .bind (.advance_at (by decide)) fun sign _ ⟨isPlus, shape⟩ => ?_
      subst shape
      refine (ih.frame _).gives_mono fun e _ ⟨own, shape, signs, rest, split, plus, reads⟩ => ?_
      exact ⟨sign :: signs, rest, by rw [shape, split]; rfl,
        List.forall_mem_cons.2 ⟨isPlus, plus⟩, reads⟩
    · exact plain

theorem comma_list_takes {α : Type} {item : Parse α} {part : α → Passage}
    (reads : Takes limit Any [] item part) (bound : Nat) :
    Takes limit Any [] (commaList item bound) fun values => Apart isComma (values.map part) := by
  induction bound with
  | zero => exact .pure [] fun _ member => absurd member List.not_mem_nil
  | succ bound ih =>
    refine reads.bind fun value own given => ?_
    refine .bind (.accept (by decide)) fun more tokens taken =>
      .ite (fun found => ?_) fun missing => ?_
    · rw [if_pos found] at taken
      obtain ⟨comma, found, rfl⟩ := taken
      refine (ih.frame _).bind fun later _ ⟨rest, shape, apart⟩ => .pure _ ?_
      rw [shape, List.append_assoc]
      exact apart_cons given (apart_gap apart (List.forall_mem_singleton.2 found))
    · rw [if_neg (by simp [missing])] at taken
      subst taken
      exact .pure _ (apart_single given)

theorem items_until_takes {α : Type} {item : Parse α} {part : α → Passage} (close : Symbol)
    (reads : Takes limit Any [] item part) (bound : Nat) :
    Takes limit Any [] (itemsUntil close item bound) fun values =>
      Apart isCommaOrLineEnd (values.map part) := by
  induction bound with
  | zero => exact .pure [] fun _ member => absurd member List.not_mem_nil
  | succ bound ih =>
    refine .check (.pure [] fun _ member => absurd member List.not_mem_nil) ?_
    refine reads.anywhere.bind fun value own given => ?_
    refine .bind (.accept (by decide)) fun separated tokens taken => ?_
    obtain ⟨comma, rfl, commas⟩ : ∃ gap, tokens = own ++ gap ∧
        ∀ token ∈ gap, isCommaOrLineEnd token.kind := by
      split at taken
      · obtain ⟨comma, found, rfl⟩ := taken
        exact ⟨[comma], rfl, List.forall_mem_singleton.2 (.inl found)⟩
      · exact ⟨[], by simp [taken], fun _ member => absurd member List.not_mem_nil⟩
    refine .bind (.skip_while _) fun _ _ ⟨feeds, shape, skipped⟩ => ?_
    subst shape
    rw [List.append_assoc]
    have gap : ∀ token ∈ comma ++ feeds, isCommaOrLineEnd token.kind :=
      List.forall_mem_append.2 ⟨commas, fun token member => .inr (eq_of_beq (skipped token member))⟩
    refine .previous fun last => .ite (fun _ => ?_) fun _ =>
      .pure _ (apart_trail (apart_single given) gap)
    refine (ih.frame _).bind fun later _ ⟨rest, shape, apart⟩ => .pure _ ?_
    rw [shape, List.append_assoc]
    exact apart_cons given (apart_gap apart gap)

theorem bracketed_takes {α : Type} {item : Parse α} {part : α → Passage}
    (reads : Takes limit Any [] item part) (opening : Token) (close : Symbol) (what : String)
    (bound : Nat) (make : List α → Location → Expr) : Takes limit Any [opening]
      (do
        skipNewlines
        let items ← itemsUntil close item bound
        let _ ← consume (.symbol close) what
        let location ← spanFrom opening.location
        pure (make items location))
      fun e tokens => ∃ items location, e = make items location ∧ location.Spans tokens ∧
        Enclosed opening.kind (.symbol close) (Apart isCommaOrLineEnd (items.map part)) tokens := by
  refine .bind (.skip_while _) fun _ _ ⟨feeds, shape, skipped⟩ => ?_
  subst shape
  refine .bind ((items_until_takes close reads bound).frame _) fun items _ ⟨own, shape, apart⟩ => ?_
  subst shape
  refine .bind (.consume (by simp)) fun closing _ ⟨closes, shape⟩ => ?_
  subst shape
  refine .span_from (by simp) fun last ends => .pure _ ?_
  refine ⟨items, _, rfl, ?_, opening, feeds ++ own, closing, ?_, rfl, closes, ?_⟩
  · exact spans_through ⟨opening, rfl, rfl, rfl⟩ ends
  · simp
  · exact apart_gap apart fun token member => .inr (eq_of_beq (skipped token member))

theorem member_key_inside {key : Token} {name : String} (found : memberKey? key = some name) :
    key.kind ≠ .eof := by
  intro isEnd
  simp [memberKey?, isEnd] at found

theorem member_name_takes :
    Takes limit Any before memberName fun name tokens => ∃ word, tokens = before ++ [word] ∧
      word.NamesMember name := by
  refine .peek fun token => .ite (fun named => ?_) fun _ => .fail_expected _
  refine .bind (.advance ?_) fun word _ ⟨same, shape⟩ => .pure _ ⟨word, shape, ?_, same ▸ rfl⟩
  · rintro _ rfl isEnd
    simp [isEnd, Lexeme.isKeyword] at named
  · simpa [same] using named

end

theorem accept_as_onward (c : Cursor) : Onward c (finalState (acceptAs c)) :=
  (accept_as_tandem : Tandem 0 anything .opened .opened true _ _).onward c

theorem return_kind_onward (isSub : Bool) (c : Cursor) :
    Onward c (finalState (returnKind isSub c)) :=
  (return_kind_tandem isSub : Tandem 0 anything .settled .settled true _ _).onward c

theorem line_end_onward (c : Cursor) : Onward c (finalState (consumeNewline c)) :=
  (consume_newline_tandem : Tandem 0 anything .opened .opened false _ _).onward c

theorem separator_onward (c : Cursor) : Onward c (finalState (statementSeparator c)) :=
  (statement_separator_tandem : Tandem 0 anything .opened .opened false _ _).onward c

structure Grammar.Traced (limit : Nat) (g : Grammar) : Prop where
  bound : limit ≤ g.bound
  expression : Takes limit Any [] g.expression Expr.StandsIn
  statement : Finds limit g.statement Stmt.passages
  matched : Matched 0 g g

section

variable {limit : Nat} {before : List Token} {g : Grammar} (traced : g.Traced limit)

include traced

theorem arguments_takes :
    Takes limit Any [] (arguments g) fun values tokens => ∃ given closing,
      tokens = given ++ [closing] ∧
      closing.kind = .symbol .rightParen ∧ Apart isComma (passages values) given := by
  have closing {given : List Token} (values : List Expr)
      (apart : Apart isComma (passages values) given) : Takes limit Any given
        (do let _ ← consume (.symbol .rightParen) "')' after arguments"; pure values : Parse
          (List Expr))
        fun values tokens => ∃ given closing, tokens = given ++ [closing] ∧
          closing.kind = .symbol .rightParen ∧
          Apart isComma (passages values) given :=
    .bind (.consume (by decide)) fun closing _ ⟨closes, shape⟩ =>
      .pure _ ⟨given, closing, shape, closes, apart⟩
  refine .check (closing [] fun _ member => absurd member List.not_mem_nil).anywhere ?_
  refine .bind (comma_list_takes traced.expression g.bound) fun values given apart =>
    closing values ?_
  rwa [passages_eq_map]

-- Every index but the first has an access before it that stays open. Each takes a token at least,
-- so that there are enough rounds for all of them.
theorem indices_takes (bound less : Nat) (fewer : less ≤ limit) (enough : less ≤ bound)
    {object : Expr} {head : List Token} {sign : Token}
    (accessed : sign.kind = .symbol .leftSquare ∧ object.ReadFrom binaryOp? head ∨
      sign.kind = .symbol .comma ∧ object.OpenFrom head) :
    Takes less Any (head ++ [sign]) (indices g bound object) Expr.OpenFrom := by
  induction bound generalizing less object head sign with
  | zero =>
    obtain rfl := Nat.le_zero.1 enough
    exact fun _ _ _ short => absurd short (Nat.not_lt_zero _)
  | succ bound ih =>
    have reads := traced.expression.mono fewer (fun _ fits => fits) fun _ _ given => given
    refine (reads.frame _).bind_within fun index taken ⟨place, shape, stands⟩ => ?_
    obtain rfl := List.append_cancel_left shape
    have some : 0 < taken.length := by
      obtain ⟨signs, own, rfl, _, read⟩ := stands
      have := List.length_pos_iff.2 (read_nonempty read)
      simp only [List.length_append]
      omega
    rw [List.append_assoc]
    refine .span_from (by simp) fun last ends => ?_
    have opens := index_open accessed stands ends
    refine .bind (.accept (by decide)) fun more tokens read =>
      .ite (fun found => ?_) fun missing => .pure _ ?_
    · rw [if_pos found] at read
      obtain ⟨comma, isComma, rfl⟩ := read
      exact ih _ (by omega) (by omega) (.inr ⟨isComma, opens⟩)
    · rw [if_neg (by simp [missing])] at read
      exact read ▸ opens

theorem accesses_takes (bound : Nat) {head : Expr} (reads : head.ReadFrom binaryOp? before) :
    Takes limit Any before (accesses g bound head) (Expr.ReadFrom · binaryOp?) := by
  induction bound generalizing head before with
  | zero => exact .pure head reads
  | succ bound ih =>
    refine .peek_kind fun kind => ?_
    split
    · refine .bind (.advance_at (by decide)) fun opening _ ⟨opens, shape⟩ => ?_
      subst shape
      refine .bind ((arguments_takes traced).frame _)
        fun values _ ⟨_, shape, given, closing, own, closes, apart⟩ => ?_
      subst own shape
      rw [List.append_assoc]
      refine .span_from (by simp) fun last ends => ih ?_
      exact ⟨spans_through (starts_append (read_starts reads) _) ends, before, _, rfl, reads,
        opening, given, closing, rfl, opens, closes, apart⟩
    · refine .bind (.advance_at (by decide)) fun dot _ ⟨isDot, shape⟩ => ?_
      subst shape
      refine .bind member_name_takes fun name _ ⟨word, shape, named⟩ => ?_
      subst shape
      rw [List.append_assoc]
      refine .span_from (by simp) fun last ends => ih ?_
      exact ⟨spans_through (starts_append (read_starts reads) _) ends, before, dot, word, rfl,
        isDot, named, reads⟩
    · refine .bind (.advance_at (by decide)) fun sign _ ⟨isSign, shape⟩ => ?_
      subst shape
      refine .bind (indices_takes traced g.bound limit (Nat.le_refl _) traced.bound
        (.inl ⟨isSign, reads⟩))
        fun indexed _ opens => ?_
      refine .bind (.consume (by decide)) fun closing _ ⟨closes, shape⟩ => ?_
      subst shape
      exact ih (open_closed opens closes)
    · exact .pure head reads

theorem table_member_takes : Takes limit Any [] (tableMember g) fun m =>
    Keyed m.name m.value.StandsIn := by
  refine .peek fun key => ?_
  cases found : memberKey? key with
  | none => exact .fail_expected _
  | some name =>
    refine .bind (.advance fun _ same => same ▸ member_key_inside found) fun _ _ ⟨same, shape⟩ => ?_
    subst same shape
    refine .bind (.consume (by decide)) fun colon _ ⟨isColon, shape⟩ => ?_
    subst shape
    refine .bind (traced.expression.frame _) fun value _ ⟨own, shape, stands⟩ => ?_
    subst shape
    exact .span_from (by simp) fun last ends => .pure _ ⟨_, colon, own, rfl, found, isColon, stands⟩

theorem parameter_takes : Finds limit (parameter g) fun p => optionalPassages p.default := by
  have given : Finds limit (some <$> g.expression) optionalPassages :=
    traced.expression.map fun _ _ stands => apart_single stands
  have missing : Finds limit (pure none) optionalPassages := .pure none fun _ _ => trivial
  have kinds : Tandem 0 anything .opened .settled true typeName typeName := type_name_tandem
  refine .skip (consume_onward _ _) (found_nothing []) fun token _ found => ?_
  refine .skip (accept_onward _) found fun optional _ found => ?_
  refine .find_ite given missing found fun default _ found => ?_
  refine .skip accept_as_onward found fun typed _ found => ?_
  refine .skip_ite kinds.onward (fun c => .refl c) found fun kind _ found => ?_
  exact .finish found fun _ => rfl

theorem parameters_takes : Finds limit (parameters g) defaultPassages := by
  have list : Finds limit (commaList (parameter g) g.bound) defaultPassages :=
    (comma_list_takes (parameter_takes traced) g.bound).gives_mono fun values _ apart => by
      rw [default_passages_eq_flat_map]
      exact apart_flatten apart
  have empty : Finds limit (pure []) defaultPassages := .pure [] fun _ _ => trivial
  refine .skip (fun c => .refl c) (found_nothing []) fun closed _ found => ?_
  refine .find_ite empty list found fun values _ found => ?_
  exact .skip (consume_onward _ _) found fun _ _ found => .pure _ found.apart

theorem block_statement_takes (terminators : List Keyword) :
    Finds limit (blockStatement g terminators) Stmt.passages := by
  refine .find traced.statement (found_nothing []) fun s _ found => .peek_kind fun kind => ?_
  exact .ite (fun _ => .skip separator_onward found fun _ _ found => .pure s found.apart) fun _ =>
    .pure s found.apart

theorem block_statements_takes (terminators : List Keyword) (bound : Nat) :
    Finds limit (blockStatements g terminators bound) statementPassages := by
  induction bound with
  | zero => exact .pure [] fun _ _ => trivial
  | succ bound ih =>
    have onward := (block_statement_tandem traced.matched terminators).onward
    refine .skip (skip_while_onward _) (found_nothing []) fun _ _ found => .peek_kind fun kind => ?_
    refine .ite (fun _ => .pure [] found.apart) fun _ =>
      .ite (fun _ => .fail_expected _) fun _ => ?_
    refine .find ((block_statement_takes traced terminators).recover onward) found
      fun result _ found => ?_
    cases result with
    | none => exact (ih.next found).gives_mono fun _ _ found => found.apart
    | some statement => exact .find ih found fun later _ found => .pure _ found.apart

theorem block_takes (terminators : List Keyword) :
    Finds limit (block g terminators) Block.passages := by
  refine .previous fun last => ?_
  refine .find (block_statements_takes traced terminators g.bound) (found_nothing [])
    fun statements _ found => ?_
  exact .peek fun next => .pure _ found.apart

theorem function_literal_takes (named : Bool) :
    Takes limit (fun token => isFunctionWord token.kind = true) [] (functionLiteral g named)
      fun f tokens =>
      f.location.Spans tokens ∧
        Enclosed (.word (functionWord f.isSub)) (.word (functionTerminator f.isSub))
          (Apart Any f.passages) tokens := by
  have name : Tandem 0 anything .opened .settled true
      ((some ·.text) <$> consume .identifier "function name")
      ((some ·.text) <$> consume .identifier "function name") := (Tandem.consume (by decide)).map _
  refine .bind (.advance ?_) fun keyword _ ⟨isWord, shape⟩ => ?_
  · rintro token isWord isEnd
    rw [isEnd] at isWord
    cases isWord
  subst shape
  refine .skip_ite name.onward (fun c => .refl c) (found_nothing [keyword]) fun name _ found => ?_
  refine .skip (consume_onward _ _) found fun _ _ found => ?_
  refine .find (parameters_takes traced) found fun values _ found => ?_
  refine .skip (return_kind_onward _) found fun returns _ found => ?_
  refine .skip line_end_onward found fun _ _ found => ?_
  refine .find (block_takes traced _) found fun body tokens ⟨inner, shape, apart⟩ => ?_
  refine .bind (.consume (by simp)) fun closing _ ⟨closes, whole⟩ => ?_
  subst shape whole
  refine .span_from (by simp) fun last ends =>
    .pure _ ⟨?_, keyword, inner, closing, rfl, ?_, ?_, apart⟩
  · exact spans_through ⟨keyword, rfl, rfl, rfl⟩ ends
  · rcases function_word_cases isWord with same | same <;> simp [same, functionWord]
  · rcases function_word_cases isWord with same | same <;>
      simpa [same, functionTerminator] using closes

theorem primary_takes : Takes limit Any [] (primary g) (Expr.ReadFrom · binaryOp?) := by
  refine .peek fun token => ?_
  have first {α : Type} {k : Token → Parse α} {gives : α → Passage} (inside : token.kind ≠ .eof)
      (rest : Takes limit Any [token] (k token) gives) :
      Takes limit (· = token) [] (advance >>= k) gives := by
    refine .bind (.advance fun _ same => same ▸ inside) fun _ _ ⟨same, shape⟩ => ?_
    subst same shape
    exact rest
  have spans {tokens : List Token} {last : Token} (ends : (token :: tokens).getLast? = some last) :
      (token.location.through last.location).Spans (token :: tokens) :=
    spans_through ⟨token, rfl, rfl, rfl⟩ ends
  split
  · rename_i kind
    exact first (by simp [kind]) (.pure _ ⟨token, rfl, kind, rfl, spans_token token⟩)
  · rename_i kind
    refine first (by simp [kind]) ?_
    refine .bind (traced.expression.frame _) fun inner _ ⟨own, shape, stands⟩ => ?_
    refine .bind (.consume (by decide)) fun closing _ ⟨closes, whole⟩ => ?_
    subst shape whole
    refine .span_from (by simp) fun last ends => .pure _ ?_
    exact ⟨spans ends, token, own, closing, rfl, kind, closes, stands⟩
  · rename_i kind
    refine first (by simp [kind])
      ((bracketed_takes traced.expression token _ _ _ .array).gives_mono ?_)
    rintro _ _ ⟨elements, location, rfl, spans, enclosed⟩
    exact ⟨spans, by rwa [passages_eq_map, ← kind]⟩
  · rename_i kind
    refine first (by simp [kind])
      ((bracketed_takes (table_member_takes traced) token _ _ _ .table).gives_mono ?_)
    rintro _ _ ⟨members, location, rfl, spans, enclosed⟩
    exact ⟨spans, by rwa [member_passages_eq_map, ← kind]⟩
  · rename_i kind
    have reads := (function_literal_takes traced false).mono (Nat.le_refl _)
      (fun (next : Token) (same : next = token) => same ▸ kind ▸ rfl) fun _ _ given => given
    exact reads.bind fun function _ given => .pure _ given
  · rename_i kind
    have reads := (function_literal_takes traced false).mono (Nat.le_refl _)
      (fun (next : Token) (same : next = token) => same ▸ kind ▸ rfl) fun _ _ given => given
    exact reads.bind fun function _ given => .pure _ given
  · refine .ite (fun isLiteral => ?_) fun _ => .fail_expected _
    refine first ?_ (.pure _ ⟨token, rfl, isLiteral, rfl, spans_token token⟩)
    intro isEnd
    simp [isEnd, Parser.isLiteral] at isLiteral

theorem chain_takes : Takes limit Any [] (chain g) (Expr.ReadFrom · binaryOp?) :=
  (primary_takes traced).bind fun _ _ reads => accesses_takes traced g.bound reads

theorem expression_takes : Takes limit Any [] (expression g) Expr.StandsIn := by
  unfold expression
  iterate 7 apply at_level_takes
  exact signed_takes (chain_takes traced) g.bound

end

end Parser

end BrightScript
